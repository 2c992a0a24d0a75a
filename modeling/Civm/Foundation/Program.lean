import Mathlib.Data.List.Infix

/-! # Programs that act on an outside and may die

A program is a tree of calls: each call is answered by the outside, and the
program continues with the answer. Nothing here mentions a particular program;
a development supplies its calls, its world and the answers the world permits. -/

namespace Civm

/-- One call together with the answer it received. -/
structure Event {Call : Type} (Answer : Call → Type) where
  call : Call
  answer : Answer call

/-- A program over the calls `Call`. `spin` is a loop that never gets past its
current iteration: it makes no further call and never returns. -/
inductive Program {Call : Type} (Answer : Call → Type) (α : Type) : Type
  | done (value : α)
  | ask (call : Call) (next : Answer call → Program Answer α)
  | spin

namespace Program

variable {Call : Type} {Answer : Call → Type} {World : Type}

def bind (program : Program Answer α) (next : α → Program Answer β) :
    Program Answer β :=
  match program with
  | .done value => next value
  | .ask call rest => .ask call fun answer => (rest answer).bind next
  | .spin => .spin

instance : Monad (Program Answer) where
  pure := .done
  bind := bind

@[simp] theorem pure_eq (value : α) :
    (pure value : Program Answer α) = .done value := rfl

@[simp] theorem done_bind (value : α) (next : α → Program Answer β) :
    (.done value : Program Answer α) >>= next = next value := rfl

@[simp] theorem ask_bind (call : Call) (rest : Answer call → Program Answer α)
    (next : α → Program Answer β) :
    .ask call rest >>= next = .ask call fun answer => rest answer >>= next := rfl

@[simp] theorem spin_bind (next : α → Program Answer β) :
    (.spin : Program Answer α) >>= next = .spin := rfl

theorem bind_done (program : Program Answer α) : program.bind .done = program := by
  induction program with
  | done value => rfl
  | ask call rest induction => exact congrArg (Program.ask call) (funext induction)
  | spin => rfl

theorem bind_bind (program : Program Answer α) (middle : α → Program Answer β)
    (final : β → Program Answer γ) :
    (program.bind middle).bind final =
      program.bind fun value => (middle value).bind final := by
  induction program with
  | done value => rfl
  | ask call rest induction => exact congrArg (Program.ask call) (funext induction)
  | spin => rfl

instance : LawfulMonad (Program Answer) := LawfulMonad.mk' _
  bind_done
  (fun _ _ => rfl)
  bind_bind

/-- The program that makes one call and returns its answer. -/
def perform (call : Call) : Program Answer (Answer call) := .ask call .done

end Program

/-! ## Growing traces -/

/-- `after` continues `before`, with `events` among the added ones, in order. -/
def Extends (before after events : List α) : Prop :=
  ∃ added, after = before ++ added ∧ events.Sublist added

namespace Extends

variable {before middle after events later : List α}

theorem refl (trace : List α) : Extends trace trace [] :=
  ⟨[], (List.append_nil _).symm, List.Sublist.slnil⟩

theorem step (trace : List α) (event : α) : Extends trace (trace ++ [event]) [event] :=
  ⟨[event], rfl, List.Sublist.refl _⟩

theorem trans (first : Extends before middle events) (second : Extends middle after later) :
    Extends before after (events ++ later) := by
  rcases first with ⟨added, rfl, among⟩
  rcases second with ⟨rest, rfl, among'⟩
  exact ⟨added ++ rest, List.append_assoc _ _ _, among.append among'⟩

theorem fewer (extends_ : Extends before after events) (fewer : later.Sublist events) :
    Extends before after later := by
  rcases extends_ with ⟨added, equal, among⟩
  exact ⟨added, equal, fewer.trans among⟩

theorem grow (trace : List α) (event : α) : Extends trace (trace ++ [event]) [] :=
  (step trace event).fewer (List.nil_sublist _)

theorem since (seen : Extends middle after events) (longer : Extends before middle []) :
    Extends before after events :=
  longer.trans seen

theorem still (seen : Extends before middle events) (longer : Extends middle after []) :
    Extends before after events :=
  (seen.trans longer).fewer (List.sublist_append_left _ _)

theorem mem {event : α} (seen : Extends before after [event]) : event ∈ after := by
  rcases seen with ⟨added, rfl, among⟩
  exact List.mem_append_right _ (among.subset (List.mem_singleton_self _))

theorem subset (longer : Extends before after events) : before ⊆ after := by
  rcases longer with ⟨added, rfl, _⟩
  exact List.subset_append_left _ _

theorem sublist (extends_ : Extends before after events) (earlier : later.Sublist before) :
    (later ++ events).Sublist after := by
  rcases extends_ with ⟨added, rfl, among⟩
  exact earlier.append among

end Extends

/-! ## The outside and the executions against it -/

/-- What a program runs against: the answers each call may receive in a world,
and the world an answer leaves behind. A call that takes effect although the
program never learns its answer is an answered call after which the program
dies. -/
structure Outside {Call : Type} (Answer : Call → Type) (World : Type) where
  permits : World → (call : Call) → Answer call → Prop
  after : World → (call : Call) → Answer call → World

variable {Call : Type} {Answer : Call → Type} {World : Type}

/-- The executions of a program from a trace and a world. `none` as result
means that the program has not returned: it was killed, or it is still on its
way. -/
inductive Execution (outside : Outside Answer World) : Program Answer α →
    List (Event Answer) → World → List (Event Answer) → World → Option α → Prop
  | died {program : Program Answer α} {trace world} :
    Execution outside program trace world trace world none
  | done {value : α} {trace world} :
    Execution outside (.done value) trace world trace world (some value)
  | ask {call : Call} {answer : Answer call} {next trace world trace' world' result} :
    outside.permits world call answer →
    Execution outside (next answer) (trace ++ [⟨call, answer⟩])
      (outside.after world call answer) trace' world' result →
    Execution outside (.ask call next) trace world trace' world' result

/-- `Reaches outside program trace world trace' world' call` says that an
execution gets to the point where `call` is about to be made. -/
inductive Reaches (outside : Outside Answer World) : Program Answer α →
    List (Event Answer) → World → List (Event Answer) → World → Call → Prop
  | here {call : Call} {next : Answer call → Program Answer α} {trace world} :
    Reaches outside (.ask call next) trace world trace world call
  | later {call target : Call} {answer : Answer call} {next trace world trace' world'} :
    outside.permits world call answer →
    Reaches outside (next answer) (trace ++ [⟨call, answer⟩])
      (outside.after world call answer) trace' world' target →
    Reaches outside (.ask call next) trace world trace' world' target

theorem Reaches.weaken {outside weaker : Outside Answer World}
    (same : weaker.after = outside.after)
    (permits : ∀ world call answer, outside.permits world call answer →
      weaker.permits world call answer)
    {program : Program Answer α} {trace trace' world world' call}
    (reached : Reaches outside program trace world trace' world' call) :
    Reaches weaker program trace world trace' world' call := by
  induction reached with
  | here => exact .here
  | later permitted _ induction => exact .later (permits _ _ _ permitted) (same ▸ induction)

namespace Execution

variable {outside : Outside Answer World}

theorem trace_prefix {program : Program Answer α} {trace trace' world world' result}
    (execution : Execution outside program trace world trace' world' result) :
    trace <+: trace' := by
  induction execution with
  | died | done => exact List.prefix_rfl
  | ask _ _ induction => exact (List.prefix_append _ _).trans induction

/-- What every permitted step preserves holds wherever the program stops. -/
theorem preserves (invariant : List (Event Answer) → World → Prop)
    (step : ∀ trace world call answer, invariant trace world →
      outside.permits world call answer →
      invariant (trace ++ [⟨call, answer⟩]) (outside.after world call answer))
    {program : Program Answer α} {trace trace' world world' result}
    (execution : Execution outside program trace world trace' world' result)
    (holds : invariant trace world) : invariant trace' world' := by
  induction execution with
  | died | done => exact holds
  | ask permitted _ induction => exact induction (step _ _ _ _ holds permitted)

theorem weaken {weaker : Outside Answer World} (same : weaker.after = outside.after)
    (permits : ∀ world call answer, outside.permits world call answer →
      weaker.permits world call answer)
    {program : Program Answer α} {trace trace' world world' result}
    (execution : Execution outside program trace world trace' world' result) :
    Execution weaker program trace world trace' world' result := by
  induction execution with
  | died => exact .died
  | done => exact .done
  | ask permitted _ induction => exact .ask (permits _ _ _ permitted) (same ▸ induction)

theorem of_done {value : α} {trace trace' world world' result}
    (execution : Execution outside (.done value) trace world trace' world' result) :
    trace' = trace ∧ world' = world := by
  cases execution <;> exact ⟨rfl, rfl⟩

theorem of_perform {call : Call} {next : Answer call → Program Answer α}
    {trace trace' world world' result}
    (execution : Execution outside (Program.perform call >>= next) trace world trace' world'
      result) :
    (trace' = trace ∧ world' = world) ∨
      ∃ answer, outside.permits world call answer ∧
        Execution outside (next answer) (trace ++ [⟨call, answer⟩])
          (outside.after world call answer) trace' world' result := by
  change Execution outside (.ask call fun answer => next answer) _ _ _ _ _ at execution
  cases execution with
  | died => exact .inl ⟨rfl, rfl⟩
  | ask permitted remaining => exact .inr ⟨_, permitted, remaining⟩

/-- An execution of a sequence either stays inside the first program or passes
through one of its results. -/
theorem bind_cases {program : Program Answer α} {next : α → Program Answer β}
    {trace trace' world world' result}
    (execution : Execution outside (program >>= next) trace world trace' world' result) :
    (result = none ∧ Execution outside program trace world trace' world' none) ∨
      ∃ value middle between,
        Execution outside program trace world middle between (some value) ∧
        Execution outside (next value) middle between trace' world' result := by
  induction program generalizing trace world with
  | done value => exact .inr ⟨value, trace, world, .done, execution⟩
  | ask call rest induction =>
    cases execution with
    | died => exact .inl ⟨rfl, .died⟩
    | ask permitted remaining =>
      rcases induction _ remaining with ⟨stopped, inside⟩ | ⟨value, middle, between, first, second⟩
      · exact .inl ⟨stopped, .ask permitted inside⟩
      · exact .inr ⟨value, middle, between, .ask permitted first, second⟩
  | spin =>
    cases execution with
    | died => exact .inl ⟨rfl, .died⟩

theorem bind {program : Program Answer α} {next : α → Program Answer β}
    {trace middle trace' world between world' value result}
    (first : Execution outside program trace world middle between (some value))
    (second : Execution outside (next value) middle between trace' world' result) :
    Execution outside (program >>= next) trace world trace' world' result := by
  induction program generalizing trace world with
  | done => cases first with | done => exact second
  | ask call rest induction =>
    cases first with
    | ask permitted remaining => exact .ask permitted (induction _ remaining)
  | spin => cases first

end Execution

/-! ## Contracts -/

/-- What is asked of a program besides its result: `keeps` holds at every
moment of every execution, `allows` holds whenever a call is made, and with
`progress` every call can be answered and no loop spins. -/
structure Contract {Call : Type} (Answer : Call → Type) (World : Type) where
  keeps : List (Event Answer) → World → Prop
  allows : List (Event Answer) → World → Call → Prop
  progress : Prop

namespace Program

variable (outside : Outside Answer World) (contract : Contract Answer World)

/-- The weakest precondition of `post` under a contract. -/
def Satisfies : Program Answer α → (α → List (Event Answer) → World → Prop) →
    List (Event Answer) → World → Prop
  | .done value, post, trace, world => post value trace world
  | .ask call next, post, trace, world =>
    contract.keeps trace world ∧ contract.allows trace world call ∧
    (contract.progress → ∃ answer, outside.permits world call answer) ∧
    ∀ answer, outside.permits world call answer →
      (next answer).Satisfies post (trace ++ [⟨call, answer⟩])
        (outside.after world call answer)
  | .spin, _, trace, world => contract.keeps trace world ∧ ¬contract.progress

variable {outside : Outside Answer World} {contract : Contract Answer World}

theorem satisfies_bind {program : Program Answer α} {next : α → Program Answer β}
    {post : β → List (Event Answer) → World → Prop} {trace world} :
    (program >>= next).Satisfies outside contract post trace world ↔
      program.Satisfies outside contract
        (fun value trace world => (next value).Satisfies outside contract post trace world)
        trace world := by
  induction program generalizing trace world with
  | done value => rfl
  | ask call rest induction => simp only [ask_bind, Satisfies, induction]
  | spin => rfl

theorem satisfies_perform {call : Call} {next : Answer call → Program Answer α}
    {post : α → List (Event Answer) → World → Prop} {trace world} :
    (perform call >>= next).Satisfies outside contract post trace world ↔
      contract.keeps trace world ∧ contract.allows trace world call ∧
      (contract.progress → ∃ answer, outside.permits world call answer) ∧
      ∀ answer, outside.permits world call answer →
        (next answer).Satisfies outside contract post (trace ++ [⟨call, answer⟩])
          (outside.after world call answer) :=
  Iff.rfl

theorem Satisfies.mono {program : Program Answer α}
    {post weaker : α → List (Event Answer) → World → Prop} {trace world}
    (satisfies : program.Satisfies outside contract post trace world)
    (implies : ∀ value trace world, post value trace world → weaker value trace world) :
    program.Satisfies outside contract weaker trace world := by
  induction program generalizing trace world with
  | done value => exact implies _ _ _ satisfies
  | ask call rest induction =>
    exact ⟨satisfies.1, satisfies.2.1, satisfies.2.2.1, fun answer permitted =>
      induction answer (satisfies.2.2.2 answer permitted)⟩
  | spin => exact satisfies

/-- A postcondition may also use that the trace has only grown. -/
theorem Satisfies.growing {program : Program Answer α}
    {post : α → List (Event Answer) → World → Prop} {trace world}
    (satisfies : program.Satisfies outside contract post trace world) :
    program.Satisfies outside contract
      (fun value trace' world' => trace <+: trace' ∧ post value trace' world') trace world := by
  induction program generalizing trace world with
  | done value => exact ⟨List.prefix_rfl, satisfies⟩
  | ask call rest induction =>
    refine ⟨satisfies.1, satisfies.2.1, satisfies.2.2.1, fun answer permitted => ?_⟩
    apply (induction answer (satisfies.2.2.2 answer permitted)).mono
    intro value trace' world' holds
    exact ⟨(List.prefix_append _ _).trans holds.1, holds.2⟩
  | spin => exact satisfies

/-- Every returned result meets the postcondition. -/
theorem Satisfies.returns {program : Program Answer α}
    {post : α → List (Event Answer) → World → Prop} {trace trace' world world' value}
    (satisfies : program.Satisfies outside contract post trace world)
    (execution : Execution outside program trace world trace' world' (some value)) :
    post value trace' world' := by
  induction program generalizing trace world with
  | done => cases execution with | done => exact satisfies
  | ask call rest induction =>
    cases execution with
    | ask permitted remaining =>
      exact induction _ (satisfies.2.2.2 _ permitted) remaining
  | spin => cases execution

/-- Whatever `keeps` says and every result entails holds wherever the program
stops. -/
theorem Satisfies.stops {program : Program Answer α}
    {post : α → List (Event Answer) → World → Prop} {trace trace' world world' result}
    (satisfies : program.Satisfies outside contract post trace world)
    (keeps : ∀ value trace world, post value trace world → contract.keeps trace world)
    (execution : Execution outside program trace world trace' world' result) :
    contract.keeps trace' world' := by
  induction program generalizing trace world with
  | done value =>
    cases execution with
    | died | done => exact keeps _ _ _ satisfies
  | ask call rest induction =>
    cases execution with
    | died => exact satisfies.1
    | ask permitted remaining =>
      exact induction _ (satisfies.2.2.2 _ permitted) remaining
  | spin => cases execution with | died => exact satisfies.1

/-- Every call that an execution gets to is an allowed one. -/
theorem Satisfies.reaches {program : Program Answer α}
    {post : α → List (Event Answer) → World → Prop} {trace trace' world world' call}
    (satisfies : program.Satisfies outside contract post trace world)
    (reached : Reaches outside program trace world trace' world' call) :
    contract.keeps trace' world' ∧ contract.allows trace' world' call := by
  induction reached with
  | here => exact ⟨satisfies.1, satisfies.2.1⟩
  | later permitted _ induction => exact induction (satisfies.2.2.2 _ permitted)

/-- Under a contract with progress some execution returns. -/
theorem Satisfies.completes {program : Program Answer α}
    {post : α → List (Event Answer) → World → Prop} {trace world}
    (satisfies : program.Satisfies outside contract post trace world)
    (progress : contract.progress) :
    ∃ value trace' world',
      Execution outside program trace world trace' world' (some value) ∧
      post value trace' world' := by
  induction program generalizing trace world with
  | done value => exact ⟨value, trace, world, .done, satisfies⟩
  | ask call rest induction =>
    rcases satisfies.2.2.1 progress with ⟨answer, permitted⟩
    rcases induction answer (satisfies.2.2.2 answer permitted) with
      ⟨value, trace', world', execution, holds⟩
    exact ⟨value, trace', world', .ask permitted execution, holds⟩
  | spin => exact absurd progress satisfies.2

end Program

/-! ## Programs with a mutable variable -/

/-- A program that also reads and writes one variable of its own. The variable
is lost when the program dies. -/
abbrev Routine {Call : Type} (Answer : Call → Type) (State α : Type) :=
  StateT State (Program Answer) α

variable (outside : Outside Answer World) (contract : Contract Answer World)

/-- The weakest precondition of `post` for a routine. -/
def Ensures (routine : Routine Answer State α)
    (post : α → State → List (Event Answer) → World → Prop)
    (state : State) (trace : List (Event Answer)) (world : World) : Prop :=
  (routine.run state).Satisfies outside contract
    (fun result trace world => post result.1 result.2 trace world) trace world

namespace Ensures

variable {outside : Outside Answer World} {contract : Contract Answer World}
variable {State : Type} {state : State} {trace : List (Event Answer)} {world : World}

theorem pure {post : α → State → List (Event Answer) → World → Prop} {value : α}
    (holds : post value state trace world) :
    Ensures outside contract (Pure.pure value : Routine Answer State α) post state trace world :=
  holds

theorem bind {routine : Routine Answer State α} {next : α → Routine Answer State β}
    {post : β → State → List (Event Answer) → World → Prop}
    (ensures : Ensures outside contract routine
      (fun value => Ensures outside contract (next value) post) state trace world) :
    Ensures outside contract (routine >>= next) post state trace world := by
  unfold Ensures
  rw [StateT.run_bind, Program.satisfies_bind]
  exact ensures

theorem mono {routine : Routine Answer State α}
    {post weaker : α → State → List (Event Answer) → World → Prop}
    (ensures : Ensures outside contract routine post state trace world)
    (implies : ∀ value state trace world,
      post value state trace world → weaker value state trace world) :
    Ensures outside contract routine weaker state trace world :=
  Program.Satisfies.mono ensures fun _ _ _ => implies _ _ _ _

/-- Sequencing through the postcondition of the first routine. -/
theorem next {routine : Routine Answer State α} {rest : α → Routine Answer State β}
    {middle : α → State → List (Event Answer) → World → Prop}
    {post : β → State → List (Event Answer) → World → Prop}
    (first : Ensures outside contract routine middle state trace world)
    (second : ∀ value state trace world, middle value state trace world →
      Ensures outside contract (rest value) post state trace world) :
    Ensures outside contract (routine >>= rest) post state trace world :=
  bind (first.mono second)

/-- Running a routine as part of a program. -/
theorem run {routine : Routine Answer State α} {rest : α × State → Program Answer β}
    {middle : α → State → List (Event Answer) → World → Prop}
    {post : β → List (Event Answer) → World → Prop}
    (first : Ensures outside contract routine middle state trace world)
    (second : ∀ value state trace world, middle value state trace world →
      (rest (value, state)).Satisfies outside contract post trace world) :
    (routine.run state >>= rest).Satisfies outside contract post trace world := by
  rw [Program.satisfies_bind]
  exact Program.Satisfies.mono first fun result _ _ => second result.1 result.2 _ _

theorem growing {routine : Routine Answer State α}
    {post : α → State → List (Event Answer) → World → Prop}
    (ensures : Ensures outside contract routine post state trace world) :
    Ensures outside contract routine
      (fun value state trace' world' => trace <+: trace' ∧ post value state trace' world')
      state trace world :=
  Program.Satisfies.growing ensures

theorem lift {program : Program Answer α}
    {post : α → State → List (Event Answer) → World → Prop}
    (satisfies : program.Satisfies outside contract
      (fun value trace world => post value state trace world) trace world) :
    Ensures outside contract (liftM program : Routine Answer State α)
      post state trace world := by
  change (program >>= fun value => Program.done (value, state)).Satisfies outside contract
    (fun result trace world => post result.1 result.2 trace world) trace world
  rw [Program.satisfies_bind]
  exact satisfies

theorem perform {call : Call}
    {post : Answer call → State → List (Event Answer) → World → Prop}
    (keeps : contract.keeps trace world) (allows : contract.allows trace world call)
    (progress : contract.progress → ∃ answer, outside.permits world call answer)
    (answered : ∀ answer, outside.permits world call answer →
      post answer state (trace ++ [⟨call, answer⟩]) (outside.after world call answer)) :
    Ensures outside contract (liftM (Program.perform call) : Routine Answer State (Answer call))
      post state trace world :=
  lift ⟨keeps, allows, progress, answered⟩

theorem get {post : State → State → List (Event Answer) → World → Prop}
    (holds : post state state trace world) :
    Ensures outside contract (MonadState.get : Routine Answer State State)
      post state trace world :=
  holds

theorem modify {post : PUnit → State → List (Event Answer) → World → Prop}
    {update : State → State} (holds : post ⟨⟩ (update state) trace world) :
    Ensures outside contract (modify update : Routine Answer State PUnit)
      post state trace world :=
  holds

end Ensures

end Civm
