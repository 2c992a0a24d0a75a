import Civm.Foundation.Program

/-! # What a program leaves as it is

Rules for the branches of a program, and for parts of a program of which only
the calls and the result matter: whatever these calls do not touch is kept. -/

namespace Civm

variable {Call : Type} {Answer : Call → Type} {World State : Type}
variable {possible : (call : Call) → Answer call → Prop} {allowed : Call → Prop}
variable {outside : Outside Answer World} {contract : Contract Answer World}
variable {trace : List (Event Answer)} {world : World} {state : State}

/-- To be rewritten with: the condition is never evaluated. -/
theorem Program.satisfies_ite {condition : Prop} [Decidable condition]
    {first second : Program Answer α} {post : α → List (Event Answer) → World → Prop} :
    (if condition then first else second).Satisfies outside contract post trace world ↔
      (condition → first.Satisfies outside contract post trace world) ∧
        (¬condition → second.Satisfies outside contract post trace world) := by
  split
  case isTrue holds => simp [holds]
  case isFalse fails => simp [fails]

theorem Ensures.satisfies_ite {condition : Prop} [Decidable condition]
    {first second : Routine Answer State α}
    {post : α → State → List (Event Answer) → World → Prop} :
    Ensures outside contract (if condition then first else second) post state trace world ↔
      (condition → Ensures outside contract first post state trace world) ∧
        (¬condition → Ensures outside contract second post state trace world) := by
  split
  case isTrue holds => simp [holds]
  case isFalse fails => simp [fails]

/-- The same outside, as far as its answers meet a condition. -/
def Outside.limited (outside : Outside Answer World)
    (condition : World → (call : Call) → Answer call → Prop) : Outside Answer World where
  permits world call answer := outside.permits world call answer ∧ condition world call answer
  after := outside.after

theorem Execution.limited {condition : World → (call : Call) → Answer call → Prop}
    {program : Program Answer α} {trace' world' result}
    (execution : Execution outside program trace world trace' world' result)
    (holds : ∀ world call answer, outside.permits world call answer → condition world call answer) :
    Execution (outside.limited condition) program trace world trace' world' result := by
  induction execution with
  | died => exact .died
  | done => exact .done
  | ask permitted _ induction => exact .ask ⟨permitted, holds _ _ _ permitted⟩ induction

theorem Execution.unlimited {condition : World → (call : Call) → Answer call → Prop}
    {program : Program Answer α} {trace' world' result}
    (execution : Execution (outside.limited condition) program trace world trace' world' result) :
    Execution outside program trace world trace' world' result := by
  induction execution with
  | died => exact .died
  | done => exact .done
  | ask permitted _ induction => exact .ask permitted.1 induction

/-- An outside that gives any answer and keeps nothing. -/
def Outside.any : Outside Answer Unit where
  permits _ _ _ := True
  after _ _ _ := ()

/-- The events of an execution do not depend on those before them. -/
theorem Execution.shift {program : Program Answer α} {trace' world' result}
    (before : List (Event Answer))
    (execution : Execution outside program trace world trace' world' result) :
    Execution outside program (before ++ trace) world (before ++ trace') world' result := by
  induction execution with
  | died => exact .died
  | done => exact .done
  | ask permitted _ induction =>
    rw [← List.append_assoc] at induction
    exact .ask permitted induction

/-- The events that an execution has added are an execution by themselves. -/
theorem Execution.replay {program : Program Answer α} {trace' world' result}
    (execution : Execution outside program trace world trace' world' result) :
    ∃ events, trace' = trace ++ events ∧ Execution .any program [] () events () result := by
  induction execution with
  | died => exact ⟨[], (List.append_nil _).symm, .died⟩
  | done => exact ⟨[], (List.append_nil _).symm, .done⟩
  | @ask call answer _ _ _ _ _ _ _ _ induction =>
    rcases induction with ⟨events, rfl, execution⟩
    have shifted := execution.shift [⟨call, answer⟩]
    exact ⟨⟨call, answer⟩ :: events, List.append_assoc _ _ _, .ask trivial shifted⟩

/-- The answers determine what a program returns. -/
theorem Execution.deterministic {program : Program Answer α} {longer trace' trace'' world' world''}
    {value value' : α} (execution : Execution outside program trace world trace' world' (some value))
    (execution' : Execution outside program trace world trace'' world'' (some value'))
    (first : trace' <+: longer) (second : trace'' <+: longer) : value = value' := by
  induction program generalizing trace world with
  | done =>
    cases execution
    cases execution'
    rfl
  | ask call next induction =>
    cases execution with
    | @ask _ answer _ _ _ _ _ _ permitted remaining =>
    cases execution' with
    | @ask _ answer' _ _ _ _ _ _ permitted' remaining' =>
    have among := List.prefix_of_prefix_length_le (remaining.trace_prefix.trans first)
      (remaining'.trace_prefix.trans second) (by simp)
    obtain rfl : answer = answer' := by simpa using among.eq_of_length (by simp)
    exact induction answer remaining remaining'
  | spin => cases execution

namespace Program

/-- A contract may be weakened by what is known of all longer traces. -/
theorem Satisfies.since {program : Program Answer α} {weaker : Contract Answer World}
    {post : α → List (Event Answer) → World → Prop}
    (satisfies : program.Satisfies outside contract post trace world)
    (keeps : ∀ trace' world, trace <+: trace' → contract.keeps trace' world →
      weaker.keeps trace' world)
    (allows : ∀ trace' world call, trace <+: trace' → contract.allows trace' world call →
      weaker.allows trace' world call)
    (progress : weaker.progress → contract.progress) :
    program.Satisfies outside weaker post trace world := by
  induction program generalizing trace world with
  | done value => exact satisfies
  | ask call next induction =>
    refine ⟨keeps _ _ List.prefix_rfl satisfies.1, allows _ _ _ List.prefix_rfl satisfies.2.1,
      fun wanted => satisfies.2.2.1 (progress wanted), fun answer permitted => ?_⟩
    exact induction answer (satisfies.2.2.2 answer permitted)
      (fun trace' world longer => keeps trace' world ((List.prefix_append _ _).trans longer))
      fun trace' world call longer => allows trace' world call
        ((List.prefix_append _ _).trans longer)
  | spin => exact ⟨keeps _ _ List.prefix_rfl satisfies.1, fun wanted => satisfies.2 (progress wanted)⟩

/-- A postcondition may also use that the program has come to its value by the
events that it has added. -/
theorem Satisfies.replay {program : Program Answer α}
    {post : α → List (Event Answer) → World → Prop}
    (satisfies : program.Satisfies outside contract post trace world) :
    program.Satisfies outside contract
      (fun value trace' world' => (∃ events, trace' = trace ++ events ∧
        Execution .any program [] () events () (some value)) ∧ post value trace' world')
      trace world := by
  induction program generalizing trace world with
  | done value => exact ⟨⟨[], (List.append_nil _).symm, .done⟩, satisfies⟩
  | ask call next induction =>
    refine ⟨satisfies.1, satisfies.2.1, satisfies.2.2.1, fun answer permitted => ?_⟩
    refine (induction answer (satisfies.2.2.2 answer permitted)).mono ?_
    rintro value trace' world' ⟨⟨events, rfl, execution⟩, holds⟩
    have shifted := execution.shift [⟨call, answer⟩]
    exact ⟨⟨⟨call, answer⟩ :: events, List.append_assoc _ _ _, .ask trivial shifted⟩, holds⟩
  | spin => exact satisfies

/-- What every allowed step preserves holds wherever the program stops. -/
theorem Satisfies.preserves {program : Program Answer α}
    {post : α → List (Event Answer) → World → Prop}
    {invariant : List (Event Answer) → World → Prop} {trace' world' result}
    (satisfies : program.Satisfies outside contract post trace world)
    (step : ∀ trace world call answer, invariant trace world → contract.allows trace world call →
      outside.permits world call answer →
      invariant (trace ++ [⟨call, answer⟩]) (outside.after world call answer))
    (execution : Execution outside program trace world trace' world' result)
    (holds : invariant trace world) : invariant trace' world' := by
  induction execution with
  | died | done => exact holds
  | ask permitted _ induction =>
    exact induction (satisfies.2.2.2 _ permitted) (step _ _ _ _ holds satisfies.2.1 permitted)

end Program

/-! ## Programs within limits -/

namespace Program

/-- As long as all answers are possible ones, the program makes only allowed
calls, and `post` holds of what it returns. -/
def Within (possible : (call : Call) → Answer call → Prop) (allowed : Call → Prop)
    (post : α → Prop) : Program Answer α → Prop
  | .done value => post value
  | .ask call next => allowed call ∧
    ∀ answer, possible call answer → (next answer).Within possible allowed post
  | .spin => True

variable {program : Program Answer α}

theorem within_ite {condition : Prop} [Decidable condition] {first second : Program Answer α}
    {post : α → Prop} :
    (if condition then first else second).Within possible allowed post ↔
      (condition → first.Within possible allowed post) ∧
        (¬condition → second.Within possible allowed post) := by
  split
  case isTrue holds => simp [holds]
  case isFalse fails => simp [fails]

theorem within_perform {call : Call} {next : Answer call → Program Answer α} {post : α → Prop}
    (allow : allowed call)
    (continues : ∀ answer, possible call answer → (next answer).Within possible allowed post) :
    (perform call >>= next).Within possible allowed post :=
  ⟨allow, continues⟩

theorem Within.mono {post weaker : α → Prop} {more : Call → Prop}
    (within : program.Within possible allowed post) (allows : ∀ call, allowed call → more call)
    (implies : ∀ value, post value → weaker value) : program.Within possible more weaker := by
  induction program with
  | done value => exact implies value within
  | ask call next induction =>
    exact ⟨allows call within.1, fun answer able => induction answer (within.2 answer able)⟩
  | spin => trivial

theorem Within.bind {next : α → Program Answer β} {middle : α → Prop} {post : β → Prop}
    (first : program.Within possible allowed middle)
    (second : ∀ value, middle value → (next value).Within possible allowed post) :
    (program >>= next).Within possible allowed post := by
  induction program with
  | done value => exact second value first
  | ask call rest induction =>
    exact ⟨first.1, fun answer able => induction answer (first.2 answer able)⟩
  | spin => trivial

/-- What the allowed calls do not touch is known as long as the program runs. -/
theorem Within.satisfies {post : α → Prop} {knows : List (Event Answer) → World → Prop}
    (within : program.Within possible allowed post)
    (step : ∀ trace world call answer, knows trace world → allowed call →
      outside.permits world call answer → possible call answer ∧
        knows (trace ++ [⟨call, answer⟩]) (outside.after world call answer))
    (keeps : ∀ trace world, knows trace world → contract.keeps trace world)
    (allows : ∀ trace world call, knows trace world → allowed call →
      contract.allows trace world call)
    (partial_ : ¬contract.progress) (known : knows trace world) :
    program.Satisfies outside contract (fun value trace world => post value ∧ knows trace world)
      trace world := by
  induction program generalizing trace world with
  | done value => exact ⟨within, known⟩
  | ask call next induction =>
    refine ⟨keeps _ _ known, allows _ _ _ known within.1, fun wanted => absurd wanted partial_,
      fun answer permitted => ?_⟩
    rcases step _ _ _ _ known within.1 permitted with ⟨able, known⟩
    exact induction answer (within.2 answer able) known
  | spin => exact ⟨keeps _ _ known, partial_⟩

/-- What the program returns, if all answers are possible ones. -/
theorem Within.returns {post : α → Prop} {trace' world' value}
    (within : program.Within possible allowed post)
    (able : ∀ world call answer, outside.permits world call answer → possible call answer)
    (execution : Execution outside program trace world trace' world' (some value)) : post value := by
  induction program generalizing trace world with
  | done => cases execution with | done => exact within
  | ask call next induction =>
    cases execution with
    | ask permitted remaining =>
      exact induction _ (within.2 _ (able _ _ _ permitted)) remaining
  | spin => cases execution

/-- Where the allowed calls change nothing, the program runs as it does
elsewhere. -/
theorem Within.transfer {World' : Type} {other : Outside Answer World'} {start : World'}
    {post : α → Prop} {trace' world' result} (within : program.Within possible allowed post)
    (able : ∀ world call answer, outside.permits world call answer → possible call answer)
    (still : ∀ call answer, allowed call →
      other.permits start call answer ∧ other.after start call answer = start)
    (execution : Execution outside program trace world trace' world' result) :
    Execution other program trace start trace' start result := by
  induction execution with
  | died => exact .died
  | done => exact .done
  | @ask call answer _ _ _ _ _ _ permitted _ induction =>
    rcases still call answer within.1 with ⟨permitted', unchanged⟩
    refine .ask permitted' ?_
    rw [unchanged]
    exact induction (within.2 _ (able _ _ _ permitted))

theorem Within.execution {post : α → Prop} {added world' result}
    (within : program.Within possible allowed post)
    (execution : Execution outside program trace world (trace ++ added) world' result)
    (able : ∀ event ∈ added, possible event.call event.answer) :
    ∀ event ∈ added, allowed event.call := by
  induction program generalizing trace world added with
  | done value =>
    have nothing : added = [] := by simpa using execution.of_done.1
    simp [nothing]
  | ask call next induction =>
    rcases execution.of_perform with ⟨nothing, _⟩ | ⟨answer, permitted, remaining⟩
    · have nothing : added = [] := by simpa using nothing
      simp [nothing]
    · rcases remaining.trace_prefix with ⟨later, grown⟩
      obtain rfl : added = ⟨call, answer⟩ :: later := by simpa using grown.symm
      rw [List.forall_mem_cons] at able ⊢
      have split : trace ++ ⟨call, answer⟩ :: later = trace ++ [⟨call, answer⟩] ++ later := by simp
      rw [split] at remaining
      exact ⟨within.1, induction answer (within.2 answer able.1) remaining able.2⟩
  | spin =>
    have nothing : added = [] := by
      generalize whole : trace ++ added = final at execution
      cases execution with
      | died => simpa using whole
    simp [nothing]

end Program

namespace Routine

/-- The same for a routine, whatever its variable holds. -/
def Within (possible : (call : Call) → Answer call → Prop) (allowed : Call → Prop)
    (post : α → Prop) (routine : Routine Answer State α) : Prop :=
  ∀ state, (routine.run state).Within possible allowed fun result => post result.1

variable {routine : Routine Answer State α} {post : α → Prop}

theorem within_ite {condition : Prop} [Decidable condition] {first second : Routine Answer State α} :
    Within possible allowed post (if condition then first else second) ↔
      (condition → Within possible allowed post first) ∧
        (¬condition → Within possible allowed post second) := by
  split
  case isTrue holds => simp [holds]
  case isFalse fails => simp [fails]

theorem within_pure {value : α} (holds : post value) :
    Within possible allowed post (pure value : Routine Answer State α) :=
  fun _ => holds

theorem within_modify {update : State → State} :
    Within possible allowed (fun _ => True) (modify update : Routine Answer State PUnit) :=
  fun _ => trivial

theorem Within.bind {next : α → Routine Answer State β} {post' : β → Prop}
    (first : Within possible allowed post routine)
    (second : ∀ value, post value → Within possible allowed post' (next value)) :
    Within possible allowed post' (routine >>= next) := by
  intro state
  rw [StateT.run_bind]
  exact (first state).bind fun result holds => second result.1 holds result.2

theorem within_lift {program : Program Answer α} (within : program.Within possible allowed post) :
    Within possible allowed post (liftM program : Routine Answer State α) := by
  intro state
  change (program >>= fun value => Program.done (value, state)).Within possible allowed _
  exact within.bind fun value holds => holds

theorem within_perform {call : Call} {next : Answer call → Routine Answer State α}
    (allow : allowed call)
    (continues : ∀ answer, possible call answer → Within possible allowed post (next answer)) :
    Within possible allowed post (liftM (Program.perform call) >>= next) :=
  fun state => ⟨allow, fun answer able => continues answer able state⟩

end Routine

end Civm
