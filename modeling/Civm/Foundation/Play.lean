import Civm.Foundation.Program

/-! # Playing a program against scripted answers

A script answers every call. Playing a program for a number of calls is an
execution of it as far as the script keeps to what the outside permits. -/

namespace Civm

variable {Call : Type} {Answer : Call → Type} {World : Type}

theorem Reaches.answered {outside : Outside Answer World} {call target : Call}
    {next : Answer call → Program Answer α} {trace trace' world world'} (answer : Answer call)
    (permitted : outside.permits world call answer)
    (reached : Reaches outside (next answer) (trace ++ [⟨call, answer⟩])
      (outside.after world call answer) trace' world' target) :
    Reaches outside (.ask call next) trace world trace' world' target :=
  .later permitted reached

theorem Execution.answered {outside : Outside Answer World} {call : Call}
    {next : Answer call → Program Answer α} {trace trace' world world' result}
    (answer : Answer call) (permitted : outside.permits world call answer)
    (execution : Execution outside (next answer) (trace ++ [⟨call, answer⟩])
      (outside.after world call answer) trace' world' result) :
    Execution outside (.ask call next) trace world trace' world' result :=
  .ask permitted execution

theorem Execution.performed {outside : Outside Answer World} {call : Call}
    {next : Answer call → Program Answer α} {trace trace' world world' result}
    (answer : Answer call) (permitted : outside.permits world call answer)
    (execution : Execution outside (next answer) (trace ++ [⟨call, answer⟩])
      (outside.after world call answer) trace' world' result) :
    Execution outside (Program.perform call >>= next) trace world trace' world' result :=
  .ask permitted execution

theorem Execution.map {outside : Outside Answer World} {program : Program Answer α}
    {trace trace' world world' result} (update : α → β)
    (execution : Execution outside program trace world trace' world' result) :
    Execution outside (program >>= fun value => Pure.pure (update value)) trace world trace' world'
      (result.map update) := by
  induction execution with
  | died => exact .died
  | done => exact .done
  | ask permitted _ induction => exact .ask permitted induction

theorem Execution.lifted {outside : Outside Answer World} {program : Program Answer α}
    {next : α → Routine Answer State β} {state : State} {value : α}
    {trace middle trace' world between world' result}
    (execution : Execution outside program trace world middle between (some value))
    (continues : Execution outside ((next value).run state) middle between trace' world' result) :
    Execution outside ((liftM program >>= next : Routine Answer State β).run state) trace world
      trace' world' result := by
  rw [StateT.run_bind]
  exact (execution.map fun value => (value, state)).bind continues

namespace Program

/-- The value of a program that has returned. -/
def value? : Program Answer α → Option α
  | .done value => some value
  | _ => none

/-- The call that a program is about to make. -/
def asks? : Program Answer α → Option Call
  | .ask call _ => some call
  | _ => none

/-- What is left of the program after at most the given number of calls, with
the trace and the world it has come to. -/
def play (after : World → (call : Call) → Answer call → World)
    (script : List (Event Answer) → World → (call : Call) → Answer call) :
    Nat → Program Answer α → List (Event Answer) → World →
      List (Event Answer) × World × Program Answer α
  | calls + 1, .ask call next, trace, world =>
    play after script calls (next (script trace world call))
      (trace ++ [⟨call, script trace world call⟩]) (after world call (script trace world call))
  | _, program, trace, world => (trace, world, program)

theorem mem_play {after : World → (call : Call) → Answer call → World}
    {script : (call : Call) → Answer call} {calls : Nat} {program : Program Answer α}
    {trace : List (Event Answer)} {world : World} {event : Event Answer}
    (member : event ∈ (program.play after (fun _ _ => script) calls trace world).1) :
    event ∈ trace ∨ event.answer = script event.call := by
  induction calls generalizing program trace world with
  | zero => cases program <;> exact .inl member
  | succ calls induction =>
    cases program with
    | done value => exact .inl member
    | ask call next =>
      rcases induction member with earlier | answered
      · rcases List.mem_append.mp earlier with old | last
        · exact .inl old
        · rw [List.mem_singleton.mp last]
          exact .inr rfl
      · exact .inr answered
    | spin => exact .inl member

section

variable {outside : Outside Answer World} {contract : Contract Answer World}

/-- A script that is permitted in the worlds to which it leads is played as an
execution. -/
theorem play_execution {script : List (Event Answer) → World → (call : Call) → Answer call}
    {sound : World → Prop}
    (permitted : ∀ trace world call, sound world →
      outside.permits world call (script trace world call) ∧
        sound (outside.after world call (script trace world call)))
    (calls : Nat) {program : Program Answer α} {trace world} (holds : sound world) :
    Execution outside program trace world
        (program.play outside.after script calls trace world).1
        (program.play outside.after script calls trace world).2.1
        (program.play outside.after script calls trace world).2.2.value? ∧
      sound (program.play outside.after script calls trace world).2.1 := by
  induction calls generalizing program trace world with
  | zero => cases program <;> first | exact ⟨.done, holds⟩ | exact ⟨.died, holds⟩
  | succ calls induction =>
    cases program with
    | done value => exact ⟨.done, holds⟩
    | ask call next =>
      rcases permitted trace world call holds with ⟨permits, continues⟩
      rcases induction continues with ⟨execution, final⟩
      exact ⟨.ask permits execution, final⟩
    | spin => exact ⟨.died, holds⟩

/-- A script that is permitted where the contract allows a call is played as an
execution, up to the call that comes next. -/
theorem Satisfies.play (script : List (Event Answer) → World → (call : Call) → Answer call)
    (calls : Nat) {program : Program Answer α}
    {post : α → List (Event Answer) → World → Prop} {trace world}
    (satisfies : program.Satisfies outside contract post trace world)
    (permitted : ∀ trace world call, contract.keeps trace world →
      contract.allows trace world call → outside.permits world call (script trace world call)) :
    Execution outside program trace world
        (program.play outside.after script calls trace world).1
        (program.play outside.after script calls trace world).2.1
        (program.play outside.after script calls trace world).2.2.value? ∧
      ∀ call, (program.play outside.after script calls trace world).2.2.asks? = some call →
        Reaches outside program trace world
          (program.play outside.after script calls trace world).1
          (program.play outside.after script calls trace world).2.1 call := by
  induction calls generalizing program trace world with
  | zero =>
    cases program with
    | done value => exact ⟨.done, nofun⟩
    | ask call next =>
      refine ⟨.died, fun asked equal => ?_⟩
      cases equal
      exact .here
    | spin => exact ⟨.died, nofun⟩
  | succ calls induction =>
    cases program with
    | done value => exact ⟨.done, nofun⟩
    | ask call next =>
      have answered := permitted trace world call satisfies.1 satisfies.2.1
      rcases induction (satisfies.2.2.2 _ answered) with ⟨execution, reached⟩
      exact ⟨.ask answered execution, fun asked equal => .later answered (reached asked equal)⟩
    | spin => exact ⟨.died, nofun⟩

end

end Program

end Civm
