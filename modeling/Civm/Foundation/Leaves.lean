import Civm.Foundation.Program

/-! # The events that a program leaves behind

A postcondition on the events that a program adds to the trace, for programs of
which nothing else matters: neither the world nor the trace before them. -/

namespace Civm

variable {Call : Type} {Answer : Call → Type} {World : Type}
variable {possible : (call : Call) → Answer call → Prop}

namespace Program

/-- Whenever the program returns, `post` holds of its value and of the events
it added, if all answers are possible ones. -/
def Leaves (possible : (call : Call) → Answer call → Prop) :
    Program Answer α → (α → List (Event Answer) → Prop) → Prop
  | .done value, post => post value []
  | .ask call next, post => ∀ answer, possible call answer →
    (next answer).Leaves possible fun value events => post value (⟨call, answer⟩ :: events)
  | .spin, _ => True

theorem Leaves.mono {program : Program Answer α} {post weaker : α → List (Event Answer) → Prop}
    (leaves : program.Leaves possible post)
    (implies : ∀ value events, post value events → weaker value events) :
    program.Leaves possible weaker := by
  induction program generalizing post weaker with
  | done value => exact implies _ _ leaves
  | ask call next induction =>
    intro answer permitted
    exact induction answer (leaves answer permitted) fun _ _ => implies _ _
  | spin => trivial

theorem leaves_any (program : Program Answer α) : program.Leaves possible fun _ _ => True := by
  induction program with
  | done value => trivial
  | ask call next induction => exact fun answer _ => induction answer
  | spin => trivial

theorem Leaves.bind {program : Program Answer α} {next : α → Program Answer β}
    {middle : α → List (Event Answer) → Prop} {post : β → List (Event Answer) → Prop}
    (first : program.Leaves possible middle)
    (second : ∀ value events, middle value events →
      (next value).Leaves possible fun result more => post result (events ++ more)) :
    (program >>= next).Leaves possible post := by
  induction program generalizing middle post with
  | done value => exact second value [] first
  | ask call rest induction =>
    intro answer permitted
    exact induction answer (first answer permitted) fun value events holds =>
      second value (⟨call, answer⟩ :: events) holds
  | spin => trivial

theorem leaves_perform {call : Call} {next : Answer call → Program Answer α}
    {post : α → List (Event Answer) → Prop} :
    (perform call >>= next).Leaves possible post ↔ ∀ answer, possible call answer →
      (next answer).Leaves possible fun value events => post value (⟨call, answer⟩ :: events) :=
  Iff.rfl

theorem Leaves.returns {outside : Outside Answer World} {program : Program Answer α}
    {post : α → List (Event Answer) → Prop} {trace trace' world world' value}
    (leaves : program.Leaves possible post)
    (permitted : ∀ world call answer, outside.permits world call answer → possible call answer)
    (execution : Execution outside program trace world trace' world' (some value)) :
    ∃ added, trace' = trace ++ added ∧ post value added := by
  induction program generalizing trace world post with
  | done => cases execution with | done => exact ⟨[], (List.append_nil _).symm, leaves⟩
  | ask call next induction =>
    cases execution with
    | ask answered remaining =>
      rcases induction _ (leaves _ (permitted _ _ _ answered)) remaining with
        ⟨added, rfl, holds⟩
      exact ⟨_ :: added, List.append_assoc _ _ _, holds⟩
  | spin => cases execution

end Program

namespace Routine

variable {State : Type}

/-- The same for a routine, whatever its variable holds. -/
def Leaves (possible : (call : Call) → Answer call → Prop) (routine : Routine Answer State α)
    (post : α → List (Event Answer) → Prop) : Prop :=
  ∀ state, (routine.run state).Leaves possible fun result events => post result.1 events

theorem leaves_pure {post : α → List (Event Answer) → Prop} {value : α} (holds : post value []) :
    Leaves possible (pure value : Routine Answer State α) post :=
  fun _ => holds

theorem leaves_any (routine : Routine Answer State α) :
    Leaves possible routine fun _ _ => True :=
  fun state => Program.leaves_any (routine.run state)

theorem Leaves.bind {routine : Routine Answer State α} {next : α → Routine Answer State β}
    {middle : α → List (Event Answer) → Prop} {post : β → List (Event Answer) → Prop}
    (first : Leaves possible routine middle)
    (second : ∀ value events, middle value events →
      Leaves possible (next value) fun result more => post result (events ++ more)) :
    Leaves possible (routine >>= next) post := by
  intro state
  rw [StateT.run_bind]
  exact (first state).bind fun result events holds => second result.1 events holds result.2

theorem leaves_lift {program : Program Answer α} {post : α → List (Event Answer) → Prop}
    (leaves : program.Leaves possible post) :
    Leaves possible (liftM program : Routine Answer State α) post := by
  intro state
  change (program >>= fun value => Program.done (value, state)).Leaves possible _
  refine leaves.bind fun value events holds => ?_
  rw [Program.Leaves, List.append_nil]
  exact holds

theorem leaves_perform {call : Call} {next : Answer call → Routine Answer State α}
    {post : α → List (Event Answer) → Prop}
    (answered : ∀ answer, possible call answer →
      Leaves possible (next answer) fun value events => post value (⟨call, answer⟩ :: events)) :
    Leaves possible (liftM (Program.perform call) >>= next) post :=
  fun state answer permitted => answered answer permitted state

end Routine

end Civm
