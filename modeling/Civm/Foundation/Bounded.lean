import Civm.Foundation.Frame

/-! # Programs of known calls

A program that makes only certain calls and never spins. Where all of these calls get an
answer, it returns. -/

namespace Civm

variable {Call : Type} {Answer : Call → Type} {World State : Type}

namespace Program

/-- Whatever the answers, the program makes only allowed calls and returns with `post`. -/
def Makes (allowed : Call → Prop) (post : α → Prop) : Program Answer α → Prop
  | .done value => post value
  | .ask call next => allowed call ∧ ∀ answer, (next answer).Makes allowed post
  | .spin => False

variable {program : Program Answer α} {allowed : Call → Prop} {post : α → Prop}

theorem makes_perform {call : Call} {post : Answer call → Prop} (allow : allowed call)
    (holds : ∀ answer, post answer) :
    (perform call : Program Answer (Answer call)).Makes allowed post := ⟨allow, holds⟩

theorem Makes.bind {next : α → Program Answer β} {post' : β → Prop}
    (first : program.Makes allowed post)
    (second : ∀ value, post value → (next value).Makes allowed post') :
    (program >>= next).Makes allowed post' := by
  induction program with
  | done value => exact second value first
  | ask call rest induction => exact ⟨first.1, fun answer => induction answer (first.2 answer)⟩
  | spin => exact first.elim

theorem Makes.mono {more : Call → Prop} {weaker : α → Prop} (makes : program.Makes allowed post)
    (allows : ∀ call, allowed call → more call) (implies : ∀ value, post value → weaker value) :
    program.Makes more weaker := by
  induction program with
  | done value => exact implies value makes
  | ask call next induction =>
    exact ⟨allows call makes.1, fun answer => induction answer (makes.2 answer)⟩
  | spin => exact makes.elim

theorem Makes.within {possible : (call : Call) → Answer call → Prop}
    (makes : program.Makes allowed post) : program.Within possible allowed post := by
  induction program with
  | done value => exact makes
  | ask call next induction =>
    exact ⟨makes.1, fun answer _ => induction answer (makes.2 answer)⟩
  | spin => trivial

/-- Asks only that calls are answered and that no loop spins. -/
def progressing : Contract Answer World where
  keeps _ _ := True
  allows _ _ _ := True
  progress := True

theorem Makes.progresses {outside : Outside Answer World} (makes : program.Makes allowed post)
    (answered : ∀ world call, allowed call → ∃ answer, outside.permits world call answer)
    (trace : List (Event Answer)) (world : World) :
    program.Satisfies outside progressing (fun value _ _ => post value) trace world := by
  induction program generalizing trace world with
  | done value => exact makes
  | ask call next induction =>
    exact ⟨trivial, trivial, fun _ => answered world call makes.1,
      fun answer _ => induction answer (makes.2 answer) _ _⟩
  | spin => exact makes.elim

theorem not_progressing_of_blocked {outside : Outside Answer World}
    {post : α → List (Event Answer) → World → Prop} {trace trace' world world'} {call : Call}
    (reached : Reaches outside program trace world trace' world' call)
    (blocked : ∀ answer, ¬outside.permits world' call answer) :
    ¬program.Satisfies outside progressing post trace world := by
  induction reached with
  | here =>
    intro satisfies
    rcases satisfies.2.2.1 trivial with ⟨answer, permitted⟩
    exact blocked answer permitted
  | later permitted _ induction => exact fun satisfies => induction blocked (satisfies.2.2.2 _ permitted)

end Program

namespace Routine

variable {View : Type}

/-- The same for a routine that does not change what is seen of its variable. -/
def Makes (allowed : Call → Prop) (view : State → View) (routine : Routine Answer State α) : Prop :=
  ∀ state, (routine.run state).Makes allowed fun result => view result.2 = view state

variable {routine : Routine Answer State α} {allowed : Call → Prop} {view : State → View}

theorem makes_pure (value : α) : Makes allowed view (pure value : Routine Answer State α) :=
  fun _ => rfl

theorem makes_get : Makes allowed view (get : Routine Answer State State) := fun _ => rfl

theorem makes_modify (update : State → State) (same : ∀ state, view (update state) = view state) :
    Makes allowed view (modify update : Routine Answer State PUnit) := same

theorem makes_lift {program : Program Answer α} (makes : program.Makes allowed fun _ => True) :
    Makes allowed view (liftM program : Routine Answer State α) :=
  fun _ => Program.Makes.bind makes fun _ _ => rfl

theorem makes_perform {call : Call} (allow : allowed call) :
    Makes allowed view (liftM (Program.perform call) : Routine Answer State (Answer call)) :=
  makes_lift (Program.makes_perform allow fun _ => trivial)

theorem Makes.bind {next : α → Routine Answer State β} (first : Makes allowed view routine)
    (second : ∀ value, Makes allowed view (next value)) :
    Makes allowed view (routine >>= next) := by
  intro state
  rw [StateT.run_bind]
  apply (first state).bind
  intro result same
  exact (second result.1 result.2).mono (fun _ => id) fun final later => later.trans same

end Routine

end Civm
