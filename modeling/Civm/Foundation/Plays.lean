import Civm.Foundation.Program

/-! # Events that an outside permits

The outside permits events one after the other, and each leads to another world. -/

namespace Civm

variable {Call : Type} {Answer : Call → Type} {World : Type}

/-- The outside permits the events, and they lead from one world to another. -/
def Outside.Plays (outside : Outside Answer World) :
    World → List (Event Answer) → World → Prop
  | world, [], world' => world = world'
  | world, event :: rest, world' => outside.permits world event.call event.answer ∧
    outside.Plays (outside.after world event.call event.answer) rest world'

namespace Outside.Plays

variable {outside : Outside Answer World} {world world' : World}

theorem append {events more : List (Event Answer)} (plays : outside.Plays world (events ++ more) world') :
    ∃ between, outside.Plays world events between ∧ outside.Plays between more world' := by
  induction events generalizing world with
  | nil => exact ⟨world, rfl, plays⟩
  | cons event rest induction =>
    rcases induction plays.2 with ⟨between, first, second⟩
    exact ⟨between, ⟨plays.1, first⟩, second⟩

/-- What every step preserves. -/
theorem preserves {events : List (Event Answer)} {invariant : World → Prop}
    (plays : outside.Plays world events world')
    (step : ∀ world call answer, invariant world → outside.permits world call answer →
      invariant (outside.after world call answer))
    (holds : invariant world) : invariant world' := by
  induction events generalizing world with
  | nil => exact plays ▸ holds
  | cons event rest induction => exact induction plays.2 (step world _ _ holds plays.1)

end Outside.Plays

namespace Program

/-- Nothing is asked of a program but its result and, with `progress`, that it returns. -/
def asking (progress : Prop) : Contract Answer World where
  keeps _ _ := True
  allows _ _ _ := True
  progress := progress

variable {outside : Outside Answer World} {progress : Prop} {trace : List (Event Answer)}
variable {world : World}

theorem satisfies_asking_perform {call : Call} {next : Answer call → Program Answer α}
    {post : α → List (Event Answer) → World → Prop}
    (answered : progress → ∃ answer, outside.permits world call answer)
    (rest : ∀ answer, outside.permits world call answer →
      (next answer).Satisfies outside (asking progress) post (trace ++ [⟨call, answer⟩])
        (outside.after world call answer)) :
    (perform call >>= next).Satisfies outside (asking progress) post trace world :=
  ⟨trivial, trivial, answered, rest⟩

end Program

end Civm
