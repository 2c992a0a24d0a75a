import Civm.Foundation.Program

/-! # Programs in a determined world

A world that answers every call in one way. A program then has one result and
leaves one world behind. -/

namespace Civm

variable {Call : Type} {Answer : Call → Type} {World : Type}

/-- The answer to a call and the world after it. -/
structure Responder {Call : Type} (Answer : Call → Type) (World : Type) where
  answer : World → (call : Call) → Answer call
  after : World → Call → World

namespace Program

variable (responder : Responder Answer World)

def run : Program Answer α → World → Option (α × World)
  | .done value, world => some (value, world)
  | .ask call next, world =>
    (next (responder.answer world call)).run (responder.after world call)
  | .spin, _ => none

variable {responder}

@[simp] theorem run_done (value : α) (world : World) :
    (.done value : Program Answer α).run responder world = some (value, world) := rfl

theorem run_bind (program : Program Answer α) (next : α → Program Answer β) (world : World) :
    (program >>= next).run responder world =
      (program.run responder world).bind fun result => (next result.1).run responder result.2 := by
  induction program generalizing world with
  | done value => rfl
  | ask call rest induction => exact induction _ _
  | spin => rfl

theorem run_perform (call : Call) (next : Answer call → Program Answer α) (world : World) :
    (perform call >>= next).run responder world =
      (next (responder.answer world call)).run responder (responder.after world call) := rfl

theorem run_next {program : Program Answer α} {next : α → Program Answer β} {world world' : World}
    {value : α} (first : program.run responder world = some (value, world')) :
    (program >>= next).run responder world = (next value).run responder world' := by
  rw [run_bind, first]
  rfl

end Program

namespace Routine

variable {responder : Responder Answer World} {State : Type} {state : State} {world : World}

theorem run_perform (call : Call) (next : Answer call → Routine Answer State α) :
    ((liftM (Program.perform call) >>= next : Routine Answer State α).run state).run responder
        world =
      ((next (responder.answer world call)).run state).run responder
        (responder.after world call) := rfl

theorem run_modify (update : State → State) (next : PUnit → Routine Answer State α) :
    ((modify update >>= next : Routine Answer State α).run state).run responder world =
      ((next ⟨⟩).run (update state)).run responder world := rfl

theorem run_next {routine : Routine Answer State α} {next : α → Routine Answer State β}
    {state' : State} {world' : World} {value : α}
    (first : (routine.run state).run responder world = some ((value, state'), world')) :
    ((routine >>= next : Routine Answer State β).run state).run responder world =
      ((next value).run state').run responder world' := by
  rw [StateT.run_bind]
  exact Program.run_next first

theorem run_lift {program : Program Answer α} {next : α → Routine Answer State β}
    {world' : World} {value : α} (first : program.run responder world = some (value, world')) :
    ((liftM program >>= next : Routine Answer State β).run state).run responder world =
      ((next value).run state).run responder world' := by
  apply run_next
  rw [StateT.run_monadLift]
  exact Program.run_next first

end Routine

end Civm
