import Civm.Foundation.Program

/-! # Programs that are run again and again

A program is run against a world that it has changed before. Any of the runs may
die. -/

namespace Civm

variable {Call : Type} {Answer : Call → Type} {World : Type}

/-- The runs that lead from one world to another one, each with its events and
its result. -/
inductive Repeated (outside : Outside Answer World) (program : Program Answer α) :
    World → List (List (Event Answer) × Option α) → World → Prop
  | none {world} : Repeated outside program world [] world
  | again {start runs world trace world' result} : Repeated outside program start runs world →
    Execution outside program [] world trace world' result →
    Repeated outside program start (runs ++ [(trace, result)]) world'

end Civm
