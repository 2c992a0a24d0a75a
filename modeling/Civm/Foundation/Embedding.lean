import Civm.Foundation.Frame

/-! # The results of a program, also inside of another

What holds of the world in which a program returns, for programs of which only the
result matters. A program over some calls may be run by one that makes more calls
in a larger world. -/

namespace Civm.Program

variable {Call Call' : Type} {Answer : Call → Type} {Answer' : Call' → Type}
variable {World World' Rest : Type}

variable {outside : Outside Answer World} {outside' : Outside Answer' World'} {world : World}

/-- The same program over other calls. -/
def embed (into : Call → Call') (back : (call : Call) → Answer' (into call) → Answer call) :
    Program Answer α → Program Answer' α
  | .done value => .done value
  | .ask call next => .ask (into call) fun answer => (next (back call answer)).embed into back
  | .spin => .spin

end Civm.Program
