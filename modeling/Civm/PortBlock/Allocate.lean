import Mathlib.Data.List.Sort
import Civm.Foundation.GoError
import Civm.Foundation.Text

/-! # Blocks of ports for runner slots

The calls that `portblock.Allocate` makes, each access to a file a step of its own. -/

namespace Civm.PortBlock

inductive Sentinel
  | portWindowExhausted
  deriving DecidableEq

abbrev Error := GoError Sentinel Empty

variable {Piece : Type}

inductive Read (Piece : Type)
  | content (data : List Piece)
  | missing
  | failed (error : Error)

/-- A file is written by its creation, which empties it, and one step for each
piece. `openLock` to `close` are about the descriptor of the lock file. -/
inductive Call (Piece : Type)
  | mkdirAll (path : String)
  | openLock (path : String)
  | flock (path : String)
  | unlock (path : String)
  | close (path : String)
  | readFile (path : String)
  | create (path : String)
  | append (path : String) (piece : Piece)
  | rename (oldPath newPath : String)

abbrev Answer : Call Piece → Type
  | .readFile _ => Read Piece
  | _ => Option Error

end Civm.PortBlock
