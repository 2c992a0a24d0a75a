import Civm.JitDispatcher.Types

/-! # Owner-only files

Files as `readOwnerOnlyRegular` looks at them, and the encoding of the values
kept in them. What is written in a file is left abstract: `Data` may be any type
with a size and an encoding that can be read back. -/

namespace Civm.JitDispatcher

inductive FileKind
  | regular
  | symlink
  | other
  deriving DecidableEq

structure File (Data : Type) where
  kind : FileKind
  permissions : Nat
  /-- Whether the file belongs to the current user. -/
  owned : Bool
  data : Data

/-- `encoding/json` with the strict decoder, as far as a value is read back
from what was written for it. -/
structure Codec (Value Data : Type) where
  empty : Data
  size : Data → Nat
  encode : Value → Except Error Data
  decode : Data → Except Error Value
  size_empty : size empty = 0
  size_encode : ∀ {value data}, encode value = .ok data → size data ≠ 0
  decode_encode : ∀ {value data}, encode value = .ok data → decode data = .ok value

/-- `readOwnerOnlyRegular` of a path, given what is there. -/
def readOwnerOnlyRegular (size : Data → Nat) (path : String) (file : Option (File Data))
    (maxBytes : Nat) : Except Error (Option Data) :=
  if maxBytes = 0 then .error (.because .invalid "file size limit is invalid")
  else
    match file with
    | none => .ok none
    | some file =>
      if file.kind = .symlink then .error (.text ("symlink component is forbidden: " ++ path))
      else if file.kind ≠ .regular ∨ file.permissions &&& 0o077 ≠ 0 ∨ ¬file.owned then
        .error (.text "file is not an owner-only regular file")
      else if size file.data = 0 ∨ size file.data > maxBytes then
        .error (.text "file size is invalid")
      else .ok (some file.data)

/-- A file as the dispatcher itself writes it. -/
def File.ownerOnly (data : Data) : File Data where
  kind := .regular
  permissions := 0o600
  owned := true
  data := data

theorem readOwnerOnlyRegular_ownerOnly {size : Data → Nat} {path : String} {data : Data}
    {maxBytes : Nat} (limit : maxBytes ≠ 0) :
    readOwnerOnlyRegular size path (some (.ownerOnly data)) maxBytes =
      if size data = 0 ∨ size data > maxBytes then .error (.text "file size is invalid")
      else .ok (some data) := by
  simp [readOwnerOnlyRegular, File.ownerOnly, limit]

end Civm.JitDispatcher
