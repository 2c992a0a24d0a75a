import Mathlib.Data.List.AList
import Civm.Foundation.Program
import Civm.JitDispatcher.TrustedFile
import Civm.JitDispatcher.Validation

/-! # The ledger store

`Store.Save` with its file operations one by one, and `Store.List` on whatever
directory they leave behind. -/

namespace Civm.JitDispatcher

variable {Data : Type}

abbrev Directory (Data : Type) := AList fun _ : String => File Data

structure Store (Data : Type) where
  ledgerDir : String
  codec : Codec Ledger Data

namespace Store

abbrev Entry (Data : Type) := Sigma fun _ : String => File Data

/-! ## Reading -/

def extension : String := ".json"

def maxLedger : Nat := 65536

/-- `ledgerPath`, as a name in the ledger directory. -/
def ledgerPath (requestID : String) : Except Error String :=
  if Text.isHex 64 requestID then .ok (requestID ++ extension)
  else .error (.because .invalid "request ID is invalid")

def load (store : Store Data) (directory : Directory Data) (requestID : String) :
    Except Error (Option Ledger) :=
  match ledgerPath requestID with
  | .error error => .error error
  | .ok name =>
    match readOwnerOnlyRegular store.codec.size (Text.join store.ledgerDir name)
      (directory.lookup name) maxLedger with
    | .error error => .error error
    | .ok none => .ok none
    | .ok (some data) =>
      match store.codec.decode data with
      | .error error => .error (.wrap "ledger JSON: " error "")
      | .ok ledger =>
        match validateLedger ledger requestID with
        | some error => .error error
        | none => .ok (some ledger)

def requestIDOfName (name : String) : String := Text.trimSuffix name extension

/-- One turn of the loop of `List`. -/
def loadEntry (store : Store Data) (directory : Directory Data) (entry : Entry Data) :
    Except Error Ledger :=
  if entry.2.kind = .symlink ∨ ¬Text.hasSuffix entry.1 extension then
    .error (.text "ledger directory contains an unexpected entry")
  else
    let requestID := requestIDOfName entry.1
    match store.load directory requestID with
    | .ok (some ledger) => .ok ledger
    | .ok none => .error (.text ("load ledger " ++ requestID))
    | .error error => .error (.pair (.text ("load ledger " ++ requestID)) "\n" error)

def loadAll (store : Store Data) (directory : Directory Data) :
    List (Entry Data) → Except Error (List Ledger)
  | [] => .ok []
  | entry :: rest =>
    match store.loadEntry directory entry with
    | .error error => .error error
    | .ok ledger =>
      match store.loadAll directory rest with
      | .error error => .error error
      | .ok ledgers => .ok (ledger :: ledgers)

def list (store : Store Data) (directory : Directory Data) : Except Error (List Ledger) :=
  -- `os.ReadDir` sorts by name
  let entries := directory.entries.mergeSort fun first second => first.1 ≤ second.1
  match store.loadAll directory entries with
  | .error error => .error error
  | .ok ledgers => .ok (ledgers.mergeSort fun first second => first.createdAt ≤ second.createdAt)

/-! ## Writing -/

inductive Call (Data : Type)
  | createTemp
  | chmod (name : String) (permissions : Nat)
  | write (name : String) (data : Data)
  | sync (name : String)
  | close (name : String)
  | rename (source target : String)
  | syncDirectory
  | remove (name : String)

/-- How a write turns out; one that fails may have written some of the data. -/
inductive Written (Data : Type)
  | all
  | part (data : Data) (error : Error)

abbrev Answer : Call Data → Type
  | .createTemp => Except Error String
  | .write _ _ => Written Data
  | _ => Option Error

abbrev Script (Data : Type) := Program (@Answer Data)

abbrev perform (call : Call Data) : Script Data (Answer call) := Program.perform call

/-- The deferred function of `Save`. -/
def finish (temporary : String) (error : Option Error) : Script Data (Option Error) := do
  let _ ← perform (.close temporary)
  match error with
  | none => return none
  | some error =>
    let _ ← perform (.remove temporary)
    return some error

/-- `Save` once its temporary file is complete. -/
def publish (temporary name : String) : Script Data (Option Error) := do
  match ← perform (.rename temporary name) with
  | some error => finish temporary (some (.wrap "ledger rename: " error ""))
  | none =>
  match ← perform .syncDirectory with
  | some error => finish temporary (some error)
  | none => finish temporary none

/-- `Save` from the creation of its temporary file on. -/
def fill (temporary name : String) (data : Data) : Script Data (Option Error) := do
  match ← perform (.chmod temporary 0o600) with
  | some error => finish temporary (some (.wrap "ledger chmod: " error ""))
  | none =>
  match ← perform (.write temporary data) with
  | .part _ error => finish temporary (some (.wrap "ledger write: " error ""))
  | .all =>
  match ← perform (.sync temporary) with
  | some error => finish temporary (some (.wrap "ledger fsync: " error ""))
  | none =>
  match ← perform (.close temporary) with
  | some error => finish temporary (some (.wrap "ledger close: " error ""))
  | none => publish temporary name

def save (store : Store Data) (ledger : Ledger) : Script Data (Option Error) :=
  match validateLedger ledger ledger.requestID with
  | some error => return some error
  | none =>
  match ledgerPath ledger.requestID with
  | .error error => return some error
  | .ok name =>
  match store.codec.encode ledger with
  | .error error => return some (.wrap "ledger encode: " error "")
  | .ok data => do
  match ← perform .createTemp with
  | .error error => return some (.wrap "ledger temp create: " error "")
  | .ok temporary => fill temporary name data

end Store

end Civm.JitDispatcher
