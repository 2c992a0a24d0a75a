import Civm.Foundation.GoError
import Civm.Foundation.Interleaving
import Civm.Foundation.Text

/-! # The upgrade of civmctl

`selfupgrade.Run`, each access to a file a step of its own, and the files that
several upgrades at once work on. -/

namespace Civm.SelfUpgrade

abbrev Error := GoError Empty Empty

abbrev Data := List UInt8

structure Options where
  sourceDir : String
  target : String
  execute : Bool

def applyDefaults (opts : Options) : Options :=
  { opts with
    sourceDir := if opts.sourceDir = "" then "/opt/civm" else opts.sourceDir
    target := if opts.target = "" then "/usr/local/bin/civmctl" else opts.target }

structure Result where
  executed : Bool
  sourceDir : String
  target : String
  builtAt : String := ""
  verified : Bool := false
  swapped : Bool := false
  oldSize : Nat := 0
  newSize : Nat := 0
  error : Option Error := none

/-- A file is known by its number. `compile` is the part of a build before its output
is written: it tells in which pieces that will be done. -/
inductive Call
  | stat (path : String)
  | compile (sourceDir : String)
  | create (path : String)
  | write (file offset : Nat) (piece : Data)
  | verify (path : String)
  | rename (oldPath newPath : String)
  | remove (path : String)

abbrev Answer : Call → Type
  | .stat _ => Except Error Nat
  | .compile _ => Except Error (List Data)
  | .create _ => Except Error Nat
  | .write _ _ _ => Option Error
  | .verify _ => Option Error
  | .rename _ _ => Option Error
  | .remove _ => Option Error

abbrev Script := Program Answer

abbrev perform (call : Call) : Script (Answer call) := Program.perform call

/-! ## The upgrade -/

def writePieces (file : Nat) : Nat → List Data → Script (Option Error)
  | _, [] => return none
  | offset, piece :: rest => do
    match ← perform (.write file offset piece) with
    | some error => return some error
    | none => writePieces file (offset + piece.length) rest

def build (sourceDir output : String) : Script (Option Error) := do
  match ← perform (.compile sourceDir) with
  | .error error => return some error
  | .ok pieces =>
    match ← perform (.create output) with
    | .error error => return some error
    | .ok file => writePieces file 0 pieces

@[irreducible] def tmpPath (target : String) : String := Text.join (Text.dir target) ".civmctl.new"

def failResult (result : Result) (error : Error) : Result := { result with error := some error }

def fileSize (path : String) : Script Nat := do
  match ← perform (.stat path) with
  | .error _ => return 0
  | .ok size => return size

/-- The intermediate file is removed, and the upgrade fails. -/
def abandon (path : String) (result : Result) (error : Error) : Script Result := do
  let _ ← perform (.remove path)
  return failResult result error

def dryRun (opts : Options) (result : Result) : Script Result := do
  match ← perform (.stat opts.sourceDir) with
  | .error error => return failResult result (.wrap "source_dir não existe: " error "")
  | .ok _ =>
    let oldSize ← fileSize opts.target
    return { result with oldSize := oldSize }

/-- The intermediate file becomes the target. -/
def swap (path target : String) (result : Result) : Script Result := do
  match ← perform (.rename path target) with
  | some error => abandon path result (.wrap "rename: " error "")
  | none => return { result with swapped := true }

def upgrade (opts : Options) (result : Result) : Script Result := do
  let oldSize ← fileSize opts.target
  let path := tmpPath opts.target
  let result := { result with oldSize := oldSize, builtAt := path }
  match ← build opts.sourceDir path with
  | some error => abandon path result (.wrap "build: " error "")
  | none =>
  match ← perform (.verify path) with
  | some error => abandon path result (.wrap "verify built binary: " error "")
  | none =>
    let newSize ← fileSize path
    swap path opts.target { result with verified := true, newSize := newSize }

def run (opts : Options) : Script Result :=
  let opts := applyDefaults opts
  let result : Result :=
    { executed := opts.execute, sourceDir := opts.sourceDir, target := opts.target }
  if opts.execute then upgrade opts result else dryRun opts result

/-! ## The files -/

/-- What a write leaves of a file. A gap before it is filled with zeros. -/
def writeAt (data : Data) (offset : Nat) (piece : Data) : Data :=
  (data ++ List.replicate (offset - data.length) 0).take offset ++ piece ++
    data.drop (offset + piece.length)

/-- The files by their names and what is in them. `outputs` are the complete outputs of
the builds so far, `accepted` what verifications have accepted, and `busy` are the
upgrades between the creation of the intermediate file and their end. -/
structure World where
  names : String → Option Nat
  files : Nat → Data
  next : Nat
  outputs : List Data
  accepted : List Data
  busy : Nat → Bool

namespace World

variable (world : World)

def find (path : String) : Option Nat := world.names (Text.clean path)

def bind (path : String) (file : Option Nat) : World :=
  { world with names := Function.update world.names (Text.clean path) file }

def content (path : String) : Option Data := (world.find path).map world.files

end World

/-- A file that is there is truncated, otherwise a new one is created. A verification
and a rename fail without a file. -/
def permits (world : World) : (call : Call) → Answer call → Prop
  | .stat path, .ok size => (world.content path).map List.length = some size
  | .create path, .ok file => file = (world.find path).getD world.next
  | .verify path, none => (world.find path).isSome
  | .rename oldPath _, none => (world.find oldPath).isSome
  | _, _ => True

def after (world : World) (thread : Nat) : (call : Call) → Answer call → World
  | .compile _, .ok pieces => { world with outputs := world.outputs ++ [pieces.flatten] }
  | .create path, .ok file =>
    { world.bind path (some file) with
      files := Function.update world.files file []
      next := max world.next (file + 1)
      busy := Function.update world.busy thread true }
  | .write file offset piece, none =>
    { world with
      files := Function.update world.files file (writeAt (world.files file) offset piece) }
  | .verify path, none =>
    { world with accepted := world.accepted ++ (world.content path).toList }
  | .rename oldPath newPath, none =>
    { (world.bind oldPath none).bind newPath (world.find oldPath) with
      busy := Function.update world.busy thread false }
  | .remove path, none =>
    { world.bind path none with busy := Function.update world.busy thread false }
  | .remove _, some _ => { world with busy := Function.update world.busy thread false }
  | _, _ => world

def machine : Shared Answer World Nat where
  permits world _ := permits world
  after := after
  occurs _ _ := False

def upgrades (opts : Nat → Options) (world : World) : Pool Answer World Nat Result where
  world := world
  programs thread := run (opts thread)

end Civm.SelfUpgrade
