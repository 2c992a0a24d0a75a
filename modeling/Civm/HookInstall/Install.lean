import Civm.Foundation.Embedding
import Civm.PortBlock.Allocate

/-! # The installation of the hooks

The part of `hook.Install` that writes the environment file of a runner directory. -/

namespace Civm.HookInstall

open PortBlock (Error Read)

structure InstallOptions where
  execute : Bool
  hooksDir : String
  civmctlPath : String
  runnerGlob : String
  restartRunners : Bool
  deploySourceDir : String
  skipScopedSudoers : Bool

def runnerSlot (dir : String) : String :=
  let base := Text.base dir
  let slot := Text.trimPrefix base "actions-runner-"
  if slot ≠ base ∧ slot ≠ "" then slot else base

/-! ## The steps -/

inductive Removal
  | removed
  | missing
  | failed (error : Error)

/-- `command` gives the output and the error of a command, and `port` is a call of
`portblock.Allocate`. -/
inductive Call (Piece : Type)
  | mkdirAll (path : String)
  | remove (path : String)
  | readFile (path : String)
  | writeFile (path : String) (content : List Char)
  | rename (oldPath newPath : String)
  | command (name : String) (arguments : List String)
  | glob (pattern : String)
  | port (call : PortBlock.Call Piece)

abbrev Answer {Piece : Type} : Call Piece → Type
  | .mkdirAll _ => Option Error
  | .remove _ => Removal
  | .readFile _ => Read Char
  | .writeFile _ _ => Option Error
  | .rename _ _ => Option Error
  | .command _ _ => List Char × Option Error
  | .glob _ => Except Error (List String)
  | .port call => PortBlock.Answer call

variable {Piece : Type}

abbrev Script (Piece : Type) := Program (@Answer Piece)

abbrev perform (call : Call Piece) : Script Piece (Answer call) := Program.perform call

/-! ## The environment of a runner -/

def lineKey (line : List Char) : List Char :=
  match Text.cut '=' line with
  | some (key, _) => key
  | none => line

def hookKeys : List String :=
  ["ACTIONS_RUNNER_HOOK_JOB_STARTED", "ACTIONS_RUNNER_HOOK_JOB_COMPLETED"]

def keepsLine (extra : List (String × String)) (line : List Char) : Bool :=
  Text.trimSpace (String.ofList line) != "" &&
    !(hookKeys ++ extra.map Prod.fst).contains (String.ofList (lineKey line))

def settingLine (setting : String × String) : List Char :=
  setting.1.toList ++ '=' :: setting.2.toList

def hookSettings (opts : InstallOptions) : List (String × String) :=
  [("ACTIONS_RUNNER_HOOK_JOB_STARTED", Text.join opts.hooksDir "job-started.sh"),
    ("ACTIONS_RUNNER_HOOK_JOB_COMPLETED", Text.join opts.hooksDir "job-completed.sh")]

def envLines (opts : InstallOptions) (data : List Char) (extra : List (String × String)) :
    List (List Char) :=
  (data.splitOn '\n').filter (keepsLine extra) ++ (hookSettings opts).map settingLine ++
    (extra.insertionSort fun first second => first.1 ≤ second.1).map settingLine

def writeEnv (opts : InstallOptions) (envPath : String) (extra : List (String × String))
    (data : List Char) : Script Piece (Option Error) :=
  perform (.writeFile envPath (['\n'].intercalate (envLines opts data extra) ++ ['\n']))

def upsertEnv (opts : InstallOptions) (envPath : String) (extra : List (String × String)) :
    Script Piece (Option Error) := do
  if extra.any fun setting => Text.hasPrefix setting.1 "ACTIONS_RUNNER_HOOK_" then
    return some (.text "extra must not contain ACTIONS_RUNNER_HOOK_* keys")
  else
    match ← perform (.readFile envPath) with
    | .failed error => return some error
    | .missing => writeEnv opts envPath extra []
    | .content data => writeEnv opts envPath extra data

def extraSettings (slot : String) (base : Int) : List (String × String) :=
  [("CIVM_RUNNER_SLOT", slot), ("CIVM_PORT_BASE", base.repr), ("COMPOSE_PROJECT_NAME", slot)]

end Civm.HookInstall
