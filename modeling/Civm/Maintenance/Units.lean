import Civm.Foundation.Words

/-! # Runner units

The names of the systemd units of the runners, as they are listed, taken apart
and put together again. -/

namespace Civm.Maintenance

/-- What `Enter` changed for one runner. -/
structure RunnerState where
  name : String
  /-- `owner/repo`, or the bare organization of an organization's runner. -/
  repo : String
  runnerID : Int := 0
  stopped : Bool := false
  labelRemoved : Bool := false
  deriving DecidableEq

structure RunnerRef where
  unit : String
  name : String
  repo : String
  deriving DecidableEq

def orgRunnerNameSuffix : String := "-org"

/-- The field of a line of `systemctl list-units` behind the mark of its state. -/
def unmarkedField (line : String) : List Char :=
  match Text.fields line.toList with
  | [] => []
  | mark :: unit :: _ => if mark = ['●'] ∨ mark = ['○'] ∨ mark = ['*'] then unit else mark
  | [unit] => unit

/-- The unit of a line of `systemctl list-units`, if it is a runner's. -/
def firstUnitField (line : String) : String :=
  let candidate := String.ofList (unmarkedField line)
  if Text.hasPrefix candidate "actions.runner." && Text.hasSuffix candidate ".service" then
    candidate
  else ""

/-- The repository and the name of the runner of a unit. -/
def parseRunnerUnit (unit : String) : String × String :=
  if !Text.hasPrefix unit "actions.runner." || !Text.hasSuffix unit ".service" then ("", "")
  else
    let rest := (Text.trimSuffix (Text.trimPrefix unit "actions.runner.") ".service").toList
    match Text.cutLast '.' rest with
    | none => (String.ofList rest, "")
    | some (repoSegment, name) =>
      match Text.cut '-' repoSegment with
      | none => (String.ofList repoSegment, String.ofList name)
      | some (owner, repo) => (String.ofList (owner ++ '/' :: repo), String.ofList name)

def runnerUnitName (runner : RunnerState) : String :=
  let repoSegment := String.ofList (Text.replaceFirst '/' '-' runner.repo.toList)
  if repoSegment = "" then "actions.runner." ++ runner.name ++ ".service"
  else "actions.runner." ++ repoSegment ++ "." ++ runner.name ++ ".service"

def RunnerRef.ofUnit (unit : String) : RunnerRef :=
  let (repo, name) := parseRunnerUnit unit
  { unit := unit, name := if name = "" then unit else name, repo := repo }

/-- What is recorded for a runner before anything is done to it. -/
def RunnerRef.untouched (ref : RunnerRef) : RunnerState where
  name := ref.name
  repo := ref.repo

/-- The unit that is restored for a runner recorded under this unit. -/
def restoredUnit (unit : String) : String := runnerUnitName (RunnerRef.ofUnit unit).untouched

section

variable {segment owner repo name : List Char}

theorem parseRunnerUnit_parts (noDot : '.' ∉ name) :
    parseRunnerUnit ("actions.runner." ++ String.ofList (segment ++ '.' :: name) ++ ".service") =
      match Text.cut '-' segment with
      | none => (String.ofList segment, String.ofList name)
      | some (owner, repo) => (String.ofList (owner ++ '/' :: repo), String.ofList name) := by
  rw [parseRunnerUnit, String.append_assoc, Text.hasPrefix_append, Text.trimPrefix_append,
    Text.trimSuffix_append, ← String.append_assoc, Text.hasSuffix_append]
  simp only [Bool.not_true, Bool.or_self, Bool.false_eq_true, if_false, String.toList_ofList]
  rw [Text.cutLast_append noDot]

theorem parseRunnerUnit_dashed (noDash : '-' ∉ owner) (noDot : '.' ∉ name) :
    parseRunnerUnit ("actions.runner." ++ String.ofList (owner ++ '-' :: repo ++ '.' :: name) ++
      ".service") = (String.ofList (owner ++ '/' :: repo), String.ofList name) := by
  rw [parseRunnerUnit_parts noDot, Text.cut_append noDash]

end

example : restoredUnit "actions.runner.solo.service" ≠ "actions.runner.solo.service" := by decide

def repoAllowSet (repos : List String) : List String :=
  (repos.map Text.trimSpace).filter (· ≠ "")

def runnerAllowed (runner : RunnerRef) (allow : List String) : Bool :=
  if runner.repo ∈ allow then true
  else if runner.repo = "" || !Text.hasSuffix runner.name orgRunnerNameSuffix then false
  else allow.any fun repo => Text.hasPrefix repo (runner.repo ++ "/")

/-- The runners of the output of `systemctl list-units`, each once. -/
def runnersOf (repos : List String) (output : String) : List RunnerRef :=
  let units := ((output.toList.splitOn '\n').map fun line => firstUnitField (String.ofList line))
  let refs := (units.filter (· ≠ "")).map RunnerRef.ofUnit
  let allow := repoAllowSet repos
  let allowed := refs.filter fun ref => allow.isEmpty || runnerAllowed ref allow
  (allowed.eraseDups).mergeSort fun first second => first.unit ≤ second.unit

end Civm.Maintenance
