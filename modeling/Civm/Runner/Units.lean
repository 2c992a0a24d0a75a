import Civm.Foundation.Text

/-! # Runner services

The systemd services of the runners as `runner.List` reads them, and the runners
that collide with a runner of their organization. -/

namespace Civm.Runner

/-- One service. The organization and the working directory are filled in by the
watchdog. -/
structure Status where
  unitName : String
  repo : String
  org : String := ""
  name : String
  loadState : String
  activeState : String
  subState : String
  workingDirectory : String := ""
  deriving DecidableEq

def Status.running (status : Status) : Bool :=
  status.activeState = "active" && status.subState = "running"

/-- The repository and the name of the runner of a unit. -/
def parseRunnerUnit (unit : String) : String × String :=
  if !Text.hasPrefix unit "actions.runner." then ("", "")
  else
    let rest := (Text.trimSuffix (Text.trimPrefix unit "actions.runner.") ".service").toList
    match Text.cutLast '.' rest with
    | none => (String.ofList rest, "")
    | some (repoSegment, name) =>
      match Text.cut '-' repoSegment with
      | none => (String.ofList repoSegment, String.ofList name)
      | some (owner, repo) => (String.ofList (owner ++ '/' :: repo), String.ofList name)

/-- One line of `systemctl list-units`. -/
def parseLine (line : String) : Option Status :=
  let line := (Text.trimSpace line).toList.dropWhile fun char => ['●', '○', ' '].contains char
  match (Text.fields line).map String.ofList with
  | unit :: load :: active :: sub :: _ =>
    let (repo, name) := parseRunnerUnit unit
    some {
      unitName := unit
      repo := repo
      name := name
      loadState := load
      activeState := active
      subState := sub }
  | _ => none

def parseSystemctlList (stdout : String) : List Status :=
  (stdout.toList.splitOn '\n').filterMap fun line => parseLine (String.ofList line)

/-! ## Collisions -/

/-- A runner of a repository that a runner of its organization makes redundant. -/
structure Collision where
  repoUnit : String
  repoName : String
  repo : String
  owner : String
  orgUnit : String
  orgName : String
  repoActive : Bool
  deriving DecidableEq

def isOrgRunner (status : Status) : Bool :=
  Text.hasSuffix status.name "-org" && status.repo ≠ "" && !status.repo.toList.contains '/'

def isGateRunner (status : Status) : Bool := Text.hasSuffix status.name "-gate"

/-- The owner of `owner/repo`, or nothing. -/
def repoOwner (status : Status) : String :=
  match Text.cut '/' status.repo.toList with
  | none => ""
  | some (owner, _) => String.ofList owner

/-- The first runner of an organization. -/
def orgRunnerOf (units : List Status) (owner : String) : Option Status :=
  units.find? fun unit => !isGateRunner unit && isOrgRunner unit && unit.repo = owner

def collisionOf (units : List Status) (unit : Status) : Option Collision :=
  if isGateRunner unit || isOrgRunner unit || repoOwner unit = "" then none
  else
    (orgRunnerOf units (repoOwner unit)).map fun org => {
      repoUnit := unit.unitName
      repoName := unit.name
      repo := unit.repo
      owner := repoOwner unit
      orgUnit := org.unitName
      orgName := org.name
      repoActive := unit.running }

def detectCollisions (units : List Status) : List Collision :=
  (units.filterMap (collisionOf units)).mergeSort fun first second =>
    first.repoUnit ≤ second.repoUnit

end Civm.Runner
