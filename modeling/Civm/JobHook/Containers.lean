import Civm.CacheTrim.Trim
import Civm.Foundation.Embedding
import Civm.Hook.JobHook
import Civm.HostDisk.Check
import Civm.Runner.Rerun

/-! # The containers of a job

What a hook does about docker. All of it is done as far as it works: a failed command
leaves a warning. -/

namespace Civm.JobHook

open Hook (Action)

/-! ## The calls of a hook -/

structure Options extends Hook.Options where
  hardFailPct : Int
  filesystemPath : String
  runID : String
  composeProject : String
  logPath : String
  now : Int
  /-- `$HOME`. -/
  home : String

inductive Decision
  | ok
  | cleanupApplied
  | rejected
  | error
  | cleanupDegraded
  deriving DecidableEq

structure Result where
  event : Hook.Event
  decision : Decision := .ok
  exitCode : Int := 0
  repository : String
  runID : String
  diskUsedPct : Int := 0
  workRoot : String
  actions : List Action := []
  error : String := ""
  hostLevel : Option HostDisk.Level := none
  hostVFreeGB : Int := 0

inductive Call
  | statfs (path : String)
  | hostDisk
  | activities
  | command (name : String) (arguments : List String)
  | roots (call : Hook.Call)
  | caches (call : CacheTrim.Call)
  | logDirectory (path : String)
  | openLog (path : String)
  | log (path : String) (result : Result)

/-- The answers. A command tells its output, and the log whether the line has been
written: the hook does not look at that. -/
abbrev Answer : Call → Type
  | .statfs _ => Except String (UInt64 × UInt64)
  | .hostDisk => HostDisk.Report
  | .activities => Option (List Runner.Activity)
  | .command _ _ => Except String String
  | .roots call => Hook.Answer call
  | .caches call => CacheTrim.Answer call
  | .logDirectory _ => Option String
  | .openLog _ => Option String
  | .log _ _ => Bool

abbrev Script := Program Answer

abbrev perform (call : Call) : Script (Answer call) := Program.perform call

/-- The part of a hook that works on its roots. -/
def onRoots (script : Hook.Script α) : Script α := script.embed .roots fun _ answer => answer

def onCaches (script : CacheTrim.Script α) : Script α :=
  script.embed .caches fun _ answer => answer

/-! ## Actions -/

def warned (action : Action) (warning : String) : Action :=
  { action with warning := some (.text warning) }

/-- The action with a warning so far. -/
def noted (action : Action) (warning : String) : Action :=
  if warning = "" then action else warned action warning

def commandActionWarn (opts : Options) (actionName name : String) (arguments : List String) :
    Script Action :=
  let action := Action.named actionName "" opts.execute
  if opts.execute then do
    match ← perform (.command name arguments) with
    | .error text => return warned action text
    | .ok _ => return action
  else return action

def words (value : String) : List String := (Text.fields value.toList).map String.ofList

def lines (value : String) : List String := (value.toList.splitOn '\n').map String.ofList

/-! ## Containers of this runner -/

def mountsFormat : String :=
  "\x7b\x7b.Id\x7d\x7d\x7b\x7brange .Mounts\x7d\x7d \x7b\x7b.Source\x7d\x7d\x7b\x7bend\x7d\x7d"

def isUnder (root source : String) : Bool :=
  Text.clean source = Text.clean root ||
    Text.hasPrefix (Text.clean source ++ "/") (Text.clean root ++ "/")

/-- The container of a line, if it mounts something under the root. -/
def mountedUnder (root line : String) : Option String :=
  match words line with
  | container :: sources => if sources.any (isUnder root) then some container else none
  | [] => none

def killWorkRootContainers (opts : Options) (root : String) : Script Action :=
  let action := Action.named "docker_kill_workroot" root opts.execute
  if ¬opts.execute then return action
  else do
    match ← perform (.command "docker" ["ps", "-q"]) with
    | .error text => return warned action ("docker ps: " ++ text)
    | .ok out =>
      if words out = [] then return action
      else
        match ← perform (.command "docker"
          (["inspect", "--format", mountsFormat] ++ words out)) with
        | .error text => return warned action ("docker inspect: " ++ text)
        | .ok out =>
          let orphans := (lines out).filterMap (mountedUnder root)
          if orphans = [] then return action
          else
            match ← perform (.command "docker" ("kill" :: orphans)) with
            | .error text =>
              return warned action
                ("docker kill " ++ toString orphans.length ++ " orphan(s): " ++ text)
            | .ok _ =>
              let killed := " (killed " ++ toString orphans.length ++ " orphan container(s))"
              return { action with path := root ++ killed }

/-! ## Containers that nobody owns -/

def orphanInspectFormat : String :=
  "\x7b\x7b.Id\x7d\x7d|\x7b\x7bindex .Config.Labels \"com.docker.compose.project\"\x7d\x7d|" ++
  "\x7b\x7bindex .Config.Labels \"org.testcontainers\"\x7d\x7d|" ++
  "\x7b\x7brange $p, $b := .HostConfig.PortBindings\x7d\x7d\x7b\x7brange $b\x7d\x7d" ++
  "\x7b\x7b.HostPort\x7d\x7d \x7b\x7bend\x7d\x7d\x7b\x7bend\x7d\x7d"

def defaultCIFixedHostPorts : List Int := [
  81, 3010, 3011, 5433, 5443, 6389, 8088, 8101, 8102, 8103, 8104, 8105, 8106, 8107, 8108, 8109,
  8110, 8111, 9020, 9021, 9100]

def atoi (value : String) : Option Int :=
  let (negative, digits) := match value.toList with
    | '-' :: rest => (true, rest)
    | '+' :: rest => (false, rest)
    | rest => (false, rest)
  if digits ≠ [] ∧ digits.all Char.isDigit then
    let magnitude : Int := digits.foldl (fun value digit => value * 10 + (digit.toNat - 48)) 0
    some (if negative then -magnitude else magnitude)
  else none

def isCIOrphan (project testcontainers : String) (hostPorts : List String) : Bool :=
  let project := String.ofList (Runner.toLower (Text.trimSpace project))
  (project ≠ "" && project ≠ "<no value>" && Text.hasPrefix project "civm-run") ||
    Runner.toLower (Text.trimSpace testcontainers) = "true".toList ||
    hostPorts.any fun port =>
      (atoi (Text.trimSpace port)).any defaultCIFixedHostPorts.contains

/-- The container of a line, if it is an orphan. -/
def orphanOfLine (line : String) : Option String := do
  let (container, rest) ← Text.cut '|' (line.toList.reverse.dropWhile (· = '\r')).reverse
  let (project, rest) ← Text.cut '|' rest
  let (testcontainers, ports) ← Text.cut '|' rest
  let container := Text.trimSpace (String.ofList container)
  if container ≠ "" ∧ isCIOrphan (Text.trimSpace (String.ofList project))
    (Text.trimSpace (String.ofList testcontainers)) (words (String.ofList ports)) then
    some container
  else none

def orphanIDsFromInspect (inspectOut : String) : List String :=
  (lines inspectOut).filterMap orphanOfLine

def orphanCount (orphans : List String) : String := toString orphans.length ++ " orphan(s): "

/-- The removal of orphans, with the warning of the attempt to stop them. -/
def removeOrphans (action : Action) (warning : String) (orphans : List String) :
    Script Action := do
  match ← perform (.command "docker" (["rm", "-f"] ++ orphans)) with
  | .error text =>
    return warned action
      (Text.trimSpace (warning ++ (" docker rm " ++ orphanCount orphans) ++ text))
  | .ok _ =>
    let reaped := "reaped " ++ toString orphans.length ++ " orphan CI container(s)"
    return { action with path := reaped }

def stopOrphans (action : Action) (orphans : List String) : Script Action := do
  match ← perform (.command "docker" (["stop", "--time", "5"] ++ orphans)) with
  | .error text =>
    let warning := "docker stop " ++ orphanCount orphans ++ text
    removeOrphans (warned action warning) warning orphans
  | .ok _ => removeOrphans action "" orphans

def reapOrphanCIContainers (opts : Options) : Script Action :=
  let action := Action.named "docker_reap_orphan_ci" "" opts.execute
  if ¬opts.execute then return action
  else do
    match ← perform (.command "docker" ["ps", "-q"]) with
    | .error text => return warned action ("docker ps: " ++ text)
    | .ok out =>
      if words out = [] then return action
      else
        match ← perform (.command "docker"
          (["inspect", "--format", orphanInspectFormat] ++ words out)) with
        | .error text => return warned action ("docker inspect: " ++ text)
        | .ok out =>
          if orphanIDsFromInspect out = [] then return action
          else stopOrphans action (orphanIDsFromInspect out)

/-! ## What the run has built -/

def runImageReapScopes (opts : Options) : List String :=
  let project := Text.trimSpace opts.composeProject
  let run := Text.trimSpace opts.runID
  if project = "" then [] else if run = "" then [project] else [project, project ++ "-" ++ run]

def scopeFilter (scope : String) : String := "label=com.docker.compose.project=" ++ scope

def reapImages (opts : Options) : List String → Script (List Action)
  | [] => return []
  | scope :: rest => do
    let action ← commandActionWarn opts "docker_run_image_reap" "docker"
      ["image", "prune", "-a", "-f", "--filter", scopeFilter scope]
    return action :: (← reapImages opts rest)

def reapRunImages (opts : Options) : Script (List Action) :=
  match runImageReapScopes opts with
  | [] => return [Action.named "docker_run_image_reap_skipped" "(no compose project in env)" false]
  | scopes => reapImages opts scopes

/-- The containers of the scopes, each once, and the warnings of the lists that failed. -/
def listContainers : List String → String → List String → Script (String × List String)
  | [], warning, ids => return (warning, ids)
  | scope :: rest, warning, ids => do
    match ← perform (.command "docker" ["ps", "-aq", "--filter", scopeFilter scope]) with
    | .error text =>
      listContainers rest
        (Text.trimSpace (warning ++ (" list " ++ scope ++ ": ") ++ text)) ids
    | .ok out =>
      listContainers rest warning
        ((words out).foldl (fun ids id => if id ∈ ids then ids else ids ++ [id]) ids)

def reapRunContainers (opts : Options) : Script Action :=
  match runImageReapScopes opts with
  | [] =>
    return Action.named "docker_run_container_reap_skipped" "(no compose project in env)" false
  | scopes =>
    let action := Action.named "docker_run_container_reap" "" opts.execute
    if ¬opts.execute then return action
    else do
      let (warning, ids) ← listContainers scopes "" []
      let action := noted action warning
      if ids = [] then return action
      else
        match ← perform (.command "docker" (["rm", "-f"] ++ ids)) with
        | .error text => return warned action (Text.trimSpace (warning ++ " remove: " ++ text))
        | .ok _ =>
          let reaped := "reaped " ++ toString ids.length ++ " compose container(s)"
          return { action with path := reaped }

end Civm.JobHook
