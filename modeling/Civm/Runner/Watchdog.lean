import Civm.Runner.Rerun
import Civm.Runner.Sentinels

/-! # A tick of the watchdog

The tick looks at the state of the maintenance once, at its beginning. -/

namespace Civm.Runner

variable (opts : WatchdogOptions)

/-! ## The units and their repositories -/

/-- `runner.List`. A listing that fails is an empty one. -/
def list : Script (List Status) := do
  match ← perform .listUnits with
  | .error _ => return []
  | .ok output => return parseSystemctlList output

def isGitHub (address : Address) : Bool :=
  address.scheme = "https" && address.host.toList.map Char.toLower = "github.com".toList

/-- The parts of a path between its slashes, without those at its ends. -/
def pathParts (path : String) : List (List Char) :=
  ((path.toList.dropWhile (· = '/')).reverse.dropWhile (· = '/')).reverse.splitOn '/'

def repoFromGitHubURL (address : Address) : Option String :=
  if !isGitHub address then none
  else
    match pathParts address.path with
    | owner :: name :: _ =>
      let repo := String.ofList owner ++ "/" ++ Text.trimSuffix (String.ofList name) ".git"
      if (validateRepo repo).isNone then some repo else none
    | _ => none

def orgFromGitHubURL (address : Address) : Option String :=
  if !isGitHub address then none
  else
    match pathParts address.path with
    | [org] =>
      if org = [] ∨ Text.contains (String.ofList org) ".git" then none
      else some (String.ofList org)
    | _ => none

/-- The first address of the configuration that names what is looked for. -/
def fromRunnerConfig (find : Address → Option String) (config : RunnerConfig) : Option String :=
  [config.gitHubUrl, config.serverUrl].findSome? fun address => address.bind find

def repoFromRunnerConfig (config : RunnerConfig) : Option String :=
  fromRunnerConfig repoFromGitHubURL config

def orgFromRunnerConfig (config : RunnerConfig) : Option String :=
  fromRunnerConfig orgFromGitHubURL config

/-- The working directory of a unit, and what its configuration names. -/
def resolve (find : RunnerConfig → Option String) (status : Status) :
    Script (Option String × Option String) := do
  if status.unitName = "" ∨ (validateServiceUnit status.unitName).isSome then return (none, none)
  else
    match ← perform (.workingDirectory status.unitName) with
    | .error _ => return (none, none)
    | .ok output =>
      let directory := Text.trimSpace output
      if directory = "" ∨ directory = "-" then return (none, none)
      else
        match ← perform (.runnerConfig directory) with
        | .error _ => return (some directory, none)
        | .ok config => return (some directory, find config)

def resolveWatchdogRunnerRepo (status : Status) : Script (Option String × Option String) :=
  resolve repoFromRunnerConfig status

def resolveWatchdogRunnerOrg (status : Status) : Script (Option String × Option String) :=
  resolve orgFromRunnerConfig status

def enrich (status : Status) : Script Status := do
  let (directory, repo) ← resolveWatchdogRunnerRepo status
  let status := { status with
    workingDirectory := directory.getD status.workingDirectory
    repo := repo.getD status.repo }
  let (_, org) ← resolveWatchdogRunnerOrg status
  return { status with org := org.getD status.org }

def enrichWatchdogSystemdRepos : List Status → Script (List Status)
  | [] => return []
  | status :: rest => do
    let status ← enrich status
    let rest ← enrichWatchdogSystemdRepos rest
    return status :: rest

def sortStrings (values : List String) : List String :=
  values.mergeSort fun first second => first ≤ second

def inferWatchdogRepos (systemd : List Status) : List String :=
  sortStrings (((systemd.map (·.repo)).filter fun repo =>
    repo ≠ "" && (validateRepo repo).isNone).dedup)

def hasWatchdogOrgRunner (systemd : List Status) : Bool :=
  systemd.any fun status => status.org ≠ ""

/-- The repositories without blanks and duplicates, sorted, if all are valid. -/
def normalizeWatchdogRepos (context : String) (repos : List String) :
    Except Error (List String) :=
  let repos := (repos.map Text.trimSpace).filter (· ≠ "")
  match repos.findSome? validateRepo with
  | some error => .error (.wrap context error "")
  | none => .ok (sortStrings repos.dedup)

def splitCommas (value : String) : List String :=
  (value.toList.splitOn ',').map String.ofList

def defaultWatchdogQueueRepos : Script (Except Error (List String)) := do
  let raw := Text.trimSpace (← perform .reaperRepos)
  if raw = "" then return .ok []
  else return normalizeWatchdogRepos "CIVM_REAPER_REPOS: " (splitCommas raw)

/-- The runners of each repository, and the repositories that have one online. -/
def collectWatchdogGitHubRunners (byRepo : Table (List GitHubRunner)) (online : List String) :
    List String → Patrol (Table (List GitHubRunner) × List String)
  | [] => return (byRepo, online)
  | repo :: rest => do
    match ← perform (.repoRunners repo) with
    | .error error =>
      add {
        event := "runner-online-unknown", severity := .warning, repo := repo
        reason := "github-runners-failed", detail := some error }
      raiseExit 1
      collectWatchdogGitHubRunners byRepo online rest
    | .ok runners =>
      let ready := runners.filter fun gh => gh.status = "online" && gh.labels.contains "civm"
      modify fun report => ready.foldl (fun report gh => report.add {
        event := "runner-online", severity := .info, repo := repo, runner := gh.name
        online := true }) report
      collectWatchdogGitHubRunners (byRepo.insert repo runners)
        (if ready = [] then online else repo :: online) rest

/-! ## The tick -/

def repairWatchdogHooks : Patrol (Option Error) := do
  let result ← perform (.hookInstall opts.execute)
  let event : WatchdogEvent := {
    event := "hooks-repaired", severity := .info, executed := opts.execute
    detail := some (.text (toString result.runnerEnvFiles ++ " runner env file(s)")) }
  if result.error ≠ "" then
    add { event with
      severity := .critical, reason := "hook-install-failed"
      detail := some (.text result.error) }
    return some (.text result.error)
  else
    add event
    return none

/-- The repositories of the tick, and whether they are those of the fleet. -/
def watchedRepos (systemd : List Status) : Script (Except Error (List String × Bool)) := do
  let repos := if opts.inferRepos ∧ opts.repos = [] then inferWatchdogRepos systemd else opts.repos
  if opts.inferRepos ∧ repos = [] ∧ hasWatchdogOrgRunner systemd then
    match ← defaultWatchdogQueueRepos with
    | .error error => return .error error
    | .ok configured =>
      match normalizeWatchdogRepos "fleet do watchdog: " configured with
      | .error error => return .error error
      | .ok repos => return .ok (repos, repos ≠ [])
  else return .ok (repos, false)

/-- The tick of a host whose runners serve organizations, or nothing. -/
def patrolOrgs (systemd : List Status) (repos : List String) : Patrol Unit := do
  recoverWatchdogOrgBusyWithoutWorker opts systemd
  recoverWatchdogOrgIdleWithQueue opts systemd repos
  match ← restartWatchdogRunners opts systemd ∅ with
  | some _ => setExit 2
  | none =>
    let report ← get
    setOnline (systemd.any Status.running ||
      report.events.any fun event => event.event = "runner-restarted")
    if repos = [] then
      add { event := "rerun-skipped", severity := .warning, reason := "no-repos" }
    if systemd = [] then raiseExit 1

/-- The end of a tick: the repositories without a runner, and the reruns. -/
def finishTick (repos online : List String) : Patrol Unit := do
  setOnline (online ≠ [])
  let offline := repos.filter fun repo => repo ∉ online
  modify fun report => offline.foldl (fun report repo =>
    { report.add {
        event := "runner-offline", severity := .warning, repo := repo
        reason := "github-not-online" } with exit := max report.exit 1 }) report
  if ¬opts.rerunNetworkFailures then
    add { event := "rerun-skipped", severity := .info, reason := "disabled" }
  else
    match ← rerunWatchdogNetworkFailures opts repos online with
    | some _ => setExit 2
    | none => return ()

/-- The repairs of a tick on a host that is idle. -/
def repair (systemd : List Status) (repos : List String) (ghBefore : Table (List GitHubRunner)) :
    Patrol Unit := do
  match ← repairWatchdogHooks opts with
  | some _ => setExit 2
  | none =>
  match ← restartWatchdogRunners opts systemd ghBefore with
  | some _ => setExit 2
  | none =>
    let (_, online) ← collectWatchdogGitHubRunners ∅ [] repos
    finishTick opts repos online

/-- Why the repairs have to wait, if they are to be executed. -/
def unlessIdle : Script (Option (String × Option Error)) :=
  if opts.execute then return (← idleCheck opts).reason else return none

/-- The tick of a host whose runners serve repositories. -/
def patrolRepos (systemd : List Status) (repos : List String) : Patrol Unit := do
  let (ghBefore, online) ← collectWatchdogGitHubRunners ∅ [] repos
  setOnline (online ≠ [])
  detectBrokenRunner opts systemd
  match ← unlessIdle opts with
  | some (reason, detail) =>
    add {
      event := "runner-restart-skipped", severity := .warning, reason := reason
      detail := detail }
    if opts.rerunNetworkFailures then
      add { event := "rerun-skipped", severity := .warning, reason := reason, detail := detail }
  | none => repair opts systemd repos ghBefore

/-- The tick once the units are known. -/
def patrolUnits (systemd : List Status) : Patrol Unit := do
  match ← watchedRepos opts systemd with
  | .error error =>
    add {
      event := "runner-restart-skipped", severity := .critical, reason := "queue-repos-failed"
      detail := some error }
    setExit 2
  | .ok (repos, fleet) =>
    modify fun report => { report with repos := repos }
    if repos = [] ∨ fleet then patrolOrgs opts systemd repos else patrolRepos opts systemd repos

/-- The units with their repositories, organizations and directories. -/
def enrichedUnits : Script (List Status) := do
  let systemd ← list
  enrichWatchdogSystemdRepos systemd

/-- The tick outside of maintenance. -/
def patrol : Patrol Unit := do
  match ← perform .lsRemote with
  | some error =>
    add {
      event := "network-down", severity := .warning, reason := "github-unreachable"
      detail := some (.wrap "git ls-remote github.com: " error "") }
    setExit 1
  | none =>
    let systemd ← enrichedUnits
    patrolUnits opts systemd

def watch : Patrol Unit := do
  match validateWatchdogOptions opts with
  | some error =>
    add {
      event := "watchdog-invalid", severity := .critical, reason := "invalid-options"
      detail := some error }
    setExit 2
  | none =>
  match ← perform .statMaintenance with
  | .failed error =>
    add {
      event := "runner-restart-skipped", severity := .critical
      reason := "maintenance-state-unknown", detail := some error }
    setExit 1
  | .found =>
    add { event := "runner-restart-skipped", severity := .info, reason := "maintenance-active" }
  | .notExist => patrol opts

def watchdog : Script WatchdogReport := do
  let (_, report) ← (watch (applyWatchdogDefaults opts)).run (.start opts.execute)
  return report

end Civm.Runner
