import Mathlib.Logic.Function.Basic
import Civm.Foundation.Program
import Civm.Common.Validate
import Civm.Runner.Units

/-! # What a tick of the watchdog works with

Its options, the commands it runs, its report and its marker file, and the
restart of one unit. Times are nanoseconds, and the zero time is 0. -/

namespace Civm.Runner

/-- `errWatchdogRunnerBecameBusy`. -/
inductive Sentinel
  | runnerBecameBusy
  deriving DecidableEq

abbrev Error := GoError Sentinel Empty

def second : Int := 1000000000
def minute : Int := 60 * second
def hour : Int := 60 * minute

structure Activity where
  pid : Int
  command : String

structure GitHubRunner where
  name : String
  status : String
  busy : Bool
  labels : List String

structure QueueEvidence where
  eligibleJobs : Nat
  signature : String

structure Run where
  id : Int
  headSHA : String
  conclusion : String
  createdAt : Int
  pullRequests : List Int

structure PullRequest where
  number : Int
  state : String
  mergeableState : String

/-- A line of `hooks.jsonl`. An action has a name and an error. -/
structure HookLogRecord where
  time : Int
  workRoot : String
  actions : List (String × String)

/-- A URL of a runner's configuration. -/
structure Address where
  scheme : String
  host : String
  path : String

/-- The addresses of a `.runner` file. One that is absent, not a string or not
a URL is `none`. -/
structure RunnerConfig where
  gitHubUrl : Option Address
  serverUrl : Option Address

structure InstallResult where
  error : String
  runnerEnvFiles : Nat

/-! ## The marker file -/

structure RerunMarker where
  repo : String
  runID : Int
  headSHA : String
  rerunAt : Int

/-- The restarts of one unit in the current hour. -/
structure AutoRestartWindow where
  count : Int
  windowStart : Int
  lastActed : Int

def AutoRestartWindow.none : AutoRestartWindow := ⟨0, 0, 0⟩

structure QueueStallIncident where
  signature : String
  firstSeen : Int
  restartedAt : Int

structure RerunState where
  reruns : String → Option RerunMarker
  autoRestarts : String → Option AutoRestartWindow
  queueStalls : String → Option QueueStallIncident

def RerunState.none : RerunState where
  reruns _ := Option.none
  autoRestarts _ := Option.none
  queueStalls _ := Option.none

def RerunState.setWindow (state : RerunState) (key : String) (window : AutoRestartWindow) :
    RerunState :=
  { state with autoRestarts := Function.update state.autoRestarts key (some window) }

def RerunState.setIncident (state : RerunState) (unit : String)
    (incident : Option QueueStallIncident) : RerunState :=
  { state with queueStalls := Function.update state.queueStalls unit incident }

inductive MarkerFile
  | absent
  | blank
  | garbled (error : Error)
  | state (state : RerunState)

/-! ## The commands -/

inductive Stat
  | found
  | notExist
  | failed (error : Error)

inductive FileRead
  | data (text : String)
  | notExist
  | failed (error : Error)

/-- How a command ends, and whether it has had its effect. Only the
error is visible to the caller. -/
structure Outcome where
  error : Option Error
  took : Bool

inductive RestartPath
  | sentinel
  | orgBusy
  | queueStall
  | candidate
  deriving DecidableEq

/-- The commands. `restartFn` is a restart function that is given from outside;
the path tells its callers apart. The commit of a rerun is not passed on: it
tells for which run it is made. -/
inductive Call
  | statMaintenance
  | lsRemote
  | listUnits
  | workingDirectory (unit : String)
  | runnerConfig (directory : String)
  | reaperRepos
  | repoRunners (repo : String)
  | orgRunners (org : String)
  | activities
  | probeDelay
  | now
  | sleep
  | readMarker
  | mkdirMarker
  | writeMarker (state : RerunState)
  | renameMarker
  | removeMarker
  | readHooksLog
  | queuedJobs (repos : List String) (now : Int) (maxAge : Int)
  | hookInstall (execute : Bool)
  | freeze (unit : String)
  | thaw (unit : String)
  | isActive (unit : String)
  | stop (unit : String)
  | kill (unit : String)
  | controlGroup (unit : String)
  | readProcs (path : String)
  | restart (unit : String)
  | restartFn (path : RestartPath) (unit : String)
  | listRuns (repo : String) (limit : Int)
  | pullRequest (repo : String) (number : Int)
  | runLog (repo : String) (runID : Int)
  | rerun (repo : String) (runID : Int) (headSHA : String)

/-- The lines of `hooks.jsonl` come decoded, as far as they can be decoded. The
delay between two probes ends early if the context is cancelled. -/
abbrev Answer : Call → Type
  | .statMaintenance => Stat
  | .lsRemote => Option Error
  | .listUnits => Except Error String
  | .workingDirectory _ => Except Error String
  | .runnerConfig _ => Except Error RunnerConfig
  | .reaperRepos => String
  | .repoRunners _ => Except Error (List GitHubRunner)
  | .orgRunners _ => Except Error (List GitHubRunner)
  | .activities => Except Error (List Activity)
  | .probeDelay => Option Error
  | .now => Int
  | .sleep => Unit
  | .readMarker => Except Error MarkerFile
  | .mkdirMarker => Option Error
  | .writeMarker _ => Option Error
  | .renameMarker => Outcome
  | .removeMarker => Option Error
  | .readHooksLog => Except Error (List (Option HookLogRecord))
  | .queuedJobs _ _ _ => Except Error QueueEvidence
  | .hookInstall _ => InstallResult
  | .freeze _ => Outcome
  | .thaw _ => Outcome
  | .isActive _ => String
  | .stop _ => Outcome
  | .kill _ => Outcome
  | .controlGroup _ => Except Error String
  | .readProcs _ => FileRead
  | .restart _ => Outcome
  | .restartFn _ _ => Option Error
  | .listRuns _ _ => Except Error (List Run)
  | .pullRequest _ _ => Except Error PullRequest
  | .runLog _ _ => Except Error String
  | .rerun _ _ _ => Option Error

abbrev Script := Program Answer

abbrev perform (call : Call) : Script (Answer call) := Program.perform call

/-! ## The report -/

inductive Severity
  | info
  | warning
  | critical
  deriving DecidableEq

/-- An event of the report. The detail is the text of an error. -/
structure WatchdogEvent where
  event : String
  severity : Severity
  repo : String := ""
  unit : String := ""
  runner : String := ""
  runID : Int := 0
  headSHA : String := ""
  reason : String := ""
  detail : Option Error := none
  executed : Bool := false
  online : Bool := false
  queuedJobs : Nat := 0
  ageSeconds : Int := 0

structure WatchdogMetrics where
  runsConsidered : Nat
  rerunsTriggered : Nat
  rerunsSkipped : Nat
  queueStalls : Nat
  runnerRestarts : Nat
  stallsUnresolved : Nat

structure WatchdogReport where
  executed : Bool
  repos : List String
  runnerOnline : Bool
  metrics : WatchdogMetrics
  events : List WatchdogEvent
  exit : Nat

def WatchdogReport.start (execute : Bool) : WatchdogReport where
  executed := execute
  repos := []
  runnerOnline := false
  metrics := ⟨0, 0, 0, 0, 0, 0⟩
  events := []
  exit := 0

def WatchdogReport.add (report : WatchdogReport) (event : WatchdogEvent) : WatchdogReport :=
  let metrics := report.metrics
  let metrics :=
    if event.event = "rerun-skipped" then
      { metrics with rerunsSkipped := metrics.rerunsSkipped + 1 }
    else if event.event = "rerun-triggered" then
      { metrics with rerunsTriggered := metrics.rerunsTriggered + 1 }
    else metrics
  { report with metrics := metrics, events := report.events ++ [event] }

/-- A part of a tick, which writes the report. -/
abbrev Patrol := Routine Answer WatchdogReport

def add (event : WatchdogEvent) : Patrol Unit := modify (·.add event)

/-- `report.Exit = maxExit(report.Exit, exit)`. -/
def raiseExit (exit : Nat) : Patrol Unit :=
  modify fun report => { report with exit := max report.exit exit }

def setExit (exit : Nat) : Patrol Unit := modify fun report => { report with exit := exit }

def setOnline (online : Bool) : Patrol Unit :=
  modify fun report => { report with runnerOnline := online }

def count (update : WatchdogMetrics → WatchdogMetrics) : Patrol Unit :=
  modify fun report => { report with metrics := update report.metrics }

/-! ## The options -/

/-- The options, with the function that restarts one unit. -/
structure WatchdogOptions where
  execute : Bool
  repos : List String
  inferRepos : Bool
  rerunNetworkFailures : Bool
  networkTimeout : Int
  restartDelay : Int
  idleProbeDelay : Int
  maxRunAge : Int
  runLimit : Int
  markerPath : String
  autoRestartPerHour : Int
  queueStallDwell : Int
  restartFn : RestartPath → String → Script (Option Error)

def orDefault [DecidableEq α] (zero value standard : α) : α :=
  if value = zero then standard else value

def applyWatchdogDefaults (opts : WatchdogOptions) : WatchdogOptions :=
  { opts with
    networkTimeout := orDefault 0 opts.networkTimeout (10 * second)
    restartDelay := orDefault 0 opts.restartDelay (10 * second)
    maxRunAge := orDefault 0 opts.maxRunAge (6 * hour)
    runLimit := orDefault 0 opts.runLimit 20
    markerPath := orDefault "" opts.markerPath "/var/lib/civm/runner-watchdog-reruns.json"
    autoRestartPerHour := orDefault 0 opts.autoRestartPerHour 3
    queueStallDwell := orDefault 0 opts.queueStallDwell (5 * minute) }

def validateRepo (repo : String) : Option Error :=
  if (Common.validateRepo repo).isNone then none
  else some (.text ("repo deve ter formato owner/repo seguro, got \"" ++ repo ++ "\""))

def validateWatchdogOptions (opts : WatchdogOptions) : Option Error :=
  match opts.repos.findSome? validateRepo with
  | some error => some error
  | none =>
    if opts.networkTimeout ≤ 0 then some (.text "--network-timeout deve ser >0")
    else if opts.restartDelay < 0 then some (.text "--restart-delay deve ser >=0")
    else if opts.maxRunAge ≤ 0 then some (.text "--max-run-age deve ser >0")
    else if opts.runLimit < 1 ∨ opts.runLimit > 100 then
      some (.text "run limit deve ficar entre 1 e 100")
    else if opts.queueStallDwell ≤ 0 then some (.text "queue stall dwell deve ser >0")
    else if opts.markerPath.toList.contains '\x00' ∨ ¬Text.isAbs (Text.clean opts.markerPath) then
      some (.text "marker path deve ser absoluto e seguro")
    else none

/-! ## Probes -/

/-- A probe that fails counts as a worker. -/
def hasLocalRunnerWorker : Script Bool := do
  match ← perform .activities with
  | .error _ => return true
  | .ok activities =>
    return activities.any fun activity => Text.contains activity.command "Runner.Worker"

inductive IdleResult
  | idle
  | busy (activities : List Activity)
  | unknown (error : Error)

def probe : Script IdleResult := do
  match ← perform .activities with
  | .error error => return .unknown error
  | .ok [] => return .idle
  | .ok activities => return .busy activities

def idleCheck (opts : WatchdogOptions) : Script IdleResult := do
  match ← probe with
  | .idle =>
    if opts.idleProbeDelay ≤ 0 then return .idle
    else
      match ← perform .probeDelay with
      | some error => return .unknown error
      | none => probe
  | result => return result

/-- The reason and the detail of a host that is not known to be idle. -/
def IdleResult.reason : IdleResult → Option (String × Option Error)
  | .idle => none
  | .busy activities =>
    let shown := (activities.take 3).map fun activity =>
      let bytes := activity.command.utf8ByteSize
      let command :=
        if bytes > 90 then String.ofList (activity.command.toList.take 89) ++ "..."
        else activity.command
      "pid=" ++ toString activity.pid ++ " " ++ command
    let more :=
      if activities.length > 3 then ["+" ++ toString (activities.length - 3) ++ " outro(s)"]
      else []
    some ("host-busy", some (.text (String.intercalate "; " (shown ++ more))))
  | .unknown error => some ("host-idle-unknown", some error)

def loadRerunState : Script (Except Error RerunState) := do
  match ← perform .readMarker with
  | .error error => return .error error
  | .ok .absent => return .ok .none
  | .ok .blank => return .ok .none
  | .ok (.garbled error) => return .error error
  | .ok (.state state) => return .ok state

def writeRerunState (state : RerunState) : Script (Option Error) := do
  match ← perform .mkdirMarker with
  | some error => return some error
  | none =>
  match ← perform (.writeMarker state) with
  | some error => return some error
  | none =>
  match (← perform .renameMarker).error with
  | none => return none
  | some error => do
    let _ ← perform .removeMarker
    return some error

/-! ## The restart of a unit -/

def isUnitChar (char : Char) : Bool :=
  char.isAlpha || char.isDigit || ['_', '.', '@', '-'].contains char

/-- `civm.ValidateServiceUnit`: `^[A-Za-z0-9_.@-]+[.]service$` without two dots
in a row. -/
def validateServiceUnit (unit : String) : Option Error :=
  if unit.toList.all isUnitChar ∧ Text.hasSuffix unit ".service" ∧ unit ≠ ".service" ∧
    ¬Text.contains unit ".." then none
  else some (.text ("unit invalida: \"" ++ unit ++ "\""))

def watchdogUnitCgroupEmpty (unit : String) : Script (Except Error Bool) := do
  match ← perform (.controlGroup unit) with
  | .error error => return .error error
  | .ok output =>
    let group := Text.trimSpace output
    if group = "" then return .ok true
    else
      let clean := Text.clean group
      if !Text.hasPrefix clean "/system.slice/" then
        return .error (.text ("unsafe control group \"" ++ group ++ "\""))
      else
        let path := Text.join (Text.join "/sys/fs/cgroup" (Text.trimPrefix clean "/")) "cgroup.procs"
        match ← perform (.readProcs path) with
        | .data text => return .ok (Text.trimSpace text = "")
        | .notExist => return .ok true
        | .failed error => return .error error

/-- Thaws the unit if it is frozen; the error of the restart stays. -/
def thawFrozen (frozen : Bool) (unit : String) (error : Error) : Script (Option Error) :=
  if frozen then do
    let _ ← perform (.thaw unit)
    return some error
  else return some error

def restartStopped (unit : String) : Script (Option Error) := do
  match (← perform (.restart unit)).error with
  | some error => return some (.wrap ("systemctl restart " ++ unit ++ ": ") error "")
  | none =>
    perform .sleep
    let active := Text.trimSpace (← perform (.isActive unit))
    if active ≠ "active" then
      return some (.text (unit ++ " is-active=\"" ++ active ++ "\" after restart"))
    else return none

/-- What remains of the unit is killed, and the unit is restarted. -/
def purgeAndRestart (unit : String) : Script (Option Error) := do
  match (← perform (.kill unit)).error with
  | none => restartStopped unit
  | some error =>
    match ← watchdogUnitCgroupEmpty unit with
    | .error proofError =>
      return some (.wrap ("systemctl kill " ++ unit ++ " cgroup and empty proof: ")
        (.pair error "\n" proofError) "")
    | .ok false =>
      return some (.wrap ("systemctl kill " ++ unit ++ " cgroup: ") error
        " (residual PIDs remain)")
    | .ok true => restartStopped unit

def stopAndRestart (frozen : Bool) (unit : String) : Script (Option Error) := do
  match (← perform (.stop unit)).error with
  | some error => thawFrozen frozen unit (.wrap ("systemctl stop " ++ unit ++ ": ") error "")
  | none => purgeAndRestart unit

/-- `defaultWatchdogRestart`. A unit that cannot be frozen is restarted only if
it is not active. -/
def defaultWatchdogRestart (unit : String) : Script (Option Error) := do
  match validateServiceUnit unit with
  | some error => return some error
  | none =>
  match (← perform (.freeze unit)).error with
  | some error =>
    let state := Text.trimSpace (← perform (.isActive unit))
    if state ≠ "inactive" ∧ state ≠ "failed" then
      return some (.wrap ("systemctl freeze " ++ unit ++ " while state=\"" ++ state ++ "\": ")
        error "")
    else stopAndRestart false unit
  | none =>
    if ← hasLocalRunnerWorker then thawFrozen true unit (.sentinel .runnerBecameBusy)
    else stopAndRestart true unit

end Civm.Runner
