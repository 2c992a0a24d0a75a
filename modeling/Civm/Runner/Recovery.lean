import Mathlib.Data.List.AList
import Civm.Runner.Tick

/-! # Recovery of the runners

The restart paths of a tick that look at the units and at GitHub: a runner of an
organization that GitHub reports busy although no worker runs here, one that is
idle while its queue stalls, and the units that are down. -/

namespace Civm.Runner

variable (opts : WatchdogOptions)

/-- A named runner that may serve an organization and is up. -/
def Status.servesOrg (status : Status) : Bool :=
  status.unitName ≠ "" && status.org ≠ "" && status.running

/-! ## Busy without a worker -/

def orgBusyKey (unit : String) : String := "org-busy:" ++ unit

/-- Whether the unit waits for the end of its dwell. -/
def RerunState.pending (state : RerunState) (status : Status) : Bool :=
  status.unitName ≠ "" && status.org ≠ "" &&
    (state.autoRestarts (orgBusyKey status.unitName)).any fun window => window.count = 0

def RerunState.dropWindows (state : RerunState) (keys : List String) : RerunState :=
  { state with autoRestarts := fun key =>
      if key ∈ keys then Option.none else state.autoRestarts key }

def clearPendingWatchdogOrgBusyDwell (systemd : List Status) : Patrol Unit := do
  if opts.execute then
    match ← loadRerunState with
    | .error error =>
      add {
        event := "runner-restart-skipped", severity := .critical
        reason := "marker-read-failed", detail := some error }
      raiseExit 2
    | .ok state =>
      let pending := systemd.filter state.pending
      if pending = [] then return ()
      else
        match ← writeRerunState
          (state.dropWindows (pending.map fun status => orgBusyKey status.unitName)) with
        | some error =>
          add {
            event := "runner-restart-skipped", severity := .critical
            reason := "marker-write-failed", detail := some error }
          raiseExit 2
        | none => return ()
  else return ()

/-- The window by which a busy runner is judged. -/
def busyWindow (window : AutoRestartWindow) (now : Int) : AutoRestartWindow :=
  if window.windowStart = 0 ∨ (window.count ≥ 1 ∧ now - window.windowStart ≥ hour) then
    ⟨0, now, 0⟩
  else window

/-- A clock that was set back starts the dwell again. -/
def AutoRestartWindow.notBefore (window : AutoRestartWindow) (now : Int) : AutoRestartWindow :=
  if now - window.windowStart < 0 then { window with windowStart := now } else window

/-- Writes the state, except in a dry run. -/
def saveExecuted (state : RerunState) : Script (Option Error) :=
  if opts.execute then writeRerunState state else return none

/-- The restart of a runner whose dwell is over. -/
def restartOrgBusy (status : Status) (gh : GitHubRunner) (state : RerunState) (now : Int)
    (window : AutoRestartWindow) : Patrol Unit := do
  let event : WatchdogEvent := {
    event := "runner-restarted", severity := .info, unit := status.unitName
    runner := gh.name, reason := "github-busy-without-local-worker", executed := opts.execute }
  if window.count ≥ 1 then
    add {
      event := "runner-restart-skipped", severity := .warning, unit := status.unitName
      runner := gh.name, reason := "org-busy-cooldown"
      detail := some (.text "already restarted once in the rolling hour") }
  else if ¬opts.execute then add event
  else if ← hasLocalRunnerWorker then
    add {
      event := "runner-restart-skipped", severity := .warning, unit := status.unitName
      runner := gh.name, reason := "host-busy"
      detail := some (.text "Runner.Worker appeared before restart") }
  else
    let window := { window with count := window.count + 1, lastActed := now }
    match ← writeRerunState (state.setWindow (orgBusyKey status.unitName) window) with
    | some error =>
      add {
        event := "runner-restart-skipped", severity := .critical, unit := status.unitName
        runner := gh.name, reason := "marker-write-failed", detail := some error }
      raiseExit 2
    | none =>
    match ← opts.restartFn .orgBusy status.unitName with
    | none => add event
    | some error =>
      if error.is .runnerBecameBusy then
        add {
          event := "runner-restart-skipped", severity := .warning, unit := status.unitName
          runner := gh.name, reason := "host-busy-after-freeze", detail := some error }
      else
        add { event with severity := .critical, detail := some error }
        raiseExit 2

/-- A runner that GitHub reports busy. -/
def judgeOrgBusy (status : Status) (gh : GitHubRunner) : Patrol Unit := do
  match ← loadRerunState with
  | .error error =>
    add {
      event := "runner-restart-skipped", severity := .critical, unit := status.unitName
      runner := gh.name, reason := "marker-read-failed", detail := some error }
    raiseExit 2
  | .ok state =>
    let now ← perform .now
    let key := orgBusyKey status.unitName
    let window := busyWindow ((state.autoRestarts key).getD .none) now
    if window.count = 0 ∧ opts.queueStallDwell > 0 then
      let window := window.notBefore now
      let age := now - window.windowStart
      let state := state.setWindow key window
      match ← saveExecuted opts state with
      | some error =>
        add {
          event := "runner-restart-skipped", severity := .critical, unit := status.unitName
          runner := gh.name, reason := "marker-write-failed", detail := some error }
        raiseExit 2
      | none =>
        if age < opts.queueStallDwell then
          add {
            event := "runner-restart-skipped", severity := .warning, unit := status.unitName
            runner := gh.name, reason := "org-busy-dwell", executed := opts.execute
            ageSeconds := age.tdiv second }
        else restartOrgBusy opts status gh state now window
    else restartOrgBusy opts status gh state now window

/-- The runners of the organizations, up to the first that is busy. -/
def eachOrgBusy : List Status → Patrol Unit
  | [] => return ()
  | status :: rest => do
    if !status.servesOrg then eachOrgBusy rest
    else
      match ← perform (.orgRunners status.org) with
      | .error error =>
        add {
          event := "runner-online-unknown", severity := .warning, unit := status.unitName
          reason := "github-org-runners-failed", detail := some error }
        eachOrgBusy rest
      | .ok runners =>
        match runners.find? fun gh =>
          gh.name = status.name && gh.status = "online" && gh.busy with
        | some gh => judgeOrgBusy opts status gh
        | none =>
          clearPendingWatchdogOrgBusyDwell opts [status]
          eachOrgBusy rest

def recoverWatchdogOrgBusyWithoutWorker (systemd : List Status) : Patrol Unit := do
  if ← hasLocalRunnerWorker then clearPendingWatchdogOrgBusyDwell opts systemd
  else
    perform .sleep
    if ← hasLocalRunnerWorker then clearPendingWatchdogOrgBusyDwell opts systemd
    else eachOrgBusy opts systemd

/-! ## Idle with a queue -/

def watchdogOrgRunner (status : Status) : Script (Except Error (Option GitHubRunner)) := do
  match ← perform (.orgRunners status.org) with
  | .error error => return .error error
  | .ok runners =>
    return .ok (runners.find? fun gh =>
      gh.name = status.name && gh.labels.contains "self-hosted" && gh.labels.contains "civm")

/-- `watchdogOnlineIdleOrgRunner`: nothing, or why the runner is not ready. -/
def watchdogOnlineIdleOrgRunner (status : Status) : Script (Except (Option Error) Unit) := do
  match ← watchdogOrgRunner status with
  | .error error => return .error (some error)
  | .ok none => return .error none
  | .ok (some gh) =>
    if gh.status = "online" ∧ ¬gh.busy then return .ok () else return .error none

def clearQueueStallIncident (state : RerunState) (status : Status) (gh : GitHubRunner)
    (existing : Bool) (reason : String) : Patrol Unit := do
  let event : WatchdogEvent := {
    event := "queue-stall-recovered", severity := .info, unit := status.unitName
    runner := gh.name, reason := reason, executed := opts.execute }
  if !existing then return ()
  else if ¬opts.execute then add event
  else
    match ← writeRerunState (state.setIncident status.unitName none) with
    | some error =>
      add {
        event := "runner-restart-skipped", severity := .critical, unit := status.unitName
        runner := gh.name, reason := "marker-write-failed", detail := some error }
      raiseExit 2
    | none => add event

/-- A stall that is seen for the first time. -/
def armStall (status : Status) (gh : GitHubRunner) (state : RerunState) (now : Int)
    (evidence : QueueEvidence) : Patrol Unit := do
  match ← saveExecuted opts
    (state.setIncident status.unitName (some ⟨evidence.signature, now, 0⟩)) with
  | some error =>
    add {
      event := "runner-restart-skipped", severity := .critical, unit := status.unitName
      runner := gh.name, reason := "marker-write-failed", detail := some error }
    raiseExit 2
  | none =>
    add {
      event := "queue-stall-armed", severity := .warning, unit := status.unitName
      runner := gh.name, reason := "github-online-idle-with-civm-queue"
      queuedJobs := evidence.eligibleJobs, executed := opts.execute }

/-- The restart of a runner that stalls its queue, and what its result says. -/
def restartStalled (status : Status) (gh : GitHubRunner) (state : RerunState) (now : Int)
    (evidence : QueueEvidence) (incident : QueueStallIncident) : Patrol Unit := do
  let event : WatchdogEvent := {
    event := "runner-restarted", severity := .info, unit := status.unitName
    runner := gh.name, reason := "github-online-idle-with-civm-queue"
    queuedJobs := evidence.eligibleJobs, executed := true
    ageSeconds := (now - incident.firstSeen).tdiv second }
  let restarted (event : WatchdogEvent) : Patrol Unit := do
    count fun metrics => { metrics with runnerRestarts := metrics.runnerRestarts + 1 }
    add event
  let writeFailed (error : Error) : Patrol Unit := do
    add {
      event := "runner-restart-skipped", severity := .critical, unit := status.unitName
      runner := gh.name, reason := "marker-write-failed", detail := some error }
    raiseExit 2
  let state := state.setIncident status.unitName (some { incident with restartedAt := now })
  match ← writeRerunState state with
  | some error => writeFailed error
  | none =>
  match ← opts.restartFn .queueStall status.unitName with
  | none => restarted event
  | some error =>
    if error.is .runnerBecameBusy then
      match ← writeRerunState
        (state.setIncident status.unitName (some { incident with restartedAt := 0 })) with
      | some writeError => writeFailed writeError
      | none =>
        add {
          event := "runner-restart-skipped", severity := .warning, unit := status.unitName
          runner := gh.name, reason := "host-busy-after-freeze", detail := some error
          queuedJobs := evidence.eligibleJobs }
    else
      raiseExit 2
      restarted { event with severity := .critical, detail := some error }

/-- The three signals once more, right before the restart. -/
def revalidateStall (status : Status) (repos : List String) (now : Int)
    (evidence : QueueEvidence) : Script (Option (String × Option Error)) := do
  match ← watchdogOnlineIdleOrgRunner status with
  | .error error => return some ("runner-state-changed", error)
  | .ok _ =>
  match ← perform (.queuedJobs repos now opts.maxRunAge) with
  | .error error => return some ("queue-state-changed", some error)
  | .ok revalidated =>
    if revalidated.eligibleJobs = 0 ∨ revalidated.signature ≠ evidence.signature then
      return some ("queue-state-changed", none)
    else
      match (← idleCheck opts).reason with
      | some (reason, _) => return some (reason, none)
      | none => return none

/-- A stall that was seen before. -/
def observeStall (status : Status) (gh : GitHubRunner) (repos : List String) (state : RerunState)
    (now : Int) (evidence : QueueEvidence) (incident : QueueStallIncident) : Patrol Unit := do
  let age := now - incident.firstSeen
  let seen : WatchdogEvent := {
    event := "", severity := .info, unit := status.unitName, runner := gh.name
    queuedJobs := evidence.eligibleJobs, ageSeconds := age.tdiv second }
  if incident.restartedAt ≠ 0 then
    count fun metrics => { metrics with stallsUnresolved := metrics.stallsUnresolved + 1 }
    add { seen with
      event := "queue-stall-unresolved", severity := .critical
      reason := "restart-did-not-advance-queue" }
    raiseExit 2
  else if age < opts.queueStallDwell then
    add { seen with
      event := "queue-stall-observed", severity := .warning, reason := "dwell-not-reached" }
  else if ¬opts.execute then
    add { seen with event := "runner-restarted", reason := "github-online-idle-with-civm-queue" }
  else
    match ← revalidateStall opts status repos now evidence with
    | some (reason, detail) =>
      add {
        event := "runner-restart-skipped", severity := .warning, unit := status.unitName
        runner := gh.name, reason := reason, detail := detail }
    | none => restartStalled opts status gh state now evidence incident

/-- A runner that GitHub reports idle while jobs wait. -/
def judgeStall (status : Status) (gh : GitHubRunner) (repos : List String) (state : RerunState)
    (now : Int) (evidence : QueueEvidence) : Patrol Unit := do
  match (← idleCheck opts).reason with
  | some (reason, detail) =>
    add {
      event := "runner-restart-skipped", severity := .warning, unit := status.unitName
      runner := gh.name, reason := reason, detail := detail
      queuedJobs := evidence.eligibleJobs }
  | none =>
    count fun metrics => { metrics with queueStalls := metrics.queueStalls + 1 }
    match (state.queueStalls status.unitName).filter
      fun incident => incident.signature = evidence.signature with
    | none => armStall opts status gh state now evidence
    | some incident => observeStall opts status gh repos state now evidence incident

/-- The only active runner of an organization. -/
def recoverOrgRunner (status : Status) (repos : List String) : Patrol Unit := do
  match ← watchdogOrgRunner status with
  | .error error =>
    add {
      event := "runner-restart-skipped", severity := .warning, unit := status.unitName
      reason := "github-org-runners-failed", detail := some error }
    raiseExit 1
  | .ok none => return ()
  | .ok (some gh) =>
  match ← loadRerunState with
  | .error error =>
    add {
      event := "runner-restart-skipped", severity := .critical, unit := status.unitName
      runner := gh.name, reason := "marker-read-failed", detail := some error }
    raiseExit 2
  | .ok state =>
    let existing := (state.queueStalls status.unitName).isSome
    if gh.status = "online" ∧ gh.busy then
      clearQueueStallIncident opts state status gh existing "runner-consuming-job"
    else if gh.status ≠ "online" ∨ gh.busy then return ()
    else
      let now ← perform .now
      match ← perform (.queuedJobs repos now opts.maxRunAge) with
      | .error error =>
        add {
          event := "runner-restart-skipped", severity := .warning, unit := status.unitName
          runner := gh.name, reason := "queued-jobs-unknown", detail := some error }
        raiseExit 1
      | .ok evidence =>
        if evidence.eligibleJobs = 0 then
          clearQueueStallIncident opts state status gh existing "eligible-queue-empty"
        else judgeStall opts status gh repos state now evidence

def recoverWatchdogOrgIdleWithQueue (systemd : List Status) (repos : List String) :
    Patrol Unit :=
  match systemd.filter Status.servesOrg with
  | [] => return ()
  | [status] => if repos = [] then return () else recoverOrgRunner opts status repos
  | _ =>
    add {
      event := "runner-restart-skipped", severity := .warning
      reason := "ambiguous-org-runner"
      detail := some (.text "mais de 1 runner org ativo; nenhuma unit escolhida") }

/-! ## Units that are down -/

/-- Values by unit or by repository. -/
abbrev Table (α : Type) := AList fun _ : String => α

def trimDashes (value : String) : String :=
  String.ofList ((value.toList.dropWhile (· = '-')).reverse.dropWhile (· = '-')).reverse

/-- The last unit of that repository and name. -/
def localRunner (systemd : List Status) (repo name : String) : Option Status :=
  (systemd.filter fun status =>
    status.repo ++ "/" ++ status.name = repo ++ "/" ++ name).getLast?

def downUnits (systemd : List Status) : Table String :=
  systemd.foldl (fun candidates status =>
    if status.unitName = "" ∨ status.running then candidates
    else candidates.insert status.unitName
      ("systemd-" ++ trimDashes (status.activeState ++ "-" ++ status.subState))) ∅

/-- The units of the runners that GitHub reports offline. -/
def offlineUnits (systemd : List Status) (repo : String) (runners : List GitHubRunner) :
    List String :=
  (runners.filter fun gh => gh.status = "offline").filterMap fun gh =>
    match localRunner systemd repo gh.name with
    | some status => if status.unitName ≠ "" then some status.unitName else none
    | none => none

def restartCandidates (systemd : List Status) (ghByRepo : Table (List GitHubRunner)) :
    Table String :=
  (ghByRepo.entries.flatMap fun entry => offlineUnits systemd entry.1 entry.2).foldl
    (fun candidates unit => candidates.insert unit "github-offline") (downUnits systemd)

/-- The candidates that do not collide with a runner of their organization. -/
def dropRedundant : List Collision → Table String → Patrol (Table String)
  | [], candidates => return candidates
  | collision :: rest, candidates =>
    if collision.repoUnit ∈ candidates then do
      add {
        event := "runner-restart-skipped", severity := .warning, unit := collision.repoUnit
        reason := "redundant-repo-runner"
        detail := some (.text ("colide com " ++ collision.orgName ++ " para " ++
          collision.repo ++ "; remover em vez de restartar")) }
      dropRedundant rest (candidates.erase collision.repoUnit)
    else dropRedundant rest candidates

/-- Restarts the units one after another, up to the first failure. -/
def restartEach : List (String × String) → Patrol (Option Error)
  | [] => return none
  | (unit, reason) :: rest => do
    let event : WatchdogEvent := {
      event := "runner-restarted", severity := .info, unit := unit, reason := reason
      executed := opts.execute }
    if ¬opts.execute then
      add event
      restartEach rest
    else if ← hasLocalRunnerWorker then
      add {
        event := "runner-restart-skipped", severity := .warning, unit := unit
        reason := "host-busy", detail := some (.text "Runner.Worker appeared before restart") }
      restartEach rest
    else
      match ← opts.restartFn .candidate unit with
      | none =>
        add event
        restartEach rest
      | some error =>
        if error.is .runnerBecameBusy then
          add {
            event := "runner-restart-skipped", severity := .warning, unit := unit
            reason := "host-busy-after-freeze", detail := some error }
          restartEach rest
        else
          add { event with severity := .critical, detail := some error }
          return some error

def sortedEntries (candidates : Table String) : List (String × String) :=
  (candidates.keys.mergeSort fun first second => first ≤ second).map fun unit =>
    (unit, (candidates.lookup unit).getD "")

def restartWatchdogRunners (systemd : List Status) (ghByRepo : Table (List GitHubRunner)) :
    Patrol (Option Error) := do
  let candidates ← dropRedundant (detectCollisions systemd) (restartCandidates systemd ghByRepo)
  restartEach opts (sortedEntries candidates)

end Civm.Runner
