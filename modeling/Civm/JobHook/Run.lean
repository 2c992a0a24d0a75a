import Civm.JobHook.Containers

/-! # The job hook

`hook.Run` for both events, with its decision, its exit code and its line in the log, and
the options with which `civmctl hook` runs it. -/

namespace Civm.JobHook

open Hook (Action)

def message : Cleanup.Error → String
  | .sentinel .unsafePath => "safedelete: unsafe path"
  | .text text => text
  | .wrap before cause after => before ++ message cause ++ after
  | .pair first between second => message first ++ between ++ message second

def errorText (action : Action) : String := (action.error.map message).getD ""

/-! ## Caches -/

/-- What the hook keeps of a `CacheTrim.Cap`. -/
structure CacheCap where
  path : String
  maxBytes : Int
  minProtect : Int

def CacheCap.of (cap : CacheTrim.Cap) : CacheCap := ⟨cap.path, cap.maxBytes, cap.minProtect⟩

def cacheCaps (home : String) : CacheTrim.Script (List CacheCap) := do
  return (← CacheTrim.caps [home]).map CacheCap.of

def trimCacheByAge (opts : Options) (root : String) (maxBytes minProtect : Int) :
    CacheTrim.Script Action := do
  let result ← CacheTrim.trimByAge
    { execute := opts.execute, now := opts.now, inFlightFloor := 0, home := opts.home }
    { path := root, maxBytes := maxBytes, minProtect := minProtect
      packageDepth := 0, wipeWhole := false }
  return { Action.named "cache_trim" result.path result.executed with
    error := result.error.map fun failure => .text failure.text }

/-- Whether `filepath.Rel` leads from the home downwards. -/
def isBelow (home path : String) : Bool :=
  home ≠ "." && path ≠ home && Text.hasPrefix path (if home = "/" then "/" else home ++ "/")

def purgeCacheAtIdle (opts : Options) (path : String) : CacheTrim.Script Action :=
  let action := Action.named "cache_purge_idle" path opts.execute
  let clean := Text.clean path
  if ¬isBelow (Text.clean opts.home) clean then
    return { action with error := some (.text "unsafe cache path outside HOME") }
  else if ¬opts.execute then return action
  else do
    match ← CacheTrim.perform (.removeAll clean []) with
    | some failure =>
      if failure.notExist then return action
      else return { action with error := some (.text failure.text) }
    | none => return action

def trimCache (opts : Options) (purgeCaches : Bool) (cap : CacheCap) : CacheTrim.Script Action :=
  if purgeCaches then trimCacheByAge opts cap.path cap.maxBytes cap.minProtect
  else purgeCacheAtIdle opts cap.path

def trimCaches (opts : Options) (purgeCaches : Bool) :
    List CacheCap → CacheTrim.Script (List Action)
  | [] => return []
  | cap :: rest => do
    let action ← trimCache opts purgeCaches cap
    return action :: (← trimCaches opts purgeCaches rest)

/-- Whether nothing runs on the host but what is under the own directories. -/
def cacheTrimIsIdle (ownDirs : List String) : Script Bool :=
  if ownDirs = [] then return false
  else do
    match ← perform .activities with
    | none => return false
    | some activities =>
      return activities.all fun activity => ownDirs.any (Text.contains activity.command)

/-! ## Cleanup -/

def cleanRoots (opts : Options) (purgeCaches : Bool) : List String → Script (List Action)
  | [] => return []
  | root :: rest => do
    let killed ← killWorkRootContainers opts root
    let cleaned ← onRoots (Hook.cleanWorkRoot opts.toOptions root purgeCaches)
    let stub ← onRoots (Hook.ensureWorkspaceStub opts.toOptions root)
    return killed :: cleaned :: stub :: (← cleanRoots opts purgeCaches rest)

def cleanCaches (opts : Options) (purgeCaches isIdle : Bool) (caps : List CacheCap) :
    Script (List Action) :=
  if isIdle then onCaches (trimCaches opts purgeCaches caps)
  else
    return [Action.named "cache_trim_deferred_sibling_build" "(another runner's build is active)"
      false]

def pruneIdleImages (opts : Options) (isIdle : Bool) : Script (List Action) :=
  if isIdle then do
    let action ← commandActionWarn opts "docker_image_prune_idle" "docker"
      ["image", "prune", "-a", "-f"]
    return [action]
  else return []

/-- The containers and images of the run that is over. -/
def reapRun (opts : Options) (purgeCaches isIdle : Bool) : Script (List Action) :=
  if purgeCaches then return []
  else do
    let containers ← reapRunContainers opts
    let images ← reapRunImages opts
    let idle ← pruneIdleImages opts isIdle
    return containers :: images ++ idle

def pruneVolumes (opts : Options) (purgeCaches isIdle : Bool) : Script Action :=
  if ¬purgeCaches ∧ isIdle then
    commandActionWarn opts "docker_volume_prune_idle" "docker" ["volume", "prune", "-a", "-f"]
  else commandActionWarn opts "docker_volume_prune" "docker" ["volume", "prune", "-f"]

def cleanup (opts : Options) (purgeCaches : Bool) : Script (List Action) := do
  let roots := Hook.workRoots opts.toOptions
  let caps ← onCaches (cacheCaps opts.home)
  let ofRoots ← cleanRoots opts purgeCaches roots
  let isIdle ← cacheTrimIsIdle (roots.map fun root => Text.dir root ++ "/")
  let ofCaches ← cleanCaches opts purgeCaches isIdle caps
  let buildx ← commandActionWarn opts "docker_buildx_prune" "docker"
    (["buildx", "prune", "--force"] ++
      if purgeCaches then ["--all"] else ["--filter", "until=24h"])
  let image ← commandActionWarn opts "docker_image_prune" "docker" ["image", "prune", "-f"]
  let ofRun ← reapRun opts purgeCaches isIdle
  let container ← commandActionWarn opts "docker_container_prune" "docker"
    ["container", "prune", "-f"]
  let volume ← pruneVolumes opts purgeCaches isIdle
  let apt ← commandActionWarn opts "apt_clean" "sudo" ["apt-get", "clean"]
  let journal ← commandActionWarn opts "journal_vacuum" "sudo" ["journalctl", "--vacuum-time=1d"]
  let fstrim ← commandActionWarn opts "fstrim" "sudo" ["fstrim", "-av"]
  return ofRoots ++ ofCaches ++ [buildx, image] ++ ofRun ++
    [container, volume, apt, journal, fstrim]

def diskUsedPct (opts : Options) : Script (Except String Int) := do
  match ← perform (.statfs opts.filesystemPath) with
  | .error text => return .error text
  | .ok (total, free) =>
    if total = 0 then return .error "statfs total = 0"
    else return .ok ((total - free) * 100 / total).toInt64.toInt

def diskFreeGB (opts : Options) : Script (Option Int) := do
  match ← perform (.statfs opts.filesystemPath) with
  | .error _ => return none
  | .ok (_, free) => return some (free / (1024 * 1024 * 1024)).toInt64.toInt

/-! ## Results -/

def appendLog (opts : Options) (res : Result) : Script Unit :=
  if opts.logPath = "" ∨ ¬opts.execute then return ()
  else do
    match ← perform (.logDirectory (Text.dir opts.logPath)) with
    | some _ => return ()
    | none =>
      match ← perform (.openLog opts.logPath) with
      | some _ => return ()
      | none =>
        let _ ← perform (.log opts.logPath res)
        return ()

/-- No error and no rejection has the exit code 0. -/
def Result.settled (res : Result) : Result :=
  if res.exitCode = 0 ∧ (res.decision = .error ∨ res.decision = .rejected) then
    { res with exitCode := 1 }
  else res

def finish (opts : Options) (res : Result) : Script Result := do
  appendLog opts res.settled
  return res.settled

def errorResult (res : Result) (text : String) : Result :=
  { res with decision := .error, exitCode := 1, error := text }

def firstActionError (actions : List Action) : Option String :=
  (actions.find? fun action => errorText action ≠ "").map fun action =>
    action.name ++ ": " ++ errorText action

def isIgnorableCacheDeleteRace (action : Action) : Bool :=
  (action.name = "cache" || action.name = "cache_trim") &&
    Text.contains (String.ofList (Runner.toLower (errorText action))) "directory not empty"

def onlyIgnorableCacheDeleteRaces (actions : List Action) : Bool :=
  let failed := actions.filter fun action => errorText action ≠ ""
  failed ≠ [] && failed.all isIgnorableCacheDeleteRace

def demoteIgnorableCacheDeleteRaces (actions : List Action) : List Action :=
  actions.map fun action =>
    if isIgnorableCacheDeleteRace action then { action with warning := action.error, error := none }
    else action

/-! ## The events -/

def hostRejection (host : HostDisk.Report) : String :=
  "host V: free " ++ toString host.metrics.vFreeGB ++ "GB at crit floor (level=" ++
    host.level.name ++ ") — refusing job to avoid PausedCritical"

def diskRejection (opts : Options) (usedPct : Int) : String :=
  "disk usage " ++ toString usedPct ++ "% >= hard fail threshold " ++
    toString opts.hardFailPct ++ "%"

/-- The rejection of a job, at the end of `job-started`. -/
def gate (opts : Options) (host : HostDisk.Report) (res : Result) : Result :=
  if opts.hardFailPct ≤ res.diskUsedPct then
    { res with
      decision := .rejected, exitCode := 75, error := diskRejection opts res.diskUsedPct }
  else if host.blocks then
    { res with decision := .rejected, exitCode := 75, error := hostRejection host }
  else res

def Result.seeing (res : Result) (host : HostDisk.Report) : Result :=
  { res with hostLevel := some host.level, hostVFreeGB := host.metrics.vFreeGB }

/-- The usage is kept if it cannot be measured again. -/
def Result.measured (res : Result) : Except String Int → Result
  | .ok used => { res with diskUsedPct := used }
  | .error _ => res

/-- The result after a cleanup before a job. Caches that are written to meanwhile are no
reason to fail. -/
def afterCleanup (opts : Options) (host : HostDisk.Report) (res : Result) : Result :=
  match firstActionError res.actions with
  | none => gate opts host res
  | some text =>
    if onlyIgnorableCacheDeleteRaces res.actions then
      gate opts host { res with actions := demoteIgnorableCacheDeleteRaces res.actions }
    else errorResult res text

/-- The rest of `job-started`, with the report on the host. -/
def startJob (opts : Options) (host : HostDisk.Report) (res : Result) : Script Result := do
  let reclaimed ← onRoots (Hook.reclaimWorkspaceOwnership opts.toOptions)
  let reaped ← reapOrphanCIContainers opts
  let res := { res with actions := reclaimed ++ [reaped] }
  let free ← diskFreeGB opts
  if opts.preCleanupPct ≤ res.diskUsedPct ∨ host.wantsCleanup ∨
    free.any (· < opts.minFreeGB) then
    let cleaned ← cleanup opts true
    let res := { res with decision := .cleanupApplied, actions := res.actions ++ cleaned }
    let measured ← diskUsedPct opts
    finish opts (afterCleanup opts host (res.measured measured))
  else finish opts (gate opts host res)

def jobStarted (opts : Options) (res : Result) : Script Result := do
  let host ← perform .hostDisk
  startJob opts host (res.seeing host)

/-- The result after a job. An action that failed degrades it. -/
def Result.cleaned (res : Result) (actions : List Action) : Result :=
  match firstActionError actions with
  | some text => { res with decision := .cleanupDegraded, actions := actions, error := text }
  | none => { res with decision := .cleanupApplied, actions := actions }

def jobCompleted (opts : Options) (res : Result) : Script Result := do
  let host ← perform .hostDisk
  let actions ← cleanup opts false
  let measured ← diskUsedPct opts
  finish opts (((res.seeing host).cleaned actions).measured measured)

def applyDefaults (opts : Options) : Options :=
  { opts with
    preCleanupPct := if opts.preCleanupPct = 0 then 60 else opts.preCleanupPct
    hardFailPct := if opts.hardFailPct = 0 then 90 else opts.hardFailPct
    filesystemPath := if opts.filesystemPath = "" then "/" else opts.filesystemPath }

def emptyResult (opts : Options) : Result where
  event := opts.event
  repository := opts.repository
  runID := opts.runID
  workRoot := opts.workRoot

def runWith (opts : Options) : Script Result := do
  match ← diskUsedPct opts with
  | .error text => finish opts (errorResult (emptyResult opts) text)
  | .ok used =>
    let res := { emptyResult opts with diskUsedPct := used }
    match opts.event with
    | .jobStarted => jobStarted opts res
    | .jobCompleted => jobCompleted opts res
    | .unsupported name =>
      finish opts (errorResult res ("unsupported hook event \"" ++ name ++ "\""))

def run (opts : Options) : Script Result := runWith (applyDefaults opts)

/-! ## The command line -/

def eventOf (name : String) : Hook.Event :=
  if name = "job-started" then .jobStarted
  else if name = "job-completed" then .jobCompleted
  else .unsupported name

def composeProjectFromEnv (getenv : String → String) : String :=
  let slot := Text.trimSpace (getenv "CIVM_RUNNER_SLOT")
  if slot ≠ "" then slot else Text.trimSpace (getenv "COMPOSE_PROJECT_NAME")

def defaultHooksLogPath : String := "/var/log/civm/hooks.jsonl"

def defaultOptionsFromEnv (getenv : String → String) (now : Int) (event : Hook.Event) :
    Options where
  event := event
  execute := false
  preCleanupPct := 60
  hardFailPct := 90
  minFreeGB := 58
  filesystemPath := "/"
  workRoot := ""
  runnerTemp := getenv "RUNNER_TEMP"
  gitHubWorkspace := getenv "GITHUB_WORKSPACE"
  repository := getenv "GITHUB_REPOSITORY"
  runID := getenv "GITHUB_RUN_ID"
  composeProject := composeProjectFromEnv getenv
  logPath := defaultHooksLogPath
  now := now
  home := getenv "HOME"

/-- The flags of `civmctl hook <event>` that reach the hook. -/
structure Flags where
  execute : Bool := false
  preCleanupPct : Int := 60
  hardFailPct : Int := 90
  minFreeGB : Int := 58
  hostMetricsPath : String := HostDisk.defaultHostMetricsPath

/-- The options of `runHookEvent`. -/
def hookEventOptions (getenv : String → String) (now : Int) (event : String) (flags : Flags) :
    Options :=
  { defaultOptionsFromEnv getenv now (eventOf event) with
    execute := flags.execute
    preCleanupPct := flags.preCleanupPct
    hardFailPct := flags.hardFailPct
    minFreeGB := flags.minFreeGB }

end Civm.JobHook
