import Civm.Runner.Recovery

/-! # Broken runners

A cleanup of a work root that failed leaves a sentinel in `hooks.jsonl`. The
watchdog restarts the unit that owns the work root, at most once for each
sentinel and so many times an hour. -/

namespace Civm.Runner

variable (opts : WatchdogOptions)

def hookRecordIsBrokenSentinel (record : HookLogRecord) : Bool :=
  record.actions.any fun (name, error) => name = "work_root" && Text.trimSpace error ≠ ""

/-- The better of the unit found so far and the next one: the one with the
longer directory, and the first of two. -/
def closerUnit (workRoot : String) (best : Option (String × Nat)) (status : Status) :
    Option (String × Nat) :=
  if status.unitName = "" ∨ status.workingDirectory = "" then best
  else
    let directory := Text.clean status.workingDirectory
    if workRoot = directory ∨ Text.hasPrefix workRoot (directory ++ "/") then
      if best.all fun (_, length) => directory.utf8ByteSize > length then
        some (status.unitName, directory.utf8ByteSize)
      else best
    else best

/-- `unitForWorkRoot`: the unit that owns the work root, if any does. -/
def unitForWorkRoot (workRoot : String) (systemd : List Status) : Option String :=
  (systemd.foldl (closerUnit (Text.clean workRoot)) none).map Prod.fst

/-- Adds the time under the key if it is later than what is there. -/
def Table.later (table : Table Int) (key : String) (time : Int) : Table Int :=
  if time > (table.lookup key).getD 0 then table.insert key time else table

/-- The sentinel of a line: its work root and its time, if it is recent. -/
def sentinelOf (now : Int) (line : Option HookLogRecord) : Option (String × Int) :=
  line.bind fun record =>
    let time := if record.time = 0 then now else record.time
    if record.workRoot = "" ∨ ¬hookRecordIsBrokenSentinel record ∨ time < now - hour then none
    else some (record.workRoot, time)

/-- The newest recent sentinel of each work root, in the last 500 lines. -/
def brokenSentinels (now : Int) (lines : List (Option HookLogRecord)) : Table Int :=
  ((lines.drop (lines.length - 500)).filterMap (sentinelOf now)).foldl
    (fun sentinelAt sentinel => sentinelAt.later sentinel.1 sentinel.2) ∅

def parseBrokenSentinels (now : Int) : Script (Table Int) := do
  match ← perform .readHooksLog with
  | .error _ => return ∅
  | .ok lines => return brokenSentinels now lines

/-- The newest sentinel of each unit. -/
def mapSentinelsToUnits (systemd : List Status) :
    List (Σ _ : String, Int) → Table Int → Patrol (Table Int)
  | [], unitSentinel => return unitSentinel
  | ⟨workRoot, time⟩ :: rest, unitSentinel =>
    match unitForWorkRoot workRoot systemd with
    | none => do
      add {
        event := "runner-auto-restart-skipped", severity := .warning
        reason := "no-unit-for-work-root", detail := some (.text workRoot) }
      mapSentinelsToUnits systemd rest unitSentinel
    | some unit => mapSentinelsToUnits systemd rest (unitSentinel.later unit time)

/-- The window of the current hour. What was acted on stays known. -/
def AutoRestartWindow.current (window : AutoRestartWindow) (now : Int) : AutoRestartWindow :=
  if window.windowStart = 0 ∨ now - window.windowStart ≥ hour then ⟨0, now, window.lastActed⟩
  else window

/-- The units to restart, and the state that reserves their restarts. -/
def selectUnitsToRestart (now : Int) :
    List (String × Int) → RerunState → Patrol (List String × RerunState)
  | [], state => return ([], state)
  | (unit, time) :: rest, state => do
    let window := ((state.autoRestarts unit).getD .none).current now
    if time ≤ window.lastActed then selectUnitsToRestart now rest state
    else if window.count ≥ opts.autoRestartPerHour then
      add {
        event := "runner-auto-restart-skipped", severity := .warning, unit := unit
        reason := "rate-cap-reached"
        detail := some (.text (toString window.count ++ "/" ++
          toString opts.autoRestartPerHour ++ " this hour")) }
      selectUnitsToRestart now rest state
    else if ¬opts.execute then
      add {
        event := "runner-auto-restarted", severity := .warning, unit := unit
        reason := "broken-runner-sentinel" }
      selectUnitsToRestart now rest state
    else
      let reserved := { window with count := window.count + 1, lastActed := time }
      let (units, state) ← selectUnitsToRestart now rest (state.setWindow unit reserved)
      return (unit :: units, state)

def executeRestarts : List String → Patrol Unit
  | [] => return ()
  | unit :: rest => do
    let event : WatchdogEvent := {
      event := "runner-auto-restarted", severity := .warning, unit := unit
      reason := "broken-runner-sentinel", executed := true }
    match ← opts.restartFn .sentinel unit with
    | none => add event
    | some error =>
      if error.is .runnerBecameBusy then
        add {
          event := "runner-auto-restart-skipped", severity := .warning, unit := unit
          reason := "host-busy-after-freeze", detail := some error }
      else
        raiseExit 2
        add { event with severity := .critical, detail := some error }
    executeRestarts rest

def sortedTimes (unitSentinel : Table Int) : List (String × Int) :=
  (unitSentinel.keys.mergeSort fun first second => first ≤ second).map fun unit =>
    (unit, (unitSentinel.lookup unit).getD 0)

/-- The restarts of units with a sentinel. The state is saved before any of
them. -/
def restartBroken (now : Int) (unitSentinel : Table Int) : Patrol Unit := do
  match ← loadRerunState with
  | .error error =>
    add {
      event := "runner-auto-restart-skipped", severity := .warning
      reason := "marker-read-failed", detail := some error }
  | .ok state =>
    let (units, state) ← selectUnitsToRestart opts now (sortedTimes unitSentinel) state
    if units = [] then return ()
    else
      match ← writeRerunState state with
      | some error =>
        add {
          event := "runner-auto-restart-skipped", severity := .critical
          reason := "marker-write-failed", detail := some error }
        raiseExit 2
      | none => executeRestarts opts units

def detectBrokenRunner (systemd : List Status) : Patrol Unit := do
  let now ← perform .now
  let sentinelAt ← parseBrokenSentinels now
  if sentinelAt.keys = [] then return ()
  else
    let unitSentinel ← mapSentinelsToUnits systemd sentinelAt.entries ∅
    if unitSentinel.keys = [] then return () else restartBroken opts now unitSentinel

end Civm.Runner
