import Civm.Hook.Confinement
import Civm.JobHook.HostGate
import Civm.Runner.Patrols

/-! # From a failed cleanup to the watchdog

The line that a hook leaves in the log, and the unit that the watchdog takes it for. -/

namespace Civm.JobHook

open Hook (Action)

/-! ## The line of a hook -/

/-- The hook has logged nothing but its result, which names the work root. -/
def Signs (workRoot : String) (res : Result) (events : List (Event Answer)) : Prop :=
  res.workRoot = workRoot ∧ ∀ logged, .logged logged ∈ notesIn events → logged = res

def Quiet (events : List (Event Answer)) : Prop := ∀ logged, .logged logged ∉ notesIn events

theorem Reports.quiet {actions : List Action} {events : List (Event Answer)}
    (reports : Reports actions (notesIn events)) : Quiet events := by
  intro logged member
  rcases reports _ member with ⟨text, same, _⟩
  cases same

theorem Quiet.signs {workRoot : String} {res : Result} {events more : List (Event Answer)}
    (quiet : Quiet events) (signs : Signs workRoot res more) :
    Signs workRoot res (events ++ more) := by
  refine ⟨signs.1, fun logged member => ?_⟩
  rw [notesIn_append] at member
  rcases List.mem_append.mp member with early | late
  · exact absurd early (quiet logged)
  · exact signs.2 logged late

theorem signs_bind {script : Script α} {next : α → Script Result} {workRoot : String}
    (first : script.Ends Program.everything fun _ events => Quiet events)
    (second : ∀ value, (next value).Ends Program.everything (Signs workRoot)) :
    (script >>= next).Ends Program.everything (Signs workRoot) := by
  refine first.bind fun value events quiet => ?_
  exact (second value).mono fun res more signs => quiet.signs signs

theorem quiet_of_reports {script : Script (List Action)} (reports : script.Ends notes Reports) :
    script.Ends Program.everything fun _ events => Quiet events :=
  reports.everything.mono fun _ _ reported => reported.quiet

theorem quiet_of_accounts {script : Script Action} (accounts : Accounts script) :
    script.Ends Program.everything fun _ events => Quiet events :=
  accounts.everything.mono fun _ _ reported => reported.quiet

theorem diskUsedPct_quiet (opts : Options) :
    (diskUsedPct opts).Ends Program.everything fun _ events => Quiet events := by
  rw [← bind_pure (diskUsedPct opts)]
  apply diskUsedPct_ends
  · exact fun _ _ _ => Program.ends_pure.mpr fun _ => List.not_mem_nil
  · exact fun _ _ _ => Program.ends_pure.mpr fun _ => List.not_mem_nil

theorem diskFreeGB_quiet (opts : Options) :
    (diskFreeGB opts).Ends Program.everything fun _ events => Quiet events := by
  refine Program.ends_perform.mpr fun answer => ?_
  cases answer with
  | error text | ok sizes => exact Program.ends_pure.mpr fun _ => List.not_mem_nil

theorem finish_signs (opts : Options) (res : Result) :
    (finish opts res).Ends Program.everything (Signs res.workRoot) := by
  refine (finish_ends opts res).mono ?_
  rintro result events ⟨rfl, logged⟩
  refine ⟨?_, fun other member => ?_⟩
  · unfold Result.settled
    split <;> rfl
  · cases logged _ member
    rfl

/-! ## The work root of the result -/

@[simp] theorem workRoot_errorResult (res : Result) (text : String) :
    (errorResult res text).workRoot = res.workRoot := rfl

@[simp] theorem workRoot_seeing (res : Result) (host : HostDisk.Report) :
    (res.seeing host).workRoot = res.workRoot := rfl

@[simp] theorem workRoot_measured (res : Result) (measured : Except String Int) :
    (res.measured measured).workRoot = res.workRoot := by
  cases measured <;> rfl

@[simp] theorem workRoot_cleaned (res : Result) (actions : List Action) :
    (res.cleaned actions).workRoot = res.workRoot := by
  unfold Result.cleaned
  split <;> rfl

@[simp] theorem workRoot_gate (opts : Options) (host : HostDisk.Report) (res : Result) :
    (gate opts host res).workRoot = res.workRoot := by
  unfold gate
  split
  · rfl
  · split <;> rfl

@[simp] theorem workRoot_afterCleanup (opts : Options) (host : HostDisk.Report) (res : Result) :
    (afterCleanup opts host res).workRoot = res.workRoot := by
  unfold afterCleanup
  split
  · exact workRoot_gate opts host res
  · split
    · exact workRoot_gate opts host _
    · rfl

theorem finish_signs_of {opts : Options} {res : Result} {workRoot : String}
    (same : res.workRoot = workRoot) :
    (finish opts res).Ends Program.everything (Signs workRoot) :=
  same ▸ finish_signs opts res

theorem startJob_signs (opts : Options) (host : HostDisk.Report) (res : Result) :
    (startJob opts host res).Ends Program.everything (Signs res.workRoot) := by
  have reclaims := ends_onRoots (reclaimWorkspaceOwnership_reports opts.toOptions)
  refine signs_bind (quiet_of_reports reclaims) fun reclaimed => ?_
  refine signs_bind (quiet_of_accounts (reapOrphanCIContainers_accounts opts)) fun reaped => ?_
  refine signs_bind (diskFreeGB_quiet opts) fun free => ?_
  rw [Program.ends_ite]
  constructor
  · intro _
    refine signs_bind (quiet_of_reports (cleanup_reports opts true)) fun cleaned => ?_
    refine signs_bind (diskUsedPct_quiet opts) fun measured => ?_
    exact finish_signs_of (by simp)
  · intro _
    exact finish_signs_of (by simp)

theorem jobCompleted_signs (opts : Options) (res : Result) :
    (jobCompleted opts res).Ends Program.everything (Signs res.workRoot) := by
  refine Program.ends_perform.mpr fun host => ?_
  have quiet : Quiet [⟨.hostDisk, host⟩] := fun _ => List.not_mem_nil
  refine Program.Ends.mono ?_ fun result events signs => quiet.signs signs
  refine signs_bind (quiet_of_reports (cleanup_reports opts false)) fun cleaned => ?_
  refine signs_bind (diskUsedPct_quiet opts) fun measured => ?_
  exact finish_signs_of (by simp)

theorem run_signs (opts : Options) :
    (run opts).Ends Program.everything (Signs opts.workRoot) := by
  unfold run runWith
  refine signs_bind (diskUsedPct_quiet _) fun measured => ?_
  cases measured with
  | error text => exact finish_signs_of rfl
  | ok used =>
    dsimp only
    split
    · refine Program.ends_perform.mpr fun host => ?_
      have quiet : Quiet [⟨.hostDisk, host⟩] := fun _ => List.not_mem_nil
      exact (startJob_signs _ host _).mono fun result events signs => quiet.signs signs
    · exact jobCompleted_signs _ _
    · exact finish_signs_of rfl

/-! ## What the watchdog makes of it -/

/-- What the watchdog reads of a line of `hooks.jsonl`. -/
def logLine (time : Int) (res : Result) : Runner.HookLogRecord where
  time := time
  workRoot := res.workRoot
  actions := res.actions.map fun action => (action.name, errorText action)

/-- The watchdog finds the line and takes it for a sentinel of the unit. -/
structure Signals (systemd : List Runner.Status) (now : Int)
    (lines : List (Option Runner.HookLogRecord)) (record : Runner.HookLogRecord) (unit : String) :
    Prop where
  found : ∃ seen, (Runner.brokenSentinels now lines).lookup record.workRoot = some seen ∧
    record.time ≤ seen
  owner : Runner.unitForWorkRoot record.workRoot systemd = some unit
  mapped : Runner.Computes
    (Runner.mapSentinelsToUnits systemd (Runner.brokenSentinels now lines).entries ∅)
    fun unitSentinel => ∃ latest, unitSentinel.lookup unit = some latest ∧ record.time ≤ latest

section

open Runner (Peaks brokenSentinels sentinelOf recent owned unitForWorkRoot)

variable {systemd : List Runner.Status} {now : Int} {lines : List (Option Runner.HookLogRecord)}
variable {record : Runner.HookLogRecord}

theorem lookup_of_peaks {pairs : List (String × Int)} {table : Runner.Table Int} {key : String}
    {time : Int} (peaks : Peaks pairs table) (member : (key, time) ∈ pairs) (positive : 0 < time) :
    ∃ top, table.lookup key = some top ∧ time ≤ top := by
  have below := peaks.peak key time member
  cases held : table.lookup key with
  | none =>
    rw [held, Option.getD_none] at below
    omega
  | some top =>
    rw [held] at below
    exact ⟨top, rfl, below⟩

theorem ne_empty_of_sentinelOf {line : Option Runner.HookLogRecord} {workRoot : String} {time : Int}
    (sentinel : sentinelOf now line = some (workRoot, time)) : workRoot ≠ "" := by
  rcases Option.bind_eq_some_iff.mp sentinel with ⟨record, rfl, found⟩
  rw [Option.ite_none_left_eq_some, Option.some.injEq, Prod.mk.injEq] at found
  rcases found with ⟨kept, rfl, rfl⟩
  exact fun empty => kept (.inl empty)

/-- A recent sentinel reaches the unit that owns its work root, and only that one. A line
without a work root is no sentinel. -/
theorem signals_iff (broken : Runner.hookRecordIsBrokenSentinel record = true)
    (positive : 0 < record.time) (within : now - record.time ≤ Runner.hour)
    (kept : some record ∈ recent lines) (unit : String) :
    Signals systemd now lines record unit ↔
      record.workRoot ≠ "" ∧ unitForWorkRoot record.workRoot systemd = some unit := by
  have sentinels := Runner.brokenSentinels_peaks now lines
  constructor
  · intro signals
    refine ⟨fun empty => ?_, signals.owner⟩
    rcases signals.found with ⟨seen, held, _⟩
    rcases List.mem_filterMap.mp (sentinels.found _ _ held).1 with ⟨line, _, sentinel⟩
    exact ne_empty_of_sentinelOf sentinel empty
  · rintro ⟨named, owner⟩
    have sentinel : sentinelOf now (some record) = some (record.workRoot, record.time) := by
      have timed : record.time ≠ 0 := by omega
      have late : ¬record.time < now - Runner.hour := by omega
      simp [sentinelOf, timed, named, broken, late]
    have member := List.mem_filterMap.mpr ⟨some record, kept, sentinel⟩
    rcases lookup_of_peaks sentinels member positive with ⟨seen, held, above⟩
    refine ⟨⟨seen, held, above⟩, owner, ?_⟩
    refine (Runner.mapSentinelsToUnits_computes .empty).mono fun table peaks => ?_
    rw [List.nil_append] at peaks
    have belongs : (unit, seen) ∈ owned systemd (brokenSentinels now lines).entries :=
      List.mem_filterMap.mpr ⟨⟨record.workRoot, seen⟩, AList.mem_lookup_iff.mp held, by simp [owner]⟩
    rcases lookup_of_peaks peaks belongs (by omega) with ⟨latest, found, higher⟩
    exact ⟨latest, found, by omega⟩

end

/-- The cleanup of the root has failed with that result. -/
def RootFailed (root : String) (res : Result) : Prop :=
  ∃ action ∈ res.actions, action.name = "work_root" ∧ action.path = root ∧
    Text.trimSpace (errorText action) ≠ ""

theorem RootFailed.broken {root : String} {res : Result} (failed : RootFailed root res)
    (time : Int) : Runner.hookRecordIsBrokenSentinel (logLine time res) = true := by
  rcases failed with ⟨action, member, named, _, text⟩
  simp only [Runner.hookRecordIsBrokenSentinel, logLine, List.any_map, List.any_eq_true]
  exact ⟨action, member, by simp [named, text]⟩

theorem workRoot_of_written {World : Type} {outside : Outside Answer World} {opts : Options}
    {world world' : World} {trace : List (Event Answer)} {res logged : Result} {path : String}
    (execution : Execution outside (run opts) [] world trace world' (some res))
    (written : ⟨.log path logged, true⟩ ∈ trace) : logged.workRoot = opts.workRoot := by
  rcases (run_signs opts).returns_everything execution with ⟨events, added, owns, only⟩
  obtain rfl : trace = events := added
  have noted : .logged logged ∈ notesIn trace :=
    List.mem_flatMap.mpr ⟨_, written, List.mem_singleton_self _⟩
  rw [only logged noted]
  exact owns

/-- The line of a hook whose cleanup of a root has failed reaches the unit, as long as it is
recent, if and only if the options name a work root of the unit. -/
theorem signal_reaches_unit_iff {World : Type} {outside : Outside Answer World}
    {getenv : String → String} {start : Int} {event : String} {flags : Flags} {workRoot : String}
    {world world' : World} {trace : List (Event Answer)} {res logged : Result}
    {path root unit : String} {time now : Int} {lines : List (Option Runner.HookLogRecord)}
    {systemd : List Runner.Status}
    (execution : Execution outside
      (run { hookEventOptions getenv start event flags with workRoot := workRoot })
      [] world trace world' (some res))
    (written : ⟨.log path logged, true⟩ ∈ trace) (failed : RootFailed root logged)
    (clock : 0 < time ∧ time ≤ now ∧ now - time ≤ Runner.hour)
    (kept : some (logLine time logged) ∈ lines.drop (lines.length - 500)) :
    Signals systemd now lines (logLine time logged) unit ↔
      workRoot ≠ "" ∧ Runner.unitForWorkRoot workRoot systemd = some unit := by
  have same : (logLine time logged).workRoot = workRoot := workRoot_of_written execution written
  rw [signals_iff (failed.broken time) clock.1 clock.2.2 kept, same]

namespace Sample

def unreadable : (call : Call) → Answer call
  | .statfs _ => .ok (100, 50)
  | .hostDisk => HostDisk.staleReport "host metrics file absent"
  | .activities => none
  | .command _ _ => .ok ""
  | .roots .diskUsedPct => none
  | .roots .hostDisk => false
  | .roots .diskFreeGB => none
  | .roots (.readDir _) => .failed (.text "permission denied")
  | .roots (.remove _) => (none, Hook.Sample.plain)
  | .roots (.chown _) => (none, Hook.Sample.plain)
  | .roots (.mkdirAll _) => (none, Hook.Sample.plain)
  | .caches (.glob _) => []
  | .caches (.stat _) => false
  | .caches (.walkDir _) => []
  | .caches (.removeAll _ _) => none
  | .logDirectory _ => none
  | .openLog _ => none
  | .log _ _ => true

def appRoot : String := "/home/runner/actions-runner-app/_work"

def appStatus : Runner.Status where
  unitName := "actions.runner.acme-app.civm-app.service"
  repo := "acme/app"
  name := "civm-app"
  loadState := "loaded"
  activeState := "active"
  subState := "running"
  workingDirectory := "/home/runner/actions-runner-app"

def played (program : Script Result) : List (Event Answer) × Unit × Script Result :=
  program.play (fun _ _ _ => ()) (fun _ _ => unreadable) 40 [] ()

def isFailedLine (event : Event Answer) : Bool :=
  match event with
  | ⟨.log _ res, true⟩ => res.actions.any fun action =>
    action.name = "work_root" && action.path = appRoot &&
      Text.trimSpace (errorText action) ≠ ""
  | _ => false

theorem played_executes (program : Script Result) :
    Execution .any program [] () (played program).1 () (played program).2.2.value? := by
  have permitted (_ : List (Event Answer)) (world : Unit) (call : Call) (_ : True) :
    Outside.any.permits world call (unreadable call) ∧ True := ⟨trivial, trivial⟩
  exact (Program.play_execution permitted 40 trivial).1

theorem played_line {program : Script Result} (returned : (played program).2.2.value?.isSome = true)
    (found : (played program).1.any isFailedLine = true) :
    ∃ trace res path logged, Execution .any program [] () trace () (some res) ∧
      ⟨.log path logged, true⟩ ∈ trace ∧ RootFailed appRoot logged := by
  rcases Option.isSome_iff_exists.mp returned with ⟨res, returned⟩
  have executes := played_executes program
  rw [returned] at executes
  rcases List.any_eq_true.mp found with ⟨event, member, failed⟩
  unfold isFailedLine at failed
  split at failed
  · rename_i path logged
    refine ⟨_, res, path, logged, executes, member, ?_⟩
    simpa [RootFailed, and_assoc] using failed
  · cases failed

theorem named_line : (played (run { completing with workRoot := appRoot })).2.2.value?.isSome = true ∧
    (played (run { completing with workRoot := appRoot })).1.any isFailedLine = true := by
  decide +kernel

theorem wired_line : (played (run completing)).2.2.value?.isSome = true ∧
    (played (run completing)).1.any isFailedLine = true := by
  decide +kernel

end Sample

theorem named_root_reaches_unit : ∃ trace res path logged,
    Execution .any (run { Sample.completing with workRoot := Sample.appRoot }) [] () trace ()
      (some res) ∧ ⟨.log path logged, true⟩ ∈ trace ∧ RootFailed Sample.appRoot logged ∧
    Signals [Sample.appStatus] 2 [some (logLine 1 logged)] (logLine 1 logged)
      "actions.runner.acme-app.civm-app.service" := by
  rcases Sample.played_line Sample.named_line.1 Sample.named_line.2 with
    ⟨trace, res, path, logged, execution, written, failed⟩
  refine ⟨trace, res, path, logged, execution, written, failed, ?_⟩
  exact (signal_reaches_unit_iff execution written failed (by decide) (by simp)).mpr
    ⟨by decide, by decide +kernel⟩

/-- As it is wired, the hook names no work root, and its line reaches no unit, not even the
one that owns the root. -/
theorem wired_hook_reaches_no_unit :
    Runner.unitForWorkRoot Sample.appRoot [Sample.appStatus] =
      some "actions.runner.acme-app.civm-app.service" ∧
    Sample.jobEnv "RUNNER_TEMP" = Sample.appRoot ++ "/_temp" ∧
    ∃ trace res path logged,
      Execution .any (run (hookEventOptions Sample.jobEnv 1 "job-completed" { execute := true }))
        [] () trace () (some res) ∧
      ⟨.log path logged, true⟩ ∈ trace ∧ RootFailed Sample.appRoot logged ∧
      ∀ unit, ¬Signals [Sample.appStatus] 2 [some (logLine 1 logged)] (logLine 1 logged) unit := by
  refine ⟨by decide +kernel, by decide, ?_⟩
  rcases Sample.played_line Sample.wired_line.1 Sample.wired_line.2 with
    ⟨trace, res, path, logged, execution, written, failed⟩
  refine ⟨trace, res, path, logged, execution, written, failed, fun unit signals => ?_⟩
  have named := ((signals_iff (failed.broken 1) Int.one_pos (show (2 : Int) - 1 ≤ Runner.hour by decide)
    (by simp [Runner.recent]) unit).mp signals).1
  exact named (workRoot_of_written execution written)

end Civm.JobHook
