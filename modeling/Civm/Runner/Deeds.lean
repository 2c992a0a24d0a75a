import Civm.Runner.Host

/-! # What a tick does

Which states a tick saves, which units it restarts and which runs it starts
again, given what it has read before. -/

namespace Civm.Runner

variable (opts : WatchdogOptions) (systemd : List Status)

/-- The lines of the log of the hooks that a tick looks at. -/
def recent (lines : List (Option HookLogRecord)) : List (Option HookLogRecord) :=
  lines.drop (lines.length - 500)

theorem sentinelOf_eq_some {now time : Int} {line : Option HookLogRecord} {workRoot : String}
    (sentinel : sentinelOf now line = some (workRoot, time)) :
    ∃ record, line = some record ∧ record.workRoot = workRoot ∧
      hookRecordIsBrokenSentinel record ∧ (record.time ≠ 0 → record.time = time) := by
  rcases Option.bind_eq_some_iff.mp sentinel with ⟨record, rfl, found⟩
  rw [Option.ite_none_left_eq_some, Option.some.injEq, Prod.mk.injEq] at found
  rcases found with ⟨kept, rfl, rfl⟩
  refine ⟨record, rfl, rfl, ?_, fun timed => (if_neg timed).symm⟩
  by_contra sound
  exact kept (.inr (.inl sound))

/-- The newest recent sentinel of a work root of the unit has that time. -/
structure Newest (now : Int) (lines : List (Option HookLogRecord)) (unit : String) (time : Int) :
    Prop where
  found : ∃ line ∈ recent lines, ∃ workRoot, sentinelOf now line = some (workRoot, time) ∧
    unitForWorkRoot workRoot systemd = some unit
  newest : ∀ line ∈ recent lines, ∀ workRoot other, sentinelOf now line = some (workRoot, other) →
    unitForWorkRoot workRoot systemd = some unit → other ≤ time

/-- The second state reserves one restart of each of the units. -/
structure Reserves (now : Int) (lines : List (Option HookLogRecord)) (state : RerunState)
    (units : List String) (state' : RerunState) : Prop where
  nodup : units.Nodup
  reserved : ∀ unit ∈ units, ∃ time, Newest systemd now lines unit time ∧
    ∃ window, window = ((state.autoRestarts unit).getD .none).current now ∧
      window.lastActed < time ∧ window.count < opts.autoRestartPerHour ∧
      state'.autoRestarts unit =
        some { window with count := window.count + 1, lastActed := time }
  others : ∀ key, key ∉ units → state'.autoRestarts key = state.autoRestarts key
  reruns : state'.reruns = state.reruns
  queueStalls : state'.queueStalls = state.queueStalls

/-- What a tick has read when it looks for broken runners. -/
def findings (now : Int) (lines : List (Option HookLogRecord)) (file : MarkerFile) :
    List (Event Answer) :=
  [⟨.now, now⟩, ⟨.readHooksLog, .ok lines⟩, ⟨.readMarker, .ok file⟩]

def RerunState.marked (state : RerunState) (markers : List RerunMarker) : RerunState :=
  markers.foldl (fun state marker => (Pending.mark ⟨state, false⟩ marker).state) state

theorem RerunState.marked_frame {state : RerunState} {markers : List RerunMarker} :
    (state.marked markers).autoRestarts = state.autoRestarts ∧
      (state.marked markers).queueStalls = state.queueStalls := by
  induction markers generalizing state with
  | nil => exact ⟨rfl, rfl⟩
  | cons marker rest induction => exact induction

/-- The states that may take the place of the one in the marker file. -/
inductive Edit (trace : List (Event Answer)) (record : Record) : RerunState → Prop
  | cleared (units : List String) :
    Edit trace record (record.current.dropWindows (units.map orgBusyKey))
  | busy (unit : String) (window : AutoRestartWindow) :
    Edit trace record (record.current.setWindow (orgBusyKey unit) window)
  | armed (unit signature : String) :
    (record.current.queueStalls unit).filter (fun incident => incident.signature = signature) =
      none →
    Edit trace record
      (record.current.setIncident unit (some ⟨signature, record.clock, 0⟩))
  | recovered (unit : String) : Edit trace record (record.current.setIncident unit none)
  | stalled (unit : String) (incident : QueueStallIncident) :
    record.current.queueStalls unit = some incident → incident.restartedAt = 0 →
    opts.queueStallDwell ≤ record.clock - incident.firstSeen → 0 < record.clock →
    Edit trace record
      (record.current.setIncident unit (some { incident with restartedAt := record.clock }))
  /- The unit became busy before it was restarted. -/
  | resumed (unit : String) (incident : QueueStallIncident) (before : List Entry)
    (time later : Int) (previous : RerunState) (error : Error) :
    record.log = before ++ [.saved time previous record.current,
      .restarted later .queueStall unit (some error)] →
    error.is .runnerBecameBusy → previous.queueStalls unit = some incident →
    incident.restartedAt = 0 →
    record.current.queueStalls unit = some { incident with restartedAt := time } →
    Edit trace record (record.current.setIncident unit (some incident))
  | reserved (before : List (Event Answer)) (now : Int) (lines : List (Option HookLogRecord))
    (units : List String) (state : RerunState) :
    trace = before ++ findings now lines record.marker →
    Reserves opts systemd now lines record.current units state → Edit trace record state
  | reran (markers : List RerunMarker) :
    markers.map (fun marker => (marker.runID, marker.headSHA)) = record.fresh →
    Edit trace record (record.current.marked markers)

/-- The restarts that a tick may ask for. -/
inductive Restart (trace : List (Event Answer)) (record : Record) : RestartPath → String → Prop
  | orgBusy (status : Status) : status ∈ systemd → status.servesOrg → 
    Restart trace record .orgBusy status.unitName
  | queueStall (status : Status) (incident : QueueStallIncident) (before : List Entry)
    (time : Int) (previous : RerunState) :
    status ∈ systemd → status.servesOrg →
    record.log =
      before ++ [.queued incident.signature, .saved time previous record.current] →
    previous.queueStalls status.unitName = some incident → incident.restartedAt = 0 →
    opts.queueStallDwell ≤ time - incident.firstSeen → time ≤ record.clock → time ≠ 0 →
    record.current.queueStalls status.unitName = some { incident with restartedAt := time } →
    Restart trace record .queueStall status.unitName
  | sentinel (unit : String) (before done : List (Event Answer)) (now : Int)
    (lines : List (Option HookLogRecord)) (file : MarkerFile) (units : List String)
    (state : RerunState) :
    trace = before ++ findings now lines file ++
      [⟨.mkdirMarker, none⟩, ⟨.writeMarker state, none⟩, ⟨.renameMarker, ⟨none, true⟩⟩] ++
      done →
    (∀ event ∈ done, ∃ other, other ≠ unit ∧ event.call = .restartFn .sentinel other) →
    Reserves opts systemd now lines file.current units state → unit ∈ units →
    record.marker = .state state →
    Restart trace record .sentinel unit
  | candidate (unit : String) : unit ∉ (detectCollisions systemd).map (·.repoUnit) →
    Restart trace record .candidate unit

/-- The run is one of those that the tick has listed for the repository. -/
def Listed (trace : List (Event Answer)) (repo : String) (run : Run) : Prop :=
  ∃ limit runs, ⟨.listRuns repo limit, .ok runs⟩ ∈ trace ∧ run ∈ runs

/-- The commands that a tick may give. -/
def Deed (trace : List (Event Answer)) (world : World) : Call → Prop
  | .mkdirMarker | .writeMarker _ | .removeMarker => opts.execute
  | .renameMarker => opts.execute ∧ ∃ before state,
    trace = before ++ [⟨.mkdirMarker, none⟩, ⟨.writeMarker state, none⟩] ∧
    world.staged = some state ∧ Edit opts systemd before world.toRecord state
  | .restartFn path unit => opts.execute ∧ Restart opts systemd trace world.toRecord path unit
  | .rerun repo runID headSHA => opts.execute ∧
    (∃ run, Listed trace repo run ∧ run.id = runID ∧ run.headSHA = headSHA) ∧
    ∃ markers : List RerunMarker,
      markers.map (fun marker => (marker.runID, marker.headSHA)) = world.fresh ∧
      ¬(world.current.marked markers).reran runID headSHA
  | .hookInstall execute => execute = opts.execute
  | .freeze _ | .thaw _ | .stop _ | .kill _ | .restart _ | .statMaintenance => False
  | _ => True

def deeds : Contract Answer World where
  keeps _ _ := True
  allows := Deed opts systemd
  progress := False

end Civm.Runner
