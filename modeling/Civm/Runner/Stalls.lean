import Civm.Runner.Scenes

/-! # Restarts of runners that stall their queue

A runner that is idle while jobs wait is restarted once the same jobs have waited
long enough, and not again before the queue has moved. -/

namespace Civm.Runner

def BecameBusy (result : Option Error) : Prop :=
  ∃ error, result = some error ∧ error.is .runnerBecameBusy

/-- A tick recorded the stall of the unit at the time `first`, where it was not
known before, and every state saved since then has kept it. -/
structure Recorded (log : List Entry) (unit signature : String) (first : Int)
    (since : List Entry) : Prop where
  recorded : ∃ earlier previous state, log = earlier ++ .saved first previous state :: since ∧
    (previous.queueStalls unit).filter (fun incident => incident.signature = signature) = none ∧
    state.queueStalls unit = some ⟨signature, first, 0⟩
  kept : ∀ time previous state, .saved time previous state ∈ since →
    ∃ restartedAt, state.queueStalls unit = some ⟨signature, first, restartedAt⟩

/-- Every restart of the unit has found it busy. -/
def Harmless (unit : String) (since : List Entry) : Prop :=
  ∀ time result, .restarted time .queueStall unit result ∈ since → BecameBusy result

/-- The restart of a unit is due: the stall was recorded long enough ago, the
queue still is the same, a state with the time of the restart was saved, and the
unit was not restarted since. -/
structure Due (dwell : Int) (before : List Entry) (time : Int) (unit : String) : Prop where
  due : ∃ signature first since, Recorded before unit signature first since ∧
    dwell ≤ time - first ∧ Harmless unit since ∧
    ∃ earlier saved previous state restartedAt,
      before = earlier ++ [.queued signature, .saved saved previous state] ∧
      state.queueStalls unit = some ⟨signature, first, restartedAt⟩ ∧ restartedAt ≠ 0

/-! ## Incidents and what is known of them -/

/-- Where an incident comes from. Without a restart of its own it had none. -/
def Armed (log : List Entry) (unit : String) (incident : QueueStallIncident) : Prop :=
  ∃ since, Recorded log unit incident.signature incident.firstSeen since ∧
    (incident.restartedAt = 0 → Harmless unit since)

section

variable {log since : List Entry} {unit signature : String} {first : Int} {entry : Entry}

theorem Recorded.snoc (recorded : Recorded log unit signature first since)
    (keeps : ∀ time previous state, entry = .saved time previous state →
      ∃ restartedAt, state.queueStalls unit = some ⟨signature, first, restartedAt⟩) :
    Recorded (log ++ [entry]) unit signature first (since ++ [entry]) := by
  rcases recorded with ⟨⟨earlier, previous, state, rfl, unseen, seen⟩, kept⟩
  refine ⟨⟨earlier, previous, state, by simp, unseen, seen⟩, fun time previous state member => ?_⟩
  rcases List.mem_append.mp member with among | last
  · exact kept time previous state among
  · exact keeps time previous state (List.mem_singleton.mp last).symm

theorem Harmless.snoc (harmless : Harmless unit since)
    (busy : ∀ time result, entry = .restarted time .queueStall unit result → BecameBusy result) :
    Harmless unit (since ++ [entry]) := by
  intro time result member
  rcases List.mem_append.mp member with among | last
  · exact harmless time result among
  · exact busy time result (List.mem_singleton.mp last).symm

variable {incident : QueueStallIncident}

theorem Armed.snoc (armed : Armed log unit incident)
    (keeps : ∀ time previous state, entry = .saved time previous state →
      ∃ restartedAt, state.queueStalls unit =
        some ⟨incident.signature, incident.firstSeen, restartedAt⟩)
    (busy : incident.restartedAt = 0 →
      ∀ time result, entry = .restarted time .queueStall unit result → BecameBusy result) :
    Armed (log ++ [entry]) unit incident := by
  rcases armed with ⟨since, recorded, harmless⟩
  exact ⟨since ++ [entry], recorded.snoc keeps, fun rested => (harmless rested).snoc (busy rested)⟩

/-- The incident is still the same in a state that is saved. -/
theorem Armed.saved {time : Int} {previous state : RerunState} (armed : Armed log unit incident)
    (same : state.queueStalls unit = some incident) :
    Armed (log ++ [.saved time previous state]) unit incident := by
  refine armed.snoc (fun time previous state equal => ?_) fun _ _ _ => nofun
  cases equal
  exact ⟨incident.restartedAt, same⟩

end

/-! ## The invariant -/

/-- The incidents of the state that was replaced are known, and restarts are due. -/
def Explained (dwell : Int) (before : List Entry) : Entry → Prop
  | .saved _ previous _ => ∀ unit incident, previous.queueStalls unit = some incident →
    Armed before unit incident
  | .restarted time .queueStall unit _ => Due dwell before time unit
  | _ => True

structure Traced (dwell : Int) (record : Record) : Prop where
  armed : ∀ unit incident, record.current.queueStalls unit = some incident →
    Armed record.log unit incident
  explained : Justified (Explained dwell) record.log

namespace Traced

variable {opts : WatchdogOptions} {systemd : List Status} {record : Record}
variable {trace : List (Event Answer)}

theorem edited (traced : Traced opts.queueStallDwell record) {state : RerunState}
    (edit : Edit opts systemd trace record state) (unit : String) (incident : QueueStallIncident)
    (found : state.queueStalls unit = some incident) :
    Armed (record.log ++ [.saved record.clock record.current state]) unit incident := by
  have unchanged : state.queueStalls unit = record.current.queueStalls unit →
    Armed (record.log ++ [.saved record.clock record.current state]) unit incident :=
    fun same => (traced.armed unit incident (same ▸ found)).saved found
  cases edit with
  | cleared units | busy other window => exact unchanged rfl
  | reserved before now lines units _ history reserves =>
    exact unchanged (congrFun reserves.queueStalls unit)
  | reran markers same => exact unchanged (congrFun RerunState.marked_frame.2 unit)
  | armed other signature unseen =>
    by_cases same : unit = other
    · subst same
      obtain rfl : ⟨signature, record.clock, 0⟩ = incident := by
        simpa [RerunState.setIncident] using found
      exact ⟨[], ⟨⟨record.log, _, _, rfl, unseen, found⟩,
        fun _ _ _ member => absurd member List.not_mem_nil⟩,
        fun _ _ _ member => absurd member List.not_mem_nil⟩
    · exact unchanged (by simp [RerunState.setIncident, same])
  | recovered other =>
    by_cases same : unit = other
    · subst same
      simp [RerunState.setIncident] at found
    · exact unchanged (by simp [RerunState.setIncident, same])
  | stalled other stall seen rested dwelt positive =>
    by_cases same : unit = other
    · subst same
      obtain rfl : { stall with restartedAt := record.clock } = incident := by
        simpa [RerunState.setIncident] using found
      rcases traced.armed unit stall seen with ⟨since, recorded, _⟩
      refine ⟨_, recorded.snoc fun time previous state equal => ?_, fun zero => ?_⟩
      · cases equal
        exact ⟨record.clock, found⟩
      · exact absurd zero (Int.ne_of_gt positive)
    · exact unchanged (by simp [RerunState.setIncident, same])
  | resumed other stall before time later previous error history busy seen rested marked =>
    by_cases same : unit = other
    · subst same
      obtain rfl : stall = incident := by simpa [RerunState.setIncident] using found
      have saved : Armed (before ++ [.saved time previous record.current]) unit stall := by
        refine (traced.explained before _ _ history unit stall seen).snoc ?_
          fun _ _ _ equal => by cases equal
        rintro time previous state equal
        cases equal
        exact ⟨_, marked⟩
      have called : Armed record.log unit stall := by
        rw [history, ← List.singleton_append, ← List.append_assoc]
        refine saved.snoc (fun _ _ _ equal => by cases equal) ?_
        rintro _ time result equal
        cases equal
        exact ⟨error, rfl, busy⟩
      exact called.saved found
    · exact unchanged (by simp [RerunState.setIncident, same])

theorem due (traced : Traced opts.queueStallDwell record) {unit : String}
    (restart : Restart opts systemd trace record .queueStall unit) :
    Due opts.queueStallDwell record.log record.clock unit := by
  cases restart with
  | queueStall status incident before time previous member serves history seen rested dwelt late
    nonzero marked =>
  have split : record.log = before ++ [.queued incident.signature] ++
    .saved time previous record.current :: [] := by
    rw [history, List.append_assoc]
    rfl
  rcases traced.explained _ _ _ split _ incident seen with ⟨since, recorded, harmless⟩
  have saved : Recorded record.log status.unitName incident.signature incident.firstSeen
    (since ++ [.saved time previous record.current]) := by
    rw [split]
    refine recorded.snoc ?_
    rintro time previous state equal
    cases equal
    exact ⟨_, marked⟩
  refine ⟨incident.signature, incident.firstSeen, _, saved, ?_, (harmless rested).snoc nofun, before,
    time, previous, record.current, time, history, marked, nonzero⟩
  exact Int.le_trans dwelt (Int.sub_le_sub_right late _)

theorem step (traced : Traced opts.queueStallDwell record) {record' : Record}
    (moves : Moves opts trace record record') : Traced opts.queueStallDwell record' := by
  cases moves with
  | still _ marker log =>
    refine ⟨?_, log ▸ traced.explained⟩
    rw [log, Record.current, marker]
    exact traced.armed
  | saved systemd before state enriched _ edit =>
    exact ⟨traced.edited edit, traced.explained.snoc traced.armed⟩
  | restarted systemd path unit result enriched restart =>
    constructor
    · intro other incident found
      refine (traced.armed other incident found).snoc (fun _ _ _ equal => by cases equal)
        fun rested time result equal => ?_
      cases equal
      cases restart with
      | queueStall status stall before time previous member serves history seen armed dwelt late
        nonzero marked =>
      obtain rfl := Option.some.inj (marked.symm.trans found)
      exact absurd rested nonzero
    · refine traced.explained.snoc ?_
      cases path with
      | queueStall => exact traced.due restart
      | _ => trivial
  | noted _ entry marker log plain =>
    constructor
    · rw [log, Record.current, marker]
      intro unit incident found
      refine (traced.armed unit incident found).snoc ?_ ?_
      · rintro time previous state rfl
        exact plain.elim
      · rintro _ time result rfl
        exact plain.elim
    · rw [log]
      refine traced.explained.snoc ?_
      cases entry with
      | saved | restarted => exact plain.elim
      | _ => trivial

end Traced

/-- In every history of ticks, wherever they end and whichever writes fail, a
restart of a runner that stalls its queue is due. -/
theorem stalled_restarts_are_due {opts : WatchdogOptions} {start world runs}
    (calls : opts.restartFn = fun path unit => perform (.restartFn path unit))
    (new : start.log = [] ∧ ∀ unit, start.current.queueStalls unit = none)
    (history : Repeated host (watchdog opts) start runs world)
    (before after : List Entry) (time : Int) (unit : String) (result : Option Error)
    (split : world.log = before ++ .restarted time .queueStall unit result :: after) :
    Due (applyWatchdogDefaults opts).queueStallDwell before time unit := by
  have traced : Traced (applyWatchdogDefaults opts).queueStallDwell world.toRecord := by
    clear split
    induction history with
    | none =>
      refine ⟨fun unit incident found => ?_, new.1 ▸ .nil⟩
      rw [new.2 unit] at found
      cases found
    | again _ execution induction =>
      have step : ∀ trace (world : World) call (answer : Answer call),
        Traced (applyWatchdogDefaults opts).queueStallDwell world.toRecord →
        (tick (applyWatchdogDefaults opts)).allows trace world call →
        permits world call answer →
        Traced (applyWatchdogDefaults opts).queueStallDwell (Runner.after world call answer).toRecord :=
        fun _ _ _ _ traced allowed _ => traced.step (moves_of_allowed allowed)
      exact watchdog_preserves calls step execution induction
  exact traced.explained before _ after split

namespace Sample

def fleet : WatchdogOptions := { watching with repos := [], inferRepos := true }

theorem fleet_valid : validateWatchdogOptions (applyWatchdogDefaults fleet) = none := by
  decide +kernel

def stalling (time : Int) : Scene where
  rows := unhyphenated.take 1
  directory _ := .ok "/srv"
  config _ := .ok ⟨some ⟨"https", "github.com", "/acme"⟩, none⟩
  repos := "acme/app"
  runners := [⟨"civm-org", "online", false, ["self-hosted", "civm"]⟩]
  evidence := ⟨1, "app/7"⟩
  time := time
  runs := []
  stuck := []

def idleUnit : Status where
  unitName := "actions.runner.acme.civm-org.service"
  repo := "acme"
  org := "acme"
  name := "civm-org"
  loadState := "loaded"
  activeState := "active"
  subState := "running"
  workingDirectory := "/srv"

theorem early_shown : (stalling second).Shows [idleUnit] :=
  ⟨[{ idleUnit with workingDirectory := "", org := "" }], by decide +kernel, by decide +kernel⟩

theorem late_shown : (stalling (301 * second)).Shows [idleUnit] :=
  ⟨[{ idleUnit with workingDirectory := "", org := "" }], by decide +kernel, by decide +kernel⟩

def armed : World := ((stalling second).patrolled fleet [idleUnit] Scene.blank 60).2.1

end Sample

theorem stalled_unit_is_restarted_when_due :
    ∃ runs world before after time result,
      Repeated host (watchdog Sample.fleet) Scene.blank runs world ∧
      world.log = before ++ .restarted time .queueStall Sample.idleUnit.unitName result :: after ∧
      Due (5 * minute) before time Sample.idleUnit.unitName := by
  have sound : Scene.Sound Sample.armed := Scene.patrolled_sound (by decide) Scene.blank_sound 60
  rcases Sample.early_shown.execution (.any (by decide)) Sample.fleet_valid Scene.blank_sound 60 with
    ⟨_, _, first⟩
  rcases Sample.late_shown.execution (.any (by decide)) Sample.fleet_valid sound 60 with
    ⟨_, _, second⟩
  have history := (Repeated.none.again first.unlimited).again second.unlimited
  have member : some (.queueStall, Sample.idleUnit.unitName) ∈
    ((Sample.stalling (301 * Runner.second)).patrolled Sample.fleet [Sample.idleUnit] Sample.armed
      60).2.1.log.map Entry.restart := by
    decide +kernel
  rcases Entry.restarted_of_mem member with ⟨time, result, among⟩
  rcases List.append_of_mem among with ⟨before, after, split⟩
  exact ⟨_, _, before, after, time, result, history, split,
    stalled_restarts_are_due rfl ⟨rfl, fun _ => rfl⟩ history before after time _ result split⟩

end Civm.Runner
