import Civm.Runner.Scenes

/-! # Runs are started again once

The markers of the runs that a tick has started again are saved at the end of the
tick. Until then they can be lost. -/

namespace Civm.Runner

/-- The run that was started again. -/
def Entry.rerun : Entry → Option (Int × String)
  | .reran runID headSHA => some (runID, headSHA)
  | _ => none

def reruns (log : List Entry) : List (Int × String) := log.filterMap Entry.rerun

/-- Answers that lose no marker, for runs that can be marked. -/
def Steady (world : World) : (call : Call) → Answer call → Prop
  | .listRuns _ _, .ok runs => ∀ run ∈ runs, run.id ≠ 0
  | call, answer => ¬Fails world call answer

theorem steady_reliable : Reliable Steady := by
  intro world call answer steady
  cases call with
  | listRuns repo limit => exact fun fails => fails.elim id id
  | _ => exact steady

/-! ## Markers -/

section

variable {state : RerunState} {marker : RerunMarker} {markers : List RerunMarker}
variable {runID : Int} {headSHA : String}

theorem mark_reran (present : marker.runID ≠ 0) :
    (Pending.mark ⟨state, false⟩ marker).state.reran runID headSHA ↔
      rerunMarkerKey runID headSHA = rerunMarkerKey marker.runID marker.headSHA ∨
        state.reran runID headSHA := by
  unfold RerunState.reran Pending.mark
  by_cases same : rerunMarkerKey runID headSHA = rerunMarkerKey marker.runID marker.headSHA
  · simp [same, present]
  · simp [same]

theorem marked_cons : state.marked (marker :: markers) =
    (Pending.mark ⟨state, false⟩ marker).state.marked markers := rfl

theorem reran_marked (reran : state.reran runID headSHA)
    (present : ∀ marker ∈ markers, marker.runID ≠ 0) :
    (state.marked markers).reran runID headSHA := by
  induction markers generalizing state with
  | nil => exact reran
  | cons marker rest induction =>
    rw [List.forall_mem_cons] at present
    exact induction ((mark_reran present.1).mpr (.inr reran)) present.2

theorem marked_reran (present : ∀ marker ∈ markers, marker.runID ≠ 0)
    (member : (runID, headSHA) ∈ markers.map fun marker => (marker.runID, marker.headSHA)) :
    (state.marked markers).reran runID headSHA := by
  induction markers generalizing state with
  | nil => cases member
  | cons marker rest induction =>
    rw [List.forall_mem_cons] at present
    rw [List.map_cons, List.mem_cons] at member
    rcases member with first | later
    · obtain ⟨rfl, rfl⟩ := Prod.mk.inj first
      have reran : (Pending.mark ⟨state, false⟩ marker).state.reran marker.runID marker.headSHA :=
        (mark_reran present.1).mpr (.inl rfl)
      rw [marked_cons]
      exact reran_marked reran present.2
    · exact induction present.2 later

end

/-! ## The invariant -/

/-- Every run that was started again is one of this tick, or it is marked. -/
structure Once (record : Record) : Prop where
  nodup : (reruns record.log).Nodup
  present : ∀ run ∈ reruns record.log, run.1 ≠ 0
  fresh : record.fresh ⊆ reruns record.log
  marked : ∀ run ∈ reruns record.log, run ∈ record.fresh ∨ record.current.reran run.1 run.2

namespace Once

variable {record : Record} {opts : WatchdogOptions} {systemd : List Status}

theorem markers_present (once : Once record) {markers : List RerunMarker}
    (same : markers.map (fun marker => (marker.runID, marker.headSHA)) = record.fresh) :
    ∀ marker ∈ markers, marker.runID ≠ 0 := by
  intro marker member
  refine once.present (marker.runID, marker.headSHA) (once.fresh ?_)
  rw [← same]
  exact List.mem_map_of_mem member

theorem keeps_marks (once : Once record) {trace : List (Event Answer)} {state : RerunState}
    (edit : Edit opts systemd trace record state) {run : Int × String}
    (marked : record.current.reran run.1 run.2) : state.reran run.1 run.2 := by
  cases edit with
  | reserved before now lines units state history reserves =>
    unfold RerunState.reran at marked ⊢
    rw [reserves.reruns]
    exact marked
  | reran markers same => exact reran_marked marked (once.markers_present same)
  | _ => exact marked

theorem saved {world : World} (once : Once world.toRecord) {trace : List (Event Answer)}
    {state : RerunState} (edit : Edit opts systemd trace world.toRecord state) :
    Once (world.saved state).toRecord := by
  have same : reruns (world.saved state).log = reruns world.log := by
    simp [reruns, World.saved, Entry.rerun]
  refine ⟨same ▸ once.nodup, same ▸ once.present, same ▸ once.fresh, fun run member => ?_⟩
  exact (once.marked run (same ▸ member)).imp id (once.keeps_marks edit)

theorem other (once : Once record) {entry : Entry} (none : entry.rerun = none) :
    Once { record with log := record.log ++ [entry] } := by
  have same : reruns (record.log ++ [entry]) = reruns record.log := by
    simp [reruns, none]
  exact ⟨same ▸ once.nodup, same ▸ once.present, same ▸ once.fresh,
    fun run member => once.marked run (same ▸ member)⟩

theorem reran (once : Once record) {runID : Int} {headSHA : String} {markers : List RerunMarker}
    (same : markers.map (fun marker => (marker.runID, marker.headSHA)) = record.fresh)
    (unseen : ¬(record.current.marked markers).reran runID headSHA) (present : runID ≠ 0) :
    Once { record with
      fresh := record.fresh ++ [(runID, headSHA)]
      log := record.log ++ [.reran runID headSHA] } := by
  have longer : reruns (record.log ++ [.reran runID headSHA]) =
    reruns record.log ++ [(runID, headSHA)] := by
    simp [reruns, Entry.rerun]
  have new : (runID, headSHA) ∉ reruns record.log := by
    intro member
    have marks := once.markers_present same
    rcases once.marked _ member with fresh | marked
    · exact unseen (marked_reran marks (same ▸ fresh))
    · exact unseen (reran_marked marked marks)
  constructor
  · dsimp only
    rw [longer, List.nodup_append]
    refine ⟨once.nodup, List.nodup_singleton _, fun run member other last => ?_⟩
    rw [List.mem_singleton] at last
    rintro rfl
    exact new (last ▸ member)
  · dsimp only
    rw [longer, List.forall_mem_append]
    exact ⟨once.present, by simpa using present⟩
  · dsimp only
    rw [longer]
    intro run member
    exact (List.mem_append.mp member).elim (fun earlier => List.mem_append_left _ (once.fresh earlier))
      (List.mem_append_right _)
  · dsimp only
    rw [longer]
    intro run member
    rcases List.mem_append.mp member with earlier | last
    · exact (once.marked run earlier).imp (List.mem_append_left _) id
    · exact .inl (List.mem_append_right _ last)

end Once

/-- What holds during a tick. A tick begins when all runs are marked. -/
structure Clean (trace : List (Event Answer)) (world : World) : Prop where
  once : Once world.toRecord
  listed : ∀ repo limit runs, ⟨.listRuns repo limit, .ok runs⟩ ∈ trace → ∀ run ∈ runs, run.id ≠ 0
  opening : trace = [] → ∀ run ∈ reruns world.log, world.current.reran run.1 run.2

variable {opts : WatchdogOptions} {systemd : List Status} {world : World}
variable {trace : List (Event Answer)}

theorem Clean.deed {call : Call} {answer : Answer call} (clean : Clean trace world)
    (deed : Deed opts systemd trace world call) :
    Once (after world call answer).toRecord := by
  have once := clean.once
  cases call with
  | renameMarker =>
    rcases deed with ⟨_, before, state, _, staged, edit⟩
    cases took : answer.took with
    | false => simpa [after, took] using once
    | true => simpa [after, took, World.rename, staged] using once.saved edit
  | restartFn path unit => exact once.other rfl
  | queuedJobs repos now maxAge =>
    cases answer with
    | error error => exact once
    | ok evidence => exact once.other rfl
  | rerun repo runID headSHA =>
    rcases deed with ⟨_, ⟨run, ⟨limit, runs, listed, member⟩, rfl, rfl⟩, markers, same, unseen⟩
    cases answer with
    | some error => exact once
    | none => exact once.reran same unseen (clean.listed repo limit runs listed run member)
  | writeMarker state => cases answer <;> exact once
  | readHooksLog => cases answer <;> exact ⟨once.nodup, once.present, once.fresh, once.marked⟩
  | now => exact ⟨once.nodup, once.present, once.fresh, once.marked⟩
  | statMaintenance => exact deed.elim
  | _ => exact once

theorem Clean.step {call : Call} {answer : Answer call} (clean : Clean trace world)
    (allowed : (tick opts).allows trace world call)
    (permitted : (host.limited Steady).permits world call answer) :
    Clean (trace ++ [⟨call, answer⟩]) (after world call answer) := by
  refine ⟨?_, fun repo limit runs member => ?_, fun equal => absurd equal (by simp)⟩
  · rcases allowed with observes | ⟨rfl, rfl⟩ | ⟨systemd, _, deed⟩
    · rw [after_observed observes]
      exact clean.once
    · exact ⟨clean.once.nodup, clean.once.present, nofun,
        fun run member => .inr (clean.opening rfl run member)⟩
    · exact clean.deed deed
  · rcases List.mem_append.mp member with earlier | last
    · exact clean.listed repo limit runs earlier
    · cases List.mem_singleton.mp last
      exact permitted.2

/-! ## Histories -/

variable (calls : opts.restartFn = fun path unit => perform (.restartFn path unit))

/-- What is known between two ticks. -/
structure Resting (world : World) : Prop where
  once : Once world.toRecord
  settled : Settled world

theorem Resting.starts (resting : Resting world) : Clean [] world := by
  refine ⟨resting.once, nofun, fun _ run member => ?_⟩
  rcases resting.once.marked run member with fresh | marked
  · rcases resting.settled with ⟨before, markers, current, same⟩
    rw [current]
    exact marked_reran (resting.once.markers_present same) (same ▸ fresh)
  · exact marked

include calls

theorem Resting.tick_clean {world' result} (resting : Resting world)
    (execution : Execution (host.limited Steady) (watchdog opts) [] world trace world' result) :
    Clean trace world' := by
  have satisfies := watchdog_satisfies calls fun (_ : Reliable Steady) => resting.settled
  refine satisfies.preserves ?_ execution resting.starts
  exact fun trace world call answer clean allowed permitted => clean.step allowed permitted

theorem Resting.tick {world' report} (resting : Resting world)
    (execution : Execution (host.limited Steady) (watchdog opts) [] world trace world'
      (some report)) : Resting world' :=
  ⟨(resting.tick_clean calls execution).once,
    (watchdog_satisfies calls fun _ => resting.settled).returns execution steady_reliable⟩

omit calls

/-- In a history of complete ticks whose answers lose no marker, and in the tick
after them, no run is started again twice. -/
theorem runs_rerun_once_unless_lost {start world' runs result}
    (calls : opts.restartFn = fun path unit => perform (.restartFn path unit))
    (new : start.log = [] ∧ start.fresh = [])
    (history : Repeated (host.limited Steady) (watchdog opts) start runs world)
    (complete : ∀ run ∈ runs, run.2.isSome)
    (execution : Execution (host.limited Steady) (watchdog opts) [] world trace world' result) :
    (reruns world'.log).Nodup := by
  have begins : Resting start := by
    refine ⟨⟨?_, ?_, ?_, ?_⟩, settled_of_fresh new.2⟩ <;> simp [new, reruns]
  have rests : Resting world := by
    clear execution
    induction history with
    | none => exact begins
    | again _ execution induction =>
      rw [List.forall_mem_append, List.forall_mem_singleton] at complete
      obtain ⟨report, rfl⟩ := Option.isSome_iff_exists.mp complete.2
      exact (induction complete.1).tick calls execution
  exact (rests.tick_clean calls execution).once.nodup

namespace Sample

def failed (stuck : List Int) : Scene where
  rows := []
  directory _ := .ok ""
  config _ := .error (.text "ENOENT")
  repos := ""
  runners := [⟨"civm", "online", false, ["civm"]⟩]
  evidence := ⟨0, ""⟩
  time := 5
  runs := [⟨7, "4c1f", "failure", 4, [1]⟩, ⟨8, "4c1f", "failure", 4, [1]⟩]
  stuck := stuck

theorem failed_shown (stuck : List Int) : (failed stuck).Shows [] := ⟨[], rfl, rfl⟩

theorem failed_time (stuck : List Int) : 0 < (failed stuck).time := (by decide : (0 : Int) < 5)

theorem failed_fits (stuck : List Int) :
    (failed stuck).Fits fun _ call answer => ¬MarkerFails call answer := by
  refine ⟨failed_time stuck, fun trace world call sound => ?_, fun world call answer surveys => ?_⟩
  · cases call with
    | readMarker =>
      cases marker : world.marker with
      | garbled error => exact absurd marker (sound.marker error)
      | _ => simp [Scene.answer, MarkerFails, marker]
    | _ => simp [Scene.answer, MarkerFails]
  · cases call <;> first | exact id | exact surveys.elim

theorem healed_fits : (failed []).Fits Steady := by
  refine ⟨failed_time [], fun trace world call sound => ?_, fun world call answer surveys => ?_⟩
  · have saves := (failed_fits []).answers trace world call sound
    cases call with
    | listRuns repo limit => exact (by decide : ∀ run ∈ (failed []).runs, run.id ≠ 0)
    | _ => exact fun fails => fails.elim saves id
  · cases call <;> first | exact fun fails => fails.elim id id | exact surveys.elim

def ticked (stuck : List Int) (world : World) : World :=
  ((failed stuck).patrolled watching [] world 40).2.1

theorem ticked_sound {stuck : List Int} {world : World} (sound : Scene.Sound world) :
    Scene.Sound (ticked stuck world) :=
  Scene.patrolled_sound (failed_time stuck) sound 40

end Sample

/-- A tick that fails to start one run again forgets the other ones. -/
theorem interrupted_tick_reruns_twice :
    ∃ runs world,
      Repeated (host.limited fun _ call answer => ¬MarkerFails call answer)
        (watchdog Sample.watching) Scene.blank runs world ∧
      (∀ run ∈ runs, run.2.isSome) ∧ reruns world.log = [(7, "4c1f"), (7, "4c1f")] := by
  rcases (Sample.failed_shown [8]).again (Sample.failed_fits [8]) Sample.watching_valid
    Scene.blank_sound 40 .none with ⟨first, history⟩
  rcases (Sample.failed_shown [8]).again (Sample.failed_fits [8]) Sample.watching_valid
    (Sample.ticked_sound Scene.blank_sound) 40 history with ⟨second, history⟩
  have outcome : (((Sample.failed [8]).patrolled Sample.watching [] Scene.blank 40).2.2.value?.isSome,
    ((Sample.failed [8]).patrolled Sample.watching [] (Sample.ticked [8] Scene.blank)
      40).2.2.value?.isSome,
    reruns ((Sample.failed [8]).patrolled Sample.watching [] (Sample.ticked [8] Scene.blank)
      40).2.1.log) = (true, true, [(7, "4c1f"), (7, "4c1f")]) := by
    decide +kernel
  rw [Prod.mk.injEq, Prod.mk.injEq] at outcome
  exact ⟨_, _, history, by simpa using ⟨outcome.1, outcome.2.1⟩, outcome.2.2⟩

theorem complete_tick_reruns_once :
    ∃ runs world trace world' result,
      Repeated (host.limited Steady) (watchdog Sample.watching) Scene.blank runs world ∧
      (∀ run ∈ runs, run.2.isSome) ∧ reruns world.log = [(7, "4c1f"), (8, "4c1f")] ∧
      Execution (host.limited Steady) (watchdog Sample.watching) [] world trace world' result ∧
      (reruns world'.log).Nodup := by
  rcases (Sample.failed_shown []).again Sample.healed_fits Sample.watching_valid
    Scene.blank_sound 40 .none with ⟨first, history⟩
  rcases (Sample.failed_shown []).execution Sample.healed_fits Sample.watching_valid
    (Sample.ticked_sound Scene.blank_sound) 40 with ⟨events, _, execution⟩
  have outcome : (((Sample.failed []).patrolled Sample.watching [] Scene.blank 40).2.2.value?.isSome,
    reruns ((Sample.failed []).patrolled Sample.watching [] Scene.blank 40).2.1.log) = (true, [(7, "4c1f"), (8, "4c1f")]) := by
    decide +kernel
  rw [Prod.mk.injEq] at outcome
  have returned : ∀ run ∈ [] ++ [(first, ((Sample.failed []).patrolled Sample.watching []
    Scene.blank 40).2.2.value?.map Prod.snd)], run.2.isSome := by simpa using outcome.1
  exact ⟨_, _, _, _, _, history, returned, outcome.2, execution,
    runs_rerun_once_unless_lost rfl ⟨rfl, rfl⟩ history returned execution⟩

end Civm.Runner
