import Civm.Foundation.Play
import Civm.Foundation.Repeated
import Civm.Runner.Collisions
import Civm.Runner.Ticks

/-! # Rehearsed ticks

A host on which every command succeeds, apart from those a scene names, and the
ticks that are played on it. -/

namespace Civm.Runner

/-- What a tick finds: the units and their directories, the runners and the jobs
of GitHub, the time, and the runs with those that cannot be started again. -/
structure Scene where
  rows : List Row
  directory : String → Except Error String
  config : String → Except Error RunnerConfig
  repos : String
  runners : List GitHubRunner
  evidence : QueueEvidence
  time : Int
  runs : List Run
  stuck : List Int

namespace Scene

variable (scene : Scene)

def answer (_ : List (Event Answer)) (world : World) : (call : Call) → Answer call
  | .statMaintenance => .notExist
  | .lsRemote => none
  | .listUnits => .ok (String.ofList (listing scene.rows))
  | .workingDirectory unit => scene.directory unit
  | .runnerConfig directory => scene.config directory
  | .reaperRepos => scene.repos
  | .repoRunners _ => .ok scene.runners
  | .orgRunners _ => .ok scene.runners
  | .activities => .ok []
  | .probeDelay => none
  | .now => max world.clock scene.time
  | .sleep => ()
  | .readMarker => .ok world.marker
  | .mkdirMarker => none
  | .writeMarker _ => none
  | .renameMarker => ⟨none, true⟩
  | .removeMarker => none
  | .readHooksLog => .ok (world.hooks ++ [none])
  | .queuedJobs _ _ _ => .ok scene.evidence
  | .hookInstall _ => ⟨"", 0⟩
  | .freeze _ => ⟨none, true⟩
  | .thaw _ => ⟨none, true⟩
  | .isActive _ => "active"
  | .stop _ => ⟨none, true⟩
  | .kill _ => ⟨none, true⟩
  | .controlGroup _ => .ok ""
  | .readProcs _ => .notExist
  | .restart _ => ⟨none, true⟩
  | .restartFn _ _ => none
  | .listRuns _ _ => .ok scene.runs
  | .pullRequest _ number => .ok ⟨number, "open", "clean"⟩
  | .runLog _ _ => .ok "curl 56"
  | .rerun _ runID _ => if runID ∈ scene.stuck then some (.text "HTTP 403") else none

/-- The marker file and the temporary file beside it are complete. -/
structure Sound (world : World) : Prop where
  marker : ∀ error, world.marker ≠ .garbled error
  staged : world.staged ≠ none

/-- The scene gives only answers that meet the condition, and the condition does
not restrict what is said of the units. -/
structure Fits (condition : World → (call : Call) → Answer call → Prop) : Prop where
  positive : 0 < scene.time
  answers : ∀ trace world call, Sound world → condition world call (scene.answer trace world call)
  surveys : ∀ world call answer, Surveys call → condition world call answer

variable {scene} {condition : World → (call : Call) → Answer call → Prop} {world : World}

theorem Fits.any (positive : 0 < scene.time) : scene.Fits fun _ _ _ => True :=
  ⟨positive, fun _ _ _ _ => trivial, fun _ _ _ _ => trivial⟩

theorem Fits.permitted (fits : scene.Fits condition) (trace : List (Event Answer)) (world : World)
    (call : Call) (sound : Sound world) :
    (host.limited condition).permits world call (scene.answer trace world call) ∧
      Sound (after world call (scene.answer trace world call)) := by
  refine ⟨⟨?_, fits.answers trace world call sound⟩, ?_⟩
  · cases call <;>
      first
      | trivial
      | exact rfl
      | exact fun _ => rfl
      | exact ⟨[], by rw [List.append_nil]⟩
      | exact ⟨Int.le_max_left _ _, Int.lt_of_lt_of_le fits.positive (Int.le_max_right _ _)⟩
  · cases call with
    | writeMarker state => exact ⟨sound.marker, Option.some_ne_none _⟩
    | renameMarker =>
      rcases Option.ne_none_iff_exists'.mp sound.staged with ⟨state, staged⟩
      have renamed : after world .renameMarker (scene.answer trace world .renameMarker) =
        world.saved state := by
        simp [answer, after, World.rename, staged]
      rw [renamed]
      exact ⟨fun _ same => (by cases same), sound.staged⟩
    | rerun repo runID headSHA =>
      dsimp only [answer]
      split <;> exact ⟨sound.marker, sound.staged⟩
    | _ => exact ⟨sound.marker, sound.staged⟩

variable (scene)

def patrolled (opts : WatchdogOptions) (systemd : List Status) (world : World) (calls : Nat) :
    List (Event Answer) × World × Script (Unit × WatchdogReport) :=
  ((patrolUnits (applyWatchdogDefaults opts) systemd).run (.start opts.execute)).play after
    scene.answer calls [] { world with fresh := [] }

def blank : World where
  marker := .absent
  clock := 0
  hooks := []
  fresh := []
  log := []
  staged := some .none

theorem blank_sound : Sound blank := ⟨nofun, nofun⟩

def Shows (systemd : List Status) : Prop :=
  ∃ units, scene.rows.map Row.status = units ∧
    ((enrichWatchdogSystemdRepos units).play after scene.answer 30 [] blank).2.2.value? =
      some systemd

variable {scene} {opts : WatchdogOptions} {systemd : List Status}

theorem Shows.enriched (shows_ : scene.Shows systemd) (fits : scene.Fits condition) :
    ∃ events, Execution .any enrichedUnits [] () events () (some systemd) := by
  rcases shows_ with ⟨units, listed, enriched⟩
  have played : Execution (host.limited condition) (enrichWatchdogSystemdRepos units) [] blank
    _ _ _ :=
    (Program.play_execution fits.permitted 30 blank_sound).1
  rw [show (host.limited condition).after = after from rfl, enriched] at played
  rcases played.replay with ⟨events, _, execution⟩
  refine ⟨⟨.listUnits, .ok (String.ofList (listing scene.rows))⟩ :: events,
    .answered (.ok (String.ofList (listing scene.rows))) trivial ?_⟩
  change Execution .any (enrichWatchdogSystemdRepos (parseSystemctlList _)) _ _ _ _ _
  rw [parseSystemctlList_listing, listed]
  exact execution.shift [_]

theorem Shows.execution (shows_ : scene.Shows systemd) (fits : scene.Fits condition)
    (valid : validateWatchdogOptions (applyWatchdogDefaults opts) = none) (sound : Sound world)
    (calls : Nat) :
    ∃ events, Enriched (admitted ++ events) systemd ∧
      Execution (host.limited condition) (watchdog opts) [] world
        (admitted ++ events ++ (scene.patrolled opts systemd world calls).1)
        (scene.patrolled opts systemd world calls).2.1
        ((scene.patrolled opts systemd world calls).2.2.value?.map Prod.snd) := by
  rcases shows_.enriched fits with ⟨events, execution⟩
  refine ⟨events, ⟨events, [], (List.append_nil _).symm, execution⟩, ?_⟩
  have still : ∀ call answer, Surveys call →
    (host.limited condition).permits { world with fresh := [] } call answer ∧
      after { world with fresh := [] } call answer = { world with fresh := [] } := by
    intro call answer surveys
    refine ⟨⟨?_, fits.surveys _ _ _ surveys⟩, after_observed surveys.observes⟩
    cases call <;> trivial
  have found : Execution (host.limited condition) enrichedUnits admitted { world with fresh := [] }
    (admitted ++ events) { world with fresh := [] } (some systemd) :=
    (Program.Within.transfer enrichedUnits_surveys (fun _ _ _ _ => trivial) still
      execution).shift admitted
  have opened : Sound { world with fresh := [] } := ⟨sound.marker, sound.staged⟩
  have played : Execution (host.limited condition)
    ((patrolUnits (applyWatchdogDefaults opts) systemd).run (.start opts.execute)) []
    { world with fresh := [] } (scene.patrolled opts systemd world calls).1
    (scene.patrolled opts systemd world calls).2.1
    (scene.patrolled opts systemd world calls).2.2.value? :=
    (Program.play_execution fits.permitted calls opened).1
  have shifted := played.shift (admitted ++ events)
  rw [List.append_nil] at shifted
  unfold watchdog watch
  rw [valid]
  refine Execution.map Prod.snd ?_
  exact .answered .notExist (fits.permitted [] world .statMaintenance sound).1
    (.answered none (fits.permitted [] _ .lsRemote opened).1 (found.lifted shifted))

theorem patrolled_sound (positive : 0 < scene.time) (sound : Sound world) (calls : Nat) :
    Sound (scene.patrolled opts systemd world calls).2.1 := by
  have opened : Sound { world with fresh := [] } := ⟨sound.marker, sound.staged⟩
  exact (Program.play_execution (Fits.any positive).permitted calls opened).2

theorem Shows.again {start : World} {runs : List (List (Event Answer) × Option WatchdogReport)}
    (shows_ : scene.Shows systemd) (fits : scene.Fits condition)
    (valid : validateWatchdogOptions (applyWatchdogDefaults opts) = none) (sound : Sound world)
    (calls : Nat) (history : Repeated (host.limited condition) (watchdog opts) start runs world) :
    ∃ trace, Repeated (host.limited condition) (watchdog opts) start
      (runs ++ [(trace, (scene.patrolled opts systemd world calls).2.2.value?.map Prod.snd)])
      (scene.patrolled opts systemd world calls).2.1 := by
  rcases shows_.execution fits valid sound calls with ⟨events, _, execution⟩
  exact ⟨_, history.again execution⟩

def restartOf : Event Answer → Option (RestartPath × String)
  | ⟨.restartFn path unit, _⟩ => some (path, unit)
  | _ => none

theorem restart_of_mem {path : RestartPath} {unit : String} {trace : List (Event Answer)}
    (member : some (path, unit) ∈ trace.map restartOf) :
    ∃ answer, ⟨.restartFn path unit, answer⟩ ∈ trace := by
  rcases List.mem_map.mp member with ⟨⟨call, answer⟩, among, equal⟩
  cases call <;> cases equal
  exact ⟨answer, among⟩

end Scene

def Entry.restart : Entry → Option (RestartPath × String)
  | .restarted _ path unit _ => some (path, unit)
  | _ => none

theorem Entry.restarted_of_mem {path : RestartPath} {unit : String} {log : List Entry}
    (member : some (path, unit) ∈ log.map Entry.restart) :
    ∃ time result, .restarted time path unit result ∈ log := by
  rcases List.mem_map.mp member with ⟨entry, among, equal⟩
  cases entry <;> cases equal
  exact ⟨_, _, among⟩

namespace Sample

def watching : WatchdogOptions where
  execute := true
  repos := ["acme/app"]
  inferRepos := false
  rerunNetworkFailures := true
  networkTimeout := 0
  restartDelay := 0
  idleProbeDelay := 0
  maxRunAge := 0
  runLimit := 0
  markerPath := ""
  autoRestartPerHour := 0
  queueStallDwell := 0
  restartFn path unit := perform (.restartFn path unit)

theorem watching_valid : validateWatchdogOptions (applyWatchdogDefaults watching) = none := by
  decide +kernel

def quiet (rows : List Row) : Scene where
  rows := rows
  directory unit := if unit = "actions.runner.acme.civm-org.service" then .ok "" else .ok "/srv"
  config _ := .error (.text "ENOENT")
  repos := ""
  runners := []
  evidence := ⟨0, ""⟩
  time := 5
  runs := []
  stuck := []

def broken : World :=
  { Scene.blank with hooks := [some ⟨4, "/srv/_work", [("work_root", "EBUSY")]⟩] }

theorem broken_sound : Scene.Sound broken := ⟨nofun, nofun⟩

def appUnit : Status where
  unitName := "actions.runner.acme-app.civm-app.service"
  repo := "acme/app"
  name := "civm-app"
  loadState := "loaded"
  activeState := "active"
  subState := "running"
  workingDirectory := "/srv"

theorem single_shown : (quiet (unhyphenated.drop 1)).Shows [appUnit] :=
  ⟨[{ appUnit with workingDirectory := "" }], by decide +kernel, by decide +kernel⟩

end Sample

end Civm.Runner
