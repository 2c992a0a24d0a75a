import Civm.Foundation.Frame
import Civm.Runner.Watchdog

/-! # The parts of a tick that only look

Most of a tick asks and changes nothing. What it knows of the marker file and of
the runs is not touched by these parts. -/

namespace Civm.Runner

/-- The commands that change nothing. The clock, the log of the hooks, the queue
and the state of the maintenance are looked at elsewhere, where a tick relies on
what it has seen. -/
def Observes : Call → Prop
  | .statMaintenance => False
  | .now => False
  | .readHooksLog => False
  | .queuedJobs _ _ _ => False
  | .mkdirMarker => False
  | .writeMarker _ => False
  | .renameMarker => False
  | .removeMarker => False
  | .hookInstall _ => False
  | .freeze _ => False
  | .thaw _ => False
  | .stop _ => False
  | .kill _ => False
  | .restart _ => False
  | .restartFn _ _ => False
  | .rerun _ _ _ => False
  | _ => True

variable {opts : WatchdogOptions} {possible : (call : Call) → Answer call → Prop}

abbrev Looks (possible : (call : Call) → Answer call → Prop) (script : Script α) : Prop :=
  script.Within possible Observes fun _ => True

theorem looks_pure {value : α} : Looks possible (pure value : Script α) := trivial

theorem looks_perform {call : Call} {next : Answer call → Script α} (observes : Observes call)
    (continues : ∀ answer, Looks possible (next answer)) :
    Looks possible (perform call >>= next) :=
  ⟨observes, fun answer _ => continues answer⟩

theorem looks_bind {script : Script α} {next : α → Script β} (first : Looks possible script)
    (second : ∀ value, Looks possible (next value)) : Looks possible (script >>= next) :=
  Program.Within.bind first fun value _ => second value

/-! ## Probes and the marker file -/

theorem hasLocalRunnerWorker_looks : Looks possible hasLocalRunnerWorker := by
  refine looks_perform trivial fun answer => ?_
  split <;> trivial

theorem probe_looks : Looks possible probe := by
  refine looks_perform trivial fun answer => ?_
  split <;> trivial

theorem idleCheck_looks : Looks possible (idleCheck opts) := by
  refine looks_bind probe_looks fun result => ?_
  split
  case h_1 =>
    rw [Looks, Program.within_ite]
    refine ⟨fun _ => trivial, fun _ => looks_perform trivial fun answer => ?_⟩
    split
    case h_1 => trivial
    case h_2 => exact probe_looks
  case h_2 => trivial

theorem unlessIdle_looks : Looks possible (unlessIdle opts) := by
  rw [Looks, unlessIdle, Program.within_ite]
  exact ⟨fun _ => looks_bind idleCheck_looks fun _ => trivial, fun _ => trivial⟩

/-! ## GitHub -/

variable {status : Status} {repos : List String} {repo : String}

theorem watchdogOrgRunner_looks : Looks possible (watchdogOrgRunner status) := by
  refine looks_perform trivial fun answer => ?_
  split <;> trivial

theorem watchdogOnlineIdleOrgRunner_looks :
    Looks possible (watchdogOnlineIdleOrgRunner status) := by
  refine looks_bind watchdogOrgRunner_looks fun found => ?_
  split
  case h_1 => trivial
  case h_2 => trivial
  case h_3 =>
    rw [Looks, Program.within_ite]
    exact ⟨fun _ => trivial, fun _ => trivial⟩

theorem openPullRequest_looks {reason : String} {numbers : List Int} :
    Looks possible (openPullRequest repo reason numbers) := by
  induction numbers generalizing reason with
  | nil => trivial
  | cons number rest induction =>
    rw [Looks, openPullRequest, Program.within_ite]
    refine ⟨fun _ => induction, fun _ => looks_perform trivial fun answer => ?_⟩
    split
    case h_1 => trivial
    case h_2 =>
      rw [Looks, Program.within_ite]
      refine ⟨fun _ => induction, fun _ => ?_⟩
      dsimp only
      rw [Program.within_ite]
      exact ⟨fun _ => trivial, fun _ => trivial⟩

theorem collectWatchdogGitHubRunners_looks {byRepo : Table (List GitHubRunner)}
    {online : List String} :
    Routine.Within possible Observes (fun _ => True)
      (collectWatchdogGitHubRunners byRepo online repos) := by
  induction repos generalizing byRepo online with
  | nil => exact Routine.within_pure trivial
  | cons repo rest induction =>
    refine Routine.within_perform trivial fun answer _ => ?_
    split
    case h_1 =>
      refine .bind Routine.within_modify fun _ _ => .bind Routine.within_modify fun _ _ => ?_
      exact induction
    case h_2 => exact .bind Routine.within_modify fun _ _ => induction

/-! ## The units -/

/-- The commands by which the units are found. -/
def Surveys : Call → Prop
  | .listUnits | .workingDirectory _ | .runnerConfig _ => True
  | _ => False

theorem Surveys.observes {call : Call} (surveys : Surveys call) : Observes call := by
  cases call <;> trivial

/-- Only a unit whose name is valid has a directory. -/
def Located (status : Status) : Prop :=
  status.workingDirectory ≠ "" → validateServiceUnit status.unitName = none

theorem parseLine_directory {line : String} (parsed : parseLine line = some status) :
    status.workingDirectory = "" := by
  unfold parseLine at parsed
  dsimp only at parsed
  split at parsed
  case h_1 =>
    cases parsed
    rfl
  case h_2 => cases parsed

theorem list_surveys : list.Within possible Surveys fun systemd => ∀ status ∈ systemd, Located status := by
  refine Program.within_perform trivial fun answer _ => ?_
  split
  case h_1 => exact nofun
  case h_2 output =>
    intro status member located
    rcases List.mem_filterMap.mp member with ⟨line, _, parsed⟩
    exact absurd (parseLine_directory parsed) located

theorem resolve_surveys {find : RunnerConfig → Option String} :
    (resolve find status).Within possible Surveys fun result =>
      result.1 ≠ none → validateServiceUnit status.unitName = none := by
  rw [resolve, Program.within_ite]
  refine ⟨fun _ absent => absurd rfl absent, fun named => Program.within_perform trivial fun answer _ => ?_⟩
  have valid : validateServiceUnit status.unitName = none := by
    by_contra invalid
    exact named (.inr (Option.isSome_iff_ne_none.mpr invalid))
  split
  case h_1 => exact fun _ => valid
  case h_2 =>
    dsimp only
    rw [Program.within_ite]
    refine ⟨fun _ _ => valid, fun _ => Program.within_perform trivial fun answer _ => ?_⟩
    split <;> exact fun _ => valid

theorem enrich_surveys (located : Located status) :
    (enrich status).Within possible Surveys Located := by
  refine resolve_surveys.bind fun result found => resolve_surveys.bind fun _ _ => ?_
  intro present
  rcases result with ⟨_ | directory, repo⟩
  · exact located present
  · exact found nofun

theorem enrichWatchdogSystemdRepos_surveys {systemd : List Status}
    (located : ∀ status ∈ systemd, Located status) :
    (enrichWatchdogSystemdRepos systemd).Within possible Surveys fun systemd =>
      ∀ status ∈ systemd, Located status := by
  induction systemd with
  | nil => exact nofun
  | cons status rest induction =>
    rw [List.forall_mem_cons] at located
    refine (enrich_surveys located.1).bind fun status first => ?_
    refine (induction located.2).bind fun rest others => ?_
    exact List.forall_mem_cons.mpr ⟨first, others⟩

theorem enrichedUnits_surveys : enrichedUnits.Within possible Surveys fun systemd =>
    ∀ status ∈ systemd, Located status :=
  list_surveys.bind fun _ located => enrichWatchdogSystemdRepos_surveys located

theorem enrichedUnits_looks : Looks possible enrichedUnits :=
  enrichedUnits_surveys.mono (fun _ => Surveys.observes) fun _ _ => trivial

theorem defaultWatchdogQueueRepos_looks : Looks possible defaultWatchdogQueueRepos := by
  refine looks_perform trivial fun raw => ?_
  dsimp only
  rw [Looks, Program.within_ite]
  exact ⟨fun _ => looks_pure, fun _ => looks_pure⟩

theorem watchedRepos_looks {systemd : List Status} : Looks possible (watchedRepos opts systemd) := by
  unfold watchedRepos
  dsimp only
  rw [Looks, Program.within_ite]
  refine ⟨fun _ => looks_bind defaultWatchdogQueueRepos_looks fun configured => ?_,
    fun _ => looks_pure⟩
  split
  case h_1 => exact looks_pure
  case h_2 => split <;> exact looks_pure

end Civm.Runner
