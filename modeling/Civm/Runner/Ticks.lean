import Civm.Foundation.Justified
import Civm.Runner.Patrols

/-! # Ticks

A tick keeps to its deeds from its beginning to its end. -/

namespace Civm.Runner

/-- How a tick begins that does more than looking. -/
def admitted : List (Event Answer) := [⟨.statMaintenance, .notExist⟩, ⟨.lsRemote, none⟩]

/-- The units of the tick, as it has found them at its beginning. -/
def Enriched (trace : List (Event Answer)) (systemd : List Status) : Prop :=
  ∃ events after, trace = admitted ++ events ++ after ∧
    Execution .any enrichedUnits [] () events () (some systemd)

theorem Enriched.longer {trace trace' : List (Event Answer)} {systemd : List Status}
    (enriched : Enriched trace systemd) (longer : trace <+: trace') : Enriched trace' systemd := by
  rcases enriched with ⟨events, after, rfl, execution⟩
  rcases longer with ⟨rest, rfl⟩
  exact ⟨events, after ++ rest, List.append_assoc _ _ _, execution⟩

theorem Enriched.unique {trace : List (Event Answer)} {systemd systemd' : List Status}
    (enriched : Enriched trace systemd) (enriched' : Enriched trace systemd') :
    systemd = systemd' := by
  rcases enriched with ⟨events, after, rfl, execution⟩
  rcases enriched' with ⟨events', after', equal, execution'⟩
  rw [List.append_assoc, List.append_assoc, List.append_cancel_left_eq] at equal
  exact execution.deterministic execution' ⟨after, equal⟩ ⟨after', rfl⟩

/-- The commands of a tick: before it knows its units, it only looks. -/
def tick (opts : WatchdogOptions) : Contract Answer World where
  keeps _ _ := True
  allows trace world call := Observes call ∨ (call = .statMaintenance ∧ trace = []) ∨
    ∃ systemd, Enriched trace systemd ∧ Deed opts systemd trace world call
  progress := False

variable {condition : World → (call : Call) → Answer call → Prop}
variable {opts : WatchdogOptions} {systemd : List Status} {world : World}
variable {report : WatchdogReport} {trace : List (Event Answer)}
variable (calls : opts.restartFn = fun path unit => perform (.restartFn path unit))

/-! ## The parts together -/

include calls

theorem patrolOrgs_orderly {repos : List String} (fresh : world.fresh = []) :
    Orderly condition opts systemd (patrolOrgs opts systemd repos) world := by
  refine .bind (recoverWatchdogOrgBusyWithoutWorker_orderly calls fresh) fun _ world fresh => ?_
  refine .bind (recoverWatchdogOrgIdleWithQueue_orderly calls fresh) fun _ world fresh => ?_
  refine .bind (restartWatchdogRunners_orderly calls fresh) fun result world fresh => ?_
  cases result with
  | some error => exact .reported fresh
  | none =>
    intro report trace
    refine .bind (.get (.bind (.modify ?_)))
    rw [Ensures.satisfies_ite]
    refine ⟨fun _ => .bind (.modify ?_), fun _ => ?_⟩
    · rw [Ensures.satisfies_ite]
      exact ⟨fun _ => fresh, fun _ => fresh⟩
    · rw [Ensures.satisfies_ite]
      exact ⟨fun _ => fresh, fun _ => fresh⟩

omit calls

theorem finishTick_ensures {repos online : List String} (fresh : world.fresh = []) :
    Ensures (host.limited condition) (deeds opts systemd) (finishTick opts repos online)
      (fun _ _ _ world' => Reliable condition → Settled world') report trace world := by
  refine .bind (.modify (.bind (.modify ?_)))
  rw [Ensures.satisfies_ite]
  refine ⟨fun _ _ => settled_of_fresh fresh, fun _ => ?_⟩
  refine .next (rerunWatchdogNetworkFailures_ensures fresh) fun result report trace world settled => ?_
  cases result <;> exact settled

theorem collectWatchdogGitHubRunners_orderly {repos online : List String}
    {byRepo : Table (List GitHubRunner)} (fresh : world.fresh = []) :
    Orderly condition opts systemd (collectWatchdogGitHubRunners byRepo online repos) world := by
  intro report trace
  refine Program.Satisfies.mono (looks_satisfies (collectWatchdogGitHubRunners_looks report)) ?_
  rintro result trace' world' rfl
  exact fresh

theorem repairWatchdogHooks_orderly (fresh : world.fresh = []) :
    Orderly condition opts systemd (repairWatchdogHooks opts) world := by
  intro report trace
  refine .bind (.perform trivial rfl False.elim fun result _ => ?_)
  dsimp only
  rw [Ensures.satisfies_ite]
  exact ⟨fun _ => fresh, fun _ => fresh⟩

include calls

theorem repair_ensures {repos : List String} {ghBefore : Table (List GitHubRunner)}
    (fresh : world.fresh = []) :
    Ensures (host.limited condition) (deeds opts systemd) (repair opts systemd repos ghBefore)
      (fun _ _ _ world' => Reliable condition → Settled world') report trace world := by
  refine .next (repairWatchdogHooks_orderly fresh report trace) ?_
  rintro (_ | error) report trace world fresh
  · refine .next (restartWatchdogRunners_orderly calls fresh report trace) ?_
    rintro (_ | error) report trace world fresh
    · refine .next (collectWatchdogGitHubRunners_orderly fresh report trace) ?_
      exact fun result report trace world fresh => finishTick_ensures fresh
    · exact fun _ => settled_of_fresh fresh
  · exact fun _ => settled_of_fresh fresh

theorem patrolRepos_ensures {repos : List String} (fresh : world.fresh = []) :
    Ensures (host.limited condition) (deeds opts systemd) (patrolRepos opts systemd repos)
      (fun _ _ _ world' => Reliable condition → Settled world') report trace world := by
  refine .next (collectWatchdogGitHubRunners_orderly fresh report trace) ?_
  rintro ⟨ghBefore, online⟩ report trace world fresh
  refine .bind (.modify (.next (detectBrokenRunner_orderly calls fresh _ trace) ?_))
  intro _ report trace world fresh
  refine .bind (.lift ((looks_satisfies unlessIdle_looks).mono ?_))
  rintro reason trace world' rfl
  split
  case h_1 =>
    refine .bind (.modify ?_)
    rw [Ensures.satisfies_ite]
    exact ⟨fun _ _ => settled_of_fresh fresh, fun _ _ => settled_of_fresh fresh⟩
  case h_2 => exact repair_ensures calls fresh

theorem patrolUnits_ensures (fresh : world.fresh = []) :
    Ensures (host.limited condition) (deeds opts systemd) (patrolUnits opts systemd)
      (fun _ _ _ world' => Reliable condition → Settled world') report trace world := by
  refine .bind (.lift ((looks_satisfies watchedRepos_looks).mono ?_))
  rintro answer trace world' rfl
  split
  case h_1 => exact fun _ => settled_of_fresh fresh
  case h_2 repos fleet =>
    refine .bind (.modify ?_)
    rw [Ensures.satisfies_ite]
    refine ⟨fun _ => ?_, fun _ => patrolRepos_ensures calls fresh⟩
    exact (patrolOrgs_orderly calls fresh _ trace).mono fun _ _ _ _ fresh _ =>
      settled_of_fresh fresh

/-! ## The tick as a whole -/

theorem watch_ensures (settled : Reliable condition → Settled world) :
    Ensures (host.limited condition) (tick opts) (watch opts)
      (fun _ _ _ world' => Reliable condition → Settled world') report [] world := by
  unfold watch
  split
  case h_1 => exact settled
  case h_2 =>
  refine .bind (.perform trivial (.inr (.inl ⟨rfl, rfl⟩)) False.elim fun answer _ => ?_)
  have fresh : ((host.limited condition).after world .statMaintenance answer).fresh = [] := rfl
  generalize (host.limited condition).after world .statMaintenance answer = world at fresh ⊢
  cases answer with
  | failed error | found => exact fun _ => settled_of_fresh fresh
  | notExist =>
  refine .bind (.perform trivial (.inl trivial) False.elim fun answer _ => ?_)
  cases answer with
  | some error => exact fun _ => settled_of_fresh fresh
  | none =>
  have looks : Looks (fun _ _ => True) enrichedUnits := enrichedUnits_looks
  have looked : enrichedUnits.Satisfies (host.limited condition) (tick opts)
    (fun _ _ world' => True ∧ world' = world) admitted world := by
    refine looks.satisfies ?_ (fun _ _ _ => trivial) ?_ id rfl
    · rintro trace world' call answer rfl observes permitted
      exact ⟨trivial, after_observed observes⟩
    · exact fun _ _ _ _ observes => .inl observes
  refine .bind (.lift (looked.replay.mono ?_))
  rintro systemd trace' world' ⟨⟨events, rfl, execution⟩, _, rfl⟩
  refine Program.Satisfies.since (patrolUnits_ensures calls fresh) (fun _ _ _ _ => trivial) ?_ id
  intro trace world call longer deed
  have enriched : Enriched (admitted ++ events) systemd :=
    ⟨events, [], (List.append_nil _).symm, execution⟩
  exact .inr (.inr ⟨systemd, enriched.longer longer, deed⟩)

theorem watchdog_satisfies (settled : Reliable condition → Settled world) :
    (watchdog opts).Satisfies (host.limited condition) (tick (applyWatchdogDefaults opts))
      (fun _ _ world' => Reliable condition → Settled world') [] world :=
  Ensures.run (watch_ensures calls settled) fun _ _ _ _ settled => settled

/-- What every command of a tick preserves holds wherever the tick ends. -/
theorem watchdog_preserves {invariant : List (Event Answer) → World → Prop} {world' result}
    (step : ∀ trace world call answer, invariant trace world →
      (tick (applyWatchdogDefaults opts)).allows trace world call → permits world call answer →
      invariant (trace ++ [⟨call, answer⟩]) (after world call answer))
    (execution : Execution host (watchdog opts) [] world trace world' result)
    (holds : invariant [] world) : invariant trace world' := by
  have unreliable : Reliable (fun _ _ _ => True) → Settled world := fun reliable =>
    (reliable world .readMarker (.error (.text "")) trivial (.inl trivial)).elim
  refine (watchdog_satisfies calls unreliable).preserves ?_ (execution.limited fun _ _ _ _ => trivial)
    holds
  exact fun trace world call answer holds allowed permitted =>
    step trace world call answer holds allowed permitted.1

/-- An entry that is about neither the marker file nor a restart. -/
def Entry.Plain : Entry → Prop
  | .saved _ _ _ => False
  | .restarted _ _ _ _ => False
  | _ => True

/-- What a command of a tick does to the marker file and to the record. -/
inductive Moves (opts : WatchdogOptions) (trace : List (Event Answer)) (record : Record) :
    Record → Prop
  | still (record' : Record) : record'.marker = record.marker → record'.log = record.log →
    Moves opts trace record record'
  | saved (systemd : List Status) (before : List (Event Answer)) (state : RerunState) :
    Enriched trace systemd → before <+: trace → Edit opts systemd before record state →
    Moves opts trace record { record with
      marker := .state state
      log := record.log ++ [.saved record.clock record.current state] }
  | restarted (systemd : List Status) (path : RestartPath) (unit : String)
    (result : Option Error) :
    Enriched trace systemd → Restart opts systemd trace record path unit →
    Moves opts trace record { record with
      log := record.log ++ [.restarted record.clock path unit result] }
  | noted (record' : Record) (entry : Entry) : record'.marker = record.marker →
    record'.log = record.log ++ [entry] → entry.Plain →
    Moves opts trace record record'

omit calls

theorem moves_of_allowed {call : Call} {answer : Answer call}
    (allowed : (tick opts).allows trace world call) :
    Moves opts trace world.toRecord (after world call answer).toRecord := by
  rcases allowed with observes | ⟨rfl, _⟩ | ⟨systemd, enriched, deed⟩
  · rw [after_observed observes]
    exact .still _ rfl rfl
  · exact .still _ rfl rfl
  cases call with
  | renameMarker =>
    rcases deed with ⟨_, before, state, rfl, staged, edit⟩
    cases took : answer.took with
    | false =>
      have same : after world .renameMarker answer = world := by simp [after, took]
      rw [same]
      exact .still _ rfl rfl
    | true =>
      have renamed : after world .renameMarker answer = world.saved state := by
        simp [after, took, World.rename, staged]
      rw [renamed]
      exact .saved systemd before state enriched (List.prefix_append _ _) edit
  | restartFn path unit => exact .restarted systemd path unit answer enriched deed.2
  | rerun repo runID headSHA =>
    cases answer with
    | some error => exact .still _ rfl rfl
    | none => exact .noted _ _ rfl rfl trivial
  | queuedJobs repos now maxAge =>
    cases answer with
    | error error => exact .still _ rfl rfl
    | ok evidence => exact .noted _ _ rfl rfl trivial
  | writeMarker state | readHooksLog => cases answer <;> exact .still _ rfl rfl
  | statMaintenance => exact deed.elim
  | _ => exact .still _ rfl rfl

include calls

/-- If the event is a restart, the units and the record of the tick account for
it. -/
def Accounted (opts : WatchdogOptions) (before : List (Event Answer)) (event : Event Answer) :
    Prop :=
  ∀ path unit, event.call = .restartFn path unit → ∃ systemd record, Enriched before systemd ∧
    Restart opts systemd before record path unit

/-- Every restart of a tick is one that its units and its record account for. -/
theorem restart_accounted {world' result path unit answer} {before after : List (Event Answer)}
    (execution : Execution host (watchdog opts) [] world
      (before ++ ⟨.restartFn path unit, answer⟩ :: after) world' result) :
    ∃ systemd record, Enriched before systemd ∧
      Restart (applyWatchdogDefaults opts) systemd before record path unit := by
  have step : ∀ trace world call answer, Justified (Accounted (applyWatchdogDefaults opts)) trace →
    (tick (applyWatchdogDefaults opts)).allows trace world call → permits world call answer →
    Justified (Accounted (applyWatchdogDefaults opts)) (trace ++ [⟨call, answer⟩]) := by
    intro trace world call answer justified allowed _
    refine justified.snoc ?_
    rintro path unit rfl
    rcases allowed with observes | ⟨opening, _⟩ | ⟨systemd, enriched, _, restart⟩
    · exact observes.elim
    · cases opening
    · exact ⟨systemd, world.toRecord, enriched, restart⟩
  exact watchdog_preserves calls step execution .nil before _ after rfl path unit rfl

end Civm.Runner
