import Civm.Foundation.Frame
import Civm.Foundation.Justified
import Civm.Foundation.Play
import Civm.Runner.Tick

/-! # The restart of one unit is fenced

A unit that can be frozen is restarted only after a probe that saw no worker,
and it does not stay frozen. A unit that cannot be frozen because it is down is
restarted without any probe. -/

namespace Civm.Runner

abbrev Trace := List (Event Answer)

variable {World : Type} {outside : Outside Answer World} {world world' : World}
variable {trace : Trace} {event : Event Answer} {unit : String}

/-! ## What is asked of a trace -/

def ReportsNoWorker : Event Answer → Prop
  | ⟨.activities, .ok activities⟩ =>
    (activities.any fun activity => Text.contains activity.command "Runner.Worker") = false
  | _ => False

/-- The commands that take a running unit down. -/
def Mutates : Event Answer → Prop
  | ⟨.stop _, _⟩ => True
  | ⟨.kill _, _⟩ => True
  | ⟨.restart _, _⟩ => True
  | _ => False

def Freezes : Event Answer → Prop
  | ⟨.freeze _, outcome⟩ => outcome.error = none
  | _ => False

/-- A stop that succeeds, or an attempt to thaw. -/
def Releases : Event Answer → Prop
  | ⟨.stop _, outcome⟩ => outcome.error = none
  | ⟨.thaw _, _⟩ => True
  | _ => False

/-- A probe comes before every mutation. -/
def Probed : Trace → Prop :=
  Justified fun before event => Mutates event → ∃ probe ∈ before, ReportsNoWorker probe

/-- A release comes after every freeze. -/
def Released (trace : Trace) : Prop :=
  ∀ before event after, trace = before ++ event :: after → Freezes event →
    ∃ release ∈ after, Releases release

def Down (unit : String) (trace : Trace) : Prop :=
  ∃ outcome state, [⟨.freeze unit, outcome⟩, ⟨.isActive unit, state⟩] <+: trace ∧
    outcome.error ≠ none ∧ (Text.trimSpace state = "inactive" ∨ Text.trimSpace state = "failed")

/-! ## Growing traces -/

theorem Released.snoc (released : Released trace) (quiet : ¬Freezes event) :
    Released (trace ++ [event]) := by
  intro before last after split freezes
  rcases snoc_eq_append_cons split with ⟨rfl, rfl, rfl⟩ | ⟨middle, rfl, rfl⟩
  · exact absurd freezes quiet
  · rcases released before last middle rfl freezes with ⟨release, member, releases⟩
    exact ⟨release, List.mem_append_left _ member, releases⟩

theorem Released.of_release (releases : Releases event) (quiet : ¬Freezes event) :
    Released (trace ++ [event]) := by
  intro before last after split freezes
  rcases snoc_eq_append_cons split with ⟨rfl, rfl, rfl⟩ | ⟨middle, rfl, rfl⟩
  · exact absurd freezes quiet
  · exact ⟨event, by simp, releases⟩

theorem Released.of_quiet (quiet : ∀ event ∈ trace, ¬Freezes event) : Released trace := by
  intro before event after split freezes
  exact absurd freezes (quiet event (by simp [split]))

/-- A probe has seen no worker, and came before every mutation. -/
structure Guarded (trace : Trace) : Prop where
  probed : Probed trace
  probe : ∃ probe ∈ trace, ReportsNoWorker probe

theorem Guarded.snoc (guarded : Guarded trace) (event : Event Answer) :
    Guarded (trace ++ [event]) where
  probed := Justified.snoc guarded.probed fun _ => guarded.probe
  probe := by
    rcases guarded.probe with ⟨probe, member, reports⟩
    exact ⟨probe, List.mem_append_left _ member, reports⟩

/-! ## The restart -/

/-- The part of the property that holds however far the restart gets. -/
def fencing (unit : String) : Contract Answer World where
  keeps trace _ := ¬Down unit trace → Probed trace
  allows _ _ _ := True
  progress := False

/-- What holds of a restart that returns. -/
def Fenced (unit : String) (trace : Trace) : Prop :=
  (¬Down unit trace → Probed trace ∧ Released trace) ∧ (Probed trace → ¬Down unit trace)

theorem perform_fenced {call : Call} {next : Answer call → Script α}
    {post : α → Trace → World → Prop} (keeps : ¬Down unit trace → Probed trace)
    (continues : ∀ answer, (next answer).Satisfies outside (fencing unit) post
      (trace ++ [⟨call, answer⟩]) (outside.after world call answer)) :
    (perform call >>= next).Satisfies outside (fencing unit) post trace world :=
  ⟨keeps, trivial, False.elim, fun answer _ => continues answer⟩

/-- A probe has seen no worker, and nothing stays frozen. -/
structure Safe (trace : Trace) : Prop extends Guarded trace where
  released : Released trace

theorem Safe.snoc (safe : Safe trace) (event : Event Answer) (quiet : ¬Freezes event) :
    Safe (trace ++ [event]) where
  toGuarded := safe.toGuarded.snoc event
  released := safe.released.snoc quiet

theorem Safe.fenced (safe : Safe trace) (up : ¬Down unit trace) : Fenced unit trace :=
  ⟨fun _ => ⟨safe.probed, safe.released⟩, fun _ => up⟩

section Steps

variable {other : String}

theorem perform_safe {call : Call} {next : Answer call → Script α} (safe : Safe trace)
    (quiet : ∀ answer, ¬Freezes ⟨call, answer⟩)
    (continues : ∀ answer, Safe (trace ++ [⟨call, answer⟩]) →
      (next answer).Satisfies outside (fencing other) (fun _ trace _ => Safe trace)
        (trace ++ [⟨call, answer⟩]) (outside.after world call answer)) :
    (perform call >>= next).Satisfies outside (fencing other) (fun _ trace _ => Safe trace)
      trace world :=
  perform_fenced (fun _ => safe.probed) fun answer =>
    continues answer (safe.snoc ⟨call, answer⟩ (quiet answer))

theorem restartStopped_safe (safe : Safe trace) :
    (restartStopped unit).Satisfies outside (fencing other) (fun _ trace _ => Safe trace)
      trace world := by
  refine perform_safe safe (fun _ => id) fun outcome safe => ?_
  split
  case h_1 error failed => exact safe
  case h_2 succeeded =>
    refine perform_safe safe (fun _ => id) fun _ safe => ?_
    refine perform_safe safe (fun _ => id) fun state safe => ?_
    dsimp only
    split <;> exact safe

theorem watchdogUnitCgroupEmpty_safe (safe : Safe trace) :
    (watchdogUnitCgroupEmpty unit).Satisfies outside (fencing other) (fun _ trace _ => Safe trace)
      trace world := by
  refine perform_safe safe (fun _ => id) fun answer safe => ?_
  split
  case h_1 error failed => exact safe
  case h_2 output =>
    dsimp only
    rw [Program.satisfies_ite, Program.satisfies_ite]
    refine ⟨fun _ => safe, fun _ => ⟨fun _ => safe, fun _ => ?_⟩⟩
    refine perform_safe safe (fun _ => id) fun answer safe => ?_
    split <;> exact safe

theorem purgeAndRestart_safe (safe : Safe trace) :
    (purgeAndRestart unit).Satisfies outside (fencing other) (fun _ trace _ => Safe trace)
      trace world := by
  refine perform_safe safe (fun _ => id) fun outcome safe => ?_
  split
  case h_1 succeeded => exact restartStopped_safe safe
  case h_2 error failed =>
    rw [Program.satisfies_bind]
    refine (watchdogUnitCgroupEmpty_safe safe).mono fun empty trace world safe => ?_
    split
    case h_1 => exact safe
    case h_2 => exact safe
    case h_3 => exact restartStopped_safe safe

theorem stopAndRestart_safe (guarded : Guarded trace) :
    (stopAndRestart true unit).Satisfies outside (fencing other) (fun _ trace _ => Safe trace)
      trace world := by
  refine perform_fenced (fun _ => guarded.probed) fun outcome => ?_
  have guarded := guarded.snoc ⟨.stop unit, outcome⟩
  split
  case h_1 error failed =>
    refine perform_fenced (fun _ => guarded.probed) fun thawed => ?_
    exact ⟨guarded.snoc ⟨.thaw unit, thawed⟩, .of_release trivial id⟩
  case h_2 succeeded => exact purgeAndRestart_safe ⟨guarded, .of_release succeeded id⟩

end Steps

theorem unprobed_fenced (program : Script α) (down : Down unit trace) (unprobed : ¬Probed trace) :
    program.Satisfies outside (fencing unit) (fun _ trace _ => Fenced unit trace) trace world := by
  induction program generalizing trace world with
  | done value => exact ⟨fun up => absurd down up, fun probed => absurd probed unprobed⟩
  | ask call next induction =>
    refine perform_fenced (fun up => absurd down up) fun answer => induction answer ?_ ?_
    · rcases down with ⟨outcome, state, start, failed, isDown⟩
      exact ⟨outcome, state, start.trans (List.prefix_append _ _), failed, isDown⟩
    · exact fun probed => unprobed (Justified.of_prefix probed (List.prefix_append _ _))
  | spin => exact ⟨fun up => absurd down up, id⟩

theorem not_down_of_freezes {outcome : Outcome} {rest : Trace} (frozen : outcome.error = none) :
    ¬Down unit (⟨.freeze unit, outcome⟩ :: rest) := by
  rintro ⟨failed, state, start, error, _⟩
  cases (List.cons_prefix_cons.mp start).1
  exact error frozen

theorem not_down_of_state {outcome : Outcome} {state : String} {rest : Trace}
    (up : Text.trimSpace state ≠ "inactive" ∧ Text.trimSpace state ≠ "failed") :
    ¬Down unit (⟨.freeze unit, outcome⟩ :: ⟨.isActive unit, state⟩ :: rest) := by
  rintro ⟨failed, seen, start, _, isDown⟩
  cases (List.cons_prefix_cons.mp (List.cons_prefix_cons.mp start).2).1
  exact isDown.elim up.1 up.2

theorem not_probed_of_down {outcome stopped : Outcome} {state : String} :
    ¬Probed [⟨.freeze unit, outcome⟩, ⟨.isActive unit, state⟩, ⟨.stop unit, stopped⟩] := by
  intro probed
  rcases probed [⟨.freeze unit, outcome⟩, ⟨.isActive unit, state⟩] _ [] rfl trivial with
    ⟨probe, member, reports⟩
  rcases List.mem_pair.mp member with rfl | rfl <;> exact reports

theorem hasLocalRunnerWorker_fenced (probed : Probed trace) :
    hasLocalRunnerWorker.Satisfies outside (fencing unit)
      (fun busy trace' _ => ∃ probe, trace' = trace ++ [probe] ∧ ¬Mutates probe ∧
        (busy = false → ReportsNoWorker probe)) trace world := by
  refine perform_fenced (fun _ => probed) fun answer => ?_
  cases answer with
  | error error => exact ⟨_, rfl, id, nofun⟩
  | ok activities => exact ⟨_, rfl, id, id⟩

theorem defaultWatchdogRestart_fenced (unit : String) :
    (defaultWatchdogRestart unit).Satisfies outside (fencing unit)
      (fun _ trace _ => Fenced unit trace) [] world := by
  unfold defaultWatchdogRestart
  split
  case h_1 error invalid =>
    refine ⟨fun _ => ⟨.nil, .of_quiet nofun⟩, fun _ => ?_⟩
    rintro ⟨_, _, start, _⟩
    cases List.prefix_nil.mp start
  case h_2 valid =>
    refine perform_fenced (fun _ => .nil) fun outcome => ?_
    have probed : Probed ([] ++ [⟨.freeze unit, outcome⟩]) := .snoc .nil nofun
    split
    case h_1 error failed =>
      refine perform_fenced (fun _ => probed) fun state => ?_
      dsimp only
      rw [Program.satisfies_ite]
      constructor
      · intro up
        refine ⟨fun _ => ⟨.snoc probed nofun, .of_quiet ?_⟩, fun _ => not_down_of_state up⟩
        intro event member
        rcases List.mem_pair.mp member with rfl | rfl
        · simp [Freezes, failed]
        · exact id
      · intro isDown
        have down : Down unit [⟨.freeze unit, outcome⟩, ⟨.isActive unit, state⟩] :=
          ⟨outcome, state, List.prefix_rfl, by simp [failed], by tauto⟩
        refine perform_fenced (fun up => absurd down up) fun stopped => ?_
        refine unprobed_fenced _ ?_ not_probed_of_down
        exact ⟨outcome, state, ⟨[_], rfl⟩, by simp [failed], by tauto⟩
    case h_2 frozen =>
      rw [Program.satisfies_bind]
      refine (hasLocalRunnerWorker_fenced probed).mono ?_
      rintro busy trace world ⟨probe, rfl, calm, reports⟩
      have probed : Probed ([⟨.freeze unit, outcome⟩] ++ [probe]) :=
        .snoc probed fun mutates => absurd mutates calm
      rw [Program.satisfies_ite]
      constructor
      · intro worker
        refine perform_fenced (fun _ => probed) fun thawed => ?_
        exact ⟨fun _ => ⟨.snoc probed nofun, .of_release trivial id⟩,
          fun _ => not_down_of_freezes frozen⟩
      · intro idle
        have guarded : Guarded ([⟨.freeze unit, outcome⟩] ++ [probe]) :=
          ⟨probed, probe, by simp, reports (by simpa using idle)⟩
        refine (stopAndRestart_safe guarded).growing.mono ?_
        rintro result trace world ⟨⟨rest, rfl⟩, safe⟩
        exact safe.fenced (not_down_of_freezes frozen)

/-- Every mutation is preceded by a probe that saw no worker, and every freeze is
followed by a release, exactly if the restart does not meet a unit that is down. -/
theorem restart_is_fenced_unless_down {result : Option (Option Error)}
    (execution : Execution outside (defaultWatchdogRestart unit) [] world trace world' result) :
    (¬Down unit trace → Probed trace) ∧
      (result ≠ none → (Probed trace ∧ Released trace ↔ ¬Down unit trace)) := by
  have satisfies : (defaultWatchdogRestart unit).Satisfies outside (fencing unit)
    (fun _ trace _ => Fenced unit trace) [] world := defaultWatchdogRestart_fenced unit
  constructor
  · exact satisfies.stops (fun _ _ _ fenced up => (fenced.1 up).1) execution
  · intro returned
    cases result with
    | none => exact absurd rfl returned
    | some value =>
      have fenced := satisfies.returns execution
      exact ⟨fun holds => fenced.2 holds.1, fenced.1⟩

end Civm.Runner

namespace Civm.Runner.Sample

def anything : Outside Answer Unit where
  permits _ _ _ := True
  after _ _ _ := ()

def unit : String := "actions.runner.acme-app.civm-app.service"

def success : Outcome := ⟨none, true⟩

def refused : Outcome := ⟨some (.text "exit status 1"), false⟩

def purge : Trace :=
  [⟨.kill unit, success⟩, ⟨.restart unit, success⟩, ⟨.sleep, ()⟩, ⟨.isActive unit, "active"⟩]

theorem unit_valid : validateServiceUnit unit = none := by decide +kernel

theorem stopAndRestart_succeeds (frozen : Bool) (trace : Trace) :
    Execution anything (stopAndRestart frozen unit) trace ()
      (trace ++ ⟨.stop unit, success⟩ :: purge) () (some none) := by
  have active : ¬Text.trimSpace "active" ≠ "active" := by decide +kernel
  rw [show trace ++ ⟨.stop unit, success⟩ :: purge = trace ++ [⟨.stop unit, success⟩] ++
    [⟨.kill unit, success⟩] ++ [⟨.restart unit, success⟩] ++ [⟨.sleep, ()⟩] ++
    [⟨.isActive unit, "active"⟩] by simp [purge]]
  refine .answered success trivial (.answered success trivial (.answered success trivial ?_))
  refine .answered () trivial (.answered "active" trivial ?_)
  dsimp only [Program.bind]
  rw [if_neg active]
  exact .done

end Civm.Runner.Sample

namespace Civm.Runner

open Sample

/-- A unit that has failed is stopped, killed and restarted without a probe. -/
theorem restart_of_failed_unit_is_not_probed :
    ∃ trace, Execution anything (defaultWatchdogRestart unit) [] () trace () (some none) ∧
      ¬Probed trace := by
  have down : ¬(Text.trimSpace "failed" ≠ "inactive" ∧ Text.trimSpace "failed" ≠ "failed") := by
    decide +kernel
  refine ⟨[⟨.freeze unit, refused⟩, ⟨.isActive unit, "failed"⟩] ++ ⟨.stop unit, success⟩ :: purge,
    ?_, fun probed => not_probed_of_down (Justified.of_prefix probed ⟨purge, rfl⟩)⟩
  rw [defaultWatchdogRestart, unit_valid]
  refine .answered refused trivial (.answered "failed" trivial ?_)
  dsimp only [Program.bind]
  rw [if_neg down]
  exact stopAndRestart_succeeds false _

theorem restart_of_frozen_unit_is_fenced :
    ∃ trace, Execution anything (defaultWatchdogRestart unit) [] () trace () (some none) ∧
      Probed trace ∧ Released trace := by
  have execution : Execution anything (defaultWatchdogRestart unit) [] ()
    ([⟨.freeze unit, success⟩, ⟨.activities, .ok []⟩] ++ ⟨.stop unit, success⟩ :: purge) ()
    (some none) := by
    rw [defaultWatchdogRestart, unit_valid]
    refine .answered success trivial (.answered (.ok []) trivial ?_)
    exact stopAndRestart_succeeds true _
  refine ⟨_, execution, ((restart_is_fenced_unless_down execution).2 nofun).mpr ?_⟩
  exact not_down_of_freezes rfl

end Civm.Runner
