import Civm.Runner.Scenes

/-! # Restarts of redundant runners

A runner of a repository that a runner of its organization makes redundant is to
be removed, not restarted. Only the path for units that are down looks for such
runners. -/

namespace Civm.Runner

/-- `DetectCollisions` reports the unit as a redundant runner. -/
def Redundant (systemd : List Status) (unit : String) : Prop :=
  unit ∈ (detectCollisions systemd).map (·.repoUnit)

/-- No redundant unit serves an organization, and no sentinel that the tick has
read belongs to one. -/
structure Innocent (systemd : List Status) (trace : List (Event Answer)) : Prop where
  serving : ∀ status ∈ systemd, status.servesOrg → ¬Redundant systemd status.unitName
  broken : ∀ lines, ⟨.readHooksLog, .ok lines⟩ ∈ trace → ∀ record, some record ∈ lines →
    hookRecordIsBrokenSentinel record → ∀ unit, unitForWorkRoot record.workRoot systemd = some unit →
    ¬Redundant systemd unit

variable {opts : WatchdogOptions} {systemd : List Status}

theorem Restart.spares {trace before : List (Event Answer)} {record : Record}
    {path : RestartPath} {unit : String} (restart : Restart opts systemd before record path unit)
    (subset : before ⊆ trace) (innocent : Innocent systemd trace) : ¬Redundant systemd unit := by
  cases restart with
  | orgBusy status member serves => exact innocent.serving status member serves
  | queueStall status incident before time previous member serves =>
    exact innocent.serving status member serves
  | candidate _ spared => exact spared
  | sentinel _ earlier done now lines file units state history past reserves member saved =>
    rcases reserves.reserved unit member with ⟨time, newest, _⟩
    rcases newest.found with ⟨line, seen, workRoot, sentinel, owner⟩
    rcases sentinelOf_eq_some sentinel with ⟨record, rfl, rfl, broken, _⟩
    refine innocent.broken lines (subset ?_) record (List.mem_of_mem_drop seen) broken unit owner
    simp [history, findings]

namespace Sample

def orgUnit : Status where
  unitName := "actions.runner.acme.civm-org.service"
  repo := "acme"
  name := "civm-org"
  loadState := "loaded"
  activeState := "active"
  subState := "running"

theorem colliding_shown : (quiet unhyphenated).Shows [orgUnit, appUnit] :=
  ⟨[orgUnit, { appUnit with workingDirectory := "" }], by decide +kernel, by decide +kernel⟩

end Sample

end Civm.Runner
