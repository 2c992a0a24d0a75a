import Civm.JitDispatcher.Invariant

/-! # Edits of the ledger

Each assignment the dispatcher makes to its ledger, and what keeps the ledger
faithful across it. -/

namespace Civm.JitDispatcher

namespace Faithful

variable {assumptions : Assumptions} {world world' : World} {ledger : Ledger}

theorem same (faithful : Faithful assumptions world ledger)
    (footprint : world'.footprint ledger.requestID = world.footprint ledger.requestID)
    (ids : world'.ids = world.ids) (clock : world'.clock = world.clock) :
    Faithful assumptions world' ledger :=
  { faithful with
    run := by rw [footprint, ids]; exact faithful.run
    runner := by rw [footprint, ids]; exact faithful.runner
    isolation := by rw [footprint]; exact faithful.isolation
    timely := by rw [clock]; exact faithful.timely }

/-! ## New effects -/

theorem runLive {effect : RunEffect} (faithful : Faithful assumptions world ledger)
    (open_ : ledger.runTerminal = false) (unknown : ledger.runID = 0)
    (named : effect = ⟨ledger.repository, ledger.nonce⟩)
    (footprint : world'.footprint ledger.requestID =
      { world.footprint ledger.requestID with run := some effect })
    (ids : world'.ids = world.ids) (clock : world'.clock = world.clock) :
    Faithful assumptions world' ledger :=
  { faithful with
    run := by
      rw [footprint]
      intro other live
      exact ⟨open_, (Option.some.inj live).symm.trans named, fun known => absurd unknown known⟩
    runner := by rw [footprint, ids]; exact faithful.runner
    isolation := by rw [footprint]; exact faithful.isolation
    timely := by rw [clock]; exact faithful.timely }

theorem runnerLive {effect : RunnerEffect} (faithful : Faithful assumptions world ledger)
    (open_ : ledger.runnerGone = false) (unknown : ledger.runnerID = 0)
    (named : effect = ⟨ledger.repository, ledger.runnerLabel, ledger.runnerName⟩)
    (footprint : world'.footprint ledger.requestID =
      { world.footprint ledger.requestID with runner := some effect })
    (ids : world'.ids = world.ids) (clock : world'.clock = world.clock) :
    Faithful assumptions world' ledger :=
  { faithful with
    run := by rw [footprint, ids]; exact faithful.run
    runner := by
      rw [footprint]
      intro other live
      exact ⟨open_, (Option.some.inj live).symm.trans named, fun known => absurd unknown known⟩
    isolation := by rw [footprint]; exact faithful.isolation
    timely := by rw [clock]; exact faithful.timely }

theorem isolationLive (faithful : Faithful assumptions world ledger)
    (open_ : ledger.isolationGone = false)
    (footprint : world'.footprint ledger.requestID =
      { world.footprint ledger.requestID with isolation := some ledger.leaseID })
    (ids : world'.ids = world.ids) (clock : world'.clock = world.clock) :
    Faithful assumptions world' ledger :=
  { faithful with
    run := by rw [footprint, ids]; exact faithful.run
    runner := by rw [footprint, ids]; exact faithful.runner
    isolation := by
      rw [footprint]
      intro lease live
      exact ⟨open_, (Option.some.inj live).symm⟩
    timely := by rw [clock]; exact faithful.timely }

theorem moved {status : Status} {failureCode : String} {now : Nat}
    (faithful : Faithful assumptions world ledger)
    (later : assumptions.timely → ledger.updatedAt ≤ now ∧ now ≤ world.clock) :
    Faithful assumptions world (ledger.moved status failureCode now) :=
  { faithful with
    valid := fun orderly => { faithful.valid orderly with
      updated := Nat.le_trans (faithful.valid orderly).updated (later orderly.1).1 }
    timely := fun timely => (later timely).2 }

theorem touched {now : Nat} (faithful : Faithful assumptions world ledger)
    (later : assumptions.timely → ledger.updatedAt ≤ now ∧ now ≤ world.clock) :
    Faithful assumptions world { ledger with updatedAt := now } :=
  { faithful with
    valid := fun orderly => { faithful.valid orderly with
      updated := Nat.le_trans (faithful.valid orderly).updated (later orderly.1).1 }
    timely := fun timely => (later timely).2 }

/-! ## The run -/

theorem runOpened (faithful : Faithful assumptions world ledger)
    (incomplete : ledger.cleanupComplete = false) :
    Faithful assumptions world { ledger with runTerminal := false } :=
  { faithful with
    run := fun effect live => ⟨rfl, (faithful.run effect live).2⟩
    valid := fun orderly => { faithful.valid orderly with
      complete := fun complete => nomatch incomplete.symm.trans complete } }

theorem runClosed (faithful : Faithful assumptions world ledger)
    (gone : (world.footprint ledger.requestID).run = none) :
    Faithful assumptions world { ledger with runTerminal := true } :=
  { faithful with
    run := fun _ live => nomatch gone.symm.trans live
    valid := fun orderly => { faithful.valid orderly with
      complete := fun complete => ⟨rfl, ((faithful.valid orderly).complete complete).2⟩ } }

theorem runIdentified {runID : Int} (faithful : Faithful assumptions world ledger)
    (positive : 0 < runID) (same : runID = (world.ids ledger.requestID).run) :
    Faithful assumptions world { ledger with runID := runID } :=
  { faithful with
    run := fun effect live =>
      ⟨(faithful.run effect live).1, (faithful.run effect live).2.1, fun _ => same⟩
    valid := fun orderly => { faithful.valid orderly with
      nonnegative := ⟨Int.le_of_lt positive, (faithful.valid orderly).nonnegative.2⟩
      ordered := ⟨fun zero => absurd zero (Int.ne_of_gt positive),
        (faithful.valid orderly).ordered.2⟩ } }

theorem run_none (faithful : Faithful assumptions world ledger) (known : ledger.runID ≠ 0)
    (settled : world.RunSettled ledger.repository ledger.runID (runTitle ledger.nonce)) :
    (world.footprint ledger.requestID).run = none := by
  cases live : (world.footprint ledger.requestID).run with
  | none => rfl
  | some effect =>
    rcases faithful.run effect live with ⟨_, rfl, same⟩
    exact absurd rfl (settled _ _ live rfl (same known).symm)

/-! ## The job and the runner -/

theorem jobIdentified {jobID : Int} (faithful : Faithful assumptions world ledger)
    (positive : 0 < jobID) (known : ledger.runID ≠ 0) :
    Faithful assumptions world { ledger with jobID := jobID } :=
  { faithful with
    jobBound := fun _ => Int.ne_of_gt positive
    valid := fun orderly => { faithful.valid orderly with
      nonnegative := ⟨(faithful.valid orderly).nonnegative.1, Int.le_of_lt positive,
        (faithful.valid orderly).nonnegative.2.2⟩
      ordered := ⟨fun zero => absurd zero known,
        fun zero => absurd zero (Int.ne_of_gt positive)⟩ } }

theorem runnerOpened (faithful : Faithful assumptions world ledger)
    (incomplete : ledger.cleanupComplete = false) (bound : ledger.jobID ≠ 0) :
    Faithful assumptions world { ledger with runnerGone := false } :=
  { faithful with
    runner := fun effect live => ⟨rfl, (faithful.runner effect live).2⟩
    jobBound := fun _ => bound
    valid := fun orderly => { faithful.valid orderly with
      complete := fun complete => nomatch incomplete.symm.trans complete } }

theorem runnerClosed (faithful : Faithful assumptions world ledger)
    (gone : (world.footprint ledger.requestID).runner = none) :
    Faithful assumptions world { ledger with runnerGone := true } :=
  { faithful with
    runner := fun _ live => nomatch gone.symm.trans live
    jobBound := nofun
    valid := fun orderly => { faithful.valid orderly with
      complete := fun complete =>
        ⟨((faithful.valid orderly).complete complete).1, rfl,
          ((faithful.valid orderly).complete complete).2.2⟩ } }

theorem runnerIdentified {runnerID : Int} (faithful : Faithful assumptions world ledger)
    (positive : 0 < runnerID) (bound : ledger.jobID ≠ 0)
    (same : ∀ effect, (world.footprint ledger.requestID).runner = some effect →
      runnerID = (world.ids ledger.requestID).runner) :
    Faithful assumptions world { ledger with runnerID := runnerID } :=
  { faithful with
    runner := fun effect live => ⟨(faithful.runner effect live).1,
      (faithful.runner effect live).2.1, fun _ => same effect live⟩
    runnerBound := fun _ => Int.ne_of_gt positive
    valid := fun orderly => { faithful.valid orderly with
      nonnegative := ⟨(faithful.valid orderly).nonnegative.1,
        (faithful.valid orderly).nonnegative.2.1, Int.le_of_lt positive,
        (faithful.valid orderly).nonnegative.2.2.2⟩
      ordered := ⟨fun zero => absurd ((faithful.valid orderly).ordered.1 zero).1 bound,
        fun zero => absurd zero bound⟩
      process := fun running => ⟨Int.ne_of_gt positive,
        ((faithful.valid orderly).process running).2⟩
      isolation := fun named => ⟨((faithful.valid orderly).isolation named).1,
        ((faithful.valid orderly).isolation named).2.1, Int.ne_of_gt positive⟩ } }

theorem runner_none (faithful : Faithful assumptions world ledger) (known : ledger.runnerID ≠ 0)
    (settled : world.RunnerSettled ledger.repository ledger.runnerID) :
    (world.footprint ledger.requestID).runner = none := by
  cases live : (world.footprint ledger.requestID).runner with
  | none => rfl
  | some effect =>
    rcases faithful.runner effect live with ⟨_, rfl, same⟩
    exact absurd (same known).symm (settled _ _ live rfl)

/-! ## The isolation -/

theorem isolationOpened (faithful : Faithful assumptions world ledger)
    (incomplete : ledger.cleanupComplete = false) (known : ledger.runnerID ≠ 0) :
    Faithful assumptions world { ledger with isolationGone := false } :=
  { faithful with
    isolation := fun lease live => ⟨rfl, (faithful.isolation lease live).2⟩
    runnerBound := fun _ => known
    valid := fun orderly => { faithful.valid orderly with
      gone := nofun
      complete := fun complete => nomatch incomplete.symm.trans complete } }

theorem isolationClosed (faithful : Faithful assumptions world ledger)
    (gone : (world.footprint ledger.requestID).isolation = none) :
    Faithful assumptions world ledger.withoutIsolation :=
  { faithful with
    isolation := fun _ live => nomatch gone.symm.trans live
    runnerBound := nofun
    valid := fun orderly => { faithful.valid orderly with
      nonnegative := ⟨(faithful.valid orderly).nonnegative.1,
        (faithful.valid orderly).nonnegative.2.1, (faithful.valid orderly).nonnegative.2.2.1,
        Int.le_refl 0, Int.le_refl 0⟩
      noProcess := fun _ => ⟨rfl, rfl, rfl⟩
      process := fun impossible => absurd impossible (Int.lt_irrefl 0)
      gone := fun _ => rfl
      complete := fun complete =>
        ⟨((faithful.valid orderly).complete complete).1,
          ((faithful.valid orderly).complete complete).2.1, rfl⟩ } }

theorem processAttached {process : ProcessIdentity} (faithful : Faithful assumptions world ledger)
    (open_ : ledger.isolationGone = false)
    (wellFormed : assumptions.attached → WellFormed process ledger.leaseID) :
    Faithful assumptions world (ledger.withProcess process) :=
  { faithful with
    valid := fun orderly =>
      have attached := wellFormed orderly.2.1
      have positive : 0 < process.pid := Int.lt_trans (by decide) attached.pid
      have grouped : 0 ≤ process.processGroup := by
        rw [attached.group]
        exact Int.le_of_lt positive
      { faithful.valid orderly with
        nonnegative := ⟨(faithful.valid orderly).nonnegative.1,
          (faithful.valid orderly).nonnegative.2.1, (faithful.valid orderly).nonnegative.2.2.1,
          Int.le_of_lt positive, grouped⟩
        noProcess := fun zero => absurd zero (Int.ne_of_gt positive)
        process := fun _ => ⟨faithful.runnerBound open_, attached.ticks, attached.group,
          attached.absolute, attached.clean, attached.base⟩
        gone := fun closed => nomatch open_.symm.trans closed } }

theorem isolationNamed {receipt : IsolationReceipt}
    (faithful : Faithful assumptions world ledger) (open_ : ledger.isolationGone = false)
    (named : receipt.isolationID ≠ "") (digest : matchesDigest receipt.baseSHA256 = true)
    (safe : assumptions.safelyNamed → safeOpaqueID receipt.isolationID = true) :
    Faithful assumptions world (ledger.withIsolation receipt) :=
  { faithful with
    valid := fun orderly => { faithful.valid orderly with
      isolationPaired := by
        refine ⟨fun empty => absurd empty named, ?_⟩
        intro (empty : receipt.baseSHA256 = "")
        rw [empty] at digest
        exact absurd digest (by decide)
      isolation := fun _ => ⟨safe orderly.2.2, digest, faithful.runnerBound open_⟩ } }

theorem reopened (faithful : Faithful assumptions world ledger) :
    Faithful assumptions world { ledger with cleanupComplete := false } :=
  { faithful with
    valid := fun orderly => { faithful.valid orderly with
      complete := nofun } }

theorem summed (faithful : Faithful assumptions world ledger) :
    Faithful assumptions world ledger.summed :=
  { faithful with
    valid := fun orderly => { faithful.valid orderly with
      complete := by
        intro complete
        change (ledger.runTerminal && ledger.runnerGone && ledger.isolationGone) = true at complete
        rw [Bool.and_eq_true, Bool.and_eq_true] at complete
        exact ⟨complete.1.1, complete.1.2, complete.2⟩ } }

end Faithful

end Civm.JitDispatcher
