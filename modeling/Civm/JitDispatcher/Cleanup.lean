import Civm.JitDispatcher.Ownership
import Civm.JitDispatcher.Recovery

/-! # Cleaning up after a request

`cleanupLedger` closes what is still open and marks it only after it was seen
to be gone. -/

namespace Civm.JitDispatcher

/-- The same request is still owned, by the same lease. -/
structure Carried (scene : Scene) (ledger : Ledger) (trace : Trace) (world : World)
    (ledger' : Ledger) (trace' : Trace) (world' : World) : Prop where
  owns : Owns scene ledger' trace' world'
  binding : ledger'.binding = ledger.binding
  status : ledger'.status = ledger.status
  lease : world'.lease = world.lease
  longer : Extends trace trace' []

namespace Carried

variable {scene : Scene} {ledger middle ledger' : Ledger} {trace trace₁ trace' : Trace}
  {world world₁ world' : World}

theorem refl (owns : Owns scene ledger trace world) :
    Carried scene ledger trace world ledger trace world :=
  ⟨owns, rfl, rfl, rfl, Extends.refl _⟩

theorem trans (first : Carried scene ledger trace world middle trace₁ world₁)
    (second : Carried scene middle trace₁ world₁ ledger' trace' world') :
    Carried scene ledger trace world ledger' trace' world' :=
  ⟨second.owns, second.binding.trans first.binding, second.status.trans first.status,
    second.lease.trans first.lease, first.longer.trans second.longer⟩

theorem of_calmer (owns : Owns scene ledger trace' world') (longer : Extends trace trace' [])
    (calmer : Calmer scene.assumptions world world') :
    Carried scene ledger trace world ledger trace' world' :=
  ⟨owns, rfl, rfl, calmer.lease, longer⟩

theorem edit (carried : Carried scene ledger trace world middle trace' world')
    (ledger' : Ledger) (binding : ledger'.binding = middle.binding) (status : ledger'.status = middle.status)
    (faithful : Faithful scene.assumptions world' ledger') :
    Carried scene ledger trace world ledger' trace' world' :=
  ⟨carried.owns.edit ledger' binding faithful, binding.trans carried.binding,
    status.trans carried.status, carried.lease, carried.longer⟩

theorem persisted {error : Option Error}
    (carried : Carried scene ledger trace world middle trace₁ world₁)
    (saved : Persisted scene trace₁ world₁ middle error trace' world') :
    Carried scene ledger trace world middle trace' world' :=
  ⟨saved.owns, carried.binding, carried.status, saved.kept.lease.trans carried.lease,
    carried.longer.trans saved.longer⟩

end Carried

namespace Owns

variable {scene : Scene} {trace : Trace} {world : World} {ledger : Ledger}

theorem watch {routine : LedgerAction α} {next : α → LedgerAction β}
    {middle : α → Trace → World → Prop} {post : β → Ledger → Trace → World → Prop}
    (owns : Owns scene ledger trace world)
    (watches : Watches scene.assumptions routine ledger trace world middle)
    (rest : ∀ value trace' world', Extends trace trace' [] →
      Calmer scene.assumptions world world' → middle value trace' world' →
      Owns scene ledger trace' world' →
      scene.Ensures (next value) post ledger trace' world') :
    scene.Ensures (routine >>= next) post ledger
      trace world := by
  refine Ensures.bind ((watches (contract scene) owns.safe.steady).mono ?_)
  rintro ⟨value, _⟩ trace' world' ⟨longer, calmer, rfl, holds⟩
  exact rest value trace' world' longer calmer holds (owns.later longer calmer)

/-! ## The isolation -/

theorem adopted {receipt : IsolationReceipt} {dispatcher : Dispatcher}
    (owns : Owns scene ledger trace world) (open_ : ledger.isolationGone = false)
    (destroyed : validDestroyedReceipt receipt ledger.leaseID ledger.isolationID
      dispatcher.config.baseImageSHA256 = true)
    (safe : scene.assumptions.safelyNamed → ledger.isolationID = "" →
      safeOpaqueID receipt.isolationID = true) :
    Faithful scene.assumptions world (ledger.adopting receipt) := by
  rcases validDestroyedReceipt_iff.mp destroyed with ⟨_, _, _, named, _, base, _⟩
  unfold Ledger.adopting
  split
  · rename_i unnamed
    refine owns.faithful.isolationNamed open_ named ?_ fun safelyNamed => safe safelyNamed unnamed
    rw [base]
    exact dispatcher.config.baseDigest
  · exact owns.faithful

theorem isolation_none {ledger' : Ledger} (owns : Owns scene ledger trace world)
    (named : ledger'.requestID = ledger.requestID)
    (settled : world.IsolationSettled ledger.leaseID) :
    (world.footprint ledger'.requestID).isolation = none := by
  rw [named]
  cases live : (world.footprint ledger.requestID).isolation with
  | none => rfl
  | some lease =>
    rw [(owns.faithful.isolation lease live).2] at live
    exact absurd live (settled ledger.requestID)

theorem binding_adopting (ledger : Ledger) (receipt : IsolationReceipt) :
    (ledger.adopting receipt).binding = ledger.binding ∧
      (ledger.adopting receipt).status = ledger.status := by
  unfold Ledger.adopting
  split <;> exact ⟨rfl, rfl⟩

theorem cleanupIsolation_ensures (owns : Owns scene ledger trace world)
    (unfinished : ledger.status ≠ .completed) (logDirectory : String) :
    scene.Ensures (scene.dispatcher.cleanupIsolation logDirectory)
      (fun _ => Carried scene ledger trace world) ledger trace world := by
  refine Ensures.bind (Ensures.get ?_)
  split
  · exact Ensures.pure (Carried.refl owns)
  · rename_i present
    have open_ : ledger.isolationGone = false := Bool.eq_false_iff.mpr present
    refine owns.watch (Runner.recover_watches _ _ _)
      fun answer trace₁ world₁ longer calmer recovered owns => ?_
    have carried := Carried.of_calmer owns longer calmer
    cases answer with
    | error error => exact Ensures.pure carried
    | ok receipt =>
      rcases recovered receipt rfl with ⟨destroyed, settled, safe⟩
      dsimp only
      split
      · exact Ensures.pure carried
      · refine Ensures.bind (Ensures.modify ?_)
        rcases binding_adopting ledger receipt with ⟨sameBinding, sameStatus⟩
        have gone := owns.isolation_none (congrArg Binding.requestID sameBinding) settled
        have edited := carried.edit (ledger.adopting receipt).withoutIsolation
          sameBinding sameStatus ((owns.adopted open_ destroyed safe).isolationClosed gone)
        refine edited.owns.saveLedger_ensures ?_ fun _ _ _ saved => edited.persisted saved
        exact fun completed => absurd (sameStatus.symm.trans completed) unfinished

theorem cleanupRun_ensures (owns : Owns scene ledger trace world)
    (unfinished : ledger.status ≠ .completed) :
    scene.Ensures scene.dispatcher.cleanupRun
      (fun _ => Carried scene ledger trace world) ledger trace world := by
  refine Ensures.bind (Ensures.get ?_)
  split
  · exact Ensures.pure (Carried.refl owns)
  · split
    · exact Ensures.pure (Carried.refl owns)
    · rename_i known
      cases scene.dispatcher.config.policy ledger.repository with
      | none => exact Ensures.pure (Carried.refl owns)
      | some policy =>
        dsimp only
        split
        · exact Ensures.pure (Carried.refl owns)
        · refine owns.observe (Dispatcher.cancelAndWaitTerminal_observes _ _ _ _ _)
            fun answer trace₁ world₁ longer calmer settled owns => ?_
          have carried := Carried.of_calmer owns longer calmer
          cases answer with
          | some error => exact Ensures.pure carried
          | none =>
            refine Ensures.bind (Ensures.modify ?_)
            have gone := owns.faithful.run_none known (settled rfl)
            have edited := carried.edit { ledger with runTerminal := true } rfl rfl
              (owns.faithful.runClosed gone)
            refine edited.owns.saveLedger_ensures ?_ fun _ _ _ saved => edited.persisted saved
            exact fun completed => absurd completed unfinished

/-! ## The runner -/

theorem observationError_ensures {post : Option Error → Ledger → Trace → World → Prop}
    (owns : Owns scene ledger trace world) (error : Error)
    (failed : ∀ result trace' world', Carried scene ledger trace world ledger trace' world' →
      result ≠ none → post result ledger trace' world') :
    scene.Ensures (liftM (Dispatcher.observationError error)) post ledger trace world := by
  refine owns.last (Dispatcher.observationError_observes error _ _)
    fun result trace' world' longer calmer some owns => ?_
  exact failed result trace' world' (.of_calmer owns longer calmer) some

theorem observeRunner_ensures (owns : Owns scene ledger trace world)
    (unfinished : ledger.status ≠ .completed) (bound : ledger.jobID ≠ 0) (polls : Nat) :
    scene.Ensures (Dispatcher.observeRunner polls)
      (fun error ledger' trace' world' =>
        Carried scene ledger trace world ledger' trace' world' ∧
        (error = none → ledger'.runnerID ≠ 0)) ledger trace world := by
  induction polls generalizing trace world with
  | zero => exact ⟨owns.safe, id⟩
  | succ polls induction =>
    refine Ensures.bind (Ensures.get ?_)
    refine owns.observe (findRunnerByLabel_observes _ _ _ _)
      fun answer trace₁ world₁ longer calmer lists owns => ?_
    have carried := Carried.of_calmer owns longer calmer
    match answer with
    | .error error =>
      exact owns.observationError_ensures error fun _ _ _ carried' some =>
        ⟨carried.trans carried', fun none => absurd none some⟩
    | .ok (some runner) =>
      dsimp only
      split
      · exact Ensures.pure ⟨carried, nofun⟩
      · rename_i accepted
        simp only [not_or, Decidable.not_not, Int.not_le] at accepted
        rcases accepted with ⟨positive, sameName, labelled⟩
        refine Ensures.bind (Ensures.modify ?_)
        have edited := carried.edit { ledger with runnerID := runner.id } rfl rfl
          (owns.faithful.runnerIdentified positive bound fun effect live => by
            rcases owns.faithful.runner effect live with ⟨_, rfl, _⟩
            exact lists runner rfl _ _ live rfl sameName labelled)
        refine edited.owns.saveLedger_ensures (fun completed => absurd completed unfinished)
          fun _ _ _ saved => ⟨edited.persisted saved, fun _ => Int.ne_of_gt positive⟩
    | .ok none =>
      refine owns.observe (Observes.perform rfl fun _ _ _ => Observes.pure trivial)
        fun slept trace₂ world₂ longer' calmer' (_ : True) owns => ?_
      have carried := carried.trans (.of_calmer owns longer' calmer')
      cases slept with
      | some error =>
        exact owns.observationError_ensures error fun _ _ _ carried' some =>
          ⟨carried.trans carried', fun none => absurd none some⟩
      | none =>
        refine (induction owns).mono ?_
        rintro error ledger' trace' world' ⟨carried', known⟩
        exact ⟨carried.trans carried', known⟩

/-- What `ensureRunnerGone` establishes when it returns nil. -/
structure RunnerGone (ledger : Ledger) (trace : Trace) (ledger' : Ledger) (trace' : Trace)
    (world' : World) : Prop where
  gone : (world'.footprint ledger'.requestID).runner = none
  seen : ∃ requestID body, Extends trace trace'
    [⟨.getRunner ledger'.repository ledger'.runnerID, .response 404 requestID body⟩]
  same : ledger.runnerID ≠ 0 → ledger' = ledger

theorem identifyRunner_ensures (owns : Owns scene ledger trace world)
    (unfinished : ledger.status ≠ .completed) (bound : ledger.runnerID = 0 → ledger.jobID ≠ 0) :
    scene.Ensures scene.dispatcher.identifyRunner
      (fun error ledger' trace' world' =>
        Carried scene ledger trace world ledger' trace' world' ∧
        (error = none → ledger'.runnerID ≠ 0) ∧ (ledger.runnerID ≠ 0 → ledger' = ledger))
      ledger trace world := by
  refine Ensures.bind (Ensures.get ?_)
  split
  · rename_i unknown
    refine (owns.observeRunner_ensures unfinished (bound unknown) _).mono ?_
    rintro error ledger' trace' world' ⟨carried, known⟩
    exact ⟨carried, known, fun different => absurd unknown different⟩
  · rename_i known
    exact Ensures.pure ⟨Carried.refl owns, fun _ => known, fun _ => rfl⟩

theorem ensureRunnerGone_ensures (owns : Owns scene ledger trace world)
    (unfinished : ledger.status ≠ .completed) (bound : ledger.runnerID = 0 → ledger.jobID ≠ 0) :
    scene.Ensures scene.dispatcher.ensureRunnerGone
      (fun error ledger' trace' world' =>
        Carried scene ledger trace world ledger' trace' world' ∧
        (error = none → RunnerGone ledger trace ledger' trace' world')) ledger trace world := by
  refine Ensures.next (owns.identifyRunner_ensures unfinished bound) ?_
  rintro error ledger₁ trace₁ world₁ ⟨carried, known, same⟩
  cases error with
  | some error => exact Ensures.pure ⟨carried, nofun⟩
  | none =>
    refine Ensures.bind (Ensures.get ?_)
    refine carried.owns.last (Dispatcher.removeRunner_observes ledger₁ _ _ _ _)
      fun error trace' world' longer calmer removed owns => ?_
    refine ⟨carried.trans (.of_calmer owns longer calmer), fun success => ?_⟩
    rcases removed success with ⟨settled, requestID, body, seen⟩
    exact ⟨owns.faithful.runner_none (known rfl) settled,
      ⟨requestID, body, seen.since carried.longer⟩, same⟩

theorem cleanupRunner_ensures (owns : Owns scene ledger trace world)
    (unfinished : ledger.status ≠ .completed) :
    scene.Ensures scene.dispatcher.cleanupRunner
      (fun _ => Carried scene ledger trace world) ledger trace world := by
  refine Ensures.bind (Ensures.get ?_)
  split
  · exact Ensures.pure (Carried.refl owns)
  · rename_i present
    have open_ : ledger.runnerGone = false := Bool.eq_false_iff.mpr present
    refine Ensures.next (owns.ensureRunnerGone_ensures unfinished
      fun _ => owns.faithful.jobBound open_) ?_
    rintro error ledger₁ trace₁ world₁ ⟨carried, removed⟩
    cases error with
    | some error => exact Ensures.pure carried
    | none =>
      refine Ensures.bind (Ensures.modify (Ensures.pure ?_))
      exact carried.edit { ledger₁ with runnerGone := true } rfl rfl
        (carried.owns.faithful.runnerClosed (removed rfl).gone)

theorem completeCleanup_ensures (owns : Owns scene ledger trace world)
    (unfinished : ledger.status ≠ .completed) :
    scene.Ensures completeCleanup
      (fun error ledger' trace' world' =>
        Carried scene ledger trace world ledger' trace' world' ∧
        (error = none → ledger'.cleanupComplete = true ∧
          world'.store ledger'.requestID = some ledger')) ledger trace world := by
  refine Ensures.bind (Ensures.modify (Ensures.bind (Ensures.get ?_)))
  have summed := (Carried.refl owns).edit ledger.summed rfl rfl owns.faithful.summed
  split
  · exact Ensures.pure ⟨summed, nofun⟩
  · rename_i complete
    have complete : ledger.summed.cleanupComplete = true := Decidable.not_not.mp complete
    refine Ensures.bind (summed.owns.now fun now trace₁ world₁ owns longer kept _ later => ?_)
    refine Ensures.bind (Ensures.modify ?_)
    have carried : Carried scene ledger trace world ledger.summed trace₁ world₁ :=
      ⟨owns, rfl, rfl, kept.lease, longer⟩
    have touched := carried.edit { ledger.summed with updatedAt := now } rfl rfl
      (owns.faithful.touched later)
    refine touched.owns.saveLedger_ensures (fun completed => absurd completed unfinished)
      fun _ _ _ saved => ⟨touched.persisted saved, fun success => ⟨complete, saved.synced success⟩⟩

theorem cleanupLedger_ensures (owns : Owns scene ledger trace world)
    (unfinished : ledger.status ≠ .completed) :
    scene.Ensures scene.dispatcher.cleanupLedger
      (fun error ledger' trace' world' =>
        Carried scene ledger trace world ledger' trace' world' ∧
        (error = none → ledger'.cleanupComplete = true ∧
          world'.store ledger'.requestID = some ledger')) ledger trace world := by
  refine Ensures.bind (Ensures.get ?_)
  refine owns.observe (requestLogDir_observes _ _ _)
    fun answer trace₀ world₀ longer calmer _ owns => ?_
  have carried := Carried.of_calmer owns longer calmer
  cases answer with
  | error error => exact Ensures.pure ⟨carried, nofun⟩
  | ok logDirectory =>
    refine Ensures.next (owns.cleanupIsolation_ensures unfinished logDirectory) ?_
    intro error ledger₁ trace₁ world₁ carried₁
    have carried := carried.trans carried₁
    cases error with
    | some error => exact Ensures.pure ⟨carried, nofun⟩
    | none =>
      refine Ensures.next (carried.owns.cleanupRun_ensures (carried.status ▸ unfinished)) ?_
      intro error ledger₂ trace₂ world₂ carried₂
      have carried := carried.trans carried₂
      cases error with
      | some error => exact Ensures.pure ⟨carried, nofun⟩
      | none =>
        refine Ensures.next (carried.owns.cleanupRunner_ensures
          (carried.status ▸ unfinished)) ?_
        intro error ledger₃ trace₃ world₃ carried₃
        have carried := carried.trans carried₃
        cases error with
        | some error => exact Ensures.pure ⟨carried, nofun⟩
        | none =>
          refine (carried.owns.completeCleanup_ensures
            (carried.status ▸ unfinished)).mono ?_
          rintro error ledger₄ trace₄ world₄ ⟨carried₄, complete⟩
          exact ⟨carried.trans carried₄, complete⟩

end Owns

end Civm.JitDispatcher
