import Civm.JitDispatcher.Isolation
import Civm.JitDispatcher.Posting

/-! # The life of a dispatched request

From the dispatch to the end of a request, on the path that succeeds and on
every exit into `finishError`. -/

namespace Civm.JitDispatcher

/-! ## Ends -/

/-- What is known when a request is over: its ledger is still owned, a
completion in memory is durable unless it is a stale one, and success rests on
evidence. -/
structure Ended (scene : Scene) (ledger : Ledger) (world : World)
    (outcome : Result × Option Error) (ledger' : Ledger) (trace' : Trace) (world' : World) :
    Prop where
  owns : Owns scene ledger' trace' world'
  binding : ledger'.binding = ledger.binding
  lease : world'.lease = world.lease
  synced : scene.assumptions.staleSaved → ledger'.cleanupComplete = true →
    world'.store ledger'.requestID = some ledger'
  success : outcome.2 = none → outcome.1 = resultOf ledger' ∧ ledger'.status = .completed ∧
    ledger'.cleanupComplete = true ∧ world'.store ledger'.requestID = some ledger' ∧
    Invocation.Proves ⟨scene.dispatcher, scene.request, trace'⟩ ledger'

theorem Ended.since {scene : Scene} {ledger middle ledger' : Ledger} {world world₁ world' : World}
    {trace' : Trace} {outcome : Result × Option Error}
    (ended : Ended scene middle world₁ outcome ledger' trace' world')
    (binding : middle.binding = ledger.binding) (lease : world₁.lease = world.lease) :
    Ended scene ledger world outcome ledger' trace' world' :=
  ⟨ended.owns, ended.binding.trans binding, ended.lease.trans lease, ended.synced, ended.success⟩

theorem failureStatus_ne_completed (cause : Error) :
    Dispatcher.failureStatus cause ≠ .completed := by
  intro completed
  unfold Dispatcher.failureStatus at completed
  split at completed <;> cases completed

namespace Owns

variable {scene : Scene} {trace : Trace} {world : World} {ledger : Ledger}

theorem cleanupUnresolved_ensures (owns : Owns scene ledger trace world)
    (cause cleanupError : Error) :
    scene.Ensures (Dispatcher.cleanupUnresolved cause cleanupError)
      (fun _ ledger' trace' world' => Owns scene ledger' trace' world' ∧
        ledger'.binding = ledger.binding ∧ world'.lease = world.lease ∧
        ledger'.cleanupComplete = false) ledger trace world := by
  refine Ensures.bind (Ensures.modify ?_)
  have owns := owns.edit { ledger with cleanupComplete := false } rfl owns.faithful.reopened
  refine Ensures.bind (Ensures.get ?_)
  dsimp only
  split
  · refine Ensures.bind (owns.transition_ensures nofun
      fun error now trace' world' saved => ?_)
    exact Ensures.pure ⟨saved.owns, rfl, saved.kept.lease, rfl⟩
  · exact Ensures.pure ⟨owns, rfl, rfl, rfl⟩

theorem finishError_ensures (owns : Owns scene ledger trace world) (code : String)
    (cause : Error) :
    scene.Ensures (scene.dispatcher.finishError code cause) (Ended scene ledger world) ledger
      trace world := by
  refine Ensures.bind (owns.transition_ensures
    (fun completed => absurd completed (failureStatus_ne_completed cause))
    fun error now trace₁ world₁ saved => ?_)
  refine Ensures.next (saved.owns.cleanupLedger_ensures (failureStatus_ne_completed cause)) ?_
  rintro cleanupError ledger₂ trace₂ world₂ ⟨carried, complete⟩
  have lease := carried.lease.trans saved.kept.lease
  cases cleanupError with
  | none =>
    refine Ensures.bind (Ensures.get (Ensures.pure ?_))
    exact ⟨carried.owns, carried.binding, lease, fun _ _ => (complete rfl).2, nofun⟩
  | some cleanupError =>
    refine Ensures.next (carried.owns.cleanupUnresolved_ensures _ _) ?_
    rintro cause' ledger₃ trace₃ world₃ ⟨owns, binding, lease', incomplete⟩
    refine Ensures.bind (Ensures.get (Ensures.pure ?_))
    exact ⟨owns, binding.trans carried.binding, lease'.trans lease,
      fun _ complete => (nomatch incomplete.symm.trans complete), nofun⟩

theorem finishError_since {origin : Ledger} {before : World} {code : String} {cause : Error}
    (owns : Owns scene ledger trace world) (binding : ledger.binding = origin.binding)
    (lease : world.lease = before.lease) :
    scene.Ensures (scene.dispatcher.finishError code cause) (Ended scene origin before) ledger
      trace world :=
  (owns.finishError_ensures code cause).mono fun _ _ _ _ ended => ended.since binding lease

theorem finishWithoutLease_ensures (owns : Owns scene ledger trace world) (code : String)
    (cause : Error) :
    scene.Ensures (Dispatcher.finishWithoutLease code cause)
      (fun outcome ledger' trace' world' => Owns scene ledger' trace' world' ∧
        world'.lease = world.lease ∧ outcome.2 ≠ none) ledger trace world := by
  refine Ensures.bind (owns.transition_ensures
    (fun completed => absurd completed (failureStatus_ne_completed cause))
    fun error now trace₁ world₁ saved => ?_)
  exact Ensures.bind (Ensures.get (Ensures.pure ⟨saved.owns, saved.kept.lease, nofun⟩))

end Owns

/-! ## The request being served -/

/-- The ledger is that of the invocation's own request. -/
structure Serving (scene : Scene) (policy : RepositoryPolicy) (identity : Identity)
    (ledger : Ledger) : Prop where
  allowlisted : scene.dispatcher.config.policy scene.request.repository = some policy
  own : ledger.requestID = scene.key
  repository : ledger.repository = scene.request.repository
  identified : ledger.identity = identity

theorem Serving.of_binding {scene : Scene} {policy : RepositoryPolicy} {identity : Identity}
    {ledger ledger' : Ledger} (serving : Serving scene policy identity ledger)
    (binding : ledger'.binding = ledger.binding) : Serving scene policy identity ledger' :=
  ⟨serving.allowlisted, (congrArg Binding.requestID binding).trans serving.own,
    (congrArg Binding.repository binding).trans serving.repository,
    (congrArg Binding.identity binding).trans serving.identified⟩

def Scene.setting (scene : Scene) (policy : RepositoryPolicy) : Setting where
  config := scene.dispatcher.config
  request := scene.request
  policy := policy

theorem Setting.Registered.congr {setting : Setting} {ledger ledger' : Ledger} {events : Trace}
    (registered : setting.Registered ledger events) (binding : ledger'.binding = ledger.binding)
    (runID : ledger'.runID = ledger.runID) (jobID : ledger'.jobID = ledger.jobID)
    (runnerID : ledger'.runnerID = ledger.runnerID) : setting.Registered ledger' events := by
  have trusted : ledger'.trustedSHA = ledger.trustedSHA := congrArg Binding.trustedSHA binding
  have identity : ledger'.identity = ledger.identity := congrArg Binding.identity binding
  have label : ledger'.runnerLabel = ledger.runnerLabel := congrArg Identity.label identity
  unfold Registered Bound Dispatched Authorized
  rw [trusted, identity, label, runID, jobID, runnerID]
  exact registered

namespace Owns

variable {scene : Scene} {trace : Trace} {world : World} {ledger : Ledger}
  {policy : RepositoryPolicy} {identity : Identity}

theorem conclude_ensures (owns : Owns scene ledger trace world)
    (serving : Serving scene policy identity ledger) (candidateSHA : String)
    (revalidated : candidateSHA = scene.request.candidateSHA →
      Collected ((scene.setting policy).Revalidated ledger) trace) :
    scene.Ensures (scene.dispatcher.conclude scene.request candidateSHA) (Ended scene ledger world)
      ledger trace world := by
  have owns := owns.edit ledger.summed rfl owns.faithful.summed
  unfold Dispatcher.conclude
  split
  · refine Ensures.bind (Ensures.modify (Ensures.bind ?_))
    refine owns.transition_ensures nofun
      fun error now trace' world' saved => ?_
    refine Ensures.bind (Ensures.get (Ensures.pure ?_))
    exact ⟨saved.owns, rfl, saved.kept.lease, fun assumed _ => saved.stale assumed rfl, nofun⟩
  · rename_i same
    have collected := revalidated (Decidable.not_not.mp same)
    refine Ensures.bind (Ensures.modify (Ensures.bind (Ensures.get ?_)))
    split
    · exact owns.finishError_since rfl rfl
    · rename_i complete
      have complete : ledger.summed.cleanupComplete = true := Decidable.not_not.mp complete
      have proves : ∀ now trace', Extends trace trace' [] →
        Invocation.Proves ⟨scene.dispatcher, scene.request, trace'⟩
          (ledger.summed.moved .completed "" now) := fun now trace' longer =>
        ⟨serving.own, policy, serving.allowlisted, collected.still longer⟩
      refine Ensures.bind (owns.transition_ensures (fun _ => proves)
        fun error now trace₁ world₁ saved => ?_)
      cases error with
      | some error =>
        refine Ensures.bind (Ensures.modify ?_)
        have owns := saved.owns.edit
          { ledger.summed.moved .completed "" now with cleanupComplete := false } rfl
          saved.owns.faithful.reopened
        exact Ensures.bind (Ensures.get (Ensures.pure
          ⟨owns, rfl, saved.kept.lease, nofun, nofun⟩))
      | none =>
        refine saved.owns.observe (log_observes _ _ _)
          fun _ trace₂ world₂ longer calmer _ owns => ?_
        have synced : world₂.store ledger.requestID =
          some (ledger.summed.moved .completed "" now) :=
          (congrFun calmer.store _).trans (saved.synced rfl)
        refine Ensures.bind (Ensures.get (Ensures.pure ?_))
        exact ⟨owns, rfl, calmer.lease.trans saved.kept.lease, fun _ _ => synced,
          fun _ => ⟨rfl, rfl, complete, synced, proves now _ (saved.longer.trans longer)⟩⟩

theorem awaitCompletion_ensures (owns : Owns scene ledger trace world)
    (serving : Serving scene policy identity ledger) (unfinished : ledger.status ≠ .completed)
    (runKnown : ledger.runID ≠ 0) (runnerKnown : ledger.runnerID ≠ 0)
    (isolated : Collected ((scene.setting policy).Isolated ledger) trace) :
    scene.Ensures (scene.dispatcher.awaitCompletion scene.request policy identity)
      (Ended scene ledger world) ledger trace world := by
  refine Ensures.bind (Ensures.get ?_)
  refine owns.observe (Dispatcher.waitForCompletion_observes _ _ _ _ _ _ _)
    fun error trace₁ world₁ longer calmer completed owns => ?_
  cases error with
  | some error =>
    exact owns.finishError_since rfl calmer.lease
  | none =>
    rcases completed rfl with
      ⟨settled, run, job, seenRun, seenJob, succeeded, decodedRun, decodedJob, seen⟩
    have nonce : identity.nonce = ledger.nonce :=
      congrArg Identity.nonce serving.identified.symm
    rw [nonce, ← serving.repository] at settled
    rw [← serving.identified] at succeeded
    have executed : Collected ((scene.setting policy).Executed ledger) trace₁ :=
      isolated.next seen fun earlier holds => ⟨earlier, seenRun, seenJob, run, job, holds,
        decodedRun, decodedJob, succeeded, rfl⟩
    refine Ensures.bind (Ensures.modify ?_)
    have owns := owns.edit { ledger with runTerminal := true } rfl
      (owns.faithful.runClosed (owns.faithful.run_none runKnown settled))
    refine Ensures.next (owns.ensureRunnerGone_ensures unfinished
      fun zero => absurd zero runnerKnown) ?_
    rintro error ledger₂ trace₂ world₂ ⟨carried, removed⟩
    have lease : world₂.lease = world.lease := carried.lease.trans calmer.lease
    cases error with
    | some error =>
      exact carried.owns.finishError_since carried.binding lease
    | none =>
      rcases removed rfl with ⟨gone, ⟨requestID, body, sawAbsent⟩, same⟩
      cases same runnerKnown
      rw [serving.repository] at sawAbsent
      have deregistered : Collected ((scene.setting policy).Deregistered ledger) trace₂ :=
        executed.next sawAbsent fun earlier holds => ⟨earlier, requestID, body, holds, rfl⟩
      refine Ensures.bind (Ensures.modify ?_)
      have owns := carried.owns.edit
        { ledger with runTerminal := true, runnerGone := true } rfl
        (carried.owns.faithful.runnerClosed gone)
      refine owns.observe (resolveRef_observes _ _ _ _)
        fun answer trace₃ world₃ longer calmer resolved owns => ?_
      have lease := calmer.lease.trans lease
      cases answer with
      | error error =>
        exact owns.finishError_since rfl lease
      | ok candidateSHA =>
        rcases resolved candidateSHA rfl with ⟨_, answer, decoded, sawRef⟩
        refine (owns.conclude_ensures (serving.of_binding rfl) candidateSHA ?_).mono
          fun _ _ _ _ ended => ended.since rfl lease
        rintro rfl
        exact deregistered.next sawRef fun earlier holds => ⟨earlier, answer, holds, decoded, rfl⟩

theorem settleIsolation_ensures {outcome : Runner.RunnerOutcome} {error : Option Error}
    {start : Trace} (owns : Owns scene ledger trace world)
    (unfinished : ledger.status ≠ .completed)
    (destroyed : error = none → Destroyed scene ledger start outcome.ready outcome.destroyed
      trace world) :
    scene.Ensures (scene.dispatcher.settleIsolation outcome error)
      (fun error ledger' trace' world' => Carried scene ledger trace world ledger' trace' world' ∧
        (error = none → ledger' = ledger.withoutIsolation ∧
          Destroyed scene ledger start outcome.ready outcome.destroyed trace world))
      ledger trace world := by
  refine Ensures.bind (Ensures.get ?_)
  cases error with
  | some error => exact Ensures.pure ⟨Carried.refl owns, nofun⟩
  | none =>
    have proof := destroyed rfl
    dsimp only
    split
    · exact Ensures.pure ⟨Carried.refl owns, nofun⟩
    · refine Ensures.bind (Ensures.modify ?_)
      have edited := (Carried.refl owns).edit ledger.withoutIsolation rfl rfl
        (owns.faithful.isolationClosed (owns.isolation_none rfl proof.settled))
      exact edited.owns.saveLedger_ensures (fun completed => absurd completed unfinished)
        fun _ _ _ saved => ⟨edited.persisted saved, fun _ => ⟨rfl, proof⟩⟩

theorem runRequest_ensures (owns : Owns scene ledger trace world)
    (serving : Serving scene policy identity ledger) (unfinished : ledger.status ≠ .completed)
    (incomplete : ledger.cleanupComplete = false) (runKnown : ledger.runID ≠ 0)
    (runnerKnown : ledger.runnerID ≠ 0)
    (registered : Collected ((scene.setting policy).Registered ledger) trace)
    (secret : List UInt8) :
    scene.Ensures (scene.dispatcher.run scene.request policy identity secret)
      (Ended scene ledger world) ledger trace world := by
  refine Ensures.bind (Ensures.get ?_)
  refine owns.observe (requestLogDir_observes _ _ _)
    fun answer trace₁ world₁ longer calmer _ owns => ?_
  cases answer with
  | error error =>
    exact owns.finishError_since rfl calmer.lease
  | ok logDirectory =>
    refine Ensures.bind (Ensures.modify ?_)
    have owns := owns.edit { ledger with isolationGone := false } rfl
      (owns.faithful.isolationOpened incomplete runnerKnown)
    refine Ensures.bind (owns.saveLedger_ensures (fun completed => absurd completed unfinished)
      fun error trace₂ world₂ saved => ?_)
    have lease := saved.kept.lease.trans calmer.lease
    cases error with
    | some error =>
      exact saved.owns.finishError_since rfl lease
    | none =>
      refine Ensures.next (saved.owns.run_ensures serving.own rfl (saved.synced rfl)) ?_
      rintro ⟨outcome, runError⟩ ledger₃ trace₃ world₃ ⟨driven, destroyed⟩
      refine Ensures.next (driven.owns.settleIsolation_ensures (driven.unfinished unfinished)
        destroyed) ?_
      rintro error ledger₄ trace₄ world₄ ⟨carried, judged⟩
      have lease : world₄.lease = world.lease :=
        (carried.lease.trans driven.lease).trans lease
      have binding : ledger₄.binding = ledger.binding :=
        carried.binding.trans driven.binding
      cases error with
      | some error =>
        exact carried.owns.finishError_since binding lease
      | none =>
        rcases judged rfl with ⟨rfl, proof⟩
        have sameRun : ledger₃.runID = ledger.runID :=
          congrArg Progress.runID driven.progress
        have sameJob : ledger₃.jobID = ledger.jobID :=
          congrArg Progress.jobID driven.progress
        have sameRunner : ledger₃.runnerID = ledger.runnerID :=
          congrArg Progress.runnerID driven.progress
        have isolated : Collected ((scene.setting policy).Isolated ledger₃) trace₃ :=
          ((registered.still longer).still saved.longer).next proof.seen
            fun earlier holds => ⟨earlier, outcome.ready, outcome.destroyed,
              Setting.Registered.congr holds driven.binding sameRun sameJob sameRunner,
              proof.isReady, proof.named, proof.isDestroyed, rfl⟩
        refine (carried.owns.awaitCompletion_ensures (serving.of_binding binding)
          (carried.status ▸ driven.unfinished unfinished) (sameRun ▸ runKnown)
          (sameRunner ▸ runnerKnown) (isolated.still carried.longer)).mono ?_
        exact fun _ _ _ _ ended => ended.since binding lease

/-! ## Registering the runner -/

theorem validateJITRegistration_positive {registration : JITRegistration}
    (accepted : validateJITRegistration registration identity = none) :
    0 < registration.runner.id := by
  simp only [validateJITRegistration, reject_eq_none, not_or, Int.not_le] at accepted
  exact accepted.2.1.1

theorem registerRunner_ensures {answer : Except Error JITRegistration}
    (owns : Owns scene ledger trace world) (serving : Serving scene policy identity ledger)
    (unfinished : ledger.status ≠ .completed) (incomplete : ledger.cleanupComplete = false)
    (runKnown : ledger.runID ≠ 0) (bound : ledger.jobID ≠ 0)
    (accepted : ∀ registration, answer = .ok registration →
      registration.runner.id = (world.ids ledger.requestID).runner ∧
      Collected ((scene.setting policy).Registered
        { ledger with runnerID := registration.runner.id }) trace)
    (refused : ∀ error, answer = .error error → authoritativeJITRejection error = true →
      (world.footprint ledger.requestID).runner = none) :
    scene.Ensures (scene.dispatcher.registerRunner scene.request policy identity answer)
      (Ended scene ledger world) ledger trace world := by
  unfold Dispatcher.registerRunner
  cases answer with
  | error error =>
    dsimp only
    split
    · rename_i authoritative
      refine Ensures.bind (Ensures.modify ?_)
      have owns := owns.edit { ledger with runnerGone := true } rfl
        (owns.faithful.runnerClosed (refused error rfl authoritative))
      refine Ensures.bind (owns.saveLedger_ensures (fun completed => absurd completed unfinished)
        fun saveError trace₁ world₁ saved => ?_)
      cases saveError <;> exact saved.owns.finishError_since rfl saved.kept.lease
    · exact owns.finishError_ensures _ _
  | ok registration =>
    rcases accepted registration rfl with ⟨same, registered⟩
    dsimp only
    split
    · exact owns.finishError_ensures _ _
    · rename_i valid
      have positive := validateJITRegistration_positive valid
      refine Ensures.bind (Ensures.modify ?_)
      have owns := owns.edit { ledger with runnerID := registration.runner.id } rfl
        (owns.faithful.runnerIdentified positive bound fun _ _ => same)
      refine Ensures.bind (owns.transition_ensures nofun
        fun error now trace₁ world₁ saved => ?_)
      cases error with
      | some error =>
        exact saved.owns.finishError_since rfl saved.kept.lease
      | none =>
        exact (saved.owns.runRequest_ensures (serving.of_binding rfl) nofun incomplete runKnown
          (Int.ne_of_gt positive) (registered.still saved.longer) _).mono
          fun _ _ _ _ ended => ended.since rfl saved.kept.lease

theorem runner_closed (owns : Owns scene ledger trace world)
    (gone : ledger.runnerGone = true) : (world.footprint ledger.requestID).runner = none := by
  cases live : (world.footprint ledger.requestID).runner with
  | none => rfl
  | some effect => exact nomatch gone.symm.trans (owns.faithful.runner effect live).1

theorem run_closed (owns : Owns scene ledger trace world)
    (terminal : ledger.runTerminal = true) : (world.footprint ledger.requestID).run = none := by
  cases live : (world.footprint ledger.requestID).run with
  | none => rfl
  | some effect => exact nomatch terminal.symm.trans (owns.faithful.run effect live).1

/-- The part of a new ledger that is still as it was created. -/
structure Unregistered (ledger : Ledger) (world : World) : Prop where
  incomplete : ledger.cleanupComplete = false
  gone : ledger.runnerGone = true
  unknown : ledger.runnerID = 0
  unposted : world.generations ledger.requestID = 0

theorem generateRunner_ensures (owns : Owns scene ledger trace world)
    (serving : Serving scene policy identity ledger) (unfinished : ledger.status ≠ .completed)
    (unregistered : Unregistered ledger world) (runKnown : ledger.runID ≠ 0)
    (bound : ledger.jobID ≠ 0)
    (collected : Collected ((scene.setting policy).Bound ledger) trace) :
    scene.Ensures (scene.dispatcher.generateRunner scene.request policy identity)
      (Ended scene ledger world) ledger trace world := by
  refine owns.observe (runnerLabelExists_observes _ _ _ _)
    fun answer trace₁ world₁ longer calmer _ owns => ?_
  match answer with
  | .error error =>
    exact owns.finishError_since rfl calmer.lease
  | .ok true =>
    exact owns.finishError_since rfl calmer.lease
  | .ok false =>
    have closed := owns.runner_closed unregistered.gone
    refine Ensures.bind (Ensures.modify ?_)
    have owns := owns.edit { ledger with runnerGone := false } rfl
      (owns.faithful.runnerOpened unregistered.incomplete bound)
    refine Ensures.bind (owns.saveLedger_ensures (fun completed => absurd completed unfinished)
      fun error trace₂ world₂ saved => ?_)
    have lease := saved.kept.lease.trans calmer.lease
    cases error with
    | some error =>
      exact saved.owns.finishError_since rfl lease
    | none =>
      have unposted : world₂.generations ledger.requestID = 0 := by
        rw [saved.kept.generations, calmer.generations]
        exact unregistered.unposted
      have closed : (world₂.footprint ledger.requestID).runner = none := by
        rw [saved.kept.footprint]
        exact closed
      refine Ensures.next (saved.owns.generateJIT_ensures (saved.synced rfl) serving.own rfl
        unregistered.unknown serving.repository.symm serving.identified unposted closed) ?_
      rintro answer _ trace₃ world₃ ⟨rfl, generates⟩
      refine (generates.owns.registerRunner_ensures (serving.of_binding rfl) unfinished
        unregistered.incomplete runKnown bound ?_ generates.refused).mono
        fun _ _ _ _ ended => ended.since rfl (generates.lease.trans lease)
      intro registration equal
      rcases generates.accepted registration equal with ⟨same, seen, decoded, saw⟩
      refine ⟨same, ((collected.still longer).still saved.longer).next saw
        fun earlier holds => ⟨earlier, seen, registration, holds, decoded, rfl, ?_⟩⟩
      rw [← serving.identified]
      rfl

theorem bindAndRun_ensures (owns : Owns scene ledger trace world)
    (serving : Serving scene policy identity ledger) (unregistered : Unregistered ledger world)
    (runKnown : ledger.runID ≠ 0)
    (collected : Collected ((scene.setting policy).Dispatched ledger) trace) :
    scene.Ensures (scene.dispatcher.bindAndRun scene.request policy identity)
      (Ended scene ledger world) ledger trace world := by
  refine Ensures.bind (Ensures.get ?_)
  refine owns.observe (Dispatcher.waitForRun_observes _ _ _ _ _ _ _)
    fun answer trace₁ world₁ longer₁ calmer₁ found owns => ?_
  cases answer with
  | error error =>
    exact owns.finishError_since rfl calmer₁.lease
  | ok run =>
    refine owns.observe (Dispatcher.waitForJob_observes _ _ _ _ _ _ _)
      fun answer trace₂ world₂ longer₂ calmer₂ listed owns => ?_
    have lease := calmer₂.lease.trans calmer₁.lease
    cases answer with
    | error error =>
      exact owns.finishError_since rfl lease
    | ok job =>
      rcases listed job rfl with ⟨accepted, seen, body, decoded, single, saw⟩
      rw [found run rfl, ← serving.identified] at accepted
      rw [found run rfl] at saw
      have positive : 0 < job.id := by
        simp only [queuedJobRefused, Bool.or_eq_false_iff, decide_eq_false_iff_not] at accepted
        exact Int.not_le.mp accepted.1.1.1.1.1
      refine Ensures.bind (Ensures.modify ?_)
      have owns := owns.edit { ledger with jobID := job.id } rfl
        (owns.faithful.jobIdentified positive runKnown)
      have bound : Collected ((scene.setting policy).Bound { ledger with jobID := job.id })
        trace₂ :=
        (collected.still longer₁).next saw fun earlier holds =>
          ⟨earlier, seen, body, job, holds, decoded, single, rfl, accepted, rfl⟩
      refine Ensures.bind (owns.transition_ensures nofun
        fun error now trace₃ world₃ saved => ?_)
      have lease := saved.kept.lease.trans lease
      cases error with
      | some error =>
        exact saved.owns.finishError_since rfl lease
      | none =>
        have unposted : world₃.generations ledger.requestID = 0 := by
          rw [saved.kept.generations, calmer₂.generations, calmer₁.generations]
          exact unregistered.unposted
        exact (saved.owns.generateRunner_ensures (serving.of_binding rfl) nofun
          ⟨unregistered.incomplete, unregistered.gone, unregistered.unknown, unposted⟩
          runKnown (Int.ne_of_gt positive) (bound.still saved.longer)).mono
          fun _ _ _ _ ended => ended.since rfl lease

theorem dispatchPrepared_ensures (owns : Owns scene ledger trace world)
    (serving : Serving scene policy identity ledger) (unregistered : Unregistered ledger world)
    (terminal : ledger.runTerminal = true) (unknown : ledger.runID = 0)
    (unposted : world.dispatches ledger.requestID = 0)
    (collected : Collected ((scene.setting policy).Authorized ledger) trace) :
    scene.Ensures (scene.dispatcher.dispatchPrepared scene.request policy identity)
      (Ended scene ledger world) ledger trace world := by
  have closed := owns.run_closed terminal
  refine Ensures.bind (Ensures.modify ?_)
  have owns := owns.edit { ledger with runTerminal := false } rfl
    (owns.faithful.runOpened unregistered.incomplete)
  refine Ensures.bind (owns.transition_ensures (fun completed => by cases completed)
    fun error now trace₁ world₁ saved => ?_)
  cases error with
  | some error =>
    refine Ensures.bind (Ensures.get (Ensures.pure ?_))
    exact ⟨saved.owns, rfl, saved.kept.lease,
      fun _ complete => (by cases unregistered.incomplete.symm.trans complete),
      fun success => (by cases success)⟩
  | none =>
    have unposted : world₁.dispatches ledger.requestID = 0 := by
      rw [saved.kept.dispatches]
      exact unposted
    have closed : (world₁.footprint ledger.requestID).run = none := by
      rw [saved.kept.footprint]
      exact closed
    refine Ensures.next (saved.owns.dispatchWorkflow_ensures (saved.synced rfl) serving.own rfl
      unknown serving.repository.symm (congrArg Identity.nonce serving.identified.symm)
      unposted closed) ?_
    rintro answer _ trace₂ world₂ ⟨rfl, dispatches⟩
    have lease := dispatches.lease.trans saved.kept.lease
    cases answer with
    | error error =>
      dsimp only
      split
      · rename_i unambiguous
        refine Ensures.bind (Ensures.modify ?_)
        have closed := dispatches.refused error rfl (by simpa using unambiguous)
        have owns := dispatches.owns.edit
          { ({ ledger with runTerminal := false }).moved .dispatching "" now with
            runTerminal := true } rfl (dispatches.owns.faithful.runClosed closed)
        exact owns.finishError_since rfl lease
      · exact dispatches.owns.finishError_since rfl lease
    | ok runID =>
      rcases dispatches.accepted runID rfl with ⟨positive, same, seen, decoded, saw⟩
      dsimp only
      split
      · exact dispatches.owns.finishError_since rfl lease
      · refine Ensures.bind (Ensures.modify ?_)
        have owns := dispatches.owns.edit
          { ({ ledger with runTerminal := false }).moved .dispatching "" now with
            runID := runID } rfl (dispatches.owns.faithful.runIdentified positive same)
        refine Ensures.bind (owns.transition_ensures (fun completed => by cases completed)
          fun error now trace₃ world₃ saved₃ => ?_)
        have lease := saved₃.kept.lease.trans lease
        cases error with
        | some error =>
          exact (saved₃.owns.finishError_ensures _ _).mono
            fun _ _ _ _ ended => ended.since rfl lease
        | none =>
          have unposted : world₃.generations ledger.requestID = 0 := by
            rw [saved₃.kept.generations, dispatches.generations, saved.kept.generations]
            exact unregistered.unposted
          refine (saved₃.owns.bindAndRun_ensures (serving.of_binding rfl)
            ⟨unregistered.incomplete, unregistered.gone, unregistered.unknown, unposted⟩
            (Int.ne_of_gt positive) ?_).mono fun _ _ _ _ ended => ended.since rfl lease
          refine Collected.still (((collected.still saved.longer).next saw
            fun earlier holds => ?_)) saved₃.longer
          refine ⟨earlier, seen, holds, decoded, ?_⟩
          rw [← serving.identified]
          rfl

end Owns

end Civm.JitDispatcher
