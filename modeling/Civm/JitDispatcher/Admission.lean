import Civm.JitDispatcher.Lifecycle

/-! # Admission: leases, startup reconciliation, and whole invocations -/

namespace Civm.JitDispatcher

/-! ## Leases -/

namespace Owns

variable {scene : Scene} {trace : Trace} {world world' : World} {ledger : Ledger}

theorem remarked (owns : Owns scene ledger trace world) (marker : Option LeaseMarker)
    (lease : Option String)
    (marked : ∀ found, marker = some found → found.leaseID = ledger.leaseID) :
    Owns scene ledger trace { world with marker := marker, lease := lease } := by
  have sound := owns.safe.sound
  rcases owns.durable with ⟨stored, present, binding⟩
  have leased : stored.leaseID = ledger.leaseID := congrArg Binding.leaseID binding
  refine ⟨⟨{ sound with
    faithful := fun key other found => (sound.faithful key other found).same rfl rfl rfl
    owned := ?_, held := ?_ }, owns.safe.current, owns.safe.frozen⟩,
    owns.durable, owns.alone, marked, owns.faithful.same rfl rfl rfl⟩
  · intro found exists_
    exact ⟨ledger.requestID, stored, present, leased.trans (marked found exists_).symm⟩
  · intro found key other exists_ found' open_
    rw [marked found exists_, ← leased]
    by_cases same : key = ledger.requestID
    · rw [same] at found'
      rw [Option.some.inj (found'.symm.trans present)]
    · rw [owns.alone key other found' same] at open_
      cases open_

theorem acquired {answer : AcquireAnswer} (owns : Owns scene ledger trace world)
    (permitted : world.permits scene.assumptions (.acquire ledger.leaseID) answer) :
    Owns scene ledger trace (world.acquired ledger.leaseID answer) := by
  refine owns.remarked _ _ fun found exists_ => ?_
  rcases permitted.1 with same | ⟨_, marker, created, own⟩
  · exact owns.marked found (same.symm.trans exists_)
  · rw [Option.some.inj (exists_.symm.trans created)]
    exact own

theorem released {answer : ReleaseAnswer} (owns : Owns scene ledger trace world) :
    Owns scene ledger trace (world.released answer) := by
  refine owns.remarked _ _ fun found exists_ => ?_
  split at exists_
  · exact owns.marked found exists_
  · cases exists_

theorem complete (owns : Owns scene ledger trace world) (complete : ledger.cleanupComplete = true)
    (synced : world.store ledger.requestID = some ledger) (key : String) (other : Ledger)
    (found : world.store key = some other) : other.cleanupComplete = true := by
  by_cases same : key = ledger.requestID
  · rw [same] at found
    rw [Option.some.inj (found.symm.trans synced)]
    exact complete
  · exact owns.alone key other found same

theorem settled (owns : Owns scene ledger trace world) (complete : ledger.cleanupComplete = true)
    (synced : world.store ledger.requestID = some ledger) : world.Settled ledger.leaseID :=
  ⟨⟨ledger.requestID, ledger, synced, rfl⟩, fun key other found _ =>
    owns.complete complete synced key other found⟩

end Owns

/-! ## Ending an admitted request -/

structure Returned (scene : Scene) (outcome : Result × Option Error) (trace : Trace)
    (world : World) : Prop where
  safe : Safe scene trace world
  lease : world.lease = none
  success : outcome.2 = none → ∃ ledger, world.store scene.key = some ledger ∧
    ledger.status = .completed ∧ ledger.cleanupComplete = true ∧
    (outcome.1.replay = false → outcome.1 = resultOf ledger ∧
      Invocation.Proves ⟨scene.dispatcher, scene.request, trace⟩ ledger ∧
      world.marker = none ∧ ∃ answer : ReleaseAnswer, answer.error = none ∧
        ⟨.release ledger.leaseID, answer⟩ ∈ trace)

theorem Returned.later {scene : Scene} {outcome : Result × Option Error} {trace trace' : Trace}
    {world world' : World} (returned : Returned scene outcome trace world)
    (longer : Extends trace trace' []) (calmer : Calmer scene.assumptions world world') :
    Returned scene outcome trace' world' := by
  refine ⟨returned.safe.later longer calmer, calmer.lease.trans returned.lease, fun success => ?_⟩
  rw [calmer.store, calmer.marker]
  rcases returned.success success with ⟨ledger, stored, completed, complete, fresh⟩
  refine ⟨ledger, stored, completed, complete, fun first => ?_⟩
  rcases fresh first with ⟨isResult, ⟨named, policy, allowlisted, collected⟩, unmarked, answer,
    released, member⟩
  exact ⟨isResult, ⟨named, policy, allowlisted, collected.still longer⟩, unmarked, answer, released,
    longer.subset member⟩

theorem Ended.releaseOrAbandon_ensures {scene : Scene} {trace : Trace} {world before : World}
    {ledger original : Ledger} {result : Result} {dispatchError : Option Error}
    (ended : Ended scene original before (result, dispatchError) ledger trace world)
    (own : ledger.requestID = scene.key) :
    scene.Ensures (Dispatcher.releaseOrAbandon result dispatchError)
      (fun outcome _ => Returned scene outcome) ledger trace world := by
  have owns := ended.owns
  refine Ensures.bind (Ensures.get ?_)
  split
  · rename_i complete
    refine Ensures.bind (Ensures.perform owns.safe
      (fun assumed => owns.settled complete (ended.synced assumed complete))
      (fun wanted => wanted.elim) fun answer permitted => ?_)
    have grown := owns.later (Extends.grow trace ⟨.release ledger.leaseID, answer⟩)
      (Calmer.refl _ world)
    have owns : Owns scene ledger _ (world.released answer) := grown.released
    cases failed : answer.error with
    | none =>
      dsimp only
      refine Ensures.pure ⟨owns.safe, rfl, fun success => ?_⟩
      rcases ended.success success with ⟨isResult, completed, _, synced, named, proof⟩
      rcases proof with ⟨policy, allowlisted, collected⟩
      refine ⟨ledger, own ▸ synced, completed, complete, fun _ => ⟨isResult,
        ⟨named, policy, allowlisted, collected.still (Extends.grow _ _)⟩, ?_, answer, failed,
        List.mem_append_right _ (List.mem_singleton_self _)⟩⟩
      simp only [outside, World.after, World.released, permitted failed, Bool.false_eq_true,
        if_false]
    | some error =>
      dsimp only
      refine Ensures.bind (Ensures.modify ?_)
      have owns := owns.edit { ledger with cleanupComplete := false } rfl owns.faithful.reopened
      refine Ensures.bind (owns.transition_ensures (fun completed => by cases completed)
        fun transitionError now trace' world' saved => ?_)
      refine Ensures.bind (Ensures.get (Ensures.pure ?_))
      refine ⟨saved.owns.safe, saved.kept.lease, fun success => ?_⟩
      cases GoError.joinAll_eq_none.mp success _ (List.mem_cons_of_mem _ (List.mem_cons_self ..))
  · rename_i incomplete
    refine Ensures.bind (Ensures.perform owns.safe trivial (fun wanted => wanted.elim)
      fun answer _ => ?_)
    have grown := owns.later (Extends.grow trace ⟨.abandon ledger.leaseID, answer⟩)
      (Calmer.refl _ world)
    have owns : Owns scene ledger _ { world with lease := none } :=
      grown.remarked world.marker none grown.marked
    refine Ensures.pure ⟨owns.safe, rfl, fun success => ?_⟩
    exact absurd (ended.success success).2.2.1 incomplete

namespace Owns

variable {scene : Scene} {trace : Trace} {world : World} {ledger : Ledger}
  {policy : RepositoryPolicy} {identity : Identity}

theorem unadmitted {error : Error} (owns : Owns scene ledger trace world)
    (terminal : ledger.runTerminal = true) (gone : ledger.runnerGone = true)
    (none : ledger.isolationGone = true) :
    Faithful scene.assumptions world (Dispatcher.unadmitted ledger error) :=
  { owns.faithful with
    run := fun effect live => nomatch terminal.symm.trans (owns.faithful.run effect live).1
    runner := fun effect live => nomatch gone.symm.trans (owns.faithful.runner effect live).1
    isolation := fun lease live =>
      nomatch none.symm.trans (owns.faithful.isolation lease live).1
    jobBound := nofun
    runnerBound := nofun
    valid := fun orderly => { owns.faithful.valid orderly with
      gone := fun _ => (owns.faithful.valid orderly).gone none
      complete := fun _ => ⟨rfl, rfl, rfl⟩ } }

theorem dispatchStored_ensures (owns : Owns scene ledger trace world)
    (serving : Serving scene policy identity ledger) (unregistered : Unregistered ledger world)
    (terminal : ledger.runTerminal = true) (isolated : ledger.isolationGone = true)
    (unknown : ledger.runID = 0) (unposted : world.dispatches ledger.requestID = 0)
    (free : world.lease = none)
    (collected : Collected ((scene.setting policy).Authorized ledger) trace) :
    scene.Ensures (scene.dispatcher.dispatchStored scene.request policy identity)
      (fun outcome _ => Returned scene outcome) ledger trace world := by
  refine Ensures.bind (Ensures.get ?_)
  refine Ensures.bind (Ensures.perform owns.safe trivial (fun wanted => wanted.elim)
    fun answer permitted => ?_)
  have longer := Extends.grow trace
    (⟨.acquire ledger.leaseID, answer⟩ : Event Call.Answer)
  have owns : Owns scene ledger _ (world.acquired ledger.leaseID answer) :=
    (owns.later longer (Calmer.refl _ world)).acquired permitted
  cases failed : answer.error with
  | some error =>
    dsimp only
    have free : (world.acquired ledger.leaseID answer).lease = none := by
      simp only [World.acquired, failed, Option.isNone_some, Bool.false_eq_true, if_false]
      exact free
    refine Ensures.bind (Ensures.modify ?_)
    have owns := owns.edit (Dispatcher.unadmitted ledger error) rfl
      (owns.unadmitted terminal unregistered.gone isolated)
    refine (owns.finishWithoutLease_ensures _ _).mono ?_
    rintro outcome ledger' trace' world' ⟨owns, lease, unsuccessful⟩
    exact ⟨owns.safe, lease.trans free, fun success => absurd success unsuccessful⟩
  | none =>
    dsimp only
    refine Ensures.next (owns.dispatchPrepared_ensures serving
      ⟨unregistered.incomplete, unregistered.gone, unregistered.unknown, unregistered.unposted⟩
      terminal unknown unposted (collected.still longer)) ?_
    rintro ⟨result, dispatchError⟩ ledger₁ trace₁ world₁ ended
    exact ended.releaseOrAbandon_ensures (serving.of_binding ended.binding).own

end Owns

/-! ## Fresh requests -/

/-- Nothing is incomplete and no lease is marked or held. -/
structure Idle (scene : Scene) (trace : Trace) (world : World) : Prop where
  safe : Safe scene trace world
  complete : ∀ key ledger, world.store key = some ledger → ledger.cleanupComplete = true
  marker : world.marker = none
  lease : world.lease = none

theorem Idle.later {scene : Scene} {trace trace' : Trace} {world world' : World}
    (idle : Idle scene trace world) (longer : Extends trace trace' [])
    (calmer : Calmer scene.assumptions world world') : Idle scene trace' world' :=
  ⟨idle.safe.later longer calmer, calmer.store ▸ idle.complete,
    calmer.marker.trans idle.marker, calmer.lease.trans idle.lease⟩

theorem Safe.observe {scene : Scene} {trace : Trace} {world : World} {program : Action α}
    {next : α → Action β} {middle : α → Trace → World → Prop} {post : β → Trace → World → Prop}
    (safe : Safe scene trace world)
    (observes : Observes scene.assumptions program trace world middle)
    (rest : ∀ value trace' world', Extends trace trace' [] →
      Calmer scene.assumptions world world' → middle value trace' world' →
      (next value).Satisfies (outside scene.assumptions) (contract scene) post trace' world') :
    (program >>= next).Satisfies (outside scene.assumptions) (contract scene) post
      trace world := by
  rw [Program.satisfies_bind]
  refine (observes (contract scene) safe.steady).mono ?_
  rintro value trace' world' ⟨longer, calmer, holds⟩
  exact rest value trace' world' longer calmer holds

theorem Safe.perform {scene : Scene} {trace : Trace} {world : World} {call : Call}
    {next : call.Answer → Action α} {post : α → Trace → World → Prop}
    (safe : Safe scene trace world) (calm : call.calm = true)
    (rest : ∀ answer, world.permits scene.assumptions call answer →
      Extends trace (trace ++ [⟨call, answer⟩]) [] →
      Calmer scene.assumptions world (world.after call answer) →
      (next answer).Satisfies (outside scene.assumptions) (contract scene) post
        (trace ++ [⟨call, answer⟩]) (world.after call answer)) :
    (JitDispatcher.perform call >>= next).Satisfies (outside scene.assumptions) (contract scene)
      post trace world :=
  ⟨safe, safe.steady.allows _ _ _ (Extends.refl _) (Calmer.refl _ _) calm,
    fun wanted => wanted.elim, fun answer permitted =>
      rest answer permitted (Extends.grow _ _) (World.calmer_after calm permitted)⟩

theorem Config.policy_mem {config : Config} {repository : String} {policy : RepositoryPolicy}
    (found : config.policy repository = some policy) : policy ∈ config.repositories :=
  List.mem_of_find?_eq_some found

theorem validLedger_newLedger {config : Config} {request : Request} {policy : RepositoryPolicy}
    {trustedSHA : String} {value : List UInt8} {now : Nat}
    (allowlisted : config.policy request.repository = some policy)
    (accepted : validateRequest request policy = none) (trusted : matchesSHA trustedSHA = true)
    (sized : value.length = 32) (told : now ≠ 0) :
    ValidLedger (Dispatcher.newLedger request policy trustedSHA (newIdentity value) now)
      (requestIDOf request) := by
  rcases validateRequest_eq_none accepted with ⟨repository, candidateRef, candidateSHA⟩
  rcases validatePolicy_eq_none (config.policiesValid policy (Config.policy_mem allowlisted)) with
    ⟨workflow, workflowSHA256⟩
  exact {
    version := rfl
    named := rfl
    requestID := requestIDOf_isHex request
    repository := repository
    candidateRef := candidateRef
    candidateSHA := candidateSHA
    trustedSHA := trusted
    workflow := workflow
    workflowSHA256 := workflowSHA256
    identity := validIdentity_newIdentity sized
    lease := rfl
    created := told
    updated := Nat.le_refl _
    nonnegative := ⟨Int.le_refl 0, Int.le_refl 0, Int.le_refl 0, Int.le_refl 0, Int.le_refl 0⟩
    ordered := ⟨fun _ => ⟨rfl, rfl⟩, fun _ => rfl⟩
    noProcess := fun _ => ⟨rfl, rfl, rfl⟩
    process := fun running => absurd running (Int.lt_irrefl 0)
    isolationPaired := ⟨fun _ => rfl, fun _ => rfl⟩
    isolation := fun named => absurd rfl named
    gone := fun _ => rfl
    complete := nofun }

namespace Idle

variable {scene : Scene} {trace : Trace} {world : World} {ledger : Ledger}

theorem saved (idle : Idle scene trace world) (absent : world.store ledger.requestID = none)
    (valid : ValidLedger ledger ledger.requestID)
    (faithful : Faithful scene.assumptions world ledger)
    (created : Invocation.Creates ⟨scene.dispatcher, scene.request, trace⟩ ledger.binding)
    (unfinished : ledger.status ≠ .completed) :
    Owns scene ledger trace (world.saved ledger) where
  safe := by
    refine idle.safe.saved valid faithful (fun key other found _ => idle.complete key other found)
      ?_ ?_ ⟨_, List.mem_append_right _ (List.mem_singleton_self _), created⟩
      fun completed => absurd completed unfinished
    · intro marker found
      rw [idle.marker] at found
      cases found
    · intro stored found
      rw [absent] at found
      cases found
  durable := ⟨ledger, Function.update_self .., rfl⟩
  alone := by
    intro key other found different
    change Function.update world.store ledger.requestID (some ledger) key = some other at found
    rw [Function.update_of_ne different] at found
    exact idle.complete key other found
  marked := by
    intro marker found
    change world.marker = some marker at found
    rw [idle.marker] at found
    cases found
  faithful := faithful.same rfl rfl rfl

theorem save_satisfies {post : Option Error → Trace → World → Prop}
    (idle : Idle scene trace world) (absent : world.store ledger.requestID = none)
    (faithful : Faithful scene.assumptions world ledger)
    (created : Invocation.Creates ⟨scene.dispatcher, scene.request, trace⟩ ledger.binding)
    (unfinished : ledger.status ≠ .completed)
    (failed : ∀ error trace' world', Safe scene trace' world' → world'.lease = none →
      post (some error) trace' world')
    (stored : ∀ trace' world', Owns scene ledger trace' world' → Extends trace trace' [] →
      Kept world world' → post none trace' world') :
    (save ledger).Satisfies (outside scene.assumptions) (contract scene) post trace world := by
  refine ⟨idle.safe, ?_, fun wanted => wanted.elim, ?_⟩
  · intro orderly
    exact validateLedger_eq_none.mpr (faithful.valid orderly)
  · intro answer ⟨refused, success, _⟩
    have longer : Extends trace (trace ++ [⟨.save ledger, answer⟩]) [] := Extends.grow _ _
    have idle := idle.later longer (Calmer.refl _ world)
    have owns : answer.stored = true → Owns scene ledger (trace ++ [⟨.save ledger, answer⟩])
      (world.saved ledger) := by
      intro reached
      refine idle.saved absent ?_ faithful created unfinished
      apply validateLedger_eq_none.mp
      cases checked : validateLedger ledger ledger.requestID with
      | none => rfl
      | some error =>
        rw [refused error checked] at reached
        cases reached
    change post answer.error (trace ++ [⟨.save ledger, answer⟩])
      (if answer.stored = true then world.saved ledger else world)
    cases outcome : answer.error with
    | none =>
      have reached := success outcome
      rw [if_pos reached]
      exact stored _ _ (owns reached) longer ⟨rfl, rfl, rfl, rfl, rfl, rfl, rfl, rfl⟩
    | some error =>
      split
      · rename_i reached
        exact failed error _ _ (owns reached).safe idle.lease
      · exact failed error _ _ idle.safe idle.lease

theorem faithful_newLedger {policy : RepositoryPolicy} {trustedSHA : String}
    {identity : Identity} {now : Nat} (idle : Idle scene trace world)
    (absent : world.store scene.key = none)
    (valid : scene.assumptions.orderly → ValidLedger
      (Dispatcher.newLedger scene.request policy trustedSHA identity now) scene.key)
    (timely : scene.assumptions.timely → now ≤ world.clock) :
    Faithful scene.assumptions world
      (Dispatcher.newLedger scene.request policy trustedSHA identity now) := by
  have empty := (idle.safe.sound.untouched scene.key absent).1
  refine ⟨?_, ?_, ?_, nofun,
    nofun, valid, timely⟩
  · intro effect live
    change (world.footprint scene.key).run = some effect at live
    rw [empty] at live
    cases live
  · intro effect live
    change (world.footprint scene.key).runner = some effect at live
    rw [empty] at live
    cases live
  · intro lease live
    change (world.footprint scene.key).isolation = some lease at live
    rw [empty] at live
    cases live

theorem dispatchFresh_satisfies {policy : RepositoryPolicy} (idle : Idle scene trace world)
    (absent : world.store scene.key = none)
    (allowlisted : scene.dispatcher.config.policy scene.request.repository = some policy)
    (accepted : validateRequest scene.request policy = none) :
    (scene.dispatcher.dispatchFresh scene.request policy).Satisfies (outside scene.assumptions)
      (contract scene) (Returned scene) trace world := by
  refine idle.safe.observe (Dispatcher.verifyAuthority_observes _ _ _ _)
    fun answer trace₁ world₁ longer₁ calmer₁ verified => ?_
  have idle := idle.later longer₁ calmer₁
  cases answer with
  | error error => exact ⟨idle.safe, idle.lease, nofun⟩
  | ok trustedSHA =>
    rcases verified trustedSHA rfl with ⟨trusted, authority, verifies, saw⟩
    refine idle.safe.perform rfl fun answer sized longer₂ calmer₂ => ?_
    have idle := idle.later longer₂ calmer₂
    cases answer with
    | error error => exact ⟨idle.safe, idle.lease, nofun⟩
    | ok value =>
      refine idle.safe.observe (runnerLabelExists_observes _ _ _ _)
        fun answer trace₃ world₃ longer₃ calmer₃ _ => ?_
      have idle := idle.later longer₃ calmer₃
      cases answer with
      | error error => exact ⟨idle.safe, idle.lease, nofun⟩
      | ok collision =>
        cases collision with
        | true => exact ⟨idle.safe, idle.lease, nofun⟩
        | false =>
          refine idle.safe.perform rfl fun now told longer₄ calmer₄ => ?_
          have idle := idle.later longer₄ calmer₄
          have absent : (world₃.after .now now).store scene.key = none := by
            rw [calmer₄.store, calmer₃.store, calmer₂.store, calmer₁.store]
            exact absent
          have faithful := idle.faithful_newLedger absent
            (fun orderly => validLedger_newLedger allowlisted accepted trusted
              (sized value rfl) (told orderly.1).2)
            (fun _ => Nat.le_refl now)
          have counts := (idle.safe.sound.untouched scene.key absent).2
          rw [Program.satisfies_bind]
          refine idle.save_satisfies absent faithful
            ⟨policy, trustedSHA, newIdentity value, now, allowlisted, rfl⟩
            nofun
            (fun error trace' world' safe free => ⟨safe, free, nofun⟩)
            fun trace₅ world₅ owns longer₅ kept => ?_
          have collected : Collected ((scene.setting policy).Authorized
            (Dispatcher.newLedger scene.request policy trustedSHA
              (newIdentity value) now)) trace₁ :=
            ⟨_, ⟨authority, verifies, rfl⟩, saw.sublist (List.nil_sublist _)⟩
          refine Ensures.run (owns.dispatchStored_ensures ⟨allowlisted, rfl, rfl, rfl⟩
            ⟨rfl, rfl, rfl, (congrFun kept.generations _).trans counts.2⟩ rfl rfl rfl
            ((congrFun kept.dispatches _).trans counts.1) (kept.lease.trans idle.lease)
            ((((collected.still longer₂).still longer₃).still longer₄).still longer₅))
            fun outcome _ _ _ returned => returned

end Idle

end Civm.JitDispatcher
