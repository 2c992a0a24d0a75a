import Civm.JitDispatcher.Ownership

/-! # The two posts to GitHub

A dispatch or a runner generation takes effect unless GitHub rejects it, so the
durable ledger has to announce the effect before. Each is posted once. -/

namespace Civm.JitDispatcher

/-! ## What the answers mean -/

theorem rejected_of_unambiguous {answer : Transport DispatchBody} {error : Error}
    (failed : GitHub.dispatchReceipt answer = .error error)
    (unambiguous : error.is .ambiguous = false) : rejected answer = true := by
  cases answer with
  | failed canceled =>
    cases canceled <;> cases failed <;> exact nomatch unambiguous
  | response status requestID body =>
    simp only [GitHub.dispatchReceipt] at failed
    split at failed
    · split at failed
      · rename_i clientError
        simp [rejected, clientError]
      · cases failed
        exact nomatch unambiguous
    · split at failed
      · cases failed
        exact nomatch unambiguous
      · split at failed
        · cases failed
          exact nomatch unambiguous
        · cases failed

theorem rejected_of_authoritative {identity : Identity} {answer : Transport JITRegistration}
    {error : Error} (failed : GitHub.jitRegistration identity answer = .error error)
    (authoritative : authoritativeJITRejection error = true) : rejected answer = true := by
  have unambiguous : error.is .ambiguous = false := by
    simp only [authoritativeJITRejection, Bool.and_eq_true, Bool.not_eq_true'] at authoritative
    exact authoritative.1
  cases answer with
  | failed canceled =>
    cases canceled <;> cases failed <;> cases (show true = false from unambiguous)
  | response status requestID body =>
    simp only [GitHub.jitRegistration] at failed
    split at failed
    · split at failed
      · rename_i clientError
        simp [rejected, clientError]
      · cases failed
        cases (show true = false from unambiguous)
    · split at failed
      · cases failed
        cases (show true = false from unambiguous)
      · split at failed
        · cases failed
          cases (show true = false from unambiguous)
        · split at failed
          · cases failed
            cases (show true = false from unambiguous)
          · cases failed

theorem dispatchReceipt_positive {answer : Transport DispatchBody} {runID : Int}
    (accepted : GitHub.dispatchReceipt answer = .ok runID) : 0 < runID := by
  cases answer with
  | failed canceled => cases accepted
  | response status requestID body =>
    simp only [GitHub.dispatchReceipt] at accepted
    split at accepted
    · split at accepted <;> cases accepted
    · split at accepted
      · cases accepted
      · split at accepted
        · cases accepted
        · rename_i receipt refused
          cases accepted
          exact Int.not_le.mp (not_or.mp refused).1

namespace Owns

variable {scene : Scene} {trace : Trace} {world : World} {ledger : Ledger}

/-! ## The dispatch -/

theorem dispatched {effect : RunEffect} {answer : Transport DispatchBody}
    (owns : Owns scene ledger trace world) (synced : world.store ledger.requestID = some ledger)
    (own : ledger.requestID = scene.key) (open_ : ledger.runTerminal = false)
    (unknown : ledger.runID = 0) (named : effect = ⟨ledger.repository, ledger.nonce⟩)
    (unposted : world.dispatches ledger.requestID = 0) :
    Owns scene ledger trace (world.dispatched effect answer) := by
  have current : world.current = ledger.requestID := owns.safe.current.trans own.symm
  have once := owns.safe.sound.once ledger.requestID
  have posted : Function.update world.dispatches world.current
    (world.dispatches world.current + 1) ledger.requestID ≤ 1 := by
    rw [← current, Function.update_self, current, unposted]
  unfold World.dispatched
  split
  · refine owns.affected synced rfl rfl rfl rfl rfl ?_ ⟨posted, once.2⟩
      (owns.faithful.same rfl rfl rfl)
    intro key different
    exact ⟨rfl, Function.update_of_ne (current.symm ▸ different) .., rfl⟩
  · refine owns.affected synced rfl rfl rfl rfl rfl ?_ ⟨posted, once.2⟩
      (owns.faithful.runLive open_ unknown named ?_ rfl rfl)
    · intro key different
      exact ⟨Function.update_of_ne (current.symm ▸ different) ..,
        Function.update_of_ne (current.symm ▸ different) .., rfl⟩
    · rw [← current]
      exact Function.update_self ..

/-- What `DispatchWorkflow` leaves behind. -/
structure Dispatches (scene : Scene) (ledger : Ledger) (call : Transport DispatchBody → Event Call.Answer)
    (trace : Trace) (world : World) (answer : Except Error Int) (trace' : Trace)
    (world' : World) : Prop where
  owns : Owns scene ledger trace' world'
  lease : world'.lease = world.lease
  generations : world'.generations = world.generations
  longer : Extends trace trace' []
  accepted : ∀ runID, answer = .ok runID →
    0 < runID ∧ runID = (world'.ids ledger.requestID).run ∧
    ∃ seen, GitHub.dispatchReceipt seen = .ok runID ∧ Extends trace trace' [call seen]
  refused : ∀ error, answer = .error error → error.is .ambiguous = false →
    (world'.footprint ledger.requestID).run = none

theorem dispatchWorkflow_ensures {repository workflow trustedRef : String}
    {inputs : DispatchInputs} (owns : Owns scene ledger trace world)
    (synced : world.store ledger.requestID = some ledger) (own : ledger.requestID = scene.key)
    (open_ : ledger.runTerminal = false) (unknown : ledger.runID = 0)
    (sameRepository : repository = ledger.repository)
    (sameNonce : inputs.dispatchNonce = ledger.nonce)
    (unposted : world.dispatches ledger.requestID = 0)
    (closed : (world.footprint ledger.requestID).run = none) :
    scene.Ensures (liftM (GitHub.dispatchWorkflow repository workflow trustedRef inputs))
      (fun answer ledger' trace' world' => ledger' = ledger ∧
        Dispatches scene ledger (⟨.postDispatch repository workflow trustedRef inputs, ·⟩)
          trace world answer trace' world') ledger trace world := by
  unfold GitHub.dispatchWorkflow
  split
  · exact Ensures.lift ⟨rfl, owns, rfl, rfl, Extends.refl _, nofun, fun _ _ _ => closed⟩
  · refine Ensures.lift ⟨owns.safe, trivial, fun wanted => wanted.elim, fun answer permitted => ?_⟩
    have current : world.current = ledger.requestID := owns.safe.current.trans own.symm
    have grown := owns.later (Extends.grow trace
      ⟨.postDispatch repository workflow trustedRef inputs, answer⟩) (Calmer.refl _ world)
    have owns : Owns scene ledger _ (world.dispatched ⟨repository, inputs.dispatchNonce⟩ answer) :=
      grown.dispatched synced own open_ unknown (by rw [sameRepository, sameNonce]) unposted
    have frame : (world.dispatched ⟨repository, inputs.dispatchNonce⟩ answer).lease = world.lease ∧
      (world.dispatched ⟨repository, inputs.dispatchNonce⟩ answer).generations =
        world.generations ∧
      (world.dispatched ⟨repository, inputs.dispatchNonce⟩ answer).ids = world.ids := by
      unfold World.dispatched
      split <;> exact ⟨rfl, rfl, rfl⟩
    refine ⟨rfl, owns, frame.1, frame.2.1, Extends.grow _ _, ?_, ?_⟩
    · intro runID accepted
      refine ⟨dispatchReceipt_positive accepted, ?_, answer, accepted, Extends.step _ _⟩
      have same := permitted runID accepted
      rw [current] at same
      exact same.trans (congrArg RemoteIDs.run (congrFun frame.2.2 _).symm)
    · intro error failed unambiguous
      have rejection := rejected_of_unambiguous failed unambiguous
      simp only [outside, World.after, World.dispatched, if_pos rejection]
      exact closed

/-! ## The generation -/

theorem generated {effect : RunnerEffect} {answer : Transport JITRegistration}
    (owns : Owns scene ledger trace world) (synced : world.store ledger.requestID = some ledger)
    (own : ledger.requestID = scene.key) (open_ : ledger.runnerGone = false)
    (unknown : ledger.runnerID = 0)
    (named : effect = ⟨ledger.repository, ledger.runnerLabel, ledger.runnerName⟩)
    (unposted : world.generations ledger.requestID = 0) :
    Owns scene ledger trace (world.generated effect answer) := by
  have current : world.current = ledger.requestID := owns.safe.current.trans own.symm
  have once := owns.safe.sound.once ledger.requestID
  have posted : Function.update world.generations world.current
    (world.generations world.current + 1) ledger.requestID ≤ 1 := by
    rw [← current, Function.update_self, current, unposted]
  unfold World.generated
  split
  · refine owns.affected synced rfl rfl rfl rfl rfl ?_ ⟨once.1, posted⟩
      (owns.faithful.same rfl rfl rfl)
    intro key different
    exact ⟨rfl, rfl, Function.update_of_ne (current.symm ▸ different) ..⟩
  · refine owns.affected synced rfl rfl rfl rfl rfl ?_ ⟨once.1, posted⟩
      (owns.faithful.runnerLive open_ unknown named ?_ rfl rfl)
    · intro key different
      exact ⟨Function.update_of_ne (current.symm ▸ different) .., rfl,
        Function.update_of_ne (current.symm ▸ different) ..⟩
    · rw [← current]
      exact Function.update_self ..

/-- What `GenerateJIT` leaves behind. -/
structure Generates (scene : Scene) (ledger : Ledger)
    (call : Transport JITRegistration → Event Call.Answer) (trace : Trace) (world : World)
    (answer : Except Error JITRegistration) (trace' : Trace) (world' : World) : Prop where
  owns : Owns scene ledger trace' world'
  lease : world'.lease = world.lease
  longer : Extends trace trace' []
  accepted : ∀ registration, answer = .ok registration →
    registration.runner.id = (world'.ids ledger.requestID).runner ∧
    ∃ seen, GitHub.jitRegistration ledger.identity seen = .ok registration ∧
      Extends trace trace' [call seen]
  refused : ∀ error, answer = .error error → authoritativeJITRejection error = true →
    (world'.footprint ledger.requestID).runner = none

theorem generateJIT_ensures {repository : String} {identity : Identity} {runnerGroupID : Int}
    (owns : Owns scene ledger trace world)
    (synced : world.store ledger.requestID = some ledger) (own : ledger.requestID = scene.key)
    (open_ : ledger.runnerGone = false) (unknown : ledger.runnerID = 0)
    (sameRepository : repository = ledger.repository) (identified : ledger.identity = identity)
    (unposted : world.generations ledger.requestID = 0)
    (closed : (world.footprint ledger.requestID).runner = none) :
    scene.Ensures (liftM (GitHub.generateJIT repository identity runnerGroupID))
      (fun answer ledger' trace' world' => ledger' = ledger ∧
        Generates scene ledger (⟨.postJITConfig repository identity runnerGroupID, ·⟩)
          trace world answer trace' world') ledger trace world := by
  subst identified
  unfold GitHub.generateJIT
  split
  · exact Ensures.lift ⟨rfl, owns, rfl, Extends.refl _, nofun, fun _ _ _ => closed⟩
  · refine Ensures.lift ⟨owns.safe, trivial, fun wanted => wanted.elim, fun answer permitted => ?_⟩
    have current : world.current = ledger.requestID := owns.safe.current.trans own.symm
    have grown := owns.later (Extends.grow trace
      ⟨.postJITConfig repository ledger.identity runnerGroupID, answer⟩) (Calmer.refl _ world)
    have owns : Owns scene ledger _ (world.generated
      ⟨repository, ledger.identity.label, ledger.identity.runnerName⟩ answer) :=
      grown.generated synced own open_ unknown (by rw [sameRepository]; rfl) unposted
    have frame : (world.generated
      ⟨repository, ledger.identity.label, ledger.identity.runnerName⟩ answer).lease =
        world.lease ∧ (world.generated
      ⟨repository, ledger.identity.label, ledger.identity.runnerName⟩ answer).ids =
        world.ids := by
      unfold World.generated
      split <;> exact ⟨rfl, rfl⟩
    refine ⟨rfl, owns, frame.1, Extends.grow _ _, ?_, ?_⟩
    · intro registration accepted
      refine ⟨?_, answer, accepted, Extends.step _ _⟩
      have same := permitted registration accepted
      rw [current] at same
      exact same.trans (congrArg RemoteIDs.runner (congrFun frame.2 _).symm)
    · intro error failed authoritative
      have rejection := rejected_of_authoritative failed authoritative
      simp only [outside, World.after, World.generated, if_pos rejection]
      exact closed

end Owns

end Civm.JitDispatcher
