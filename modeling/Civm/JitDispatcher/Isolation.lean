import Civm.JitDispatcher.Cleanup

/-! # Running the isolation of a request

From the moment the driver is started its isolation may exist, so the durable
ledger has to say so before. The JIT configuration is written only after the
isolation that the driver proved ready is durable. -/

namespace Civm.JitDispatcher

/-- The fields of a ledger that a driver execution leaves alone. -/
structure Progress where
  runID : Int
  jobID : Int
  runnerID : Int
  runTerminal : Bool
  runnerGone : Bool
  isolationGone : Bool
  cleanupComplete : Bool

def Ledger.progress (ledger : Ledger) : Progress where
  runID := ledger.runID
  jobID := ledger.jobID
  runnerID := ledger.runnerID
  runTerminal := ledger.runTerminal
  runnerGone := ledger.runnerGone
  isolationGone := ledger.isolationGone
  cleanupComplete := ledger.cleanupComplete

/-- The request is still owned after a part of a driver execution. -/
structure Driven (scene : Scene) (ledger : Ledger) (trace : Trace) (world : World)
    (ledger' : Ledger) (trace' : Trace) (world' : World) : Prop where
  owns : Owns scene ledger' trace' world'
  binding : ledger'.binding = ledger.binding
  progress : ledger'.progress = ledger.progress
  unfinished : ledger.status ≠ .completed → ledger'.status ≠ .completed
  lease : world'.lease = world.lease
  longer : Extends trace trace' []

namespace Driven

variable {scene : Scene} {ledger middle ledger' : Ledger} {trace trace₁ trace' : Trace}
  {world world₁ world' : World}

theorem refl (owns : Owns scene ledger trace world) :
    Driven scene ledger trace world ledger trace world :=
  ⟨owns, rfl, rfl, id, rfl, Extends.refl _⟩

theorem trans (first : Driven scene ledger trace world middle trace₁ world₁)
    (second : Driven scene middle trace₁ world₁ ledger' trace' world') :
    Driven scene ledger trace world ledger' trace' world' :=
  ⟨second.owns, second.binding.trans first.binding, second.progress.trans first.progress,
    fun unfinished => second.unfinished (first.unfinished unfinished),
    second.lease.trans first.lease, first.longer.trans second.longer⟩

theorem of_calmer (owns : Owns scene ledger trace' world') (longer : Extends trace trace' [])
    (calmer : Calmer scene.assumptions world world') :
    Driven scene ledger trace world ledger trace' world' :=
  ⟨owns, rfl, rfl, id, calmer.lease, longer⟩

theorem of_persisted {error : Option Error} (binding : ledger'.binding = ledger.binding)
    (progress : ledger'.progress = ledger.progress) (unfinished : ledger'.status ≠ .completed)
    (saved : Persisted scene trace world ledger' error trace' world') :
    Driven scene ledger trace world ledger' trace' world' :=
  ⟨saved.owns, binding, progress, fun _ => unfinished, saved.kept.lease, saved.longer⟩

end Driven

namespace Owns

variable {scene : Scene} {trace : Trace} {world : World} {ledger : Ledger}

theorem onStarted_ensures {process : ProcessIdentity} (owns : Owns scene ledger trace world)
    (open_ : ledger.isolationGone = false)
    (wellFormed : scene.assumptions.attached → WellFormed process ledger.leaseID) :
    scene.Ensures (Dispatcher.onStarted process)
      (fun _ ledger' trace' world' => Driven scene ledger trace world ledger' trace' world' ∧
        world'.driver = world.driver) ledger trace world := by
  refine Ensures.bind (Ensures.modify ?_)
  have owns := owns.edit (ledger.withProcess process) rfl
    (owns.faithful.processAttached open_ wellFormed)
  refine owns.transition_ensures nofun
    fun error now trace' world' saved => ?_
  exact ⟨.of_persisted rfl rfl nofun saved, saved.kept.driver⟩

theorem onReady_ensures {receipt : IsolationReceipt} (owns : Owns scene ledger trace world)
    (open_ : ledger.isolationGone = false)
    (ready : validReadyReceipt receipt ledger.leaseID
      scene.dispatcher.config.baseImageSHA256 = true) :
    scene.Ensures (Dispatcher.onReady receipt)
      (fun error ledger' trace' world' => Driven scene ledger trace world ledger' trace' world' ∧
        world'.driver = world.driver ∧ ledger'.isolationID = receipt.isolationID ∧
        (error = none → world'.store ledger'.requestID = some ledger')) ledger trace world := by
  refine Ensures.bind (Ensures.modify ?_)
  rcases validReadyReceipt_iff.mp ready with ⟨_, _, _, opaqueID, base, _⟩
  have named : receipt.isolationID ≠ "" := by
    intro empty
    rw [empty] at opaqueID
    exact absurd opaqueID (by decide)
  have digest : matchesDigest receipt.baseSHA256 = true := by
    rw [base]
    exact scene.dispatcher.config.baseDigest
  have owns := owns.edit (ledger.withIsolation receipt) rfl
    (owns.faithful.isolationNamed open_ named digest fun _ => opaqueID)
  refine owns.transition_ensures nofun
    fun error now trace' world' saved => ?_
  exact ⟨.of_persisted rfl rfl nofun saved, saved.kept.driver, rfl, saved.synced⟩

theorem started {arguments : DriverArguments} (owns : Owns scene ledger trace world)
    (synced : world.store ledger.requestID = some ledger)
    (own : ledger.requestID = scene.key) (open_ : ledger.isolationGone = false)
    (running : arguments.mode = .run) (leased : arguments.leaseID = ledger.leaseID) :
    Owns scene ledger trace (world.started arguments) := by
  have current : world.current = ledger.requestID := owns.safe.current.trans own.symm
  have equal : world.started arguments =
    { world with driver := some ⟨arguments, arguments.isolationID⟩ }.setFootprint
      { world.footprint ledger.requestID with isolation := some ledger.leaseID } := by
    simp only [World.started, running, current, leased]
  have here : (world.started arguments).footprint ledger.requestID =
    { world.footprint ledger.requestID with isolation := some ledger.leaseID } := by
    rw [equal, ← current]
    exact Function.update_self ..
  have elsewhere : ∀ key, key ≠ ledger.requestID →
    (world.started arguments).footprint key = world.footprint key := by
    intro key different
    rw [equal]
    exact Function.update_of_ne (current.symm ▸ different) ..
  rw [equal] at *
  exact owns.affected synced rfl rfl rfl rfl rfl (fun key different =>
    ⟨elsewhere key different, rfl, rfl⟩) (owns.safe.sound.once _)
    (owns.faithful.isolationLive open_ here rfl rfl)

end Owns

/-! ## The conversation with the driver -/

/-- A driver execution that runs the isolation of the ledger. -/
structure Launch (scene : Scene) (ledger : Ledger) (request : Runner.DriverExecRequest)
    (input : DriverInput) : Prop where
  own : ledger.requestID = scene.key
  open_ : ledger.isolationGone = false
  spoken : request.input = some input
  inputLease : input.leaseID = ledger.leaseID
  leased : request.leaseID = ledger.leaseID
  base : request.baseImageSHA256 = scene.dispatcher.config.baseImageSHA256
  running : request.arguments.mode = .run
  argumentLease : request.arguments.leaseID = ledger.leaseID
  argumentBase : request.arguments.expectedBase = scene.dispatcher.config.baseImageSHA256

theorem Launch.driven {scene : Scene} {ledger ledger' : Ledger}
    {request : Runner.DriverExecRequest} {input : DriverInput} {trace trace' : Trace}
    {world world' : World} (launch : Launch scene ledger request input)
    (driven : Driven scene ledger trace world ledger' trace' world') :
    Launch scene ledger' request input := by
  have named : ledger'.requestID = ledger.requestID := congrArg Binding.requestID driven.binding
  have leased : ledger'.leaseID = ledger.leaseID := congrArg Binding.leaseID driven.binding
  have same : ledger'.isolationGone = ledger.isolationGone :=
    congrArg Progress.isolationGone driven.progress
  exact ⟨named.trans launch.own, same.trans launch.open_, launch.spoken,
    launch.inputLease.trans leased.symm, launch.leased.trans leased.symm, launch.base,
    launch.running, launch.argumentLease.trans leased.symm, launch.argumentBase⟩

/-- The driver proved its isolation ready, and whether its last receipt proves
it destroyed can be believed. -/
def Lived (scene : Scene) (ledger : Ledger) (trace : Trace) (receipts : List IsolationReceipt)
    (trace' : Trace) (world' : World) : Prop :=
  ∃ ready last, receipts = [ready, last] ∧
    validReadyReceipt ready ledger.leaseID scene.dispatcher.config.baseImageSHA256 = true ∧
    ready.isolationID = ledger.isolationID ∧
    Extends trace trace' [⟨.readReceipt, .ok ready⟩, ⟨.readReceipt, .ok last⟩] ∧
    (validDestroyedReceipt last ledger.leaseID ready.isolationID
      scene.dispatcher.config.baseImageSHA256 = true → world'.IsolationSettled ledger.leaseID)

def dispatcherCallbacks : Runner.Callbacks Ledger where
  onStarted := some Dispatcher.onStarted
  onReady := some Dispatcher.onReady

namespace Owns

variable {scene : Scene} {trace : Trace} {world : World} {ledger : Ledger}
  {request : Runner.DriverExecRequest} {input : DriverInput}

/-- What every part of a driver execution in run mode ends with. -/
def DriverEnds (scene : Scene) (ledger : Ledger) (trace : Trace) (world : World)
    (result : Runner.DriverResult) (ledger' : Ledger) (trace' : Trace) (world' : World) : Prop :=
  Driven scene ledger trace world ledger' trace' world' ∧
  (result.2.2 = none → Lived scene ledger' trace result.1 trace' world')

theorem DriverEnds.since {start : Trace} {original : World} {first ledger' : Ledger}
    {trace' : Trace} {world' : World} {result : Runner.DriverResult}
    (ends : DriverEnds scene ledger trace world result ledger' trace' world')
    (driven : Driven scene first start original ledger trace world) :
    DriverEnds scene first start original result ledger' trace' world' := by
  refine ⟨driven.trans ends.1, fun success => ?_⟩
  rcases ends.2 success with ⟨ready, last, listed, valid, named, seen, settled⟩
  exact ⟨ready, last, listed, valid, named, seen.since driven.longer, settled⟩

theorem stopIdentified_ensures {receipts : List IsolationReceipt} {process : ProcessIdentity}
    {grace : Nat} {error : Error} {start : Trace} {original : World} {first : Ledger}
    (driven : Driven scene first start original ledger trace world) :
    scene.Ensures (liftM (Runner.stopIdentified receipts process grace error))
      (DriverEnds scene first start original) ledger trace world :=
  driven.owns.last (Runner.stopIdentified_observes _ _ _ _ _ _)
    fun _ _ _ longer calmer failed owns =>
      ⟨driven.trans (.of_calmer owns longer calmer), fun success => absurd success failed⟩

theorem converse_ensures {process : ProcessIdentity} {announced : String}
    (owns : Owns scene ledger trace world) (launch : Launch scene ledger request input)
    (conversing : world.driver = some ⟨request.arguments, announced⟩) :
    scene.Ensures (Runner.converse request dispatcherCallbacks process)
      (DriverEnds scene ledger trace world) ledger trace world := by
  unfold Runner.converse
  refine owns.perform rfl fun answer _ calmer owns => ?_
  have driven : Driven scene ledger trace world ledger _ _ :=
    .of_calmer owns (Extends.grow _ _) calmer
  cases answer with
  | error error => exact stopIdentified_ensures driven
  | ok first =>
    rw [launch.spoken]
    dsimp only
    split
    · exact stopIdentified_ensures driven
    · rename_i accepted
      have ready : validReadyReceipt first ledger.leaseID
        scene.dispatcher.config.baseImageSHA256 = true := by
        rw [← launch.leased, ← launch.base]
        exact Decidable.not_not.mp accepted
      have announces : (world.received first).driver =
        some ⟨request.arguments, first.isolationID⟩ := by
        rw [← launch.argumentLease, ← launch.argumentBase] at ready
        simp only [World.received, conversing, if_pos ready]
      refine Ensures.next (owns.onReady_ensures launch.open_ ready) ?_
      rintro error ledger₁ trace₁ world₁ ⟨driven₁, sameDriver, named, synced⟩
      have launch := launch.driven driven₁
      have driven := driven.trans driven₁
      cases error with
      | some error => exact stopIdentified_ensures driven
      | none =>
        have sawReady : Extends trace trace₁ [⟨.readReceipt, .ok first⟩] :=
          (Extends.step _ _).still driven₁.longer
        have leased : ledger₁.leaseID = ledger.leaseID :=
          congrArg Binding.leaseID driven.binding
        rw [← leased] at ready
        have current : world₁.current = ledger₁.requestID :=
          driven.owns.safe.current.trans launch.own.symm
        have entrusted : Entrusted scene.dispatcher.config.baseImageSHA256 trace₁ world₁
          input := by
          refine ⟨first, ledger₁, sawReady.mem, ?_, ?_, launch.inputLease.symm, named,
            launch.open_⟩
          · rw [launch.inputLease]
            exact ready
          · rw [current]
            exact synced rfl
        refine Ensures.bind (Ensures.perform driven.owns.safe entrusted
          (fun wanted => wanted.elim) fun writeError _ => ?_)
        have owns := driven.owns.later (Extends.grow trace₁
          ⟨.writeInput input, writeError⟩) (Calmer.refl _ world₁)
        have driven := driven.trans (.of_calmer owns (Extends.grow _ _) (Calmer.refl _ _))
        cases writeError with
        | some error => exact stopIdentified_ensures driven
        | none =>
          refine driven.owns.last (Runner.closeAndAwait_observes _ _ request process [first])
            fun result trace₂ world₂ longer calmer concluded owns => ?_
          refine ⟨driven.trans (.of_calmer owns longer calmer), fun success => ?_⟩
          have spoken : request.input ≠ none := by
            rw [launch.spoken]
            exact Option.some_ne_none _
          rcases (concluded success).2 spoken with ⟨last, appended, sawLast, settled⟩
          refine ⟨first, last, appended, ready, named.symm,
            sawReady.trans (sawLast.since (Extends.grow _ _)), fun destroyed => ?_⟩
          have conversing := sameDriver.trans announces
          rw [← launch.argumentLease, ← launch.argumentBase] at destroyed
          rw [← launch.argumentLease]
          exact settled request.arguments first.isolationID conversing destroyed

theorem superviseDriver_ensures {announced : String} (owns : Owns scene ledger trace world)
    (launch : Launch scene ledger request input)
    (conversing : world.driver = some ⟨request.arguments, announced⟩) :
    scene.Ensures (Runner.superviseDriver request dispatcherCallbacks)
      (DriverEnds scene ledger trace world) ledger trace world := by
  unfold Runner.superviseDriver
  refine owns.perform rfl fun closeError _ calmer owns => ?_
  have driven : Driven scene ledger trace world ledger _ _ :=
    .of_calmer owns (Extends.grow _ _) calmer
  cases closeError with
  | some error =>
    exact owns.last (Runner.stopUnidentified_observes _ _ _ _ _)
      fun _ _ _ longer calmer failed owns =>
        ⟨driven.trans (.of_calmer owns longer calmer), fun success => absurd success failed⟩
  | none =>
    refine owns.perform rfl fun attached permitted calmer owns => ?_
    have driven := driven.trans (.of_calmer owns (Extends.grow _ _) calmer)
    cases attached with
    | error error =>
      exact owns.last (Runner.stopUnidentified_observes _ _ _ _ _)
        fun _ _ _ longer calmer failed owns =>
          ⟨driven.trans (.of_calmer owns longer calmer), fun success => absurd success failed⟩
    | ok process =>
      have wellFormed : scene.assumptions.attached → WellFormed process ledger.leaseID := by
        intro attached
        rw [← launch.leased]
        exact permitted attached process rfl
      refine Ensures.next (owns.onStarted_ensures launch.open_ wellFormed) ?_
      rintro error ledger₁ trace₁ world₁ ⟨driven₁, sameDriver⟩
      have driven := driven.trans driven₁
      cases error with
      | some error => exact stopIdentified_ensures driven
      | none =>
        exact (driven.owns.converse_ensures (launch.driven driven)
          (sameDriver.trans conversing)).mono fun _ _ _ _ ends => ends.since driven

theorem abandonPreparation_ensures {leaseID : String} {grace : Nat} {error : Error}
    {start : Trace} {original : World} {first : Ledger}
    (driven : Driven scene first start original ledger trace world) :
    scene.Ensures (liftM (Runner.abandonPreparation leaseID grace error))
      (DriverEnds scene first start original) ledger trace world :=
  driven.owns.last (Runner.abandonPreparation_observes _ _ _ _ _)
    fun _ _ _ longer calmer failed owns =>
      ⟨driven.trans (.of_calmer owns longer calmer), fun success => absurd success failed⟩

theorem execDriver_ensures (owns : Owns scene ledger trace world)
    (launch : Launch scene ledger request input)
    (synced : world.store ledger.requestID = some ledger) :
    scene.Ensures (Runner.execDriver request dispatcherCallbacks)
      (DriverEnds scene ledger trace world) ledger trace world := by
  have driven := Driven.refl owns
  refine owns.perform rfl fun trustError _ calmer owns => ?_
  have driven := driven.trans (.of_calmer owns (Extends.grow _ _) calmer)
  cases trustError with
  | some error => exact Ensures.pure ⟨driven, nofun⟩
  | none =>
    refine owns.perform rfl fun logError _ calmer owns => ?_
    have driven := driven.trans (.of_calmer owns (Extends.grow _ _) calmer)
    cases logError with
    | some error => exact Ensures.pure ⟨driven, nofun⟩
    | none =>
      refine owns.perform rfl fun pipeError _ calmer owns => ?_
      have driven := driven.trans (.of_calmer owns (Extends.grow _ _) calmer)
      cases pipeError with
      | some error => exact Ensures.pure ⟨driven, nofun⟩
      | none =>
        refine owns.perform rfl fun prepareError _ calmer owns => ?_
        have driven := driven.trans (.of_calmer owns (Extends.grow _ _) calmer)
        cases prepareError with
        | some error => exact Ensures.pure ⟨driven, nofun⟩
        | none =>
          refine owns.perform rfl fun stdinError _ calmer owns => ?_
          have driven := driven.trans (.of_calmer owns (Extends.grow _ _) calmer)
          cases stdinError with
          | some error => exact abandonPreparation_ensures driven
          | none =>
            refine Ensures.bind (Ensures.perform owns.safe trivial
              (fun wanted => wanted.elim) fun startError _ => ?_)
            have grown := owns.later (Extends.grow _ ⟨.start request.arguments,
              startError⟩) (Calmer.refl _ _)
            cases startError with
            | some error =>
              exact abandonPreparation_ensures
                (driven.trans (.of_calmer grown (Extends.grow _ _) (Calmer.refl _ _)))
            | none =>
              have owns := grown.started synced launch.own launch.open_ launch.running
                launch.argumentLease
              have conversing : (world.started request.arguments).driver =
                some ⟨request.arguments, request.arguments.isolationID⟩ := by
                simp only [World.started, launch.running, World.setFootprint]
              have lease : (world.started request.arguments).lease = world.lease := by
                simp only [World.started, launch.running, World.setFootprint]
              have driven := driven.trans
                ⟨owns, rfl, rfl, id, lease, Extends.grow _ _⟩
              exact (owns.superviseDriver_ensures launch conversing).mono
                fun _ _ _ _ ends => ends.since driven

/-! ## The runner's outcome -/

/-- The driver's receipts prove that the isolation lived and is gone. -/
structure Destroyed (scene : Scene) (ledger : Ledger) (trace : Trace) (ready : IsolationReceipt)
    (destroyed : IsolationReceipt) (trace' : Trace) (world' : World) : Prop where
  isReady : validReadyReceipt ready ledger.leaseID
    scene.dispatcher.config.baseImageSHA256 = true
  named : ready.isolationID = ledger.isolationID
  isDestroyed : validDestroyedReceipt destroyed ledger.leaseID ledger.isolationID
    scene.dispatcher.config.baseImageSHA256 = true
  seen : Extends trace trace' [⟨.readReceipt, .ok ready⟩, ⟨.readReceipt, .ok destroyed⟩]
  settled : world'.IsolationSettled ledger.leaseID

theorem runOutcome_success {request : Runner.RunnerRequest} {result : Runner.DriverResult}
    (success : (Runner.runOutcome request result).2 = none) :
    result.2.2 = none ∧ ∀ ready last, result.1 = [ready, last] →
      (Runner.runOutcome request result).1.ready = ready ∧
      (Runner.runOutcome request result).1.destroyed = last ∧
      validDestroyedReceipt last request.leaseID ready.isolationID
        request.baseImageSHA256 = true := by
  rcases result with ⟨receipts, process, _ | error⟩
  · refine ⟨rfl, ?_⟩
    rintro ready last rfl
    simp only [Runner.runOutcome] at success ⊢
    split at success
    · cases success
    · rename_i accepted
      rw [if_neg accepted]
      simp only [not_or, Decidable.not_not] at accepted
      exact ⟨rfl, rfl, accepted.2.2⟩
  · cases success

theorem run_ensures {identity : Identity} {secret : List UInt8} {logDirectory : String}
    (owns : Owns scene ledger trace world) (own : ledger.requestID = scene.key)
    (open_ : ledger.isolationGone = false)
    (synced : world.store ledger.requestID = some ledger) :
    scene.Ensures (Runner.run (scene.dispatcher.runnerRequest ledger identity secret logDirectory)
        dispatcherCallbacks)
      (fun result ledger' trace' world' =>
        Driven scene ledger trace world ledger' trace' world' ∧
        (result.2 = none → Destroyed scene ledger' trace result.1.ready result.1.destroyed
          trace' world')) ledger trace world := by
  refine owns.observe (Runner.validateRunnerRequest_observes _ _ _)
    fun refused trace₁ world₁ longer calmer _ owns => ?_
  have driven : Driven scene ledger trace world ledger _ _ := .of_calmer owns longer calmer
  cases refused with
  | some error => exact Ensures.pure ⟨driven, nofun⟩
  | none =>
    refine Ensures.next (owns.execDriver_ensures
      ⟨own, open_, rfl, rfl, rfl, rfl, rfl, rfl, rfl⟩ (calmer.store ▸ synced)) ?_
    intro result ledger₂ trace₂ world₂ ends
    rcases ends.since driven with ⟨driven, lived⟩
    refine Ensures.pure ⟨driven, fun success => ?_⟩
    rcases runOutcome_success success with ⟨noError, judged⟩
    rcases lived noError with ⟨ready, last, listed, valid, named, seen, settled⟩
    rcases judged ready last listed with ⟨isReady, isLast, destroyed⟩
    have leased : ledger₂.leaseID = ledger.leaseID := congrArg Binding.leaseID driven.binding
    change validDestroyedReceipt last ledger.leaseID ready.isolationID
      scene.dispatcher.config.baseImageSHA256 = true at destroyed
    rw [← leased] at destroyed
    rw [isReady, isLast]
    exact ⟨valid, named, named ▸ destroyed, seen, settled destroyed⟩

end Owns

end Civm.JitDispatcher
