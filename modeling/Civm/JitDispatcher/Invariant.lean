import Civm.JitDispatcher.Evidence

/-! # The invariant of the dispatcher

What holds at every moment of every invocation, and what holds besides while
the dispatcher works on the ledger it owns. -/

namespace Civm.JitDispatcher

/-! ## Ledgers -/

/-- The fields of a ledger that are set when it is created. -/
structure Binding where
  version : Int
  requestID : String
  repository : String
  candidateRef : String
  candidateSHA : String
  trustedSHA : String
  workflow : String
  workflowSHA256 : String
  identity : Identity
  leaseID : String
  createdAt : Nat

def Ledger.binding (ledger : Ledger) : Binding where
  version := ledger.version
  requestID := ledger.requestID
  repository := ledger.repository
  candidateRef := ledger.candidateRef
  candidateSHA := ledger.candidateSHA
  trustedSHA := ledger.trustedSHA
  workflow := ledger.workflow
  workflowSHA256 := ledger.workflowSHA256
  identity := ledger.identity
  leaseID := ledger.leaseID
  createdAt := ledger.createdAt

/-- The ledger under-reports no effect that may be live in the world, and it
was filled in the order in which the effects arise. -/
structure Faithful (assumptions : Assumptions) (world : World) (ledger : Ledger) : Prop where
  run : ∀ effect, (world.footprint ledger.requestID).run = some effect →
    ledger.runTerminal = false ∧ effect = ⟨ledger.repository, ledger.nonce⟩ ∧
    (ledger.runID ≠ 0 → ledger.runID = (world.ids ledger.requestID).run)
  runner : ∀ effect, (world.footprint ledger.requestID).runner = some effect →
    ledger.runnerGone = false ∧
    effect = ⟨ledger.repository, ledger.runnerLabel, ledger.runnerName⟩ ∧
    (ledger.runnerID ≠ 0 → ledger.runnerID = (world.ids ledger.requestID).runner)
  isolation : ∀ lease, (world.footprint ledger.requestID).isolation = some lease →
    ledger.isolationGone = false ∧ lease = ledger.leaseID
  jobBound : ledger.runnerGone = false → ledger.jobID ≠ 0
  runnerBound : ledger.isolationGone = false → ledger.runnerID ≠ 0
  valid : assumptions.orderly → ValidLedger ledger ledger.requestID
  timely : assumptions.timely → ledger.updatedAt ≤ world.clock

theorem Faithful.later {assumptions : Assumptions} {world world' : World} {ledger : Ledger}
    (faithful : Faithful assumptions world ledger) (calmer : Calmer assumptions world world') :
    Faithful assumptions world' ledger where
  run := by
    intro effect live
    rw [calmer.ids]
    exact faithful.run effect (calmer.run _ _ live)
  runner := by
    intro effect live
    rw [calmer.ids]
    exact faithful.runner effect (calmer.runner _ _ live)
  isolation := fun lease live => faithful.isolation lease (calmer.isolation _ _ live)
  jobBound := faithful.jobBound
  runnerBound := faithful.runnerBound
  valid := faithful.valid
  timely := fun timely => Nat.le_trans (faithful.timely timely) (calmer.clock timely)

/-! ## The invariant across invocations -/

/-- The invocation created ledgers with this binding. -/
def Invocation.Creates (invocation : Invocation) (binding : Binding) : Prop :=
  ∃ policy trustedSHA identity now,
    invocation.dispatcher.config.policy invocation.request.repository = some policy ∧
    binding = (Dispatcher.newLedger invocation.request policy trustedSHA identity now).binding

/-- The invocation collected the evidence for completing the ledger. -/
def Invocation.Proves (invocation : Invocation) (ledger : Ledger) : Prop :=
  ledger.requestID = requestIDOf invocation.request ∧
  ∃ policy, invocation.dispatcher.config.policy invocation.request.repository = some policy ∧
    Collected (Setting.Revalidated ⟨invocation.dispatcher.config, invocation.request, policy⟩
      ledger) invocation.trace

/-- The state directory, the marker and the footprints agree. -/
structure Sound (assumptions : Assumptions) (invocations : List Invocation) (world : World) :
    Prop where
  valid : ∀ key ledger, world.store key = some ledger → ValidLedger ledger key
  faithful : ∀ key ledger, world.store key = some ledger → Faithful assumptions world ledger
  untouched : ∀ key, world.store key = none → world.footprint key = Footprint.empty ∧
    world.dispatches key = 0 ∧ world.generations key = 0
  once : ∀ key, world.dispatches key ≤ 1 ∧ world.generations key ≤ 1
  single : ∀ key key' ledger ledger', world.store key = some ledger →
    world.store key' = some ledger' → ledger.cleanupComplete = false →
    ledger'.cleanupComplete = false → key = key'
  owned : ∀ marker, world.marker = some marker →
    ∃ key ledger, world.store key = some ledger ∧ ledger.leaseID = marker.leaseID
  held : ∀ marker key ledger, world.marker = some marker → world.store key = some ledger →
    ledger.cleanupComplete = false → ledger.leaseID = marker.leaseID
  created : ∀ key ledger, world.store key = some ledger →
    ∃ invocation ∈ invocations, invocation.Creates ledger.binding
  proven : ∀ key ledger, world.store key = some ledger → ledger.status = .completed →
    ∃ invocation ∈ invocations, invocation.Proves ledger

theorem Sound.untouched_world {assumptions : Assumptions} {world : World}
    (fresh : world.Untouched) : Sound assumptions [] world := by
  have absent : ∀ {key ledger}, world.store key ≠ some ledger := by
    intro key ledger found
    rw [fresh.store key] at found
    cases found
  exact {
    valid := fun _ _ found => absurd found absent
    faithful := fun _ _ found => absurd found absent
    untouched := fun key _ => ⟨fresh.footprint key, fresh.dispatches key, fresh.generations key⟩
    once := by
      intro key
      rw [fresh.dispatches key, fresh.generations key]
      exact ⟨Nat.zero_le 1, Nat.zero_le 1⟩
    single := fun _ _ _ _ found => absurd found absent
    owned := by
      intro marker found
      rw [fresh.marker] at found
      cases found
    held := fun _ _ _ _ found => absurd found absent
    created := fun _ _ found => absurd found absent
    proven := fun _ _ found => absurd found absent }

/-! ## The invariant within an invocation -/

/-- An invocation in progress: what it was called with, what came before, and
the world it started in. -/
structure Scene where
  assumptions : Assumptions
  past : List Invocation
  dispatcher : Dispatcher
  request : Request
  start : World

def Scene.invocations (scene : Scene) (trace : Trace) : List Invocation :=
  scene.past ++ [⟨scene.dispatcher, scene.request, trace⟩]

def Scene.key (scene : Scene) : String := requestIDOf scene.request

structure Safe (scene : Scene) (trace : Trace) (world : World) : Prop where
  sound : Sound scene.assumptions (scene.invocations trace) world
  current : world.current = scene.key
  frozen : ∀ key ledger, scene.start.store key = some ledger →
    ∃ ledger', world.store key = some ledger' ∧ ledger'.binding = ledger.binding

/-- The lease is that of a stored ledger, and every such ledger is complete. -/
def World.Settled (world : World) (leaseID : String) : Prop :=
  (∃ key ledger, world.store key = some ledger ∧ ledger.leaseID = leaseID) ∧
  ∀ key ledger, world.store key = some ledger → ledger.leaseID = leaseID →
    ledger.cleanupComplete = true

/-- The driver that is handed the JIT configuration has proved its isolation
ready, and the durable ledger says so. -/
def Entrusted (baseSHA256 : String) (trace : Trace) (world : World) (input : DriverInput) :
    Prop :=
  ∃ receipt ledger, ⟨.readReceipt, .ok receipt⟩ ∈ trace ∧
    validReadyReceipt receipt input.leaseID baseSHA256 = true ∧
    world.store world.current = some ledger ∧ ledger.leaseID = input.leaseID ∧
    ledger.isolationID = receipt.isolationID ∧ ledger.isolationGone = false

def Allowed (scene : Scene) (trace : Trace) (world : World) : Call → Prop
  | .save ledger => scene.assumptions.orderly →
    validateLedger ledger ledger.requestID = none
  | .release leaseID => scene.assumptions.staleSaved → world.Settled leaseID
  | .releaseOrphan marker => scene.assumptions.staleSaved → world.Settled marker.leaseID
  | .writeInput input =>
    Entrusted scene.dispatcher.config.baseImageSHA256 trace world input
  | _ => True

/-- What every invocation is held to. -/
def contract (scene : Scene) : Contract Call.Answer World where
  keeps := Safe scene
  allows := Allowed scene
  progress := False

theorem Scene.recorded {scene : Scene} {trace trace' : Trace} {property : Invocation → Prop}
    (stable : property ⟨scene.dispatcher, scene.request, trace⟩ →
      property ⟨scene.dispatcher, scene.request, trace'⟩)
    (recorded : ∃ invocation ∈ scene.invocations trace, property invocation) :
    ∃ invocation ∈ scene.invocations trace', property invocation := by
  rcases recorded with ⟨invocation, member, holds⟩
  rcases List.mem_append.mp member with earlier | last
  · exact ⟨invocation, List.mem_append_left _ earlier, holds⟩
  · rw [List.mem_singleton.mp last] at holds
    exact ⟨_, List.mem_append_right _ (List.mem_singleton_self _), stable holds⟩

namespace Safe

variable {scene : Scene} {trace trace' : Trace} {world world' : World}

theorem later (safe : Safe scene trace world) (longer : Extends trace trace' [])
    (calmer : Calmer scene.assumptions world world') : Safe scene trace' world' := by
  have sound := safe.sound
  refine ⟨?_, calmer.current.trans safe.current, ?_⟩
  · constructor
    case valid => rw [calmer.store]; exact sound.valid
    case faithful =>
      rw [calmer.store]
      exact fun key ledger found => (sound.faithful key ledger found).later calmer
    case untouched =>
      rw [calmer.store, calmer.dispatches, calmer.generations]
      intro key absent
      rcases sound.untouched key absent with ⟨empty, counts⟩
      refine ⟨?_, counts⟩
      have run := calmer.run key
      have runner := calmer.runner key
      have isolation := calmer.isolation key
      rw [empty] at run runner isolation
      cases footprint : world'.footprint key with
      | mk run' runner' isolation' =>
        rw [footprint] at run runner isolation
        cases run' <;> cases runner' <;> cases isolation' <;>
          simp_all [Footprint.empty]
    case once => rw [calmer.dispatches, calmer.generations]; exact sound.once
    case single => rw [calmer.store]; exact sound.single
    case owned => rw [calmer.store, calmer.marker]; exact sound.owned
    case held => rw [calmer.store, calmer.marker]; exact sound.held
    case created =>
      rw [calmer.store]
      intro key ledger found
      refine Scene.recorded ?_ (sound.created key ledger found)
      exact fun creates => creates
    case proven =>
      rw [calmer.store]
      intro key ledger found completed
      refine Scene.recorded ?_ (sound.proven key ledger found completed)
      rintro ⟨named, policy, allowlisted, collected⟩
      exact ⟨named, policy, allowlisted, collected.still longer⟩
  · rw [calmer.store]
    exact safe.frozen

theorem steady (safe : Safe scene trace world) :
    Steady scene.assumptions (contract scene) trace world where
  keeps := fun _ _ => safe.later
  allows := by
    intro trace' world' call _ _ calm
    cases call <;> trivial
  progress := id

end Safe

end Civm.JitDispatcher
