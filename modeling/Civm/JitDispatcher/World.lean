import Civm.JitDispatcher.Dispatcher
import Mathlib.Logic.Function.Basic

/-! # The world around the dispatcher

What survives a crash of the dispatcher: the state directory, the Guard marker,
and the effects at GitHub and on this machine that may still be there. A
footprint says which effects of a request may be live, not which ones are. -/

namespace Civm.JitDispatcher

/-! ## Effects -/

/-- A workflow run that may exist and not be terminal. -/
structure RunEffect where
  repository : String
  nonce : String

structure RunnerEffect where
  repository : String
  label : String
  name : String

/-- What may be live on behalf of one request. The isolation is named by its
lease. -/
structure Footprint where
  run : Option RunEffect
  runner : Option RunnerEffect
  isolation : Option String

def Footprint.empty : Footprint where
  run := none
  runner := none
  isolation := none

/-- The IDs GitHub gives to the run and to the runner of a request. -/
structure RemoteIDs where
  run : Int
  runner : Int

/-- The last driver started, and the isolation its destroyed receipt has to
name: the one of its command line, or of its ready receipt. -/
structure Conversation where
  arguments : DriverArguments
  announced : String

structure World where
  store : String → Option Ledger
  marker : Option LeaseMarker
  footprint : String → Footprint
  ids : String → RemoteIDs
  /-- The request of the invocation in progress, by its ID. -/
  current : String
  /-- The lease object the invocation in progress holds. -/
  lease : Option String
  /-- The posts GitHub has received for each request. -/
  dispatches : String → Nat
  generations : String → Nat
  clock : Nat
  driver : Option Conversation

/-! ## What answers do to the world -/

def rejected : Transport Body → Bool
  | .failed _ => false
  | .response status _ _ => 400 ≤ status && status < 500

namespace World

variable (world : World)

def saved (ledger : Ledger) : World :=
  { world with store := Function.update world.store ledger.requestID (some ledger) }

def setFootprint (footprint : Footprint) : World :=
  { world with footprint := Function.update world.footprint world.current footprint }

def dispatched (effect : RunEffect) (answer : Transport DispatchBody) : World :=
  let counted := { world with
    dispatches := Function.update world.dispatches world.current
      (world.dispatches world.current + 1) }
  if rejected answer then counted
  else counted.setFootprint { world.footprint world.current with run := some effect }

def generated (effect : RunnerEffect) (answer : Transport JITRegistration) : World :=
  let counted := { world with
    generations := Function.update world.generations world.current
      (world.generations world.current + 1) }
  if rejected answer then counted
  else counted.setFootprint { world.footprint world.current with runner := some effect }

def runCompleted (repository : String) (run : WorkflowRun) : World :=
  { world with footprint := fun key =>
      { world.footprint key with run := (world.footprint key).run.filter fun effect =>
          !(effect.repository = repository && (world.ids key).run = run.id &&
            runTitle effect.nonce = run.displayTitle) } }

def runnerAbsent (repository : String) (runnerID : Int) : World :=
  { world with footprint := fun key =>
      { world.footprint key with runner := (world.footprint key).runner.filter fun effect =>
          !(effect.repository = repository && (world.ids key).runner = runnerID) } }

def isolationDestroyed (leaseID : String) : World :=
  { world with footprint := fun key =>
      { world.footprint key with isolation := (world.footprint key).isolation.filter (· ≠ leaseID) } }

def started (arguments : DriverArguments) : World :=
  let conversing := { world with driver := some ⟨arguments, arguments.isolationID⟩ }
  match arguments.mode with
  | .recover => conversing
  | .run =>
    conversing.setFootprint
      { world.footprint world.current with isolation := some arguments.leaseID }

def received (receipt : IsolationReceipt) : World :=
  match world.driver with
  | none => world
  | some ⟨arguments, announced⟩ =>
    if validReadyReceipt receipt arguments.leaseID arguments.expectedBase then
      { world with driver := some ⟨arguments, receipt.isolationID⟩ }
    else if validDestroyedReceipt receipt arguments.leaseID announced
      arguments.expectedBase then
      world.isolationDestroyed arguments.leaseID
    else world

def released (answer : ReleaseAnswer) : World :=
  { world with lease := none, marker := if answer.remains then world.marker else none }

def acquired (leaseID : String) (answer : AcquireAnswer) : World :=
  { world with
    marker := answer.marker
    lease := if answer.error.isNone then some leaseID else world.lease }

def after : (call : Call) → call.Answer → World
  | .now, time => { world with clock := time }
  | .save ledger, answer => if answer.stored then world.saved ledger else world
  | .acquire leaseID, answer => world.acquired leaseID answer
  | .release _, answer => world.released answer
  | .releaseOrphan _, answer => world.released answer
  | .abandon _, _ => { world with lease := none }
  | .postDispatch repository _ _ inputs, answer =>
    world.dispatched ⟨repository, inputs.dispatchNonce⟩ answer
  | .postJITConfig repository identity _, answer =>
    world.generated ⟨repository, identity.label, identity.runnerName⟩ answer
  | .getRun repository _, answer =>
    match GitHub.getJSON "get run" answer with
    | .ok run => if run.status = "completed" then world.runCompleted repository run else world
    | .error _ => world
  | .getRunner repository runnerID, .response 404 _ _ => world.runnerAbsent repository runnerID
  | .start arguments, none => world.started arguments
  | .readReceipt, .ok receipt => world.received receipt
  | _, _ => world

end World

/-! ## What answers are possible -/

/-- What is assumed beyond the truthfulness of the store, the gate and GitHub. -/
structure Assumptions where
  /-- The clock never runs backwards. -/
  timely : Prop
  /-- Attached processes are well formed. -/
  attached : Prop
  /-- A recovery that names no isolation is answered with a safe opaque ID. -/
  safelyNamed : Prop
  /-- No save of a stale ledger fails to reach the disk. -/
  staleSaved : Prop

def Assumptions.none : Assumptions where
  timely := False
  attached := False
  safelyNamed := False
  staleSaved := False

/-- What keeps every ledger valid. -/
def Assumptions.orderly (assumptions : Assumptions) : Prop :=
  assumptions.timely ∧ assumptions.attached ∧ assumptions.safelyNamed

/-- What `Attach` establishes of the process it returns. -/
structure WellFormed (process : ProcessIdentity) (leaseID : String) : Prop where
  pid : process.pid > 1
  group : process.processGroup = process.pid
  ticks : process.startTicks ≠ 0
  absolute : Text.isAbs process.cgroupPath = true
  clean : Text.clean process.cgroupPath = process.cgroupPath
  base : Text.base process.cgroupPath = "civm-jit-" ++ leaseID

/-- A recovery started without an isolation ID that receives a destroyed
receipt receives one with a safe opaque ID. -/
def SafelyNamed (driver : Option Conversation) (receipt : IsolationReceipt) : Prop :=
  ∀ conversation, driver = some conversation → conversation.arguments.mode = .recover →
    conversation.arguments.isolationID = "" →
    validDestroyedReceipt receipt conversation.arguments.leaseID ""
      conversation.arguments.expectedBase = true →
    safeOpaqueID receipt.isolationID = true

namespace World

variable (assumptions : Assumptions) (world : World)

/-- A listed runner with the name and the label of a live one is that one. -/
def ListsTruly (repository : String) (page : RunnersPage) : Prop :=
  ∀ key effect, (world.footprint key).runner = some effect → effect.repository = repository →
    ∀ runner ∈ page.runners, runner.name = effect.name →
      runnerHasLabel runner effect.label = true → runner.id = (world.ids key).runner

def permits : (call : Call) → call.Answer → Prop
  | .now, time => assumptions.timely → world.clock ≤ time ∧ time ≠ 0
  | .random, answer => ∀ value, answer = .ok value → value.length = 32
  | .list, answer => ∀ ledgers, answer = .ok ledgers →
    ledgers.Nodup ∧ ∀ ledger, ledger ∈ ledgers ↔ world.store ledger.requestID = some ledger
  | .load requestID, answer => ∀ found, answer = .ok found → found = world.store requestID
  | .save ledger, answer =>
    (∀ error, validateLedger ledger ledger.requestID = some error →
      answer = ⟨some error, false⟩) ∧
    (answer.error = none → answer.stored = true) ∧
    (assumptions.staleSaved → ledger.status = .stale → answer.stored = true)
  | .acquire leaseID, answer =>
    (answer.marker = world.marker ∨ world.marker = none ∧
      ∃ marker, answer.marker = some marker ∧ marker.leaseID = leaseID) ∧
    (answer.error = none → ∃ marker, answer.marker = some marker ∧ marker.leaseID = leaseID)
  | .orphan, answer => ∀ marker, answer = .ok marker → marker = world.marker
  | .release _, answer => answer.error = none → answer.remains = false
  | .releaseOrphan _, answer => answer.error = none → answer.remains = false
  | .postDispatch _ _ _ _, answer =>
    ∀ id, GitHub.dispatchReceipt answer = .ok id → id = (world.ids world.current).run
  | .postJITConfig _ identity _, answer =>
    ∀ registration, GitHub.jitRegistration identity answer = .ok registration →
      registration.runner.id = (world.ids world.current).runner
  | .listRunners repository _, answer =>
    ∀ page, GitHub.getJSON "list runners" answer = .ok page → world.ListsTruly repository page
  | .attach leaseID, answer => assumptions.attached →
    ∀ process, answer = .ok process → WellFormed process leaseID
  | .readReceipt, answer => assumptions.safelyNamed →
    ∀ receipt, answer = .ok receipt → SafelyNamed world.driver receipt
  | _, _ => True

end World

def outside (assumptions : Assumptions) : Outside Call.Answer World where
  permits := World.permits assumptions
  after := World.after

/-! ## Calls that only observe -/

/-- Between the two worlds nothing was stored, acquired, released or brought to
life; effects may have been seen to be gone. -/
structure Calmer (assumptions : Assumptions) (before after : World) : Prop where
  store : after.store = before.store
  marker : after.marker = before.marker
  ids : after.ids = before.ids
  current : after.current = before.current
  lease : after.lease = before.lease
  dispatches : after.dispatches = before.dispatches
  generations : after.generations = before.generations
  clock : assumptions.timely → before.clock ≤ after.clock
  run : ∀ key effect, (after.footprint key).run = some effect →
    (before.footprint key).run = some effect
  runner : ∀ key effect, (after.footprint key).runner = some effect →
    (before.footprint key).runner = some effect
  isolation : ∀ key lease, (after.footprint key).isolation = some lease →
    (before.footprint key).isolation = some lease

namespace Calmer

variable {assumptions : Assumptions} {before middle after : World}

theorem refl (assumptions : Assumptions) (world : World) : Calmer assumptions world world :=
  ⟨rfl, rfl, rfl, rfl, rfl, rfl, rfl, fun _ => Nat.le_refl _, fun _ _ live => live,
    fun _ _ live => live, fun _ _ live => live⟩

theorem trans (first : Calmer assumptions before middle)
    (second : Calmer assumptions middle after) : Calmer assumptions before after where
  store := second.store.trans first.store
  marker := second.marker.trans first.marker
  ids := second.ids.trans first.ids
  current := second.current.trans first.current
  lease := second.lease.trans first.lease
  dispatches := second.dispatches.trans first.dispatches
  generations := second.generations.trans first.generations
  clock := fun timely => Nat.le_trans (first.clock timely) (second.clock timely)
  run := fun key effect live => first.run key effect (second.run key effect live)
  runner := fun key effect live => first.runner key effect (second.runner key effect live)
  isolation := fun key lease live => first.isolation key lease (second.isolation key lease live)

end Calmer

/-- The calls that leave everything but observations as it is. Writing the
driver's input is one of its own kind. -/
def Call.calm : Call → Bool
  | .save _ | .acquire _ | .release _ | .releaseOrphan _ | .abandon _ => false
  | .postDispatch _ _ _ _ | .postJITConfig _ _ _ | .writeInput _ => false
  | .start arguments => arguments.mode = .recover
  | _ => true

theorem World.calmer_runCompleted (assumptions : Assumptions) (world : World)
    (repository : String) (run : WorkflowRun) :
    Calmer assumptions world (world.runCompleted repository run) where
  __ := Calmer.refl assumptions world
  run := fun _ _ live => (Option.filter_eq_some_iff.mp live).1

theorem World.calmer_runnerAbsent (assumptions : Assumptions) (world : World)
    (repository : String) (runnerID : Int) :
    Calmer assumptions world (world.runnerAbsent repository runnerID) where
  __ := Calmer.refl assumptions world
  runner := fun _ _ live => (Option.filter_eq_some_iff.mp live).1

theorem World.calmer_received (assumptions : Assumptions) (world : World)
    (receipt : IsolationReceipt) : Calmer assumptions world (world.received receipt) := by
  unfold World.received
  split
  · exact Calmer.refl assumptions world
  · split
    · exact { Calmer.refl assumptions world with }
    · split
      · exact { Calmer.refl assumptions world with
          isolation := fun _ _ live => (Option.filter_eq_some_iff.mp live).1 }
      · exact Calmer.refl assumptions world

theorem World.calmer_after {assumptions : Assumptions} {world : World} {call : Call}
    {answer : call.Answer} (calm : call.calm = true)
    (permitted : world.permits assumptions call answer) :
    Calmer assumptions world (world.after call answer) := by
  cases call with
  | now => exact { Calmer.refl assumptions world with clock := fun timely => (permitted timely).1 }
  | getRun repository runID =>
    simp only [World.after]
    split
    · split
      · exact world.calmer_runCompleted assumptions repository _
      · exact Calmer.refl assumptions world
    · exact Calmer.refl assumptions world
  | getRunner repository runnerID =>
    unfold World.after
    split <;> first
      | exact world.calmer_runnerAbsent assumptions _ _
      | exact Calmer.refl assumptions world
      | simp_all
  | start arguments =>
    cases answer with
    | some error => exact Calmer.refl assumptions world
    | none =>
      have recovering : arguments.mode = .recover := of_decide_eq_true calm
      simp only [World.after, World.started, recovering]
      exact { Calmer.refl assumptions world with }
  | readReceipt =>
    cases answer with
    | error error => exact Calmer.refl assumptions world
    | ok receipt => exact world.calmer_received assumptions receipt
  | save | acquire | release | releaseOrphan | abandon | postDispatch | postJITConfig
  | writeInput => cases calm
  | _ => exact Calmer.refl assumptions world

/-! ## Histories of invocations -/

/-- One run of `Dispatch`, up to its end or to its death. -/
structure Invocation where
  dispatcher : Dispatcher
  request : Request
  trace : Trace

/-- The world in which an invocation starts: the machine lock is its own. -/
def World.serving (world : World) (request : Request) : World :=
  { world with current := requestIDOf request, lease := none }

/-- A new state directory, and nothing at work for it. -/
structure World.Untouched (world : World) : Prop where
  store : ∀ key, world.store key = none
  marker : world.marker = none
  footprint : ∀ key, world.footprint key = Footprint.empty
  dispatches : ∀ key, world.dispatches key = 0
  generations : ∀ key, world.generations key = 0

/-- Invocations one after the other from a world, as the machine lock makes
them. Each of them may die between any two of its calls. -/
inductive History (assumptions : Assumptions) : World → List Invocation → World → Prop
  | start {world} : History assumptions world [] world
  | invoke {world between world' past} {dispatcher : Dispatcher} {request trace result} :
    History assumptions world past between →
    Execution (outside assumptions) (dispatcher.dispatch request) []
      (between.serving request) trace world' result →
    History assumptions world (past ++ [⟨dispatcher, request, trace⟩]) world'

end Civm.JitDispatcher
