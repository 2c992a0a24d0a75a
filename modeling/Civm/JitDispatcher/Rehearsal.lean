import Civm.Foundation.Play
import Civm.JitDispatcher.Histories

/-! # Rehearsals

An obliging outside answers every call in the way that carries a dispatch
forward. Invocations that are played against it, for as long as one likes, make
up histories like any other. -/

namespace Civm.JitDispatcher

/-! ## An obliging outside -/

/-- What an obliging outside leaves open. -/
structure Script where
  policy : RepositoryPolicy
  baseSHA256 : String
  workflow : List UInt8
  saves : Ledger → SaveAnswer
  /-- The commit that refs point to. -/
  head : Trace → String
  /-- The isolation that a recovery reports when it was given none. -/
  found : String

namespace Script

variable (script : Script)

def identity : Identity := newIdentity (List.replicate 32 0)

def marker (leaseID : String) : LeaseMarker where
  version := 1
  leaseID := leaseID
  admissionID := "admission"
  holderPID := 7
  startTicks := 7

def process (leaseID : String) : ProcessIdentity where
  pid := 7
  startTicks := 7
  processGroup := 7
  cgroupPath := "/sys/fs/cgroup/civm-jit-" ++ leaseID

def served (trace : Trace) : Bool := trace.any fun event =>
  match event.call with
  | .writeInput _ => true
  | _ => false

def run (trace : Trace) (runID : Int) : WorkflowRun where
  id := runID
  event := "workflow_dispatch"
  headSHA := script.head []
  displayTitle := runTitle identity.nonce
  path := expectedPath script.policy
  status := if served trace then "completed" else "queued"
  conclusion := if served trace then "success" else ""

def job (trace : Trace) (ids : RemoteIDs) : WorkflowJob where
  id := 5
  runID := ids.run
  name := script.policy.jobName
  status := if served trace then "completed" else "queued"
  conclusion := if served trace then "success" else ""
  labels := [identity.label]
  runnerID := if served trace then ids.runner else 0
  runnerName := if served trace then identity.runnerName else ""
  runnerGroupID := if served trace then script.policy.runnerGroupID else 0

def runner (identity : Identity) (runnerID : Int) : RemoteRunner where
  id := runnerID
  name := identity.runnerName
  status := "offline"
  busy := false
  labels := [⟨identity.label, "custom"⟩]

def receipt (leaseID isolationID : String) (destroyed : Bool) : IsolationReceipt where
  protocol := 1
  event := if destroyed then "destroyed" else "ready"
  leaseID := leaseID
  isolationID := isolationID
  baseSHA256 := script.baseSHA256
  disposable := true
  hostMounts := false
  hostDocker := false
  productSecrets := false
  destroyed := destroyed
  resetVerified := destroyed

/-- A running driver proves its isolation ready and then destroyed, a recovering
one destroyed. -/
def nextReceipt : Option Conversation → Except Error IsolationReceipt
  | none => .error (.text "no driver was started")
  | some ⟨arguments, announced⟩ =>
    match arguments.mode with
    | .run =>
      if announced = "" then .ok (script.receipt arguments.leaseID "isolation-0000001" false)
      else .ok (script.receipt arguments.leaseID announced true)
    | .recover =>
      if arguments.isolationID = "" then .ok (script.receipt arguments.leaseID script.found true)
      else .ok (script.receipt arguments.leaseID arguments.isolationID true)

def attached (leaseID : String) : Except Error ProcessIdentity :=
  if Text.clean (process leaseID).cgroupPath = (process leaseID).cgroupPath ∧
    Text.base (process leaseID).cgroupPath = "civm-jit-" ++ leaseID then
    .ok (process leaseID)
  else .error (.text "lease ID is unsafe")

def answer (key : String) (trace : Trace) (world : World) : (call : Call) → call.Answer
  | .now => world.clock + 1
  | .info _ | .closeQueue => ()
  | .observationExpired => false
  | .random => .ok (List.replicate 32 0)
  | .list => .ok (world.store key).toList
  | .load requestID => .ok (world.store requestID)
  | .save ledger => script.saves ledger
  | .requestLogDir _ => .ok "/var/lib/civm/logs"
  | .acquire leaseID =>
    match world.marker with
    | none => ⟨none, some (marker leaseID)⟩
    | some held => ⟨some (.sentinel .busy), some held⟩
  | .orphan => .ok world.marker
  | .releaseOrphan _ | .release _ => ⟨none, false⟩
  | .getRepository _ =>
    .response 200 "" (some (Text.trimPrefix script.policy.trustedRef "refs/heads/"))
  | .getRef _ _ => .response 200 "" (some (script.head trace))
  | .getContents _ _ sha => .response 200 "" (some ⟨"base64", sha, some script.workflow⟩)
  | .listRunners _ _ => .response 200 "" (some ⟨0, []⟩)
  | .postDispatch _ _ _ _ => .response 200 "" (some ⟨(world.ids world.current).run, true⟩)
  | .getRun _ runID => .response 200 "" (some (script.run trace runID))
  | .listJobs _ _ _ => .response 200 "" (some ⟨1, [script.job trace (world.ids world.current)]⟩)
  | .getJob _ _ => .response 200 "" (some (script.job trace (world.ids world.current)))
  | .postJITConfig _ identity _ =>
    .response 201 "" (some
      ⟨List.replicate 16 65, runner identity (world.ids world.current).runner⟩)
  | .getRunner _ _ => .response 404 "" none
  | .deleteRunner _ _ => .response 204 "" none
  | .postCancel _ _ => .response 202 "" none
  | .attach leaseID => attached leaseID
  | .readReceipt => script.nextReceipt world.driver
  | .awaitDriver | .awaitExit => .exited .clean
  | .runnerPreflight | .gatePreflight | .acquireQueue | .sleep | .abandon _
  | .trustedExecutable _ _ | .logDirectory _ | .openLog _ _ | .pipe | .prepare _
  | .stdinPipe | .start _ | .closePreparation | .writeInput _ | .closeInput
  | .signalGroup _ | .terminate _ _ | .recover _ _ _ | .flushLogs => none

/-- The script saves as the store may, and names isolations as it has to. -/
structure Legal (assumptions : Assumptions) : Prop where
  saves : ∀ world ledger,
    (assumptions.orderly → validateLedger ledger ledger.requestID = none) →
    World.permits assumptions world (.save ledger) (script.saves ledger)
  found : assumptions.safelyNamed → safeOpaqueID script.found = true

end Script

/-! ## Its answers are permitted -/

theorem Script.wellFormed_attached {leaseID : String} {process : ProcessIdentity}
    (found : Script.attached leaseID = .ok process) : WellFormed process leaseID := by
  unfold Script.attached at found
  split at found
  · rename_i safe
    cases found
    exact ⟨by simp [Script.process], rfl, by simp [Script.process],
      by simp [Text.isAbs, Script.process], safe.1, safe.2⟩
  · cases found

section

variable {scene : Scene} {trace : Trace} {world : World} {script : Script}

theorem Safe.lists_only (safe : Safe scene trace world)
    (alone : ∀ invocation ∈ scene.past, invocation.request = scene.request) :
    world.permits scene.assumptions .list (.ok (world.store scene.key).toList) := by
  rintro ledgers equal
  cases equal
  have named : ∀ key ledger, world.store key = some ledger → key = scene.key := by
    intro key ledger stored
    rcases safe.sound.created key ledger stored with
      ⟨invocation, member, policy, trustedSHA, identity, now, _, binding⟩
    have request : invocation.request = scene.request := by
      rcases List.mem_append.mp member with earlier | last
      · exact alone invocation earlier
      · rw [List.mem_singleton.mp last]
    have bound : ledger.requestID = requestIDOf invocation.request :=
      congrArg Binding.requestID binding
    rw [← (safe.sound.valid key ledger stored).named, bound, request]
    rfl
  refine ⟨?_, fun ledger => ?_⟩
  · cases world.store scene.key <;> simp
  · rw [Option.mem_toList]
    constructor
    · intro stored
      rw [(safe.sound.valid _ ledger stored).named]
      exact stored
    · intro stored
      rw [← named _ ledger stored]
      exact stored

theorem Script.answer_permitted (scene : Scene) (legal : script.Legal scene.assumptions)
    (alone : ∀ invocation ∈ scene.past, invocation.request = scene.request) {call : Call}
    (safe : Safe scene trace world) (allowed : Allowed scene trace world call) :
    world.permits scene.assumptions call (script.answer scene.key trace world call) := by
  cases call with
  | now => exact fun _ => ⟨Nat.le_succ _, Nat.succ_ne_zero _⟩
  | random =>
    rintro value equal
    cases equal
    exact List.length_replicate
  | list => exact safe.lists_only alone
  | load requestID =>
    rintro found equal
    cases equal
    rfl
  | save ledger => exact legal.saves world ledger allowed
  | acquire leaseID =>
    cases held : world.marker with
    | none =>
      simp only [Script.answer, held]
      exact ⟨.inr ⟨held, _, rfl, rfl⟩, fun _ => ⟨_, rfl, rfl⟩⟩
    | some marker =>
      simp only [Script.answer, held]
      exact ⟨.inl held.symm, fun admitted => by cases admitted⟩
  | orphan =>
    rintro marker equal
    cases equal
    rfl
  | release | releaseOrphan => exact fun _ => rfl
  | postDispatch repository workflow trustedRef inputs =>
    intro runID acknowledged
    simp only [Script.answer, GitHub.dispatchReceipt, ne_eq, not_true_eq_false, if_false] at acknowledged
    split at acknowledged
    · cases acknowledged
    · exact (Except.ok.inj acknowledged).symm
  | postJITConfig repository identity runnerGroupID =>
    intro registration registered
    simp only [Script.answer, GitHub.jitRegistration, ne_eq, not_true_eq_false, if_false] at registered
    split at registered
    · cases registered
    · split at registered
      · cases registered
      · rw [← Except.ok.inj registered]
        rfl
  | listRunners repository page =>
    intro listing listed
    cases listed
    exact fun _ _ _ _ _ member => absurd member List.not_mem_nil
  | attach leaseID => exact fun _ process found => Script.wellFormed_attached found
  | readReceipt =>
    intro assumed receipt read conversation driver recovering unnamed _
    simp only [Script.answer, driver, Script.nextReceipt, recovering, unnamed, if_true] at read
    rw [← Except.ok.inj read]
    exact legal.found assumed
  | _ => trivial

end

/-! ## Played invocations -/

def Script.play (script : Script) (dispatcher : Dispatcher) (request : Request) (calls : Nat)
    (world : World) : Trace × World × Action (Result × Option Error) :=
  (dispatcher.dispatch request).play World.after (script.answer (requestIDOf request)) calls []
    (world.serving request)

theorem History.plays {assumptions : Assumptions} {start world : World} {past : List Invocation}
    {script : Script} {request : Request} (history : History assumptions start past world)
    (fresh : start.Untouched) (legal : script.Legal assumptions)
    (alone : ∀ invocation ∈ past, invocation.request = request) (dispatcher : Dispatcher)
    (calls : Nat) :
    Execution (outside assumptions) (dispatcher.dispatch request) [] (world.serving request)
        (script.play dispatcher request calls world).1
        (script.play dispatcher request calls world).2.1
        (script.play dispatcher request calls world).2.2.value? ∧
      ∀ call, (script.play dispatcher request calls world).2.2.asks? = some call →
        Reaches (outside assumptions) (dispatcher.dispatch request) [] (world.serving request)
          (script.play dispatcher request calls world).1
          (script.play dispatcher request calls world).2.1 call := by
  have satisfies := (history.sound fresh).dispatch_satisfies dispatcher request
  have permitted : ∀ trace world' call,
    Safe (world.scene assumptions past dispatcher request) trace world' →
    Allowed (world.scene assumptions past dispatcher request) trace world' call →
    world'.permits assumptions call (script.answer (requestIDOf request) trace world' call) :=
    fun _ _ _ => Script.answer_permitted (world.scene assumptions past dispatcher request) legal
      alone
  exact satisfies.play (script.answer (requestIDOf request)) calls permitted

theorem History.rehearse {assumptions : Assumptions} {start world : World}
    {past : List Invocation} {script : Script} {request : Request}
    (history : History assumptions start past world) (fresh : start.Untouched)
    (legal : script.Legal assumptions)
    (alone : ∀ invocation ∈ past, invocation.request = request) (dispatcher : Dispatcher)
    (calls : Nat) :
    History assumptions start
      (past ++ [⟨dispatcher, request, (script.play dispatcher request calls world).1⟩])
      (script.play dispatcher request calls world).2.1 :=
  .invoke history (history.plays fresh legal alone dispatcher calls).1

/-! ## Dropping assumptions -/

structure Assumptions.Weaker (weaker stronger : Assumptions) : Prop where
  timely : weaker.timely → stronger.timely
  attached : weaker.attached → stronger.attached
  safelyNamed : weaker.safelyNamed → stronger.safelyNamed
  staleSaved : weaker.staleSaved → stronger.staleSaved

theorem World.permits_weaken {weaker stronger : Assumptions} (implied : weaker.Weaker stronger)
    (world : World) (call : Call) (answer : call.Answer)
    (permitted : world.permits stronger call answer) : world.permits weaker call answer := by
  cases call with
  | now => exact fun assumed => permitted (implied.timely assumed)
  | save ledger => exact ⟨permitted.1, permitted.2.1, fun assumed =>
    permitted.2.2 (implied.staleSaved assumed)⟩
  | attach leaseID => exact fun assumed => permitted (implied.attached assumed)
  | readReceipt => exact fun assumed => permitted (implied.safelyNamed assumed)
  | _ => exact permitted

theorem History.weaken {weaker stronger : Assumptions} (implied : weaker.Weaker stronger)
    {start world : World} {past : List Invocation} (history : History stronger start past world) :
    History weaker start past world := by
  induction history with
  | start => exact .start
  | invoke _ execution induction =>
    refine .invoke induction (Execution.weaken ?_ (World.permits_weaken implied) execution)
    rfl

def Assumptions.strict : Assumptions where
  timely := True
  attached := True
  safelyNamed := True
  staleSaved := True

theorem Assumptions.weaker_strict (assumptions : Assumptions) :
    assumptions.Weaker Assumptions.strict :=
  ⟨fun _ => trivial, fun _ => trivial, fun _ => trivial, fun _ => trivial⟩

theorem Assumptions.none_weaker (assumptions : Assumptions) :
    Assumptions.none.Weaker assumptions :=
  ⟨False.elim, False.elim, False.elim, False.elim⟩

/-! ## A sample -/

namespace Sample

def digest : String := "4bf5122f344554c53bde2ebb8cd2b7e3d1600ad631c385a5d7cce23c7785459a"

def commit : String := "0123456789abcdef0123456789abcdef01234567"

def policy : RepositoryPolicy where
  repository := "owner/repo"
  trustedRef := "refs/heads/main"
  workflow := ".github/workflows/jit.yml"
  workflowSHA256 := digest
  candidateRefs := ["refs/heads/topic"]
  runnerGroupID := 1
  jobName := "trusted-jit"

def config : Config where
  guardExecutable := "/usr/bin/civm-guard"
  isolationDriver := "/usr/bin/civm-jit-isolation"
  driverSHA256 := digest
  baseImageSHA256 := digest
  runnerDirectory := "/opt/runner"
  shutdownGrace := 1000000000
  repositories := [policy]
  driverDigest := by decide
  baseDigest := by decide
  graceBounds := by decide
  policiesValid := by
    intro policy member
    rw [List.mem_singleton.mp member]
    decide
  policiesDistinct := by decide

def dispatcher : Dispatcher := ⟨config, 3⟩

def request : Request where
  repository := "owner/repo"
  candidateRef := "refs/heads/topic"
  candidateSHA := commit
  idempotency := "0123456789abcdef"

def start : World where
  store := fun _ => none
  marker := none
  footprint := fun _ => Footprint.empty
  ids := fun _ => ⟨3, 4⟩
  current := ""
  lease := none
  dispatches := fun _ => 0
  generations := fun _ => 0
  clock := 0
  driver := none

theorem start_untouched : start.Untouched :=
  ⟨fun _ => rfl, rfl, fun _ => rfl, fun _ => rfl, fun _ => rfl⟩

def script : Script where
  policy := policy
  baseSHA256 := digest
  workflow := [1]
  saves := fun _ => ⟨none, true⟩
  head := fun _ => commit
  found := "isolation-0000002"

theorem script_legal : script.Legal Assumptions.strict where
  saves := by
    intro world ledger valid
    have valid := valid ⟨trivial, trivial, trivial⟩
    exact ⟨fun error refused => (nomatch valid.symm.trans refused), fun _ => rfl, fun _ _ => rfl⟩
  found := fun _ => by decide

def played (calls : Nat) : Trace × World × Action (Result × Option Error) :=
  script.play dispatcher request calls start

theorem history (assumptions : Assumptions) (calls : Nat) :
    History assumptions start [⟨dispatcher, request, (played calls).1⟩] (played calls).2.1 :=
  (History.start.rehearse start_untouched script_legal (List.forall_mem_nil _) dispatcher
    calls).weaken assumptions.weaker_strict

theorem alone (calls : Nat) :
    ∀ invocation ∈ [(⟨dispatcher, request, (played calls).1⟩ : Invocation)],
      invocation.request = request :=
  List.forall_mem_singleton.mpr rfl

theorem plays (assumptions : Assumptions) (calls : Nat) :
    Execution (outside assumptions) (dispatcher.dispatch request) [] (start.serving request)
        (played calls).1 (played calls).2.1 (played calls).2.2.value? ∧
      ∀ call, (played calls).2.2.asks? = some call →
        Reaches (outside assumptions) (dispatcher.dispatch request) [] (start.serving request)
          (played calls).1 (played calls).2.1 call := by
  have permits := World.permits_weaken assumptions.weaker_strict
  rcases History.start.plays start_untouched script_legal (List.forall_mem_nil _) dispatcher
    calls with ⟨execution, reached⟩
  exact ⟨Execution.weaken (by rfl) permits execution, fun call asked =>
    Reaches.weaken (by rfl) permits (reached call asked)⟩

end Sample

end Civm.JitDispatcher
