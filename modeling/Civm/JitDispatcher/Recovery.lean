import Civm.JitDispatcher.Observation

/-! # What a driver execution establishes

Stopping and reaping the driver only observes; so does a whole recovery, whose
success means that the isolation is gone. -/

namespace Civm.JitDispatcher

variable {assumptions : Assumptions}

theorem validReadyReceipt_iff {receipt : IsolationReceipt} {leaseID baseSHA256 : String} :
    validReadyReceipt receipt leaseID baseSHA256 = true ↔
      receipt.protocol = 1 ∧ receipt.event = "ready" ∧ receipt.leaseID = leaseID ∧
      safeOpaqueID receipt.isolationID = true ∧ receipt.baseSHA256 = baseSHA256 ∧
      receipt.disposable = true ∧ receipt.hostMounts = false ∧ receipt.hostDocker = false ∧
      receipt.productSecrets = false ∧ receipt.destroyed = false ∧
      receipt.resetVerified = false := by
  simp [validReadyReceipt, and_assoc]

theorem validDestroyedReceipt_iff {receipt : IsolationReceipt}
    {leaseID isolationID baseSHA256 : String} :
    validDestroyedReceipt receipt leaseID isolationID baseSHA256 = true ↔
      receipt.protocol = 1 ∧ receipt.event = "destroyed" ∧ receipt.leaseID = leaseID ∧
      receipt.isolationID ≠ "" ∧ (isolationID = "" ∨ receipt.isolationID = isolationID) ∧
      receipt.baseSHA256 = baseSHA256 ∧ receipt.disposable = true ∧
      receipt.hostMounts = false ∧ receipt.hostDocker = false ∧
      receipt.productSecrets = false ∧ receipt.destroyed = true ∧
      receipt.resetVerified = true := by
  simp [validDestroyedReceipt, and_assoc]

/-! ## Isolations that are gone -/

def World.IsolationSettled (world : World) (leaseID : String) : Prop :=
  ∀ key, (world.footprint key).isolation ≠ some leaseID

theorem Calmer.isolationSettled {before after : World} {leaseID : String}
    (calmer : Calmer assumptions before after) (settled : before.IsolationSettled leaseID) :
    after.IsolationSettled leaseID :=
  fun key live => settled key (calmer.isolation key leaseID live)

theorem World.received_settled {world : World} {arguments : DriverArguments}
    {announced : String} {receipt : IsolationReceipt}
    (conversing : world.driver = some ⟨arguments, announced⟩)
    (destroyed : validDestroyedReceipt receipt arguments.leaseID announced
      arguments.expectedBase = true) :
    (world.received receipt).IsolationSettled arguments.leaseID := by
  intro key live
  have notReady : ¬validReadyReceipt receipt arguments.leaseID arguments.expectedBase = true := by
    intro ready
    have event := (validDestroyedReceipt_iff.mp destroyed).2.1
    rw [(validReadyReceipt_iff.mp ready).2.1] at event
    exact absurd event (by decide)
  simp only [World.received, conversing, if_neg notReady, if_pos destroyed] at live
  simpa using (Option.filter_eq_some_iff.mp live).2

/-! ## Stopping the driver -/

namespace Runner

section Stopping

variable (trace : Trace) (world : World)

theorem waitForExit_observes :
    Observes assumptions waitForExit trace world fun _ _ _ => True := by
  refine Observes.perform rfl fun awaited _ _ => ?_
  cases awaited <;> exact Observes.pure trivial

theorem waitForExitOrKill_observes :
    Observes assumptions waitForExitOrKill trace world fun _ _ _ => True := by
  refine Observes.perform rfl fun awaited _ _ => ?_
  cases awaited with
  | exited exit => exact Observes.pure trivial
  | expired cause =>
    refine Observes.perform rfl fun _ _ _ => ?_
    exact (waitForExit_observes _ _).bind fun _ _ _ _ _ _ => Observes.pure trivial

theorem stopAndWait_observes (identity : ProcessIdentity) (grace : Nat) :
    Observes assumptions (stopAndWait identity grace) trace world fun _ _ _ => True := by
  unfold stopAndWait
  split
  · refine Observes.perform rfl fun _ _ _ => ?_
    exact (waitForExit_observes _ _).bind fun _ _ _ _ _ _ => Observes.pure trivial
  · refine Observes.perform rfl fun _ _ _ => ?_
    exact (waitForExitOrKill_observes _ _).bind fun _ _ _ _ _ _ => Observes.pure trivial

theorem stopIdentified_observes (receipts : List IsolationReceipt) (process : ProcessIdentity)
    (grace : Nat) (error : Error) :
    Observes assumptions (stopIdentified receipts process grace error) trace world
      fun result _ _ => result.2.2 ≠ none :=
  (stopAndWait_observes _ _ _ _).bind fun _ _ _ _ _ _ => Observes.pure nofun

theorem stopUnidentified_observes (leaseID : String) (grace : Nat) (error : Error) :
    Observes assumptions (stopUnidentified leaseID grace error) trace world
      fun result _ _ => result.2.2 ≠ none := by
  have stops : Observes assumptions (stopUnidentifiedAndWait leaseID grace) trace world
    fun _ _ _ => True := by
    refine Observes.perform rfl fun _ _ _ => ?_
    exact (waitForExit_observes _ _).bind fun _ _ _ _ _ _ => Observes.pure trivial
  exact stops.bind fun _ _ _ _ _ _ => Observes.pure nofun

theorem abandonPreparation_observes (leaseID : String) (grace : Nat) (error : Error) :
    Observes assumptions (abandonPreparation leaseID grace error) trace world
      fun result _ _ => result.2.2 ≠ none := by
  refine Observes.perform rfl fun _ _ _ => ?_
  exact Observes.perform rfl fun _ _ _ => Observes.pure nofun

theorem awaitDriverExit_observes (request : DriverExecRequest) (process : ProcessIdentity) :
    Observes assumptions (awaitDriverExit request process) trace world fun _ _ _ => True := by
  refine Observes.perform rfl fun awaited _ _ => ?_
  cases awaited with
  | exited exit => exact Observes.pure trivial
  | expired cause =>
    exact (stopAndWait_observes _ _ _ _).bind fun _ _ _ _ _ _ => Observes.pure trivial

theorem validateRunnerRequest_observes (request : RunnerRequest) :
    Observes assumptions (validateRunnerRequest request) trace world fun _ _ _ => True := by
  unfold validateRunnerRequest
  split
  · exact Observes.pure trivial
  · split
    · exact Observes.pure trivial
    · split
      · exact Observes.pure trivial
      · split
        · exact Observes.pure trivial
        · refine Observes.perform rfl fun trustError _ _ => ?_
          cases trustError with
          | some error => exact Observes.pure trivial
          | none =>
            dsimp only
            split
            · exact Observes.pure trivial
            · exact Observes.perform rfl fun _ _ _ => Observes.pure trivial

/-! ## The last receipt -/

/-- The receipts of a driver execution that ended without an error: a driver
with input has added one to those read before. -/
def Concluded (request : DriverExecRequest) (receipts : List IsolationReceipt) (trace : Trace)
    (world : World) (receipts' : List IsolationReceipt) (trace' : Trace) (world' : World) : Prop :=
  (request.input = none → receipts' = receipts) ∧
  (request.input ≠ none → ∃ last, receipts' = receipts ++ [last] ∧
    Extends trace trace' [⟨.readReceipt, .ok last⟩] ∧
    ∀ arguments announced, world.driver = some ⟨arguments, announced⟩ →
      validDestroyedReceipt last arguments.leaseID announced arguments.expectedBase = true →
      world'.IsolationSettled arguments.leaseID)

theorem readSecond_observes (request : DriverExecRequest) (receipts : List IsolationReceipt) :
    Observes assumptions (readSecond request receipts) trace world fun result trace' world' =>
      result.2 = none →
        Concluded request receipts trace world result.1 trace' world' := by
  unfold readSecond
  split
  · rename_i silent
    have absent : request.input = none := Option.isNone_iff_eq_none.mp silent
    exact Observes.pure fun _ => ⟨fun _ => rfl, fun present => absurd absent present⟩
  · rename_i present
    refine Observes.perform rfl fun answer _ _ => ?_
    cases answer with
    | error error => exact Observes.pure nofun
    | ok last =>
      refine Observes.pure fun _ => ⟨fun absent => ?_, fun _ => ?_⟩
      · rw [absent] at present
        exact absurd rfl present
      · exact ⟨last, rfl, Extends.step _ _, fun _ _ conversing destroyed =>
          World.received_settled conversing destroyed⟩

theorem awaitEnd_observes (request : DriverExecRequest) (process : ProcessIdentity)
    (receipts : List IsolationReceipt) :
    Observes assumptions (awaitEnd request process receipts) trace world
      fun result trace' world' => result.2.2 = none →
        Concluded request receipts trace world result.1 trace' world' := by
  refine (readSecond_observes trace world request receipts).bind
    fun result trace₁ world₁ _ _ concluded => ?_
  rcases result with ⟨receipts', receiptError⟩
  refine (awaitDriverExit_observes _ _ request process).bind
    fun waitError trace₂ world₂ longer₂ calmer₂ _ => ?_
  refine Observes.perform rfl fun containmentError _ calmer₃ => ?_
  refine Observes.perform rfl fun flushError _ calmer₄ => Observes.pure fun success => ?_
  have noReceiptError : receiptError = none :=
    GoError.joinAll_eq_none.mp success receiptError (List.mem_cons_self ..)
  have calmer := (calmer₂.trans calmer₃).trans calmer₄
  have longer := (longer₂.trans (Extends.grow _ ⟨.terminate process request.shutdownGrace,
    containmentError⟩)).trans (Extends.grow _ ⟨.flushLogs, flushError⟩)
  rcases concluded noReceiptError with ⟨silent, spoken⟩
  refine ⟨silent, fun present => ?_⟩
  rcases spoken present with ⟨last, appended, seen, settled⟩
  exact ⟨last, appended, seen.still longer, fun arguments announced conversing destroyed =>
    calmer.isolationSettled (settled arguments announced conversing destroyed)⟩

theorem closeAndAwait_observes (request : DriverExecRequest) (process : ProcessIdentity)
    (receipts : List IsolationReceipt) :
    Observes assumptions (closeAndAwait request process receipts) trace world
      fun result trace' world' => result.2.2 = none →
        Concluded request receipts trace world result.1 trace' world' := by
  refine Observes.perform rfl fun closeError _ _ => ?_
  cases closeError with
  | some error =>
    exact (stopIdentified_observes _ _ _ _ _ _).mono
      fun _ _ _ _ _ failed success => absurd success failed
  | none =>
    refine (awaitEnd_observes _ _ request process receipts).mono ?_
    intro result trace' world' _ _ concluded success
    rcases concluded success with ⟨silent, spoken⟩
    refine ⟨silent, fun present => ?_⟩
    rcases spoken present with ⟨last, appended, seen, settled⟩
    exact ⟨last, appended, seen.since (Extends.grow _ _), settled⟩

end Stopping

end Runner

/-! ## Routines that only observe -/

/-- A routine that only observes and leaves its variable alone. -/
def Watches (assumptions : Assumptions) {State : Type} (routine : Routine Call.Answer State α)
    (state : State) (trace : Trace) (world : World) (post : α → Trace → World → Prop) : Prop :=
  Observes assumptions (routine.run state) trace world fun result trace' world' =>
    result.2 = state ∧ post result.1 trace' world'

namespace Watches

variable {State : Type} {state : State} {trace : Trace} {world : World}

theorem pure {value : α} {post : α → Trace → World → Prop} (holds : post value trace world) :
    Watches assumptions (Pure.pure value : Routine Call.Answer State α) state trace world post :=
  Observes.pure ⟨rfl, holds⟩

theorem bind {routine : Routine Call.Answer State α} {next : α → Routine Call.Answer State β}
    {middle : α → Trace → World → Prop} {post : β → Trace → World → Prop}
    (watches : Watches assumptions routine state trace world middle)
    (rest : ∀ value trace' world', Extends trace trace' [] → Calmer assumptions world world' →
      middle value trace' world' →
      Watches assumptions (next value) state trace' world' post) :
    Watches assumptions (routine >>= next) state trace world post := by
  unfold Watches
  rw [StateT.run_bind]
  refine Observes.bind watches ?_
  rintro ⟨value, _⟩ trace' world' longer calmer ⟨rfl, holds⟩
  exact rest value trace' world' longer calmer holds

theorem lift {program : Action α} {post : α → Trace → World → Prop}
    (observes : Observes assumptions program trace world post) :
    Watches assumptions (liftM program : Routine Call.Answer State α) state trace world post := by
  change Observes assumptions (program >>= fun value => Program.done (value, state)) trace world _
  exact observes.bind fun value _ _ _ _ holds => Observes.pure ⟨rfl, holds⟩

theorem perform {call : Call} {next : call.Answer → Routine Call.Answer State α}
    {post : α → Trace → World → Prop} (calm : call.calm = true)
    (answered : ∀ answer, world.permits assumptions call answer →
      Calmer assumptions world (world.after call answer) →
      Watches assumptions (next answer) state (trace ++ [⟨call, answer⟩])
        (world.after call answer) post) :
    Watches assumptions (liftM (JitDispatcher.perform call) >>= next) state trace world post := by
  unfold Watches
  rw [StateT.run_bind]
  exact Observes.perform calm answered

end Watches

namespace Runner

variable {State : Type} {state : State}

/-- A recovery's driver execution that ended without an error and with one
valid receipt has proved the isolation gone. -/
def Recovered (assumptions : Assumptions) (arguments : DriverArguments) (result : DriverResult)
    (world : World) : Prop :=
  result.2.2 = none → ∀ receipt, result.1 = [receipt] →
    validDestroyedReceipt receipt arguments.leaseID arguments.isolationID
      arguments.expectedBase = true →
    world.IsolationSettled arguments.leaseID ∧
    (assumptions.safelyNamed → arguments.isolationID = "" →
      safeOpaqueID receipt.isolationID = true)

theorem converse_watches {request : DriverExecRequest} {process : ProcessIdentity}
    {trace : Trace} {world : World} (silent : request.input = none)
    (recovering : request.arguments.mode = .recover)
    (conversing : world.driver = some ⟨request.arguments, request.arguments.isolationID⟩) :
    Watches assumptions (converse request ⟨none, none⟩ process) state trace world
      fun result _ world' => Recovered assumptions request.arguments result world' := by
  unfold converse
  refine Watches.perform rfl fun answer permitted _ => ?_
  cases answer with
  | error error =>
    exact Watches.lift ((stopIdentified_observes _ _ _ _ _ _).mono
      fun _ _ _ _ _ failed success => absurd success failed)
  | ok first =>
    rw [silent]
    refine Watches.lift ((closeAndAwait_observes _ _ request process [first]).mono ?_)
    intro result _ world' _ calmer concluded success receipt single destroyed
    rw [(concluded success).1 silent] at single
    cases single
    refine ⟨calmer.isolationSettled (World.received_settled conversing destroyed), ?_⟩
    intro safelyNamed unnamed
    refine permitted safelyNamed first rfl _ conversing recovering unnamed ?_
    rw [← unnamed]
    exact destroyed

theorem superviseDriver_watches {request : DriverExecRequest} {trace : Trace} {world : World}
    (silent : request.input = none) (recovering : request.arguments.mode = .recover)
    (conversing : world.driver = some ⟨request.arguments, request.arguments.isolationID⟩) :
    Watches assumptions (superviseDriver request ⟨none, none⟩) state trace world
      fun result _ world' => Recovered assumptions request.arguments result world' := by
  refine Watches.perform rfl fun closeError _ _ => ?_
  cases closeError with
  | some error =>
    exact Watches.lift ((stopUnidentified_observes _ _ _ _ _).mono
      fun _ _ _ _ _ failed success => absurd success failed)
  | none =>
    refine Watches.perform rfl fun attached _ _ => ?_
    cases attached with
    | error error =>
      exact Watches.lift ((stopUnidentified_observes _ _ _ _ _).mono
        fun _ _ _ _ _ failed success => absurd success failed)
    | ok process => exact converse_watches silent recovering conversing

theorem execDriver_watches {request : DriverExecRequest} (trace : Trace) (world : World)
    (silent : request.input = none) (recovering : request.arguments.mode = .recover) :
    Watches assumptions (execDriver request ⟨none, none⟩) state trace world
      fun result _ world' => Recovered assumptions request.arguments result world' := by
  have calm : (Call.start request.arguments).calm = true := decide_eq_true recovering
  refine Watches.perform rfl fun trustError _ _ => ?_
  cases trustError with
  | some error => exact Watches.pure nofun
  | none =>
    refine Watches.perform rfl fun logError _ _ => ?_
    cases logError with
    | some error => exact Watches.pure nofun
    | none =>
      refine Watches.perform rfl fun pipeError _ _ => ?_
      cases pipeError with
      | some error => exact Watches.pure nofun
      | none =>
        refine Watches.perform rfl fun prepareError _ _ => ?_
        cases prepareError with
        | some error => exact Watches.pure nofun
        | none =>
          refine Watches.perform rfl fun stdinError _ _ => ?_
          cases stdinError with
          | some error =>
            exact Watches.lift ((abandonPreparation_observes _ _ _ _ _).mono
              fun _ _ _ _ _ failed success => absurd success failed)
          | none =>
            refine Watches.perform calm fun startError _ _ => ?_
            cases startError with
            | some error =>
              exact Watches.lift ((abandonPreparation_observes _ _ _ _ _).mono
                fun _ _ _ _ _ failed success => absurd success failed)
            | none =>
              refine superviseDriver_watches silent recovering ?_
              simp only [World.after, World.started, recovering]

theorem recover_watches (request : RecoveryRequest) (trace : Trace) (world : World) :
    Watches assumptions (recover request) state trace world fun answer _ world' =>
      ∀ receipt, answer = .ok receipt →
        validDestroyedReceipt receipt request.leaseID request.isolationID
          request.baseImageSHA256 = true ∧
        world'.IsolationSettled request.leaseID ∧
        (assumptions.safelyNamed → request.isolationID = "" →
          safeOpaqueID receipt.isolationID = true) := by
  unfold recover
  split
  · exact Watches.pure nofun
  · refine Watches.perform rfl fun recoverError _ _ => ?_
    cases recoverError with
    | some error => exact Watches.pure nofun
    | none =>
      refine Watches.perform rfl fun trustError _ _ => ?_
      cases trustError with
      | some error => exact Watches.pure nofun
      | none =>
        refine (execDriver_watches _ _ rfl rfl).bind ?_
        rintro ⟨receipts, process, error⟩ _ world' _ _ recovered
        cases error with
        | some error => exact Watches.pure nofun
        | none =>
          match receipts with
          | [receipt] =>
            dsimp only
            split
            · rename_i destroyed
              refine Watches.pure fun _ equal => ?_
              cases equal
              exact ⟨destroyed, recovered rfl receipt rfl destroyed⟩
            · exact Watches.pure nofun
          | [] => exact Watches.pure nofun
          | _ :: _ :: _ => exact Watches.pure nofun

end Runner

end Civm.JitDispatcher
