import Civm.Foundation.Bounded
import Civm.JitDispatcher.Runner

/-! # The calls of a driver execution

Which calls `execDriver` makes, whatever it is answered. -/

namespace Civm.JitDispatcher.Runner

/-- What is called to run a driver with the given input. -/
def drivesWith (input : Option DriverInput) : Call → Bool
  | .trustedExecutable _ _ | .openLog _ _ | .pipe | .prepare _ | .stdinPipe | .start _
  | .closePreparation | .attach _ | .readReceipt | .closeInput | .awaitDriver | .awaitExit
  | .signalGroup _ | .terminate _ _ | .recover _ _ _ | .flushLogs => true
  | .writeInput written => input = some written
  | _ => false

section

variable {input : Option DriverInput}

abbrev Drives (input : Option DriverInput) (program : Action α) : Prop :=
  program.Makes (drivesWith input · = true) fun _ => True

theorem drives_perform {call : Call} (drives : drivesWith input call = true) :
    Drives input (perform call) :=
  Program.makes_perform drives fun _ => trivial

theorem drives_pure (value : α) : Drives input (pure value) := trivial

theorem Drives.bind {program : Action α} {next : α → Action β} (first : Drives input program)
    (second : ∀ value, Drives input (next value)) : Drives input (program >>= next) :=
  Program.Makes.bind first fun value _ => second value

theorem waitForExit_drives : Drives input waitForExit := by
  apply (drives_perform rfl).bind
  intro answer
  cases answer with
  | exited exit | expired cause => exact drives_pure _

theorem waitForExitOrKill_drives : Drives input waitForExitOrKill := by
  apply (drives_perform rfl).bind
  intro answer
  cases answer with
  | exited exit => exact drives_pure _
  | expired cause =>
    exact (drives_perform rfl).bind fun _ => waitForExit_drives.bind fun _ => drives_pure _

theorem stopAndWait_drives (identity : ProcessIdentity) (grace : Nat) :
    Drives input (stopAndWait identity grace) := by
  unfold stopAndWait
  split
  · exact (drives_perform rfl).bind fun _ => waitForExit_drives.bind fun _ => drives_pure _
  · exact (drives_perform rfl).bind fun _ =>
      waitForExitOrKill_drives.bind fun _ => drives_pure _

theorem stopIdentified_drives (receipts : List IsolationReceipt) (process : ProcessIdentity)
    (grace : Nat) (error : Error) : Drives input (stopIdentified receipts process grace error) :=
  (stopAndWait_drives process grace).bind fun _ => drives_pure _

theorem stopUnidentified_drives (leaseID : String) (grace : Nat) (error : Error) :
    Drives input (stopUnidentified leaseID grace error) := by
  apply Drives.bind
  · exact (drives_perform rfl).bind fun _ => waitForExit_drives.bind fun _ => drives_pure _
  · exact fun _ => drives_pure _

theorem abandonPreparation_drives (leaseID : String) (grace : Nat) (error : Error) :
    Drives input (abandonPreparation leaseID grace error) :=
  (drives_perform rfl).bind fun _ => (drives_perform rfl).bind fun _ => drives_pure _

theorem awaitEnd_drives (request : DriverExecRequest) (process : ProcessIdentity)
    (receipts : List IsolationReceipt) : Drives input (awaitEnd request process receipts) := by
  have second : Drives input (readSecond request receipts) := by
    unfold readSecond
    split
    · exact drives_pure _
    · apply (drives_perform rfl).bind
      intro answer
      cases answer with
      | ok receipt | error error => exact drives_pure _
  have exit : Drives input (awaitDriverExit request process) := by
    apply (drives_perform rfl).bind
    intro answer
    cases answer with
    | exited exit => exact drives_pure _
    | expired cause => exact (stopAndWait_drives _ _).bind fun _ => drives_pure _
  exact second.bind fun _ => exit.bind fun _ => (drives_perform rfl).bind fun _ =>
    (drives_perform rfl).bind fun _ => drives_pure _

theorem closeAndAwait_drives (request : DriverExecRequest) (process : ProcessIdentity)
    (receipts : List IsolationReceipt) : Drives input (closeAndAwait request process receipts) := by
  apply (drives_perform rfl).bind
  intro closeError
  cases closeError with
  | some error => exact stopIdentified_drives _ _ _ _
  | none => exact awaitEnd_drives _ _ _

end

/-! ## With callbacks -/

section

variable {State View : Type} {request : DriverExecRequest} {callbacks : Callbacks State}
variable {allowed : Call → Prop} {view : State → View}

structure Callbacks.Make (callbacks : Callbacks State) (allowed : Call → Prop)
    (view : State → View) : Prop where
  started : ∀ process, Routine.Makes allowed view (callback callbacks.onStarted process)
  ready : ∀ receipt, Routine.Makes allowed view (callback callbacks.onReady receipt)

theorem Drives.lift {program : Action α} (drives : Drives request.input program)
    (includes : ∀ call, drivesWith request.input call = true → allowed call) :
    Routine.Makes allowed view (liftM program : Routine Call.Answer State α) :=
  Routine.makes_lift (drives.mono includes fun _ => id)

theorem converse_makes (includes : ∀ call, drivesWith request.input call = true → allowed call)
    (make : callbacks.Make allowed view) (process : ProcessIdentity) :
    Routine.Makes allowed view (converse request callbacks process) := by
  apply (Routine.makes_perform (includes .readReceipt rfl)).bind
  intro first
  cases first with
  | error error => exact (stopIdentified_drives _ _ _ _).lift includes
  | ok first =>
    dsimp only
    split
    · exact (closeAndAwait_drives _ _ _).lift includes
    · rename_i input given
      split
      · exact (stopIdentified_drives _ _ _ _).lift includes
      · apply (make.ready first).bind
        intro refused
        cases refused with
        | some error => exact (stopIdentified_drives _ _ _ _).lift includes
        | none =>
          apply (Routine.makes_perform (includes (.writeInput input) (decide_eq_true given))).bind
          intro writeError
          cases writeError with
          | some error => exact (stopIdentified_drives _ _ _ _).lift includes
          | none => exact (closeAndAwait_drives _ _ _).lift includes

theorem superviseDriver_makes (includes : ∀ call, drivesWith request.input call = true → allowed call)
    (make : callbacks.Make allowed view) :
    Routine.Makes allowed view (superviseDriver request callbacks) := by
  apply (Routine.makes_perform (includes .closePreparation rfl)).bind
  intro closeError
  cases closeError with
  | some error => exact (stopUnidentified_drives _ _ _).lift includes
  | none =>
    apply (Routine.makes_perform (includes (.attach request.leaseID) rfl)).bind
    intro attached
    cases attached with
    | error error => exact (stopUnidentified_drives _ _ _).lift includes
    | ok process =>
      apply (make.started process).bind
      intro refused
      cases refused with
      | some error => exact (stopIdentified_drives _ _ _ _).lift includes
      | none => exact converse_makes includes make process

theorem execDriver_makes (includes : ∀ call, drivesWith request.input call = true → allowed call)
    (make : callbacks.Make allowed view) :
    Routine.Makes allowed view (execDriver request callbacks) := by
  apply (Routine.makes_perform (includes (.trustedExecutable _ _) rfl)).bind
  intro trustError
  cases trustError with
  | some error => exact Routine.makes_pure _
  | none =>
    apply (Routine.makes_perform (includes (.openLog _ _) rfl)).bind
    intro logError
    cases logError with
    | some error => exact Routine.makes_pure _
    | none =>
      apply (Routine.makes_perform (includes .pipe rfl)).bind
      intro pipeError
      cases pipeError with
      | some error => exact Routine.makes_pure _
      | none =>
        apply (Routine.makes_perform (includes (.prepare _) rfl)).bind
        intro prepareError
        cases prepareError with
        | some error => exact Routine.makes_pure _
        | none =>
          apply (Routine.makes_perform (includes .stdinPipe rfl)).bind
          intro stdinError
          cases stdinError with
          | some error => exact (abandonPreparation_drives _ _ _).lift includes
          | none =>
            apply (Routine.makes_perform (includes (.start _) rfl)).bind
            intro startError
            cases startError with
            | some error => exact (abandonPreparation_drives _ _ _).lift includes
            | none => exact superviseDriver_makes includes make

end

end Civm.JitDispatcher.Runner
