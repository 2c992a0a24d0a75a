import Civm.JitDispatcher.Calls

/-! # Running the isolation driver

`ExecRunner` of `runner.go`. The wait goroutine and the control pipe are the
answers of `awaitDriver`, `awaitExit` and `readReceipt`: each stands for the
select in which the dispatcher waits for them. -/

namespace Civm.JitDispatcher.Runner

structure RunnerRequest where
  driverExecutable : String
  driverSHA256 : String
  baseImageSHA256 : String
  runnerDirectory : String
  identity : Identity
  leaseID : String
  jitConfig : List UInt8
  logDirectory : String
  shutdownGrace : Nat

structure RecoveryRequest where
  driverExecutable : String
  driverSHA256 : String
  baseImageSHA256 : String
  runnerDirectory : String
  leaseID : String
  isolationID : String
  process : ProcessIdentity
  logDirectory : String
  shutdownGrace : Nat

structure RunnerOutcome where
  process : ProcessIdentity
  ready : IsolationReceipt
  destroyed : IsolationReceipt

structure DriverExecRequest where
  executable : String
  executableSHA256 : String
  arguments : DriverArguments
  leaseID : String
  baseImageSHA256 : String
  logPath : String
  shutdownGrace : Nat
  input : Option DriverInput

/-- The callbacks of a driver execution. The dispatcher's write its ledger. -/
structure Callbacks (State : Type) where
  onStarted : Option (ProcessIdentity → Routine Call.Answer State (Option Error))
  onReady : Option (IsolationReceipt → Routine Call.Answer State (Option Error))

def callback {State Value : Type}
    (function : Option (Value → Routine Call.Answer State (Option Error))) (value : Value) :
    Routine Call.Answer State (Option Error) :=
  match function with
  | none => return none
  | some function => function value

def waitForExit : Action (Option Error) := do
  match ← perform .awaitExit with
  | .exited exit => return exit.ignoreSignalExit
  | .expired _ => return some (.text "isolation driver was not reaped before timeout")

def waitForExitOrKill : Action (Option Error) := do
  match ← perform .awaitExit with
  | .exited exit => return exit.ignoreSignalExit
  | .expired _ =>
    let killError ← perform (.signalGroup true)
    let waitError ← waitForExit
    return GoError.joinAll [killError, waitError]

def stopAndWait (identity : ProcessIdentity) (grace : Nat) : Action (Option Error) := do
  if identity.pid > 0 then
    let terminateError ← perform (.terminate identity grace)
    let waitError ← waitForExit
    return GoError.joinAll [terminateError, waitError]
  else
    let termError ← perform (.signalGroup false)
    let waitError ← waitForExitOrKill
    return GoError.joinAll [termError, waitError]

def stopUnidentifiedAndWait (leaseID : String) (grace : Nat) : Action (Option Error) := do
  let recoveryError ← perform (.recover leaseID .zero grace)
  let waitError ← waitForExit
  return GoError.joinAll [recoveryError, waitError]

abbrev DriverResult := List IsolationReceipt × ProcessIdentity × Option Error

/-- The error of a failed step after which containment was entered, joined with
the errors of leaving it again. -/
def abandonPreparation (leaseID : String) (grace : Nat) (error : Error) :
    Action DriverResult := do
  let closeError ← perform .closePreparation
  let recoveryError ← perform (.recover leaseID .zero grace)
  return ([], .zero, GoError.joinAll [some error, closeError, recoveryError])

/-- A step failed before the driver was identified. -/
def stopUnidentified (leaseID : String) (grace : Nat) (error : Error) :
    Action DriverResult := do
  let stopError ← stopUnidentifiedAndWait leaseID grace
  return ([], .zero, some (error.join stopError))

/-- A step failed after the driver was identified. -/
def stopIdentified (receipts : List IsolationReceipt) (process : ProcessIdentity)
    (grace : Nat) (error : Error) : Action DriverResult := do
  let stopError ← stopAndWait process grace
  return (receipts, process, some (error.join stopError))

/-- The second receipt, which only a driver with input has to emit. -/
def readSecond (request : DriverExecRequest) (receipts : List IsolationReceipt) :
    Action (List IsolationReceipt × Option Error) :=
  if request.input.isNone then return (receipts, none)
  else do
    match ← perform .readReceipt with
    | .ok second => return (receipts ++ [second], none)
    | .error error => return (receipts, some error)

/-- The driver's exit, forced if the context ends before. -/
def awaitDriverExit (request : DriverExecRequest) (process : ProcessIdentity) :
    Action (Option Error) := do
  match ← perform .awaitDriver with
  | .exited exit => return exit.error
  | .expired cause =>
    let stopError ← stopAndWait process request.shutdownGrace
    return some (cause.join stopError)

/-- The end of `execDriver`, once its input is closed. -/
def awaitEnd (request : DriverExecRequest) (process : ProcessIdentity)
    (receipts : List IsolationReceipt) : Action DriverResult := do
  let (receipts, receiptError) ← readSecond request receipts
  let waitError ← awaitDriverExit request process
  let containmentError ← perform (.terminate process request.shutdownGrace)
  let flushError ← perform .flushLogs
  let waitError := waitError.map fun error => .wrap "isolation driver exited: " error ""
  return (receipts, process,
    GoError.joinAll [receiptError, waitError, containmentError, flushError])

/-- `execDriver` once the input has been written, if there is one. -/
def closeAndAwait (request : DriverExecRequest) (process : ProcessIdentity)
    (receipts : List IsolationReceipt) : Action DriverResult := do
  match ← perform .closeInput with
  | some error => stopIdentified receipts process request.shutdownGrace error
  | none => awaitEnd request process receipts

/-- `execDriver` once the driver is identified and `OnStarted` has returned. -/
def converse (request : DriverExecRequest) (callbacks : Callbacks State)
    (process : ProcessIdentity) : Routine Call.Answer State DriverResult := do
  match ← perform .readReceipt with
  | .error error => stopIdentified [] process request.shutdownGrace error
  | .ok first =>
    match request.input with
    | none => closeAndAwait request process [first]
    | some input =>
      if ¬validReadyReceipt first request.leaseID request.baseImageSHA256 then
        stopIdentified [first] process request.shutdownGrace
          (.text "isolation ready proof is invalid")
      else
        match ← callback callbacks.onReady first with
        | some error => stopIdentified [first] process request.shutdownGrace error
        | none =>
          match ← perform (.writeInput input) with
          | some error => stopIdentified [first] process request.shutdownGrace error
          | none => closeAndAwait request process [first]

/-- `execDriver` once `command.Start` has succeeded. -/
def superviseDriver (request : DriverExecRequest) (callbacks : Callbacks State) :
    Routine Call.Answer State DriverResult := do
  match ← perform .closePreparation with
  | some error => stopUnidentified request.leaseID request.shutdownGrace error
  | none =>
    match ← perform (.attach request.leaseID) with
    | .error error => stopUnidentified request.leaseID request.shutdownGrace error
    | .ok process =>
      match ← callback callbacks.onStarted process with
      | some error => stopIdentified [] process request.shutdownGrace error
      | none => converse request callbacks process

def execDriver (request : DriverExecRequest) (callbacks : Callbacks State) :
    Routine Call.Answer State DriverResult := do
  match ← perform (.trustedExecutable request.executable request.executableSHA256) with
  | some error => return ([], .zero, some error)
  | none =>
    match ← perform (.openLog request.logPath request.input.isNone) with
    | some error => return ([], .zero, some error)
    | none =>
      match ← perform .pipe with
      | some error => return ([], .zero, some error)
      | none =>
        match ← perform (.prepare request.leaseID) with
        | some error =>
          return ([], .zero, some (.wrap "prepare isolation containment: " error ""))
        | none =>
          match ← perform .stdinPipe with
          | some error => abandonPreparation request.leaseID request.shutdownGrace error
          | none =>
            match ← perform (.start request.arguments) with
            | some error =>
              abandonPreparation request.leaseID request.shutdownGrace
                (.wrap "start isolation driver: " error "")
            | none => superviseDriver request callbacks

def validateAbsoluteDir (name value : String) : Option Error :=
  if ¬Text.isAbs value ∨ Text.clean value ≠ value ∨ value = "/" then
    some (invalid (name ++ " must be an absolute clean non-root path"))
  else none

def graceRefused (grace : Nat) : Bool := grace = 0 || grace > 60000000000

def validateRunnerRequest (request : RunnerRequest) : Action (Option Error) :=
  if ¬validIdentity request.identity ∨ ¬matchesDigest request.leaseID ∨
    ¬matchesDigest request.driverSHA256 ∨ ¬matchesDigest request.baseImageSHA256 ∨
    request.jitConfig.length < 16 ∨ request.jitConfig.length > maxJITResponse then
    return some (invalid "isolated runner identity is invalid")
  else match validateAbsoluteDir "runner_directory" request.runnerDirectory with
    | some error => return some error
    | none =>
      match validateAbsoluteDir "log_directory" request.logDirectory with
      | some error => return some error
      | none =>
        if graceRefused request.shutdownGrace then
          return some (invalid "shutdown grace is invalid")
        else do
          match ← perform (.trustedExecutable request.driverExecutable
            request.driverSHA256) with
          | some error => return some error
          | none =>
            if request.jitConfig.any fun byte => byte ≤ 0x20 || byte ≥ 0x7f then
              return some (invalid "JIT config contains unsafe bytes")
            else perform (.logDirectory request.logDirectory)

def validateRecoveryRequest (request : RecoveryRequest) : Option Error :=
  if ¬matchesDigest request.leaseID ∨ ¬matchesDigest request.driverSHA256 ∨
    ¬matchesDigest request.baseImageSHA256 ∨ graceRefused request.shutdownGrace then
    some (invalid "isolation recovery identity is invalid")
  else if request.isolationID ≠ "" ∧ ¬safeOpaqueID request.isolationID then
    some (invalid "isolation ID is invalid")
  else match validateAbsoluteDir "runner_directory" request.runnerDirectory with
    | some error => some error
    | none => validateAbsoluteDir "log_directory" request.logDirectory

/-- `runDriver` on the result of its driver execution. -/
def runOutcome (request : RunnerRequest) (result : DriverResult) :
    RunnerOutcome × Option Error :=
  let (receipts, process, error) := result
  let outcome : RunnerOutcome :=
    { process := process, ready := receipts.getD 0 .zero, destroyed := receipts.getD 1 .zero }
  match error with
  | some error => (outcome, some error)
  | none =>
    if receipts.length ≠ 2 ∨
      ¬validReadyReceipt outcome.ready request.leaseID request.baseImageSHA256 ∨
      ¬validDestroyedReceipt outcome.destroyed request.leaseID outcome.ready.isolationID
        request.baseImageSHA256 then
      (outcome, some (.text "isolation driver lifecycle proof is incomplete"))
    else (outcome, none)

def run (request : RunnerRequest) (callbacks : Callbacks State) :
    Routine Call.Answer State (RunnerOutcome × Option Error) := do
  match ← validateRunnerRequest request with
  | some error => return (⟨.zero, .zero, .zero⟩, some error)
  | none =>
    let result ← execDriver
      { executable := request.driverExecutable
        executableSHA256 := request.driverSHA256
        arguments :=
          { mode := .run, leaseID := request.leaseID
            runnerDirectory := request.runnerDirectory
            expectedBase := request.baseImageSHA256, isolationID := "" }
        leaseID := request.leaseID
        baseImageSHA256 := request.baseImageSHA256
        logPath := Text.join request.logDirectory "isolation-driver.log"
        shutdownGrace := request.shutdownGrace
        input := some
          { protocol := 1, leaseID := request.leaseID, jitConfig := request.jitConfig } }
      callbacks
    return runOutcome request result

def recover (request : RecoveryRequest) :
    Routine Call.Answer State (Except Error IsolationReceipt) :=
  match validateRecoveryRequest request with
  | some error => return .error error
  | none => do
    match ← perform (.recover request.leaseID request.process request.shutdownGrace) with
    | some error =>
      return .error (.wrap "terminate orphaned driver containment: " error "")
    | none =>
      match ← perform (.trustedExecutable request.driverExecutable request.driverSHA256) with
      | some error => return .error error
      | none =>
        let (receipts, _, error) ← execDriver
          { executable := request.driverExecutable
            executableSHA256 := request.driverSHA256
            arguments :=
              { mode := .recover, leaseID := request.leaseID
                runnerDirectory := request.runnerDirectory
                expectedBase := request.baseImageSHA256
                isolationID := request.isolationID }
            leaseID := request.leaseID
            baseImageSHA256 := request.baseImageSHA256
            logPath := Text.join request.logDirectory "recovery.log"
            shutdownGrace := request.shutdownGrace
            input := none }
          { onStarted := none, onReady := none }
        match error with
        | some error => return .error error
        | none =>
          match receipts with
          | [receipt] =>
            if validDestroyedReceipt receipt request.leaseID request.isolationID
              request.baseImageSHA256 then
              return .ok receipt
            else return .error (.text
              "recovery driver did not prove disposable isolation destruction")
          | _ => return .error (.text
            "recovery driver did not prove disposable isolation destruction")

end Civm.JitDispatcher.Runner
