import Civm.JitDispatcher.GitHub
import Civm.JitDispatcher.Runner

/-! # The dispatcher

`dispatcher.go`. The functions that take a `*Ledger` are routines whose
variable is that ledger. Contexts and timeouts only show in the answers of the
calls they bound. -/

namespace Civm.JitDispatcher

open GitHub (ambiguous)

/-- A dispatcher, with the number of rounds its polling loops are followed.
A loop that is not over by then spins. -/
structure Dispatcher where
  config : Config
  polls : Nat

/-! ## Persisting -/

def resultOf (ledger : Ledger) : Result where
  requestID := ledger.requestID
  runID := ledger.runID
  status := some ledger.status
  replay := false

def log (message : String) : Action Unit := do
  let _ ← perform .now
  perform (.info message)

def save (ledger : Ledger) : Action (Option Error) := do
  let answer ← perform (.save ledger)
  return answer.error

def saveLedger : LedgerAction (Option Error) := do
  save (← get)

def Ledger.moved (ledger : Ledger) (status : Status) (failureCode : String) (now : Nat) :
    Ledger :=
  { ledger with status := status, failureCode := failureCode, updatedAt := now }

def transition (status : Status) (failureCode : String) : LedgerAction (Option Error) := do
  let now ← perform .now
  modify fun ledger => ledger.moved status failureCode now
  match ← saveLedger with
  | some error => return some (.wrap ("persist " ++ status.text ++ ": ") error "")
  | none =>
    log "dispatcher state changed"
    return none

def requestLogDir (requestID : String) : Action (Except Error String) :=
  if Text.isHex 64 requestID then perform (.requestLogDir requestID)
  else return .error (invalid "request ID is invalid")

/-! ## Remote identities -/

def expectedPath (policy : RepositoryPolicy) : String :=
  policy.workflow ++ "@" ++ Text.trimPrefix policy.trustedRef "refs/heads/"

def runTitle (nonce : String) : String := "CIVM JIT " ++ nonce

def validateRunIdentity (run : WorkflowRun) (policy : RepositoryPolicy)
    (trustedSHA nonce : String) : Option Error :=
  if run.event ≠ "workflow_dispatch" ∨ run.headSHA ≠ trustedSHA ∨
    run.displayTitle ≠ runTitle nonce ∨ run.path ≠ expectedPath policy then
    some (.text "run identity does not match trusted dispatch")
  else none

def validateBoundRun (run : WorkflowRun) (policy : RepositoryPolicy)
    (trustedSHA nonce : String) : Option Error :=
  match validateRunIdentity run policy trustedSHA nonce with
  | some error => some error
  | none =>
    if (run.status ≠ "queued" ∧ run.status ≠ "in_progress") ∨ run.conclusion ≠ "" then
      some (.text "run initial state is invalid")
    else none

def nonterminalStatus (status : String) : Bool :=
  ["queued", "in_progress", "pending", "waiting", "requested"].contains status

def knownExecutionStatus (status : String) : Bool :=
  status = "completed" || nonterminalStatus status

def queuedJobRefused (job : WorkflowJob) (policy : RepositoryPolicy) (runID : Int)
    (label : String) : Bool :=
  job.id ≤ 0 || (job.runID ≠ 0 && job.runID ≠ runID) || job.name ≠ policy.jobName ||
    job.status ≠ "queued" || job.conclusion ≠ "" || job.labels ≠ [label]

def validateExecutedJob (job : WorkflowJob) (ledger : Ledger) (policy : RepositoryPolicy)
    (identity : Identity) : Option Error :=
  if job.id ≠ ledger.jobID ∨ job.runID ≠ ledger.runID ∨ job.name ≠ policy.jobName ∨
    job.labels ≠ [identity.label] then
    some (ambiguous "executed job identity changed")
  else if (job.status = "in_progress" ∨ job.status = "completed") ∧
    (job.runnerID ≠ ledger.runnerID ∨ job.runnerName ≠ identity.runnerName ∨
      job.runnerGroupID ≠ policy.runnerGroupID) then
    some (ambiguous "expected job did not execute on the generated JIT runner")
  else none

def validateJITRegistration (registration : JITRegistration) (identity : Identity) :
    Option Error :=
  let runner := registration.runner
  if registration.secret.length < 16 ∨ registration.secret.length > maxJITResponse then
    some (ambiguous "JIT secret is missing or invalid")
  else if runner.id ≤ 0 ∨ runner.name ≠ identity.runnerName ∨ runner.status ≠ "offline" ∨
    runner.busy then
    some (ambiguous "JIT runner identity is invalid")
  else match GitHub.customLabels identity.label runner.labels with
    | none => some (ambiguous "JIT runner labels are invalid")
    | some custom =>
      if custom ≠ 1 then some (ambiguous "exact JIT runner label is missing or duplicated")
      else none

def runnerHasLabel (runner : RemoteRunner) (expected : String) : Bool :=
  runner.labels.countP (fun label => label.name = expected && label.type = "custom") = 1

def authoritativeJITRejection (error : Error) : Bool :=
  !error.is .ambiguous &&
    match error.as? with
    | some remote => 400 ≤ remote.status && remote.status < 500
    | none => false

namespace Dispatcher

variable (dispatcher : Dispatcher)

/-! ## Cleanup -/

/-- The polling loop of `cancelAndWaitTerminal`. -/
def awaitTerminal (policy : RepositoryPolicy) (ledger : Ledger) :
    Nat → Action (Option Error)
  | 0 => .spin
  | polls + 1 => do
    match ← GitHub.getRun ledger.repository ledger.runID with
    | .error error => return some error
    | .ok run =>
      if (validateRunIdentity run policy ledger.trustedSHA ledger.nonce).isSome then
        return some (ambiguous "cleanup run identity changed")
      else if run.status = "completed" then
        if run.conclusion = "" then return some (.text "terminal run has no conclusion")
        else return none
      else if ¬nonterminalStatus run.status then
        return some (.text
          ("run cancellation returned unknown state \"" ++ run.status ++ "\""))
      else
        match ← perform .sleep with
        | some error => return some error
        | none => awaitTerminal policy ledger polls

/-- The cancellation before that loop. -/
def cancelUnlessCompleted (ledger : Ledger) (run : WorkflowRun) : Action (Option Error) := do
  if run.status = "completed" then return none
  else
    match ← GitHub.cancelRun ledger.repository ledger.runID with
    | none => return none
    | some error =>
      if !isHTTPStatus error 409 && !error.is .ambiguous then return some error
      else return none

def cancelAndWaitTerminal (policy : RepositoryPolicy) (ledger : Ledger) :
    Action (Option Error) := do
  match ← GitHub.getRun ledger.repository ledger.runID with
  | .error error => return some error
  | .ok run =>
    if (validateRunIdentity run policy ledger.trustedSHA ledger.nonce).isSome then
      return some (ambiguous "cleanup run identity changed")
    else if ¬knownExecutionStatus run.status then
      return some (.text ("cleanup run returned unknown state \"" ++ run.status ++ "\""))
    else
      match ← cancelUnlessCompleted ledger run with
      | some error => return some error
      | none => awaitTerminal policy ledger dispatcher.polls

/-- The error of a lookup or a sleep under `observeCtx`. -/
def observationError (error : Error) : Action (Option Error) := do
  if ← perform .observationExpired then
    return some (ambiguous "JIT creation remains unproven after observation timeout")
  else return some error

/-- The first loop of `ensureRunnerGone`: wait for the runner to show up under
its label. -/
def observeRunner : Nat → LedgerAction (Option Error)
  | 0 => fun _ => .spin
  | polls + 1 => do
    let ledger ← get
    match ← GitHub.findRunnerByLabel ledger.repository ledger.runnerLabel with
    | .error error => observationError error
    | .ok (some runner) =>
      if runner.id ≤ 0 ∨ runner.name ≠ ledger.runnerName ∨
        ¬runnerHasLabel runner ledger.runnerLabel then
        return some (ambiguous "exact runner label belongs to another identity")
      else
        modify fun ledger => { ledger with runnerID := runner.id }
        saveLedger
    | .ok none =>
      match ← perform .sleep with
      | some error => observationError error
      | none => observeRunner polls

def deleteOnce (ledger : Ledger) (deleted : Bool) : Action (Option Error) :=
  if deleted then return none else GitHub.deleteRunner ledger.repository ledger.runnerID

/-- The second loop of `ensureRunnerGone`: delete the runner once and wait
until it is not found. -/
def removeRunner (ledger : Ledger) : Nat → Bool → Action (Option Error)
  | 0, _ => .spin
  | polls + 1, deleted => do
    match ← GitHub.getRunner ledger.repository ledger.runnerID with
    | .error error => return some error
    | .ok none => return none
    | .ok (some runner) =>
      if runner.id ≠ ledger.runnerID ∨ runner.name ≠ ledger.runnerName ∨
        ¬runnerHasLabel runner ledger.runnerLabel then
        return some (ambiguous "runner identity changed before removal")
      else
        match ← deleteOnce ledger deleted with
        | some error => return some error
        | none =>
          match ← perform .sleep with
          | some error => return some error
          | none => removeRunner ledger polls true

/-- The part of `ensureRunnerGone` that finds out the runner's ID. -/
def identifyRunner : LedgerAction (Option Error) := do
  let ledger ← get
  if ledger.runnerID = 0 then observeRunner dispatcher.polls else return none

def ensureRunnerGone : LedgerAction (Option Error) := do
  match ← dispatcher.identifyRunner with
  | some error => return some error
  | none =>
    let ledger ← get
    removeRunner ledger dispatcher.polls false

def recoveryRequest (ledger : Ledger) (logDirectory : String) : Runner.RecoveryRequest where
  driverExecutable := dispatcher.config.isolationDriver
  driverSHA256 := dispatcher.config.driverSHA256
  baseImageSHA256 := dispatcher.config.baseImageSHA256
  runnerDirectory := dispatcher.config.runnerDirectory
  leaseID := ledger.leaseID
  isolationID := ledger.isolationID
  process := ledger.process
  logDirectory := logDirectory
  shutdownGrace := dispatcher.config.shutdownGrace

end Dispatcher

def Ledger.withoutIsolation (ledger : Ledger) : Ledger :=
  { ledger with
    isolationGone := true, processPID := 0, processStart := 0, processGroup := 0
    cgroupPath := "" }

def Ledger.withProcess (ledger : Ledger) (process : ProcessIdentity) : Ledger :=
  { ledger with
    processPID := process.pid, processStart := process.startTicks
    processGroup := process.processGroup, cgroupPath := process.cgroupPath }

def Ledger.withIsolation (ledger : Ledger) (receipt : IsolationReceipt) : Ledger :=
  { ledger with isolationID := receipt.isolationID, isolationBase := receipt.baseSHA256 }

/-- The ledger with the isolation a recovery receipt names, if it knew none. -/
def Ledger.adopting (ledger : Ledger) (receipt : IsolationReceipt) : Ledger :=
  if ledger.isolationID = "" then ledger.withIsolation receipt else ledger

namespace Dispatcher

variable (dispatcher : Dispatcher)

/-- The first part of `cleanupLedger`. -/
def cleanupIsolation (logDirectory : String) : LedgerAction (Option Error) := do
  let ledger ← get
  if ledger.isolationGone then return none
  else
    match ← Runner.recover (dispatcher.recoveryRequest ledger logDirectory) with
    | .error error => return some error
    | .ok receipt =>
      if ¬validDestroyedReceipt receipt ledger.leaseID ledger.isolationID
        dispatcher.config.baseImageSHA256 then
        return some (ambiguous "recovery proof does not match durable state")
      else
        modify fun ledger => (ledger.adopting receipt).withoutIsolation
        saveLedger

/-- The second part of `cleanupLedger`. -/
def cleanupRun : LedgerAction (Option Error) := do
  let ledger ← get
  if ledger.runTerminal then return none
  else if ledger.runID = 0 then
    return some (ambiguous "dispatched run identity is unknown")
  else match dispatcher.config.policy ledger.repository with
    | none => return some (.text "cleanup repository policy is unavailable")
    | some policy =>
      if ¬validIdentity ledger.identity then
        return some (.text "cleanup runner identity is invalid")
      else do
        match ← dispatcher.cancelAndWaitTerminal policy ledger with
        | some error => return some error
        | none =>
          modify fun ledger => { ledger with runTerminal := true }
          saveLedger

/-- The third part of `cleanupLedger`. -/
def cleanupRunner : LedgerAction (Option Error) := do
  let ledger ← get
  if ledger.runnerGone then return none
  else
    match ← dispatcher.ensureRunnerGone with
    | some error => return some error
    | none =>
      modify fun ledger => { ledger with runnerGone := true }
      return none

end Dispatcher

/-- `ledger.CleanupComplete = ledger.RunTerminal && ledger.RunnerGone &&
ledger.IsolationGone`. -/
def Ledger.summed (ledger : Ledger) : Ledger :=
  { ledger with
    cleanupComplete := ledger.runTerminal && ledger.runnerGone && ledger.isolationGone }

/-- The end of `cleanupLedger`. -/
def completeCleanup : LedgerAction (Option Error) := do
  modify Ledger.summed
  let ledger ← get
  if ¬ledger.cleanupComplete then
    return some (.text "cleanup postconditions are incomplete")
  else
    let now ← perform .now
    modify fun ledger => { ledger with updatedAt := now }
    saveLedger

namespace Dispatcher

variable (dispatcher : Dispatcher)

def cleanupLedger : LedgerAction (Option Error) := do
  let ledger ← get
  match ← requestLogDir ledger.requestID with
  | .error error => return some error
  | .ok logDirectory =>
    match ← dispatcher.cleanupIsolation logDirectory with
    | some error => return some error
    | none =>
      match ← dispatcher.cleanupRun with
      | some error => return some error
      | none =>
        match ← dispatcher.cleanupRunner with
        | some error => return some error
        | none => completeCleanup

def failureStatus (cause : Error) : Status :=
  if cause.is .ambiguous then .ambiguous else .failed

def finishWithoutLease (code : String) (cause : Error) :
    LedgerAction (Result × Option Error) := do
  let transitionError ← transition (failureStatus cause) code
  return (resultOf (← get), some (cause.join transitionError))

/-- The part of `finishError` that follows a failed cleanup. -/
def cleanupUnresolved (cause cleanupError : Error) : LedgerAction Error := do
  modify fun ledger => { ledger with cleanupComplete := false }
  let cause := cause.join (some
    (.pair (.sentinel .ambiguous) ": cleanup remains unresolved: " cleanupError))
  let ledger ← get
  if ledger.status ≠ .ambiguous then
    let transitionError ← transition .ambiguous "cleanup_unresolved"
    return cause.join transitionError
  else return cause

def finishError (code : String) (cause : Error) : LedgerAction (Result × Option Error) := do
  let transitionError ← transition (failureStatus cause) code
  let cause := cause.join transitionError
  match ← dispatcher.cleanupLedger with
  | none => return (resultOf (← get), some cause)
  | some cleanupError =>
    let cause ← cleanupUnresolved cause cleanupError
    return (resultOf (← get), some cause)

/-! ## Waiting for GitHub -/

def waitForRun (repository : String) (policy : RepositoryPolicy) (ledger : Ledger)
    (identity : Identity) : Nat → Action (Except Error WorkflowRun)
  | 0 => .spin
  | polls + 1 => do
    match ← GitHub.getRun repository ledger.runID with
    | .ok run =>
      match validateBoundRun run policy ledger.trustedSHA identity.nonce with
      | some error => return .error error
      | none => return .ok run
    | .error error =>
      if ¬isHTTPStatus error 404 then return .error error
      else
        match ← perform .sleep with
        | some _ =>
          return .error (ambiguous "run ID was not observable before timeout")
        | none => waitForRun repository policy ledger identity polls

def waitForJob (repository : String) (policy : RepositoryPolicy) (runID : Int)
    (label : String) : Nat → Action (Except Error WorkflowJob)
  | 0 => .spin
  | polls + 1 => do
    match ← GitHub.listJobs repository runID with
    | .error error => return .error error
    | .ok [job] =>
      if queuedJobRefused job policy runID label then
        return .error (.text "queued job identity is invalid")
      else return .ok job
    | .ok (_ :: _ :: _) => return .error (ambiguous "dispatch created duplicate jobs")
    | .ok [] =>
      match ← perform .sleep with
      | some _ => return .error (ambiguous "job was not observable before timeout")
      | none => waitForJob repository policy runID label polls

def waitForCompletion (repository : String) (ledger : Ledger) (policy : RepositoryPolicy)
    (identity : Identity) : Nat → Action (Option Error)
  | 0 => .spin
  | polls + 1 => do
    match ← GitHub.getRun repository ledger.runID with
    | .error error => return some error
    | .ok run =>
      if (validateRunIdentity run policy ledger.trustedSHA identity.nonce).isSome then
        return some (ambiguous "bound run identity changed")
      else
        match ← GitHub.getJob repository ledger.jobID with
        | .error error => return some error
        | .ok job =>
          match validateExecutedJob job ledger policy identity with
          | some error => return some error
          | none =>
            if run.status = "completed" ∧ run.conclusion ≠ "success" then
              return some (.text "workflow completed without success")
            else if job.status = "completed" ∧ job.conclusion ≠ "success" then
              return some (.text "job completed without success")
            else if run.status = "completed" ∧ job.status = "completed" then
              return none
            else if ¬knownExecutionStatus run.status ∨
              ¬knownExecutionStatus job.status then
              return some (.text "workflow or job returned an unknown state")
            else
              match ← perform .sleep with
              | some error => return some error
              | none => waitForCompletion repository ledger policy identity polls

/-! ## The run -/

def onStarted (process : ProcessIdentity) : LedgerAction (Option Error) := do
  modify fun ledger => ledger.withProcess process
  transition .runnerStarted ""

def onReady (receipt : IsolationReceipt) : LedgerAction (Option Error) := do
  modify fun ledger => ledger.withIsolation receipt
  transition .isolationReady ""

def runnerRequest (ledger : Ledger) (identity : Identity) (secret : List UInt8)
    (logDirectory : String) : Runner.RunnerRequest where
  driverExecutable := dispatcher.config.isolationDriver
  driverSHA256 := dispatcher.config.driverSHA256
  baseImageSHA256 := dispatcher.config.baseImageSHA256
  runnerDirectory := dispatcher.config.runnerDirectory
  identity := identity
  leaseID := ledger.leaseID
  jitConfig := secret
  logDirectory := logDirectory
  shutdownGrace := dispatcher.config.shutdownGrace

/-- The independent check of the runner's lifecycle proof. -/
def lifecycleRefused (ledger : Ledger) (outcome : Runner.RunnerOutcome) : Bool :=
  outcome.process ≠ ledger.process ||
    !validReadyReceipt outcome.ready ledger.leaseID dispatcher.config.baseImageSHA256 ||
    ledger.isolationID ≠ outcome.ready.isolationID ||
    ledger.isolationBase ≠ outcome.ready.baseSHA256 ||
    !validDestroyedReceipt outcome.destroyed ledger.leaseID ledger.isolationID
      dispatcher.config.baseImageSHA256

/-- `run` once the candidate ref has been resolved again. -/
def conclude (request : Request) (candidateSHA : String) :
    LedgerAction (Result × Option Error) := do
  if candidateSHA ≠ request.candidateSHA then
    modify Ledger.summed
    let transitionError ← transition .stale "candidate_ref_moved"
    return (resultOf (← get), some ((.wrap "" (.sentinel .stale) "" : Error).join transitionError))
  else
    modify Ledger.summed
    let ledger ← get
    if ¬ledger.cleanupComplete then
      dispatcher.finishError "cleanup_proof" (ambiguous "cleanup proof is incomplete")
    else
      match ← transition .completed "" with
      | some error =>
        modify fun ledger => { ledger with cleanupComplete := false }
        return (resultOf (← get),
          some (.pair (.sentinel .ambiguous) ": persist completed run: " error))
      | none =>
        log "dispatch completed"
        return (resultOf (← get), none)

/-- `run` once the isolation is gone. -/
def awaitCompletion (request : Request) (policy : RepositoryPolicy) (identity : Identity) :
    LedgerAction (Result × Option Error) := do
  let ledger ← get
  match ← waitForCompletion request.repository ledger policy identity dispatcher.polls with
  | some error => dispatcher.finishError "run_completion" error
  | none =>
    modify fun ledger => { ledger with runTerminal := true }
    match ← dispatcher.ensureRunnerGone with
    | some error => dispatcher.finishError "runner_disappearance" error
    | none =>
      modify fun ledger => { ledger with runnerGone := true }
      match ← GitHub.resolveRef request.repository request.candidateRef with
      | .error _ =>
        dispatcher.finishError "candidate_revalidate"
          (ambiguous "candidate ref could not be revalidated")
      | .ok candidateSHA => dispatcher.conclude request candidateSHA

/-- `run` once the isolation runner has returned. -/
def settleIsolation (outcome : Runner.RunnerOutcome) (error : Option Error) :
    LedgerAction (Option Error) := do
  let ledger ← get
  match error with
  | some error => return some error
  | none =>
    if dispatcher.lifecycleRefused ledger outcome then
      return some (ambiguous "runner lifecycle proof does not match durable state")
    else
      modify Ledger.withoutIsolation
      saveLedger

def run (request : Request) (policy : RepositoryPolicy) (identity : Identity)
    (secret : List UInt8) : LedgerAction (Result × Option Error) := do
  let ledger ← get
  match ← requestLogDir ledger.requestID with
  | .error error => dispatcher.finishError "log_directory" error
  | .ok logDirectory =>
    modify fun ledger => { ledger with isolationGone := false }
    match ← saveLedger with
    | some _ =>
      dispatcher.finishError "state_before_isolation" (ambiguous "persist isolation intent")
    | none =>
      let (outcome, runError) ← Runner.run
        (dispatcher.runnerRequest ledger identity secret logDirectory)
        { onStarted := some onStarted, onReady := some onReady }
      match ← dispatcher.settleIsolation outcome runError with
      | some error => dispatcher.finishError "runner" error
      | none => dispatcher.awaitCompletion request policy identity

/-! ## Binding and dispatching -/

/-- `bindAndRun` on the answer of `GenerateJIT`. -/
def registerRunner (request : Request) (policy : RepositoryPolicy) (identity : Identity)
    (answer : Except Error JITRegistration) : LedgerAction (Result × Option Error) := do
  match answer with
  | .error error =>
    if authoritativeJITRejection error then
      modify fun ledger => { ledger with runnerGone := true }
      match ← saveLedger with
      | none => dispatcher.finishError "jit" error
      | some saveError =>
        dispatcher.finishError "jit" (error.join (some
          (.pair (.sentinel .ambiguous) ": persist authoritative JIT rejection: " saveError)))
    else dispatcher.finishError "jit" error
  | .ok registration =>
    match validateJITRegistration registration identity with
    | some error => dispatcher.finishError "jit_identity" error
    | none =>
      modify fun ledger => { ledger with runnerID := registration.runner.id }
      match ← transition .jitCreated "" with
      | some _ =>
        dispatcher.finishError "state_jit" (ambiguous "persist JIT runner identity")
      | none => dispatcher.run request policy identity registration.secret

/-- `bindAndRun` once the job is bound. -/
def generateRunner (request : Request) (policy : RepositoryPolicy) (identity : Identity) :
    LedgerAction (Result × Option Error) := do
  match ← GitHub.runnerLabelExists request.repository identity.label with
  | .error error => dispatcher.finishError "label_recheck" error
  | .ok true =>
    dispatcher.finishError "label_race" (ambiguous "runner label appeared after dispatch")
  | .ok false =>
    modify fun ledger => { ledger with runnerGone := false }
    match ← saveLedger with
    | some _ => dispatcher.finishError "state_before_jit" (ambiguous "persist JIT intent")
    | none =>
      let answer ← GitHub.generateJIT request.repository identity policy.runnerGroupID
      dispatcher.registerRunner request policy identity answer

def bindAndRun (request : Request) (policy : RepositoryPolicy) (identity : Identity) :
    LedgerAction (Result × Option Error) := do
  let ledger ← get
  match ← waitForRun request.repository policy ledger identity dispatcher.polls with
  | .error error => dispatcher.finishError "run_bind" error
  | .ok run =>
    match ← waitForJob request.repository policy run.id identity.label dispatcher.polls with
    | .error error => dispatcher.finishError "job_bind" error
    | .ok job =>
      modify fun ledger => { ledger with jobID := job.id }
      match ← transition .runBound "" with
      | some _ => dispatcher.finishError "state_run_bound" (ambiguous "persist bound job")
      | none => dispatcher.generateRunner request policy identity

def dispatchInputs (request : Request) (identity : Identity) : DispatchInputs where
  candidateSHA := request.candidateSHA
  candidateRef := request.candidateRef
  dispatchNonce := identity.nonce
  runnerLabel := identity.label

def dispatchPrepared (request : Request) (policy : RepositoryPolicy) (identity : Identity) :
    LedgerAction (Result × Option Error) := do
  modify fun ledger => { ledger with runTerminal := false }
  match ← transition .dispatching "" with
  | some error => return (resultOf (← get), some error)
  | none =>
    match ← GitHub.dispatchWorkflow request.repository policy.workflow policy.trustedRef
      (dispatchInputs request identity) with
    | .error error =>
      if !error.is .ambiguous then
        modify fun ledger => { ledger with runTerminal := true }
        dispatcher.finishError "dispatch" error
      else dispatcher.finishError "dispatch" error
    | .ok runID =>
      if runID ≤ 0 then
        dispatcher.finishError "dispatch_identity" (ambiguous "dispatch returned no run ID")
      else
        modify fun ledger => { ledger with runID := runID }
        match ← transition .workflowDispatched "" with
        | some _ =>
          dispatcher.finishError "state_dispatch" (ambiguous "persist dispatch identity")
        | none => dispatcher.bindAndRun request policy identity

/-! ## Startup reconciliation -/

/-- The loop of `reconcileStartup` over the stored ledgers: whether one owns the
marker, and the incomplete one. -/
def scanLedgers (orphan : Option LeaseMarker) :
    List Ledger → Bool → Option Ledger → Except Error (Bool × Option Ledger)
  | [], matched, incomplete => .ok (matched, incomplete)
  | ledger :: rest, matched, incomplete =>
    let matched := matched || orphan.any fun marker => ledger.leaseID = marker.leaseID
    if ledger.cleanupComplete then scanLedgers orphan rest matched incomplete
    else match incomplete with
      | some _ => .error (.text "multiple incomplete ledgers violate global admission")
      | none => scanLedgers orphan rest matched (some ledger)

/-- The ledger that `reconcileStartup` has to recover, if the stored ledgers and
the marker agree. -/
def findIncomplete (ledgers : List Ledger) (orphan : Option LeaseMarker) :
    Except Error (Option Ledger) :=
  match scanLedgers orphan ledgers false none with
  | .error error => .error error
  | .ok (matched, incomplete) =>
    if orphan.isSome && !matched then
      .error (.text "guard lease has no matching durable ledger")
    else if incomplete.any fun ledger =>
      orphan.any fun marker => ledger.leaseID ≠ marker.leaseID then
      .error (.text "incomplete ledger does not own the active Guard lease")
    else .ok incomplete

def releaseOrphan (orphan : LeaseMarker) : Action (Option Error) := do
  let answer ← perform (.releaseOrphan orphan)
  return answer.error

/-- The recovery of the incomplete ledger, up to its last save. -/
def reconcileLedger : LedgerAction (Option Error) := do
  match ← transition .reconciling "startup_reconciliation" with
  | some error => return some error
  | none =>
    match ← dispatcher.cleanupLedger with
    | some error => return some error
    | none =>
      let now ← perform .now
      modify fun ledger => ledger.moved .ambiguous "reconciled_after_restart" now
      saveLedger

/-- The recovery with the lease of the marker that is already there, or with a
lease acquired for it. -/
def reconcileIncomplete (ledger : Ledger) (orphan : Option LeaseMarker) :
    Action (Option Error) := do
  match orphan with
  | some marker =>
    let (error, _) ← (dispatcher.reconcileLedger).run ledger
    match error with
    | some error => return some error
    | none => releaseOrphan marker
  | none =>
    let admission ← perform (.acquire ledger.leaseID)
    match admission.error with
    | some error => return some (.wrap "reacquire Guard for recovery: " error "")
    | none =>
      let (error, _) ← (dispatcher.reconcileLedger).run ledger
      match error with
      | some error =>
        let _ ← perform (.abandon ledger.leaseID)
        return some error
      | none =>
        let answer ← perform (.release ledger.leaseID)
        return answer.error

/-- `reconcileStartup` on the stored ledgers and the marker. -/
def reconcileFound (ledgers : List Ledger) (orphan : Option LeaseMarker) :
    Action (Option Error) :=
  match findIncomplete ledgers orphan with
  | .error error => return some error
  | .ok (some ledger) => dispatcher.reconcileIncomplete ledger orphan
  | .ok none =>
    match orphan with
    | none => return none
    | some marker => releaseOrphan marker

def reconcileStartup : Action (Option Error) := do
  match ← perform .list with
  | .error error => return some error
  | .ok ledgers =>
    match ← perform .orphan with
    | .error error => return some error
    | .ok orphan => dispatcher.reconcileFound ledgers orphan

/-! ## Dispatch -/

def verifyAuthority (request : Request) (policy : RepositoryPolicy) :
    Action (Except Error String) := do
  match ← GitHub.defaultBranch request.repository with
  | .error error => return .error (.wrap "get default branch: " error "")
  | .ok branch =>
    if policy.trustedRef ≠ "refs/heads/" ++ branch then
      return .error (.text "trusted ref is not the default branch")
    else
      match ← GitHub.resolveRef request.repository policy.trustedRef with
      | .error error => return .error (.wrap "resolve trusted ref: " error "")
      | .ok trustedSHA =>
        match ← GitHub.workflowContent request.repository policy.workflow trustedSHA with
        | .error error => return .error (.wrap "read trusted workflow: " error "")
        | .ok workflow =>
          if Text.hexEncode (Sha256.sum256 workflow) ≠ policy.workflowSHA256 then
            return .error (.text "trusted workflow digest drift")
          else
            match ← GitHub.resolveRef request.repository request.candidateRef with
            | .error error => return .error (.wrap "resolve candidate ref: " error "")
            | .ok candidateSHA =>
              if candidateSHA ≠ request.candidateSHA then
                return .error
                  (.text "candidate SHA does not match its allowlisted ref")
              else return .ok trustedSHA

def newLedger (request : Request) (policy : RepositoryPolicy) (trustedSHA : String)
    (identity : Identity) (now : Nat) : Ledger where
  version := ledgerVersion
  requestID := requestIDOf request
  repository := request.repository
  candidateRef := request.candidateRef
  candidateSHA := request.candidateSHA
  trustedSHA := trustedSHA
  workflow := policy.workflow
  workflowSHA256 := policy.workflowSHA256
  nonce := identity.nonce
  runnerLabel := identity.label
  runnerName := identity.runnerName
  workFolder := identity.workFolder
  runID := 0
  jobID := 0
  runnerID := 0
  leaseID := identity.nonce
  processPID := 0
  processStart := 0
  processGroup := 0
  cgroupPath := ""
  isolationID := ""
  isolationBase := ""
  runTerminal := true
  runnerGone := true
  isolationGone := true
  cleanupComplete := false
  status := .prepared
  createdAt := now
  updatedAt := now
  failureCode := ""

/-- `Dispatch` once the lease is held: the end of `Dispatch` with its deferred
`Abandon`. -/
def releaseOrAbandon (result : Result) (dispatchError : Option Error) :
    LedgerAction (Result × Option Error) := do
  let ledger ← get
  if ledger.cleanupComplete then
    let released ← perform (.release ledger.leaseID)
    match released.error with
    | none => return (result, dispatchError)
    | some releaseError =>
      modify fun ledger => { ledger with cleanupComplete := false }
      let _ ← transition .ambiguous "guard_release"
      return (resultOf (← get), GoError.joinAll [dispatchError,
        some (.pair (.sentinel .ambiguous) ": guard lease release failed: " releaseError)])
  else
    let _ ← perform (.abandon ledger.leaseID)
    return (result, dispatchError)

/-- The ledger of a request that was refused the Guard lease. -/
def unadmitted (ledger : Ledger) (error : Error) : Ledger :=
  { ledger with
    runTerminal := true, runnerGone := true, isolationGone := true
    cleanupComplete := !error.is .ambiguous }

/-- `Dispatch` once its ledger is stored. -/
def dispatchStored (request : Request) (policy : RepositoryPolicy) (identity : Identity) :
    LedgerAction (Result × Option Error) := do
  let ledger ← get
  let admission ← perform (.acquire ledger.leaseID)
  match admission.error with
  | some error =>
    modify fun ledger => unadmitted ledger error
    finishWithoutLease "guard_admission" error
  | none =>
    let (result, dispatchError) ← dispatcher.dispatchPrepared request policy identity
    releaseOrAbandon result dispatchError

/-- `Dispatch` of a request for which no ledger is stored. -/
def dispatchFresh (request : Request) (policy : RepositoryPolicy) :
    Action (Result × Option Error) := do
  match ← verifyAuthority request policy with
  | .error error => return (.empty, some error)
  | .ok trustedSHA =>
    match ← perform .random with
    | .error error => return (.empty, some (.wrap "identity randomness: " error ""))
    | .ok value =>
      let identity := newIdentity value
      match ← GitHub.runnerLabelExists request.repository identity.label with
      | .error error => return (.empty, some (.wrap "check runner label: " error ""))
      | .ok true => return (.empty, some (.text "runner label collision"))
      | .ok false =>
        let now ← perform .now
        let ledger := newLedger request policy trustedSHA identity now
        match ← save ledger with
        | some error => return (.empty, some error)
        | none =>
          let (outcome, _) ← (dispatcher.dispatchStored request policy identity).run ledger
          return outcome

/-- `replay` for a ledger that was found. -/
def replayLedger (request : Request) (ledger : Ledger) : Result × Option Error :=
  if ledger.repository ≠ request.repository ∨ ledger.candidateRef ≠ request.candidateRef ∨
    ledger.candidateSHA ≠ request.candidateSHA then
    (.empty, some (.because .replay "ledger request mismatch"))
  else
    let result : Result :=
      { requestID := requestIDOf request, runID := ledger.runID
        status := some ledger.status, replay := true }
    if ledger.status = .completed ∧ ledger.cleanupComplete then (result, none)
    else (result, some (.because .replay ("existing request is " ++ ledger.status.text)))

/-- `Dispatch` under the machine lock. -/
def dispatchLocked (request : Request) (policy : RepositoryPolicy) :
    Action (Result × Option Error) := do
  match ← dispatcher.reconcileStartup with
  | some error =>
    return (.empty, some (.wrap "startup reconciliation failed closed: " error ""))
  | none =>
    match ← perform (.load (requestIDOf request)) with
    | .error error => return (.empty, some error)
    | .ok (some ledger) => return replayLedger request ledger
    | .ok none => dispatcher.dispatchFresh request policy

def dispatch (request : Request) : Action (Result × Option Error) :=
  match dispatcher.config.policy request.repository with
  | none => return (.empty, some (invalid "repository is not allowlisted"))
  | some policy =>
    match validateRequest request policy with
    | some error => return (.empty, some error)
    | none => do
      match ← perform .runnerPreflight with
      | some error =>
        return (.empty, some (.wrap "local isolation preflight failed: " error ""))
      | none =>
        match ← perform .gatePreflight with
        | some error =>
          return (.empty, some (.wrap "local Guard preflight failed: " error ""))
        | none =>
          match ← perform .acquireQueue with
          | some error => return (.empty, some error)
          | none =>
            let outcome ← dispatcher.dispatchLocked request policy
            perform .closeQueue
            return outcome

end Dispatcher

end Civm.JitDispatcher
