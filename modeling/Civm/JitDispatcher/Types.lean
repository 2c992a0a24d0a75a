import Civm.Foundation.GoError
import Civm.Foundation.Sha256

/-! # Data of the JIT dispatcher

Requests, policies, identities, the durable ledger, and the answers of GitHub
and of the isolation driver, with the fields the dispatcher reads. Times are
natural numbers, zero being Go's zero time. -/

namespace Civm.JitDispatcher

inductive Sentinel
  | ambiguous
  | busy
  | invalid
  | replay
  | stale
  deriving DecidableEq

structure HTTPError where
  operation : String
  status : Int
  requestID : String
  deriving DecidableEq

abbrev Error := GoError Sentinel HTTPError

def isHTTPStatus (error : Error) (status : Int) : Bool :=
  match error.as? with
  | some remote => remote.status = status
  | none => false

inductive Status
  | prepared
  | dispatching
  | workflowDispatched
  | runBound
  | jitCreated
  | runnerStarted
  | isolationReady
  | reconciling
  | completed
  | failed
  | stale
  | ambiguous
  deriving DecidableEq

def Status.text : Status → String
  | .prepared => "prepared"
  | .dispatching => "dispatching"
  | .workflowDispatched => "workflow_dispatched"
  | .runBound => "run_bound"
  | .jitCreated => "jit_created"
  | .runnerStarted => "runner_started"
  | .isolationReady => "isolation_ready"
  | .reconciling => "reconciling"
  | .completed => "completed"
  | .failed => "failed"
  | .stale => "stale"
  | .ambiguous => "ambiguous"

structure RepositoryPolicy where
  repository : String
  trustedRef : String
  workflow : String
  workflowSHA256 : String
  candidateRefs : List String
  runnerGroupID : Int
  jobName : String
  deriving DecidableEq

structure Request where
  repository : String
  candidateRef : String
  candidateSHA : String
  idempotency : String
  deriving DecidableEq

structure Identity where
  nonce : String
  label : String
  runnerName : String
  workFolder : String
  deriving DecidableEq

/-- `Ledger`, version 2 of the durable record of one request. -/
structure Ledger where
  version : Int
  requestID : String
  repository : String
  candidateRef : String
  candidateSHA : String
  trustedSHA : String
  workflow : String
  workflowSHA256 : String
  nonce : String
  runnerLabel : String
  runnerName : String
  workFolder : String
  runID : Int
  jobID : Int
  runnerID : Int
  leaseID : String
  processPID : Int
  processStart : Nat
  processGroup : Int
  cgroupPath : String
  isolationID : String
  isolationBase : String
  runTerminal : Bool
  runnerGone : Bool
  isolationGone : Bool
  cleanupComplete : Bool
  status : Status
  createdAt : Nat
  updatedAt : Nat
  failureCode : String
  deriving DecidableEq

structure Result where
  requestID : String
  runID : Int
  status : Option Status
  replay : Bool
  deriving DecidableEq

def Result.empty : Result where
  requestID := ""
  runID := 0
  status := none
  replay := false

structure DispatchInputs where
  candidateSHA : String
  candidateRef : String
  dispatchNonce : String
  runnerLabel : String
  deriving DecidableEq

structure WorkflowRun where
  id : Int
  event : String
  headSHA : String
  displayTitle : String
  path : String
  status : String
  conclusion : String
  deriving DecidableEq

structure WorkflowJob where
  id : Int
  runID : Int
  name : String
  status : String
  conclusion : String
  labels : List String
  runnerID : Int
  runnerName : String
  runnerGroupID : Int
  deriving DecidableEq

structure RunnerLabel where
  name : String
  type : String
  deriving DecidableEq

structure RemoteRunner where
  id : Int
  name : String
  status : String
  busy : Bool
  labels : List RunnerLabel
  deriving DecidableEq

structure JITRegistration where
  secret : List UInt8
  runner : RemoteRunner
  deriving DecidableEq

structure ProcessIdentity where
  pid : Int
  startTicks : Nat
  processGroup : Int
  cgroupPath : String
  deriving DecidableEq

def ProcessIdentity.zero : ProcessIdentity where
  pid := 0
  startTicks := 0
  processGroup := 0
  cgroupPath := ""

structure IsolationReceipt where
  protocol : Int
  event : String
  leaseID : String
  isolationID : String
  baseSHA256 : String
  disposable : Bool
  hostMounts : Bool
  hostDocker : Bool
  productSecrets : Bool
  destroyed : Bool
  resetVerified : Bool
  deriving DecidableEq

def IsolationReceipt.zero : IsolationReceipt where
  protocol := 0
  event := ""
  leaseID := ""
  isolationID := ""
  baseSHA256 := ""
  disposable := false
  hostMounts := false
  hostDocker := false
  productSecrets := false
  destroyed := false
  resetVerified := false

structure LeaseMarker where
  version : Int
  leaseID : String
  admissionID : String
  holderPID : Int
  startTicks : Nat
  deriving DecidableEq

def maxJITResponse : Nat := 262144

/-- `RequestID`: the digest of the request's fields, joined by NUL bytes. -/
def requestIDOf (request : Request) : String :=
  Text.hexEncode (Sha256.sum256 ("\x00".intercalate
    [request.repository, request.candidateRef, request.candidateSHA,
      request.idempotency]).toUTF8.toList)

theorem requestIDOf_isHex (request : Request) : Text.isHex 64 (requestIDOf request) = true :=
  Text.isHex_hexEncode (by rw [Sha256.sum256_length])

def Ledger.process (ledger : Ledger) : ProcessIdentity where
  pid := ledger.processPID
  startTicks := ledger.processStart
  processGroup := ledger.processGroup
  cgroupPath := ledger.cgroupPath

def Ledger.identity (ledger : Ledger) : Identity where
  nonce := ledger.nonce
  label := ledger.runnerLabel
  runnerName := ledger.runnerName
  workFolder := ledger.workFolder

end Civm.JitDispatcher
