import Civm.Foundation.Program
import Civm.JitDispatcher.Validation

/-! # What the dispatcher asks of its outside

Every effect of a dispatch: the state directory, the Guard gate, GitHub's HTTP
API, the isolation driver with its containment, the clock and randomness. -/

namespace Civm.JitDispatcher

/-! ## GitHub's answers -/

/-- The outcome of `client.do`: no usable response (with `ctx.Err()` when the
context is done), or a status with the decoded body, if it decodes. -/
inductive Transport (Body : Type)
  | failed (canceled : Option String)
  | response (status : Int) (requestID : String) (body : Option Body)

structure ContentBody where
  encoding : String
  sha : String
  content : Option (List UInt8)

/-- `urlsNameRun` is whether the two URLs pass `validateReceipt`. -/
structure DispatchBody where
  runID : Int
  urlsNameRun : Bool

structure RunnersPage where
  totalCount : Int
  runners : List RemoteRunner

structure JobsPage where
  totalCount : Int
  jobs : List WorkflowJob

/-! ## The driver -/

inductive DriverMode
  | run
  | recover
  deriving DecidableEq

/-- The driver's command line. An empty `isolationID` is not passed. -/
structure DriverArguments where
  mode : DriverMode
  leaseID : String
  runnerDirectory : String
  expectedBase : String
  isolationID : String
  deriving DecidableEq

structure DriverInput where
  protocol : Int
  leaseID : String
  jitConfig : List UInt8
  deriving DecidableEq

/-- The result of `command.Wait`. -/
inductive DriverExit
  | clean
  | exitError (message : String)
  | failed (error : Error)

def DriverExit.error : DriverExit → Option Error
  | .clean => none
  | .exitError message => some (.text message)
  | .failed error => some error

def DriverExit.ignoreSignalExit : DriverExit → Option Error
  | .clean => none
  | .exitError _ => none
  | .failed error => some error

/-- A select between the driver's exit and something that ends the wait. -/
inductive Awaited
  | exited (exit : DriverExit)
  | expired (cause : Error)

/-! ## Durable state -/

/-- The outcome of `Store.Save`. `stored` is whether the new ledger is the
durable one afterwards, which a failed save does not tell. -/
structure SaveAnswer where
  error : Option Error
  stored : Bool

/-- The outcome of `Acquire`, with the marker that exists afterwards. -/
structure AcquireAnswer where
  error : Option Error
  marker : Option LeaseMarker

/-- The outcome of a release. `remains` is whether the marker still exists. -/
structure ReleaseAnswer where
  error : Option Error
  remains : Bool

/-! ## Calls and answers -/

inductive Call
  | runnerPreflight
  | gatePreflight
  | acquireQueue
  | closeQueue
  | now
  | sleep
  | random
  | info (message : String)
  | observationExpired
  | list
  | load (requestID : String)
  | save (ledger : Ledger)
  | requestLogDir (requestID : String)
  | acquire (leaseID : String)
  | orphan
  | releaseOrphan (marker : LeaseMarker)
  | release (leaseID : String)
  | abandon (leaseID : String)
  | getRepository (repository : String)
  | getRef (repository ref : String)
  | getContents (repository workflow sha : String)
  | listRunners (repository : String) (page : Nat)
  | postDispatch (repository workflow trustedRef : String) (inputs : DispatchInputs)
  | getRun (repository : String) (runID : Int)
  | listJobs (repository : String) (runID : Int) (page : Nat)
  | getJob (repository : String) (jobID : Int)
  | postJITConfig (repository : String) (identity : Identity) (runnerGroupID : Int)
  | getRunner (repository : String) (runnerID : Int)
  | deleteRunner (repository : String) (runnerID : Int)
  | postCancel (repository : String) (runID : Int)
  | trustedExecutable (path sha : String)
  | logDirectory (path : String)
  | openLog (path : String) (appendExisting : Bool)
  | pipe
  | prepare (leaseID : String)
  | stdinPipe
  | start (arguments : DriverArguments)
  | closePreparation
  | attach (leaseID : String)
  | readReceipt
  | writeInput (input : DriverInput)
  | closeInput
  | awaitDriver
  | awaitExit
  | signalGroup (force : Bool)
  | terminate (process : ProcessIdentity) (grace : Nat)
  | recover (leaseID : String) (process : ProcessIdentity) (grace : Nat)
  | flushLogs

@[reducible] def Call.Answer : Call → Type
  | .now => Nat
  | .info _ | .closeQueue => Unit
  | .observationExpired => Bool
  | .random => Except Error (List UInt8)
  | .list => Except Error (List Ledger)
  | .load _ => Except Error (Option Ledger)
  | .save _ => SaveAnswer
  | .requestLogDir _ => Except Error String
  | .acquire _ => AcquireAnswer
  | .orphan => Except Error (Option LeaseMarker)
  | .releaseOrphan _ | .release _ => ReleaseAnswer
  | .getRepository _ => Transport String
  | .getRef _ _ => Transport String
  | .getContents _ _ _ => Transport ContentBody
  | .listRunners _ _ => Transport RunnersPage
  | .postDispatch _ _ _ _ => Transport DispatchBody
  | .getRun _ _ => Transport WorkflowRun
  | .listJobs _ _ _ => Transport JobsPage
  | .getJob _ _ => Transport WorkflowJob
  | .postJITConfig _ _ _ => Transport JITRegistration
  | .getRunner _ _ => Transport RemoteRunner
  | .deleteRunner _ _ | .postCancel _ _ => Transport Unit
  | .attach _ => Except Error ProcessIdentity
  | .readReceipt => Except Error IsolationReceipt
  | .awaitDriver | .awaitExit => Awaited
  | .runnerPreflight | .gatePreflight | .acquireQueue | .sleep | .abandon _
  | .trustedExecutable _ _ | .logDirectory _ | .openLog _ _ | .pipe | .prepare _
  | .stdinPipe | .start _ | .closePreparation | .writeInput _ | .closeInput
  | .signalGroup _ | .terminate _ _ | .recover _ _ _ | .flushLogs => Option Error

abbrev Action := Program Call.Answer

/-- An action that also holds the dispatcher's in-memory ledger. -/
abbrev LedgerAction := Routine Call.Answer Ledger

abbrev Trace := List (Event Call.Answer)

def perform (call : Call) : Action call.Answer := Program.perform call

end Civm.JitDispatcher
