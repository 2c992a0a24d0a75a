import Civm.JitDispatcher.Calls

/-! # The GitHub client

`github.go` over the outcomes of `client.do`: argument checks, the
classification of statuses, identity checks and pagination. -/

namespace Civm.JitDispatcher.GitHub

def ambiguous (detail : String) : Error := .because .ambiguous detail

/-- `getJSON` on the outcome of its request. -/
def getJSON (operation : String) : Transport Body → Except Error Body
  | .failed (some cause) =>
    .error (.wrap ("GitHub API " ++ operation ++ " canceled: ") (.text cause) "")
  | .failed none => .error (.text ("GitHub API " ++ operation ++ " transport failed"))
  | .response status requestID body =>
    if status ≠ 200 then .error (.typed ⟨operation, status, requestID⟩)
    else match body with
      | none => .error (.text ("GitHub API " ++ operation ++ " response is malformed"))
      | some value => .ok value

def ambiguousTransportError (canceled : Option String) (operation : String) : Error :=
  match canceled with
  | some cause =>
    .pair (.sentinel .ambiguous) (": " ++ operation ++ " canceled: ") (.text cause)
  | none => ambiguous (operation ++ " transport failed")

def ambiguousStatus (remote : HTTPError) : Error :=
  .pair (.sentinel .ambiguous) ": " (.typed remote)

def defaultBranch (repository : String) : Action (Except Error String) :=
  match validateRepository repository with
  | some error => return .error error
  | none => do
    match getJSON "get repository" (← perform (.getRepository repository)) with
    | .error error => return .error error
    | .ok branch =>
      if (validateRef ("refs/heads/" ++ branch)).isSome then
        return .error (.text "GitHub default branch is invalid")
      else return .ok branch

def resolveRef (repository ref : String) : Action (Except Error String) :=
  match validateRepository repository with
  | some error => return .error error
  | none =>
    match validateRef ref with
    | some error => return .error error
    | none => do
      match getJSON "resolve ref" (← perform (.getRef repository ref)) with
      | .error error => return .error error
      | .ok sha =>
        if matchesSHA sha then return .ok sha
        else return .error (.text "GitHub ref response contains an invalid SHA")

def maxAPIResponse : Nat := 2097152

def workflowContent (repository workflow sha : String) : Action (Except Error (List UInt8)) :=
  if (validateRepository repository).isSome ∨ ¬matchesWorkflow workflow ∨ ¬matchesSHA sha then
    return .error (invalid "workflow or SHA is invalid")
  else do
    match getJSON "get workflow" (← perform (.getContents repository workflow sha)) with
    | .error error => return .error error
    | .ok body =>
      if body.encoding ≠ "base64" ∨ ¬matchesSHA body.sha then
        return .error (.text "GitHub workflow response is invalid")
      else match body.content with
        | none => return .error (.text "GitHub workflow content is invalid")
        | some content =>
          if content.length = 0 ∨ content.length > maxAPIResponse then
            return .error (.text "GitHub workflow content is invalid")
          else return .ok content

def labelRefused (repository label : String) : Bool :=
  (validateRepository repository).isSome || !Text.hasPrefix label "civm-jit-" ||
    label.utf8ByteSize != 73

def paginationExceeded (kind : String) : Error :=
  .text (kind ++ " pagination exceeded its safety limit")

/-- The pages of `RunnerLabelExists` from `page` on. -/
def runnerLabelPages (repository label : String) : Nat → Nat → Action (Except Error Bool)
  | 0, _ => return .error (paginationExceeded "runner")
  | remaining + 1, page => do
    match getJSON "list runners" (← perform (.listRunners repository page)) with
    | .error error => return .error error
    | .ok body =>
      if body.runners.any fun runner => runner.labels.any fun other => other.name = label then
        return .ok true
      else if body.runners.length < 100 ∨ (page * 100 : Int) ≥ body.totalCount then
        return .ok false
      else runnerLabelPages repository label remaining (page + 1)

def runnerLabelExists (repository label : String) : Action (Except Error Bool) :=
  if labelRefused repository label then
    return .error (invalid "repository or runner label is invalid")
  else runnerLabelPages repository label 100 1

def validateDispatchInputs (inputs : DispatchInputs) : Bool :=
  matchesSHA inputs.candidateSHA && (validateRef inputs.candidateRef).isNone &&
    matchesDigest inputs.dispatchNonce && inputs.runnerLabel = "civm-jit-" ++ inputs.dispatchNonce

/-- `DispatchWorkflow` on the outcome of its request: the new run's ID. -/
def dispatchReceipt : Transport DispatchBody → Except Error Int
  | .failed canceled => .error (ambiguousTransportError canceled "dispatch workflow")
  | .response status requestID body =>
    let remote : HTTPError := ⟨"dispatch workflow", status, requestID⟩
    if status ≠ 200 then
      if 400 ≤ status ∧ status < 500 then .error (.typed remote)
      else .error (ambiguousStatus remote)
    else match body with
      | none => .error (ambiguous "dispatch response is malformed")
      | some receipt =>
        if receipt.runID ≤ 0 ∨ ¬receipt.urlsNameRun then
          .error (ambiguous "dispatch response identity is invalid")
        else .ok receipt.runID

def dispatchWorkflow (repository workflow trustedRef : String) (inputs : DispatchInputs) :
    Action (Except Error Int) :=
  if (validateRepository repository).isSome ∨ ¬matchesWorkflow workflow ∨
    (validateRef trustedRef).isSome ∨ ¬validateDispatchInputs inputs then
    return .error (invalid "dispatch arguments are invalid")
  else return dispatchReceipt (← perform (.postDispatch repository workflow trustedRef inputs))

def getRun (repository : String) (runID : Int) : Action (Except Error WorkflowRun) :=
  if (validateRepository repository).isSome ∨ runID ≤ 0 then
    return .error (invalid "run ID is invalid")
  else do
    match getJSON "get run" (← perform (.getRun repository runID)) with
    | .error error => return .error error
    | .ok run =>
      if run.id ≠ runID ∨ ¬matchesSHA run.headSHA then
        return .error (.text "GitHub run identity is invalid")
      else return .ok run

/-- The pages of `ListJobs` from `page` on, after the jobs already read. -/
def jobPages (repository : String) (runID : Int) :
    Nat → Nat → List WorkflowJob → Action (Except Error (List WorkflowJob))
  | 0, _, _ => return .error (paginationExceeded "job")
  | remaining + 1, page, jobs => do
    match getJSON "list jobs" (← perform (.listJobs repository runID page)) with
    | .error error => return .error error
    | .ok body =>
      let listed := jobs ++ body.jobs
      if body.jobs.length < 100 ∨ (listed.length : Int) ≥ body.totalCount then
        return .ok listed
      else jobPages repository runID remaining (page + 1) listed

def listJobs (repository : String) (runID : Int) : Action (Except Error (List WorkflowJob)) :=
  if (validateRepository repository).isSome ∨ runID ≤ 0 then
    return .error (invalid "run ID is invalid")
  else jobPages repository runID 100 1 []

def getJob (repository : String) (jobID : Int) : Action (Except Error WorkflowJob) :=
  if (validateRepository repository).isSome ∨ jobID ≤ 0 then
    return .error (invalid "job ID is invalid")
  else do
    match getJSON "get job" (← perform (.getJob repository jobID)) with
    | .error error => return .error error
    | .ok job =>
      if job.id ≠ jobID ∨ job.runID ≤ 0 then
        return .error (.text "GitHub job identity is invalid")
      else return .ok job

/-- The labels of one runner that carry the wanted name, after `found`. -/
def scanLabels (label : String) (runner : RemoteRunner) :
    List RunnerLabel → Option RemoteRunner → Except Error (Option RemoteRunner)
  | [], found => .ok found
  | other :: rest, found =>
    if other.name ≠ label then scanLabels label runner rest found
    else match found with
      | some _ => .error (ambiguous "duplicate exact runner label")
      | none => scanLabels label runner rest (some runner)

def scanRunners (label : String) :
    List RemoteRunner → Option RemoteRunner → Except Error (Option RemoteRunner)
  | [], found => .ok found
  | runner :: rest, found =>
    match scanLabels label runner runner.labels found with
    | .error error => .error error
    | .ok found => scanRunners label rest found

/-- The pages of `FindRunnerByLabel` from `page` on, after the match so far. -/
def findRunnerPages (repository label : String) :
    Nat → Nat → Option RemoteRunner → Action (Except Error (Option RemoteRunner))
  | 0, _, _ => return .error (paginationExceeded "runner")
  | remaining + 1, page, found => do
    match getJSON "list runners" (← perform (.listRunners repository page)) with
    | .error error => return .error error
    | .ok body =>
      match scanRunners label body.runners found with
      | .error error => return .error error
      | .ok found =>
        if body.runners.length < 100 ∨ (page * 100 : Int) ≥ body.totalCount then
          return .ok found
        else findRunnerPages repository label remaining (page + 1) found

def findRunnerByLabel (repository label : String) :
    Action (Except Error (Option RemoteRunner)) :=
  if labelRefused repository label then
    return .error (invalid "repository or runner label is invalid")
  else findRunnerPages repository label 100 1 none

def getRunner (repository : String) (runnerID : Int) :
    Action (Except Error (Option RemoteRunner)) :=
  if (validateRepository repository).isSome ∨ runnerID ≤ 0 then
    return .error (invalid "runner ID is invalid")
  else do
    match getJSON "get runner" (← perform (.getRunner repository runnerID)) with
    | .error error => if isHTTPStatus error 404 then return .ok none else return .error error
    | .ok runner =>
      if runner.id ≠ runnerID then
        return .error (.text "GitHub runner identity is invalid")
      else return .ok (some runner)

def deleteRunner (repository : String) (runnerID : Int) : Action (Option Error) :=
  if (validateRepository repository).isSome ∨ runnerID ≤ 0 then
    return some (invalid "runner ID is invalid")
  else do
    match ← perform (.deleteRunner repository runnerID) with
    | .failed canceled => return some (ambiguousTransportError canceled "delete runner")
    | .response status requestID _ =>
      if status = 204 ∨ status = 404 then return none
      else return some (ambiguousStatus ⟨"delete runner", status, requestID⟩)

/-- `strings.ToLower`, where two letters outside ASCII have ASCII lower case. -/
def lower (value : String) : List Char :=
  value.toList.map fun char =>
    if char = 'İ' then 'i' else if char = '\u212a' then 'k' else char.toLower

def knownDefaultRunnerLabel (label : String) : Bool :=
  ["self-hosted", "linux", "x64", "arm", "arm64"].any fun known => lower label = known.toList

/-- The number of custom labels with the identity's label, if every other label
is a known read-only one. -/
def customLabels (label : String) : List RunnerLabel → Option Nat
  | [] => some 0
  | other :: rest =>
    if other.type = "custom" ∧ other.name = label then
      (customLabels label rest).map (· + 1)
    else if other.type ≠ "read-only" ∨ ¬knownDefaultRunnerLabel other.name then none
    else customLabels label rest

def validJITRunnerResponse (runner : RemoteRunner) (identity : Identity) : Bool :=
  !(runner.id ≤ 0 || runner.name ≠ identity.runnerName || runner.status ≠ "offline" ||
    runner.busy) && customLabels identity.label runner.labels = some 1

/-- `GenerateJIT` on the outcome of its request. -/
def jitRegistration (identity : Identity) :
    Transport JITRegistration → Except Error JITRegistration
  | .failed canceled => .error (ambiguousTransportError canceled "generate JIT config")
  | .response status requestID body =>
    let remote : HTTPError := ⟨"generate JIT config", status, requestID⟩
    if status ≠ 201 then
      if 400 ≤ status ∧ status < 500 then .error (.typed remote)
      else .error (ambiguousStatus remote)
    else match body with
      | none => .error (ambiguous "JIT response is malformed")
      | some registration =>
        if registration.secret.length < 16 ∨ registration.secret.length > maxJITResponse then
          .error (ambiguous "JIT response is malformed")
        else if ¬validJITRunnerResponse registration.runner identity then
          .error (ambiguous "JIT runner identity or labels are invalid")
        else .ok registration

def generateJIT (repository : String) (identity : Identity) (runnerGroupID : Int) :
    Action (Except Error JITRegistration) :=
  if (validateRepository repository).isSome ∨ ¬validIdentity identity ∨ runnerGroupID ≤ 0 then
    return .error (invalid "JIT request identity is invalid")
  else
    return jitRegistration identity (← perform (.postJITConfig repository identity runnerGroupID))

def cancelRun (repository : String) (runID : Int) : Action (Option Error) :=
  if (validateRepository repository).isSome ∨ runID ≤ 0 then
    return some (invalid "run ID is invalid")
  else do
    match ← perform (.postCancel repository runID) with
    | .failed canceled => return some (ambiguousTransportError canceled "cancel run")
    | .response status requestID _ =>
      let remote : HTTPError := ⟨"cancel run", status, requestID⟩
      if status = 202 then return none
      else if status = 409 then return some (.typed remote)
      else return some (ambiguousStatus remote)

end Civm.JitDispatcher.GitHub
