import Civm.Runner.Tick

/-! # Reruns after network failures

A failed run of an open pull request is started again if its log shows that the
network failed before any step of its own did. -/

namespace Civm.Runner

variable (opts : WatchdogOptions)

/-! ## What a log shows -/

inductive FailureKind
  | unknown
  | networkCheckout
  | code
  | secret
  deriving DecidableEq

def FailureKind.text : FailureKind → String
  | .unknown => "unknown"
  | .networkCheckout => "network_checkout"
  | .code => "code"
  | .secret => "secret"

structure FailureClassification where
  kind : FailureKind
  signature : String := ""
  detail : String

def actionDownloadTransientSignatures : List String := [
  "failed to resolve action download info. error: internal server error",
  "failed to resolve action download info. error: service unavailable"]

def networkCheckoutSignatures : List String := [
  "rpc failed", "early eof", "invalid index-pack", "curl 56", "curl 92", "gnutls recv error",
  "connection timed out", "http/2 cancel", "http/2 stream", "the remote end hung up unexpectedly"]

def codeFailureSignatures : List String := [
  "run go test", "run npm test", "run pnpm test", "run yarn test", "run make test",
  "run go build", "run npm run build", "run pnpm build", "run yarn build",
  "run golangci-lint", "run eslint", "run npm run lint", "run pnpm lint", "run yarn lint",
  "run tsc", "fail\t", "npm err!", "eslint", "test failed", "tests failed", "build failed",
  "lint failed"]

def secretSignatures : List String := [
  "bad credentials", "authentication failed", "could not read username",
  "resource not accessible by integration", "permission denied (publickey)",
  "a secret with the name", "secret not found", "secrets are not passed"]

/-- `strings.ToLower`, where two letters outside ASCII have ASCII lower case. -/
def toLower (value : String) : List Char :=
  value.toList.map fun char =>
    if char = 'İ' then 'i' else if char = '\u212a' then 'k' else char.toLower

def index (haystack : List Char) (piece : String) : Option Nat :=
  haystack.tails.findIdx? fun rest => piece.toList.isPrefixOf rest

/-- The signature that comes first, and where. -/
def firstSignature (haystack : List Char) (signatures : List String) : Option (String × Nat) :=
  signatures.foldl (fun best signature =>
    match index haystack signature with
    | none => best
    | some place => if best.all fun (_, first) => place < first then some (signature, place) else best)
    none

/-- The earlier of two signatures, and the second one only if it is earlier. -/
def earlier (first second : Option (String × Nat)) : Option (String × Nat) :=
  match first, second with
  | first, none => first
  | none, second => second
  | some first, some second => if second.2 < first.2 then some second else some first

def classifyFailureLog (log : String) : FailureClassification :=
  let lower := toLower log
  match firstSignature lower secretSignatures with
  | some (signature, _) => ⟨.secret, signature, "secret/auth signature present"⟩
  | none =>
    let code := firstSignature lower codeFailureSignatures
    match earlier (firstSignature lower networkCheckoutSignatures)
      (firstSignature lower actionDownloadTransientSignatures), code with
    | none, some (signature, _) => ⟨.code, signature, "code/test/lint/build signature present"⟩
    | none, none => ⟨.unknown, "", "no network checkout signature"⟩
    | some (network, _), none =>
      ⟨.networkCheckout, network, "transient checkout/network signature"⟩
    | some (network, place), some (signature, started) =>
      if started < place then
        ⟨.code, signature, "code/test/lint/build step started before network failure"⟩
      else ⟨.networkCheckout, network, "transient checkout/network signature"⟩

/-! ## Which runs are started again -/

def rerunnableConclusion (conclusion : String) : Bool :=
  ["failure", "cancelled", "timed_out"].contains conclusion

def rerunMarkerKey (runID : Int) (headSHA : String) : String := toString runID ++ "/" ++ headSHA

/-- Whether a marker says that the run was started again. -/
def RerunState.reran (state : RerunState) (runID : Int) (headSHA : String) : Bool :=
  (state.reruns (rerunMarkerKey runID headSHA)).any fun marker => marker.runID ≠ 0

/-- Why a run is passed over before its log is fetched. -/
def skipRunBeforeLog (repo : String) (run : Run) (state : RerunState) : Script (Option String) := do
  if (validateRepo repo).isSome then return some "repo-invalid"
  else if !rerunnableConclusion run.conclusion then return some "conclusion-not-rerunnable"
  else if run.createdAt = 0 then return some "run-created-at-missing"
  else
    let now ← perform .now
    if now - run.createdAt > opts.maxRunAge then return some "run-too-old"
    else if run.pullRequests = [] then return some "no-open-pr-association"
    else if state.reran run.id run.headSHA then return some "already-rerun"
    else return none

/-- The pull request for which a run may be started again, or why there is none. -/
def openPullRequest (repo : String) (lastReason : String) :
    List Int → Script (Except Error (Except String PullRequest))
  | [] => return .ok (.error lastReason)
  | number :: rest => do
    if number ≤ 0 then openPullRequest repo lastReason rest
    else
      match ← perform (.pullRequest repo number) with
      | .error error => return .error error
      | .ok pullRequest =>
        if pullRequest.state ≠ "open" then openPullRequest repo "pr-not-open" rest
        else
          let mergeable := toLower (Text.trimSpace pullRequest.mergeableState)
          if mergeable = "dirty".toList ∨ mergeable = "conflicting".toList then
            return .ok (.error "pr-conflicting")
          else return .ok (.ok pullRequest)

def openPullRequestForRun (repo : String) (run : Run) :
    Script (Except Error (Except String PullRequest)) :=
  openPullRequest repo "no-open-pr-association" run.pullRequests

/-! ## Reruns -/

/-- What is not yet saved of the markers. -/
structure Pending where
  state : RerunState
  mutated : Bool

def Pending.mark (pending : Pending) (marker : RerunMarker) : Pending where
  state := { pending.state with
    reruns := Function.update pending.state.reruns (rerunMarkerKey marker.runID marker.headSHA)
      (some marker) }
  mutated := true

/-- The event of a run that is not started again. -/
def passedOver (severity : Severity) (repo : String) (run : Run) (reason : String)
    (detail : Option Error) : WatchdogEvent where
  event := "rerun-skipped"
  severity := severity
  repo := repo
  runID := run.id
  headSHA := run.headSHA
  reason := reason
  detail := detail

/-- Starts a run again. Only a failure of the command itself is an error. -/
def triggerRerun (repo : String) (run : Run) (pullRequest : PullRequest) (signature : String)
    (pending : Pending) : Patrol (Except Error Pending) := do
  let event : WatchdogEvent := {
    event := "rerun-triggered", severity := .info, repo := repo, runID := run.id
    headSHA := run.headSHA, reason := "network-checkout", executed := opts.execute
    detail := some (.text ("pr=" ++ toString pullRequest.number ++ " signature=" ++ signature)) }
  if opts.execute then
    match ← perform (.rerun repo run.id run.headSHA) with
    | some error =>
      add { event with severity := .critical, detail := some (.wrap "gh run rerun: " error "") }
      return .error error
    | none =>
      let now ← perform .now
      add event
      return .ok (pending.mark ⟨repo, run.id, run.headSHA, now⟩)
  else
    add event
    return .ok pending

def evaluateNetworkRerun (repo : String) (run : Run) (pending : Pending) :
    Patrol (Except Error Pending) := do
  match ← skipRunBeforeLog opts repo run pending.state with
  | some reason =>
    add (passedOver .info repo run reason none)
    return .ok pending
  | none =>
  match ← openPullRequestForRun repo run with
  | .error error =>
    add (passedOver .warning repo run "pr-check-failed" (some error))
    raiseExit 1
    return .ok pending
  | .ok (.error reason) =>
    add (passedOver .info repo run reason none)
    return .ok pending
  | .ok (.ok pullRequest) =>
  match ← perform (.runLog repo run.id) with
  | .error error =>
    add (passedOver .warning repo run "log-fetch-failed" (some error))
    raiseExit 1
    return .ok pending
  | .ok log =>
    let classification := classifyFailureLog log
    if classification.kind ≠ .networkCheckout then
      add (passedOver .info repo run classification.kind.text (some (.text classification.detail)))
      return .ok pending
    else triggerRerun opts repo run pullRequest classification.signature pending

def rerunRuns (repo : String) : List Run → Pending → Patrol (Except Error Pending)
  | [], pending => return .ok pending
  | run :: rest, pending => do
    count fun metrics => { metrics with runsConsidered := metrics.runsConsidered + 1 }
    match ← evaluateNetworkRerun opts repo run pending with
    | .error error => return .error error
    | .ok pending => rerunRuns repo rest pending

def rerunRepos (online : List String) : List String → Pending → Patrol (Except Error Pending)
  | [], pending => return .ok pending
  | repo :: rest, pending => do
    if repo ∉ online then
      add {
        event := "rerun-skipped", severity := .warning, repo := repo
        reason := "runner-not-online" }
      rerunRepos online rest pending
    else
      match ← perform (.listRuns repo opts.runLimit) with
      | .error error =>
        add {
          event := "rerun-skipped", severity := .warning, repo := repo
          reason := "run-list-failed", detail := some error }
        raiseExit 1
        rerunRepos online rest pending
      | .ok runs =>
        match ← rerunRuns opts repo runs pending with
        | .error error => return .error error
        | .ok pending => rerunRepos online rest pending

/-- Whether it ended without an error. The markers are saved at the end. -/
def rerunWatchdogNetworkFailures (repos online : List String) : Patrol (Option Error) := do
  match ← loadRerunState with
  | .error error =>
    add {
      event := "rerun-skipped", severity := .critical, reason := "marker-read-failed"
      detail := some error }
    return some error
  | .ok state =>
    match ← rerunRepos opts online repos ⟨state, false⟩ with
    | .error error => return some error
    | .ok pending =>
      if pending.mutated then
        match ← writeRerunState pending.state with
        | some error =>
          add {
            event := "rerun-skipped", severity := .critical
            reason := "marker-write-failed", detail := some error }
          return some error
        | none => return none
      else return none

end Civm.Runner
