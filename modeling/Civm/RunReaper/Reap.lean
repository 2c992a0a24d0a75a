import Civm.Runner.Rerun

/-! # Cancelling runs that no longer matter

`Reap` lists the open pull requests and the active runs of each repository and
cancels the runs of closed or superseded heads. -/

namespace Civm.RunReaper

/-- `ErrRunAlreadyCompleted`. -/
inductive Sentinel
  | runAlreadyCompleted
  deriving DecidableEq

abbrev Error := GoError Sentinel Empty

def defaultMaxCancelPerRepo : Int := 400

/-- A queued or running workflow run. -/
structure Run where
  id : Int
  branch : String
  headSHA : String
  event : String
  workflow : String
  createdAt : Int
  deriving DecidableEq

structure PullRequest where
  headRefName : String
  headRefOid : String
  deriving DecidableEq

inductive Status
  | queued
  | inProgress
  deriving DecidableEq

/-- What a listing of `gh` comes to. -/
inductive Listing (α : Type)
  | failed (error : Error)
  | garbled (error : Error)
  | read (items : List α)

/-- The commands of a pass. A command that fails does so with a text. -/
inductive Call
  | pullRequests (repo : String)
  | activeRuns (repo : String) (status : Status)
  | cancelFn (repo : String) (runID : Int)
  | forceCancel (repo : String) (runID : Int)
  | cancel (repo : String) (runID : Int)
  deriving DecidableEq

abbrev Answer : Call → Type
  | .pullRequests _ => Listing PullRequest
  | .activeRuns _ _ => Listing (List Run)
  | .cancelFn _ _ => Option Error
  | .forceCancel _ _ => Option String
  | .cancel _ _ => Option String

abbrev Script := Program Answer

abbrev perform (call : Call) : Script (Answer call) := Program.perform call

/-! ## The report -/

structure ReapEvent where
  event : String
  severity : String
  repo : String := ""
  runID : Int := 0
  branch : String := ""
  workflow : String := ""
  reason : String := ""
  detail : Option Error := none
  executed : Bool := false

structure Report where
  executed : Bool
  repos : List String := []
  scanned : Nat := 0
  candidates : Nat := 0
  cancelled : Nat := 0
  events : List ReapEvent := []
  exit : Nat := 0

/-- A part of a pass, which writes the report. -/
abbrev Reaping := Routine Answer Report

def add (event : ReapEvent) : Reaping Unit :=
  modify fun report => { report with events := report.events ++ [event] }

/-- `report.Exit = maxInt(report.Exit, 1)`. -/
def raiseExit : Reaping Unit := modify fun report => { report with exit := max report.exit 1 }

structure Options where
  repos : List String
  execute : Bool
  maxCancelPerRepo : Int
  cancelFn : String → Int → Script (Option Error)

/-! ## What is listed -/

/-- The head of each branch, where the first pull request of a branch wins. -/
def openHeads (prs : List PullRequest) : List (String × String) :=
  prs.foldl (fun heads pr =>
    if pr.headRefName ≠ "" ∧ (heads.lookup pr.headRefName).isNone then
      heads ++ [(pr.headRefName, pr.headRefOid)]
    else heads) []

def listOpenHeads (repo : String) : Script (Except Error (List (String × String))) := do
  match ← perform (.pullRequests repo) with
  | .failed error => return .error (.wrap "gh pr list: " error "")
  | .garbled error => return .error (.wrap "parse gh pr list: " error "")
  | .read prs => return .ok (openHeads prs)

def Status.text : Status → String
  | .queued => "queued"
  | .inProgress => "in_progress"

def listActiveRunsOf (repo : String) : List Status → Script (Except Error (List Run))
  | [] => return .ok []
  | status :: rest => do
    match ← perform (.activeRuns repo status) with
    | .failed error =>
      return .error (.wrap ("gh api actions/runs?status=" ++ status.text ++ ": ") error "")
    | .garbled error => return .error (.wrap "parse gh runs: " error "")
    | .read pages =>
      match ← listActiveRunsOf repo rest with
      | .error error => return .error error
      | .ok others => return .ok (pages.flatten ++ others)

def listActiveRuns (repo : String) : Script (Except Error (List Run)) :=
  listActiveRunsOf repo [.queued, .inProgress]

/-! ## Candidates -/

def isPullRequestEvent (event : String) : Bool :=
  event = "pull_request" || event = "pull_request_target"

/-- The case folding of `strings.EqualFold` for the letters that fold to ASCII. -/
def foldCase (char : Char) : Char :=
  if char = '\u212a' then 'k' else if char = '\u017f' then 's' else char.toLower

def shaEqual (first second : String) : Bool :=
  (Text.trimSpace first).toList.map foldCase = (Text.trimSpace second).toList.map foldCase

def shortSHA (sha : String) : String := String.ofList ((Text.trimSpace sha).toList.take 12)

inductive Reason
  | prNotOpen
  | supersededSHA
  deriving DecidableEq

def Reason.text : Reason → String
  | .prNotOpen => "pr-not-open"
  | .supersededSHA => "superseded-sha"

structure Candidate where
  run : Run
  reason : Reason

/-- Why a run is to be cancelled, if it is. -/
def reasonOf (heads : List (String × String)) (run : Run) : Option Reason :=
  if !isPullRequestEvent run.event then none
  else if run.branch = "" then none
  else
    match heads.lookup run.branch with
    | none => some .prNotOpen
    | some currentHead =>
      if run.headSHA ≠ "" ∧ currentHead ≠ "" ∧ ¬shaEqual run.headSHA currentHead then
        some .supersededSHA
      else none

/-- The candidates, oldest first. -/
def candidatesOf (heads : List (String × String)) (runs : List Run) : List Candidate :=
  (runs.filterMap fun run => (reasonOf heads run).map fun reason => ⟨run, reason⟩).mergeSort
    fun first second => first.run.createdAt ≤ second.run.createdAt

/-! ## Cancelling -/

/-- The event of a candidate before anything is done about it. -/
def reapEvent (opts : Options) (repo : String) (heads : List (String × String))
    (candidate : Candidate) : ReapEvent where
  event := "run-reaped"
  severity := "info"
  repo := repo
  runID := candidate.run.id
  branch := candidate.run.branch
  workflow := candidate.run.workflow
  reason := candidate.reason.text
  detail := match candidate.reason with
    | .prNotOpen => none
    | .supersededSHA => some (.text ("run=" ++ shortSHA candidate.run.headSHA ++ " open=" ++
      shortSHA ((heads.lookup candidate.run.branch).getD "")))
  executed := opts.execute

def cancelCandidate (opts : Options) (repo : String) (candidate : Candidate) (event : ReapEvent) :
    Reaping Unit := do
  match ← liftM (opts.cancelFn repo candidate.run.id) with
  | none =>
    modify fun report => { report with cancelled := report.cancelled + 1 }
    add event
  | some error =>
    if error.is .runAlreadyCompleted then
      add { event with severity := "info", reason := "already-completed-ghost", detail := some error }
    else
      add { event with severity := "warning", reason := "cancel-failed", detail := some error }
      raiseExit

/-- The candidates from the given index on, of `total` ones. -/
def reapCandidates (opts : Options) (repo : String) (heads : List (String × String)) (total : Nat) :
    Nat → List Candidate → Reaping Unit
  | _, [] => return
  | index, candidate :: rest => do
      modify fun report => { report with candidates := report.candidates + 1 }
      if opts.maxCancelPerRepo ≤ index then
        add { event := "reap-capped", severity := "warning", repo := repo,
              reason := "max-cancel-reached",
              detail := some (.text (toString total ++ " candidates, cap " ++
                toString opts.maxCancelPerRepo ++ " — remainder deferred to next tick")) }
      else
        let event := reapEvent opts repo heads candidate
        if opts.execute then cancelCandidate opts repo candidate event else add event
        reapCandidates opts repo heads total (index + 1) rest

def reapRepo (opts : Options) (repo : String) : Reaping Unit := do
  match ← liftM (listOpenHeads repo) with
  | .error error =>
      add { event := "reap-skipped", severity := "warning", repo := repo, reason := "open-prs-failed",
            detail := some error }
      raiseExit
  | .ok heads =>
  match ← liftM (listActiveRuns repo) with
  | .error error =>
      add { event := "reap-skipped", severity := "warning", repo := repo,
            reason := "active-runs-failed", detail := some error }
      raiseExit
  | .ok runs =>
      modify fun report => { report with scanned := report.scanned + runs.length }
      let candidates := candidatesOf heads runs
      reapCandidates opts repo heads candidates.length 0 candidates

def validateRepo (repo : String) : Option Error :=
  if (Common.validateRepo repo).isNone then none
  else some (.text ("repo deve ter formato owner/repo seguro, got \"" ++ repo ++ "\""))

def reapRepos (opts : Options) : List String → Reaping Unit
  | [] => return
  | repo :: rest => do
      match validateRepo repo with
      | some error =>
          add { event := "reap-skipped", severity := "warning", repo := repo, reason := "repo-invalid",
                detail := some error }
          raiseExit
      | none =>
          modify fun report => { report with repos := report.repos ++ [repo] }
          reapRepo opts repo
      reapRepos opts rest

/-- `applyDefaults`, apart from the functions. -/
def applyDefaults (opts : Options) : Options :=
  if opts.maxCancelPerRepo ≤ 0 then { opts with maxCancelPerRepo := defaultMaxCancelPerRepo }
  else opts

def reap (opts : Options) : Script Report := do
  let opts := applyDefaults opts
  let scan : Reaping Unit :=
    if opts.repos = [] then do
      add { event := "reap-skipped", severity := "warning", reason := "no-repos" }
      modify fun report => { report with exit := 1 }
    else reapRepos opts opts.repos
  let (_, report) ← scan.run { executed := opts.execute }
  return report

end Civm.RunReaper
