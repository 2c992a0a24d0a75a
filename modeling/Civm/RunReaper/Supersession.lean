import Civm.Foundation.Frame
import Civm.Foundation.Play
import Civm.RunReaper.Reap

/-! # Which runs are superseded

The open heads are keyed by the name of the branch alone. Pull requests of forks
may share that name. -/

namespace Civm.RunReaper

variable {prs : String → List PullRequest} {runs : String → Status → List Run}
variable {opts : Options} {repo : String}

/-! ## GitHub -/

/-- What `gh` may answer: it fails, or it lists what there is, at most 1000 pull
requests. -/
def possible (prs : String → List PullRequest) (runs : String → Status → List Run) :
    (call : Call) → Answer call → Prop
  | .pullRequests repo, .read listed => listed = (prs repo).take 1000
  | .activeRuns repo status, .read pages => pages.flatten = runs repo status
  | _, _ => True

def github (prs : String → List PullRequest) (runs : String → Status → List Run) :
    Outside Answer Unit where
  permits _ := possible prs runs
  after _ _ _ := ()

/-- A run that a pass may cancel. -/
def Cancellable (prs : String → List PullRequest) (runs : String → Status → List Run) : Call → Prop
  | .cancelFn repo runID => validateRepo repo = none ∧
    ∃ status, ∃ run ∈ runs repo status, run.id = runID ∧
      (reasonOf (openHeads ((prs repo).take 1000)) run).isSome
  | _ => True

abbrev Cancels (prs : String → List PullRequest) (runs : String → Status → List Run)
    (post : α → Prop) (routine : Reaping α) : Prop :=
  routine.Within (possible prs runs) (Cancellable prs runs) post

theorem listOpenHeads_within (repo : String) :
    (listOpenHeads repo).Within (possible prs runs) (Cancellable prs runs)
      fun result => ∀ heads, result = .ok heads → heads = openHeads ((prs repo).take 1000) := by
  unfold listOpenHeads
  refine Program.within_perform trivial fun listing listed => ?_
  cases listing with
  | failed error | garbled error => exact fun _ => nofun
  | read items =>
    obtain rfl : items = (prs repo).take 1000 := listed
    rintro heads ⟨⟩
    rfl

theorem listActiveRunsOf_within (repo : String) (statuses : List Status) :
    (listActiveRunsOf repo statuses).Within (possible prs runs) (Cancellable prs runs)
      fun result => ∀ listed, result = .ok listed →
        ∀ run ∈ listed, ∃ status, run ∈ runs repo status := by
  induction statuses with
  | nil =>
    rintro listed ⟨⟩ run member
    cases member
  | cons status rest induction =>
    unfold listActiveRunsOf
    refine Program.within_perform trivial fun listing active => ?_
    cases listing with
    | failed error | garbled error => exact fun _ => nofun
    | read pages =>
      refine induction.bind fun others known => ?_
      cases others with
      | error error => exact fun _ => nofun
      | ok others =>
        rintro listed ⟨⟩ run member
        rcases List.mem_append.mp member with first | later
        · exact ⟨status, active ▸ first⟩
        · exact known others rfl run later

theorem mem_candidatesOf {heads : List (String × String)} {listed : List Run} {candidate : Candidate}
    (member : candidate ∈ candidatesOf heads listed) :
    candidate.run ∈ listed ∧ (reasonOf heads candidate.run).isSome := by
  rw [candidatesOf, List.mem_mergeSort, List.mem_filterMap] at member
  rcases member with ⟨run, among, same⟩
  rcases Option.map_eq_some_iff.mp same with ⟨reason, found, rfl⟩
  exact ⟨among, by simp [found]⟩

/-! ## Every cancelled run is a candidate -/

section

variable (calls : opts.cancelFn = fun repo runID => perform (.cancelFn repo runID))

include calls

theorem cancelCandidate_within {candidate : Candidate} {event : ReapEvent}
    (cancellable : Cancellable prs runs (.cancelFn repo candidate.run.id)) :
    Cancels prs runs (fun _ => True) (cancelCandidate opts repo candidate event) := by
  unfold cancelCandidate
  rw [calls]
  refine Routine.within_perform cancellable fun answer _ => ?_
  cases answer with
  | none => exact Routine.within_modify.bind fun _ _ => Routine.within_modify
  | some error =>
    dsimp only
    rw [Routine.within_ite]
    exact ⟨fun _ => Routine.within_modify,
      fun _ => Routine.within_modify.bind fun _ _ => Routine.within_modify⟩

theorem reapCandidates_within {heads : List (String × String)} {total index : Nat}
    {candidates : List Candidate}
    (cancellable : ∀ candidate ∈ candidates, Cancellable prs runs (.cancelFn repo candidate.run.id)) :
    Cancels prs runs (fun _ => True) (reapCandidates opts repo heads total index candidates) := by
  induction candidates generalizing index with
  | nil => exact Routine.within_pure trivial
  | cons candidate rest induction =>
    unfold reapCandidates
    refine Routine.within_modify.bind fun _ _ => ?_
    rw [Routine.within_ite]
    refine ⟨fun _ => Routine.within_modify, fun _ => ?_⟩
    have others index :
      Cancels prs runs (fun _ => True) (reapCandidates opts repo heads total index rest) :=
      induction fun other later => cancellable other (List.mem_cons_of_mem _ later)
    dsimp only
    rw [Routine.within_ite]
    refine ⟨fun _ => ?_, fun _ => Routine.within_modify.bind fun _ _ => others _⟩
    exact (cancelCandidate_within calls (cancellable candidate List.mem_cons_self)).bind
      fun _ _ => others _

theorem reapRepo_within (valid : validateRepo repo = none) :
    Cancels prs runs (fun _ => True) (reapRepo opts repo) := by
  unfold reapRepo
  refine (Routine.within_lift (listOpenHeads_within repo)).bind fun heads known => ?_
  cases heads with
  | error error => exact Routine.within_modify.bind fun _ _ => Routine.within_modify
  | ok heads =>
    obtain rfl := known heads rfl
    refine (Routine.within_lift (listActiveRunsOf_within repo _)).bind fun listed active => ?_
    cases listed with
    | error error => exact Routine.within_modify.bind fun _ _ => Routine.within_modify
    | ok listed =>
      refine Routine.within_modify.bind fun _ _ => reapCandidates_within calls ?_
      intro candidate member
      rcases mem_candidatesOf member with ⟨among, reason⟩
      rcases active listed rfl candidate.run among with ⟨status, present⟩
      exact ⟨valid, status, candidate.run, present, rfl, reason⟩

theorem reapRepos_within (repos : List String) :
    Cancels prs runs (fun _ => True) (reapRepos opts repos) := by
  induction repos with
  | nil => exact Routine.within_pure trivial
  | cons repo rest induction =>
    unfold reapRepos
    cases valid : validateRepo repo with
    | some error =>
      exact Routine.within_modify.bind fun _ _ => Routine.within_modify.bind fun _ _ => induction
    | none =>
      exact Routine.within_modify.bind fun _ _ =>
        (reapRepo_within calls valid).bind fun _ _ => induction

end

theorem reap_within (calls : opts.cancelFn = fun repo runID => perform (.cancelFn repo runID)) :
    (reap opts).Within (possible prs runs) (Cancellable prs runs) fun _ => True := by
  have calls : (applyDefaults opts).cancelFn = fun repo runID => perform (.cancelFn repo runID) := by
    unfold applyDefaults
    split <;> exact calls
  have scans : Cancels prs runs (fun _ => True) (if (applyDefaults opts).repos = [] then do
    add { event := "reap-skipped", severity := "warning", reason := "no-repos" }
    modify fun report => { report with exit := 1 }
    else reapRepos (applyDefaults opts) (applyDefaults opts).repos) := by
    rw [Cancels, Routine.within_ite]
    exact ⟨fun _ => Routine.within_modify.bind fun _ _ => Routine.within_modify,
      fun _ => reapRepos_within calls _⟩
  exact (scans _).bind fun _ _ => trivial

theorem cancels_cancellable {trace : List (Event Answer)} {result : Option Report}
    (calls : opts.cancelFn = fun repo runID => perform (.cancelFn repo runID))
    (execution : Execution (github prs runs) (reap opts) [] () trace () result) :
    ∀ event ∈ trace, Cancellable prs runs event.call := by
  have able : ∀ event ∈ trace, possible prs runs event.call event.answer := by
    refine execution.preserves (fun trace _ => ∀ event ∈ trace, possible prs runs event.call event.answer)
      ?_ nofun
    intro trace _ call answer known permitted event member
    rcases List.mem_append.mp member with earlier | last
    · exact known event earlier
    · cases List.mem_singleton.mp last
      exact permitted
  exact (reap_within calls).execution execution able

/-! ## Heads of branches -/

def firstOf (prs : List PullRequest) (branch : String) : Option PullRequest :=
  prs.find? fun pr => pr.headRefName = branch

theorem lookup_foldl {branch : String} (named : branch ≠ "") (heads : List (String × String))
    (prs : List PullRequest) :
    (prs.foldl (fun heads pr =>
      if pr.headRefName ≠ "" ∧ (heads.lookup pr.headRefName).isNone then
        heads ++ [(pr.headRefName, pr.headRefOid)]
      else heads) heads).lookup branch =
      (heads.lookup branch).or ((firstOf prs branch).map PullRequest.headRefOid) := by
  induction prs generalizing heads with
  | nil => simp [firstOf]
  | cons pr rest induction =>
    rw [List.foldl_cons, induction]
    by_cases same : pr.headRefName = branch
    · have first : firstOf (pr :: rest) branch = some pr := by simp [firstOf, same]
      rw [first, same]
      cases known : heads.lookup branch with
      | none => simp [named, known, List.lookup_append]
      | some head => simp [known]
    · have later : firstOf (pr :: rest) branch = firstOf rest branch := by simp [firstOf, same]
      rw [later]
      have other : (branch == pr.headRefName) = false := by simpa using Ne.symm same
      congr 1
      split
      · simp [List.lookup_append, List.lookup_cons, other]
      · rfl

theorem lookup_openHeads {branch : String} (named : branch ≠ "") (prs : List PullRequest) :
    (openHeads prs).lookup branch = (firstOf prs branch).map PullRequest.headRefOid := by
  rw [openHeads, lookup_foldl named, List.lookup_nil, Option.none_or]

/-- Every pull request has the head of the first one of its branch, as far as both
heads are known. -/
def Agreeing (prs : List PullRequest) : Prop :=
  ∀ pr ∈ prs, ∀ first, firstOf prs pr.headRefName = some first → pr.headRefName ≠ "" →
    pr.headRefOid ≠ "" → first.headRefOid ≠ "" → shaEqual pr.headRefOid first.headRefOid = true

/-- The run is one of the current head of a pull request. -/
def Current (prs : List PullRequest) (run : Run) : Prop :=
  ∃ pr ∈ prs, run.branch = pr.headRefName ∧ run.headSHA = pr.headRefOid

theorem reasonOf_current {listed : List PullRequest} {run : Run} (agreeing : Agreeing listed)
    (current : Current listed run) : reasonOf (openHeads listed) run = none := by
  rcases current with ⟨pr, member, branch, sha⟩
  unfold reasonOf
  split
  · rfl
  split
  · rfl
  case isFalse named =>
    have found : (firstOf listed run.branch).isSome := by
      rw [firstOf, List.find?_isSome]
      exact ⟨pr, member, by simp [branch]⟩
    rcases Option.isSome_iff_exists.mp found with ⟨first, found⟩
    rw [lookup_openHeads named, found]
    refine if_neg ?_
    rintro ⟨known, knownFirst, different⟩
    rw [branch] at found named
    rw [sha] at known different
    exact different (agreeing pr member first found named known knownFirst)

/-! ## Pull requests that share a branch -/

def runOf (pr : PullRequest) : Run where
  id := 1
  branch := pr.headRefName
  headSHA := pr.headRefOid
  event := "pull_request"
  workflow := ""
  createdAt := 0

def alone (pr : PullRequest) : String → Status → List Run
  | _, .queued => [runOf pr]
  | _, .inProgress => []

def pass (repo : String) : Options where
  repos := [repo]
  execute := true
  maxCancelPerRepo := 1
  cancelFn repo runID := perform (.cancelFn repo runID)

/-- A head that differs from the first one of its branch. -/
structure Differs (prs : List PullRequest) (pr first : PullRequest) : Prop where
  found : firstOf prs pr.headRefName = some first
  named : pr.headRefName ≠ ""
  known : pr.headRefOid ≠ ""
  knownFirst : first.headRefOid ≠ ""
  different : shaEqual pr.headRefOid first.headRefOid = false

theorem reasonOf_differs {listed : List PullRequest} {pr first : PullRequest}
    (differs : Differs listed pr first) :
    reasonOf (openHeads listed) (runOf pr) = some .supersededSHA := by
  have lookup : (openHeads listed).lookup (runOf pr).branch = some first.headRefOid :=
    (lookup_openHeads differs.named listed).trans (congrArg _ differs.found)
  have other : ¬(shaEqual (runOf pr).headSHA first.headRefOid = true) := by
    simp [runOf, differs.different]
  have event : isPullRequestEvent (runOf pr).event = true := by
    simp [runOf, isPullRequestEvent]
  have named : (runOf pr).branch ≠ "" := differs.named
  rw [reasonOf, lookup, event, if_neg (by simp), if_neg named]
  exact if_pos ⟨differs.known, differs.knownFirst, other⟩

theorem differing_head_is_cancelled {pr first : PullRequest} (valid : validateRepo repo = none)
    (differs : Differs ((prs repo).take 1000) pr first) :
    ∃ trace result, Execution (github prs (alone pr)) (reap (pass repo)) [] () trace () result ∧
      ⟨.cancelFn repo (runOf pr).id, none⟩ ∈ trace := by
  have candidates : candidatesOf (openHeads ((prs repo).take 1000)) [runOf pr] =
    [⟨runOf pr, .supersededSHA⟩] := by
    simp [candidatesOf, reasonOf_differs differs]
  have scans : Execution (github prs (alone pr)) ((reapRepos (pass repo) [repo]).run
    { executed := true }) [] ()
    [⟨.pullRequests repo, .read ((prs repo).take 1000)⟩,
      ⟨.activeRuns repo .queued, .read [[runOf pr]]⟩, ⟨.activeRuns repo .inProgress, .read []⟩,
      ⟨.cancelFn repo (runOf pr).id, none⟩] () none := by
    unfold reapRepos
    rw [valid]
    refine .answered (.read ((prs repo).take 1000)) rfl ?_
    refine .answered (.read [[runOf pr]]) rfl ?_
    refine .answered (.read []) rfl ?_
    change Execution _ (Program.bind ((reapCandidates (pass repo) repo
      (openHeads ((prs repo).take 1000)) (candidatesOf _ [runOf pr]).length 0
      (candidatesOf _ [runOf pr])).run _) _) _ _ _ _ _
    rw [candidates]
    exact .answered none trivial .died
  have same : reap (pass repo) = ((reapRepos (pass repo) [repo]).run { executed := true } >>=
    fun result => pure result.2) := rfl
  exact ⟨_, _, same ▸ scans.map Prod.snd, by simp⟩

/-! ## Passes -/

/-- Listed runs with the same identity are the same run. -/
def Identified (runs : String → Status → List Run) : Prop :=
  ∀ repo status status', ∀ run ∈ runs repo status, ∀ run' ∈ runs repo status', run.id = run'.id →
    run.branch = run'.branch ∧ run.headSHA = run'.headSHA ∧ run.event = run'.event

/-- The property of all runs that a pass cancels, whatever else is active. -/
def Cancelled (prs : String → List PullRequest) (property : String → Run → Prop) : Prop :=
  ∀ runs, Identified runs → ∀ opts, opts.execute = true →
    (opts.cancelFn = fun repo runID => perform (.cancelFn repo runID)) →
    ∀ trace result, Execution (github prs runs) (reap opts) [] () trace () result →
    ∀ repo runID answer, ⟨.cancelFn repo runID, answer⟩ ∈ trace →
    ∀ status, ∀ run ∈ runs repo status, run.id = runID → property repo run

theorem cancelled_of_reason {property : String → Run → Prop}
    (holds : ∀ repo run, validateRepo repo = none →
      (reasonOf (openHeads ((prs repo).take 1000)) run).isSome → property repo run)
    (stays : ∀ repo run run', run.branch = run'.branch → run.headSHA = run'.headSHA →
      run.event = run'.event → property repo run → property repo run') :
    Cancelled prs property := by
  intro runs identified opts _ calls trace result execution repo runID answer called status run member
    same
  rcases cancels_cancellable calls execution _ called with
    ⟨valid, status', run', member', same', reason⟩
  rcases identified repo status' status run' member' run member (same'.trans same.symm) with
    ⟨branch, sha, event⟩
  exact stays repo run' run branch sha event (holds repo run' valid reason)

theorem alone_identified (pr : PullRequest) : Identified (alone pr) := by
  intro repo status status' run member run' member' _
  have only : ∀ status, ∀ run ∈ alone pr repo status, run = runOf pr := by
    intro status run member
    cases status with
    | queued => exact List.mem_singleton.mp member
    | inProgress => cases member
  rw [only status run member, only status' run' member']
  exact ⟨rfl, rfl, rfl⟩

/-- A pass cancels only runs of pull requests. It spares the runs of all current heads
iff pull requests with the same branch agree on its head. -/
theorem current_runs_are_spared_iff {prs : String → List PullRequest}
    (few : ∀ repo, (prs repo).length ≤ 1000) :
    Cancelled prs (fun _ run => isPullRequestEvent run.event = true) ∧
      (Cancelled prs (fun repo run => ¬Current (prs repo) run) ↔
        ∀ repo, validateRepo repo = none → Agreeing (prs repo)) := by
  have all repo : (prs repo).take 1000 = prs repo := List.take_of_length_le (few repo)
  refine ⟨cancelled_of_reason (fun repo run _ reason => ?_) ?_, fun spared repo valid => ?_,
    fun agreeing => cancelled_of_reason (fun repo run valid reason current => ?_) ?_⟩
  · unfold reasonOf at reason
    split at reason
    · cases reason
    case isFalse event => simpa using event
  · intro _ run run' _ _ event pull
    exact event ▸ pull
  · intro pr member first found named known knownFirst
    by_contra different
    have differs : Differs ((prs repo).take 1000) pr first :=
      ⟨(all repo).symm ▸ found, named, known, knownFirst, by simpa using different⟩
    rcases differing_head_is_cancelled valid differs with ⟨trace, result, execution, called⟩
    refine spared (alone pr) (alone_identified pr) (pass repo) rfl rfl trace result execution repo _ _
      called .queued (runOf pr) List.mem_cons_self rfl ?_
    exact ⟨pr, member, rfl, rfl⟩
  · rw [all, reasonOf_current (agreeing repo valid) current] at reason
    cases reason
  · rintro repo run run' branch sha _ spared ⟨pr, member, same, same'⟩
    exact spared ⟨pr, member, branch.trans same, sha.trans same'⟩

namespace Sample

def fork : PullRequest := ⟨"patch-1", "9d02"⟩

def forks : String → List PullRequest := fun _ => [⟨"patch-1", "4c1f"⟩, fork]

def branches : String → List PullRequest := fun _ => [⟨"patch-1", "4c1f"⟩, ⟨"patch-2", "9d02"⟩]

end Sample

open Sample in
theorem fork_run_is_cancelled : ∃ trace result,
    Execution (github forks (alone fork)) (reap (pass "acme/app")) [] () trace () result ∧
    Current (forks "acme/app") (runOf fork) ∧
    ⟨.cancelFn "acme/app" (runOf fork).id, none⟩ ∈ trace := by
  have differs : Differs ((forks "acme/app").take 1000) fork ⟨"patch-1", "4c1f"⟩ :=
    ⟨by decide +kernel, by decide, by decide, by decide, by decide +kernel⟩
  have valid : validateRepo "acme/app" = none := by decide +kernel
  rcases differing_head_is_cancelled valid differs with ⟨trace, result, execution, called⟩
  exact ⟨trace, result, execution, ⟨fork, by simp [forks], rfl, rfl⟩, called⟩

open Sample in
theorem branch_runs_are_spared : (branches "acme/app").length = 2 ∧
    Cancelled branches fun repo run => ¬Current (branches repo) run := by
  refine ⟨rfl, (current_runs_are_spared_iff (fun _ => by simp [branches])).2.mpr fun repo _ => ?_⟩
  intro pr member first found _ _ _
  have member : pr = ⟨"patch-1", "4c1f"⟩ ∨ pr = ⟨"patch-2", "9d02"⟩ := by
    simpa [branches] using member
  obtain rfl : first = pr := by
    rcases member with rfl | rfl <;> simpa [firstOf, branches] using found.symm
  simp [shaEqual]

end Civm.RunReaper
