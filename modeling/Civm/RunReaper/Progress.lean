import Civm.Foundation.Determined
import Civm.Foundation.Rounds
import Civm.Foundation.Selection
import Civm.RunReaper.Exactness

/-! # Ticks over a repository that stays as it is

Some runs refuse to be cancelled and stay listed. Every tick begins again with the oldest
eligible runs. -/

namespace Civm.RunReaper

abbrev Runs := String → Status → List Run

/-- The runs of a repository without those of the given identities. -/
def withdraw (runs : Runs) (repo : String) (ids : List Int) : Runs := fun other status =>
  if other = repo then (runs other status).filter fun run => run.id ∉ ids else runs other status

section

variable (prs : String → List PullRequest) (refusal : String → Int → Option Error)

/-- Every call succeeds, except that some runs refuse to be cancelled; the others leave the
listing. -/
def hub : Responder Answer Runs where
  answer
    | _, .pullRequests repo => .read (prs repo)
    | runs, .activeRuns repo status => .read [runs repo status]
    | _, .cancelFn repo runID => refusal repo runID
    | _, .forceCancel _ _ => none
    | _, .cancel _ _ => none
  after
    | runs, .cancelFn repo runID =>
      if refusal repo runID = none then withdraw runs repo [runID] else runs
    | runs, _ => runs

/-- The eligible runs of a repository, oldest first. -/
def eligible (runs : Runs) (repo : String) : List Candidate :=
  candidatesOf (openHeads (prs repo)) (runs repo .queued ++ runs repo .inProgress)

def refused (repo : String) (runID : Int) : Bool := (refusal repo runID).isSome

def ticks (opts : Options) : Nat → Runs → Option Runs
  | 0, runs => some runs
  | count + 1, runs =>
    ((reap opts).run (hub prs refusal) runs).bind fun result => ticks opts count result.2

end

section

variable {prs : String → List PullRequest} {refusal : String → Int → Option Error}
variable {runs : Runs} {repo : String} {ids : List Int}

theorem withdraw_nil (runs : Runs) (repo : String) : withdraw runs repo [] = runs := by
  funext other status
  simp [withdraw]

theorem withdraw_withdraw (runs : Runs) (repo : String) (ids more : List Int) :
    withdraw (withdraw runs repo ids) repo more = withdraw runs repo (ids ++ more) := by
  funext other status
  by_cases same : other = repo
  · simp [withdraw, same, Bool.and_comm]
  · simp [withdraw, same]

def Older (first second : Candidate) : Prop := first.run.createdAt ≤ second.run.createdAt

instance : DecidableRel Older := fun first second =>
  inferInstanceAs (Decidable (first.run.createdAt ≤ second.run.createdAt))

instance : IsTrans Candidate Older := ⟨fun _ _ _ => Int.le_trans⟩

instance : Std.Total Older := ⟨fun _ _ => Int.le_total _ _⟩

theorem candidatesOf_filter (heads : List (String × String)) (keep : Run → Bool) (runs : List Run) :
    candidatesOf heads (runs.filter keep) =
      (candidatesOf heads runs).filter fun candidate => keep candidate.run := by
  have found : (runs.filter keep).filterMap (fun run =>
    (reasonOf heads run).map fun reason => (⟨run, reason⟩ : Candidate)) =
    (runs.filterMap fun run =>
      (reasonOf heads run).map fun reason => (⟨run, reason⟩ : Candidate)).filter
        fun candidate => keep candidate.run := by
    induction runs with
    | nil => rfl
    | cons run rest induction =>
      by_cases kept : keep run = true
      · rw [List.filter_cons_of_pos kept]
        cases reason : reasonOf heads run with
        | none => simpa [reason] using induction
        | some reason => simpa [reason, kept] using induction
      · rw [List.filter_cons_of_neg kept, induction]
        cases reason : reasonOf heads run with
        | none => simp [reason]
        | some reason => simp [reason, kept]
  have sorted (list : List Candidate) : (list.mergeSort fun first second =>
    first.run.createdAt ≤ second.run.createdAt) = list.insertionSort Older :=
    mergeSort_eq_insertionSort Older list
  rw [candidatesOf, candidatesOf, found, sorted, sorted, filter_insertionSort]

theorem eligible_withdraw (ids : List Int) : eligible prs (withdraw runs repo ids) repo =
    (eligible prs runs repo).filter fun candidate => candidate.run.id ∉ ids := by
  rw [eligible, eligible, ← candidatesOf_filter _ fun run => run.id ∉ ids, List.filter_append]
  simp [withdraw]

theorem eligible_withdraw_of_ne {other : String} (different : other ≠ repo) (ids : List Int) :
    eligible prs (withdraw runs repo ids) other = eligible prs runs other := by
  simp [eligible, withdraw, different]

theorem hub_cancelFn (runID : Int) : (hub prs refusal).after runs (.cancelFn repo runID) =
    withdraw runs repo (if refused refusal repo runID then [] else [runID]) := by
  have after : (hub prs refusal).after runs (.cancelFn repo runID) =
    if refusal repo runID = none then withdraw runs repo [runID] else runs := rfl
  rw [after, refused]
  cases refusal repo runID with
  | none => rfl
  | some error => exact (withdraw_nil runs repo).symm

theorem eligible_visited (limit : Nat) (other : String) :
    eligible prs (withdraw runs repo (Rounds.cleared (·.run.id) (refused refusal repo) limit
      (eligible prs runs repo))) other =
        if other = repo then
          Rounds.round (·.run.id) (refused refusal repo) limit (eligible prs runs other)
        else eligible prs runs other := by
  by_cases same : other = repo
  · rw [if_pos same, same, eligible_withdraw, Rounds.round]
  · rw [if_neg same, eligible_withdraw_of_ne same]

/-! ## One visit -/

section

variable {opts : Options} {limit : Nat}
variable (calls : opts.cancelFn = fun repo runID => perform (.cancelFn repo runID))
variable (execute : opts.execute = true)

include calls

theorem cancelCandidate_run {candidate : Candidate} {event : ReapEvent} {report : Report} :
    ∃ after, ((cancelCandidate opts repo candidate event).run report).run (hub prs refusal) runs =
      some (((), after), (hub prs refusal).after runs (.cancelFn repo candidate.run.id)) := by
  unfold cancelCandidate
  rw [calls]
  -- the answer decides only about the report
  rw [Routine.run_perform]
  cases (hub prs refusal).answer runs (.cancelFn repo candidate.run.id) with
  | none => exact ⟨_, rfl⟩
  | some error =>
    dsimp only
    split
    · exact ⟨_, rfl⟩
    · exact ⟨_, rfl⟩

include execute

theorem reapCandidates_run {heads : List (String × String)} {total index : Nat} {report : Report}
    (capped : opts.maxCancelPerRepo = limit) (below : index ≤ limit) (candidates : List Candidate) :
    ∃ after, ((reapCandidates opts repo heads total index candidates).run report).run
      (hub prs refusal) runs = some (((), after), withdraw runs repo
        (Rounds.cleared (·.run.id) (refused refusal repo) (limit - index) candidates)) := by
  induction candidates generalizing index report runs with
  | nil =>
    rw [Rounds.cleared, List.take_nil, List.map_nil, List.filter_nil, withdraw_nil]
    exact ⟨report, rfl⟩
  | cons candidate rest induction =>
    unfold reapCandidates
    by_cases reached : opts.maxCancelPerRepo ≤ index
    · have last : limit - index = 0 := by omega
      rw [if_pos reached, last, Rounds.cleared, List.take_zero, List.map_nil, List.filter_nil,
        withdraw_nil]
      exact ⟨_, rfl⟩
    · have few : limit - index = limit - (index + 1) + 1 := by omega
      rcases cancelCandidate_run calls with ⟨after, cancelled⟩
      rw [if_neg reached, if_pos execute, Routine.run_modify, Routine.run_next cancelled,
        hub_cancelFn, few, Rounds.cleared_cons, ← withdraw_withdraw]
      exact induction (by omega)

theorem reapRepo_run {report : Report} (capped : opts.maxCancelPerRepo = limit) :
    ∃ after, ((reapRepo opts repo).run report).run (hub prs refusal) runs =
      some (((), after), withdraw runs repo (Rounds.cleared (·.run.id) (refused refusal repo) limit
        (eligible prs runs repo))) := by
  have heads : (listOpenHeads repo).run (hub prs refusal) runs =
    some (.ok (openHeads (prs repo)), runs) := rfl
  have active : (listActiveRuns repo).run (hub prs refusal) runs =
    some (.ok (runs repo .queued ++ runs repo .inProgress), runs) := by
    have pages : (listActiveRuns repo).run (hub prs refusal) runs =
      some (.ok ([runs repo .queued].flatten ++ ([runs repo .inProgress].flatten ++ [])), runs) := rfl
    rw [pages]
    simp
  unfold reapRepo
  rw [Routine.run_lift heads]
  dsimp only
  rw [Routine.run_lift active]
  exact reapCandidates_run calls execute capped (Nat.zero_le limit) _

/-! ## Ticks -/

/-- The rounds that some visits make on the eligible runs of each repository. -/
def Visited (prs : String → List PullRequest) (refusal : String → Int → Option Error) (limit : Nat)
    (visits : String → Nat) (before after : Runs) : Prop :=
  ∀ repo, validateRepo repo = none → eligible prs after repo =
    (Rounds.round (·.run.id) (refused refusal repo) limit)^[visits repo] (eligible prs before repo)

theorem reapRepos_run {report : Report} (capped : opts.maxCancelPerRepo = limit)
    (repos : List String) :
    ∃ after runs', ((reapRepos opts repos).run report).run (hub prs refusal) runs =
      some (((), after), runs') ∧ Visited prs refusal limit (repos.count ·) runs runs' := by
  induction repos generalizing report runs with
  | nil => exact ⟨report, runs, rfl, fun _ _ => rfl⟩
  | cons repo rest induction =>
    unfold reapRepos
    cases valid : validateRepo repo with
    | some error =>
      dsimp only
      rcases induction with ⟨after, runs', ended, visited⟩
      apply Exists.intro after
      apply Exists.intro runs'
      apply And.intro ended
      intro other named
      have different : repo ≠ other := fun same => by
        rw [same, named] at valid
        exact absurd valid (by simp)
      rw [visited other named]
      dsimp only
      rw [List.count_cons_of_ne different]
    | none =>
      dsimp only
      rcases reapRepo_run calls execute capped with ⟨middle, visit⟩
      rw [Routine.run_modify, Routine.run_next visit]
      rcases induction with ⟨after, runs', ended, visited⟩
      apply Exists.intro after
      apply Exists.intro runs'
      apply And.intro ended
      intro other named
      rw [visited other named, eligible_visited]
      dsimp only
      rw [List.count_cons]
      by_cases same : other = repo
      · rw [if_pos same, same, beq_self_eq_true, if_pos rfl, Function.iterate_succ_apply]
      · have different : (repo == other) = false := by simpa using fun same' => same same'.symm
        rw [if_neg same, different, if_neg (by decide), Nat.add_zero]

end

theorem reap_run {opts : Options} (runs : Runs)
    (calls : opts.cancelFn = fun repo runID => perform (.cancelFn repo runID))
    (execute : opts.execute = true) :
    ∃ report runs', (reap opts).run (hub prs refusal) runs = some (report, runs') ∧
      Visited prs refusal (cap opts) (opts.repos.count ·) runs runs' := by
  have repos : (applyDefaults opts).repos = opts.repos := by
    unfold applyDefaults
    split <;> rfl
  rcases reapRepos_run ((applyDefaults_cancelFn opts).trans calls)
    ((applyDefaults_execute opts).trans execute) (maxCancelPerRepo_eq_cap opts) opts.repos with
    ⟨after, runs', ended, visited⟩
  unfold reap
  dsimp only
  rw [repos]
  by_cases none : opts.repos = []
  · rw [if_pos none]
    apply Exists.intro _
    apply Exists.intro runs
    apply And.intro rfl
    intro repo _
    rw [none]
    rfl
  · rw [if_neg none, Program.run_next ended]
    exact ⟨_, _, rfl, visited⟩

theorem ticks_run {opts : Options}
    (calls : opts.cancelFn = fun repo runID => perform (.cancelFn repo runID))
    (execute : opts.execute = true) (count : Nat) (runs : Runs) :
    ∃ runs', ticks prs refusal opts count runs = some runs' ∧
      Visited prs refusal (cap opts) (fun repo => count * opts.repos.count repo) runs runs' := by
  induction count generalizing runs with
  | zero =>
    apply Exists.intro runs
    apply And.intro rfl
    intro repo _
    dsimp only
    rw [Nat.zero_mul, Function.iterate_zero_apply]
  | succ count induction =>
    rcases reap_run runs calls execute with ⟨report, middle, tick, visited⟩
    rcases induction middle with ⟨runs', ended, later⟩
    apply Exists.intro runs'
    apply And.intro
    · rw [ticks, tick]
      exact ended
    · intro repo valid
      rw [later repo valid, visited repo valid, ← Function.iterate_add_apply]
      dsimp only
      rw [Nat.succ_mul]

end

/-- No eligible run is left that can be cancelled. -/
def AllCancelled (prs : String → List PullRequest) (refusal : String → Int → Option Error)
    (opts : Options) (runs : Runs) : Prop :=
  ∀ repo ∈ opts.repos, validateRepo repo = none →
    ∀ candidate ∈ eligible prs runs repo, refusal repo candidate.run.id ≠ none

/-- Before an eligible run that can be cancelled there are fewer than the cap that cannot. -/
def Unblocked (prs : String → List PullRequest) (refusal : String → Int → Option Error)
    (opts : Options) (runs : Runs) : Prop :=
  ∀ repo ∈ opts.repos, validateRepo repo = none →
    ∀ candidate ∈ eligible prs runs repo, refusal repo candidate.run.id = none →
      Rounds.ahead (·.run.id) (refused refusal repo) (eligible prs runs repo) candidate.run.id <
        cap opts

theorem exists_common {holds : String → Nat → Prop}
    (later : ∀ repo count more, count ≤ more → holds repo count → holds repo more)
    {repos : List String} (each : ∀ repo ∈ repos, ∃ count, holds repo count) :
    ∃ count, ∀ repo ∈ repos, holds repo count := by
  induction repos with
  | nil => exact ⟨0, nofun⟩
  | cons repo rest induction =>
    rw [List.forall_mem_cons] at each
    rcases each.1 with ⟨here, first⟩
    rcases induction each.2 with ⟨count, others⟩
    apply Exists.intro (max here count)
    rw [List.forall_mem_cons]
    exact ⟨later _ _ _ (Nat.le_max_left _ _) first, fun other member =>
      later _ _ _ (Nat.le_max_right _ _) (others other member)⟩

theorem rounds_settle_iff (refusal : String → Int → Option Error) (repo : String) (limit : Nat)
    (queue : List Candidate) :
    (∃ rounds, ∀ candidate ∈ (Rounds.round (·.run.id) (refused refusal repo) limit)^[rounds] queue,
      refusal repo candidate.run.id ≠ none) ↔
      ∀ candidate ∈ queue, refusal repo candidate.run.id = none →
        Rounds.ahead (·.run.id) (refused refusal repo) queue candidate.run.id < limit := by
  have settle : (∃ rounds, ∀ candidate ∈
    (Rounds.round (·.run.id) (refused refusal repo) limit)^[rounds] queue,
      refused refusal repo candidate.run.id = true) ↔ _ := Rounds.exists_rounds_iff queue
  simpa only [refused, Option.isSome_iff_ne_none, Option.isSome_eq_false_iff,
    Option.isNone_iff_eq_none] using settle

namespace Sample

def ghost (_ : String) (runID : Int) : Option Error :=
  if runID = 1 then some (.sentinel .runAlreadyCompleted) else none

def noPullRequests (_ : String) : List PullRequest := []

def ghostAndRun (_ : String) : Status → List Run
  | .queued => [closedRun 1, closedRun 2]
  | .inProgress => []

def capped (limit : Int) : Options where
  repos := ["acme/app"]
  execute := true
  maxCancelPerRepo := limit
  cancelFn repo runID := perform (.cancelFn repo runID)

theorem eligible_ghostAndRun (repo : String) : eligible noPullRequests ghostAndRun repo =
    [⟨closedRun 1, .prNotOpen⟩, ⟨closedRun 2, .prNotOpen⟩] := by
  have sorted : [1, 2].Pairwise fun first second : Int => first ≤ second := by decide
  exact candidatesOf_closed sorted

end Sample

end Civm.RunReaper
