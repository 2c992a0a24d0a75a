import Mathlib.Algebra.GroupWithZero.Nat
import Mathlib.Data.List.Dedup
import Mathlib.Data.List.Nodup
import Civm.Foundation.Outcomes
import Civm.Foundation.Play
import Civm.RunReaper.Reap

/-! # The report of a pass

What a report says is compared with what the pass has read and what it has tried to
cancel. -/

namespace Civm.RunReaper

/-! ## What is seen of a pass -/

/-- A repository whose pull requests and runs have been listed. -/
structure Scan where
  repo : String
  heads : List (String × String)
  runs : List Run

def Scan.candidates (scan : Scan) : List Candidate := candidatesOf scan.heads scan.runs

def scansOf : List (Event Answer) → List Scan
  | ⟨.pullRequests repo, .read prs⟩ :: ⟨.activeRuns _ .queued, .read queued⟩ ::
    ⟨.activeRuns _ .inProgress, .read running⟩ :: rest =>
    ⟨repo, openHeads prs, queued.flatten ++ running.flatten⟩ :: scansOf rest
  | _ :: rest => scansOf rest
  | [] => []

def attempt? : Event Answer → Option (String × Int)
  | ⟨.cancelFn repo runID, _⟩ => some (repo, runID)
  | _ => none

def succeeded : Event Answer → Bool
  | ⟨.cancelFn _ _, none⟩ => true
  | _ => false

/-- The runs of a scan that come before the cap. -/
def Scan.planned (cap : Nat) (scan : Scan) : List (String × Int) :=
  (scan.candidates.take cap).map fun candidate => (scan.repo, candidate.run.id)

def cap (opts : Options) : Nat := (applyDefaults opts).maxCancelPerRepo.toNat

/-- The runs whose cancellation was attempted, or would have been. -/
def attempted (opts : Options) (trace : List (Event Answer)) : List (String × Int) :=
  if opts.execute then trace.filterMap attempt?
  else (scansOf trace).flatMap (Scan.planned (cap opts))

def reapedRuns (events : List ReapEvent) : List (String × Int) :=
  (events.filter (·.event = "run-reaped")).map fun event => (event.repo, event.runID)

/-- The report tells what has happened, and no repository has had more than its share. -/
structure Exact (opts : Options) (trace : List (Event Answer)) (report : Report) : Prop where
  candidates : report.candidates = ((scansOf trace).map (·.candidates.length)).sum
  cancelled : opts.execute = true → report.cancelled = trace.countP succeeded
  events : ∀ run, (reapedRuns report.events).count run =
    if run ∈ attempted opts trace then 1 else 0
  capped : ∀ repo, ((attempted opts trace).filter (·.1 = repo)).dedup.length ≤ cap opts

/-- No scan has more than one run beyond the cap, no run comes before the cap twice, and
all scans of a repository together keep to the cap. -/
structure Manageable (opts : Options) (scans : List Scan) : Prop where
  few : ∀ scan ∈ scans, scan.candidates.length ≤ cap opts + 1
  once : (scans.flatMap (Scan.planned (cap opts))).Nodup
  shared : ∀ repo, ((scans.flatMap (Scan.planned (cap opts))).filter (·.1 = repo)).length ≤ cap opts

/-! ## Counting along a pass -/

/-- What a part of a pass adds to the report and to the trace. -/
structure Tally (opts : Options) (count : Nat) (planned : List (String × Int)) (scans : List Scan)
    (before after : Report) (events : List (Event Answer)) : Prop where
  candidates : after.candidates = before.candidates + count
  cancelled : after.cancelled = before.cancelled + events.countP succeeded
  reaped : reapedRuns after.events = reapedRuns before.events ++ planned
  attempts : events.filterMap attempt? = if opts.execute then planned else []
  scans : ∀ rest, scansOf (events ++ rest) = scans ++ scansOf rest

section

variable {opts : Options} {count more limit : Nat} {planned others : List (String × Int)}
variable {scans later : List Scan} {before middle after : Report} {events rest : List (Event Answer)}
variable {repo : String}

theorem Tally.trans (first : Tally opts count planned scans before middle events)
    (second : Tally opts more others later middle after rest) :
    Tally opts (count + more) (planned ++ others) (scans ++ later) before after (events ++ rest) where
  candidates := by rw [second.candidates, first.candidates, Nat.add_assoc]
  cancelled := by rw [second.cancelled, first.cancelled, List.countP_append, Nat.add_assoc]
  reaped := by rw [second.reaped, first.reaped, List.append_assoc]
  attempts := by
    rw [List.filterMap_append, first.attempts, second.attempts]
    split <;> rfl
  scans := by
    intro final
    rw [List.append_assoc, first.scans, second.scans, List.append_assoc]

theorem Tally.note (candidates : after.candidates = before.candidates)
    (cancelled : after.cancelled = before.cancelled)
    (reaped : reapedRuns after.events = reapedRuns before.events) :
    Tally opts 0 [] [] before after [] where
  candidates := candidates
  cancelled := cancelled
  reaped := by rw [reaped, List.append_nil]
  attempts := by simp
  scans := fun _ => rfl

theorem reapedRuns_append (events more : List ReapEvent) :
    reapedRuns (events ++ more) = reapedRuns events ++ reapedRuns more := by
  rw [reapedRuns, List.filter_append, List.map_append, reapedRuns, reapedRuns]

theorem reapedRuns_reaped {event : ReapEvent} (reaped : event.event = "run-reaped") :
    reapedRuns [event] = [(event.repo, event.runID)] := by
  simp [reapedRuns, reaped]

theorem reapedRuns_other {event : ReapEvent} (other : event.event ≠ "run-reaped") :
    reapedRuns [event] = [] := by
  simp [reapedRuns, other]

theorem Tally.other {event : ReapEvent} (exit : Nat) (other : event.event ≠ "run-reaped") :
    Tally opts 0 [] [] before { before with events := before.events ++ [event], exit := exit } [] :=
  Tally.note rfl rfl (by rw [reapedRuns_append, reapedRuns_other other, List.append_nil])

theorem Tally.dry {runID : Int} {event : ReapEvent} (dry : opts.execute = false)
    (reaped : event.event = "run-reaped")
    (concerns : (event.repo, event.runID) = (repo, runID)) :
    Tally opts 0 [(repo, runID)] [] before
      { before with events := before.events ++ [event] } [] where
  candidates := rfl
  cancelled := rfl
  reaped := by rw [reapedRuns_append, reapedRuns_reaped reaped, concerns]
  attempts := by simp [dry]
  scans := fun _ => rfl

theorem Tally.attempt {runID : Int} {event : ReapEvent} (answer : Option Error)
    (execute : opts.execute = true) (candidates : after.candidates = before.candidates)
    (cancelled : after.cancelled = before.cancelled + if answer = none then 1 else 0)
    (events : after.events = before.events ++ [event]) (reaped : event.event = "run-reaped")
    (concerns : (event.repo, event.runID) = (repo, runID)) :
    Tally opts 0 [(repo, runID)] [] before after [⟨.cancelFn repo runID, answer⟩] where
  candidates := candidates
  cancelled := by
    rw [cancelled]
    cases answer <;> rfl
  reaped := by rw [events, reapedRuns_append, reapedRuns_reaped reaped, concerns]
  attempts := by simp [execute, attempt?]
  scans := fun _ => rfl

/-- The postcondition of a part of a pass. -/
def Tallied (opts : Options) (count : Nat) (planned : List (String × Int)) (scans : List Scan)
    (before : Report) : Unit → Report → List (Event Answer) → Prop :=
  fun _ after events => Tally opts count planned scans before after events

/-- Listings of which nothing comes. -/
structure Fruitless (events : List (Event Answer)) : Prop where
  attempts : events.filterMap attempt? = []
  cancelled : events.countP succeeded = 0
  scans : ∀ rest, scansOf (events ++ rest) = scansOf rest

theorem Fruitless.tally (fruitless : Fruitless events) : Tally opts 0 [] [] before before events where
  candidates := rfl
  cancelled := by rw [fruitless.cancelled, Nat.add_zero]
  reaped := (List.append_nil _).symm
  attempts := by rw [fruitless.attempts, ite_self]
  scans := fruitless.scans

theorem listOpenHeads_ends (repo : String) :
    (listOpenHeads repo).Ends Program.everything fun result events =>
      match result with
      | .error _ => Fruitless events
      | .ok heads => ∃ prs, events = [⟨.pullRequests repo, .read prs⟩] ∧ heads = openHeads prs := by
  unfold listOpenHeads
  rw [Program.ends_perform]
  intro listing
  cases listing with
  | failed error | garbled error => exact Program.ends_pure.mpr ⟨rfl, rfl, fun _ => rfl⟩
  | read prs => exact Program.ends_pure.mpr ⟨prs, rfl, rfl⟩

theorem listActiveRuns_ends (repo : String) (prs : List PullRequest) :
    (listActiveRuns repo).Ends Program.everything fun result events =>
      match result with
      | .error _ => Fruitless (⟨.pullRequests repo, .read prs⟩ :: events)
      | .ok runs => ∃ queued running, events = [⟨.activeRuns repo .queued, .read queued⟩,
          ⟨.activeRuns repo .inProgress, .read running⟩] ∧
            runs = queued.flatten ++ running.flatten := by
  unfold listActiveRuns
  rw [listActiveRunsOf, Program.ends_perform]
  intro listing
  cases listing with
  | failed error | garbled error => exact Program.ends_pure.mpr ⟨rfl, rfl, fun _ => rfl⟩
  | read queued =>
    rw [listActiveRunsOf]
    dsimp only
    rw [bind_assoc, Program.ends_perform]
    intro listing
    cases listing with
    | failed error | garbled error => exact Program.ends_pure.mpr ⟨rfl, rfl, fun _ => rfl⟩
    | read running =>
      apply Program.ends_pure.mpr
      exact ⟨queued, running, rfl, by simp⟩

/-- A pass over some scans. -/
def Covered (opts : Options) (limit : Nat) (before : Report) :
    Unit → Report → List (Event Answer) → Prop :=
  fun _ after events => ∃ scans : List Scan,
    Tally opts (scans.map fun scan => min scan.candidates.length (limit + 1)).sum
      (scans.flatMap (Scan.planned limit)) scans before after events

theorem Covered.trans (first : Covered opts limit before () middle events)
    (second : Covered opts limit middle () after rest) :
    Covered opts limit before () after (events ++ rest) := by
  rcases first with ⟨scans, first⟩
  rcases second with ⟨later, second⟩
  apply Exists.intro (scans ++ later)
  rw [List.map_append, List.sum_append, List.flatMap_append]
  exact first.trans second

theorem Tally.covered (tally : Tally opts 0 [] [] before after events) :
    Covered opts limit before () after events :=
  ⟨[], tally⟩

variable (calls : opts.cancelFn = fun repo runID => perform (.cancelFn repo runID))

include calls

theorem cancelCandidate_tally {candidate : Candidate} {event : ReapEvent}
    (execute : opts.execute = true) (reaped : event.event = "run-reaped")
    (concerns : (event.repo, event.runID) = (repo, candidate.run.id)) :
    (cancelCandidate opts repo candidate event).Ends Program.everything
      (Tallied opts 0 [(repo, candidate.run.id)] [] before) before := by
  unfold cancelCandidate
  rw [calls]
  apply Routine.ends_perform
  intro answer
  cases answer with
  | none =>
    apply Routine.ends_modify_bind
    apply Routine.ends_modify
    exact Tally.attempt none execute rfl rfl rfl reaped concerns
  | some error =>
    dsimp only
    rw [Routine.ends_ite]
    constructor
    · intro _
      apply Routine.ends_modify
      exact Tally.attempt (some error) execute rfl rfl rfl reaped concerns
    · intro _
      apply Routine.ends_modify_bind
      apply Routine.ends_modify
      exact Tally.attempt (some error) execute rfl rfl rfl reaped concerns

theorem reapCandidates_tally {heads : List (String × String)} {total index : Nat}
    (capped : opts.maxCancelPerRepo = limit) (below : index ≤ limit) (candidates : List Candidate) :
    (reapCandidates opts repo heads total index candidates).Ends Program.everything
      (Tallied opts (min candidates.length (limit - index + 1))
        ((candidates.take (limit - index)).map fun candidate => (repo, candidate.run.id)) []
        before) before := by
  induction candidates generalizing index before with
  | nil =>
    apply Routine.ends_pure
    rw [Tallied, List.length_nil, Nat.zero_min, List.take_nil, List.map_nil]
    exact Tally.note rfl rfl rfl
  | cons candidate rest induction =>
    unfold reapCandidates
    apply Routine.ends_modify_bind
    have counted : Tally opts 1 [] [] before
      { before with candidates := before.candidates + 1 } [] :=
      ⟨rfl, rfl, (List.append_nil _).symm, by simp, fun _ => rfl⟩
    rw [Routine.ends_ite]
    constructor
    · intro reached
      apply Routine.ends_modify
      have last : limit - index = 0 := by omega
      rw [last, Tallied, Nat.min_eq_right (by simp), List.take_zero, List.map_nil]
      exact counted.trans (Tally.other _ (by simp))
    · intro open_
      have few : limit - index = limit - (index + 1) + 1 := by omega
      have count : min (candidate :: rest).length (limit - index + 1) =
        1 + (0 + min rest.length (limit - (index + 1) + 1)) := by
        rw [List.length_cons]
        omega
      have planned : ((candidate :: rest).take (limit - index)).map
        (fun candidate => (repo, candidate.run.id)) = [] ++ ([(repo, candidate.run.id)] ++
          (rest.take (limit - (index + 1))).map fun candidate => (repo, candidate.run.id)) := by
        rw [few, List.take_succ_cons, List.map_cons]
        rfl
      have event : (reapEvent opts repo heads candidate).event = "run-reaped" := rfl
      have concerns : ((reapEvent opts repo heads candidate).repo,
        (reapEvent opts repo heads candidate).runID) = (repo, candidate.run.id) := rfl
      rw [count, planned]
      dsimp only
      rw [Routine.ends_ite]
      constructor
      · intro execute
        apply (cancelCandidate_tally calls execute event concerns).bind
        intro _ _ events tally
        apply (induction (by omega)).mono
        intro _ _ more others
        exact counted.trans (tally.trans others)
      · intro dry
        apply Routine.ends_modify_bind
        apply (induction (by omega)).mono
        intro _ _ more others
        exact counted.trans ((Tally.dry ((Bool.not_eq_true _).mp dry) event concerns).trans
          others)

theorem reapRepo_covered (capped : opts.maxCancelPerRepo = limit) (repo : String) :
    (reapRepo opts repo).Ends Program.everything (Covered opts limit before) before := by
  unfold reapRepo
  apply Routine.ends_lift (listOpenHeads_ends repo)
  intro heads events listed
  cases heads with
  | error error =>
    apply Routine.ends_modify_bind
    apply Routine.ends_modify
    exact (listed.tally.trans (Tally.other _ (by simp))).covered
  | ok heads =>
    rcases listed with ⟨prs, rfl, rfl⟩
    apply Routine.ends_lift (listActiveRuns_ends repo prs)
    intro runs events listed
    cases runs with
    | error error =>
      apply Routine.ends_modify_bind
      apply Routine.ends_modify
      exact (listed.tally.trans (Tally.other _ (by simp))).covered
    | ok runs =>
      rcases listed with ⟨queued, running, rfl, rfl⟩
      apply Routine.ends_modify_bind
      apply (reapCandidates_tally calls capped (Nat.zero_le _) _).mono
      intro _ after attempts tally
      let scan : Scan := ⟨repo, openHeads prs, queued.flatten ++ running.flatten⟩
      have count : ([scan].map fun scan => min scan.candidates.length (limit + 1)).sum =
        min (candidatesOf (openHeads prs) (queued.flatten ++ running.flatten)).length
          (limit - 0 + 1) := by simp [scan, Scan.candidates]
      have planned : [scan].flatMap (Scan.planned limit) =
        ((candidatesOf (openHeads prs) (queued.flatten ++ running.flatten)).take
          (limit - 0)).map fun candidate => (repo, candidate.run.id) := by
        simp [scan, Scan.planned, Scan.candidates]
      apply Exists.intro [scan]
      rw [count, planned]
      exact ⟨tally.candidates, tally.cancelled, tally.reaped, tally.attempts,
        fun rest => congrArg (scan :: ·) (tally.scans rest)⟩

theorem reapRepos_covered (capped : opts.maxCancelPerRepo = limit) (repos : List String) :
    (reapRepos opts repos).Ends Program.everything (Covered opts limit before) before := by
  induction repos generalizing before with
  | nil => exact Routine.ends_pure (Tally.note rfl rfl rfl).covered
  | cons repo rest induction =>
    unfold reapRepos
    cases validateRepo repo with
    | some error =>
      dsimp only
      apply Routine.ends_modify_bind
      apply Routine.ends_modify_bind
      apply induction.mono
      intro _ _ _ others
      exact (Tally.other _ (by simp)).covered.trans others
    | none =>
      dsimp only
      apply Routine.ends_modify_bind
      apply (reapRepo_covered calls capped repo).bind
      intro _ _ _ here
      apply induction.mono
      intro _ _ _ others
      have named : Tally opts 0 [] [] before
        { before with repos := before.repos ++ [repo] } [] := Tally.note rfl rfl rfl
      exact named.covered.trans (here.trans others)

end

theorem maxCancelPerRepo_eq_cap (opts : Options) :
    (applyDefaults opts).maxCancelPerRepo = cap opts := by
  have positive : 0 < (applyDefaults opts).maxCancelPerRepo := by
    unfold applyDefaults
    split
    · exact (by decide : (0 : Int) < 400)
    · omega
  rw [cap]
  omega

theorem applyDefaults_cancelFn (opts : Options) :
    (applyDefaults opts).cancelFn = opts.cancelFn := by
  unfold applyDefaults
  split <;> rfl

theorem applyDefaults_execute (opts : Options) : (applyDefaults opts).execute = opts.execute := by
  unfold applyDefaults
  split <;> rfl

theorem reap_covered {opts : Options}
    (calls : opts.cancelFn = fun repo runID => perform (.cancelFn repo runID)) :
    (reap opts).Ends Program.everything fun report events =>
      Covered (applyDefaults opts) (cap opts) { executed := (applyDefaults opts).execute } ()
        report events := by
  have calls := (applyDefaults_cancelFn opts).trans calls
  have capped := maxCancelPerRepo_eq_cap opts
  unfold reap
  dsimp only
  have scan : Routine.Ends Program.everything (if (applyDefaults opts).repos = [] then do
    add { event := "reap-skipped", severity := "warning", reason := "no-repos" }
    modify fun report => { report with exit := 1 }
    else reapRepos (applyDefaults opts) (applyDefaults opts).repos)
      (Covered (applyDefaults opts) (cap opts) { executed := (applyDefaults opts).execute })
      { executed := (applyDefaults opts).execute } := by
    rw [Routine.ends_ite]
    constructor
    · intro _
      apply Routine.ends_modify_bind
      apply Routine.ends_modify
      exact (Tally.other _ (by simp)).covered
    · intro _
      exact reapRepos_covered calls capped _
  apply Program.Ends.bind scan
  intro result events covered
  apply Program.ends_pure.mpr
  rwa [List.append_nil]

/-! ## The report -/

theorem sum_min_eq_iff (scans : List Scan) (limit : Nat) :
    (scans.map fun scan => min scan.candidates.length limit).sum =
        (scans.map (·.candidates.length)).sum ↔
      ∀ scan ∈ scans, scan.candidates.length ≤ limit := by
  have fewer (scans : List Scan) : (scans.map fun scan => min scan.candidates.length limit).sum ≤
    (scans.map (·.candidates.length)).sum := by
    induction scans with
    | nil => exact Nat.le_refl _
    | cons scan rest induction =>
      rw [List.map_cons, List.map_cons, List.sum_cons, List.sum_cons]
      exact Nat.add_le_add (Nat.min_le_left _ _) induction
  induction scans with
  | nil => simp
  | cons scan rest induction =>
    have bound := fewer rest
    rw [List.map_cons, List.map_cons, List.sum_cons, List.sum_cons, List.forall_mem_cons]
    constructor
    · intro same
      exact ⟨by omega, induction.mp (by omega)⟩
    · intro few
      have same := induction.mpr few.2
      omega

theorem count_eq_iff_nodup {runs : List (String × Int)} :
    (∀ run, runs.count run = if run ∈ runs then 1 else 0) ↔ runs.Nodup := by
  rw [List.nodup_iff_count_eq_one]
  constructor
  · intro counts run member
    rw [counts run, if_pos member]
  · intro counts run
    split
    case isTrue member => exact counts run member
    case isFalse absent => exact List.count_eq_zero.mpr absent

namespace Sample

def closedRun (id : Int) : Run := ⟨id, "patch", "4c1f", "pull_request", "build", id⟩

def dryPass : Options where
  repos := ["acme/app"]
  execute := false
  maxCancelPerRepo := 1
  cancelFn repo runID := perform (.cancelFn repo runID)

def listing (runs : List Run) : List (Event Answer) :=
  [⟨.pullRequests "acme/app", .read []⟩, ⟨.activeRuns "acme/app" .queued, .read [runs]⟩,
    ⟨.activeRuns "acme/app" .inProgress, .read []⟩]

theorem candidatesOf_closed {ids : List Int} (sorted : ids.Pairwise (· ≤ ·)) :
    candidatesOf [] (ids.map closedRun) = ids.map fun id => ⟨closedRun id, .prNotOpen⟩ := by
  have reasons : ((ids.map closedRun).filterMap fun run =>
    (reasonOf [] run).map fun reason => (⟨run, reason⟩ : Candidate)) =
      ids.map fun id => ⟨closedRun id, .prNotOpen⟩ := by
    clear sorted
    induction ids with
    | nil => rfl
    | cons id rest induction =>
      rw [List.map_cons, List.filterMap_cons, induction]
      rfl
  rw [candidatesOf, reasons, List.mergeSort_of_pairwise]
  rw [List.pairwise_map]
  exact sorted.imp fun before => decide_eq_true before

theorem scansOf_listing (runs : List Run) :
    scansOf (listing runs) = [⟨"acme/app", [], runs⟩] := by
  have scanned : scansOf (listing runs) =
    [⟨"acme/app", [], [runs].flatten ++ [].flatten⟩] := rfl
  rw [scanned]
  simp

theorem reapCandidates_dry {opts : Options} {repo : String} {heads : List (String × String)}
    {total index : Nat} {report : Report} (dry : opts.execute = false) (candidates : List Candidate) :
    ∃ after, (reapCandidates opts repo heads total index candidates).run report =
      .done ((), after) := by
  induction candidates generalizing index report with
  | nil => exact ⟨report, rfl⟩
  | cons candidate rest induction =>
    unfold reapCandidates
    simp only [StateT.run_bind, dry, Bool.false_eq_true, if_false]
    by_cases reached : opts.maxCancelPerRepo ≤ index
    · rw [if_pos reached]
      exact ⟨_, rfl⟩
    · rw [if_neg reached]
      exact induction

theorem listing_execution (runs : List Run) : ∃ report,
    Execution .any (reap dryPass) [] () (listing runs) () (some report) := by
  have ends (total : Nat) (report : Report) (candidates : List Candidate) : ∃ after,
    (reapCandidates dryPass "acme/app" [] total 0 candidates).run report = .done ((), after) :=
    reapCandidates_dry rfl candidates
  have valid : validateRepo "acme/app" = none := by decide +kernel
  have scans : ∃ after, Execution .any ((reapRepos dryPass ["acme/app"]).run
    { executed := false }) [] () (listing runs) () (some ((), after)) := by
    unfold reapRepos
    rw [valid]
    rcases ends _ _ (candidatesOf [] ([runs].flatten ++ ([].flatten ++ []))) with ⟨after, ended⟩
    apply Exists.intro after
    apply Execution.answered (.read []) trivial
    apply Execution.answered (.read [runs]) trivial
    apply Execution.answered (.read []) trivial
    change Execution _ (Program.bind ((reapCandidates dryPass "acme/app" [] _ 0
      (candidatesOf [] ([runs].flatten ++ ([].flatten ++ [])))).run _) _) _ _ _ _ _
    rw [ended]
    exact .done
  rcases scans with ⟨after, scans⟩
  have same : reap dryPass = ((reapRepos dryPass ["acme/app"]).run { executed := false } >>=
    fun result => pure result.2) := rfl
  exact ⟨after, same ▸ scans.map Prod.snd⟩

end Sample

end Civm.RunReaper
