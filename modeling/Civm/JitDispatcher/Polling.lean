import Civm.JitDispatcher.Observation

/-! # What the dispatcher's polling loops establish

Each loop is followed by induction on its rounds; the round that ends it
carries the facts. -/

namespace Civm.JitDispatcher

variable {assumptions : Assumptions}

theorem validateRunIdentity_eq_none {run : WorkflowRun} {policy : RepositoryPolicy}
    {trustedSHA nonce : String} :
    validateRunIdentity run policy trustedSHA nonce = none ↔
      run.event = "workflow_dispatch" ∧ run.headSHA = trustedSHA ∧
        run.displayTitle = runTitle nonce ∧ run.path = expectedPath policy := by
  simp [validateRunIdentity]

theorem requestLogDir_observes (requestID : String) (trace : Trace) (world : World) :
    Observes assumptions (requestLogDir requestID) trace world fun _ _ _ => True := by
  unfold requestLogDir
  split
  · exact Observes.perform rfl fun _ _ _ => Observes.pure trivial
  · exact Observes.pure trivial

namespace Dispatcher

/-! ## Cleaning up -/

theorem awaitTerminal_observes (policy : RepositoryPolicy) (ledger : Ledger) (polls : Nat)
    (trace : Trace) (world : World) :
    Observes assumptions (awaitTerminal policy ledger polls) trace world fun error _ world' =>
      error = none →
        world'.RunSettled ledger.repository ledger.runID (runTitle ledger.nonce) := by
  induction polls generalizing trace world with
  | zero => exact Observes.spin
  | succ polls induction =>
    refine (getRun_observes _ _ _ _).bind fun answer trace world _ _ holds => ?_
    cases answer with
    | error error => exact Observes.pure nofun
    | ok run =>
      rcases holds run rfl with ⟨sameID, settled, _⟩
      refine Observes.ite (fun _ => .pure nofun) fun matching => ?_
      have title := (validateRunIdentity_eq_none.mp
        (Option.not_isSome_iff_eq_none.mp matching)).2.2.1
      split
      · rename_i completed
        refine Observes.ite (fun _ => .pure nofun) fun _ => ?_
        refine Observes.pure fun _ => ?_
        rw [← sameID, ← title]
        exact settled completed
      · split
        · exact Observes.pure nofun
        · refine Observes.perform rfl fun slept _ _ => ?_
          cases slept with
          | some error => exact Observes.pure nofun
          | none => exact induction _ _

theorem cancelUnlessCompleted_observes (ledger : Ledger) (run : WorkflowRun) (trace : Trace)
    (world : World) :
    Observes assumptions (cancelUnlessCompleted ledger run) trace world fun _ _ _ => True := by
  unfold cancelUnlessCompleted
  refine Observes.ite (fun _ => .pure trivial) fun _ => ?_
  refine (cancelRun_observes _ _ _ _).bind fun answer _ _ _ _ _ => ?_
  cases answer with
  | none => exact Observes.pure trivial
  | some error =>
    dsimp only
    split <;> exact Observes.pure trivial

theorem cancelAndWaitTerminal_observes (dispatcher : Dispatcher) (policy : RepositoryPolicy)
    (ledger : Ledger) (trace : Trace) (world : World) :
    Observes assumptions (dispatcher.cancelAndWaitTerminal policy ledger) trace world
      fun error _ world' => error = none →
        world'.RunSettled ledger.repository ledger.runID (runTitle ledger.nonce) := by
  unfold cancelAndWaitTerminal
  refine (getRun_observes _ _ _ _).bind fun answer trace world _ _ _ => ?_
  cases answer with
  | error error => exact Observes.pure nofun
  | ok run =>
    refine Observes.ite (fun _ => .pure nofun) fun _ => ?_
    refine Observes.ite (fun _ => .pure nofun) fun _ => ?_
    refine (cancelUnlessCompleted_observes _ _ _ _).bind fun canceled _ _ _ _ _ => ?_
    cases canceled with
    | some error => exact Observes.pure nofun
    | none => exact awaitTerminal_observes _ _ _ _ _

theorem observationError_observes (error : Error) (trace : Trace) (world : World) :
    Observes assumptions (observationError error) trace world
      fun result _ _ => result ≠ none := by
  unfold observationError
  refine Observes.perform rfl fun expired _ _ => ?_
  cases expired <;> exact Observes.pure nofun

theorem deleteOnce_observes (ledger : Ledger) (deleted : Bool) (trace : Trace) (world : World) :
    Observes assumptions (deleteOnce ledger deleted) trace world fun _ _ _ => True := by
  unfold deleteOnce
  refine Observes.ite (fun _ => .pure trivial) fun _ => ?_
  exact deleteRunner_observes _ _ _ _

theorem removeRunner_observes (ledger : Ledger) (polls : Nat) (deleted : Bool) (trace : Trace)
    (world : World) :
    Observes assumptions (removeRunner ledger polls deleted) trace world
      fun error trace' world' => error = none →
        world'.RunnerSettled ledger.repository ledger.runnerID ∧
        ∃ requestID body, Extends trace trace'
          [⟨.getRunner ledger.repository ledger.runnerID, .response 404 requestID body⟩] := by
  induction polls generalizing trace world deleted with
  | zero => exact Observes.spin
  | succ polls induction =>
    refine (getRunner_observes _ _ _ _).bind fun answer trace' world longer _ holds => ?_
    cases answer with
    | error error => exact Observes.pure nofun
    | ok found =>
      cases found with
      | none => exact Observes.pure fun _ => holds rfl
      | some runner =>
        refine Observes.ite (fun _ => .pure nofun) fun _ => ?_
        refine (deleteOnce_observes _ _ _ _).bind fun deleteError _ _ longer' _ _ => ?_
        cases deleteError with
        | some error => exact Observes.pure nofun
        | none =>
          refine Observes.perform rfl fun slept _ _ => ?_
          cases slept with
          | some error => exact Observes.pure nofun
          | none =>
            refine (induction true _ _).mono ?_
            intro error final last _ _ holds gone
            rcases holds gone with ⟨settled, requestID, body, seen⟩
            exact ⟨settled, requestID, body,
              ((seen.since (Extends.grow _ _)).since longer').since longer⟩

/-! ## Waiting -/

theorem waitForRun_observes (repository : String) (policy : RepositoryPolicy) (ledger : Ledger)
    (identity : Identity) (polls : Nat) (trace : Trace) (world : World) :
    Observes assumptions (waitForRun repository policy ledger identity polls) trace world
      fun answer _ _ => ∀ run, answer = .ok run → run.id = ledger.runID := by
  induction polls generalizing trace world with
  | zero => exact Observes.spin
  | succ polls induction =>
    refine (getRun_observes _ _ _ _).bind fun answer _ _ _ _ holds => ?_
    cases answer with
    | ok run =>
      dsimp only
      split
      · exact Observes.pure nofun
      · refine Observes.pure fun _ equal => ?_
        cases equal
        exact (holds run rfl).1
    | error error =>
      refine Observes.ite (fun _ => .pure nofun) fun _ => ?_
      refine Observes.perform rfl fun slept _ _ => ?_
      cases slept with
      | some error => exact Observes.pure nofun
      | none => exact induction _ _

theorem waitForJob_observes (repository : String) (policy : RepositoryPolicy) (runID : Int)
    (label : String) (polls : Nat) (trace : Trace) (world : World) :
    Observes assumptions (waitForJob repository policy runID label polls) trace world
      fun answer trace' _ => ∀ job, answer = .ok job →
        queuedJobRefused job policy runID label = false ∧ ∃ seen body,
          GitHub.getJSON "list jobs" seen = .ok body ∧ body.jobs = [job] ∧
          Extends trace trace' [⟨.listJobs repository runID 1, seen⟩] := by
  induction polls generalizing trace world with
  | zero => exact Observes.spin
  | succ polls induction =>
    refine (listJobs_observes _ _ _ _).bind fun answer trace' _ longer _ holds => ?_
    cases answer with
    | error error => exact Observes.pure nofun
    | ok jobs =>
      match jobs with
      | [job] =>
        refine Observes.ite (fun _ => .pure nofun) fun accepted => ?_
        refine Observes.pure fun _ equal => ?_
        cases equal
        exact ⟨Bool.not_eq_true _ ▸ accepted, holds job rfl⟩
      | _ :: _ :: _ => exact Observes.pure nofun
      | [] =>
        refine Observes.perform rfl fun slept _ _ => ?_
        cases slept with
        | some error => exact Observes.pure nofun
        | none =>
          refine (induction _ _).mono ?_
          intro answer final _ _ _ found job equal
          rcases found job equal with ⟨accepted, seen, body, decoded, listed, extended⟩
          exact ⟨accepted, seen, body, decoded, listed,
            (extended.since (Extends.grow _ _)).since longer⟩

theorem validateExecutedJob_eq_none {job : WorkflowJob} {ledger : Ledger}
    {policy : RepositoryPolicy} {identity : Identity} :
    validateExecutedJob job ledger policy identity = none ↔
      (job.id = ledger.jobID ∧ job.runID = ledger.runID ∧ job.name = policy.jobName ∧
        job.labels = [identity.label]) ∧
      ((job.status = "in_progress" ∨ job.status = "completed") →
        job.runnerID = ledger.runnerID ∧ job.runnerName = identity.runnerName ∧
          job.runnerGroupID = policy.runnerGroupID) := by
  simp only [validateExecutedJob, reject_eq_none, not_or, not_and, Decidable.not_not, ne_eq,
    and_true]

/-- What the poll that ended `waitForCompletion` saw. -/
structure Succeeded (policy : RepositoryPolicy) (identity : Identity) (trustedSHA : String)
    (runID jobID runnerID : Int) (run : WorkflowRun) (job : WorkflowJob) : Prop where
  runEvent : run.event = "workflow_dispatch"
  runSHA : run.headSHA = trustedSHA
  runTitled : run.displayTitle = runTitle identity.nonce
  runPath : run.path = expectedPath policy
  runIs : run.id = runID
  runStatus : run.status = "completed"
  runConclusion : run.conclusion = "success"
  jobIs : job.id = jobID
  jobRun : job.runID = runID
  jobName : job.name = policy.jobName
  jobLabels : job.labels = [identity.label]
  jobStatus : job.status = "completed"
  jobConclusion : job.conclusion = "success"
  runnerIs : job.runnerID = runnerID
  runnerName : job.runnerName = identity.runnerName
  runnerGroupID : job.runnerGroupID = policy.runnerGroupID

theorem Succeeded.of_checks {policy : RepositoryPolicy} {identity : Identity} {ledger : Ledger}
    {run : WorkflowRun} {job : WorkflowJob}
    (identified : validateRunIdentity run policy ledger.trustedSHA identity.nonce = none)
    (runID : run.id = ledger.runID)
    (executed : validateExecutedJob job ledger policy identity = none)
    (completed : run.status = "completed" ∧ job.status = "completed")
    (runSucceeded : ¬(run.status = "completed" ∧ run.conclusion ≠ "success"))
    (jobSucceeded : ¬(job.status = "completed" ∧ job.conclusion ≠ "success")) :
    Succeeded policy identity ledger.trustedSHA ledger.runID ledger.jobID ledger.runnerID
      run job := by
  rcases validateRunIdentity_eq_none.mp identified with ⟨event, headSHA, title, path⟩
  rcases validateExecutedJob_eq_none.mp executed with ⟨⟨jobID, jobRun, jobName, labels⟩, ran⟩
  rcases ran (.inr completed.2) with ⟨runnerID, runnerName, runnerGroupID⟩
  have runConclusion : run.conclusion = "success" :=
    Decidable.not_not.mp fun failed => runSucceeded ⟨completed.1, failed⟩
  have jobConclusion : job.conclusion = "success" :=
    Decidable.not_not.mp fun failed => jobSucceeded ⟨completed.2, failed⟩
  exact ⟨event, headSHA, title, path, runID, completed.1, runConclusion, jobID, jobRun, jobName,
    labels, completed.2, jobConclusion, runnerID, runnerName, runnerGroupID⟩

theorem waitForCompletion_observes (repository : String) (ledger : Ledger)
    (policy : RepositoryPolicy) (identity : Identity) (polls : Nat) (trace : Trace)
    (world : World) :
    Observes assumptions (waitForCompletion repository ledger policy identity polls) trace world
      fun error trace' world' => error = none →
        world'.RunSettled repository ledger.runID (runTitle identity.nonce) ∧
        ∃ run job seenRun seenJob, Succeeded policy identity ledger.trustedSHA ledger.runID
            ledger.jobID ledger.runnerID run job ∧
          GitHub.getJSON "get run" seenRun = .ok run ∧
          GitHub.getJSON "get job" seenJob = .ok job ∧
          Extends trace trace' [⟨.getRun repository ledger.runID, seenRun⟩,
            ⟨.getJob repository ledger.jobID, seenJob⟩] := by
  induction polls generalizing trace world with
  | zero => exact Observes.spin
  | succ polls induction =>
    refine (getRun_observes _ _ _ _).bind fun answer trace₁ world₁ longer₁ _ runHolds => ?_
    cases answer with
    | error error => exact Observes.pure nofun
    | ok run =>
      rcases runHolds run rfl with ⟨sameID, settled, seenRun, decodedRun, sawRun⟩
      refine Observes.ite (fun _ => .pure nofun) fun matching => ?_
      have identified := Option.not_isSome_iff_eq_none.mp matching
      refine (getJob_observes _ _ _ _).bind fun answer _ _ longer₂ calmer jobHolds => ?_
      cases answer with
      | error error => exact Observes.pure nofun
      | ok job =>
        rcases jobHolds job rfl with ⟨seenJob, decodedJob, sawJob⟩
        dsimp only
        split
        case h_1 => exact Observes.pure nofun
        case h_2 executed =>
        refine Observes.ite (fun _ => .pure nofun) fun runSucceeded => ?_
        refine Observes.ite (fun _ => .pure nofun) fun jobSucceeded => ?_
        split
        · rename_i completed
          have succeeded := Succeeded.of_checks identified sameID executed completed
            runSucceeded jobSucceeded
          refine Observes.pure fun _ => ⟨?_, run, job, seenRun, seenJob, succeeded,
            decodedRun, decodedJob, sawRun.trans sawJob⟩
          rw [← sameID, ← succeeded.runTitled]
          exact calmer.runSettled (settled completed.1)
        · refine Observes.ite (fun _ => .pure nofun) fun _ => ?_
          refine Observes.perform rfl fun slept _ _ => ?_
          cases slept with
          | some error => exact Observes.pure nofun
          | none =>
            refine (induction _ _).mono ?_
            intro error final last _ _ holds gone
            rcases holds gone with ⟨settled, run, job, seenRun, seenJob,
              succeeded, decodedRun, decodedJob, saw⟩
            exact ⟨settled, run, job, seenRun, seenJob, succeeded, decodedRun,
              decodedJob, ((saw.since (Extends.grow _ _)).since longer₂).since longer₁⟩

/-! ## The trusted workflow -/

/-- The answers on which `verifyAuthority` rests. -/
structure Authority where
  branch : Transport String
  trusted : Transport String
  contents : Transport ContentBody
  candidate : Transport String

def Authority.events (authority : Authority) (request : Request) (policy : RepositoryPolicy)
    (trustedSHA : String) : Trace :=
  [⟨.getRepository request.repository, authority.branch⟩,
    ⟨.getRef request.repository policy.trustedRef, authority.trusted⟩,
    ⟨.getContents request.repository policy.workflow trustedSHA, authority.contents⟩,
    ⟨.getRef request.repository request.candidateRef, authority.candidate⟩]

/-- The trusted ref is the default branch and resolves to `trustedSHA`, where
the workflow has the digest of the policy. -/
structure Authority.Verifies (authority : Authority) (request : Request)
    (policy : RepositoryPolicy) (trustedSHA : String) : Prop where
  branch : ∃ branch, GitHub.getJSON "get repository" authority.branch = .ok branch ∧
    policy.trustedRef = "refs/heads/" ++ branch
  trusted : GitHub.getJSON "resolve ref" authority.trusted = .ok trustedSHA
  contents : ∃ body content,
    GitHub.getJSON "get workflow" authority.contents = .ok body ∧ body.content = some content ∧
      Text.hexEncode (Sha256.sum256 content) = policy.workflowSHA256
  candidate : GitHub.getJSON "resolve ref" authority.candidate = .ok request.candidateSHA

theorem verifyAuthority_observes (request : Request) (policy : RepositoryPolicy) (trace : Trace)
    (world : World) :
    Observes assumptions (verifyAuthority request policy) trace world
      fun answer trace' _ => ∀ trustedSHA, answer = .ok trustedSHA →
        matchesSHA trustedSHA = true ∧ ∃ authority : Authority,
          authority.Verifies request policy trustedSHA ∧
          Extends trace trace' (authority.events request policy trustedSHA) := by
  unfold verifyAuthority
  refine (defaultBranch_observes _ _ _).bind fun answer _ _ _ _ branchHolds => ?_
  cases answer with
  | error error => exact Observes.pure nofun
  | ok branch =>
    rcases branchHolds branch rfl with ⟨seenBranch, decodedBranch, sawBranch⟩
    refine Observes.ite (fun _ => .pure nofun) fun sameRef => ?_
    refine (resolveRef_observes _ _ _ _).bind fun answer _ _ _ _ trustedHolds => ?_
    cases answer with
    | error error => exact Observes.pure nofun
    | ok trustedSHA =>
      rcases trustedHolds trustedSHA rfl with
        ⟨wellFormed, seenTrusted, decodedTrusted, sawTrusted⟩
      refine (workflowContent_observes _ _ _ _ _).bind fun answer _ _ _ _ holds => ?_
      cases answer with
      | error error => exact Observes.pure nofun
      | ok content =>
        rcases holds content rfl with ⟨seenContents, body, decoded, read, sawContents⟩
        refine Observes.ite (fun _ => .pure nofun) fun sameDigest => ?_
        refine (resolveRef_observes _ _ _ _).bind fun answer _ _ _ _ holds => ?_
        cases answer with
        | error error => exact Observes.pure nofun
        | ok candidateSHA =>
          rcases holds candidateSHA rfl with
            ⟨_, seenCandidate, decodedCandidate, sawCandidate⟩
          refine Observes.ite (fun _ => .pure nofun) fun sameCandidate => ?_
          refine Observes.pure fun _ equal => ?_
          cases equal
          refine ⟨wellFormed, ⟨seenBranch, seenTrusted, seenContents,
            seenCandidate⟩, ⟨⟨branch, decodedBranch, Decidable.not_not.mp sameRef⟩,
            decodedTrusted, ⟨body, content, decoded, read,
            Decidable.not_not.mp sameDigest⟩,
            Decidable.not_not.mp sameCandidate ▸ decodedCandidate⟩, ?_⟩
          exact ((sawBranch.trans sawTrusted).trans sawContents).trans sawCandidate

end Dispatcher

end Civm.JitDispatcher
