import Civm.JitDispatcher.Polling

/-! # The evidence behind a completed ledger

The answers that a successful dispatch has collected when it marks its ledger
completed, stage by stage and in the order in which they were given. -/

namespace Civm.JitDispatcher

/-- The parameters of an invocation whose repository is allowlisted. -/
structure Setting where
  config : Config
  request : Request
  policy : RepositoryPolicy

namespace Setting

variable (setting : Setting) (ledger : Ledger)

/-- The trusted workflow was verified. -/
def Authorized (events : Trace) : Prop :=
  ∃ authority : Dispatcher.Authority,
    authority.Verifies setting.request setting.policy ledger.trustedSHA ∧
    events = authority.events setting.request setting.policy ledger.trustedSHA

/-- GitHub acknowledged the dispatch with the ledger's run. -/
def Dispatched (events : Trace) : Prop :=
  ∃ earlier answer, setting.Authorized ledger earlier ∧
    GitHub.dispatchReceipt answer = .ok ledger.runID ∧
    events = earlier ++ [⟨.postDispatch setting.request.repository setting.policy.workflow
      setting.policy.trustedRef (Dispatcher.dispatchInputs setting.request ledger.identity),
      answer⟩]

/-- Exactly one job was listed for the run, the ledger's. -/
def Bound (events : Trace) : Prop :=
  ∃ earlier answer body job, setting.Dispatched ledger earlier ∧
    GitHub.getJSON "list jobs" answer = .ok body ∧ body.jobs = [job] ∧ job.id = ledger.jobID ∧
    queuedJobRefused job setting.policy ledger.runID ledger.runnerLabel = false ∧
    events = earlier ++ [⟨.listJobs setting.request.repository ledger.runID 1, answer⟩]

/-- GitHub registered the ledger's runner. -/
def Registered (events : Trace) : Prop :=
  ∃ earlier answer registration, setting.Bound ledger earlier ∧
    GitHub.jitRegistration ledger.identity answer = .ok registration ∧
    registration.runner.id = ledger.runnerID ∧
    events = earlier ++ [⟨.postJITConfig setting.request.repository ledger.identity
      setting.policy.runnerGroupID, answer⟩]

/-- The driver proved the ledger's isolation ready and then destroyed. -/
def Isolated (events : Trace) : Prop :=
  ∃ earlier ready destroyed, setting.Registered ledger earlier ∧
    validReadyReceipt ready ledger.leaseID setting.config.baseImageSHA256 = true ∧
    ready.isolationID = ledger.isolationID ∧
    validDestroyedReceipt destroyed ledger.leaseID ledger.isolationID
      setting.config.baseImageSHA256 = true ∧
    events = earlier ++ [⟨.readReceipt, .ok ready⟩, ⟨.readReceipt, .ok destroyed⟩]

/-- One poll saw the run and its job completed with success. -/
def Executed (events : Trace) : Prop :=
  ∃ earlier seenRun seenJob run job, setting.Isolated ledger earlier ∧
    GitHub.getJSON "get run" seenRun = .ok run ∧ GitHub.getJSON "get job" seenJob = .ok job ∧
    Dispatcher.Succeeded setting.policy ledger.identity ledger.trustedSHA ledger.runID
      ledger.jobID ledger.runnerID run job ∧
    events = earlier ++ [⟨.getRun setting.request.repository ledger.runID, seenRun⟩,
      ⟨.getJob setting.request.repository ledger.jobID, seenJob⟩]

/-- The runner was not found any more. -/
def Deregistered (events : Trace) : Prop :=
  ∃ earlier requestID body, setting.Executed ledger earlier ∧
    events = earlier ++ [⟨.getRunner setting.request.repository ledger.runnerID,
      .response 404 requestID body⟩]

/-- The candidate ref still resolved to the requested SHA. -/
def Revalidated (events : Trace) : Prop :=
  ∃ earlier answer, setting.Deregistered ledger earlier ∧
    GitHub.getJSON "resolve ref" answer = .ok setting.request.candidateSHA ∧
    events = earlier ++
      [⟨.getRef setting.request.repository setting.request.candidateRef, answer⟩]

end Setting

/-- The trace holds the events of a stage, in their order. -/
def Collected (stage : Trace → Prop) (trace : Trace) : Prop :=
  ∃ events, stage events ∧ events.Sublist trace

namespace Collected

variable {stage later : Trace → Prop} {trace trace' events : Trace}

theorem still (collected : Collected stage trace) (longer : Extends trace trace' []) :
    Collected stage trace' := by
  rcases collected with ⟨events, holds, among⟩
  exact ⟨events, holds, (List.append_nil events) ▸ longer.sublist among⟩

theorem next (collected : Collected stage trace) (seen : Extends trace trace' events)
    (proves : ∀ earlier, stage earlier → later (earlier ++ events)) : Collected later trace' := by
  rcases collected with ⟨earlier, holds, among⟩
  exact ⟨earlier ++ events, proves earlier holds, seen.sublist among⟩

end Collected

end Civm.JitDispatcher
