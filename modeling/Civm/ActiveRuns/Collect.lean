import Civm.Common.Validate

/-! # The listing of active runs

`activeruns.Collect` for a list of repositories: a listing for each repository and each
status, made by a pool of workers behind a semaphore. The main routine, the workers and
the cancellation of the context are interleaved in every order. -/

namespace Civm.ActiveRuns

open Common (Error)

inductive Status
  | inProgress
  | queued
  deriving DecidableEq

structure ListKey where
  repo : String
  status : Status
  deriving DecidableEq

/-- The jobs of `fetchActiveRuns`. -/
def listKeys (repos : List String) : List ListKey :=
  repos.flatMap fun repo => [⟨repo, .inProgress⟩, ⟨repo, .queued⟩]

section

variable {Run : Type}

/-- A worker. It writes the result of its listing, gives the semaphore back, and leaves
the wait group. -/
inductive Worker (Run : Type)
  | pending
  | listing
  | written (result : Except Error (List Run))
  | released (result : Except Error (List Run))
  | done (result : Except Error (List Run))

/-- The slot of a job in `results`, which is zero until the worker writes it. -/
def Worker.result? : Worker Run → Option (Except Error (List Run))
  | .pending | .listing => none
  | .written result | .released result | .done result => some result

/-- Where the main routine is: in the loop of `runJobs`, in the loop over the results, or
behind it, where it adds the averages and sorts. -/
inductive Stage (Run : Type)
  | dispatching (next : Nat)
  | reading (position : Nat) (exitCode : Nat) (all : List Run)
  | rendering (exitCode : Nat) (all : List Run)
  | returned (exitCode : Nat) (all : List Run)

structure State (Run : Type) where
  cancelled : Bool := false
  semaphore : Nat := 0
  jobs : List (ListKey × Worker Run)
  stage : Stage Run

inductive Action (Run : Type)
  | cancel
  | dispatch
  | abandon
  | wait
  | write (job : Nat) (result : Except Error (List Run))
  | release (job : Nat)
  | leave (job : Nat)
  | read
  | render
  | report

/-- The workers of `runJobs`, once the defaults are applied. -/
def workers (concurrency : Int) (jobs : Nat) : Nat :=
  min (if concurrency ≤ 0 then 8 else concurrency.toNat) jobs

def start (repos : List String) : State Run :=
  { jobs := (listKeys repos).map fun key => (key, .pending)
    stage := if repos = [] then .returned 0 [] else .dispatching 0 }

/-- The exit code and the runs with one more result. -/
def collectResult (exitCode : Nat) (all : List Run) :
    Option (Except Error (List Run)) → Nat × List Run
  | none => (exitCode, all)
  | some (.error _) => (1, all)
  | some (.ok runs) => (exitCode, all ++ runs)

def isDone : ListKey × Worker Run → Bool
  | (_, .done _) => true
  | _ => false

/-- One step of the main routine, of a worker, or of the context. -/
def step (limit : Nat) (state : State Run) : Action Run → Option (State Run)
  | .cancel => some { state with cancelled := true }
  | .dispatch =>
    match state.stage with
    | .dispatching next =>
      match state.jobs[next]? with
      | some (key, _) =>
        if state.semaphore < limit then
          some { state with
            semaphore := state.semaphore + 1
            jobs := state.jobs.set next (key, .listing)
            stage := .dispatching (next + 1) }
        else none
      | none => none
    | _ => none
  | .abandon =>
    match state.stage with
    | .dispatching next =>
      if state.cancelled ∧ next < state.jobs.length then
        some { state with stage := .reading 0 0 [] }
      else none
    | _ => none
  | .wait =>
    match state.stage with
    | .dispatching next =>
      if next = state.jobs.length ∧ state.jobs.all isDone then
        some { state with stage := .reading 0 0 [] }
      else none
    | _ => none
  | .write job result =>
    match state.jobs[job]? with
    | some (key, .listing) =>
      some { state with jobs := state.jobs.set job (key, .written result) }
    | _ => none
  | .release job =>
    match state.jobs[job]? with
    | some (key, .written result) =>
      some { state with
        semaphore := state.semaphore - 1
        jobs := state.jobs.set job (key, .released result) }
    | _ => none
  | .leave job =>
    match state.jobs[job]? with
    | some (key, .released result) =>
      some { state with jobs := state.jobs.set job (key, .done result) }
    | _ => none
  | .read =>
    match state.stage with
    | .reading position exitCode all =>
      match state.jobs[position]? with
      | some (_, worker) =>
        let (exitCode, all) := collectResult exitCode all worker.result?
        some { state with stage := .reading (position + 1) exitCode all }
      | none => none
    | _ => none
  | .render =>
    match state.stage with
    | .reading position exitCode all =>
      if position = state.jobs.length then
        some { state with stage := .rendering exitCode all }
      else none
    | _ => none
  | .report =>
    match state.stage with
    | .rendering exitCode all => some { state with stage := .returned exitCode all }
    | _ => none

/-- A sequence of steps, each of which is possible. -/
def run (limit : Nat) : List (Action Run) → State Run → Option (State Run)
  | [], state => some state
  | action :: rest, state => (step limit state action).bind (run limit rest)

def State.dispatched (state : State Run) : Bool :=
  match state.stage with
  | .dispatching next => next = state.jobs.length
  | _ => true

/-- The context is not cancelled before the last listing has been started. -/
def Patient (limit : Nat) : List (Action Run) → State Run → Prop
  | [], _ => True
  | action :: rest, state =>
    (action = .cancel → state.dispatched = true) ∧
      ∀ next, step limit state action = some next → Patient limit rest next

def State.succeeded (state : State Run) (key : ListKey) : Prop :=
  ∃ worker runs, (key, worker) ∈ state.jobs ∧ worker.result? = some (.ok runs)

/-- The report says zero only if every listing succeeded, and at its return none is being
made any more. -/
def Sound (repos : List String) (state : State Run) : Prop :=
  ∀ exitCode all, state.stage = .returned exitCode all →
    (exitCode = 0 → ∀ repo ∈ repos, ∀ status, state.succeeded ⟨repo, status⟩) ∧
      ∀ key, (key, .listing) ∉ state.jobs

/-! ## The invariant -/

def isOk (entry : ListKey × Worker Run) : Bool :=
  match entry.2.result? with
  | some (.ok _) => true
  | _ => false

/-- What holds in each stage, as long as the context is not cancelled too early: the
results are read when no worker is left. -/
def Settled (state : State Run) : Prop :=
  match state.stage with
  | .dispatching _ => state.cancelled = true → state.dispatched = true
  | .reading position exitCode _ =>
    state.jobs.all isDone = true ∧ (exitCode = 0 → (state.jobs.take position).all isOk = true)
  | .rendering exitCode _ | .returned exitCode _ =>
    state.jobs.all isDone = true ∧ (exitCode = 0 → state.jobs.all isOk = true)

structure Kept (repos : List String) (state : State Run) : Prop where
  keys : state.jobs.map Prod.fst = listKeys repos
  settled : Settled state

section

variable {repos : List String} {state next : State Run} {limit : Nat}

theorem keys_set {jobs : List (ListKey × Worker Run)} {job : Nat} {key : ListKey}
    {worker : Worker Run} (found : jobs[job]? = some (key, worker)) (changed : Worker Run) :
    (jobs.set job (key, changed)).map Prod.fst = jobs.map Prod.fst := by
  have same : (jobs.map Prod.fst)[job]? = some key := by simp [found]
  rcases List.getElem?_eq_some_iff.mp same with ⟨bound, equal⟩
  rw [List.map_set, ← equal, List.set_getElem_self bound]

theorem Kept.start (repos : List String) : Kept repos (start repos : State Run) := by
  constructor
  · simp [ActiveRuns.start, Function.comp_def]
  · by_cases empty : repos = []
    · simp [Settled, ActiveRuns.start, empty, listKeys]
    · simp [Settled, ActiveRuns.start, empty]

/-- A worker takes a step only while the main routine still waits for it. -/
theorem Kept.worker (kept : Kept repos state) {job : Nat} {key : ListKey}
    {worker changed : Worker Run} {semaphore : Nat} (found : state.jobs[job]? = some (key, worker))
    (busy : isDone (key, worker) = false) :
    Kept repos { state with semaphore := semaphore, jobs := state.jobs.set job (key, changed) } := by
  constructor
  · exact (keys_set found changed).trans kept.keys
  · have member : (key, worker) ∈ state.jobs := List.mem_of_getElem? found
    have settled := kept.settled
    unfold Settled at settled ⊢
    cases stage : state.stage with
    | dispatching position =>
      simp only [stage] at settled ⊢
      intro cancelled
      have all := settled cancelled
      simpa [State.dispatched, stage] using all
    | reading position exitCode all =>
      simp only [stage] at settled
      exact absurd (List.all_eq_true.mp settled.1 _ member) (by simp [busy])
    | rendering exitCode all =>
      simp only [stage] at settled
      exact absurd (List.all_eq_true.mp settled.1 _ member) (by simp [busy])
    | returned exitCode all =>
      simp only [stage] at settled
      exact absurd (List.all_eq_true.mp settled.1 _ member) (by simp [busy])

theorem Kept.cancel (kept : Kept repos state) (patient : state.dispatched = true) :
    Kept repos { state with cancelled := true } := by
  constructor
  · exact kept.keys
  · have settled := kept.settled
    unfold Settled at settled ⊢
    cases stage : state.stage with
    | dispatching position =>
      simp only [State.dispatched, stage] at patient ⊢
      exact fun _ => patient
    | reading position exitCode all | rendering exitCode all => simpa only [stage] using settled
    | returned exitCode all => simpa only [stage] using settled

theorem Kept.dispatch (kept : Kept repos state) (taken : step limit state .dispatch = some next) :
    Kept repos next := by
  simp only [step] at taken
  split at taken
  · rename_i position stage
    split at taken
    · rename_i key worker found
      split at taken
      · cases taken
        constructor
        · exact (keys_set found .listing).trans kept.keys
        · -- the context is not cancelled yet, or the loop would be over
          have bound := (List.getElem?_eq_some_iff.mp found).1
          have settled := kept.settled
          simp only [Settled, State.dispatched, stage, decide_eq_true_eq] at settled
          intro cancelled
          have finished := settled cancelled
          omega
      · cases taken
    · cases taken
  · cases taken

theorem Kept.abandon (kept : Kept repos state) (taken : step limit state .abandon = some next) :
    Kept repos next := by
  simp only [step] at taken
  split at taken
  · rename_i position stage
    split at taken
    · rename_i cancelled
      have settled := kept.settled
      simp only [Settled, State.dispatched, stage, decide_eq_true_eq] at settled
      have finished := settled cancelled.1
      omega
    · cases taken
  · cases taken

theorem Kept.wait (kept : Kept repos state) (taken : step limit state .wait = some next) :
    Kept repos next := by
  simp only [step] at taken
  split at taken
  · split at taken
    · rename_i waited
      cases taken
      exact ⟨kept.keys, waited.2, fun _ => rfl⟩
    · cases taken
  · cases taken

theorem Kept.read (kept : Kept repos state) (taken : step limit state .read = some next) :
    Kept repos next := by
  simp only [step] at taken
  split at taken
  · rename_i position exitCode all stage
    split at taken
    · rename_i key worker found
      cases taken
      have settled := kept.settled
      simp only [Settled, stage] at settled
      constructor
      · exact kept.keys
      · apply And.intro settled.1
        intro zero
        have here : isDone (key, worker) = true :=
          List.all_eq_true.mp settled.1 _ (List.mem_of_getElem? found)
        rw [List.take_add_one, found, List.all_append]
        cases worker with
        | done result =>
          cases result with
          | error error => cases zero
          | ok runs =>
            rw [settled.2 zero]
            rfl
        | _ => cases here
    · cases taken
  · cases taken

theorem Kept.render (kept : Kept repos state) (taken : step limit state .render = some next) :
    Kept repos next := by
  simp only [step] at taken
  split at taken
  · rename_i position exitCode all stage
    split at taken
    · rename_i finished
      cases taken
      have settled := kept.settled
      simp only [Settled, stage, finished, List.take_length] at settled
      exact ⟨kept.keys, settled⟩
    · cases taken
  · cases taken

theorem Kept.report (kept : Kept repos state) (taken : step limit state .report = some next) :
    Kept repos next := by
  simp only [step] at taken
  split at taken
  · rename_i exitCode all stage
    cases taken
    have settled := kept.settled
    simp only [Settled, stage] at settled
    exact ⟨kept.keys, settled⟩
  · cases taken

theorem Kept.step (kept : Kept repos state) {action : Action Run}
    (patient : action = .cancel → state.dispatched = true)
    (taken : step limit state action = some next) : Kept repos next := by
  cases action with
  | cancel =>
    cases taken
    exact kept.cancel (patient rfl)
  | dispatch => exact kept.dispatch taken
  | abandon => exact kept.abandon taken
  | wait => exact kept.wait taken
  | write job result =>
    simp only [ActiveRuns.step] at taken
    split at taken
    · rename_i key found
      cases taken
      exact kept.worker found rfl
    · cases taken
  | release job =>
    simp only [ActiveRuns.step] at taken
    split at taken
    · rename_i key result found
      cases taken
      exact kept.worker found rfl
    · cases taken
  | leave job =>
    simp only [ActiveRuns.step] at taken
    split at taken
    · rename_i key result found
      cases taken
      exact kept.worker found rfl
    · cases taken
  | read => exact kept.read taken
  | render => exact kept.render taken
  | report => exact kept.report taken

theorem Kept.run (kept : Kept repos state) {actions : List (Action Run)}
    (patient : Patient limit actions state) (taken : run limit actions state = some next) :
    Kept repos next := by
  induction actions generalizing state with
  | nil =>
    cases taken
    exact kept
  | cons action rest induction =>
    rcases Option.bind_eq_some_iff.mp taken with ⟨middle, first, others⟩
    exact induction (kept.step patient.1 first) (patient.2 middle first) others

theorem Kept.sound (kept : Kept repos state) : Sound repos state := by
  intro exitCode all stage
  have settled := kept.settled
  simp only [Settled, stage] at settled
  constructor
  · intro zero repo member status
    have listed : (⟨repo, status⟩ : ListKey) ∈ state.jobs.map Prod.fst := by
      rw [kept.keys]
      apply List.mem_flatMap.mpr
      exact ⟨repo, member, by cases status <;> simp⟩
    rcases List.mem_map.mp listed with ⟨entry, among, equal⟩
    have succeeded := List.all_eq_true.mp (settled.2 zero) entry among
    unfold isOk at succeeded
    split at succeeded
    · rename_i runs result
      exact ⟨entry.2, runs, equal ▸ among, result⟩
    · cases succeeded
  · intro key member
    exact absurd (List.all_eq_true.mp settled.1 _ member) (by simp [isDone])

end

theorem patient_of_uncancelled {limit : Nat} {actions : List (Action Run)}
    (uncancelled : ∀ action ∈ actions, action ≠ .cancel) (state : State Run) :
    Patient limit actions state := by
  induction actions generalizing state with
  | nil => trivial
  | cons action rest induction =>
    rw [List.forall_mem_cons] at uncancelled
    exact ⟨fun cancel => absurd cancel uncancelled.1, fun next _ => induction uncancelled.2 next⟩

def twoListings : List (Action Unit) :=
  [.dispatch, .write 0 (.ok [()]), .release 0, .leave 0, .dispatch, .write 1 (.ok []), .release 1,
    .leave 1, .wait, .read, .read, .render, .report]

end

end Civm.ActiveRuns
