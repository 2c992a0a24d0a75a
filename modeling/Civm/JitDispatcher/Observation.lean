import Civm.JitDispatcher.World

/-! # What the dispatcher learns from GitHub

The client's reads and the polling loops over them only observe. What each of
them establishes when it succeeds is stated here once: which answer was seen,
and which effects are no longer live. -/

namespace Civm.JitDispatcher

variable {assumptions : Assumptions}

/-! ## Code that only observes -/

/-- A contract that no observation can break from here on. -/
structure Steady (assumptions : Assumptions) (contract : Contract Call.Answer World)
    (trace : Trace) (world : World) : Prop where
  keeps : ∀ trace' world', Extends trace trace' [] → Calmer assumptions world world' →
    contract.keeps trace' world'
  allows : ∀ trace' world' call, Extends trace trace' [] → Calmer assumptions world world' →
    call.calm = true → contract.allows trace' world' call
  progress : ¬contract.progress

theorem Steady.later {contract : Contract Call.Answer World} {trace trace' : Trace}
    {world world' : World} (steady : Steady assumptions contract trace world)
    (longer : Extends trace trace' []) (calmer : Calmer assumptions world world') :
    Steady assumptions contract trace' world' where
  keeps := fun _ _ more calm => steady.keeps _ _ (longer.trans more) (calmer.trans calm)
  allows := fun _ _ _ more calm =>
    steady.allows _ _ _ (longer.trans more) (calmer.trans calm)
  progress := steady.progress

/-- From this trace and world the program only observes, and ends with `post`. -/
def Observes (assumptions : Assumptions) (program : Action α) (trace : Trace) (world : World)
    (post : α → Trace → World → Prop) : Prop :=
  ∀ contract, Steady assumptions contract trace world →
    program.Satisfies (outside assumptions) contract
      (fun value trace' world' => Extends trace trace' [] ∧ Calmer assumptions world world' ∧
        post value trace' world') trace world

namespace Observes

variable {trace : Trace} {world : World}

theorem pure {value : α} {post : α → Trace → World → Prop} (holds : post value trace world) :
    Observes assumptions (pure value) trace world post :=
  fun _ _ => ⟨Extends.refl _, Calmer.refl _ _, holds⟩

theorem spin {post : α → Trace → World → Prop} :
    Observes assumptions .spin trace world post := fun _ steady =>
  ⟨steady.keeps _ _ (Extends.refl _) (Calmer.refl _ _), steady.progress⟩

theorem ite {test : Prop} [Decidable test] {first second : Action α}
    {post : α → Trace → World → Prop}
    (holds : test → Observes assumptions first trace world post)
    (fails : ¬test → Observes assumptions second trace world post) :
    Observes assumptions (if test then first else second) trace world post := by
  split
  case isTrue true => exact holds true
  case isFalse false => exact fails false

theorem mono {program : Action α} {post weaker : α → Trace → World → Prop}
    (observes : Observes assumptions program trace world post)
    (implies : ∀ value trace' world', Extends trace trace' [] →
      Calmer assumptions world world' → post value trace' world' → weaker value trace' world') :
    Observes assumptions program trace world weaker := fun contract steady =>
  (observes contract steady).mono fun _ _ _ holds =>
    ⟨holds.1, holds.2.1, implies _ _ _ holds.1 holds.2.1 holds.2.2⟩

theorem bind {program : Action α} {next : α → Action β} {middle : α → Trace → World → Prop}
    {post : β → Trace → World → Prop}
    (observes : Observes assumptions program trace world middle)
    (rest : ∀ value trace' world', Extends trace trace' [] → Calmer assumptions world world' →
      middle value trace' world' → Observes assumptions (next value) trace' world' post) :
    Observes assumptions (program >>= next) trace world post := by
  intro contract steady
  rw [Program.satisfies_bind]
  refine (observes contract steady).mono ?_
  rintro value trace' world' ⟨longer, calmer, holds⟩
  refine (rest value trace' world' longer calmer holds contract
    (steady.later longer calmer)).mono ?_
  rintro result final last ⟨more, calm, ends⟩
  exact ⟨longer.trans more, calmer.trans calm, ends⟩

theorem perform {call : Call} {next : call.Answer → Action α} {post : α → Trace → World → Prop}
    (calm : call.calm = true)
    (answered : ∀ answer, world.permits assumptions call answer →
      Calmer assumptions world (world.after call answer) →
      Observes assumptions (next answer) (trace ++ [⟨call, answer⟩]) (world.after call answer)
        post) :
    Observes assumptions (JitDispatcher.perform call >>= next) trace world post := by
  intro contract steady
  refine ⟨steady.keeps _ _ (Extends.refl _) (Calmer.refl _ _),
    steady.allows _ _ _ (Extends.refl _) (Calmer.refl _ _) calm,
    fun wanted => absurd wanted steady.progress, fun answer permitted => ?_⟩
  have calmer := World.calmer_after calm permitted
  have longer : Extends trace (trace ++ [⟨call, answer⟩]) [] := Extends.grow _ _
  refine (answered answer permitted calmer contract (steady.later longer calmer)).mono ?_
  rintro result final last ⟨more, calm, ends⟩
  exact ⟨longer.trans more, calmer.trans calm, ends⟩

end Observes

/-! ## Settled effects -/

/-- No run that this answer describes is live. -/
def World.RunSettled (world : World) (repository : String) (runID : Int) (title : String) :
    Prop :=
  ∀ key effect, (world.footprint key).run = some effect → effect.repository = repository →
    (world.ids key).run = runID → runTitle effect.nonce ≠ title

def World.RunnerSettled (world : World) (repository : String) (runnerID : Int) : Prop :=
  ∀ key effect, (world.footprint key).runner = some effect → effect.repository = repository →
    (world.ids key).runner ≠ runnerID

/-- The listed runner is the live one wherever the names agree. -/
def World.Lists (world : World) (repository : String) (runner : RemoteRunner) : Prop :=
  ∀ key effect, (world.footprint key).runner = some effect → effect.repository = repository →
    runner.name = effect.name → runnerHasLabel runner effect.label = true →
    runner.id = (world.ids key).runner

namespace Calmer

variable {before after : World}

theorem runSettled {repository runID title} (calmer : Calmer assumptions before after)
    (settled : before.RunSettled repository runID title) :
    after.RunSettled repository runID title := by
  intro key effect live
  rw [calmer.ids]
  exact settled key effect (calmer.run key effect live)

theorem lists {repository runner} (calmer : Calmer assumptions before after)
    (lists : before.Lists repository runner) : after.Lists repository runner := by
  intro key effect live
  rw [calmer.ids]
  exact lists key effect (calmer.runner key effect live)

end Calmer

theorem World.runCompleted_settled (world : World) (repository : String) (run : WorkflowRun) :
    (world.runCompleted repository run).RunSettled repository run.id run.displayTitle := by
  intro key effect live sameRepository sameID sameTitle
  have kept := (Option.filter_eq_some_iff.mp live).2
  change (world.ids key).run = run.id at sameID
  simp [sameRepository, sameID, sameTitle] at kept

theorem World.runnerAbsent_settled (world : World) (repository : String) (runnerID : Int) :
    (world.runnerAbsent repository runnerID).RunnerSettled repository runnerID := by
  intro key effect live sameRepository sameID
  have kept := (Option.filter_eq_some_iff.mp live).2
  change (world.ids key).runner = runnerID at sameID
  simp [sameRepository, sameID] at kept

/-! ## The client's reads -/

section Reads

variable (repository : String) (trace : Trace) (world : World)

theorem defaultBranch_observes :
    Observes assumptions (GitHub.defaultBranch repository) trace world fun answer trace' _ =>
      ∀ branch, answer = .ok branch → ∃ seen,
        GitHub.getJSON "get repository" seen = .ok branch ∧
        Extends trace trace' [⟨.getRepository repository, seen⟩] := by
  unfold GitHub.defaultBranch
  split
  · exact Observes.pure nofun
  · refine Observes.perform rfl fun answer _ _ => ?_
    cases decoded : GitHub.getJSON "get repository" answer with
    | error error => exact Observes.pure nofun
    | ok branch =>
      dsimp only
      split
      · exact Observes.pure nofun
      · refine Observes.pure fun _ equal => ?_
        cases equal
        exact ⟨answer, decoded, Extends.step _ _⟩

theorem resolveRef_observes (ref : String) :
    Observes assumptions (GitHub.resolveRef repository ref) trace world fun answer trace' _ =>
      ∀ sha, answer = .ok sha → matchesSHA sha = true ∧ ∃ seen,
        GitHub.getJSON "resolve ref" seen = .ok sha ∧
        Extends trace trace' [⟨.getRef repository ref, seen⟩] := by
  unfold GitHub.resolveRef
  split
  · exact Observes.pure nofun
  · split
    · exact Observes.pure nofun
    · refine Observes.perform rfl fun answer _ _ => ?_
      cases decoded : GitHub.getJSON "resolve ref" answer with
      | error error => exact Observes.pure nofun
      | ok sha =>
        dsimp only
        split
        · rename_i wellFormed
          refine Observes.pure fun _ equal => ?_
          cases equal
          exact ⟨wellFormed, answer, decoded, Extends.step _ _⟩
        · exact Observes.pure nofun

theorem workflowContent_observes (workflow sha : String) :
    Observes assumptions (GitHub.workflowContent repository workflow sha) trace world
      fun answer trace' _ => ∀ content, answer = .ok content → ∃ seen body,
        GitHub.getJSON "get workflow" seen = .ok body ∧ body.content = some content ∧
        Extends trace trace' [⟨.getContents repository workflow sha, seen⟩] := by
  unfold GitHub.workflowContent
  split
  · exact Observes.pure nofun
  · refine Observes.perform rfl fun answer _ _ => ?_
    cases decoded : GitHub.getJSON "get workflow" answer with
    | error error => exact Observes.pure nofun
    | ok body =>
      dsimp only
      split
      · exact Observes.pure nofun
      · cases read : body.content with
        | none => exact Observes.pure nofun
        | some content =>
          dsimp only
          split
          · exact Observes.pure nofun
          · refine Observes.pure fun _ equal => ?_
            cases equal
            exact ⟨answer, body, decoded, read, Extends.step _ _⟩

theorem getRun_observes (runID : Int) :
    Observes assumptions (GitHub.getRun repository runID) trace world fun answer trace' world' =>
      ∀ run, answer = .ok run → run.id = runID ∧
        (run.status = "completed" →
          world'.RunSettled repository run.id run.displayTitle) ∧
        ∃ seen, GitHub.getJSON "get run" seen = .ok run ∧
          Extends trace trace' [⟨.getRun repository runID, seen⟩] := by
  unfold GitHub.getRun
  split
  · exact Observes.pure nofun
  · refine Observes.perform rfl fun answer _ _ => ?_
    cases decoded : GitHub.getJSON "get run" answer with
    | error error => exact Observes.pure nofun
    | ok run =>
      dsimp only
      split
      · exact Observes.pure nofun
      · rename_i accepted
        refine Observes.pure fun _ equal => ?_
        cases equal
        refine ⟨Decidable.not_not.mp (not_or.mp accepted).1, fun completed => ?_,
          answer, decoded, Extends.step _ _⟩
        simp only [World.after, decoded, if_pos completed]
        exact world.runCompleted_settled repository run

theorem getJob_observes (jobID : Int) :
    Observes assumptions (GitHub.getJob repository jobID) trace world fun answer trace' _ =>
      ∀ job, answer = .ok job → ∃ seen, GitHub.getJSON "get job" seen = .ok job ∧
        Extends trace trace' [⟨.getJob repository jobID, seen⟩] := by
  unfold GitHub.getJob
  split
  · exact Observes.pure nofun
  · refine Observes.perform rfl fun answer _ _ => ?_
    cases decoded : GitHub.getJSON "get job" answer with
    | error error => exact Observes.pure nofun
    | ok job =>
      dsimp only
      split
      · exact Observes.pure nofun
      · refine Observes.pure fun _ equal => ?_
        cases equal
        exact ⟨answer, decoded, Extends.step _ _⟩

theorem getJSON_notFound {operation : String} {answer : Transport Body} {error : Error}
    (decoded : GitHub.getJSON operation answer = .error error)
    (notFound : isHTTPStatus error 404 = true) :
    ∃ requestID body, answer = .response 404 requestID body := by
  cases answer with
  | failed canceled =>
    cases canceled <;> cases decoded <;> simp [isHTTPStatus, GoError.as?] at notFound
  | response status requestID body =>
    by_cases success : status = 200
    · cases body <;> simp only [GitHub.getJSON, success, ne_eq, not_true, if_false] at decoded <;>
        cases decoded
      simp [isHTTPStatus, GoError.as?] at notFound
    · simp only [GitHub.getJSON, if_pos success] at decoded
      cases decoded
      have same : status = 404 := by simpa [isHTTPStatus, GoError.as?] using notFound
      exact ⟨requestID, body, by rw [same]⟩

theorem getRunner_observes (runnerID : Int) :
    Observes assumptions (GitHub.getRunner repository runnerID) trace world
      fun answer trace' world' => answer = .ok none →
        world'.RunnerSettled repository runnerID ∧
        ∃ requestID body, Extends trace trace'
          [⟨.getRunner repository runnerID, .response 404 requestID body⟩] := by
  unfold GitHub.getRunner
  split
  · exact Observes.pure nofun
  · refine Observes.perform rfl fun answer _ _ => ?_
    cases decoded : GitHub.getJSON "get runner" answer with
    | error error =>
      dsimp only
      split
      · rename_i notFound
        rcases getJSON_notFound decoded notFound with ⟨requestID, body, rfl⟩
        exact Observes.pure fun _ =>
          ⟨world.runnerAbsent_settled repository runnerID, requestID, body, Extends.step _ _⟩
      · exact Observes.pure nofun
    | ok runner =>
      dsimp only
      split <;> exact Observes.pure nofun

theorem deleteRunner_observes (runnerID : Int) :
    Observes assumptions (GitHub.deleteRunner repository runnerID) trace world
      fun _ _ _ => True := by
  unfold GitHub.deleteRunner
  split
  · exact Observes.pure trivial
  · refine Observes.perform rfl fun answer _ _ => ?_
    cases answer with
    | failed canceled => exact Observes.pure trivial
    | response status requestID body =>
      dsimp only
      split <;> exact Observes.pure trivial

theorem cancelRun_observes (runID : Int) :
    Observes assumptions (GitHub.cancelRun repository runID) trace world
      fun _ _ _ => True := by
  unfold GitHub.cancelRun
  split
  · exact Observes.pure trivial
  · refine Observes.perform rfl fun answer _ _ => ?_
    cases answer with
    | failed canceled => exact Observes.pure trivial
    | response status requestID body =>
      dsimp only
      split
      · exact Observes.pure trivial
      · split <;> exact Observes.pure trivial

/-! ## Pages -/

theorem runnerLabelPages_observes (label : String) (remaining page : Nat) :
    Observes assumptions (GitHub.runnerLabelPages repository label remaining page) trace world
      fun _ _ _ => True := by
  induction remaining generalizing page trace world with
  | zero => exact Observes.pure trivial
  | succ remaining induction =>
    refine Observes.perform rfl fun answer _ _ => ?_
    cases GitHub.getJSON "list runners" answer with
    | error error => exact Observes.pure trivial
    | ok body =>
      dsimp only
      split
      · exact Observes.pure trivial
      · split
        · exact Observes.pure trivial
        · exact induction _ _ (page + 1)

theorem runnerLabelExists_observes (label : String) :
    Observes assumptions (GitHub.runnerLabelExists repository label) trace world
      fun _ _ _ => True := by
  unfold GitHub.runnerLabelExists
  split
  · exact Observes.pure trivial
  · exact runnerLabelPages_observes repository trace world label 100 1

theorem jobPages_observes (runID : Int) (remaining page : Nat) (jobs : List WorkflowJob) :
    Observes assumptions (GitHub.jobPages repository runID remaining page jobs) trace world
      fun answer trace' _ => ∀ listed, answer = .ok listed → ∃ seen body,
        GitHub.getJSON "list jobs" seen = .ok body ∧
        Extends trace trace' [⟨.listJobs repository runID page, seen⟩] ∧
        (listed = jobs ++ body.jobs ∨ 100 ≤ listed.length) := by
  induction remaining generalizing page jobs trace world with
  | zero => exact Observes.pure nofun
  | succ remaining induction =>
    refine Observes.perform rfl fun answer _ _ => ?_
    have seen := Extends.step trace
      (⟨.listJobs repository runID page, answer⟩ : Event Call.Answer)
    cases decoded : GitHub.getJSON "list jobs" answer with
    | error error => exact Observes.pure nofun
    | ok body =>
      dsimp only
      split
      · refine Observes.pure fun _ equal => ?_
        cases equal
        exact ⟨answer, body, decoded, seen, .inl rfl⟩
      · rename_i more
        have full : 100 ≤ body.jobs.length := Nat.not_lt.mp (not_or.mp more).1
        refine (induction _ _ (page + 1) (jobs ++ body.jobs)).mono ?_
        intro value trace' _ rest _ holds listed equal
        rcases holds listed equal with ⟨_, _, _, _, appended | many⟩
        · refine ⟨answer, body, decoded, seen.still rest, .inr ?_⟩
          rw [appended, List.length_append, List.length_append]
          omega
        · exact ⟨answer, body, decoded, seen.still rest, .inr many⟩

theorem listJobs_observes (runID : Int) :
    Observes assumptions (GitHub.listJobs repository runID) trace world fun answer trace' _ =>
      ∀ job, answer = .ok [job] → ∃ seen body,
        GitHub.getJSON "list jobs" seen = .ok body ∧ body.jobs = [job] ∧
        Extends trace trace' [⟨.listJobs repository runID 1, seen⟩] := by
  unfold GitHub.listJobs
  split
  · exact Observes.pure nofun
  · refine (jobPages_observes repository trace world runID 100 1 []).mono ?_
    intro answer trace' _ _ _ holds job equal
    rcases holds [job] equal with ⟨seen, body, decoded, extended, listed | many⟩
    · exact ⟨seen, body, decoded, listed.symm, extended⟩
    · simp at many

theorem scanLabels_found {label : String} {runner match_ : RemoteRunner}
    {labels : List RunnerLabel} {found : Option RemoteRunner}
    (scanned : GitHub.scanLabels label runner labels found = .ok (some match_)) :
    found = some match_ ∨ match_ = runner := by
  induction labels generalizing found with
  | nil => exact .inl (Except.ok.inj scanned)
  | cons other rest induction =>
    unfold GitHub.scanLabels at scanned
    split at scanned
    · exact induction scanned
    · cases found with
      | some earlier => cases scanned
      | none =>
        rcases induction scanned with same | same
        · exact .inr (Option.some.inj same).symm
        · exact .inr same

theorem scanRunners_found {label : String} {match_ : RemoteRunner}
    {runners : List RemoteRunner} {found : Option RemoteRunner}
    (scanned : GitHub.scanRunners label runners found = .ok (some match_)) :
    found = some match_ ∨ match_ ∈ runners := by
  induction runners generalizing found with
  | nil => exact .inl (Except.ok.inj scanned)
  | cons runner rest induction =>
    rw [GitHub.scanRunners] at scanned
    cases labels : GitHub.scanLabels label runner runner.labels found with
    | error error => rw [labels] at scanned; cases scanned
    | ok next =>
      rw [labels] at scanned
      rcases induction scanned with same | member
      · subst same
        rcases scanLabels_found labels with same | rfl
        · exact .inl same
        · exact .inr (List.mem_cons_self ..)
      · exact .inr (List.mem_cons_of_mem _ member)

theorem findRunnerPages_observes (label : String) (remaining page : Nat)
    (found : Option RemoteRunner) :
    Observes assumptions (GitHub.findRunnerPages repository label remaining page found) trace world
      fun answer _ world' => ∀ runner, answer = .ok (some runner) →
        found = some runner ∨ world'.Lists repository runner := by
  induction remaining generalizing page found trace world with
  | zero => exact Observes.pure nofun
  | succ remaining induction =>
    refine Observes.perform rfl fun answer permitted calmer => ?_
    cases decoded : GitHub.getJSON "list runners" answer with
    | error error => exact Observes.pure nofun
    | ok body =>
      have listed : ∀ runner ∈ body.runners, world.Lists repository runner :=
        fun runner member key effect live sameRepository sameName sameLabel =>
          permitted body decoded key effect live sameRepository runner member sameName sameLabel
      dsimp only
      cases scanned : GitHub.scanRunners label body.runners found with
      | error error => exact Observes.pure nofun
      | ok next =>
        have origin : ∀ runner, next = some runner →
          found = some runner ∨ world.Lists repository runner := by
          rintro runner rfl
          exact (scanRunners_found scanned).imp_right (listed runner)
        dsimp only
        split
        · refine Observes.pure fun runner equal => ?_
          exact (origin runner (Except.ok.inj equal)).imp_right calmer.lists
        · refine (induction _ _ (page + 1) next).mono ?_
          intro value _ _ _ calm holds runner equal
          rcases holds runner equal with same | lists
          · exact (origin runner same).imp_right (calmer.trans calm).lists
          · exact .inr lists

theorem findRunnerByLabel_observes (label : String) :
    Observes assumptions (GitHub.findRunnerByLabel repository label) trace world
      fun answer _ world' => ∀ runner, answer = .ok (some runner) →
        world'.Lists repository runner := by
  unfold GitHub.findRunnerByLabel
  split
  · exact Observes.pure nofun
  · refine (findRunnerPages_observes repository trace world label 100 1 none).mono ?_
    intro answer _ world' _ _ holds runner equal
    exact (holds runner equal).resolve_left nofun

end Reads

end Civm.JitDispatcher
