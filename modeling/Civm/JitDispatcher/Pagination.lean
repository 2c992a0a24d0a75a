import Civm.Foundation.Determined
import Civm.JitDispatcher.GitHub

/-! # Reading GitHub's lists page by page

A fixed inventory that is served in pages of 100. The three loops over pages read all of
it, up to their limit of 100 pages. -/

namespace Civm.JitDispatcher.GitHub

/-! ## Pages -/

section Pages

variable {α : Type} {all : List α} {page : Nat}

/-- What comes on a page and after it. -/
def onwards (all : List α) (page : Nat) : List α := all.drop ((page - 1) * 100)

def onPage (all : List α) (page : Nat) : List α := (onwards all page).take 100

theorem onPage_append (all : List α) (positive : 0 < page) :
    onPage all page ++ onwards all (page + 1) = onwards all page := by
  have next : (page + 1 - 1) * 100 = (page - 1) * 100 + 100 := by omega
  unfold onPage onwards
  rw [next, ← List.drop_drop]
  exact List.take_append_drop 100 _

/-- What the loops test: the page is not full, or there are as many pages as entries. -/
def IsLast (all : List α) (page : Nat) : Prop :=
  (onPage all page).length < 100 ∨ (page * 100 : Int) ≥ all.length

instance : Decidable (IsLast all page) := inferInstanceAs (Decidable (_ ∨ _))

theorem onPage_of_last (positive : 0 < page) (last : IsLast all page) :
    onPage all page = onwards all page := by
  apply List.take_of_length_le
  simp only [IsLast, onPage, onwards, List.length_take, List.length_drop] at last ⊢
  omega

theorem isLast_of_le (few : all.length ≤ page * 100) : IsLast all page := by
  right
  omega

end Pages

/-! ## The inventory -/

/-- GitHub's answers for a repository with these runners and a run with these jobs. -/
structure Serves {World : Type} (responder : Responder Call.Answer World) (repository : String)
    (runID : Int) (runners : List RemoteRunner) (jobs : List WorkflowJob) : Prop where
  runners : ∀ world page, ∃ requestID, responder.answer world (.listRunners repository page) =
    .response 200 requestID (some ⟨runners.length, onPage runners page⟩)
  jobs : ∀ world page, ∃ requestID, responder.answer world (.listJobs repository runID page) =
    .response 200 requestID (some ⟨jobs.length, onPage jobs page⟩)

def carries (label : String) (runner : RemoteRunner) : Bool :=
  runner.labels.any fun other => other.name = label

/-- What `FindRunnerByLabel` makes of the runners with the label. -/
def judge : List RemoteRunner → Except Error (Option RemoteRunner)
  | [] => .ok none
  | [runner] => .ok (some runner)
  | _ :: _ :: _ => .error (ambiguous "duplicate exact runner label")

theorem judge_append (first second : List RemoteRunner) :
    judge (first ++ second) = match judge first with
      | .error error => .error error
      | .ok found => judge (found.toList ++ second) := by
  match first with
  | [] => rfl
  | [runner] => rfl
  | _ :: _ :: _ => rfl

section Scan

variable {label : String} {runner : RemoteRunner}

theorem scanLabels_of_absent {labels : List RunnerLabel} (found : Option RemoteRunner)
    (absent : ∀ other ∈ labels, other.name ≠ label) :
    scanLabels label runner labels found = .ok found := by
  induction labels with
  | nil => rfl
  | cons other rest induction =>
    unfold scanLabels
    rw [if_pos (absent other List.mem_cons_self)]
    exact induction fun other member => absent other (List.mem_cons_of_mem _ member)

theorem scanLabels_eq {labels : List RunnerLabel} (found : Option RemoteRunner)
    (unique : (labels.map RunnerLabel.name).Nodup) :
    scanLabels label runner labels found =
      if labels.any fun other => other.name = label then judge (found.toList ++ [runner])
      else .ok found := by
  induction labels with
  | nil => rfl
  | cons other rest induction =>
    rcases List.nodup_cons.mp unique with ⟨fresh, unique⟩
    by_cases same : other.name = label
    · have absent : ∀ later ∈ rest, later.name ≠ label := by
        intro later member equal
        exact fresh (List.mem_map.mpr ⟨later, member, equal.trans same.symm⟩)
      cases found with
      | none => simp [scanLabels, same, scanLabels_of_absent _ absent, judge]
      | some earlier => simp [scanLabels, same, judge]
    · unfold scanLabels
      rw [if_pos same, induction unique]
      simp [same]

theorem scanRunners_eq {runners : List RemoteRunner} (found : Option RemoteRunner)
    (unique : ∀ runner ∈ runners, (runner.labels.map RunnerLabel.name).Nodup) :
    scanRunners label runners found = judge (found.toList ++ runners.filter (carries label)) := by
  induction runners generalizing found with
  | nil => cases found <;> rfl
  | cons runner rest induction =>
    have later := fun found => induction found fun other member =>
      unique other (List.mem_cons_of_mem _ member)
    have here : scanLabels label runner runner.labels found =
      if carries label runner then judge (found.toList ++ [runner]) else .ok found :=
      scanLabels_eq found (unique runner List.mem_cons_self)
    rw [scanRunners, here]
    by_cases has : carries label runner = true
    · rw [List.filter_cons_of_pos has, if_pos has]
      cases found with
      | none => exact later (some runner)
      | some earlier => rfl
    · rw [List.filter_cons_of_neg has, if_neg has]
      exact later found

end Scan

/-! ## The loops -/

section Loops

variable {World : Type} {responder : Responder Call.Answer World} {repository label : String}
variable {runID : Int} {runners : List RemoteRunner} {jobs : List WorkflowJob}

def value (responder : Responder Call.Answer World) (world : World) (program : Action α) :
    Option α :=
  (program.run responder world).map Prod.fst

theorem value_perform {call : Call} {next : call.Answer → Action α} (world : World) :
    value responder world (perform call >>= next) =
      value responder (responder.after world call) (next (responder.answer world call)) := rfl

theorem runnerLabelPages_step (serves : Serves responder repository runID runners jobs)
    (remaining page : Nat) (world : World) :
    value responder world (runnerLabelPages repository label (remaining + 1) page) =
      if (onPage runners page).any (carries label) then some (.ok true)
      else if IsLast runners page then some (.ok false)
      else value responder (responder.after world (.listRunners repository page))
        (runnerLabelPages repository label remaining (page + 1)) := by
  rcases serves.runners world page with ⟨requestID, served⟩
  rw [runnerLabelPages, value_perform, served]
  change value responder _ (if (onPage runners page).any (carries label) then _ else
    if IsLast runners page then _ else _) = _
  split
  · rfl
  · split <;> rfl

theorem runnerLabelPages_value (serves : Serves responder repository runID runners jobs)
    (remaining : Nat) {page : Nat} (positive : 0 < page)
    (few : runners.length ≤ (page + remaining) * 100) (world : World) :
    value responder world (runnerLabelPages repository label (remaining + 1) page) =
      some (.ok ((onwards runners page).any (carries label))) := by
  induction remaining generalizing page world with
  | zero =>
    have last : IsLast runners page := isLast_of_le few
    rw [runnerLabelPages_step serves, if_pos last, onPage_of_last positive last]
    cases (onwards runners page).any (carries label) <;> rfl
  | succ remaining induction =>
    rw [runnerLabelPages_step serves]
    by_cases last : IsLast runners page
    · rw [if_pos last, onPage_of_last positive last]
      cases (onwards runners page).any (carries label) <;> rfl
    · have later := fun world => induction (Nat.succ_pos page) (by omega) world
      rw [if_neg last, later, ← onPage_append runners positive, List.any_append]
      cases (onPage runners page).any (carries label) <;> rfl

theorem findRunnerPages_step (serves : Serves responder repository runID runners jobs)
    (unique : ∀ runner ∈ runners, (runner.labels.map RunnerLabel.name).Nodup)
    (remaining page : Nat) (found : Option RemoteRunner) (world : World) :
    value responder world (findRunnerPages repository label (remaining + 1) page found) =
      match judge (found.toList ++ (onPage runners page).filter (carries label)) with
      | .error error => some (.error error)
      | .ok found =>
          if IsLast runners page then some (.ok found)
          else value responder (responder.after world (.listRunners repository page))
            (findRunnerPages repository label remaining (page + 1) found) := by
  have uniqueHere : ∀ runner ∈ onPage runners page,
    (runner.labels.map RunnerLabel.name).Nodup := fun runner member =>
    unique runner (List.mem_of_mem_drop (List.mem_of_mem_take member))
  rcases serves.runners world page with ⟨requestID, served⟩
  rw [findRunnerPages, value_perform, served]
  change value responder _ (match scanRunners label (onPage runners page) found with
    | .error error => _
    | .ok found => if IsLast runners page then _ else _) = _
  rw [scanRunners_eq found uniqueHere]
  cases judge (found.toList ++ (onPage runners page).filter (carries label)) with
  | error error => rfl
  | ok found =>
    dsimp only
    split <;> rfl

theorem findRunnerPages_value (serves : Serves responder repository runID runners jobs)
    (unique : ∀ runner ∈ runners, (runner.labels.map RunnerLabel.name).Nodup)
    (remaining : Nat) {page : Nat} (positive : 0 < page) (found : Option RemoteRunner)
    (few : runners.length ≤ (page + remaining) * 100) (world : World) :
    value responder world (findRunnerPages repository label (remaining + 1) page found) =
      some (judge (found.toList ++ (onwards runners page).filter (carries label))) := by
  induction remaining generalizing page found world with
  | zero =>
    have last : IsLast runners page := isLast_of_le few
    rw [findRunnerPages_step serves unique, onPage_of_last positive last]
    cases judge (found.toList ++ (onwards runners page).filter (carries label)) with
    | error error => rfl
    | ok found => exact if_pos last
  | succ remaining induction =>
    rw [findRunnerPages_step serves unique]
    by_cases last : IsLast runners page
    · rw [onPage_of_last positive last]
      cases judge (found.toList ++ (onwards runners page).filter (carries label)) with
      | error error => rfl
      | ok found => exact if_pos last
    · rw [← onPage_append runners positive, List.filter_append, ← List.append_assoc,
        judge_append (found.toList ++ (onPage runners page).filter (carries label))]
      cases judge (found.toList ++ (onPage runners page).filter (carries label)) with
      | error error => rfl
      | ok found =>
        dsimp only
        rw [if_neg last]
        exact induction (Nat.succ_pos page) found (by omega) _

theorem jobPages_step (serves : Serves responder repository runID runners jobs)
    (remaining page : Nat) (listed : List WorkflowJob) (world : World) :
    value responder world (jobPages repository runID (remaining + 1) page listed) =
      if (onPage jobs page).length < 100 ∨
          ((listed ++ onPage jobs page).length : Int) ≥ jobs.length then
        some (.ok (listed ++ onPage jobs page))
      else value responder (responder.after world (.listJobs repository runID page))
        (jobPages repository runID remaining (page + 1) (listed ++ onPage jobs page)) := by
  rcases serves.jobs world page with ⟨requestID, served⟩
  rw [jobPages, value_perform, served]
  change value responder _ (if (onPage jobs page).length < 100 ∨
    ((listed ++ onPage jobs page).length : Int) ≥ jobs.length then _ else _) = _
  split <;> rfl

theorem take_append_onPage (all : List α) {page : Nat} (positive : 0 < page) :
    all.take ((page - 1) * 100) ++ onPage all page = all.take (page * 100) := by
  have next : page * 100 = (page - 1) * 100 + 100 := by omega
  rw [next, List.take_add]
  rfl

theorem jobPages_last_iff (jobs : List WorkflowJob) {page : Nat} (positive : 0 < page) :
    ((onPage jobs page).length < 100 ∨
      ((jobs.take (page * 100)).length : Int) ≥ jobs.length) ↔ jobs.length ≤ page * 100 := by
  simp only [onPage, onwards, List.length_take, List.length_drop]
  omega

theorem jobPages_value (serves : Serves responder repository runID runners jobs)
    (remaining : Nat) {page : Nat} (positive : 0 < page)
    (few : jobs.length ≤ (page + remaining) * 100) (world : World) :
    value responder world (jobPages repository runID (remaining + 1) page
      (jobs.take ((page - 1) * 100))) = some (.ok jobs) := by
  induction remaining generalizing page world with
  | zero =>
    have last : jobs.length ≤ page * 100 := few
    rw [jobPages_step serves, take_append_onPage jobs positive,
      if_pos ((jobPages_last_iff jobs positive).mpr last), List.take_of_length_le last]
  | succ remaining induction =>
    rw [jobPages_step serves, take_append_onPage jobs positive]
    by_cases last : jobs.length ≤ page * 100
    · rw [if_pos ((jobPages_last_iff jobs positive).mpr last), List.take_of_length_le last]
    · rw [if_neg (mt (jobPages_last_iff jobs positive).mp last)]
      exact induction (Nat.succ_pos page) (by omega) _

end Loops

theorem judge_eq_some_iff {holders : List RemoteRunner} {runner : RemoteRunner} :
    judge holders = .ok (some runner) ↔ holders = [runner] := by
  match holders with
  | [] => simp [judge]
  | [other] => simp [judge]
  | _ :: _ :: _ => simp [judge]

theorem judge_eq_none_iff {holders : List RemoteRunner} : judge holders = .ok none ↔ holders = [] := by
  match holders with
  | [] => simp [judge]
  | [other] => simp [judge]
  | _ :: _ :: _ => simp [judge]

theorem judge_ambiguous_iff {holders : List RemoteRunner} :
    (∃ error, judge holders = .error error ∧ error.is .ambiguous = true) ↔ 2 ≤ holders.length := by
  match holders with
  | [] => simp [judge]
  | [other] => simp [judge]
  | _ :: _ :: _ => simp [judge, ambiguous]

/-- The two functions see the same inventory, and the jobs of a run are listed once
each. -/
theorem pagination_is_exact {World : Type} {responder : Responder Call.Answer World}
    {repository label : String} {runID : Int} {runners : List RemoteRunner}
    {jobs : List WorkflowJob} (serves : Serves responder repository runID runners jobs)
    (fewRunners : runners.length ≤ 10000) (fewJobs : jobs.length ≤ 10000)
    (unique : ∀ runner ∈ runners, (runner.labels.map RunnerLabel.name).Nodup)
    (accepted : labelRefused repository label = false) (isRun : 0 < runID) (world : World) :
    (value responder world (runnerLabelExists repository label) = some (.ok true) ↔
        ∃ runner ∈ runners, carries label runner) ∧
      (value responder world (runnerLabelExists repository label) = some (.ok false) ↔
        ¬∃ runner ∈ runners, carries label runner) ∧
      (∀ runner, value responder world (findRunnerByLabel repository label) =
        some (.ok (some runner)) ↔ runners.filter (carries label) = [runner]) ∧
      (value responder world (findRunnerByLabel repository label) = some (.ok none) ↔
        runners.filter (carries label) = []) ∧
      ((∃ error, value responder world (findRunnerByLabel repository label) =
          some (.error error) ∧ error.is .ambiguous) ↔
        2 ≤ (runners.filter (carries label)).length) ∧
      value responder world (listJobs repository runID) = some (.ok jobs) := by
  have existing : value responder world (runnerLabelExists repository label) =
    some (.ok (runners.any (carries label))) := by
    rw [runnerLabelExists, if_neg (by simp [accepted])]
    exact runnerLabelPages_value serves 99 Nat.one_pos fewRunners world
  have holder : value responder world (findRunnerByLabel repository label) =
    some (judge (runners.filter (carries label))) := by
    rw [findRunnerByLabel, if_neg (by simp [accepted])]
    exact findRunnerPages_value serves unique 99 Nat.one_pos none fewRunners world
  have listed : value responder world (listJobs repository runID) = some (.ok jobs) := by
    have valid : ¬((validateRepository repository).isSome = true ∨ runID ≤ 0) := by
      simp only [labelRefused, Bool.or_eq_false_iff] at accepted
      simp only [accepted.1.1, Bool.false_eq_true, false_or]
      omega
    rw [listJobs, if_neg valid]
    exact jobPages_value serves 99 Nat.one_pos fewJobs world
  rw [existing, holder]
  refine ⟨by simp, by simp, fun runner => ?_, ?_, ?_, listed⟩
  · rw [← judge_eq_some_iff]
    exact Option.some_inj
  · rw [← judge_eq_none_iff]
    exact Option.some_inj
  · rw [← judge_ambiguous_iff]
    simp only [Option.some_inj]

namespace Sample

/-- A GitHub that serves an inventory, and nothing else that answers with more than a
failure. -/
def served (runners : List RemoteRunner) (jobs : List WorkflowJob) (_ : Unit) :
    (call : Call) → call.Answer
  | .listRunners _ page => .response 200 "" (some ⟨runners.length, onPage runners page⟩)
  | .listJobs _ _ page => .response 200 "" (some ⟨jobs.length, onPage jobs page⟩)
  | .now => 0
  | .info _ | .closeQueue => ()
  | .observationExpired => true
  | .random | .list | .load _ | .requestLogDir _ | .orphan | .attach _ | .readReceipt =>
    .error (.text "unavailable")
  | .save _ => ⟨some (.text "unavailable"), false⟩
  | .acquire _ => ⟨some (.text "unavailable"), none⟩
  | .releaseOrphan _ | .release _ => ⟨some (.text "unavailable"), true⟩
  | .getRepository _ | .getRef _ _ | .getContents _ _ _ | .postDispatch _ _ _ _ | .getRun _ _
  | .getJob _ _ | .postJITConfig _ _ _ | .getRunner _ _ | .deleteRunner _ _ | .postCancel _ _ =>
    .failed none
  | .awaitDriver | .awaitExit => .expired (.text "unavailable")
  | .runnerPreflight | .gatePreflight | .acquireQueue | .sleep | .abandon _
  | .trustedExecutable _ _ | .logDirectory _ | .openLog _ _ | .pipe | .prepare _
  | .stdinPipe | .start _ | .closePreparation | .writeInput _ | .closeInput
  | .signalGroup _ | .terminate _ _ | .recover _ _ _ | .flushLogs => some (.text "unavailable")

def gitHub (runners : List RemoteRunner) (jobs : List WorkflowJob) :
    Responder Call.Answer Unit where
  answer := served runners jobs
  after _ _ := ()

def nonceLabel : String := "civm-jit-" ++ String.ofList (List.replicate 64 '7')

def holder : RemoteRunner := ⟨101, "civm-jit-app", "offline", false, [⟨nonceLabel, "custom"⟩]⟩

def inventory : List RemoteRunner :=
  List.replicate 100 ⟨1, "civm-app", "online", false, [⟨"self-hosted", "read-only"⟩]⟩ ++ [holder]

end Sample

theorem holder_on_second_page_is_found :
    value (Sample.gitHub Sample.inventory []) () (findRunnerByLabel "acme/app" Sample.nonceLabel) =
      some (.ok (some Sample.holder)) := by
  have serves : Serves (Sample.gitHub Sample.inventory []) "acme/app" 1 Sample.inventory [] :=
    ⟨fun _ _ => ⟨"", rfl⟩, fun _ _ => ⟨"", rfl⟩⟩
  have unique : ∀ runner ∈ Sample.inventory, (runner.labels.map RunnerLabel.name).Nodup := by
    decide +kernel
  have accepted : labelRefused "acme/app" Sample.nonceLabel = false := by decide +kernel
  have found := (pagination_is_exact serves (by decide) (by decide) unique accepted
    Int.one_pos ()).2.2.1
  exact (found Sample.holder).mpr (by decide +kernel)

end Civm.JitDispatcher.GitHub
