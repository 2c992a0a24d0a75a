import Civm.HookInstall.Install
import Civm.JobHook.Run

/-! # The compose projects of a runner

The installation gives every runner its slot, and the jobs of the runner label what they
start with the slot or with the slot and their run. What the completed job of one runner
reaps is compared with what the job of another one may have running. -/

namespace Civm.JobHook

open HookInstall (runnerSlot extraSettings)

/-- The labels a run uses on a runner. -/
def projectLabels (slot run : String) : List String := [slot, slot ++ "-" ++ run]

/-- The environment of a job on a runner whose `.env` has been installed. -/
structure JobEnvironment (getenv : String → String) (runner run : String) : Prop where
  installed : ∃ base, ∀ setting ∈ extraSettings (runnerSlot runner) base,
    getenv setting.1 = setting.2
  runID : getenv "GITHUB_RUN_ID" = run

def jobVariables (runner : String) (base : Int) (run : String) (name : String) : String :=
  ((extraSettings (runnerSlot runner) base ++ [("GITHUB_RUN_ID", run)]).lookup name).getD ""

theorem jobVariables_installed (runner : String) (base : Int) (run : String) :
    JobEnvironment (jobVariables runner base run) runner run := by
  constructor
  · apply Exists.intro base
    simp [extraSettings, jobVariables, List.lookup_cons]
  · simp [extraSettings, jobVariables, List.lookup_cons]

def numeric (run : String) : Bool := run ≠ "" && run.toList.all Char.isDigit

def reapedLabels (getenv : String → String) (now : Int) (flags : Flags) : List String :=
  runImageReapScopes (applyDefaults (hookEventOptions getenv now "job-completed" flags))

theorem trimSpace_solid {value : String} (solid : ∀ char ∈ value.toList, Text.isSpace char = false) :
    Text.trimSpace value = value := by
  have kept (chars : List Char) (none : ∀ char ∈ chars, Text.isSpace char = false) :
    chars.dropWhile Text.isSpace = chars := by
    cases chars with
    | nil => rfl
    | cons char rest => rw [List.dropWhile_cons, none char List.mem_cons_self, if_neg (by decide)]
  rw [Text.trimSpace, kept _ solid, kept, List.reverse_reverse, String.ofList_toList]
  intro char member
  exact solid char (List.mem_reverse.mp member)

theorem trimSpace_trimSpace (value : String) :
    Text.trimSpace (Text.trimSpace value) = Text.trimSpace value := by
  have shorter := Text.trimSpace_infix (Text.trimSpace value)
  have longer : (Text.trimSpace value).toList <:+: (Text.trimSpace (Text.trimSpace value)).toList :=
    Text.infix_trimSpace List.infix_rfl
  apply String.toList_injective
  exact shorter.eq_of_length (Nat.le_antisymm shorter.length_le longer.length_le)

theorem digit_toNat {char : Char} (digit : char.isDigit = true) :
    48 ≤ char.toNat ∧ char.toNat ≤ 57 := by
  simp only [Char.isDigit, Bool.and_eq_true, decide_eq_true_eq, UInt32.le_iff_toNat_le] at digit
  exact digit

theorem numeric_solid {run : String} (number : numeric run = true) :
    ∀ char ∈ run.toList, Text.isSpace char = false ∧ char ≠ '-' := by
  intro char member
  rw [numeric, Bool.and_eq_true] at number
  have bounds := digit_toNat (List.all_eq_true.mp number.2 char member)
  constructor
  · simp [Text.isSpace]
    omega
  · intro dash
    rw [dash] at bounds
    exact absurd bounds (by decide)

theorem slot_eq_of_label {slot other run otherRun : String} (number : numeric run = true)
    (otherNumber : numeric otherRun = true)
    (same : slot ++ "-" ++ run = other ++ "-" ++ otherRun) : slot = other := by
  have noDash (run : String) (number : numeric run = true) : '-' ∉ run.toList :=
    fun dash => (numeric_solid number '-' dash).2 rfl
  have split (slot run : String) : (slot ++ "-" ++ run).toList =
    slot.toList ++ '-' :: run.toList := by simp
  have chars := congrArg (Text.cutLast '-') (congrArg String.toList same)
  rw [split, split, Text.cutLast_append (noDash run number),
    Text.cutLast_append (noDash otherRun otherNumber), Option.some.injEq, Prod.mk.injEq] at chars
  exact String.toList_injective chars.1

section

variable {getenv : String → String} {runner run : String}

theorem composeProjectFromEnv_installed (environment : JobEnvironment getenv runner run) :
    composeProjectFromEnv getenv = Text.trimSpace (runnerSlot runner) := by
  rcases environment.installed with ⟨base, installed⟩
  have slot := installed ("CIVM_RUNNER_SLOT", runnerSlot runner) (by simp [extraSettings])
  have project := installed ("COMPOSE_PROJECT_NAME", runnerSlot runner) (by simp [extraSettings])
  dsimp only at slot project
  rw [composeProjectFromEnv, slot, project]
  simp

theorem reapedLabels_installed (environment : JobEnvironment getenv runner run)
    (number : numeric run = true) (now : Int) (flags : Flags) :
    reapedLabels getenv now flags =
      if Text.trimSpace (runnerSlot runner) = "" then []
      else projectLabels (Text.trimSpace (runnerSlot runner)) run := by
  have present : run ≠ "" := by
    rw [numeric, Bool.and_eq_true] at number
    exact of_decide_eq_true number.1
  have trimmed : Text.trimSpace run = run :=
    trimSpace_solid fun char member => (numeric_solid number char member).1
  have project : (applyDefaults (hookEventOptions getenv now "job-completed" flags)).composeProject =
    composeProjectFromEnv getenv := rfl
  have started : (applyDefaults (hookEventOptions getenv now "job-completed" flags)).runID =
    getenv "GITHUB_RUN_ID" := rfl
  rw [reapedLabels, runImageReapScopes, project, started, environment.runID,
    composeProjectFromEnv_installed environment, trimSpace_trimSpace, trimmed]
  rw [if_neg present, projectLabels]

end

/-- The slots neither of which, with the blanks around the first one gone, is the other or
the other's label for its run. -/
def Apart (slot run other otherRun : String) : Prop :=
  Text.trimSpace slot = "" ∨
    Text.trimSpace slot ≠ other ∧ Text.trimSpace slot ≠ other ++ "-" ++ otherRun ∧
      Text.trimSpace slot ++ "-" ++ run ≠ other

/-- A completed job reaps nothing of a job on another runner just if the slots are apart. -/
theorem reaps_nothing_of_others_iff {getenv : String → String}
    {runner run other otherRun : String} (environment : JobEnvironment getenv runner run)
    (number : numeric run = true) (otherNumber : numeric otherRun = true) (now : Int)
    (flags : Flags) :
    (reapedLabels getenv now flags).Disjoint (projectLabels (runnerSlot other) otherRun) ↔
      Apart (runnerSlot runner) run (runnerSlot other) otherRun := by
  rw [reapedLabels_installed environment number, Apart]
  by_cases blank : Text.trimSpace (runnerSlot runner) = ""
  · simp [blank]
  · rw [if_neg blank, or_iff_right blank]
    simp only [projectLabels, List.disjoint_cons_left, List.mem_cons, List.not_mem_nil, or_false,
      not_or, List.disjoint_nil_left, and_true]
    constructor
    · intro apart
      exact ⟨apart.1.1, apart.1.2, apart.2.1⟩
    · intro apart
      apply And.intro ⟨apart.1, apart.2.1⟩
      exact ⟨apart.2.2, fun same => apart.1 (slot_eq_of_label number otherNumber same)⟩

theorem plain_slots_are_apart :
    (reapedLabels (jobVariables "/home/ci/actions-runner-cmpx" 20000 "123") 0 {}).Disjoint
      (projectLabels (runnerSlot "/home/ci/actions-runner-api") "124") := by
  rw [reaps_nothing_of_others_iff (jobVariables_installed _ _ _) (by decide) (by decide)]
  unfold Apart
  decide +kernel

/-- The run 123 of the runner `cmpx` reaps what the runner `cmpx-123` has running. -/
theorem slot_with_number_is_reaped :
    runnerSlot "/home/ci/actions-runner-cmpx" ≠ runnerSlot "/home/ci/actions-runner-cmpx-123" ∧
      numeric "123" = true ∧ numeric "124" = true ∧
      ¬(reapedLabels (jobVariables "/home/ci/actions-runner-cmpx" 20000 "123") 0 {}).Disjoint
        (projectLabels (runnerSlot "/home/ci/actions-runner-cmpx-123") "124") := by
  apply And.intro (by decide)
  apply And.intro (by decide)
  apply And.intro (by decide)
  intro disjoint
  exact @disjoint "cmpx-123" (by decide +kernel) (by decide +kernel)

end Civm.JobHook
