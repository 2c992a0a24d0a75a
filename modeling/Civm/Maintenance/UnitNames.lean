import Mathlib.Data.List.TakeWhile
import Civm.Maintenance.Units

/-! # The unit of a recorded runner

A unit is taken apart into a repository and a name, and put together again from what has
been recorded. Both agree on the units of a certain form only. -/

namespace Civm.Maintenance

/-- A segment and a name with a dot between them, and no slash in the segment before its
first hyphen. -/
def Regular (unit : String) : Prop :=
  ∃ segment name : List Char,
    unit = "actions.runner." ++ String.ofList (segment ++ '.' :: name) ++ ".service" ∧
      '.' ∉ name ∧ name ≠ [] ∧ segment ≠ [] ∧ '/' ∉ segment.takeWhile (· ≠ '-')

section

variable {segment name : List Char}

theorem takeWhile_of_not_mem (noDash : '-' ∉ segment) : segment.takeWhile (· ≠ '-') = segment := by
  rw [List.takeWhile_eq_self_iff]
  intro char member
  exact decide_eq_true fun dash => noDash (dash ▸ member)

theorem takeWhile_dashed {owner repo : List Char} (noDash : '-' ∉ owner) :
    (owner ++ '-' :: repo).takeWhile (· ≠ '-') = owner := by
  rw [List.takeWhile_append, takeWhile_of_not_mem noDash]
  simp

/-! ## What is restored -/

theorem parseRunnerUnit_undashed (noDash : '-' ∉ segment) (noDot : '.' ∉ name) :
    parseRunnerUnit ("actions.runner." ++ String.ofList (segment ++ '.' :: name) ++ ".service") =
      (String.ofList segment, String.ofList name) := by
  rw [parseRunnerUnit_parts noDot, Text.cut_eq_none.mpr noDash]

/-- The segment as it comes out of the repository that was recorded for it. -/
def restoredSegment (segment : List Char) : List Char :=
  match Text.cut '-' segment with
  | none => Text.replaceFirst '/' '-' segment
  | some (owner, repo) => Text.replaceFirst '/' '-' (owner ++ '/' :: repo)

theorem restoredUnit_parts (noDot : '.' ∉ name) (named : name ≠ []) :
    restoredUnit ("actions.runner." ++ String.ofList (segment ++ '.' :: name) ++ ".service") =
      if restoredSegment segment = [] then "actions.runner." ++ String.ofList name ++ ".service"
      else "actions.runner." ++ String.ofList (restoredSegment segment ++ '.' :: name) ++
        ".service" := by
  have present : String.ofList name ≠ "" := fun blank => named (String.ofList_eq_empty_iff.mp blank)
  have parsed : parseRunnerUnit ("actions.runner." ++ String.ofList (segment ++ '.' :: name) ++
    ".service") = (String.ofList (match Text.cut '-' segment with
      | none => segment
      | some (owner, repo) => owner ++ '/' :: repo), String.ofList name) := by
    cases cut : Text.cut '-' segment with
    | none => exact parseRunnerUnit_undashed (Text.cut_eq_none.mp cut) noDot
    | some pieces =>
      rcases Text.eq_of_cut cut with ⟨split, noDash⟩
      rw [split]
      exact parseRunnerUnit_dashed noDash noDot
  rw [restoredUnit, RunnerRef.ofUnit, parsed]
  dsimp only
  rw [if_neg present, RunnerRef.untouched, runnerUnitName]
  dsimp only
  rw [String.toList_ofList]
  have same : Text.replaceFirst '/' '-' (match Text.cut '-' segment with
    | none => segment
    | some (owner, repo) => owner ++ '/' :: repo) = restoredSegment segment := by
    rw [restoredSegment]
    cases Text.cut '-' segment <;> rfl
  rw [same]
  by_cases empty : restoredSegment segment = []
  · rw [if_pos (String.ofList_eq_empty_iff.mpr empty), if_pos empty]
  · rw [if_neg fun blank => empty (String.ofList_eq_empty_iff.mp blank), if_neg empty]
    simp [String.ofList_append, String.append_assoc]

theorem restoredSegment_eq_self : restoredSegment segment = segment ↔
    '/' ∉ segment.takeWhile (· ≠ '-') := by
  unfold restoredSegment
  cases cut : Text.cut '-' segment with
  | none =>
    have noDash := Text.cut_eq_none.mp cut
    dsimp only
    rw [takeWhile_of_not_mem noDash, Text.replaceFirst]
    cases slash : Text.cut '/' segment with
    | none => simpa using Text.cut_eq_none.mp slash
    | some pieces =>
      rcases Text.eq_of_cut slash with ⟨split, _⟩
      apply iff_of_false
      · intro same
        apply noDash
        rw [← same]
        simp
      · rw [split]
        simp
  | some pieces =>
    rcases Text.eq_of_cut cut with ⟨split, noDash⟩
    dsimp only
    rw [split, takeWhile_dashed noDash, Text.replaceFirst]
    cases slash : Text.cut '/' pieces.1 with
    | none =>
      have noSlash := Text.cut_eq_none.mp slash
      rw [Text.cut_append noSlash]
      exact iff_of_true rfl noSlash
    | some halves =>
      rcases Text.eq_of_cut slash with ⟨owner, noSlash⟩
      have whole : pieces.1 ++ '/' :: pieces.2 =
        halves.1 ++ '/' :: (halves.2 ++ '/' :: pieces.2) := by
        rw [owner, List.append_assoc, List.cons_append]
      rw [whole, Text.cut_append noSlash, owner]
      apply iff_of_false
      · simp
      · simp

end

theorem runnerUnitName_ne_name (state : RunnerState) : runnerUnitName state ≠ state.name := by
  intro same
  have lengths := congrArg (fun text => text.toList.length) same
  unfold runnerUnitName at lengths
  dsimp only at lengths
  split at lengths
  · simp at lengths
    omega
  · simp at lengths
    omega

theorem restoredUnit_ne_of_unnamed {unit : String} (unnamed : (parseRunnerUnit unit).2 = "") :
    restoredUnit unit ≠ unit := by
  have named : (RunnerRef.ofUnit unit).untouched.name = unit := if_pos unnamed
  intro same
  apply runnerUnitName_ne_name (RunnerRef.ofUnit unit).untouched
  rw [named]
  exact same

/-! ## Discovered units -/

section

variable {unit : String}

theorem hasPrefix_iff {value start : String} :
    Text.hasPrefix value start = true ↔ ∃ rest, value = start ++ rest := by
  rw [Text.hasPrefix, List.isPrefixOf_iff_prefix]
  constructor
  · intro leads
    rcases leads with ⟨rest, whole⟩
    exact ⟨String.ofList rest, String.toList_injective (by simp [← whole])⟩
  · intro leads
    rcases leads with ⟨rest, rfl⟩
    exact ⟨rest.toList, String.toList_append.symm⟩

theorem hasSuffix_iff {value ending : String} :
    Text.hasSuffix value ending = true ↔ ∃ front, value = front ++ ending := by
  rw [Text.hasSuffix, List.isSuffixOf_iff_suffix]
  constructor
  · intro ends
    rcases ends with ⟨front, whole⟩
    exact ⟨String.ofList front, String.toList_injective (by simp [← whole])⟩
  · intro ends
    rcases ends with ⟨front, rfl⟩
    exact ⟨front.toList, String.toList_append.symm⟩

theorem unit_eq_of_cutLast {segment name : List Char}
    (starts : Text.hasPrefix unit "actions.runner." = true)
    (ends : Text.hasSuffix unit ".service" = true)
    (found : Text.cutLast '.' (Text.trimSuffix (Text.trimPrefix unit "actions.runner.")
      ".service").toList = some (segment, name)) :
    unit = "actions.runner." ++ String.ofList (segment ++ '.' :: name) ++ ".service" := by
  rcases hasPrefix_iff.mp starts with ⟨rest, rfl⟩
  rw [Text.trimPrefix_append] at found
  by_cases ends' : Text.hasSuffix rest ".service" = true
  · rcases hasSuffix_iff.mp ends' with ⟨middle, rfl⟩
    rw [Text.trimSuffix_append] at found
    rw [← (Text.eq_of_cutLast found).1, String.ofList_toList, String.append_assoc]
  · -- the two fixed parts share their dot, and nothing is left that has one
    rw [Text.trimSuffix, if_neg ends'] at found
    have dot : '.' ∈ rest.toList := by
      rw [(Text.eq_of_cutLast found).1]
      simp
    rw [Text.hasSuffix, List.isSuffixOf_iff_suffix] at ends ends'
    have tail : rest.toList <:+ ("actions.runner." ++ rest).toList :=
      ⟨"actions.runner.".toList, String.toList_append.symm⟩
    have inside := (List.suffix_or_suffix_of_suffix ends tail).resolve_left ends'
    have split : ".service".toList = '.' :: "service".toList := by decide
    rw [split, List.suffix_cons_iff, ← split] at inside
    rcases inside with same | inside
    · exact absurd (same ▸ List.suffix_rfl) ends'
    · exact absurd (inside.subset dot) (by decide)

theorem parseRunnerUnit_eq (starts : Text.hasPrefix unit "actions.runner." = true)
    (ends : Text.hasSuffix unit ".service" = true) : (parseRunnerUnit unit).2 =
      match Text.cutLast '.' (Text.trimSuffix (Text.trimPrefix unit "actions.runner.")
        ".service").toList with
      | none => ""
      | some (_, name) => String.ofList name := by
  unfold parseRunnerUnit
  simp only [starts, ends, Bool.not_true, Bool.or_self, Bool.false_eq_true, if_false]
  generalize (Text.trimSuffix (Text.trimPrefix unit "actions.runner.") ".service").toList = rest
  cases Text.cutLast '.' rest with
  | none => rfl
  | some pieces =>
    dsimp only
    cases Text.cut '-' pieces.1 <;> rfl

theorem regular_of_restored (starts : Text.hasPrefix unit "actions.runner." = true)
    (ends : Text.hasSuffix unit ".service" = true) (restored : restoredUnit unit = unit) :
    Regular unit := by
  have parsed := parseRunnerUnit_eq starts ends
  cases found : Text.cutLast '.' (Text.trimSuffix (Text.trimPrefix unit "actions.runner.")
    ".service").toList with
  | none =>
    rw [found] at parsed
    exact absurd restored (restoredUnit_ne_of_unnamed parsed)
  | some pieces =>
    rcases pieces with ⟨segment, name⟩
    have whole := unit_eq_of_cutLast starts ends found
    have noDot := (Text.eq_of_cutLast found).2
    rw [found] at parsed
    by_cases named : name = []
    · rw [named] at parsed
      exact absurd restored (restoredUnit_ne_of_unnamed parsed)
    · rw [whole, restoredUnit_parts noDot named] at restored
      split at restored
      · have lengths := congrArg (fun text => text.toList.length) restored
        simp at lengths
        omega
      · rename_i present
        have chars := congrArg String.toList restored
        simp only [String.toList_append, String.toList_ofList, List.append_cancel_left_eq,
          List.append_cancel_right_eq] at chars
        exact ⟨segment, name, whole, noDot, named, chars ▸ present,
          restoredSegment_eq_self.mp chars⟩

theorem restored_of_regular (regular : Regular unit) : restoredUnit unit = unit := by
  rcases regular with ⟨segment, name, rfl, noDot, named, present, flat⟩
  rw [restoredUnit_parts noDot named, restoredSegment_eq_self.mpr flat, if_neg present]

end

theorem firstUnitField_unit {line : String} (found : firstUnitField line ≠ "") :
    Text.hasPrefix (firstUnitField line) "actions.runner." = true ∧
      Text.hasSuffix (firstUnitField line) ".service" = true := by
  unfold firstUnitField at found ⊢
  dsimp only at found ⊢
  generalize String.ofList (unmarkedField line) = candidate at found ⊢
  by_cases runner : (Text.hasPrefix candidate "actions.runner." &&
    Text.hasSuffix candidate ".service") = true
  · rw [if_pos runner]
    rwa [Bool.and_eq_true] at runner
  · rw [if_neg runner] at found
    exact absurd rfl found

theorem mem_runnersOf_iff {repos : List String} {output : String} {ref : RunnerRef} :
    ref ∈ runnersOf repos output ↔
      (∃ unit, unit ≠ "" ∧ (∃ line ∈ output.toList.splitOn '\n',
          firstUnitField (String.ofList line) = unit) ∧ RunnerRef.ofUnit unit = ref) ∧
        ((repoAllowSet repos).isEmpty || runnerAllowed ref (repoAllowSet repos)) = true := by
  simp only [runnersOf, List.mem_mergeSort, List.mem_eraseDups, List.mem_filter, List.mem_map,
    decide_eq_true_eq]
  apply and_congr_left
  intro _
  apply exists_congr
  intro unit
  rw [and_assoc, and_left_comm]

theorem ofUnit_unit (unit : String) : (RunnerRef.ofUnit unit).unit = unit := rfl

theorem runnersOf_unit {repos : List String} {output : String} {ref : RunnerRef}
    (discovered : ref ∈ runnersOf repos output) :
    ref = RunnerRef.ofUnit ref.unit ∧ Text.hasPrefix ref.unit "actions.runner." = true ∧
      Text.hasSuffix ref.unit ".service" = true := by
  rcases (mem_runnersOf_iff.mp discovered).1 with ⟨unit, present, ⟨line, _, found⟩, parsed⟩
  have runner := firstUnitField_unit (found ▸ present)
  rw [found] at runner
  rw [← parsed, ofUnit_unit]
  exact ⟨rfl, runner⟩

/-- Each discovered runner is stopped and restored under its own unit, and no two of them
under the same, just if all their units are regular. -/
theorem discovered_units_are_restored_iff (repos : List String) (output : String) :
    (∀ ref ∈ runnersOf repos output, runnerUnitName ref.untouched = ref.unit ∧
      ∀ other ∈ runnersOf repos output, other.unit ≠ ref.unit →
        runnerUnitName other.untouched ≠ runnerUnitName ref.untouched) ↔
      ∀ ref ∈ runnersOf repos output, Regular ref.unit := by
  constructor
  · intro restored ref discovered
    rcases runnersOf_unit discovered with ⟨parsed, starts, ends⟩
    apply regular_of_restored starts ends
    rw [restoredUnit, ← parsed]
    exact (restored ref discovered).1
  · intro regular
    have restored : ∀ ref ∈ runnersOf repos output, runnerUnitName ref.untouched = ref.unit := by
      intro ref discovered
      have same := restored_of_regular (regular ref discovered)
      rwa [restoredUnit, ← (runnersOf_unit discovered).1] at same
    intro ref discovered
    apply And.intro (restored ref discovered)
    intro other discoveredToo different
    rwa [restored ref discovered, restored other discoveredToo]

/-- A unit without a dot inside, and two units that are restored as one. -/
theorem units_are_not_restored :
    (∃ ref ∈ runnersOf [] "actions.runner.solo.service loaded",
      runnerUnitName ref.untouched ≠ ref.unit) ∧
    ∃ ref ∈ runnersOf [] "actions.runner.a-b.c.service\nactions.runner.a/b.c.service",
      ∃ other ∈ runnersOf [] "actions.runner.a-b.c.service\nactions.runner.a/b.c.service",
        other.unit ≠ ref.unit ∧
          runnerUnitName other.untouched = runnerUnitName ref.untouched := by
  simp only [mem_runnersOf_iff]
  apply And.intro
  · exact ⟨RunnerRef.ofUnit "actions.runner.solo.service",
      ⟨⟨_, by decide +kernel, by decide +kernel, rfl⟩, by decide +kernel⟩, by decide +kernel⟩
  · exact ⟨RunnerRef.ofUnit "actions.runner.a-b.c.service",
      ⟨⟨_, by decide +kernel, by decide +kernel, rfl⟩, by decide +kernel⟩,
      RunnerRef.ofUnit "actions.runner.a/b.c.service",
      ⟨⟨_, by decide +kernel, by decide +kernel, rfl⟩, by decide +kernel⟩,
      by decide +kernel, by decide +kernel⟩

end Civm.Maintenance
