import Mathlib.Data.List.Sort
import Mathlib.Data.List.TakeWhile

/-! # Taking the first of a sorted list

Insertion sort keeps the order of entries that compare equal: it commutes with filters,
and sorting an append is a merge that prefers the left. From a sorted list the first
entries are taken until their weight reaches a target. -/

namespace Civm

section Stable

variable (relation : α → α → Prop) [DecidableRel relation] [IsTrans α relation]
variable {keep : α → Bool}

omit [IsTrans α relation] in
theorem orderedInsert_of_first {entry : α} {list : List α}
    (first : ∀ other ∈ list, relation entry other) :
    list.orderedInsert relation entry = entry :: list := by
  cases list with
  | nil => rfl
  | cons head rest => exact List.orderedInsert_cons_of_le relation rest (first head (by simp))

theorem filter_orderedInsert {entry : α} {list : List α} (sorted : list.Pairwise relation) :
    (list.orderedInsert relation entry).filter keep =
      if keep entry then (list.filter keep).orderedInsert relation entry
      else list.filter keep := by
  induction list with
  | nil => simp [List.filter_cons]
  | cons head rest induction =>
    rcases List.pairwise_cons.mp sorted with ⟨least, sorted⟩
    by_cases before : relation entry head
    · have first : ∀ other ∈ (head :: rest).filter keep, relation entry other := by
        intro other member
        rcases List.mem_cons.mp (List.mem_filter.mp member).1 with rfl | later
        · exact before
        · exact IsTrans.trans _ _ _ before (least other later)
      rw [List.orderedInsert_cons_of_le relation rest before, List.filter_cons,
        orderedInsert_of_first relation first]
    · rw [List.orderedInsert_of_not_le relation rest before]
      simp only [List.filter_cons, induction sorted]
      by_cases kept : keep head
      · simp only [kept, if_true, List.orderedInsert_cons, if_neg before]
        split <;> rfl
      · simp [kept]

variable [Std.Total relation]

theorem filter_insertionSort (list : List α) :
    (list.insertionSort relation).filter keep = (list.filter keep).insertionSort relation := by
  induction list with
  | nil => rfl
  | cons head rest induction =>
    rw [List.insertionSort_cons,
      filter_orderedInsert relation (List.pairwise_insertionSort relation rest), induction,
      List.filter_cons]
    split <;> rfl

omit [IsTrans α relation] [Std.Total relation] in
theorem orderedInsert_append {entry : α} {before after : List α}
    (later : ∀ other ∈ before, ¬relation entry other)
    (earlier : ∀ other ∈ after, relation entry other) :
    (before ++ after).orderedInsert relation entry = before ++ entry :: after := by
  induction before with
  | nil => exact orderedInsert_of_first relation earlier
  | cons head rest induction =>
    rw [List.forall_mem_cons] at later
    rw [List.cons_append, List.orderedInsert_of_not_le relation _ later.1, induction later.2,
      List.cons_append]

/-- Both sorts keep the order of entries that compare equal. -/
theorem mergeSort_eq_insertionSort (list : List α) :
    (list.mergeSort fun first second => relation first second) =
      list.insertionSort relation := by
  have trans (first second third : α) (before : decide (relation first second) = true)
    (after : decide (relation second third) = true) : decide (relation first third) = true :=
    decide_eq_true (IsTrans.trans _ _ _ (of_decide_eq_true before) (of_decide_eq_true after))
  have total (first second : α) :
    (decide (relation first second) || decide (relation second first)) = true := by
    simpa using Std.Total.total first second
  induction list with
  | nil => simp
  | cons head rest induction =>
    rcases List.mergeSort_cons trans total head rest with ⟨before, after, whole, split, less⟩
    have sorted := List.pairwise_mergeSort trans total (head :: rest)
    rw [whole, List.pairwise_append, List.pairwise_cons] at sorted
    rw [whole, List.insertionSort_cons, ← induction, split, orderedInsert_append relation]
    · intro other member
      simpa using less other member
    · intro other member
      exact of_decide_eq_true (sorted.2.1.1 other member)

end Stable

end Civm
