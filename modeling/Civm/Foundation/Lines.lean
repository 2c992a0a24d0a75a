import Mathlib.Data.List.DropRight
import Civm.Foundation.Words

/-! # Lines of a text

The pieces of a text between separators, and its lines. Texts that end in a newline each
are the lines of their concatenation. Blanks around a text or around its lines do not
matter once all lines are trimmed. -/

namespace Civm.Text

section Pieces

variable {α : Type} [DecidableEq α] {separator : α} {piece value : List α}

theorem splitOn_append_cons (separator : α) (before after : List α) :
    (before ++ separator :: after).splitOn separator =
      before.splitOn separator ++ after.splitOn separator := by
  simp only [List.splitOn_eq_splitOnP]
  exact List.splitOnP_append_cons _ _ (beq_self_eq_true _)

theorem splitOn_of_not_mem (absent : separator ∉ piece) : piece.splitOn separator = [piece] := by
  rw [List.splitOn_eq_splitOnP]
  refine List.splitOnP_eq_singleton fun other member => ?_
  have different : other ≠ separator := fun same => absent (same ▸ member)
  simpa using different

end Pieces

/-! ## Lines -/

variable {blank : Char → Bool} {char : Char} {value before after : List Char}

theorem splitOn_newline (before after : List Char) :
    (before ++ '\n' :: after).splitOn '\n' = before.splitOn '\n' ++ after.splitOn '\n' :=
  splitOn_append_cons '\n' before after

theorem splitOn_line (oneLine : '\n' ∉ value) : value.splitOn '\n' = [value] :=
  splitOn_of_not_mem oneLine

theorem splitOn_texts {texts : List (List Char)} (oneLine : ∀ text ∈ texts, '\n' ∉ text) :
    (texts.flatMap (· ++ ['\n'])).splitOn '\n' = texts ++ [[]] := by
  induction texts with
  | nil => rfl
  | cons text rest induction =>
    have others := induction fun other member => oneLine other (List.mem_cons_of_mem _ member)
    rw [List.flatMap_cons, List.append_assoc, List.singleton_append, splitOn_newline,
      splitOn_line (oneLine text List.mem_cons_self), others, List.singleton_append,
      List.cons_append]

theorem oneLine_of_mem_splitOn {line : List Char} (member : line ∈ value.splitOn '\n') :
    '\n' ∉ line := by
  induction value generalizing line with
  | nil => simp_all
  | cons char rest induction =>
    rw [List.splitOn_cons_eq_if_modifyHead] at member
    split at member
    · rcases List.mem_cons.mp member with rfl | member
      · exact List.not_mem_nil
      · exact induction member
    · rename_i different
      cases pieces : rest.splitOn '\n' with
      | nil => exact absurd pieces (List.splitOn_ne_nil _ _)
      | cons first others =>
        rw [pieces] at member induction
        rcases List.mem_cons.mp member with rfl | member
        · intro newline
          rcases List.mem_cons.mp newline with rfl | newline
          · exact different (beq_self_eq_true _)
          · exact induction List.mem_cons_self newline
        · exact induction (List.mem_cons_of_mem _ member)

theorem infix_intercalate {α : Type} (separator piece : List α) (earlier later : List (List α)) :
    piece <:+: separator.intercalate (earlier ++ piece :: later) := by
  induction earlier with
  | nil =>
    cases later with
    | nil => simp
    | cons next later => exact ⟨[], separator ++ separator.intercalate (next :: later), by simp⟩
  | cons first earlier induction =>
    cases rest : earlier ++ piece :: later with
    | nil => simp at rest
    | cons next others =>
      rw [List.cons_append, rest, List.intercalate_cons_cons]
      rw [rest] at induction
      exact induction.trans (List.suffix_append _ _).isInfix

theorem infix_of_mem_splitOn {separator : Char} {piece : List Char}
    (member : piece ∈ value.splitOn separator) : piece <:+: value := by
  rcases List.append_of_mem member with ⟨earlier, later, split⟩
  have joined : [separator].intercalate (value.splitOn separator) = value :=
    List.intercalate_splitOn separator
  rw [← joined, split]
  exact infix_intercalate _ _ _ _

theorem splitOn_intercalate_newline {lines : List (List Char)} (some : lines ≠ [])
    (oneLine : ∀ line ∈ lines, '\n' ∉ line) :
    (['\n'].intercalate lines ++ ['\n']).splitOn '\n' = lines ++ [[]] := by
  rw [splitOn_newline, List.splitOn_intercalate '\n' oneLine some]
  rfl

/-- A text without the blanks around it. -/
def trim (blank : Char → Bool) (value : List Char) : List Char :=
  (value.dropWhile blank).rdropWhile blank

def trimmedLines (blank : Char → Bool) (value : List Char) : List (List Char) :=
  ((value.splitOn '\n').map (trim blank)).filter (· ≠ [])

theorem trim_cons (white : blank char = true) (value : List Char) :
    trim blank (char :: value) = trim blank value := by
  rw [trim, List.dropWhile_cons_of_pos white, trim]

theorem trim_append (white : blank char = true) (value : List Char) :
    trim blank (value ++ [char]) = trim blank value := by
  unfold trim
  rw [List.dropWhile_append]
  split
  case isTrue nothing =>
    have nothing : value.dropWhile blank = [] := by simpa using nothing
    rw [List.dropWhile_cons_of_pos white, nothing, List.dropWhile_nil]
  case isFalse => exact List.rdropWhile_concat_pos _ _ _ white

theorem trimmedLines_nil : trimmedLines blank [] = [] := by
  simp [trimmedLines, trim]

theorem trimmedLines_newline (before after : List Char) :
    trimmedLines blank (before ++ '\n' :: after) =
      trimmedLines blank before ++ trimmedLines blank after := by
  simp [trimmedLines, splitOn_newline]

theorem trimmedLines_line (oneLine : '\n' ∉ value) :
    trimmedLines blank value = [trim blank value].filter (· ≠ []) := by
  rw [trimmedLines, splitOn_line oneLine, List.map_singleton]

theorem trimmedLines_cons (white : blank char = true) (value : List Char) :
    trimmedLines blank (char :: value) = trimmedLines blank value := by
  by_cases newline : char = '\n'
  · have split : trimmedLines blank ([] ++ '\n' :: value) = _ := trimmedLines_newline [] value
    rw [newline]
    rwa [trimmedLines_nil] at split
  -- the blank belongs to the first line
  have first line (oneLine : '\n' ∉ line) :
    trimmedLines blank (char :: line) = trimmedLines blank line := by
    rw [trimmedLines_line oneLine, trimmedLines_line (by simp [oneLine, Ne.symm newline]),
      trim_cons white]
  cases found : cut '\n' value with
  | none => exact first value (cut_eq_none.mp found)
  | some pieces =>
    rcases eq_of_cut found with ⟨rfl, oneLine⟩
    rw [← List.cons_append, trimmedLines_newline, trimmedLines_newline, first _ oneLine]

theorem trimmedLines_append (white : blank char = true) (value : List Char) :
    trimmedLines blank (value ++ [char]) = trimmedLines blank value := by
  by_cases newline : char = '\n'
  · rw [newline, trimmedLines_newline, trimmedLines_nil, List.append_nil]
  -- the blank belongs to the last line
  have last line (oneLine : '\n' ∉ line) :
    trimmedLines blank (line ++ [char]) = trimmedLines blank line := by
    rw [trimmedLines_line oneLine, trimmedLines_line (by simp [oneLine, Ne.symm newline]),
      trim_append white]
  cases found : cutLast '\n' value with
  | none => exact last value (cutLast_eq_none.mp found)
  | some pieces =>
    rcases eq_of_cutLast found with ⟨rfl, oneLine⟩
    rw [List.append_assoc, List.cons_append, trimmedLines_newline, trimmedLines_newline,
      last _ oneLine]

theorem trimmedLines_dropWhile (value : List Char) :
    trimmedLines blank (value.dropWhile blank) = trimmedLines blank value := by
  induction value with
  | nil => rfl
  | cons char rest induction =>
    by_cases white : blank char = true
    · rw [List.dropWhile_cons_of_pos white, trimmedLines_cons white, induction]
    · rw [List.dropWhile_cons_of_neg white]

theorem trimmedLines_rdropWhile (value : List Char) :
    trimmedLines blank (value.rdropWhile blank) = trimmedLines blank value := by
  induction value using List.reverseRecOn with
  | nil => rfl
  | append_singleton rest char induction =>
    by_cases white : blank char = true
    · rw [List.rdropWhile_concat_pos _ _ _ white, trimmedLines_append white, induction]
    · rw [List.rdropWhile_concat_neg _ _ _ white]

theorem trimmedLines_trim (value : List Char) :
    trimmedLines blank (trim blank value) = trimmedLines blank value := by
  rw [trim, trimmedLines_rdropWhile, trimmedLines_dropWhile]

theorem trimmedLines_texts {texts : List (List Char)} (oneLine : ∀ text ∈ texts, '\n' ∉ text) :
    trimmedLines blank (texts.flatMap (· ++ ['\n'])) =
      (texts.map (trim blank)).filter (· ≠ []) := by
  rw [trimmedLines, splitOn_texts oneLine]
  simp [trim]

end Civm.Text
