import Mathlib.Data.List.Infix

/-! # Replacing all occurrences

`replaceAll` puts a mark in the place of every occurrence of a word, from left to right.
What is between the marks stood in the text and has no occurrence of the word. If the mark
has delimiters of its own, nothing new can be read across it. -/

namespace Civm

variable {α : Type}

section Replacing

variable [DecidableEq α]

/-- The text after the given number of elements, with marks. -/
def replaceFrom (old new : List α) : Nat → List α → List α
  | _, [] => []
  | skip + 1, _ :: rest => replaceFrom old new skip rest
  | 0, first :: rest =>
    if old.isPrefixOf (first :: rest) then new ++ replaceFrom old new (old.length - 1) rest
    else first :: replaceFrom old new 0 rest

/-- `bytes.ReplaceAll` of a word that is not empty. -/
def replaceAll (text old new : List α) : List α := replaceFrom old new 0 text

/-- What stands between the occurrences. -/
def gaps (old : List α) : Nat → List α → List (List α)
  | _, [] => [[]]
  | skip + 1, _ :: rest => gaps old skip rest
  | 0, first :: rest =>
    if old.isPrefixOf (first :: rest) then [] :: gaps old (old.length - 1) rest
    else (gaps old 0 rest).modifyHead (first :: ·)

variable {old new text gap : List α} {skip : Nat}

theorem exists_gaps (old : List α) (skip : Nat) (text : List α) :
    ∃ gap others, gaps old skip text = gap :: others := by
  induction text generalizing skip with
  | nil => cases skip <;> exact ⟨[], [], rfl⟩
  | cons first rest induction =>
    cases skip with
    | succ skip => exact induction skip
    | zero =>
      rw [gaps]
      split
      · exact ⟨_, _, rfl⟩
      · rcases induction 0 with ⟨gap, others, equal⟩
        rw [equal]
        exact ⟨_, _, rfl⟩

theorem replaceFrom_eq_intercalate (old new : List α) (skip : Nat) (text : List α) :
    replaceFrom old new skip text = new.intercalate (gaps old skip text) := by
  induction text generalizing skip with
  | nil => cases skip <;> simp [replaceFrom, gaps]
  | cons first rest induction =>
    cases skip with
    | succ skip => exact induction skip
    | zero =>
      rw [replaceFrom, gaps]
      split
      · rcases exists_gaps old (old.length - 1) rest with ⟨gap, others, equal⟩
        rw [induction, equal, List.intercalate_cons_cons]
        rfl
      · rcases exists_gaps old 0 rest with ⟨gap, others, equal⟩
        rw [induction, equal]
        cases others with
        | nil => simp
        | cons next others => simp [List.intercalate_cons_cons]

theorem gaps_prefix {others : List (List α)} (equal : gaps old skip text = gap :: others) :
    gap <+: text.drop skip := by
  induction text generalizing skip gap others with
  | nil =>
    cases skip <;> cases equal <;> exact List.nil_prefix
  | cons first rest induction =>
    cases skip with
    | succ skip => exact induction equal
    | zero =>
      rw [gaps] at equal
      split at equal
      · cases equal
        exact List.nil_prefix
      · rcases exists_gaps old 0 rest with ⟨next, others, following⟩
        rw [following] at equal
        cases equal
        exact List.cons_prefix_cons.mpr ⟨rfl, induction following⟩

theorem infix_of_mem_gaps (member : gap ∈ gaps old skip text) : gap <:+: text := by
  induction text generalizing skip gap with
  | nil =>
    cases skip <;> cases List.mem_singleton.mp member <;> exact List.nil_infix
  | cons first rest induction =>
    cases skip with
    | succ skip => exact (induction member).trans (List.suffix_cons _ _).isInfix
    | zero =>
      rw [gaps] at member
      split at member
      · rcases List.mem_cons.mp member with rfl | later
        · exact List.nil_infix
        · exact (induction later).trans (List.suffix_cons _ _).isInfix
      · rcases exists_gaps old 0 rest with ⟨next, others, following⟩
        rw [following] at member
        rcases List.mem_cons.mp member with rfl | later
        · exact (List.cons_prefix_cons.mpr ⟨rfl, gaps_prefix following⟩).isInfix
        · have among : gap ∈ gaps old 0 rest := following ▸ List.mem_cons_of_mem _ later
          exact (induction among).trans (List.suffix_cons _ _).isInfix

theorem not_infix_of_mem_gaps (nonempty : old ≠ []) (member : gap ∈ gaps old skip text) :
    ¬old <:+: gap := by
  induction text generalizing skip gap with
  | nil =>
    intro occurs
    cases skip <;> cases List.mem_singleton.mp member <;>
      exact nonempty (List.infix_nil.mp occurs)
  | cons first rest induction =>
    cases skip with
    | succ skip => exact induction member
    | zero =>
      rw [gaps] at member
      split at member
      · rcases List.mem_cons.mp member with rfl | later
        · exact fun occurs => nonempty (List.infix_nil.mp occurs)
        · exact induction later
      · rename_i absent
        rcases exists_gaps old 0 rest with ⟨next, others, following⟩
        have among : ∀ gap ∈ next :: others, gap ∈ gaps old 0 rest := following ▸ fun _ => id
        rw [following] at member
        rcases List.mem_cons.mp member with rfl | later
        · intro occurs
          rcases List.infix_cons_iff.mp occurs with leads | inside
          · have starts := leads.trans
              (List.cons_prefix_cons.mpr ⟨rfl, gaps_prefix following⟩)
            exact absent (List.isPrefixOf_iff_prefix.mpr starts)
          · exact induction (among next List.mem_cons_self) inside
        · exact induction (among gap (List.mem_cons_of_mem _ later))

end Replacing

/-! ## Delimiters -/

section Delimiters

variable {inside : α → Prop} {word before after : List α} {mark left right : α}

/-- A word does not reach across a character that no word has. -/
theorem infix_of_separated (within : ∀ char ∈ word, inside char) (outside : ¬inside mark)
    (occurs : word <:+: before ++ mark :: after) : word <:+: before ∨ word <:+: after := by
  rcases occurs with ⟨front, back, split⟩
  rcases List.append_eq_append_iff.mp split with ⟨rest, equal, _⟩ | ⟨rest, equal, tail⟩
  · exact .inl ⟨front, rest, equal.symm⟩
  · cases rest with
    | nil => exact .inl ⟨front, [], by simpa using equal⟩
    | cons other rest =>
      obtain ⟨rfl, rfl⟩ := List.cons.inj tail
      rcases List.append_eq_append_iff.mp equal with ⟨middle, _, reaches⟩ | ⟨middle, _, reaches⟩
      · exact absurd (within mark (reaches ▸ by simp)) outside
      · cases middle with
        | nil => exact absurd (within mark (by rw [← List.nil_append word, ← reaches]; simp)) outside
        | cons other middle =>
          obtain ⟨rfl, rfl⟩ := List.cons.inj reaches
          exact .inr ⟨middle, back, rfl⟩

/-- A word in pieces that are joined by a delimited mark is in the mark or in a piece. -/
theorem infix_of_marked {label : List α} {pieces : List (List α)}
    (within : ∀ char ∈ word, inside char) (opens : ¬inside left) (closes : ¬inside right)
    (occurs : word <:+: (left :: label ++ [right]).intercalate pieces) :
    word <:+: label ∨ ∃ piece ∈ pieces, word <:+: piece := by
  induction pieces with
  | nil =>
    rw [List.intercalate_nil, List.infix_nil] at occurs
    subst occurs
    exact .inl List.nil_infix
  | cons piece pieces induction =>
    cases pieces with
    | nil =>
      rw [List.intercalate_singleton] at occurs
      exact .inr ⟨piece, List.mem_singleton_self _, occurs⟩
    | cons next pieces =>
      rw [List.intercalate_cons_cons, List.append_assoc, List.cons_append, List.cons_append,
        List.append_assoc, List.singleton_append] at occurs
      rcases infix_of_separated within opens occurs with first | occurs
      · exact .inr ⟨piece, List.mem_cons_self, first⟩
      · rcases infix_of_separated within closes occurs with labelled | later
        · exact .inl labelled
        · rcases induction later with labelled | ⟨piece, member, found⟩
          · exact .inl labelled
          · exact .inr ⟨piece, List.mem_cons_of_mem _ member, found⟩

variable [DecidableEq α] {text old : List α} {label : List α}

/-- Replacing makes no word appear. -/
theorem infix_of_replaceAll (within : ∀ char ∈ word, inside char) (opens : ¬inside left)
    (closes : ¬inside right) (occurs : word <:+: replaceAll text old (left :: label ++ [right])) :
    word <:+: label ∨ word <:+: text := by
  rw [replaceAll, replaceFrom_eq_intercalate] at occurs
  rcases infix_of_marked within opens closes occurs with labelled | ⟨gap, member, found⟩
  · exact .inl labelled
  · exact .inr (found.trans (infix_of_mem_gaps member))

/-- Replacing makes the replaced word disappear. -/
theorem infix_label_of_replaceAll (within : ∀ char ∈ old, inside char) (opens : ¬inside left)
    (closes : ¬inside right) (nonempty : old ≠ [])
    (occurs : old <:+: replaceAll text old (left :: label ++ [right])) : old <:+: label := by
  rw [replaceAll, replaceFrom_eq_intercalate] at occurs
  rcases infix_of_marked within opens closes occurs with labelled | ⟨gap, member, found⟩
  · exact labelled
  · exact absurd found (not_infix_of_mem_gaps nonempty member)

end Delimiters

end Civm
