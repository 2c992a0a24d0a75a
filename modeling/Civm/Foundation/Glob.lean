import Mathlib.Data.List.Infix
import Mathlib.Data.List.TakeDrop

/-! # Patterns whose only special character is the star

A pattern is the list of the texts between its stars. What a star may cover is
a parameter: nothing with a separator in `filepath.Match`, everything in a
`case` of the shell. -/

namespace Civm.Glob

/-- The texts between the stars of a pattern. -/
def ofString (pattern : String) : List (List Char) :=
  pattern.toList.splitOn '*'

/-- Whether a whole text matches, with stars covering the characters `covers`. -/
def accepts (covers : Char → Bool) : List (List Char) → List Char → Bool
  | [], _ => false
  | [last], text => text = last
  | first :: rest, text =>
    first.isPrefixOf text &&
      let after := text.drop first.length
      (List.range (after.length + 1)).any fun count =>
        (after.take count).all covers && accepts covers rest (after.drop count)

theorem accepts_singleton {covers : Char → Bool} {last text : List Char} :
    accepts covers [last] text = true ↔ text = last :=
  decide_eq_true_iff

theorem accepts_cons {covers : Char → Bool} {first next text : List Char}
    {rest : List (List Char)} :
    accepts covers (first :: next :: rest) text = true ↔
      ∃ covered remaining, text = first ++ (covered ++ remaining) ∧
        (∀ char ∈ covered, covers char = true) ∧
        accepts covers (next :: rest) remaining = true := by
  simp only [accepts, Bool.and_eq_true, List.isPrefixOf_iff_prefix, List.any_eq_true,
    List.mem_range, List.all_eq_true]
  constructor
  · rintro ⟨⟨after, rfl⟩, count, _, covered, remaining⟩
    rw [List.drop_left] at covered remaining
    exact ⟨after.take count, after.drop count, by rw [List.take_append_drop], covered, remaining⟩
  · rintro ⟨covered, remaining, rfl, allowed, accepted⟩
    refine ⟨⟨_, rfl⟩, covered.length, ?_, ?_, ?_⟩
    · rw [List.drop_left, List.length_append]
      omega
    · rwa [List.drop_left, List.take_left]
    · rwa [List.drop_left, List.drop_left]

/-- `filepath.Match`: a star covers no separator. -/
def matchPath (pattern text : String) : Bool :=
  accepts (· ≠ '/') (ofString pattern) text.toList

/-- A pattern of the shell's `case`: a star covers anything. -/
def matchCase (pattern : String) (text : List Char) : Bool :=
  accepts (fun _ => true) (ofString pattern) text

example : matchPath "/home/*/actions-runner*/_work" "/home/a/b/actions-runner/_work" = false := by
  decide

example : matchCase "/home/*/actions-runner*/_work" "/home/a/b/actions-runner/_work".toList = true := by
  decide

end Civm.Glob
