import Mathlib.Data.List.DropRight
import Civm.Foundation.Text

/-! # Pieces of strings

How the functions of `Text` take apart what was put together: separators that
occur only once, prefixes and suffixes, and words with white space between. -/

namespace Civm.Text

/-! ## Separators -/

section

variable {separator : Char} {before after value : List Char}

theorem cut_append (absent : separator ∉ before) :
    cut separator (before ++ separator :: after) = some (before, after) := by
  induction before with
  | nil => simp [cut]
  | cons char rest induction =>
    rw [List.mem_cons, not_or] at absent
    simp [cut, Ne.symm absent.1, induction absent.2]

theorem cut_eq_none : cut separator value = none ↔ separator ∉ value := by
  induction value with
  | nil => simp [cut]
  | cons char rest induction =>
    by_cases same : char = separator
    · simp [cut, same]
    · simp [cut, same, induction, Ne.symm same]

theorem eq_of_cut (found : cut separator value = some (before, after)) :
    value = before ++ separator :: after ∧ separator ∉ before := by
  induction value generalizing before with
  | nil => cases found
  | cons char rest induction =>
    by_cases same : char = separator
    · simp only [cut, same, if_true, Option.some.injEq, Prod.mk.injEq] at found
      rcases found with ⟨rfl, rfl⟩
      simp [same]
    · rw [cut, if_neg same, Option.map_eq_some_iff] at found
      rcases found with ⟨⟨first, second⟩, found, equal⟩
      cases equal
      rcases induction found with ⟨rfl, absent⟩
      simp [absent, Ne.symm same]

theorem cutLast_append (absent : separator ∉ after) :
    cutLast separator (before ++ separator :: after) = some (before, after) := by
  have reversed := @cut_append separator after.reverse before.reverse (by simpa using absent)
  simp [cutLast, reversed]

theorem eq_of_cutLast (found : cutLast separator value = some (before, after)) :
    value = before ++ separator :: after ∧ separator ∉ after := by
  rw [cutLast, Option.map_eq_some_iff] at found
  rcases found with ⟨⟨first, second⟩, found, equal⟩
  cases equal
  rcases eq_of_cut found with ⟨reversed, absent⟩
  have value_eq := congrArg List.reverse reversed
  simp only [List.reverse_reverse, List.reverse_append, List.reverse_cons,
    List.append_assoc, List.singleton_append] at value_eq
  exact ⟨value_eq, by simpa using absent⟩

theorem cutLast_eq_none : cutLast separator value = none ↔ separator ∉ value := by
  simp [cutLast, cut_eq_none]

end

/-! ## Prefixes and suffixes -/

theorem hasPrefix_append (start rest : String) : hasPrefix (start ++ rest) start = true := by
  simp [hasPrefix, List.isPrefixOf_iff_prefix]

theorem trimPrefix_append (start rest : String) : trimPrefix (start ++ rest) start = rest := by
  rw [trimPrefix, if_pos (hasPrefix_append start rest), String.toList_append,
    List.drop_append_of_le_length (Nat.le_refl _), List.drop_length, List.nil_append,
    String.ofList_toList]

theorem hasSuffix_append (value ending : String) : hasSuffix (value ++ ending) ending = true := by
  simp [hasSuffix, List.isSuffixOf_iff_suffix]

theorem trimSuffix_append (value ending : String) : trimSuffix (value ++ ending) ending = value := by
  rw [trimSuffix, if_pos (hasSuffix_append value ending)]
  simp

/-! ## Words -/

section

variable {space : Char} {value word : List Char}

theorem fields_nil : fields [] = [] := by simp [fields, List.splitOnP_nil]

theorem fields_append_space (white : isSpace space = true) (value rest : List Char) :
    fields (value ++ space :: rest) = fields value ++ fields rest := by
  simp [fields, List.splitOnP_append_cons value rest white]

theorem fields_space (white : isSpace space = true) (rest : List Char) :
    fields (space :: rest) = fields rest := by
  have split := fields_append_space white [] rest
  rwa [fields_nil] at split

theorem fields_spaces {spaces : List Char} (white : ∀ char ∈ spaces, isSpace char = true) :
    fields spaces = [] := by
  induction spaces with
  | nil => exact fields_nil
  | cons char rest induction =>
    rw [fields_space (white char (by simp))]
    exact induction fun other member => white other (by simp [member])

theorem fields_append_spaces {spaces : List Char} (white : ∀ char ∈ spaces, isSpace char = true) :
    fields (value ++ spaces) = fields value := by
  cases spaces with
  | nil => rw [List.append_nil]
  | cons char rest =>
    have blank : fields rest = [] :=
      fields_spaces fun other member => white other (List.mem_cons_of_mem _ member)
    rw [fields_append_space (white char (by simp)), blank, List.append_nil]

theorem fields_word (solid : ∀ char ∈ word, isSpace char = false) (present : word ≠ []) :
    fields word = [word] := by
  simp [fields, List.splitOnP_eq_singleton solid, present]

theorem fields_word_append (solid : ∀ char ∈ word, isSpace char = false) (present : word ≠ [])
    (white : isSpace space = true) (rest : List Char) :
    fields (word ++ space :: rest) = word :: fields (space :: rest) := by
  rw [fields_append_space white, fields_word solid present, fields_space white,
    List.singleton_append]

theorem trimSpace_ofList (value : List Char) : trimSpace (String.ofList value) =
    String.ofList ((value.dropWhile isSpace).rdropWhile isSpace) := by
  rw [trimSpace, String.toList_ofList, List.rdropWhile]

theorem fields_rdropWhile (value : List Char) :
    fields (value.rdropWhile isSpace) = fields value := by
  have whole : value.rdropWhile isSpace ++ value.rtakeWhile isSpace = value := by
    rw [List.rdropWhile, List.rtakeWhile, ← List.reverse_append, List.takeWhile_append_dropWhile,
      List.reverse_reverse]
  conv_rhs => rw [← whole]
  refine (fields_append_spaces fun char member => ?_).symm
  exact List.mem_takeWhile_imp (List.mem_reverse.mp member)

theorem rdropWhile_append {value : List Char} {ends : Char → Bool} (before : List Char)
    (remains : value.rdropWhile ends ≠ []) :
    (before ++ value).rdropWhile ends = before ++ value.rdropWhile ends := by
  rw [List.rdropWhile] at remains ⊢
  have present : (List.dropWhile ends value.reverse).isEmpty = false := by
    simpa using remains
  rw [List.reverse_append, List.dropWhile_append, present]
  simp [List.rdropWhile]

end

/-! ## Occurrences -/

theorem contains_iff {value piece : String} :
    contains value piece = true ↔ piece.toList <:+: value.toList := by
  simp only [contains, List.any_eq_true, List.mem_tails, List.isPrefixOf_iff_prefix]
  constructor
  · rintro ⟨rest, suffix, leads⟩
    exact leads.isInfix.trans suffix.isInfix
  · intro occurs
    rcases List.infix_iff_prefix_suffix.mp occurs with ⟨rest, leads, suffix⟩
    exact ⟨rest, suffix, leads⟩

theorem infix_dropWhile {piece value : List Char} {blank : Char → Bool} (occurs : piece <:+: value)
    (starts : ∀ char, piece.head? = some char → blank char = false) :
    piece <:+: value.dropWhile blank := by
  cases piece with
  | nil => exact List.nil_infix
  | cons char rest =>
    rcases occurs with ⟨before, after, rfl⟩
    have stays : (char :: (rest ++ after)).dropWhile blank = char :: (rest ++ after) := by
      simp [starts char rfl]
    rw [List.append_assoc, List.dropWhile_append]
    split
    · simp only [List.cons_append, stays]
      exact ⟨[], after, rfl⟩
    · exact ⟨before.dropWhile blank, after, List.append_assoc _ _ _⟩

/-- What has no space at its ends is not touched by trimming around it. -/
theorem infix_trimSpace {piece value : String} (occurs : (trimSpace piece).toList <:+: value.toList) :
    (trimSpace piece).toList <:+: (trimSpace value).toList := by
  have head (chars : List Char) (char : Char) (first : (chars.dropWhile isSpace).head? = some char) :
    isSpace char = false := by
    have known := List.head?_dropWhile_not isSpace chars
    rw [first] at known
    exact known
  simp only [trimSpace, String.toList_ofList] at occurs ⊢
  rw [List.reverse_infix]
  refine infix_dropWhile ?_ fun char first => head _ char first
  rw [← List.reverse_infix, List.reverse_reverse]
  apply infix_dropWhile occurs
  intro char first
  apply head piece.toList
  have shorter : ((piece.toList.dropWhile isSpace).reverse.dropWhile isSpace).reverse <+:
    piece.toList.dropWhile isSpace := by
    rw [← List.reverse_suffix, List.reverse_reverse]
    exact List.dropWhile_suffix _
  rcases shorter with ⟨rest, whole⟩
  rw [← whole, List.head?_append, first]
  rfl

theorem trimSpace_infix (value : String) : (trimSpace value).toList <:+: value.toList := by
  simp only [trimSpace, String.toList_ofList]
  rw [← List.reverse_infix, List.reverse_reverse]
  apply (List.dropWhile_suffix _).isInfix.trans
  rw [List.reverse_infix]
  exact (List.dropWhile_suffix _).isInfix

end Civm.Text
