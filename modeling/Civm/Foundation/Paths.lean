import Civm.Foundation.Text

/-! # Cleaned paths

An absolute path that has been cleaned is a slash followed by its pieces, none
of which the cleaning would touch again. -/

namespace Civm.Text

/-- A piece that `filepath.Clean` leaves where it is. -/
structure Plain (piece : List Char) : Prop where
  nonempty : piece ≠ []
  notDot : piece ≠ ['.']
  notDotDot : piece ≠ ['.', '.']
  noSlash : '/' ∉ piece

theorem splitPath_ne_nil (path : List Char) : splitPath path ≠ [] := by
  cases path with
  | nil => nofun
  | cons char rest =>
    unfold splitPath
    split
    · nofun
    · split <;> nofun

theorem splitPath_append (first second : List Char) :
    splitPath (first ++ '/' :: second) = splitPath first ++ splitPath second := by
  induction first with
  | nil => rfl
  | cons char rest induction =>
    simp only [List.cons_append, splitPath, induction]
    split
    · rfl
    · cases pieces : splitPath rest with
      | nil => exact absurd pieces (splitPath_ne_nil rest)
      | cons piece others => rfl

theorem splitPath_of_noSlash {piece : List Char} (noSlash : '/' ∉ piece) :
    splitPath piece = [piece] := by
  induction piece with
  | nil => rfl
  | cons char rest induction =>
    have different : char ≠ '/' := fun equal => noSlash (equal ▸ List.mem_cons_self)
    have others := induction fun member => noSlash (List.mem_cons_of_mem _ member)
    simp [splitPath, different, others]

theorem noSlash_of_mem_splitPath {path piece : List Char} (member : piece ∈ splitPath path) :
    '/' ∉ piece := by
  induction path generalizing piece with
  | nil => simp_all [splitPath]
  | cons char rest induction =>
    unfold splitPath at member
    split at member
    · rcases List.mem_cons.mp member with rfl | member
      · exact List.not_mem_nil
      · exact induction member
    · rename_i different
      cases pieces : splitPath rest with
      | nil => exact absurd pieces (splitPath_ne_nil rest)
      | cons head others =>
        rw [pieces] at member induction
        rcases List.mem_cons.mp member with rfl | member
        · have clear := induction List.mem_cons_self
          simp [clear, Ne.symm different]
        · exact induction (List.mem_cons_of_mem _ member)

theorem joinPath_append {first second : List (List Char)} (above : first ≠ [])
    (below : second ≠ []) :
    joinPath (first ++ second) = joinPath first ++ '/' :: joinPath second := by
  induction first with
  | nil => exact absurd rfl above
  | cons piece others induction =>
    cases others with
    | nil =>
      cases second with
      | nil => exact absurd rfl below
      | cons next rest => rfl
    | cons next rest =>
      have tail := induction (List.cons_ne_nil _ _)
      simp only [List.cons_append] at tail
      simp [joinPath, tail]

theorem splitPath_joinPath {pieces : List (List Char)} (nonempty : pieces ≠ [])
    (noSlash : ∀ piece ∈ pieces, '/' ∉ piece) : splitPath (joinPath pieces) = pieces := by
  induction pieces with
  | nil => exact absurd rfl nonempty
  | cons piece others induction =>
    have clear := splitPath_of_noSlash (noSlash piece List.mem_cons_self)
    cases others with
    | nil => exact clear
    | cons next rest =>
      have tail := induction (List.cons_ne_nil _ _) fun other member =>
        noSlash other (List.mem_cons_of_mem _ member)
      rw [joinPath, splitPath_append, clear, tail]
      · rfl
      · nofun

/-! ## What cleaning keeps -/

theorem cleanPieces_append (rooted : Bool) (first second kept : List (List Char)) :
    cleanPieces rooted (first ++ second) kept =
      cleanPieces rooted second (cleanPieces rooted first kept) := by
  fun_induction cleanPieces rooted first kept <;> simp_all [cleanPieces]

theorem cleanPieces_of_plain {rooted : Bool} {pieces : List (List Char)}
    (plain : ∀ piece ∈ pieces, Plain piece) (kept : List (List Char)) :
    cleanPieces rooted pieces kept = pieces.reverse ++ kept := by
  induction pieces generalizing kept with
  | nil => rfl
  | cons piece others induction =>
    have here := plain piece List.mem_cons_self
    have tail := induction fun other member => plain other (List.mem_cons_of_mem _ member)
    simp [cleanPieces, here.nonempty, here.notDot, here.notDotDot, tail]

theorem mem_cleanPieces {rooted : Bool} {pieces kept : List (List Char)} {piece : List Char}
    (member : piece ∈ cleanPieces rooted pieces kept) :
    piece ∈ kept ∨ piece ∈ pieces ∧ piece ≠ [] := by
  fun_induction cleanPieces rooted pieces kept <;> grind

theorem head?_joinPath {piece : List Char} {others : List (List Char)} (nonempty : piece ≠ []) :
    (joinPath (piece :: others)).head? = piece.head? := by
  cases piece with
  | nil => exact absurd rfl nonempty
  | cons char rest => cases others <;> rfl

theorem plain_cleanPieces {pieces kept : List (List Char)}
    (noSlash : ∀ piece ∈ pieces, '/' ∉ piece) (plain : ∀ piece ∈ kept, Plain piece) :
    ∀ piece ∈ cleanPieces true pieces kept, Plain piece := by
  induction pieces generalizing kept with
  | nil => exact plain
  | cons piece others induction =>
    have rest := fun {kept} => @induction kept fun other member =>
      noSlash other (List.mem_cons_of_mem _ member)
    unfold cleanPieces
    split
    · exact rest plain
    · rename_i skipped
      split
      · cases kept with
        | nil => exact rest (List.forall_mem_nil _)
        | cons last kept =>
          have lastPlain := plain last List.mem_cons_self
          simp only [lastPlain.notDotDot, if_false]
          exact rest fun other member => plain other (List.mem_cons_of_mem _ member)
      · rename_i notDotDot
        have here : Plain piece :=
          ⟨fun empty => skipped (.inl empty), fun dot => skipped (.inr dot), notDotDot,
            noSlash piece List.mem_cons_self⟩
        exact rest (List.forall_mem_cons.mpr ⟨here, plain⟩)

/-- The characters of an absolute path with the given pieces. -/
def rootedChars (pieces : List (List Char)) : List Char := '/' :: joinPath pieces

theorem cleanChars_of_rooted {path : List Char} (rooted : path.head? = some '/') :
    cleanChars path = rootedChars (cleanPieces true (splitPath path) []).reverse := by
  simp [cleanChars, rooted, rootedChars]

theorem rootedChars_append {first second : List (List Char)} (above : first ≠ [])
    (below : second ≠ []) :
    rootedChars (first ++ second) = rootedChars first ++ '/' :: joinPath second := by
  simp [rootedChars, joinPath_append above below]

theorem splitPath_rootedChars {pieces : List (List Char)} (nonempty : pieces ≠ [])
    (plain : ∀ piece ∈ pieces, Plain piece) : splitPath (rootedChars pieces) = [] :: pieces := by
  have split := splitPath_joinPath nonempty fun piece member => (plain piece member).noSlash
  simp [rootedChars, splitPath, split]

theorem cleanPieces_splitPath_rootedChars {pieces : List (List Char)}
    (plain : ∀ piece ∈ pieces, Plain piece) :
    cleanPieces true (splitPath (rootedChars pieces)) [] = pieces.reverse := by
  by_cases empty : pieces = []
  · subst empty
    rfl
  · simp [splitPath_rootedChars empty plain, cleanPieces, cleanPieces_of_plain plain]

theorem cleanChars_rootedChars {pieces : List (List Char)}
    (plain : ∀ piece ∈ pieces, Plain piece) :
    cleanChars (rootedChars pieces) = rootedChars pieces := by
  rw [cleanChars_of_rooted rfl, cleanPieces_splitPath_rootedChars plain, List.reverse_reverse]

theorem getLast?_rootedChars (pieces : List (List Char)) {last : List Char}
    (nonempty : last ≠ []) : (rootedChars (pieces ++ [last])).getLast? = last.getLast? := by
  unfold rootedChars
  by_cases empty : pieces = []
  · subst empty
    cases last with
    | nil => exact absurd rfl nonempty
    | cons char rest => rfl
  · rw [joinPath_append empty (List.cons_ne_nil _ _), joinPath]
    cases last with
    | nil => exact absurd rfl nonempty
    | cons char rest => simp [List.getLast?_cons, List.getLast?_append]

theorem dropWhile_reverse_of_getLast? {path : List Char} {last : Char}
    (ends : path.getLast? = some last) (plain : last ≠ '/') :
    path.reverse.dropWhile (· = '/') = path.reverse := by
  rw [← List.head?_reverse] at ends
  cases reversed : path.reverse with
  | nil => rfl
  | cons char rest =>
    rw [reversed] at ends
    cases ends
    simp [plain]

theorem baseChars_rootedChars {pieces : List (List Char)} {last : List Char}
    (plain : ∀ piece ∈ pieces ++ [last], Plain piece) :
    baseChars (rootedChars (pieces ++ [last])) = last := by
  have lastPlain := plain last (by simp)
  have ends :
    (rootedChars (pieces ++ [last])).getLast? = some (last.getLast lastPlain.nonempty) := by
    rw [getLast?_rootedChars pieces lastPlain.nonempty, List.getLast?_eq_some_getLast]
  have notSlash : last.getLast lastPlain.nonempty ≠ '/' := fun slash =>
    lastPlain.noSlash (slash ▸ List.getLast_mem _)
  have nonempty : rootedChars (pieces ++ [last]) ≠ [] := List.cons_ne_nil _ _
  unfold baseChars
  rw [dropWhile_reverse_of_getLast? ends notSlash, List.reverse_reverse]
  simp [nonempty, splitPath_rootedChars _ plain, List.getLastD_eq_getLast?, List.getLast?_cons]

theorem length_cleanPieces_le (rooted : Bool) (pieces kept : List (List Char)) :
    (cleanPieces rooted pieces kept).length ≤ pieces.length + kept.length := by
  fun_induction cleanPieces rooted pieces kept <;> grind

theorem dropWhile_rootedChars {pieces : List (List Char)} {last : List Char}
    (noSlash : '/' ∉ last) :
    ((rootedChars (pieces ++ [last])).reverse.dropWhile (· ≠ '/')).reverse =
      if pieces = [] then ['/'] else rootedChars pieces ++ ['/'] := by
  have skipped : ∀ rest, (last.reverse ++ '/' :: rest).dropWhile (· ≠ '/') = '/' :: rest := by
    intro rest
    rw [List.dropWhile_append_of_pos]
    · simp
    · intro char member
      have other : char ≠ '/' := fun slash => noSlash (slash ▸ List.mem_reverse.mp member)
      simpa using other
  split
  · rename_i empty
    subst empty
    simpa [rootedChars, joinPath] using congrArg List.reverse (skipped [])
  · rename_i above
    rw [rootedChars_append above (List.cons_ne_nil _ _), joinPath]
    simpa using congrArg List.reverse (skipped (rootedChars pieces).reverse)

theorem dir_rootedChars {pieces : List (List Char)} {last : List Char}
    (plain : ∀ piece ∈ pieces, Plain piece) (noSlash : '/' ∉ last) :
    dir (String.ofList (rootedChars (pieces ++ [last]))) =
      String.ofList (rootedChars pieces) := by
  rw [dir, String.toList_ofList, dropWhile_rootedChars noSlash, clean, String.toList_ofList]
  by_cases empty : pieces = []
  · subst empty
    rfl
  · have split : splitPath (rootedChars pieces ++ ['/']) = splitPath (rootedChars pieces) ++ [[]] :=
      splitPath_append (rootedChars pieces) []
    rw [if_neg empty, cleanChars_of_rooted (by simp [rootedChars]), split, cleanPieces_append,
      cleanPieces_splitPath_rootedChars plain]
    simp [cleanPieces]

/-! ## Joining a name to an absolute path -/

theorem head?_joinPath_cleanPieces {rooted : Bool} {path : List Char}
    (kept : (cleanPieces rooted (splitPath path) []).reverse ≠ []) :
    ∃ char, (joinPath (cleanPieces rooted (splitPath path) []).reverse).head? = some char ∧
      char ≠ '/' := by
  cases pieces : (cleanPieces rooted (splitPath path) []).reverse with
  | nil => exact absurd pieces kept
  | cons piece others =>
    have member : piece ∈ cleanPieces rooted (splitPath path) [] :=
      List.mem_reverse.mp (pieces ▸ List.mem_cons_self)
    rcases mem_cleanPieces member with impossible | ⟨among, nonempty⟩
    · cases impossible
    · rw [head?_joinPath nonempty]
      cases piece with
      | nil => exact absurd rfl nonempty
      | cons char rest =>
        refine ⟨char, rfl, ?_⟩
        rintro rfl
        exact noSlash_of_mem_splitPath among List.mem_cons_self

theorem cleanChars_ne_nil (path : List Char) : cleanChars path ≠ [] := by
  unfold cleanChars
  dsimp only
  split
  · exact List.cons_ne_nil _ _
  · split
    · exact List.cons_ne_nil _ _
    · rename_i kept
      rcases head?_joinPath_cleanPieces kept with ⟨char, head, _⟩
      intro empty
      rw [empty] at head
      cases head

theorem isAbs_of_isAbs_clean {path : String} (absolute : isAbs (clean path) = true) :
    isAbs path = true := by
  by_contra relative
  have unrooted : ¬path.toList.head? = some '/' := fun rooted => relative (decide_eq_true rooted)
  have leads : (cleanChars path.toList).head? = some '/' := by
    simpa [isAbs, clean] using absolute
  simp only [cleanChars, unrooted, if_false] at leads
  split at leads
  · cases leads
  · rename_i kept
    rcases head?_joinPath_cleanPieces kept with ⟨char, head, notSlash⟩
    exact notSlash (Option.some.inj (head.symm.trans leads))

theorem plain_of_clean (path : List Char) :
    ∀ piece ∈ (cleanPieces true (splitPath path) []).reverse, Plain piece := by
  intro piece member
  exact plain_cleanPieces (fun _ => noSlash_of_mem_splitPath) (List.forall_mem_nil _) piece
    (List.mem_reverse.mp member)

theorem clean_clean {path : String} (absolute : isAbs path = true) :
    clean (clean path) = clean path := by
  have rooted : path.toList.head? = some '/' := of_decide_eq_true absolute
  simp only [clean, cleanChars_of_rooted rooted, String.toList_ofList,
    cleanChars_rootedChars (plain_of_clean _)]

theorem cleanChars_append_name {base name : List Char} (cleaned : cleanChars base = base)
    (notDot : base ≠ ['.']) (plain : Plain name) :
    cleanChars (base ++ '/' :: name) = (if base = ['/'] then [] else base) ++ '/' :: name := by
  have nonempty : base ≠ [] := cleaned ▸ cleanChars_ne_nil base
  have sameHead : (base ++ '/' :: name).head? = base.head? := by
    cases base with
    | nil => exact absurd rfl nonempty
    | cons char rest => rfl
  have pieces : ∀ rooted, (cleanPieces rooted (splitPath (base ++ '/' :: name)) []).reverse =
    (cleanPieces rooted (splitPath base) []).reverse ++ [name] := by
    intro rooted
    rw [splitPath_append, splitPath_of_noSlash plain.noSlash, cleanPieces_append]
    simp [cleanPieces, plain.nonempty, plain.notDot, plain.notDotDot]
  by_cases rooted : base.head? = some '/'
  · rw [cleanChars_of_rooted (sameHead.trans rooted), pieces]
    rw [cleanChars_of_rooted rooted] at cleaned
    by_cases above : (cleanPieces true (splitPath base) []).reverse = []
    · rw [above] at cleaned ⊢
      rw [← cleaned]
      rfl
    · have longer : base ≠ ['/'] := by
        intro root
        rcases head?_joinPath_cleanPieces above with ⟨char, head, _⟩
        rw [root, rootedChars] at cleaned
        rw [root, (List.cons.inj cleaned).2] at head
        cases head
      rw [rootedChars_append above (List.cons_ne_nil _ _), cleaned, if_neg longer]
      rfl
  · have relative : base ≠ ['/'] := fun root => rooted (by rw [root]; rfl)
    simp only [cleanChars, sameHead, rooted, pieces] at cleaned ⊢
    by_cases above : (cleanPieces false (splitPath base) []).reverse = []
    · simp [above] at cleaned
      exact absurd cleaned.symm notDot
    · simp [above] at cleaned
      simp [relative, joinPath_append, above, joinPath, cleaned]

/-! ## The characters of a path -/

theorem mem_of_mem_joinPath {pieces : List (List Char)} {char : Char}
    (member : char ∈ joinPath pieces) : char = '/' ∨ ∃ piece ∈ pieces, char ∈ piece := by
  induction pieces with
  | nil => cases member
  | cons piece others induction =>
    cases others with
    | nil => exact .inr ⟨piece, List.mem_cons_self, member⟩
    | cons next rest =>
      rw [joinPath] at member
      · rcases List.mem_append.mp member with here | later
        · exact .inr ⟨piece, List.mem_cons_self, here⟩
        · rcases List.mem_cons.mp later with slash | below
          · exact .inl slash
          · rcases induction below with slash | ⟨other, among, found⟩
            · exact .inl slash
            · exact .inr ⟨other, List.mem_cons_of_mem _ among, found⟩
      · nofun

theorem subset_of_mem_splitPath {path piece : List Char} (member : piece ∈ splitPath path) :
    piece ⊆ path := by
  induction path generalizing piece with
  | nil =>
    rw [splitPath, List.mem_singleton] at member
    exact member ▸ List.Subset.refl _
  | cons char rest induction =>
    unfold splitPath at member
    split at member
    · rcases List.mem_cons.mp member with rfl | member
      · exact List.nil_subset _
      · exact List.subset_cons_of_subset _ (induction member)
    · split at member
      · rw [List.mem_singleton.mp member]
        exact List.cons_subset_cons _ (List.nil_subset _)
      · rename_i first others pieces
        rw [pieces] at induction
        rcases List.mem_cons.mp member with rfl | member
        · exact List.cons_subset_cons _ (induction List.mem_cons_self)
        · exact List.subset_cons_of_subset _ (induction (List.mem_cons_of_mem _ member))

theorem mem_of_mem_cleanChars {path : List Char} {char : Char} (member : char ∈ cleanChars path) :
    char ∈ path ∨ char = '/' ∨ char = '.' := by
  have kept {rooted : Bool}
    (member : char ∈ joinPath (cleanPieces rooted (splitPath path) []).reverse) :
    char ∈ path ∨ char = '/' ∨ char = '.' := by
    rcases mem_of_mem_joinPath member with slash | ⟨piece, among, found⟩
    · exact .inr (.inl slash)
    · rcases mem_cleanPieces (List.mem_reverse.mp among) with none | ⟨among, _⟩
      · cases none
      · exact .inl (subset_of_mem_splitPath among found)
  unfold cleanChars at member
  dsimp only at member
  split at member
  · rcases List.mem_cons.mp member with slash | member
    · exact .inr (.inl slash)
    · exact kept member
  · split at member
    · exact .inr (.inr (List.mem_singleton.mp member))
    · exact kept member

end Civm.Text
