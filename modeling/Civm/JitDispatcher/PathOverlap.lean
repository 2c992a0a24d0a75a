import Civm.Foundation.Paths

/-! # Directories that overlap

`pathsOverlap` keeps the state directory and the runner directory of the dispatcher
apart. It asks `filepath.Rel` for the way from each path to the other one. -/

namespace Civm.JitDispatcher

def components (path : String) : List (List Char) :=
  (Text.cleanPieces (Text.isAbs path) (Text.splitPath path.toList) []).reverse

/-- The way from one list of pieces to another: up for every piece of the base behind the
common ones, then down. A base that goes up itself has no way. -/
def relComponents : List (List Char) → List (List Char) → Option (List (List Char))
  | first :: base, name :: target =>
    if first = name then relComponents base target
    else if first = ['.', '.'] then none
    else some ((first :: base).map (fun _ => ['.', '.']) ++ name :: target)
  | base, target =>
    if base.head? = some ['.', '.'] then none
    else some (base.map (fun _ => ['.', '.']) ++ target)

def rel (base target : String) : Option (List Char) :=
  if Text.isAbs base ≠ Text.isAbs target then none
  else (relComponents (components base) (components target)).map fun way =>
    if way = [] then ['.'] else Text.joinPath way

/-- Whether the way from one path to another does not begin with a step up. -/
def leadsDown (base target : String) : Bool :=
  match rel (Text.clean base) (Text.clean target) with
  | none => false
  | some relative => relative ≠ ['.', '.'] && !(['.', '.', '/'].isPrefixOf relative)

def pathsOverlap (left right : String) : Bool :=
  [(left, right), (right, left)].any fun pair => leadsDown pair.1 pair.2

theorem relComponents_spec {base target : List (List Char)}
    (plainBase : ∀ piece ∈ base, Text.Plain piece)
    (plainTarget : ∀ piece ∈ target, Text.Plain piece) :
    ∃ way, relComponents base target = some way ∧
      (way.head? = some ['.', '.'] ↔ ¬base <+: target) ∧ ∀ piece ∈ way, '/' ∉ piece := by
  induction base generalizing target with
  | nil =>
    apply Exists.intro target
    have down : target.head? ≠ some ['.', '.'] := by
      intro up
      exact (plainTarget _ (List.mem_of_head? up)).notDotDot rfl
    exact ⟨by cases target <;> rfl, by simp [down],
      fun piece member => (plainTarget piece member).noSlash⟩
  | cons first rest induction =>
    have here := plainBase first List.mem_cons_self
    have others : ∀ piece ∈ rest, Text.Plain piece := fun piece member =>
      plainBase piece (List.mem_cons_of_mem _ member)
    have steps : ∀ below, (∀ piece ∈ below, Text.Plain piece) →
      ∀ piece ∈ (first :: rest).map (fun _ => ['.', '.']) ++ below, '/' ∉ piece := by
      intro below plainBelow piece member
      rcases List.mem_append.mp member with up | down
      · rcases List.mem_map.mp up with ⟨_, _, equal⟩
        rw [← equal]
        decide
      · exact (plainBelow piece down).noSlash
    cases target with
    | nil =>
      have notUp : ¬(first :: rest).head? = some ['.', '.'] := fun up =>
        here.notDotDot (Option.some.inj up)
      exact ⟨_, if_neg notUp, by simp, steps [] plainTarget⟩
    | cons name target =>
      rw [relComponents, List.cons_prefix_cons]
      by_cases same : first = name
      · rw [if_pos same]
        rcases @induction target others fun piece member =>
          plainTarget piece (List.mem_cons_of_mem _ member) with ⟨way, found, up, slashes⟩
        exact ⟨way, found, by simp [up, same], slashes⟩
      · rw [if_neg same, if_neg here.notDotDot]
        exact ⟨_, rfl, by simp [same], steps _ plainTarget⟩

theorem up_iff {way : List (List Char)} (nonempty : way ≠ [])
    (slashes : ∀ piece ∈ way, '/' ∉ piece) :
    (Text.joinPath way = ['.', '.'] ∨ ['.', '.', '/'] <+: Text.joinPath way) ↔
      way.head? = some ['.', '.'] := by
  have split := Text.splitPath_joinPath nonempty slashes
  constructor
  · intro up
    rcases up with equal | ⟨rest, equal⟩
    · rw [← split, equal]
      rfl
    · have apart : ['.', '.', '/'] ++ rest = ['.', '.'] ++ '/' :: rest := rfl
      rw [← split, ← equal, apart, Text.splitPath_append]
      rfl
  · intro up
    cases way with
    | nil => cases up
    | cons piece others =>
      cases Option.some.inj up
      cases others with
      | nil => exact .inl rfl
      | cons next rest => exact .inr ⟨Text.joinPath (next :: rest), rfl⟩

/-! ## Absolute paths -/

section

variable {left right path : String}

theorem components_of_isAbs (absolute : Text.isAbs path = true) :
    components path = (Text.cleanPieces true (Text.splitPath path.toList) []).reverse := by
  rw [components, absolute]

theorem plain_components (absolute : Text.isAbs path = true) :
    ∀ piece ∈ components path, Text.Plain piece := by
  rw [components_of_isAbs absolute]
  exact Text.plain_of_clean path.toList

theorem clean_eq_rootedChars (absolute : Text.isAbs path = true) :
    Text.clean path = String.ofList (Text.rootedChars (components path)) := by
  rw [Text.clean, Text.cleanChars_of_rooted (of_decide_eq_true absolute),
    components_of_isAbs absolute]

theorem isAbs_clean (absolute : Text.isAbs path = true) : Text.isAbs (Text.clean path) = true := by
  rw [clean_eq_rootedChars absolute]
  simp [Text.isAbs, Text.rootedChars]

theorem components_clean (absolute : Text.isAbs path = true) :
    components (Text.clean path) = components path := by
  rw [components_of_isAbs (isAbs_clean absolute), clean_eq_rootedChars absolute,
    String.toList_ofList, Text.cleanPieces_splitPath_rootedChars (plain_components absolute),
    List.reverse_reverse]

theorem leadsDown_of_rel {relative : List Char}
    (found : rel (Text.clean left) (Text.clean right) = some relative) :
    leadsDown left right = true ↔
      ¬(relative = ['.', '.'] ∨ ['.', '.', '/'] <+: relative) := by
  delta leadsDown
  rw [found, Bool.and_eq_true, Bool.not_eq_true', ← Bool.not_eq_true, List.isPrefixOf_iff_prefix,
    decide_eq_true_eq, not_or]

theorem leadsDown_iff (leftAbs : Text.isAbs left = true) (rightAbs : Text.isAbs right = true) :
    leadsDown left right = true ↔ components left <+: components right := by
  rcases relComponents_spec (plain_components leftAbs) (plain_components rightAbs) with
    ⟨way, found, up, slashes⟩
  have together : ¬Text.isAbs (Text.clean left) ≠ Text.isAbs (Text.clean right) := by
    simp [isAbs_clean leftAbs, isAbs_clean rightAbs]
  have related : rel (Text.clean left) (Text.clean right) =
    some (if way = [] then ['.'] else Text.joinPath way) := by
    rw [rel, if_neg together, components_clean leftAbs, components_clean rightAbs, found,
      Option.map_some]
  apply (leadsDown_of_rel related).trans
  apply Iff.trans _ (not_congr up |>.trans not_not)
  split
  · rename_i empty
    subst empty
    decide
  · rename_i nonempty
    exact not_congr (up_iff nonempty slashes)

theorem pathsOverlap_eq (left right : String) :
    pathsOverlap left right = (leadsDown left right || leadsDown right left) := by
  simp [pathsOverlap]

theorem components_join (absolute : Text.isAbs path = true) {name : List Char}
    (plain : Text.Plain name) :
    Text.isAbs (Text.join path (String.ofList name)) = true ∧
      components (Text.join path (String.ofList name)) = components path ++ [name] := by
  have rooted : path.toList.head? = some '/' := of_decide_eq_true absolute
  have longer : Text.isAbs (path ++ "/" ++ String.ofList name) = true := by
    simp [Text.isAbs, rooted]
  have chars : (path ++ "/" ++ String.ofList name).toList = path.toList ++ '/' :: name := by simp
  constructor
  · exact isAbs_clean longer
  · rw [Text.join, components_clean longer, components_of_isAbs longer, chars,
      Text.splitPath_append, Text.splitPath_of_noSlash plain.noSlash, Text.cleanPieces_append,
      components_of_isAbs absolute]
    simp [Text.cleanPieces, plain.nonempty, plain.notDot, plain.notDotDot]

/-- Two absolute paths overlap exactly if one is the other or an ancestor of it. -/
theorem pathsOverlap_iff_ancestor (left right : String) (leftAbs : Text.isAbs left = true)
    (rightAbs : Text.isAbs right = true) :
    (pathsOverlap left right = true ↔
      components (Text.clean left) <+: components (Text.clean right) ∨
        components (Text.clean right) <+: components (Text.clean left)) ∧
    pathsOverlap left right = pathsOverlap right left ∧
    pathsOverlap left left = true ∧
    ∀ name other, Text.Plain name → Text.Plain other →
      pathsOverlap left (Text.join left (String.ofList name)) = true ∧
      (pathsOverlap (Text.join left (String.ofList name)) (Text.join left (String.ofList other)) =
        true ↔ name = other) := by
  have overlap : ∀ {left right : String}, Text.isAbs left = true → Text.isAbs right = true →
    (pathsOverlap left right = true ↔
      components left <+: components right ∨ components right <+: components left) := by
    intro left right leftAbs rightAbs
    rw [pathsOverlap_eq, Bool.or_eq_true, leadsDown_iff leftAbs rightAbs,
      leadsDown_iff rightAbs leftAbs]
  constructor
  · rw [components_clean leftAbs, components_clean rightAbs]
    exact overlap leftAbs rightAbs
  · constructor
    · rw [pathsOverlap_eq, pathsOverlap_eq, Bool.or_comm]
    · constructor
      · exact (overlap leftAbs leftAbs).mpr (.inl (List.prefix_refl _))
      · intro name other plain otherPlain
        rcases components_join leftAbs plain with ⟨joined, pieces⟩
        rcases components_join leftAbs otherPlain with ⟨otherJoined, otherPieces⟩
        constructor
        · rw [overlap leftAbs joined, pieces]
          exact .inl (List.prefix_append _ _)
        · rw [overlap joined otherJoined, pieces, otherPieces]
          simp [List.prefix_append_right_inj, eq_comm]

theorem dotted_child_overlaps :
    pathsOverlap "/srv/state" "/srv/./state/..cache" = true :=
  (pathsOverlap_iff_ancestor "/srv/state" "/srv/./state/..cache" (by decide) (by decide)).1.mpr
    (.inl (by decide))

example : pathsOverlap "/srv/state" "/srv/state-2" = false := by decide

end

end Civm.JitDispatcher
