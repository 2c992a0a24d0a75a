import Mathlib.Data.List.Basic

/-! # Regular expressions

Expressions with assertions about the place of a match, under the ordered
semantics of a backtracking search: an expression gives the places where it can
stop, the preferred one first, and a search finds the leftmost start. -/

namespace Civm

inductive Regex where
  | empty
  | one (accepts : Char → Bool)
  | seq (first second : Regex)
  | alt (first second : Regex)
  | many (inner : Regex)
  | boundary
  | start
  | stop

namespace Regex

/-- A place in a text: the character before it, if there is one, and the rest. -/
structure Place where
  before : Option Char
  after : List Char

def isWord (char : Char) : Bool := char.isAlphanum || char = '_'

def isSpace (char : Char) : Bool := ['\t', '\n', '\x0c', '\r', ' '].contains char

/-- Greedy repetition. A round that consumes nothing is not tried again. -/
def repeated (step : Place → List Place) : Nat → Place → List Place
  | 0, place => [place]
  | fuel + 1, place =>
    ((step place).filter fun next => next.after.length < place.after.length).flatMap
      (repeated step fuel) ++ [place]

def ends : Regex → Place → List Place
  | .empty, place => [place]
  | .one accepts, ⟨_, char :: rest⟩ => if accepts char then [⟨some char, rest⟩] else []
  | .one _, ⟨_, []⟩ => []
  | .seq first second, place => (ends first place).flatMap (ends second)
  | .alt first second, place => ends first place ++ ends second place
  | .many inner, place => repeated (ends inner) place.after.length place
  | .boundary, place =>
    if place.before.any isWord = place.after.head?.any isWord then [] else [place]
  | .start, place => if place.before.isNone then [place] else []
  | .stop, place => if place.after.isEmpty then [place] else []

/-! ## Searching -/

def placeAt (text : List Char) (offset : Nat) : Place :=
  ⟨(text.take offset).getLast?, text.drop offset⟩

/-- Where the preferred match that starts at an offset ends. -/
def matchAt (regex : Regex) (text : List Char) (offset : Nat) : Option Nat :=
  (regex.ends (placeAt text offset)).head?.map fun place => text.length - place.after.length

def allMatches (regex : Regex) (text : List Char) : List (Nat × Nat) :=
  (List.range (text.length + 1)).filterMap fun offset =>
    (regex.matchAt text offset).map fun last => (offset, last)

def find (regex : Regex) (text : List Char) : Option (Nat × Nat) :=
  (regex.allMatches text).head?

def matchString (regex : Regex) (text : List Char) : Bool := (regex.find text).isSome

theorem mem_of_find {regex : Regex} {text : List Char} {found : Nat × Nat}
    (search : regex.find text = some found) : found ∈ regex.allMatches text :=
  List.mem_of_head? search

theorem mem_allMatches {regex : Regex} {text : List Char} {found : Nat × Nat} :
    found ∈ regex.allMatches text ↔
      found.1 ≤ text.length ∧ regex.matchAt text found.1 = some found.2 := by
  rcases found with ⟨first, last⟩
  simp only [allMatches, List.mem_filterMap, List.mem_range, Option.map_eq_some_iff,
    Prod.mk.injEq]
  constructor
  · intro listed
    rcases listed with ⟨offset, small, _, matched, rfl, rfl⟩
    exact ⟨by omega, matched⟩
  · intro matched
    exact ⟨first, by omega, last, matched.2, rfl, rfl⟩

theorem last_le_length {regex : Regex} {text : List Char} {found : Nat × Nat}
    (listed : found ∈ regex.allMatches text) : found.2 ≤ text.length := by
  have matched := (mem_allMatches.mp listed).2
  rw [matchAt, Option.map_eq_some_iff] at matched
  rcases matched with ⟨place, _, last⟩
  omega

/-! ## Searching a part of a text

An expression that asks nothing about what stands before it matches in the rest
of a text where it matches in the text. -/

def plain : Regex → Bool
  | .empty | .one _ | .stop => true
  | .seq first second | .alt first second => first.plain && second.plain
  | .many _ | .boundary | .start => false

theorem ends_of_plain {regex : Regex} (isPlain : regex.plain = true)
    (before other : Option Char) (rest : List Char) :
    (regex.ends ⟨before, rest⟩).map Place.after = (regex.ends ⟨other, rest⟩).map Place.after := by
  induction regex generalizing before other rest with
  | empty => rfl
  | one accepts | stop => cases rest <;> rfl
  | many | boundary | start => cases isPlain
  | alt first second firstSame secondSame =>
    rw [plain, Bool.and_eq_true] at isPlain
    simp only [ends, List.map_append, firstSame isPlain.1 before other,
      secondSame isPlain.2 before other]
  | seq first second firstSame secondSame =>
    rw [plain, Bool.and_eq_true] at isPlain
    have onward : ∀ places : List Place, (places.flatMap second.ends).map Place.after =
      (places.map Place.after).flatMap fun after =>
        (second.ends ⟨none, after⟩).map Place.after := by
      intro places
      rw [List.map_flatMap, List.flatMap_map]
      congr 1
      funext place
      exact secondSame isPlain.2 _ _ _
    rw [ends, ends, onward, onward, firstSame isPlain.1 before other]

theorem mem_allMatches_of_drop {regex : Regex} (isPlain : regex.plain = true) {text : List Char}
    {skipped : Nat} (inside : skipped ≤ text.length) {found : Nat × Nat}
    (part : found ∈ regex.allMatches (text.drop skipped)) :
    ∃ last, (skipped + found.1, last) ∈ regex.allMatches text := by
  rw [mem_allMatches, List.length_drop] at part
  rcases part with ⟨bounded, matched⟩
  simp only [matchAt, placeAt, List.drop_drop, Option.map_eq_some_iff] at matched
  rcases matched with ⟨place, first, _⟩
  have same := congrArg List.head? (ends_of_plain isPlain
    ((text.drop skipped).take found.1).getLast? (text.take (skipped + found.1)).getLast?
    (text.drop (skipped + found.1)))
  rw [List.head?_map, List.head?_map, first, Option.map_some, eq_comm,
    Option.map_eq_some_iff] at same
  rcases same with ⟨reached, found_reached, _⟩
  exact ⟨text.length - reached.after.length, mem_allMatches.mpr
    ⟨by dsimp only; omega, by simp [matchAt, placeAt, found_reached]⟩⟩

/-! ## Building expressions -/

def text (value : String) : Regex :=
  value.toList.foldr (fun char rest => .seq (.one (· == char)) rest) .empty

def any : List Regex → Regex
  | [] => .one fun _ => false
  | [single] => single
  | first :: rest => .alt first (any rest)

def all : List Regex → Regex
  | [] => .empty
  | [single] => single
  | first :: rest => .seq first (all rest)

def opt (inner : Regex) : Regex := .alt inner .empty

def oneOrMore (inner : Regex) : Regex := .seq inner (.many inner)

def space : Regex := .one isSpace

def digit : Regex := .one Char.isDigit

def word : Regex := .one isWord

def dot : Regex := .one (· ≠ '\n')

end Regex

end Civm
