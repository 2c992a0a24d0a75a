import Mathlib.Algebra.Group.Nat.Defs
import Mathlib.Data.List.Basic

/-! # Strings of bytes

What `strings` and `strconv` do with a string whose bytes need not be valid UTF-8. -/

namespace Civm.GoBytes

/-- `strings.LastIndexByte`. -/
def lastIndexByte (text : List UInt8) (byte : UInt8) : Option Nat :=
  (text.reverse.findIdx? (· == byte)).map (text.length - 1 - ·)

/-! ## Fields -/

def isAsciiSpace (byte : UInt8) : Bool := byte == 0x20 || (0x09 ≤ byte && byte ≤ 0x0d)

/-- The encodings of the white space outside ASCII. None of them starts inside the
encoding of another character. -/
def wideSpaces : List (List UInt8) :=
  [[0xc2, 0x85], [0xc2, 0xa0], [0xe1, 0x9a, 0x80], [0xe2, 0x81, 0x9f], [0xe3, 0x80, 0x80]] ++
    [0x80, 0x81, 0x82, 0x83, 0x84, 0x85, 0x86, 0x87, 0x88, 0x89, 0x8a, 0xa8, 0xa9, 0xaf].map
      fun last => [0xe2, 0x80, last]

/-- How many bytes of white space a text starts with: those of one character, or none. -/
def spaceWidth : List UInt8 → Nat
  | [] => 0
  | byte :: rest =>
    if isAsciiSpace byte then 1
    else ((wideSpaces.find? fun space => space.isPrefixOf (byte :: rest)).map List.length).getD 0

def close (field : List UInt8) : List (List UInt8) := if field.isEmpty then [] else [field]

/-- The fields of a text, given how much of a white space is still to be passed and the
field that is being read. -/
def fieldsFrom : Nat → List UInt8 → List UInt8 → List (List UInt8)
  | _, field, [] => close field
  | skip + 1, field, _ :: rest => fieldsFrom skip field rest
  | 0, field, byte :: rest =>
    match spaceWidth (byte :: rest) with
    | 0 => fieldsFrom 0 (field ++ [byte]) rest
    | width + 1 => close field ++ fieldsFrom width [] rest

/-- `strings.Fields`. -/
def fields (text : List UInt8) : List (List UInt8) := fieldsFrom 0 [] text

/-! ## Numbers -/

def isDigit (byte : UInt8) : Bool := 0x30 ≤ byte && byte ≤ 0x39

def decimalValue (text : List UInt8) : Nat :=
  text.foldl (fun value digit => value * 10 + (digit.toNat - 0x30)) 0

/-- `strconv.ParseUint` in base 10 with 64 bits, without the reason of a failure. -/
def parseUint (text : List UInt8) : Option Nat :=
  if text.isEmpty || !text.all isDigit then none
  else if decimalValue text < 2 ^ 64 then some (decimalValue text) else none

/-! ## Texts of printed words -/

section

variable {byte : UInt8} {before after text rest field word : List UInt8}

theorem lastIndexByte_append (absent : byte ∉ after) :
    lastIndexByte (before ++ byte :: after) byte = some before.length := by
  have missed : after.reverse.findIdx? (· == byte) = none := by
    rw [List.findIdx?_eq_none_iff]
    intro other member
    simp only [List.mem_reverse] at member
    rw [beq_eq_false_iff_ne]
    rintro rfl
    exact absent member
  rw [lastIndexByte, List.reverse_append, List.reverse_cons, List.append_assoc,
    List.findIdx?_append, missed]
  simp only [List.singleton_append, List.findIdx?_cons, beq_self_eq_true, if_true,
    Option.map_some, Option.none_or, List.length_append, List.length_cons, List.length_reverse,
    Option.some.injEq]
  omega

/-- Bytes of ASCII that print something. -/
def isGraphic (byte : UInt8) : Bool := 0x21 ≤ byte && byte ≤ 0x7e

theorem spaceWidth_of_isGraphic (graphic : isGraphic byte = true) :
    spaceWidth (byte :: rest) = 0 := by
  rw [isGraphic, Bool.and_eq_true, decide_eq_true_eq, decide_eq_true_eq] at graphic
  have ascii : isAsciiSpace byte = false := by
    simp only [isAsciiSpace, Bool.or_eq_false_iff, beq_eq_false_iff_ne, Bool.and_eq_false_imp,
      decide_eq_true_eq, decide_eq_false_iff_not]
    constructor
    · rintro rfl
      exact absurd graphic.1 (by decide)
    · intro _ small
      exact absurd (UInt8.le_trans graphic.1 small) (by decide)
  have narrow : wideSpaces.find? (fun space => space.isPrefixOf (byte :: rest)) = none := by
    rw [List.find?_eq_none]
    intro space listed isPrefix
    have wide : (wideSpaces.all fun space => space.head?.any (0x7e < ·)) = true := by decide
    have high := List.all_eq_true.mp wide space listed
    cases space with
    | nil => cases high
    | cons lead others =>
      simp only [List.isPrefixOf, Bool.and_eq_true, beq_iff_eq] at isPrefix
      simp only [List.head?_cons, Option.any_some, decide_eq_true_eq, isPrefix.1] at high
      exact absurd graphic.2 (UInt8.not_le.mpr high)
  rw [spaceWidth, ascii, narrow]
  rfl

theorem fieldsFrom_word (graphic : word.all isGraphic = true) :
    fieldsFrom 0 field (word ++ rest) = fieldsFrom 0 (field ++ word) rest := by
  induction word generalizing field with
  | nil => simp
  | cons byte word induction =>
    rw [List.all_cons, Bool.and_eq_true] at graphic
    rw [List.cons_append, fieldsFrom, spaceWidth_of_isGraphic graphic.1]
    simp [induction graphic.2]

theorem fieldsFrom_space (white : isAsciiSpace byte = true) :
    fieldsFrom 0 field (byte :: rest) = close field ++ fieldsFrom 0 [] rest := by
  rw [fieldsFrom, spaceWidth, if_pos white]

theorem fieldsFrom_spaces (white : text.all isAsciiSpace = true) :
    fieldsFrom 0 field text = close field := by
  induction text generalizing field with
  | nil => rfl
  | cons byte rest induction =>
    rw [List.all_cons, Bool.and_eq_true] at white
    rw [fieldsFrom_space white.1, induction white.2]
    simp [close]

/-- Words with one space between them. -/
def joined : List (List UInt8) → List UInt8
  | [] => []
  | [word] => word
  | word :: words => word ++ 0x20 :: joined words

theorem fields_joined {words : List (List UInt8)} {ending : List UInt8}
    (graphic : ∀ word ∈ words, word ≠ [] ∧ word.all isGraphic = true)
    (white : ending.all isAsciiSpace = true) : fields (joined words ++ ending) = words := by
  induction words with
  | nil => exact fieldsFrom_spaces white
  | cons word words induction =>
    have first := graphic word List.mem_cons_self
    have closed : close word = [word] := by simp [close, first.1]
    cases words with
    | nil =>
      rw [joined, fields, fieldsFrom_word first.2, List.nil_append, fieldsFrom_spaces white,
        closed]
    | cons next words =>
      rw [joined, List.append_assoc, List.cons_append, fields, fieldsFrom_word first.2,
        List.nil_append, fieldsFrom_space (by decide), closed]
      have others := induction fun word member => graphic word (List.mem_cons_of_mem _ member)
      rw [fields] at others
      rw [others, List.singleton_append]
      simp

end

end Civm.GoBytes
