import Mathlib.Data.List.Infix

/-! # Strings and paths as Go's standard library reads them

Only the functions this development needs: prefixes and pieces of strings, the
hexadecimal encoding, and the lexical path functions of `path/filepath` on a
Unix system. -/

namespace Civm.Text

def hasPrefix (value start : String) : Bool := start.toList.isPrefixOf value.toList

def hasSuffix (value ending : String) : Bool := ending.toList.isSuffixOf value.toList

def trimPrefix (value start : String) : String :=
  if hasPrefix value start then String.ofList (value.toList.drop start.toList.length) else value

def trimSuffix (value ending : String) : String :=
  if hasSuffix value ending then
    String.ofList (value.toList.take (value.toList.length - ending.toList.length))
  else value

/-- What stands before and after the first separator. -/
def cut (separator : Char) : List Char → Option (List Char × List Char)
  | [] => none
  | char :: rest =>
    if char = separator then some ([], rest)
    else (cut separator rest).map fun (before, after) => (char :: before, after)

/-- What stands before and after the last separator. -/
def cutLast (separator : Char) (value : List Char) : Option (List Char × List Char) :=
  (cut separator value.reverse).map fun (after, before) => (before.reverse, after.reverse)

/-- `strings.Replace` of the first occurrence of a character. -/
def replaceFirst (old new : Char) (value : List Char) : List Char :=
  match cut old value with
  | none => value
  | some (before, after) => before ++ new :: after

/-- Whether `piece` occurs somewhere in `value`. -/
def contains (value piece : String) : Bool :=
  value.toList.tails.any fun rest => piece.toList.isPrefixOf rest

/-- `unicode.IsSpace`. -/
def isSpace (char : Char) : Bool :=
  (9 ≤ char.toNat && char.toNat ≤ 13) || (0x2000 ≤ char.toNat && char.toNat ≤ 0x200a) ||
    [0x20, 0x85, 0xa0, 0x1680, 0x2028, 0x2029, 0x202f, 0x205f, 0x3000].contains char.toNat

/-- `strings.TrimSpace`. -/
def trimSpace (value : String) : String :=
  String.ofList ((value.toList.dropWhile isSpace).reverse.dropWhile isSpace).reverse

/-- `strings.Fields`. -/
def fields (value : List Char) : List (List Char) :=
  (value.splitOnP isSpace).filter (· ≠ [])

/-! ## Hexadecimal -/

def hexDigits : List Char := "0123456789abcdef".toList

def hexDigit (value : Nat) : Char := hexDigits.getD value '0'

def hexBytes : List UInt8 → List Char
  | [] => []
  | byte :: rest =>
    hexDigit (byte.toNat / 16) :: hexDigit (byte.toNat % 16) :: hexBytes rest

/-- `hex.EncodeToString`. -/
def hexEncode (bytes : List UInt8) : String := String.ofList (hexBytes bytes)

def isHexDigit (char : Char) : Bool := hexDigits.contains char

/-- Whether a string consists of exactly `count` lower-case hexadecimal digits. -/
def isHex (count : Nat) (value : String) : Bool :=
  value.toList.length = count && value.toList.all isHexDigit

theorem isHexDigit_hexDigit {value : Nat} (bound : value < 16) :
    isHexDigit (hexDigit value) = true := by
  have checked : ∀ index : Fin 16, isHexDigit (hexDigit index) = true := by decide
  exact checked ⟨value, bound⟩

theorem hexBytes_length (bytes : List UInt8) : (hexBytes bytes).length = 2 * bytes.length := by
  induction bytes with
  | nil => rfl
  | cons byte rest induction =>
    simp only [hexBytes, List.length_cons, induction]
    omega

theorem hexBytes_all (bytes : List UInt8) : (hexBytes bytes).all isHexDigit = true := by
  induction bytes with
  | nil => rfl
  | cons byte rest induction =>
    have bound := byte.toNat_lt
    simp only [hexBytes, List.all_cons, induction, Bool.and_true]
    rw [isHexDigit_hexDigit (by omega), isHexDigit_hexDigit (by omega)]
    rfl

theorem isHex_hexEncode {bytes : List UInt8} {count : Nat} (sized : 2 * bytes.length = count) :
    isHex count (hexEncode bytes) = true := by
  simp [isHex, hexEncode, hexBytes_length, hexBytes_all, sized]

/-! ## Lexical paths -/

/-- The pieces between the separators, empty ones included. -/
def splitPath : List Char → List (List Char)
  | [] => [[]]
  | char :: rest =>
    if char = '/' then [] :: splitPath rest
    else match splitPath rest with
      | [] => [[char]]
      | piece :: pieces => (char :: piece) :: pieces

def joinPath : List (List Char) → List Char
  | [] => []
  | [piece] => piece
  | piece :: pieces => piece ++ '/' :: joinPath pieces

def isAbs (path : String) : Bool := path.toList.head? = some '/'

/-- The pieces `filepath.Clean` keeps, the last one first. -/
def cleanPieces (rooted : Bool) : List (List Char) → List (List Char) → List (List Char)
  | [], kept => kept
  | piece :: pieces, kept =>
    if piece = [] ∨ piece = ['.'] then cleanPieces rooted pieces kept
    else if piece = ['.', '.'] then
      match kept with
      | [] => cleanPieces rooted pieces (if rooted then [] else [piece])
      | last :: others =>
        if last = ['.', '.'] then cleanPieces rooted pieces (piece :: kept)
        else cleanPieces rooted pieces others
    else cleanPieces rooted pieces (piece :: kept)

def cleanChars (path : List Char) : List Char :=
  let rooted := path.head? = some '/'
  let pieces := (cleanPieces rooted (splitPath path) []).reverse
  if rooted then '/' :: joinPath pieces
  else if pieces = [] then ['.'] else joinPath pieces

/-- `filepath.Clean`. -/
def clean (path : String) : String := String.ofList (cleanChars path.toList)

def baseChars (path : List Char) : List Char :=
  if path = [] then ['.']
  else
    let stripped := (path.reverse.dropWhile (· = '/')).reverse
    if stripped = [] then ['/'] else (splitPath stripped).getLastD []

/-- `filepath.Base`. -/
def base (path : String) : String := String.ofList (baseChars path.toList)

/-- `filepath.Dir`. -/
def dir (path : String) : String :=
  clean (String.ofList (path.toList.reverse.dropWhile (· ≠ '/')).reverse)

/-- `filepath.Join` of two non-empty elements. -/
def join (first second : String) : String := clean (first ++ "/" ++ second)

end Civm.Text
