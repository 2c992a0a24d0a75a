import Mathlib.Algebra.Group.Nat.Defs
import Civm.Foundation.Text

/-! # SHA-256 (FIPS 180-4) on byte lists -/

namespace Civm.Sha256

def roundConstants : List UInt32 := [
  0x428a2f98, 0x71374491, 0xb5c0fbcf, 0xe9b5dba5, 0x3956c25b, 0x59f111f1, 0x923f82a4, 0xab1c5ed5,
  0xd807aa98, 0x12835b01, 0x243185be, 0x550c7dc3, 0x72be5d74, 0x80deb1fe, 0x9bdc06a7, 0xc19bf174,
  0xe49b69c1, 0xefbe4786, 0x0fc19dc6, 0x240ca1cc, 0x2de92c6f, 0x4a7484aa, 0x5cb0a9dc, 0x76f988da,
  0x983e5152, 0xa831c66d, 0xb00327c8, 0xbf597fc7, 0xc6e00bf3, 0xd5a79147, 0x06ca6351, 0x14292967,
  0x27b70a85, 0x2e1b2138, 0x4d2c6dfc, 0x53380d13, 0x650a7354, 0x766a0abb, 0x81c2c92e, 0x92722c85,
  0xa2bfe8a1, 0xa81a664b, 0xc24b8b70, 0xc76c51a3, 0xd192e819, 0xd6990624, 0xf40e3585, 0x106aa070,
  0x19a4c116, 0x1e376c08, 0x2748774c, 0x34b0bcb5, 0x391c0cb3, 0x4ed8aa4a, 0x5b9cca4f, 0x682e6ff3,
  0x748f82ee, 0x78a5636f, 0x84c87814, 0x8cc70208, 0x90befffa, 0xa4506ceb, 0xbef9a3f7, 0xc67178f2]

/-- The eight working variables. -/
structure Hash where
  a : UInt32
  b : UInt32
  c : UInt32
  d : UInt32
  e : UInt32
  f : UInt32
  g : UInt32
  h : UInt32

def initial : Hash where
  a := 0x6a09e667
  b := 0xbb67ae85
  c := 0x3c6ef372
  d := 0xa54ff53a
  e := 0x510e527f
  f := 0x9b05688c
  g := 0x1f83d9ab
  h := 0x5be0cd19

def rotateRight (word count : UInt32) : UInt32 := (word >>> count) ||| (word <<< (32 - count))

def round (hash : Hash) (addend : UInt32) : Hash :=
  let sigma1 := rotateRight hash.e 6 ^^^ rotateRight hash.e 11 ^^^ rotateRight hash.e 25
  let choice := (hash.e &&& hash.f) ^^^ (~~~hash.e &&& hash.g)
  let first := hash.h + sigma1 + choice + addend
  let sigma0 := rotateRight hash.a 2 ^^^ rotateRight hash.a 13 ^^^ rotateRight hash.a 22
  let majority := (hash.a &&& hash.b) ^^^ (hash.a &&& hash.c) ^^^ (hash.b &&& hash.c)
  { a := first + (sigma0 + majority), b := hash.a, c := hash.b, d := hash.c
    e := hash.d + first, f := hash.e, g := hash.f, h := hash.g }

/-- The message-schedule word that follows a window of sixteen words. -/
def nextWord (window : List UInt32) : UInt32 :=
  let early := window.getD 1 0
  let late := window.getD 14 0
  window.getD 0 0 + (rotateRight early 7 ^^^ rotateRight early 18 ^^^ (early >>> 3)) +
    window.getD 9 0 + (rotateRight late 17 ^^^ rotateRight late 19 ^^^ (late >>> 10))

def rounds : List UInt32 → List UInt32 → Hash → Hash
  | [], _, hash => hash
  | constant :: constants, window, hash =>
    rounds constants (window.drop 1 ++ [nextWord window])
      (round hash (constant + window.getD 0 0))

def compress (hash : Hash) (block : List UInt32) : Hash :=
  let mixed := rounds roundConstants block hash
  { a := hash.a + mixed.a, b := hash.b + mixed.b, c := hash.c + mixed.c, d := hash.d + mixed.d
    e := hash.e + mixed.e, f := hash.f + mixed.f, g := hash.g + mixed.g, h := hash.h + mixed.h }

def chunks : Nat → Nat → List α → List (List α)
  | 0, _, _ => []
  | count + 1, size, values => values.take size :: chunks count size (values.drop size)

def pad (message : List UInt8) : List UInt8 :=
  message ++ 0x80 :: List.replicate ((119 - message.length % 64) % 64) 0 ++
    (List.range 8).map fun index =>
      UInt8.ofNat (message.length * 8 / 256 ^ (7 - index) % 256)

def packWord (bytes : List UInt8) : UInt32 :=
  bytes.foldl (fun word byte => (word <<< 8) ||| byte.toUInt32) 0

def unpackWord (word : UInt32) : List UInt8 :=
  [(word >>> 24).toUInt8, (word >>> 16).toUInt8, (word >>> 8).toUInt8, word.toUInt8]

/-- `sha256.Sum256`. -/
def sum256 (message : List UInt8) : List UInt8 :=
  let padded := pad message
  let words := (chunks (padded.length / 4) 4 padded).map packWord
  let hash := (chunks (words.length / 16) 16 words).foldl compress initial
  unpackWord hash.a ++ unpackWord hash.b ++ unpackWord hash.c ++ unpackWord hash.d ++
    unpackWord hash.e ++ unpackWord hash.f ++ unpackWord hash.g ++ unpackWord hash.h

theorem sum256_length (message : List UInt8) : (sum256 message).length = 32 := rfl

attribute [irreducible] sum256

/-- The digest of the message "abc". -/
example : Text.hexEncode (sum256 [97, 98, 99]) =
    "ba7816bf8f01cfea414140de5dae2223b00361a396177a9cb410ff61f20015ad" := by
  decide +kernel

end Civm.Sha256
