import Mathlib.Tactic.Common

/-! SHA-256 of a list of bytes, with its digest in hexadecimal. -/
namespace Sha256

def roundConstants : List UInt32 :=
  [0x428a2f98, 0x71374491, 0xb5c0fbcf, 0xe9b5dba5, 0x3956c25b, 0x59f111f1, 0x923f82a4, 0xab1c5ed5,
    0xd807aa98, 0x12835b01, 0x243185be, 0x550c7dc3, 0x72be5d74, 0x80deb1fe, 0x9bdc06a7, 0xc19bf174,
    0xe49b69c1, 0xefbe4786, 0x0fc19dc6, 0x240ca1cc, 0x2de92c6f, 0x4a7484aa, 0x5cb0a9dc, 0x76f988da,
    0x983e5152, 0xa831c66d, 0xb00327c8, 0xbf597fc7, 0xc6e00bf3, 0xd5a79147, 0x06ca6351, 0x14292967,
    0x27b70a85, 0x2e1b2138, 0x4d2c6dfc, 0x53380d13, 0x650a7354, 0x766a0abb, 0x81c2c92e, 0x92722c85,
    0xa2bfe8a1, 0xa81a664b, 0xc24b8b70, 0xc76c51a3, 0xd192e819, 0xd6990624, 0xf40e3585, 0x106aa070,
    0x19a4c116, 0x1e376c08, 0x2748774c, 0x34b0bcb5, 0x391c0cb3, 0x4ed8aa4a, 0x5b9cca4f, 0x682e6ff3,
    0x748f82ee, 0x78a5636f, 0x84c87814, 0x8cc70208, 0x90befffa, 0xa4506ceb, 0xbef9a3f7, 0xc67178f2]

structure Working where
  a : UInt32
  b : UInt32
  c : UInt32
  d : UInt32
  e : UInt32
  f : UInt32
  g : UInt32
  h : UInt32

def initial : Working :=
  ⟨0x6a09e667, 0xbb67ae85, 0x3c6ef372, 0xa54ff53a, 0x510e527f, 0x9b05688c, 0x1f83d9ab, 0x5be0cd19⟩

def rotate (x n : UInt32) : UInt32 := (x >>> n) ||| (x <<< (32 - n))

/-- The message schedule, its newest word first. -/
def extend : Nat → List UInt32 → List UInt32
  | 0, w => w
  | n + 1, w =>
    let old := w.getD 14 0
    let new := w.getD 1 0
    let s0 := rotate old 7 ^^^ rotate old 18 ^^^ (old >>> 3)
    let s1 := rotate new 17 ^^^ rotate new 19 ^^^ (new >>> 10)
    extend n ((w.getD 15 0 + s0 + w.getD 6 0 + s1) :: w)

def round (s : Working) (kw : UInt32 × UInt32) : Working :=
  let s1 := rotate s.e 6 ^^^ rotate s.e 11 ^^^ rotate s.e 25
  let choice := (s.e &&& s.f) ^^^ (~~~s.e &&& s.g)
  let t1 := s.h + s1 + choice + kw.1 + kw.2
  let s0 := rotate s.a 2 ^^^ rotate s.a 13 ^^^ rotate s.a 22
  let majority := (s.a &&& s.b) ^^^ (s.a &&& s.c) ^^^ (s.b &&& s.c)
  ⟨t1 + (s0 + majority), s.a, s.b, s.c, s.d + t1, s.e, s.f, s.g⟩

def compress (s : Working) (block : List UInt32) : Working :=
  let t := (roundConstants.zip (extend 48 block.reverse).reverse).foldl round s
  ⟨s.a + t.a, s.b + t.b, s.c + t.c, s.d + t.d, s.e + t.e, s.f + t.f, s.g + t.g, s.h + t.h⟩

/-- A length in 64 bits. -/
def lengthBytes (bits : Nat) : List UInt8 :=
  [56, 48, 40, 32, 24, 16, 8, 0].map fun shift => UInt8.ofNat (bits >>> shift)

/-- The message with its padding: a one bit, zeros, and its length. -/
def padded (message : List UInt8) : List UInt8 :=
  message ++ 0x80 :: List.replicate ((119 - message.length % 64) % 64) 0 ++
    lengthBytes (message.length * 8)

def word (bytes : List UInt8) : UInt32 :=
  bytes.foldl (fun w byte => (w <<< 8) ||| byte.toUInt32) 0

/-- The bytes in groups of `size`, of which there are `count`. -/
def groups (size : Nat) : Nat → List UInt8 → List (List UInt8)
  | 0, _ => []
  | count + 1, bytes => bytes.take size :: groups size count (bytes.drop size)

def digest (message : List UInt8) : Working :=
  let bytes := padded message
  let blocks := (groups 64 (bytes.length / 64) bytes).map fun block => (groups 4 16 block).map word
  blocks.foldl compress initial

def hexDigits : List Char := "0123456789abcdef".toList

def hexDigit (n : Nat) : Char := hexDigits.getD (n % 16) '0'

def hexWord (w : UInt32) : List Char :=
  [28, 24, 20, 16, 12, 8, 4, 0].map fun shift => hexDigit (w.toNat >>> shift)

@[irreducible] def hexdigest (message : List UInt8) : String :=
  let s := digest message
  String.ofList ([s.a, s.b, s.c, s.d, s.e, s.f, s.g, s.h].flatMap hexWord)

example : hexdigest [97, 98, 99] =
    "ba7816bf8f01cfea414140de5dae2223b00361a396177a9cb410ff61f20015ad" := by
  decide +kernel

theorem hexDigit_mem (n : Nat) : hexDigit n ∈ hexDigits := by
  have hlt : n % 16 < hexDigits.length := Nat.mod_lt n (by decide)
  rw [hexDigit, List.getD_eq_getElem?_getD, List.getElem?_eq_getElem hlt, Option.getD_some]
  exact List.getElem_mem hlt

theorem mem_hexWord {w : UInt32} {c : Char} (h : c ∈ hexWord w) : c ∈ hexDigits := by
  obtain ⟨shift, -, rfl⟩ := List.mem_map.mp h
  exact hexDigit_mem _

/-- A digest consists of hexadecimal digits. -/
theorem mem_hexdigest {message : List UInt8} {c : Char} (h : c ∈ (hexdigest message).toList) :
    c ∈ hexDigits := by
  rw [hexdigest, String.toList_ofList] at h
  obtain ⟨w, -, hw⟩ := List.mem_flatMap.mp h
  exact mem_hexWord hw

end Sha256
