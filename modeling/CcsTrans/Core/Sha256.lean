import CcsTrans.Json.Dump

/-!
SHA-256, as `core/sha256.cpp` computes it.

Nothing is said here about collisions. What the rest of the development uses is that a
digest is 64 lower-case hexadecimal digits, and that equal contents have equal digests.
-/

namespace CcsTrans.Core

open CcsTrans.Text CcsTrans.Json

def kRoundConstants : List UInt32 := [
  0x428a2f98, 0x71374491, 0xb5c0fbcf, 0xe9b5dba5, 0x3956c25b, 0x59f111f1, 0x923f82a4, 0xab1c5ed5,
  0xd807aa98, 0x12835b01, 0x243185be, 0x550c7dc3, 0x72be5d74, 0x80deb1fe, 0x9bdc06a7, 0xc19bf174,
  0xe49b69c1, 0xefbe4786, 0x0fc19dc6, 0x240ca1cc, 0x2de92c6f, 0x4a7484aa, 0x5cb0a9dc, 0x76f988da,
  0x983e5152, 0xa831c66d, 0xb00327c8, 0xbf597fc7, 0xc6e00bf3, 0xd5a79147, 0x06ca6351, 0x14292967,
  0x27b70a85, 0x2e1b2138, 0x4d2c6dfc, 0x53380d13, 0x650a7354, 0x766a0abb, 0x81c2c92e, 0x92722c85,
  0xa2bfe8a1, 0xa81a664b, 0xc24b8b70, 0xc76c51a3, 0xd192e819, 0xd6990624, 0xf40e3585, 0x106aa070,
  0x19a4c116, 0x1e376c08, 0x2748774c, 0x34b0bcb5, 0x391c0cb3, 0x4ed8aa4a, 0x5b9cca4f, 0x682e6ff3,
  0x748f82ee, 0x78a5636f, 0x84c87814, 0x8cc70208, 0x90befffa, 0xa4506ceb, 0xbef9a3f7, 0xc67178f2]

/-- The eight words of the state. -/
structure Digest where
  a : UInt32 := 0x6a09e667
  b : UInt32 := 0xbb67ae85
  c : UInt32 := 0x3c6ef372
  d : UInt32 := 0xa54ff53a
  e : UInt32 := 0x510e527f
  f : UInt32 := 0x9b05688c
  g : UInt32 := 0x1f83d9ab
  h : UInt32 := 0x5be0cd19
  deriving DecidableEq

def Digest.words (s : Digest) : List UInt32 := [s.a, s.b, s.c, s.d, s.e, s.f, s.g, s.h]

def rotateRight (value count : UInt32) : UInt32 := (value >>> count) ||| (value <<< (32 - count))

/-- The first sixteen words of a block, most significant byte first. -/
def blockWords : Bytes → List UInt32
  | p :: q :: r :: s :: rest =>
    ((p.toUInt32 <<< 24) ||| (q.toUInt32 <<< 16) ||| (r.toUInt32 <<< 8) ||| s.toUInt32) ::
      blockWords rest
  | _ => []

/-- One more word of the schedule, the latest word standing first. -/
def nextWord (words : List UInt32) : UInt32 :=
  let w := fun i => words.getD i 0
  let sigma0 := rotateRight (w 14) 7 ^^^ rotateRight (w 14) 18 ^^^ (w 14 >>> 3)
  let sigma1 := rotateRight (w 1) 17 ^^^ rotateRight (w 1) 19 ^^^ (w 1 >>> 10)
  w 15 + sigma0 + w 6 + sigma1

def schedule : ℕ → List UInt32 → List UInt32
  | 0, words => words
  | n + 1, words => schedule n (nextWord words :: words)

def round (s : Digest) (kw : UInt32 × UInt32) : Digest :=
  let sum1 := rotateRight s.e 6 ^^^ rotateRight s.e 11 ^^^ rotateRight s.e 25
  let choice := (s.e &&& s.f) ^^^ (~~~s.e &&& s.g)
  let temporary1 := s.h + sum1 + choice + kw.1 + kw.2
  let sum0 := rotateRight s.a 2 ^^^ rotateRight s.a 13 ^^^ rotateRight s.a 22
  let majority := (s.a &&& s.b) ^^^ (s.a &&& s.c) ^^^ (s.b &&& s.c)
  let temporary2 := sum0 + majority
  ⟨temporary1 + temporary2, s.a, s.b, s.c, s.d + temporary1, s.e, s.f, s.g⟩

/-- `Sha256::transform`. -/
def transform (s : Digest) (block : Bytes) : Digest :=
  let words := (schedule 48 (blockWords block).reverse).reverse
  let t := (kRoundConstants.zip words).foldl round s
  ⟨s.a + t.a, s.b + t.b, s.c + t.c, s.d + t.d, s.e + t.e, s.f + t.f, s.g + t.g, s.h + t.h⟩

/-- What `Sha256::finish` appends: a one bit, zeros up to the last eight bytes of a block, and
the length in bits. -/
def padding (length : ℕ) : Bytes :=
  0x80 :: List.replicate ((119 - length % 64) % 64) 0 ++
    (List.range 8).map fun i => (length * 8 / 256 ^ (7 - i)).toUInt8

def blocks : ℕ → Bytes → List Bytes
  | 0, _ => []
  | n + 1, s => s.take 64 :: blocks n (s.drop 64)

/-- The eight digits of a word. -/
def hexWord (w : UInt32) : Bytes :=
  (List.range 8).map fun i => hexDigit (w.toNat / 16 ^ (7 - i) % 16)

/-- `sha256_hex`. -/
def sha256Hex (content : Bytes) : Bytes :=
  let padded := content ++ padding content.length
  ((blocks (padded.length / 64) padded).foldl transform {}).words.flatMap hexWord

example : sha256Hex (str "abc") =
    str "ba7816bf8f01cfea414140de5dae2223b00361a396177a9cb410ff61f20015ad" := by decide +kernel

lemma hexDigit_isHex : ∀ n < 16, (isDigit (hexDigit n) || (97 ≤ hexDigit n && hexDigit n ≤ 102)) = true := by
  decide

/-- A digest is 64 hexadecimal digits. -/
lemma length_sha256Hex (content : Bytes) : (sha256Hex content).length = 64 := by
  simp [sha256Hex, Digest.words, hexWord]

lemma sha256Hex_isHex {content : Bytes} {b : UInt8} (h : b ∈ sha256Hex content) :
    (isDigit b || (97 ≤ b && b ≤ 102)) = true := by
  obtain ⟨w, -, hb⟩ := List.mem_flatMap.mp h
  obtain ⟨i, -, rfl⟩ := List.mem_map.mp hb
  exact hexDigit_isHex _ (Nat.mod_lt _ (by norm_num))

end CcsTrans.Core
