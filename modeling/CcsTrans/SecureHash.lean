import Mathlib.Data.List.Basic
import Mathlib.Data.Nat.Find
import Mathlib.Data.Nat.NthRoot.Defs
import Mathlib.Tactic.Ring

/-!
The secure hash of 256 bits, as its standard defines it.

A message is a string of bits. It is padded to blocks of 512 bits, and the blocks are taken one
after the other into a state of eight words. The constants are what the standard takes them from,
the fractions of roots of primes.
-/

namespace CcsTrans.SecureHash

abbrev Word := BitVec 32

/-! ### Functions of words -/

def ch (x y z : Word) : Word := (x &&& y) ^^^ (~~~x &&& z)

def maj (x y z : Word) : Word := (x &&& y) ^^^ (x &&& z) ^^^ (y &&& z)

/-- The functions of the state, with upper-case letters in the standard. -/
def sum0 (x : Word) : Word := x.rotateRight 2 ^^^ x.rotateRight 13 ^^^ x.rotateRight 22

def sum1 (x : Word) : Word := x.rotateRight 6 ^^^ x.rotateRight 11 ^^^ x.rotateRight 25

/-- The functions of the schedule, with lower-case letters in the standard. -/
def sigma0 (x : Word) : Word := x.rotateRight 7 ^^^ x.rotateRight 18 ^^^ (x >>> 3)

def sigma1 (x : Word) : Word := x.rotateRight 17 ^^^ x.rotateRight 19 ^^^ (x >>> 10)

/-! ### Constants -/

/-- The first sixty-four primes. -/
def primes : List ℕ := (List.range 312).filter fun p => 2 ≤ p ∧ ∀ d < p, 2 ≤ d → p % d ≠ 0

/-- The first thirty-two bits of the fraction of a root. -/
def fraction (k p : ℕ) : Word := BitVec.ofNat 32 (Nat.nthRoot k (p * 2 ^ (32 * k)))

def constants : List Word := primes.map (fraction 3)

/-- The eight working variables, or the hash value between blocks. -/
structure State where
  a : Word
  b : Word
  c : Word
  d : Word
  e : Word
  f : Word
  g : Word
  h : Word
  deriving DecidableEq

def State.words (s : State) : List Word := [s.a, s.b, s.c, s.d, s.e, s.f, s.g, s.h]

def initial : State :=
  ⟨fraction 2 2, fraction 2 3, fraction 2 5, fraction 2 7, fraction 2 11, fraction 2 13, fraction 2 17,
    fraction 2 19⟩

/-! ### Padding -/

/-- The number that bits stand for, the most significant first. -/
def number (bits : List Bool) : ℕ := bits.foldl (fun n b => 2 * n + b.toNat) 0

/-- The bits of a number, the most significant first. -/
def bitsOf (width n : ℕ) : List Bool := (List.range width).map fun i => n.testBit (width - 1 - i)

lemma exists_zeros (length : ℕ) : ∃ k, (length + 1 + k) % 512 = 448 :=
  ⟨(959 - length % 512) % 512, by omega⟩

/-- The least number of zeros behind the one. -/
def zeros (length : ℕ) : ℕ := Nat.find (exists_zeros length)

def pad (message : List Bool) : List Bool :=
  message ++ [true] ++ List.replicate (zeros message.length) false ++ bitsOf 64 message.length

/-! ### Blocks -/

/-- A word of a block of bits. -/
def word (block : List Bool) (t : ℕ) : Word := BitVec.ofNat 32 (number ((block.drop (32 * t)).take 32))

/-- The schedule of a block. -/
def scheduled (block : List Bool) (t : ℕ) : Word :=
  if t < 16 then word block t
  else sigma1 (scheduled block (t - 2)) + scheduled block (t - 7) + sigma0 (scheduled block (t - 15)) +
    scheduled block (t - 16)
termination_by t

def step (s : State) (k w : Word) : State :=
  let t1 := s.h + sum1 s.e + ch s.e s.f s.g + k + w
  let t2 := sum0 s.a + maj s.a s.b s.c
  ⟨t1 + t2, s.a, s.b, s.c, s.d + t1, s.e, s.f, s.g⟩

/-- The working variables after some of the steps. -/
def steps (s : State) (block : List Bool) : ℕ → State
  | 0 => s
  | t + 1 => step (steps s block t) (constants.getD t 0) (scheduled block t)

/-- The hash value after one more block. -/
def compress (s : State) (block : List Bool) : State :=
  let t := steps s block 64
  ⟨t.a + s.a, t.b + s.b, t.c + s.c, t.d + s.d, t.e + s.e, t.f + s.f, t.g + s.g, t.h + s.h⟩

/-- The hash value after some of the blocks. -/
def hashed (bits : List Bool) : ℕ → State
  | 0 => initial
  | i + 1 => compress (hashed bits i) ((bits.drop (512 * i)).take 512)

/-- **The hash of a message.** -/
def hash (message : List Bool) : State := hashed (pad message) ((pad message).length / 512)

/-! ### Numbers and bits -/

lemma zeros_eq (length : ℕ) : zeros length = (959 - length % 512) % 512 := by
  refine (Nat.find_eq_iff _).mpr ⟨by omega, fun k hk => ?_⟩
  omega

lemma foldl_number (bits : List Bool) (n : ℕ) :
    bits.foldl (fun n b => 2 * n + b.toNat) n = n * 2 ^ bits.length + number bits := by
  unfold number
  induction bits generalizing n with
  | nil => simp
  | cons b bits ih =>
    rw [List.foldl_cons, List.foldl_cons, ih, ih (2 * 0 + b.toNat), List.length_cons, pow_succ]
    ring

lemma number_append (u v : List Bool) : number (u ++ v) = number u * 2 ^ v.length + number v := by
  rw [number, List.foldl_append, foldl_number]
  rfl

lemma length_bitsOf (width n : ℕ) : (bitsOf width n).length = width := by
  rw [bitsOf, List.length_map, List.length_range]

end CcsTrans.SecureHash
