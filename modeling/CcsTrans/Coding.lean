import Mathlib.Data.Int.Notation
import Mathlib.Tactic.Common

/-!
Values as bytes.

A codec writes values as bytes such that they can be read back from the front of a text.
Codecs are built from those of the parts.
-/

namespace CcsTrans.Coding

structure Codec (α : Type) where
  enc : α → List UInt8
  dec : List UInt8 → Option (α × List UInt8)
  dec_enc : ∀ a r, dec (enc a ++ r) = some (a, r)

variable {α β : Type}

def byte : Codec UInt8 where
  enc b := [b]
  dec
    | [] => none
    | b :: r => some (b, r)
  dec_enc _ _ := rfl

/-- The ones at the front, up to a zero. -/
def countOnes : List UInt8 → Option (ℕ × List UInt8)
  | [] => none
  | b :: r =>
    if b = 0 then some (0, r)
    else (countOnes r).map fun (n, r) => (n + 1, r)

lemma countOnes_replicate (n : ℕ) (r : List UInt8) :
    countOnes (List.replicate n 1 ++ 0 :: r) = some (n, r) := by
  induction n with
  | zero => rfl
  | succ n ih => simp [List.replicate_succ, countOnes, ih]

/-- Numbers, as so many ones. -/
def nat : Codec ℕ where
  enc n := List.replicate n 1 ++ [0]
  dec := countOnes
  dec_enc n r := by
    rw [List.append_assoc]
    exact countOnes_replicate n r

/-- A codec of what is like other values. -/
def Codec.like (c : Codec α) (f : β → α) (g : α → β) (h : ∀ b, g (f b) = b) : Codec β where
  enc b := c.enc (f b)
  dec s := (c.dec s).map fun (a, r) => (g a, r)
  dec_enc b r := by simp [c.dec_enc, h]

def Codec.prod (c : Codec α) (d : Codec β) : Codec (α × β) where
  enc p := c.enc p.1 ++ d.enc p.2
  dec s := (c.dec s).bind fun (a, r) => (d.dec r).map fun (b, r) => ((a, b), r)
  dec_enc p r := by simp [List.append_assoc, c.dec_enc, d.dec_enc]

/-- So many values, one after another. -/
def Codec.times (c : Codec α) : ℕ → List UInt8 → Option (List α × List UInt8)
  | 0, r => some ([], r)
  | n + 1, r => (c.dec r).bind fun (a, r) => (c.times n r).map fun (as, r) => (a :: as, r)

lemma Codec.times_enc (c : Codec α) (as : List α) (r : List UInt8) :
    c.times as.length (as.flatMap c.enc ++ r) = some (as, r) := by
  induction as with
  | nil => rfl
  | cons a as ih => simp [Codec.times, List.append_assoc, c.dec_enc, ih]

def Codec.list (c : Codec α) : Codec (List α) where
  enc as := nat.enc as.length ++ as.flatMap c.enc
  dec s := (nat.dec s).bind fun (n, r) => c.times n r
  dec_enc as r := by simp [List.append_assoc, nat.dec_enc, c.times_enc]

/-- A value that may be missing, as a list. -/
def Codec.option (c : Codec α) : Codec (Option α) :=
  c.list.like Option.toList List.head? fun a => by cases a <;> rfl

def int : Codec ℤ :=
  (nat.prod nat).like (fun n => (n.toNat, (-n).toNat)) (fun p => (p.1 : ℤ) - p.2) fun n => by
    simp only
    omega

end CcsTrans.Coding
