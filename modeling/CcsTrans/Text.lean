import Mathlib.Data.Nat.Digits.Defs
import Mathlib.Data.Nat.Digits.Lemmas
import Mathlib.Tactic.IntervalCases

/-!
Byte strings.

A `std::string` is a list of bytes: nothing says that it is UTF-8, and sizes count bytes.
The character classes are those of the "C" locale, which look at ASCII only.
-/

namespace CcsTrans.Text

abbrev Bytes := List UInt8

instance : LawfulBEq Bytes := List.instLawfulBEq

/-- The byte of an ASCII character. -/
def ch (c : Char) : UInt8 := c.toNat.toUInt8

/-- The bytes of an ASCII literal. -/
def str (s : String) : Bytes := s.toList.map ch

/-! ### Character classes -/

def isDigit (b : UInt8) : Bool := 48 ≤ b && b ≤ 57
def isLower (b : UInt8) : Bool := 97 ≤ b && b ≤ 122
def isUpper (b : UInt8) : Bool := 65 ≤ b && b ≤ 90
def isAlnum (b : UInt8) : Bool := isDigit b || isLower b || isUpper b
def isSpace (b : UInt8) : Bool := b == 32 || (9 ≤ b && b ≤ 13)
def isControl (b : UInt8) : Bool := b < 32 || b == 127
def isHex (b : UInt8) : Bool := isDigit b || (97 ≤ b && b ≤ 102) || (65 ≤ b && b ≤ 70)

def toLower (b : UInt8) : UInt8 := if isUpper b then b + 32 else b

def containsControl (s : Bytes) : Bool := s.any isControl

/-- Does `s` start with `p`? -/
def startsWith (p s : Bytes) : Bool := p.isPrefixOf s

lemma startsWith_iff {p s : Bytes} : startsWith p s = true ↔ ∃ t, s = p ++ t := by
  rw [startsWith, List.isPrefixOf_iff_prefix]
  exact ⟨fun ⟨t, h⟩ => ⟨t, h.symm⟩, fun ⟨t, h⟩ => ⟨t, h.symm⟩⟩

/-- The text before and after the first occurrence of `p`. -/
def cut (p : Bytes) : Bytes → Option (Bytes × Bytes)
  | [] => if p = [] then some ([], []) else none
  | b :: t =>
    if startsWith p (b :: t) then some ([], (b :: t).drop p.length)
    else (cut p t).map fun (x, y) => (b :: x, y)

/-- The pieces between the bytes `c`: one more than there are such bytes. -/
def splitOn (c : UInt8) : Bytes → List Bytes
  | [] => [[]]
  | b :: t =>
    if b = c then [] :: splitOn c t
    else match splitOn c t with
      | [] => [[b]]
      | x :: xs => (b :: x) :: xs

/-! ### Decimal numerals -/

/-- The digit byte of a number below ten. -/
def digit (d : ℕ) : UInt8 := (48 + d).toUInt8

/-- `std::to_string` of an unsigned number. -/
def decimal (n : ℕ) : Bytes :=
  if n = 0 then [48] else (Nat.digits 10 n).reverse.map digit

/-- `std::to_string` of a signed number. -/
def decimalInt (n : ℤ) : Bytes := if n < 0 then ch '-' :: decimal n.natAbs else decimal n.natAbs

/-- The value of a run of digits. -/
def digitsValue (ds : Bytes) : ℕ := ds.foldl (fun n d => n * 10 + (d.toNat - 48)) 0

lemma digit_toNat {d : ℕ} (h : d < 10) : (digit d).toNat = 48 + d := by
  interval_cases d <;> rfl

lemma isDigit_digit {d : ℕ} (h : d < 10) : isDigit (digit d) = true := by
  interval_cases d <;> rfl

lemma foldl_digits (ds : List ℕ) (h : ∀ d ∈ ds, d < 10) (n : ℕ) :
    (ds.map digit).foldl (fun n d => n * 10 + (d.toNat - 48)) n =
      n * 10 ^ ds.length + Nat.ofDigits 10 ds.reverse := by
  induction ds generalizing n with
  | nil => simp
  | cons d t ih =>
    have hd := digit_toNat (h d (by simp))
    rw [List.map_cons, List.foldl_cons, ih (fun x hx => h x (by simp [hx])), hd]
    simp only [List.reverse_cons, Nat.ofDigits_append, Nat.ofDigits_singleton,
      List.length_reverse, List.length_cons, pow_succ]
    rw [show 48 + d - 48 = d by omega]
    ring

/-- The numeral of a number has its value. -/
lemma digitsValue_decimal (n : ℕ) : digitsValue (decimal n) = n := by
  unfold digitsValue decimal
  split
  · next h => subst h; rfl
  · rw [foldl_digits _ fun d hd => Nat.digits_lt_base (by norm_num) (List.mem_reverse.mp hd)]
    simp [Nat.ofDigits_digits]

lemma decimal_isDigit (n : ℕ) : ∀ b ∈ decimal n, isDigit b = true := by
  unfold decimal
  intro b hb
  split at hb
  · rw [List.mem_singleton] at hb; subst hb; rfl
  · obtain ⟨d, hd, rfl⟩ := List.mem_map.mp hb
    exact isDigit_digit (Nat.digits_lt_base (by norm_num) (List.mem_reverse.mp hd))

lemma decimal_ne_nil (n : ℕ) : decimal n ≠ [] := by
  unfold decimal
  split
  · simp
  · next h => simpa using Nat.digits_ne_nil_iff_ne_zero.mpr h

/-- Only zero has a numeral that starts with the digit zero. -/
lemma decimal_head {n : ℕ} {b : UInt8} {t : Bytes} (h : decimal n = b :: t) (hn : n ≠ 0) :
    b ≠ 48 := by
  rw [decimal, if_neg hn] at h
  have hne : Nat.digits 10 n ≠ [] := Nat.digits_ne_nil_iff_ne_zero.mpr hn
  have hlast := Nat.getLast_digit_ne_zero 10 hn
  have hlt : (Nat.digits 10 n).getLast hne < 10 :=
    Nat.digits_lt_base (by norm_num) (List.getLast_mem hne)
  have hhead : b = digit ((Nat.digits 10 n).getLast hne) := by
    rw [← List.head_reverse (by simpa using hne)]
    have := congrArg List.head? h
    rw [List.head?_map, List.head?_eq_some_head (by simpa using hne)] at this
    simpa using this.symm
  intro hb
  have := digit_toNat hlt
  rw [← hhead, hb] at this
  simp at this
  omega

lemma decimal_zero : decimal 0 = [48] := rfl

/-- A number below `10 ^ k` has at most `k` digits, and every numeral has one. -/
lemma decimal_length_le {n k : ℕ} (h : n < 10 ^ k) (hk : 0 < k) : (decimal n).length ≤ k := by
  unfold decimal
  split
  · simp; omega
  · simpa using (Nat.digits_length_le_iff (by norm_num) n).mpr h

lemma digit_of_isDigit {b : UInt8} (h : isDigit b = true) :
    b.toNat - 48 < 10 ∧ digit (b.toNat - 48) = b := by
  have hall : ∀ n < 256, isDigit n.toUInt8 = true →
      n - 48 < 10 ∧ digit (n - 48) = n.toUInt8 := by decide +kernel
  simpa using hall b.toNat b.toNat_lt (by simpa using h)

/-- A run of digits without a leading zero is the numeral of its value. -/
lemma decimal_digitsValue {s : Bytes} (hne : s ≠ []) (hd : ∀ b ∈ s, isDigit b = true)
    (hz : s.head? = some 48 → s = [48]) : decimal (digitsValue s) = s := by
  obtain ⟨ds, hds, rfl⟩ : ∃ ds : List ℕ, (∀ d ∈ ds, d < 10) ∧ ds.map digit = s := by
    refine ⟨s.map fun b => b.toNat - 48, ?_, ?_⟩
    · intro d hmem
      obtain ⟨b, hb, rfl⟩ := List.mem_map.mp hmem
      exact (digit_of_isDigit (hd b hb)).1
    · rw [List.map_map]
      exact (List.map_congr_left fun b hb => (digit_of_isDigit (hd b hb)).2).trans s.map_id
  have hvalue : digitsValue (ds.map digit) = Nat.ofDigits 10 ds.reverse := by
    rw [digitsValue, foldl_digits ds hds]
    simp
  rw [hvalue]
  cases ds with
  | nil => exact absurd rfl hne
  | cons d ds =>
    by_cases hzero : d = 0
    · subst hzero
      obtain ⟨-, rfl⟩ : digit 0 = 48 ∧ ds = [] := by simpa using hz rfl
      rfl
    · have hdigits : Nat.digits 10 (Nat.ofDigits 10 (d :: ds).reverse) = (d :: ds).reverse :=
        Nat.digits_ofDigits 10 (by norm_num) _ (fun x hx => hds x (List.mem_reverse.mp hx))
          fun _ => by simpa using hzero
      have hpos : Nat.ofDigits 10 (d :: ds).reverse ≠ 0 := by
        intro h0
        rw [h0] at hdigits
        simp at hdigits
      rw [decimal, if_neg hpos, hdigits, List.reverse_reverse]

/-! ### Bytes of machine integers -/

lemma or_shiftLeft {a b i : ℕ} (h : a < 2 ^ i) : a ||| b <<< i = a + b * 2 ^ i := by
  rw [Nat.or_comm, ← Nat.shiftLeft_add_eq_or_of_lt h, Nat.shiftLeft_eq, Nat.add_comm]

lemma shiftLeft_byte {b : UInt8} {i : ℕ} (h : i ≤ 24) : b.toNat <<< i % 2 ^ 32 = b.toNat <<< i := by
  rw [Nat.shiftLeft_eq]
  apply Nat.mod_eq_of_lt
  calc b.toNat * 2 ^ i ≤ 255 * 2 ^ 24 :=
        Nat.mul_le_mul (by have := b.toNat_lt; omega) (Nat.pow_le_pow_right (by omega) h)
    _ < 2 ^ 32 := by omega

end CcsTrans.Text
