import CcsTrans.GuiIpc.JsonCodec

/-!
Integers of messages.

The library keeps an integer in 64 bits, with a sign or without one, and converts from one to the
other as machine integers are. A reader of a signed type converts before it looks at the range, so
that integers close to the largest of all pass for small negative ones.
-/

namespace CcsTrans.GuiIpc

open CcsTrans.Text CcsTrans.Json

/-! ### Integer types -/

/-- An integer type of the program, of at most 64 bits. -/
structure IntegerType where
  signed : Bool
  bits : ℕ
  pos : 0 < bits
  le : bits ≤ 64

namespace IntegerType

def int32 : IntegerType := ⟨true, 32, by decide, by decide⟩
def int64 : IntegerType := ⟨true, 64, by decide, by decide⟩

variable (t : IntegerType)

/-- `std::numeric_limits<Integer>::min()`. -/
def min : ℤ := if t.signed then -2 ^ (t.bits - 1) else 0

/-- `std::numeric_limits<Integer>::max()`. -/
def max : ℤ := if t.signed then 2 ^ (t.bits - 1) - 1 else 2 ^ t.bits - 1

/-- The integer is one of the type. -/
def Holds (n : ℤ) : Prop := t.min ≤ n ∧ n ≤ t.max

instance (n : ℤ) : Decidable (t.Holds n) := inferInstanceAs (Decidable (_ ∧ _))

/-- `static_cast<Integer>`. -/
def cast (n : ℤ) : ℤ := if t.signed then n.bmod (2 ^ t.bits) else n % 2 ^ t.bits

lemma two_pow_bits : (2 : ℤ) ^ t.bits = 2 * 2 ^ (t.bits - 1) := by
  rw [← pow_succ', Nat.sub_add_cancel t.pos]

lemma two_pow_le : (2 : ℤ) ^ (t.bits - 1) ≤ 2 ^ 63 :=
  pow_le_pow_right₀ (by norm_num) (by have := t.le; omega)

/-- What the type has is not changed by the cast. -/
lemma cast_of_holds {n : ℤ} (h : t.Holds n) : t.cast n = n := by
  obtain ⟨hmin, hmax⟩ := h
  have hbits := t.two_pow_bits
  unfold min max at *
  unfold cast
  split_ifs at * with hsigned
  · refine Int.bmod_eq_of_le_mul_two ?_ ?_
    · push_cast
      omega
    · push_cast
      omega
  · exact Int.emod_eq_of_lt hmin (by omega)

end IntegerType

/-! ### Reading -/

/-- `get<std::int64_t>()` of an integer. -/
def getInt64 : Value → Int64
  | .int n => n
  | .uint n => n.toInt64
  | _ => 0

/-- `get<std::uint64_t>()` of an integer. -/
def getUInt64 : Value → UInt64
  | .int n => n.toUInt64
  | .uint n => n
  | _ => 0

/-- `is_number_integer`. -/
def isNumberInteger : Value → Bool
  | .int _ => true
  | .uint _ => true
  | _ => false

/-- `is_number_unsigned`. -/
def isNumberUnsigned : Value → Bool
  | .uint _ => true
  | _ => false

/-- `read_integer`. -/
def readInteger (t : IntegerType) (value : Value) (path : Bytes) : Except Bytes ℤ :=
  if t.signed then
    if !isNumberInteger value then .error (path ++ str " must be a JSON integer")
    else
      let parsed := (getInt64 value).toInt
      if parsed < t.min ∨ t.max < parsed then
        .error (path ++ str " is outside the supported integer range")
      else .ok (t.cast parsed)
  else if !isNumberUnsigned value && !(isNumberInteger value && decide (0 ≤ (getInt64 value).toInt)) then
    .error (path ++ str " must be a non-negative JSON integer")
  else
    let parsed : ℤ := (getUInt64 value).toNat
    if t.max < parsed then .error (path ++ str " is outside the supported integer range")
    else .ok (t.cast parsed)

/-- The integer that a value stands for. -/
inductive Denotes : Value → ℤ → Prop
  | int (n : Int64) : Denotes (.int n) n.toInt
  | uint (n : UInt64) : Denotes (.uint n) n.toNat

/-- Integers close to the largest, which a signed type takes for negative ones. -/
def Wraps (t : IntegerType) (n : ℤ) : Prop := t.signed = true ∧ 2 ^ 64 - 2 ^ (t.bits - 1) ≤ n

instance (t : IntegerType) (n : ℤ) : Decidable (Wraps t n) := inferInstanceAs (Decidable (_ ∧ _))

/-- An integer without a sign, from 2^63 on, has one when it is converted. -/
lemma toInt_toInt64 (n : UInt64) :
    n.toInt64.toInt = if n.toNat < 2 ^ 63 then (n.toNat : ℤ) else n.toNat - 2 ^ 64 := by
  have hcond : n.toInt64.toInt = if 2 * n.toNat < 2 ^ 64 then (n.toNat : ℤ) else n.toNat - (2 ^ 64 : ℕ) :=
    BitVec.toInt_eq_toNat_cond n.toBitVec
  rw [hcond]
  split_ifs <;> first | rfl | omega

/-- An integer that is not negative is the same without a sign. -/
lemma toNat_toUInt64 {n : Int64} (h : 0 ≤ n.toInt) : (n.toUInt64.toNat : ℤ) = n.toInt := by
  have hcond : n.toInt = if 2 * n.toUInt64.toNat < 2 ^ 64 then (n.toUInt64.toNat : ℤ)
      else n.toUInt64.toNat - (2 ^ 64 : ℕ) := BitVec.toInt_eq_toNat_cond n.toBitVec
  have hlt := n.toUInt64.toNat_lt
  rw [hcond] at h ⊢
  split_ifs at h ⊢
  · rfl
  · push_cast at h
    omega

lemma readInteger_signed {t : IntegerType} (h : t.signed = true) (value : Value)
    (hvalue : isNumberInteger value = true) (path : Bytes) (m : ℤ) :
    readInteger t value path = .ok m ↔ t.Holds (getInt64 value).toInt ∧ m = (getInt64 value).toInt := by
  unfold readInteger
  rw [if_pos h, hvalue]
  dsimp only
  rw [Bool.not_true, if_neg Bool.false_ne_true]
  by_cases hrange : t.Holds (getInt64 value).toInt
  · have hnot : ¬ ((getInt64 value).toInt < t.min ∨ t.max < (getInt64 value).toInt) := by
      rw [not_or, not_lt, not_lt]
      exact hrange
    rw [if_neg hnot, t.cast_of_holds hrange]
    simp [hrange, eq_comm]
  · have hout : (getInt64 value).toInt < t.min ∨ t.max < (getInt64 value).toInt := by
      rw [IntegerType.Holds, not_and_or, not_le, not_le] at hrange
      exact hrange
    rw [if_pos hout]
    simp [hrange]

lemma readInteger_unsigned {t : IntegerType} (h : t.signed = false) {value : Value} {n : ℤ}
    (hvalue : Denotes value n) (path : Bytes) (m : ℤ) :
    readInteger t value path = .ok m ↔ t.Holds n ∧ m = n := by
  have hmin : t.min = 0 := by
    unfold IntegerType.min
    rw [if_neg (by rw [h]; exact Bool.false_ne_true)]
  -- a value that is not negative is read as it stands
  have hread (hn : 0 ≤ n) (hparsed : ((getUInt64 value).toNat : ℤ) = n) : ((if t.max < n then
      .error (path ++ str " is outside the supported integer range")
      else .ok (t.cast n) : Except Bytes ℤ) = .ok m ↔ t.Holds n ∧ m = n) := by
    split_ifs with hmax
    · simp [IntegerType.Holds, not_le.mpr hmax]
    · have hholds : t.Holds n := ⟨hmin ▸ hn, not_lt.mp hmax⟩
      rw [t.cast_of_holds hholds]
      simp [hholds, eq_comm]
  unfold readInteger
  rw [if_neg (by rw [h]; exact Bool.false_ne_true)]
  cases hvalue with
  | uint n =>
    rw [isNumberUnsigned, Bool.not_true, Bool.false_and, if_neg Bool.false_ne_true]
    exact hread (Int.natCast_nonneg _) rfl
  | int n =>
    by_cases hn : 0 ≤ n.toInt
    · have hparsed : ((getUInt64 (.int n)).toNat : ℤ) = n.toInt := toNat_toUInt64 hn
      simp only [isNumberUnsigned, isNumberInteger, getInt64, hn, decide_true, Bool.and_self, Bool.not_true,
        Bool.and_false, Bool.false_eq_true, if_false, hparsed]
      exact hread hn hparsed
    · simp [isNumberUnsigned, isNumberInteger, getInt64, hn, IntegerType.Holds, hmin]

/-- **Integers are read exactly, but for the largest**, which a reader of a signed type takes for
negative ones. -/
theorem readInteger_exact_iff (t : IntegerType) {value : Value} {n : ℤ} (h : Denotes value n) (path : Bytes) :
    (∀ m, readInteger t value path = .ok m ↔ t.Holds n ∧ m = n) ↔ ¬ Wraps t n := by
  cases hsigned : t.signed with
  | false => simp [readInteger_unsigned hsigned h path, Wraps, hsigned]
  | true =>
    have hpow := t.two_pow_le
    have hpos : (0 : ℤ) < 2 ^ (t.bits - 1) := by positivity
    have hmin : t.min = -2 ^ (t.bits - 1) := if_pos hsigned
    have hmax : t.max = 2 ^ (t.bits - 1) - 1 := if_pos hsigned
    have hwraps : Wraps t n ↔ 2 ^ 64 - 2 ^ (t.bits - 1) ≤ n := by simp [Wraps, hsigned]
    cases h with
    | int n =>
      have hlt := n.toInt_lt
      have hread := readInteger_signed hsigned (.int n) rfl path
      rw [hwraps]
      exact ⟨fun _ => by omega, fun _ => hread⟩
    | uint n =>
      have hread := readInteger_signed hsigned (.uint n) rfl path
      have hlt := n.toNat_lt
      rw [show (getInt64 (.uint n)).toInt = _ from toInt_toInt64 n] at hread
      rw [hwraps]
      split_ifs at hread with hsmall
      · exact ⟨fun _ => by omega, fun _ => hread⟩
      · -- nothing so large is in the range, and what is read instead may be
        have hout : ¬ t.Holds n.toNat := fun hholds => by have := hholds.2; omega
        have hwrapped : t.Holds (n.toNat - 2 ^ 64) ↔ 2 ^ 64 - 2 ^ (t.bits - 1) ≤ (n.toNat : ℤ) := by
          rw [IntegerType.Holds, hmin, hmax]
          constructor
          · intro hholds
            omega
          · intro hle
            constructor <;> omega
        rw [← hwrapped]
        constructor
        · intro hexact hholds
          exact hout ((hexact _).mp ((hread _).mpr ⟨hholds, rfl⟩)).1
        · intro hnot m
          rw [hread]
          simp only [hnot, hout, false_and]

theorem readInteger_exact_iff_seven : readInteger .int32 (.uint 7) [] = .ok 7 := by
  have hexact := (readInteger_exact_iff .int32 (.uint 7) []).mpr (by decide)
  exact (hexact 7).mpr ⟨by decide, rfl⟩

/-- The largest integer of all is read as minus one. -/
theorem readInteger_largest : Denotes (.uint 18446744073709551615) 18446744073709551615 ∧
    ¬ IntegerType.int64.Holds 18446744073709551615 ∧
    readInteger .int64 (.uint 18446744073709551615) [] = .ok (-1) :=
  ⟨.uint 18446744073709551615, by decide, by decide⟩

end CcsTrans.GuiIpc
