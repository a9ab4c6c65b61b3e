import CcsTrans.Decimals
import CcsTrans.Rules.Frames

/-!
Array indices in machine words.

`parse_array_index` computes with `std::size_t`. What it accepts and what it throws are those of
the function on natural numbers that the rules are modelled with.
-/

namespace CcsTrans.Rules.Word

open CcsTrans.Text CcsTrans.Decimals CcsTrans.Fallible

/-- What is thrown where the loop gives up. -/
def thrown : Refusal → Thrown
  | .notDigit => .ruleRuntimeError (str "invalid_array_index")
      (str "JSON Pointer contains an invalid array index")
  | .tooLarge => .ruleRuntimeError (str "invalid_array_index")
      (str "JSON Pointer array index is too large")

/-- `parse_array_index`. -/
def parseArrayIndex (token : Bytes) (size : UInt64) : Except Thrown UInt64 :=
  if token = [] ∨ token = str "-" ∨ (token.length > 1 ∧ token.head? = some (ch '0')) then
    .error (thrown .notDigit)
  else match Decimals.scan 0 token with
    | .error refusal => .error (thrown refusal)
    | .ok value =>
      if value ≥ size then
        .error (.ruleRuntimeError (str "array_index_out_of_bounds")
          (str "JSON Pointer array index is out of bounds"))
      else .ok value

/-- The loops do the same, step by step. -/
lemma arrayIndexDigits_eq (value : UInt64) (token : Bytes) :
    arrayIndexDigits value.toNat token = ((Decimals.scan value token).mapError thrown).map UInt64.toNat := by
  induction token generalizing value with
  | nil => rfl
  | cons b t ih =>
    rw [arrayIndexDigits, Decimals.scan]
    by_cases hb : isDigit b = true
    · obtain ⟨hdigit, hlt⟩ := toNat_digit hb
      have hguard : value > (maxValue - (b - ch '0').toUInt64) / 10 ↔
          value.toNat > (2 ^ 64 - 1 - (b.toNat - 48)) / 10 := by
        rw [gt_iff_lt, UInt64.lt_iff_toNat_lt, toNat_quotient (by omega), hdigit]
      rw [if_neg (by simp [hb]), if_neg fun hnot => (notDigit_iff b).mp hnot hb]
      simp only []
      by_cases hlarge : value > (maxValue - (b - ch '0').toUInt64) / 10
      · rw [if_pos hlarge, if_pos (hguard.mp hlarge)]
        rfl
      · have hsum := (fits_iff (by omega)).mp hlarge
        rw [if_neg hlarge, if_neg (mt hguard.mpr hlarge), ← ih, toNat_next hsum, hdigit]
    · rw [if_pos (by simp [hb]), if_pos ((notDigit_iff b).mpr hb)]
      rfl

/-- **The function on words is that on numbers**, with every error. -/
lemma parseArrayIndex_eq (token : Bytes) (size : UInt64) :
    Rules.parseArrayIndex token size.toNat = (parseArrayIndex token size).map UInt64.toNat := by
  have hdigits := arrayIndexDigits_eq 0 token
  rw [UInt64.toNat_zero] at hdigits
  unfold Rules.parseArrayIndex parseArrayIndex
  split_ifs with hbad
  · rfl
  · rw [hdigits]
    cases Decimals.scan 0 token with
    | error refusal => rfl
    | ok value =>
      by_cases hsize : value ≥ size
      · have hle := UInt64.le_iff_toNat_le.mp hsize
        simp only [Except.mapError, Except.map, if_pos hsize]
        exact if_pos hle
      · have hle := mt UInt64.le_iff_toNat_le.mpr hsize
        simp only [Except.mapError, Except.map, if_neg hsize]
        exact if_neg hle

/-- An index is accepted in its canonical numeral and in no other form. -/
lemma parseArrayIndex_ok_iff {token : Bytes} {size i : UInt64} :
    parseArrayIndex token size = .ok i ↔ token = decimal i.toNat ∧ i < size := by
  rw [UInt64.lt_iff_toNat_lt, ← Rules.parseArrayIndex_ok_iff size.toNat_lt, parseArrayIndex_eq]
  cases parseArrayIndex token size with
  | error e => exact ⟨nofun, nofun⟩
  | ok value =>
    change Except.ok value = Except.ok i ↔ Except.ok value.toNat = Except.ok i.toNat
    rw [Except.ok.injEq, Except.ok.injEq, UInt64.toNat_inj]

end CcsTrans.Rules.Word
