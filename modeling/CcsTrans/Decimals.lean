import CcsTrans.Text

/-!
Reading a decimal number into sixty-four bits.

A loop multiplies by ten and adds the next digit. Before it does, it compares what it has with a
quotient, so that it gives up where the result would not fit.
-/

namespace CcsTrans.Decimals

open CcsTrans.Text

/-- Why the loop gives up. -/
inductive Refusal where
  | notDigit
  | tooLarge
  deriving DecidableEq

/-- `std::numeric_limits<std::uint64_t>::max()`. -/
def maxValue : UInt64 := 0xFFFFFFFFFFFFFFFF

/-- The loop, from a value on. -/
def scan (value : UInt64) : Bytes → Except Refusal UInt64
  | [] => .ok value
  | b :: t =>
    if b < ch '0' ∨ b > ch '9' then .error .notDigit
    else
      let digit := (b - ch '0').toUInt64
      if value > (maxValue - digit) / 10 then .error .tooLarge
      else scan (value * 10 + digit) t

/-- The number that digits make behind a number. -/
def valueFrom (n : ℕ) (ds : Bytes) : ℕ := ds.foldl (fun n d => n * 10 + (d.toNat - 48)) n

lemma le_valueFrom (n : ℕ) (ds : Bytes) : n ≤ valueFrom n ds := by
  induction ds generalizing n with
  | nil => exact le_refl n
  | cons d ds ih =>
    have hrest := ih (n * 10 + (d.toNat - 48))
    change n ≤ valueFrom (n * 10 + (d.toNat - 48)) ds
    omega

/-! ### One digit -/

lemma isDigit_iff (b : UInt8) : isDigit b = true ↔ ch '0' ≤ b ∧ b ≤ ch '9' := by
  rw [isDigit, Bool.and_eq_true, decide_eq_true_iff, decide_eq_true_iff]
  rfl

lemma notDigit_iff (b : UInt8) : (b < ch '0' ∨ b > ch '9') ↔ ¬ isDigit b = true := by
  rw [isDigit_iff, not_and_or, UInt8.not_le, UInt8.not_le]

lemma toNat_digit {b : UInt8} (h : isDigit b = true) :
    (b - ch '0').toUInt64.toNat = b.toNat - 48 ∧ b.toNat - 48 < 10 := by
  obtain ⟨hle, hge⟩ := (isDigit_iff b).mp h
  have hzero : (ch '0').toNat = 48 := rfl
  have hnine : (ch '9').toNat = 57 := rfl
  rw [UInt8.le_iff_toNat_le, hnine] at hge
  rw [UInt8.toNat_toUInt64, UInt8.toNat_sub_of_le _ _ hle, hzero]
  omega

variable {value digit : UInt64}

lemma toNat_quotient (hdigit : digit.toNat < 10) :
    ((maxValue - digit) / 10).toNat = (2 ^ 64 - 1 - digit.toNat) / 10 := by
  have hmax : maxValue.toNat = 2 ^ 64 - 1 := rfl
  have hle : digit ≤ maxValue := UInt64.le_iff_toNat_le.mpr (by omega)
  rw [UInt64.toNat_div, UInt64.toNat_sub_of_le _ _ hle, hmax]
  rfl

/-- **The guard is exact**: it lets pass what fits, and nothing else. -/
lemma fits_iff (hdigit : digit.toNat < 10) :
    ¬ value > (maxValue - digit) / 10 ↔ value.toNat * 10 + digit.toNat < 2 ^ 64 := by
  rw [gt_iff_lt, UInt64.lt_iff_toNat_lt, toNat_quotient hdigit]
  omega

/-- What fits is computed as it is. -/
lemma toNat_next (h : value.toNat * 10 + digit.toNat < 2 ^ 64) :
    (value * 10 + digit).toNat = value.toNat * 10 + digit.toNat := by
  have hten : (10 : UInt64).toNat = 10 := rfl
  rw [UInt64.toNat_add, UInt64.toNat_mul, hten, Nat.mod_add_mod, Nat.mod_eq_of_lt h]

/-! ### The loop -/

/-- **The loop reads the number that the digits make**, when it fits, and refuses everything else. -/
theorem scan_ok_iff {n : UInt64} {s : Bytes} : scan value s = .ok n ↔
    (∀ b ∈ s, isDigit b = true) ∧ n.toNat = valueFrom value.toNat s := by
  induction s generalizing value with
  | nil =>
    rw [scan, Except.ok.injEq, valueFrom, List.foldl_nil, UInt64.toNat_inj]
    exact ⟨fun h => ⟨nofun, h.symm⟩, fun h => h.2.symm⟩
  | cons b t ih =>
    rw [scan]
    by_cases hb : isDigit b = true
    · obtain ⟨hvalue, hdigit⟩ := toNat_digit hb
      rw [if_neg fun hnot => (notDigit_iff b).mp hnot hb]
      have hstep : valueFrom value.toNat (b :: t) = valueFrom (value.toNat * 10 + (b.toNat - 48)) t := rfl
      simp only []
      by_cases hfits : value > (maxValue - (b - ch '0').toUInt64) / 10
      · -- the number only grows
        rw [if_pos hfits]
        refine ⟨nofun, fun h => ?_⟩
        have hlarge := not_lt.mp fun hlt => (fits_iff (by omega)).mpr hlt hfits
        have hgrows := le_valueFrom (value.toNat * 10 + (b.toNat - 48)) t
        have hlt := n.toNat_lt
        rw [hstep] at h
        omega
      · have hsum := (fits_iff (by omega)).mp hfits
        rw [if_neg hfits, ih, toNat_next hsum, hvalue, hstep, List.forall_mem_cons]
        exact ⟨fun h => ⟨⟨hb, h.1⟩, h.2⟩, fun h => ⟨h.1.2, h.2⟩⟩
    · rw [if_pos ((notDigit_iff b).mpr hb)]
      exact ⟨nofun, fun h => absurd (h.1 b List.mem_cons_self) hb⟩

/-- From zero on, the number is that of the numeral. -/
lemma scan_zero_ok_iff {n : UInt64} {s : Bytes} : scan 0 s = .ok n ↔
    (∀ b ∈ s, isDigit b = true) ∧ n.toNat = digitsValue s := scan_ok_iff

/-- Zeros in front say nothing. -/
lemma digitsValue_zeros (k : ℕ) (s : Bytes) :
    digitsValue (List.replicate k (ch '0') ++ s) = digitsValue s := by
  have hzeros : (List.replicate k (ch '0')).foldl (fun n d => n * 10 + (d.toNat - 48)) 0 = 0 := by
    induction k with
    | zero => rfl
    | succ k ih =>
      rw [List.replicate_succ, List.foldl_cons]
      exact ih
  rw [digitsValue, List.foldl_append, hzeros]
  rfl

end CcsTrans.Decimals
