import CcsTrans.Json.RoundTrip
import CcsTrans.Rules.Frames
import Mathlib.Data.Rat.Cast.Order
import Mathlib.Data.List.Forall2

/-!
What stands where a field was set.

A rule does not write when the target equals its value already. Documents are compared by
converting one number to the type of the other, so that numbers which are not the same compare
equal: a negative integer and the unsigned one of the same bits, or an integer and the double it
is rounded to. A target that differs from the value by such numbers only is left as it is.
-/

namespace CcsTrans.Rules

open CcsTrans.Text CcsTrans.Json CcsTrans.Config CcsTrans.Protocols CcsTrans.Fallible

/-! ### What values denote -/

/-- The number of a finite double. -/
def doubleValue (d : Double) : ℚ :=
  let fraction : ℕ := d.bits.toNat % 2 ^ 52
  let exponent : ℕ := d.bits.toNat / 2 ^ 52 % 2 ^ 11
  let magnitude : ℚ :=
    if exponent = 0 then fraction * 2 ^ (-1074 : ℤ)
    else (2 ^ 52 + fraction) * 2 ^ ((exponent : ℤ) - 1075)
  if d.bits.toNat < 2 ^ 63 then magnitude else -magnitude

def number : Value → Option ℚ
  | .int n => some n.toInt
  | .uint n => some n.toNat
  | .float d => some (doubleValue d)
  | _ => none

mutual

/-- Two values denote the same: numbers by their value, everything else by its structure. -/
def Denotes : Value → Value → Prop
  | .null, .null => True
  | .bool a, .bool b => a = b
  | .str a, .str b => a = b
  | .arr xs, .arr ys => DenoteItems xs ys
  | .obj ms, .obj ns => DenoteMembers ms ns
  | v, w => ∃ q, number v = some q ∧ number w = some q

def DenoteItems : List Value → List Value → Prop
  | [], [] => True
  | x :: xs, y :: ys => Denotes x y ∧ DenoteItems xs ys
  | _, _ => False

def DenoteMembers : List (Bytes × Value) → List (Bytes × Value) → Prop
  | [], [] => True
  | (k, v) :: ms, (l, w) :: ns => (k = l ∧ Denotes v w) ∧ DenoteMembers ms ns
  | _, _ => False

end

section Compared

variable [Library]

/-- What IEEE 754 says of comparing doubles and of converting integers of 64 bits. -/
structure IeeeDoubles : Prop where
  floatEq_iff : ∀ {a b : Double}, a.isFinite = true → b.isFinite = true →
    (Library.floatEq a b = true ↔ doubleValue a = doubleValue b)
  ofInt_finite : ∀ {n : ℤ}, -2 ^ 63 ≤ n → n < 2 ^ 64 → (Library.ofInt n).isFinite = true

/-- The integer is converted to this double, which is another number. -/
def RoundsTo (n : ℤ) (d : Double) : Prop :=
  doubleValue (Library.ofInt n) = doubleValue d ∧ (n : ℚ) ≠ doubleValue d

/-- Numbers that are not the same and compare equal. -/
def Confused : Value → Value → Prop
  | .int a, .uint b | .uint b, .int a => a.toInt < 0 ∧ (b.toNat : ℤ) = a.toInt + 2 ^ 64
  | .int a, .float d | .float d, .int a => RoundsTo a.toInt d
  | .uint a, .float d | .float d, .uint a => RoundsTo a.toNat d
  | _, _ => False

/-- At some place the two have such numbers. -/
def Mixed (v w : Value) : Prop :=
  ∃ tokens x y, Resolves v tokens x ∧ Resolves w tokens y ∧ Confused x y

/-! ### Items and members -/

lemma equalItems_iff {xs ys : List Value} :
    equalItems xs ys = true ↔ List.Forall₂ (fun x y => equal x y = true) xs ys := by
  induction xs generalizing ys with
  | nil => cases ys <;> simp [equalItems]
  | cons x xs ih => cases ys <;> simp [equalItems, ih]

lemma equalMembers_iff {ms ns : List (Bytes × Value)} : equalMembers ms ns = true ↔
    List.Forall₂ (fun m n => m.1 = n.1 ∧ equal m.2 n.2 = true) ms ns := by
  induction ms generalizing ns with
  | nil => cases ns <;> simp [equalMembers]
  | cons m ms ih => cases ns <;> simp [equalMembers, ih]

omit [Library] in
lemma denoteItems_iff {xs ys : List Value} : DenoteItems xs ys ↔ List.Forall₂ Denotes xs ys := by
  induction xs generalizing ys with
  | nil => cases ys <;> simp [DenoteItems]
  | cons x xs ih => cases ys <;> simp [DenoteItems, ih]

omit [Library] in
lemma denoteMembers_iff {ms ns : List (Bytes × Value)} :
    DenoteMembers ms ns ↔ List.Forall₂ (fun m n => m.1 = n.1 ∧ Denotes m.2 n.2) ms ns := by
  induction ms generalizing ns with
  | nil => cases ns <;> simp [DenoteMembers]
  | cons m ms ih => cases ns <;> simp [DenoteMembers, ih]

omit [Library] in
/-- The members of a name stand across from each other. -/
lemma mem_zip_of_find {ms ns : List (Bytes × Value)} {k : Bytes} {a b : Value}
    (h : List.Forall₂ (fun m n => m.1 = n.1) ms ns) (ha : find k ms = some a)
    (hb : find k ns = some b) : ((k, a), (k, b)) ∈ ms.zip ns := by
  induction h with
  | nil => cases ha
  | @cons m n ms ns hmn _ ih =>
    obtain ⟨l, v⟩ := m
    obtain ⟨l', w⟩ := n
    obtain rfl : l = l' := hmn
    rw [find] at ha hb
    by_cases hk : k = l
    · rw [if_pos hk] at ha hb
      cases ha
      cases hb
      simp [hk]
    · rw [if_neg hk] at ha hb
      exact List.mem_cons_of_mem _ (ih ha hb)

omit [Library] in
lemma find_of_document {ms : List (Bytes × Value)} {m : Bytes × Value} (h : Document (.obj ms))
    (hm : m ∈ ms) : find m.1 ms = some m.2 := by
  refine find_of_mem ((proper_obj.mp h).1.imp fun {a b} hlt heq => ?_) hm
  rw [heq] at hlt
  exact List.lt_irrefl _ hlt

/-! ### Where two values differ -/

lemma mixed_arr {xs ys : List Value} : Mixed (.arr xs) (.arr ys) ↔
    ∃ a b, (a, b) ∈ xs.zip ys ∧ Mixed a b := by
  constructor
  · rintro ⟨tokens, x, y, hx, hy, hc⟩
    cases hx with
    | root => exact absurd hc (by cases resolves_nil.mp hy; exact id)
    | @element _ i a tokens _ ha hx =>
      obtain ⟨j, b, hj, hb, hy⟩ := resolves_arr.mp hy
      obtain rfl := decimal_injective hj
      refine ⟨a, b, ?_, tokens, x, y, hx, hy, hc⟩
      exact List.mem_of_getElem? (i := i) (by simp [List.getElem?_zip_eq_some, ha, hb])
  · rintro ⟨a, b, hab, tokens, x, y, hx, hy, hc⟩
    obtain ⟨i, hi⟩ := List.mem_iff_getElem?.mp hab
    obtain ⟨ha, hb⟩ := List.getElem?_zip_eq_some.mp hi
    exact ⟨decimal i :: tokens, x, y, .element ha hx, .element hb hy, hc⟩

lemma mixed_obj {ms ns : List (Bytes × Value)} : Mixed (.obj ms) (.obj ns) ↔
    ∃ k a b, find k ms = some a ∧ find k ns = some b ∧ Mixed a b := by
  constructor
  · rintro ⟨tokens, x, y, hx, hy, hc⟩
    cases hx with
    | root => exact absurd hc (by cases resolves_nil.mp hy; exact id)
    | @member _ k a tokens _ ha hx =>
      obtain ⟨b, hb, hy⟩ := resolves_obj.mp hy
      exact ⟨k, a, b, ha, hb, tokens, x, y, hx, hy, hc⟩
  · rintro ⟨k, a, b, ha, hb, tokens, x, y, hx, hy, hc⟩
    exact ⟨k :: tokens, x, y, .member ha hx, .member hb hy, hc⟩

/-- Nothing lies below a number. -/
lemma mixed_number {v w : Value} (h : (number v).isSome = true) : Mixed v w ↔ Confused v w := by
  constructor
  · rintro ⟨tokens, x, y, hx, hy, hc⟩
    cases hx with
    | root =>
      cases resolves_nil.mp hy
      exact hc
    | member => cases h
    | element => cases h
  · exact fun hc => ⟨[], v, w, .root v, .root w, hc⟩

omit [Library] in
lemma denotes_number {v w : Value} (h : (number v).isSome = true) :
    Denotes v w ↔ number v = number w := by
  cases v <;> cases h <;> cases w <;> simp [Denotes, number, eq_comm]

omit [Library] in
/-- The same bits, signed and unsigned. -/
lemma same_bits {a : Int64} {b : UInt64} (h : b.toInt64 = a) :
    (b.toNat : ℤ) = a.toInt ↔ ¬ (a.toInt < 0 ∧ (b.toNat : ℤ) = a.toInt + 2 ^ 64) := by
  have hbits : a.toInt = b.toBitVec.toInt := by rw [← h]; rfl
  have hnat : b.toBitVec.toNat = b.toNat := rfl
  have hlt := b.toNat_lt
  rw [BitVec.toInt_eq_toNat_cond, hnat] at hbits
  split at hbits <;> omega

lemma eq_iff_not_roundsTo {n : ℤ} {d : Double}
    (h : doubleValue (Library.ofInt n) = doubleValue d) :
    (n : ℚ) = doubleValue d ↔ ¬ RoundsTo n d := by
  simp [RoundsTo, h]

section Numbers

variable (hieee : IeeeDoubles)
include hieee

lemma ofInt_signed_finite (n : Int64) : (Library.ofInt n.toInt).isFinite = true := by
  have hlow := n.le_toInt
  have hhigh := n.toInt_lt
  exact hieee.ofInt_finite (by omega) (by omega)

lemma ofInt_unsigned_finite (n : UInt64) : (Library.ofInt n.toNat).isFinite = true := by
  have hhigh := n.toNat_lt
  exact hieee.ofInt_finite (by omega) (by omega)

/-- Numbers that compare equal are the same unless they are confused. -/
lemma number_of_equal {v w : Value} (hv : (number v).isSome = true) (he : equal v w = true)
    (hdv : Document v) (hdw : Document w) : number v = number w ↔ ¬ Confused v w := by
  cases v with
  | int a =>
    cases w with
    | int b =>
      obtain rfl : a = b := by simpa [equal] using he
      simp [Confused]
    | uint b =>
      obtain rfl : a = b.toInt64 := by simpa [equal] using he
      rw [Confused, ← same_bits rfl, number, number, Option.some.injEq, eq_comm]
      exact_mod_cast Iff.rfl
    | float d =>
      have hd := (hieee.floatEq_iff (ofInt_signed_finite hieee a) (by simpa [Proper] using hdw)).mp
        (by simpa [equal] using he)
      rw [Confused, ← eq_iff_not_roundsTo hd, number, number, Option.some.injEq]
    | null | bool | str | arr | obj => cases he
  | uint a =>
    cases w with
    | int b =>
      obtain rfl : a.toInt64 = b := by simpa [equal] using he
      rw [Confused, ← same_bits rfl, number, number, Option.some.injEq]
      exact_mod_cast Iff.rfl
    | uint b =>
      obtain rfl : a = b := by simpa [equal] using he
      simp [Confused]
    | float d =>
      have hd := (hieee.floatEq_iff (ofInt_unsigned_finite hieee a)
        (by simpa [Proper] using hdw)).mp (by simpa [equal] using he)
      rw [Confused, ← eq_iff_not_roundsTo hd, number, number, Option.some.injEq]
      norm_cast
    | null | bool | str | arr | obj => cases he
  | float d =>
    cases w with
    | int b =>
      have hd := (hieee.floatEq_iff (by simpa [Proper] using hdv)
        (ofInt_signed_finite hieee b)).mp (by simpa [equal] using he)
      rw [Confused, ← eq_iff_not_roundsTo hd.symm, number, number, Option.some.injEq, eq_comm]
    | uint b =>
      have hd := (hieee.floatEq_iff (by simpa [Proper] using hdv)
        (ofInt_unsigned_finite hieee b)).mp (by simpa [equal] using he)
      rw [Confused, ← eq_iff_not_roundsTo hd.symm, number, number, Option.some.injEq, eq_comm]
      norm_cast
    | float d' =>
      have hd := (hieee.floatEq_iff (by simpa [Proper] using hdv)
        (by simpa [Proper] using hdw)).mp (by simpa [equal] using he)
      simp [Confused, number, hd]
    | null | bool | str | arr | obj => cases he
  | null | bool | str | arr | obj => cases hv

/-- **Values that compare equal denote the same unless they mix confused numbers.** -/
lemma denotes_of_equal {v w : Value} (he : equal v w = true) (hv : Document v) (hw : Document w) :
    Denotes v w ↔ ¬ Mixed v w := by
  induction v using Value.induction generalizing w with
  | int a =>
    rw [denotes_number rfl, mixed_number rfl]
    exact number_of_equal hieee rfl he hv hw
  | uint a =>
    rw [denotes_number rfl, mixed_number rfl]
    exact number_of_equal hieee rfl he hv hw
  | float a =>
    rw [denotes_number rfl, mixed_number rfl]
    exact number_of_equal hieee rfl he hv hw
  | null | bool a | str a =>
    cases w <;> try (cases he; done)
    all_goals
      simp only [equal, beq_iff_eq] at he
      refine iff_of_true (by simp [Denotes, he]) ?_
      rintro ⟨tokens, x, y, hx, hy, hc⟩
      cases hx
      cases hy
      exact hc
  | arr xs ih =>
    cases w with
    | arr ys =>
      rw [equal, equalItems_iff, List.forall₂_iff_zip] at he
      rw [Denotes, denoteItems_iff, List.forall₂_iff_zip, mixed_arr]
      have hitem : ∀ {a b}, (a, b) ∈ xs.zip ys → (Denotes a b ↔ ¬ Mixed a b) := by
        intro a b hab
        obtain ⟨ha, hb⟩ := List.of_mem_zip hab
        exact ih a ha (he.2 hab) (proper_arr.mp hv a ha) (proper_arr.mp hw b hb)
      constructor
      · rintro ⟨-, hall⟩ ⟨a, b, hab, hmixed⟩
        exact (hitem hab).mp (hall hab) hmixed
      · exact fun h => ⟨he.1, fun {a b} hab => (hitem hab).mpr fun hmixed => h ⟨a, b, hab, hmixed⟩⟩
    | null | bool | int | uint | float | str | obj => cases he
  | obj ms ih =>
    cases w with
    | obj ns =>
      rw [equal, equalMembers_iff] at he
      have hnames := he.imp fun _ _ h => h.1
      rw [List.forall₂_iff_zip] at he
      rw [Denotes, denoteMembers_iff, List.forall₂_iff_zip, mixed_obj]
      have hmember : ∀ {m n}, (m, n) ∈ ms.zip ns → (Denotes m.2 n.2 ↔ ¬ Mixed m.2 n.2) := by
        intro m n hmn
        obtain ⟨hm, hn⟩ := List.of_mem_zip hmn
        exact ih m hm (he.2 hmn).2 ((proper_obj.mp hv).2 m hm).2 ((proper_obj.mp hw).2 n hn).2
      constructor
      · rintro ⟨-, hall⟩ ⟨k, a, b, ha, hb, hmixed⟩
        have hmem := mem_zip_of_find hnames ha hb
        exact (hmember hmem).mp (hall hmem).2 hmixed
      · refine fun h => ⟨he.1, fun {m n} hmn => ⟨(he.2 hmn).1, (hmember hmn).mpr fun hmixed => ?_⟩⟩
        obtain ⟨hm, hn⟩ := List.of_mem_zip hmn
        refine h ⟨m.1, m.2, n.2, find_of_document hv hm, ?_, hmixed⟩
        rw [(he.2 hmn).1]
        exact find_of_document hw hn
    | null | bool | int | uint | float | str | arr => cases he

end Numbers

/-! ### The rule -/

omit [Library] in
lemma denotes_refl (v : Value) : Denotes v v := by
  induction v using Value.induction with
  | null => trivial
  | bool a | str a => simp [Denotes]
  | int a | uint a | float a => exact (denotes_number rfl).mpr rfl
  | arr xs ih =>
    rw [Denotes, denoteItems_iff]
    exact List.forall₂_same.mpr ih
  | obj ms ih =>
    rw [Denotes, denoteMembers_iff]
    exact List.forall₂_same.mpr fun m hm => ⟨rfl, ih m hm⟩

omit [Library] in
lemma Resolves.document {v x : Value} {tokens : List Bytes} (h : Resolves v tokens x)
    (hv : Document v) : Document x := by
  induction h with
  | root => exact hv
  | member hf _ ih => exact ih (hv.find hf)
  | element hi _ ih => exact ih (proper_arr.mp hv _ (List.mem_of_getElem? hi))

lemma compile_setField_eq {d : RuleDefinition} {protocol : ProtocolDescriptor} {rule : CompiledRule}
    {pointer : ParsedJsonPointer} {value : Value}
    (h : setFieldRuleFactory.compile d protocol = .ok (some rule))
    (hp : pathOption d = .ok pointer) (hv : find (str "value") d.options = some value) :
    rule = setFieldRule d.id pointer value := by
  obtain ⟨-, -, h⟩ := bind_eq_ok.mp h
  obtain ⟨-, -, h⟩ := bind_eq_ok.mp h
  rw [hp, ok_bind, hv] at h
  cases h
  rfl

/-- What stands at the target behind the rule: its value, or what compared equal to it. -/
lemma setFieldRule_apply (id : Bytes) {pointer : ParsedJsonPointer} {value body target : Value}
    (hs : Sized body) (ht : Resolves body pointer.tokens target) :
    ∃ r body', (setFieldRule id pointer value).apply body = (.ok r, body') ∧
      Resolves body' pointer.tokens (if equal target value then target else value) := by
  obtain ⟨body', hsw⟩ := exists_swaps ht (if equal target value then target else value)
  have hassign : ∃ r, assign pointer.traceTarget value target =
      .ok (r, if equal target value then target else value) := by
    unfold assign
    split <;> exact ⟨_, rfl⟩
  obtain ⟨r, hassign⟩ := hassign
  have hupdate := (updateAt_ok_iff hs).mpr ⟨target, _, hassign, hsw⟩
  refine ⟨r, body', ?_, hsw.after⟩
  simp only [setFieldRule, atomically, hupdate]

/-- **When the target denotes the value that was set.** Of every body in which the pointer leads to
a target: unless the target compares equal to the value and has, somewhere, a number that is
confused with the one in its place. -/
theorem set_field_denotes_iff (hieee : IeeeDoubles) {d : RuleDefinition}
    {protocol : ProtocolDescriptor} {rule : CompiledRule} (hd : DocumentOptions d)
    (hc : setFieldRuleFactory.compile d protocol = .ok (some rule)) {pointer : ParsedJsonPointer}
    {value : Value} (hp : pathOption d = .ok pointer)
    (hv : find (str "value") d.options = some value) {body target : Value} (hb : Document body)
    (hs : Sized body) (ht : Resolves body pointer.tokens target) :
    (∃ r body' final, rule.apply body = (.ok r, body') ∧
      Resolves body' pointer.tokens final ∧ Denotes final value) ↔
    ¬ (equal target value = true ∧ Mixed target value) := by
  obtain rfl := compile_setField_eq hc hp hv
  obtain ⟨r, body', happly, hfinal⟩ := @setFieldRule_apply _ d.id pointer value body target hs ht
  have hiff : (∃ r body' final, (setFieldRule d.id pointer value).apply body = (.ok r, body') ∧
      Resolves body' pointer.tokens final ∧ Denotes final value) ↔
      Denotes (if equal target value then target else value) value := by
    constructor
    · rintro ⟨r', body'', final, happly', hfinal', hden⟩
      rw [happly] at happly'
      cases happly'
      rwa [hfinal.unique hfinal']
    · exact fun hden => ⟨r, body', _, happly, hfinal, hden⟩
  rw [hiff]
  by_cases he : equal target value = true
  · rw [if_pos he, denotes_of_equal hieee he (ht.document hb) (hd _ (mem_of_find hv))]
    simp [he]
  · rw [if_neg he]
    exact iff_of_true (denotes_refl value) fun h => he h.1

end Compared

section Instances

/-! A library whose doubles compare and round as IEEE 754 has it. -/

/-- The integer divided by a power of two, to the nearest number and the even one of two. -/
def roundShift (m s : ℕ) : ℕ :=
  let rest := m % 2 ^ s
  if 2 ^ s < 2 * rest ∨ (2 ^ s = 2 * rest ∧ m / 2 ^ s % 2 = 1) then m / 2 ^ s + 1 else m / 2 ^ s

/-- An integer of 64 bits as a double. -/
def nearestDouble (n : ℤ) : Double :=
  let m := n.natAbs
  let e := m.log2
  let significand := if e ≤ 52 then m * 2 ^ (52 - e) else roundShift m (e - 52)
  if m = 0 then ⟨0⟩
  else ⟨((if n < 0 then 2 ^ 63 else 0) + (e + 1022) * 2 ^ 52 + significand).toUInt64⟩

lemma isFinite_iff (d : Double) : d.isFinite = true ↔ d.bits.toNat / 2 ^ 52 % 2 ^ 11 ≠ 2047 := by
  have hexponent : ((d.bits >>> 52) &&& 0x7FF).toNat = d.bits.toNat / 2 ^ 52 % 2 ^ 11 := by
    rw [UInt64.toNat_and, UInt64.toNat_shiftRight]
    change d.bits.toNat >>> 52 &&& (2 ^ 11 - 1) = _
    rw [Nat.and_two_pow_sub_one_eq_mod, Nat.shiftRight_eq_div_pow]
  rw [Double.isFinite, bne_iff_ne, ne_eq, ← UInt64.toNat_inj, hexponent]
  rfl

lemma roundShift_le {m s k : ℕ} (h : m < 2 ^ (s + k)) : roundShift m s ≤ 2 ^ k := by
  have hdiv : m / 2 ^ s < 2 ^ k := by
    rw [Nat.div_lt_iff_lt_mul (by positivity), ← pow_add, Nat.add_comm k s]
    exact h
  unfold roundShift
  dsimp only
  split <;> omega

lemma nearestDouble_finite {n : ℤ} (hlow : -2 ^ 63 ≤ n) (hhigh : n < 2 ^ 64) :
    (nearestDouble n).isFinite = true := by
  rw [isFinite_iff]
  unfold nearestDouble
  dsimp only
  by_cases h0 : n.natAbs = 0
  · rw [if_pos h0]
    decide
  · rw [if_neg h0]
    have hlog : n.natAbs.log2 < 64 := (Nat.log2_lt h0).mpr (by omega)
    have hm : n.natAbs < 2 ^ (n.natAbs.log2 + 1) := Nat.lt_log2_self
    have hsig : (if n.natAbs.log2 ≤ 52 then n.natAbs * 2 ^ (52 - n.natAbs.log2)
        else roundShift n.natAbs (n.natAbs.log2 - 52)) ≤ 2 ^ 53 := by
      split_ifs with he
      · calc n.natAbs * 2 ^ (52 - n.natAbs.log2)
            ≤ 2 ^ (n.natAbs.log2 + 1) * 2 ^ (52 - n.natAbs.log2) :=
              Nat.mul_le_mul_right _ hm.le
          _ = 2 ^ 53 := by
              rw [← pow_add]
              congr 1
              omega
      · refine roundShift_le (lt_of_lt_of_eq hm ?_)
        congr 1
        omega
    generalize (if n.natAbs.log2 ≤ 52 then n.natAbs * 2 ^ (52 - n.natAbs.log2)
        else roundShift n.natAbs (n.natAbs.log2 - 52)) = significand at hsig ⊢
    have hsign : (if n < 0 then 2 ^ 63 else 0) = 2 ^ 63 ∨ (if n < 0 then 2 ^ 63 else 0) = 0 := by
      split_ifs <;> simp
    rw [Nat.toUInt64, UInt64.toNat_ofNat']
    rcases hsign with hsign | hsign <;> rw [hsign] <;> omega

@[reducible] def ieeeLibrary : Library :=
  { bitLibrary with
    ofInt := nearestDouble
    floatEq := fun a b =>
      if a.isFinite && b.isFinite then doubleValue a == doubleValue b
      else a == b && a.bits.toNat % 2 ^ 52 == 0
    floatEq_refl := by
      intro d hd
      simp [hd] }

attribute [local instance] ieeeLibrary

lemma ieeeDoubles : IeeeDoubles where
  floatEq_iff ha hb := by simp [Library.floatEq, ha, hb]
  ofInt_finite := nearestDouble_finite

/-- A number becomes a boolean. -/
theorem set_field_denotes_iff_replaced :
    ∃ rule, setFieldRuleFactory.compile setA responsesHandler = .ok (some rule) ∧
      ∃ r body' final, rule.apply memberAndList = (.ok r, body') ∧
        Resolves body' [str "a"] final ∧ Denotes final (.bool true) := by
  have hoptions : DocumentOptions setA := by
    intro o ho
    simp only [setA, List.mem_cons, List.not_mem_nil, or_false] at ho
    rcases ho with rfl | rfl <;> trivial
  have hbody : Document memberAndList := by
    refine proper_obj.mpr ⟨?_, ?_⟩
    · simp only [List.pairwise_cons, List.mem_singleton, forall_eq, List.not_mem_nil, false_implies,
        implies_true, List.Pairwise.nil, and_true]
      decide
    · intro m hm
      simp only [List.mem_cons, List.not_mem_nil, or_false] at hm
      rcases hm with rfl | rfl
      · exact ⟨trivial, trivial⟩
      · exact ⟨trivial, proper_arr.mpr (by simp [Proper])⟩
  have hpath : pathOption setA = .ok ⟨str "/a", [str "a"]⟩ := by decide
  have hcompile : setFieldRuleFactory.compile setA responsesHandler =
      .ok (some (setFieldRule (str "set") ⟨str "/a", [str "a"]⟩ (.bool true))) := rfl
  refine ⟨_, hcompile, (set_field_denotes_iff ieeeDoubles hoptions hcompile hpath rfl hbody
    sized_memberAndList (.member rfl (.root (.uint 1)))).mpr ?_⟩
  rintro ⟨he, -⟩
  cases he

/-- `{"a":-1}`. -/
def minusOne : Value := .obj [(str "a", .int (-1))]

lemma sized_minusOne : Sized minusOne := by
  intro tokens xs h
  cases h with
  | member hf hr =>
    simp only [find] at hf
    split_ifs at hf
    cases hf
    cases hr

def setLargest : RuleDefinition :=
  { id := str "set", enabled := true, type := str "set_field",
    options := [(str "path", .str (str "/a")), (str "value", .uint 18446744073709551615)] }

/-- A negative target is taken for the largest value. -/
theorem set_field_leaves_minus_one :
    ¬ ∀ d protocol rule pointer value, DocumentOptions d →
      setFieldRuleFactory.compile d protocol = .ok (some rule) → pathOption d = .ok pointer →
      find (str "value") d.options = some value → ∀ body target, Document body → Sized body →
      Resolves body pointer.tokens target →
      ∃ r body' final, rule.apply body = (.ok r, body') ∧
        Resolves body' pointer.tokens final ∧ Denotes final value := by
  intro h
  have hpath : pathOption setLargest = .ok ⟨str "/a", [str "a"]⟩ := by decide
  have hoptions : DocumentOptions setLargest := by
    intro o ho
    simp only [setLargest, List.mem_cons, List.not_mem_nil, or_false] at ho
    rcases ho with rfl | rfl <;> trivial
  have hbody : Document minusOne := proper_obj.mpr ⟨by simp, by simp [Proper]⟩
  obtain ⟨r, body', final, happly, hfinal, hden⟩ := h setLargest responsesHandler _ _ _ hoptions rfl
    hpath rfl minusOne (.int (-1)) hbody sized_minusOne (.member rfl (.root _))
  obtain rfl : minusOne = body' := congrArg Prod.snd happly
  obtain rfl : Value.int (-1) = final := (Resolves.member rfl (.root _)).unique hfinal
  rw [denotes_number rfl, number, number, Option.some.injEq] at hden
  have hvalues : ((-1 : ℤ) : ℚ) = ((18446744073709551615 : ℕ) : ℚ) := hden
  norm_num at hvalues

end Instances

end CcsTrans.Rules
