import CcsTrans.Json.Document

/-!
How long the text of a value can be, and what a value must be to have one.
-/

namespace CcsTrans.Json

open CcsTrans.Text CcsTrans.Fallible

variable [Library]

mutual

/-- A bound on the length of the text of a value. -/
def widthAt (step cur : ℕ) : Value → ℕ
  | .float d => (Library.toChars d).length + 4
  | .str s => 6 * s.length + 2
  | .arr xs => cur + 3 + widthItems step (cur + step) xs
  | .obj ms => cur + 3 + widthMembers step (cur + step) ms
  | _ => 20

def widthItems (step cur : ℕ) : List Value → ℕ
  | [] => 0
  | x :: xs => cur + 2 + widthAt step cur x + widthItems step cur xs

def widthMembers (step cur : ℕ) : List (Bytes × Value) → ℕ
  | [] => 0
  | (k, v) :: ms => cur + 6 + 6 * k.length + widthAt step cur v + widthMembers step cur ms

end

omit [Library] in
lemma length_escapeByte_le (b : UInt8) : (escapeByte b).length ≤ 6 := by
  unfold escapeByte
  split_ifs <;> simp

omit [Library] in
lemma length_escape_le (s : Bytes) : (escape s).length ≤ 6 * s.length := by
  unfold escape
  induction s with
  | nil => simp
  | cons b s ih =>
    have := length_escapeByte_le b
    rw [List.flatMap_cons, List.length_append, List.length_cons]
    omega

omit [Library] in
lemma length_dumpString_le {s u : Bytes} (h : dumpString s = some u) :
    u.length ≤ 6 * s.length + 2 := by
  unfold dumpString at h
  split_ifs at h
  cases h
  have := length_escape_le s
  simp only [List.length_cons, List.length_append, List.length_nil]
  omega

omit [Library] in
lemma length_indentation_le (step : Option ℕ) (n : ℕ) : (indentation step n).length ≤ n + 1 := by
  unfold indentation
  split_ifs <;> simp

omit [Library] in
lemma length_colon_le (step : Option ℕ) : (colon step).length ≤ 2 := by
  unfold colon
  split_ifs <;> simp

omit [Library] in
lemma length_decimal_uint64 (n : UInt64) : (decimal n.toNat).length ≤ 20 := by
  have := n.toNat_lt
  exact decimal_length_le (by omega) (by norm_num)

omit [Library] in
lemma length_decimalInt_int64 (n : Int64) : (decimalInt n.toInt).length ≤ 20 := by
  have h1 := n.toInt_lt
  have h2 := n.le_toInt
  have : (decimal n.toInt.natAbs).length ≤ 19 := decimal_length_le (by omega) (by norm_num)
  unfold decimalInt
  split_ifs
  · simp only [List.length_cons]
    omega
  · omega

/-- The text of a value is no longer than its bound. -/
theorem length_dumpAt_le {v : Value} {step : Option ℕ} {cur : ℕ} {u : Bytes}
    (h : dumpAt step cur v = some u) : u.length ≤ widthAt (step.getD 0) cur v := by
  induction v using Value.induction generalizing cur u with
  | null => cases h; simp [widthAt, str]
  | bool b => cases b <;> cases h <;> simp [widthAt, str]
  | int n => cases h; simpa [widthAt] using length_decimalInt_int64 n
  | uint n => cases h; simpa [widthAt] using length_decimal_uint64 n
  | float d =>
    simp only [dumpAt, Option.some.injEq] at h
    subst h
    split_ifs <;> simp [widthAt, str]
  | str s => exact length_dumpString_le h
  | arr xs ih =>
    have items : ∀ ys ⊆ xs, ∀ cur u, dumpItems step cur ys = some u →
        u.length ≤ widthItems (step.getD 0) cur ys := by
      intro ys
      induction ys with
      | nil => simp [dumpItems]
      | cons y ys ihy =>
        intro hsub cur u hu
        obtain ⟨hy, hys⟩ := List.cons_subset.mp hsub
        simp only [dumpItems, Option.bind_eq_bind, Option.bind_eq_some_iff] at hu
        obtain ⟨first, hf, rest, hr, hu⟩ := hu
        cases hu
        have h1 := ih y hy hf
        have h2 := ihy hys cur rest hr
        have h3 := length_indentation_le step cur
        simp only [widthItems, List.length_cons, List.length_append]
        omega
    cases xs with
    | nil => cases h; simp [widthAt, widthItems]
    | cons x xs =>
      simp only [dumpAt, Option.bind_eq_bind, Option.bind_eq_some_iff] at h
      obtain ⟨first, hf, rest, hr, h⟩ := h
      cases h
      have h1 := ih x (by simp) hf
      have h2 := items xs (List.subset_cons_self ..) _ rest hr
      have h3 := length_indentation_le step cur
      have h4 := length_indentation_le step (cur + step.getD 0)
      simp only [widthAt, widthItems, List.length_cons, List.length_append, List.length_nil]
      omega
  | obj ms ih =>
    have members : ∀ ns ⊆ ms, ∀ cur u, dumpMembers step cur ns = some u →
        u.length ≤ widthMembers (step.getD 0) cur ns := by
      intro ns
      induction ns with
      | nil => simp [dumpMembers]
      | cons n ns ihn =>
        obtain ⟨k, v⟩ := n
        intro hsub cur u hu
        obtain ⟨hn, hns⟩ := List.cons_subset.mp hsub
        simp only [dumpMembers, Option.bind_eq_bind, Option.bind_eq_some_iff] at hu
        obtain ⟨name, hk, first, hf, rest, hr, hu⟩ := hu
        cases hu
        have h0 := length_dumpString_le hk
        have h1 : first.length ≤ widthAt (step.getD 0) cur v := ih (k, v) hn hf
        have h2 := ihn hns cur rest hr
        have h3 := length_indentation_le step cur
        have h4 := length_colon_le step
        simp only [widthMembers, List.length_cons, List.length_append]
        omega
    cases ms with
    | nil => cases h; simp [widthAt, widthMembers]
    | cons m ms =>
      obtain ⟨k, v⟩ := m
      simp only [dumpAt, Option.bind_eq_bind, Option.bind_eq_some_iff] at h
      obtain ⟨name, hk, first, hf, rest, hr, h⟩ := h
      cases h
      have h0 := length_dumpString_le hk
      have h1 : first.length ≤ widthAt (step.getD 0) (cur + step.getD 0) v := ih (k, v) (by simp) hf
      have h2 := members ms (List.subset_cons_self ..) _ rest hr
      have h3 := length_indentation_le step cur
      have h4 := length_indentation_le step (cur + step.getD 0)
      have h5 := length_colon_le step
      simp only [widthAt, widthMembers, List.length_cons, List.length_append, List.length_nil]
      omega

lemma length_dump_le {v : Value} {u : Bytes} (h : dump v = some u) : u.length ≤ widthAt 0 0 v :=
  length_dumpAt_le h

lemma length_dumpPretty_le {v : Value} {u : Bytes} (h : dumpPretty v = some u) :
    u.length ≤ widthAt 2 0 v :=
  length_dumpAt_le h

omit [Library] in
lemma validUtf8_of_dumpString {s u : Bytes} (h : dumpString s = some u) : validUtf8 s = true := by
  unfold dumpString at h
  split_ifs at h with hs
  exact hs

/-- A document that has a text is one of UTF-8 strings. -/
theorem writable_of_dumpAt {v : Value} {step : Option ℕ} {cur : ℕ} {u : Bytes} (hv : Document v)
    (h : dumpAt step cur v = some u) : Writable v := by
  induction v using Value.induction generalizing cur u with
  | null | bool | int | uint => trivial
  | float d => exact hv
  | str s => exact validUtf8_of_dumpString h
  | arr xs ih =>
    replace hv := proper_arr.mp hv
    have items : ∀ ys ⊆ xs, ∀ cur u, dumpItems step cur ys = some u → ∀ y ∈ ys, Writable y := by
      intro ys
      induction ys with
      | nil => simp
      | cons y ys ihy =>
        intro hsub cur u hu
        obtain ⟨hy, hys⟩ := List.cons_subset.mp hsub
        simp only [dumpItems, Option.bind_eq_bind, Option.bind_eq_some_iff] at hu
        obtain ⟨first, hf, rest, hr, -⟩ := hu
        exact List.forall_mem_cons.mpr ⟨ih y hy (hv y hy) hf, ihy hys cur rest hr⟩
    refine proper_arr.mpr ?_
    cases xs with
    | nil => simp
    | cons x xs =>
      simp only [dumpAt, Option.bind_eq_bind, Option.bind_eq_some_iff] at h
      obtain ⟨first, hf, rest, hr, -⟩ := h
      exact List.forall_mem_cons.mpr ⟨ih x (by simp) (hv x (by simp)) hf,
        items xs (List.subset_cons_self ..) _ rest hr⟩
  | obj ms ih =>
    obtain ⟨hsorted, hm⟩ := proper_obj.mp hv
    have members : ∀ ns ⊆ ms, ∀ cur u, dumpMembers step cur ns = some u →
        ∀ n ∈ ns, validUtf8 n.1 = true ∧ Writable n.2 := by
      intro ns
      induction ns with
      | nil => simp
      | cons n ns ihn =>
        intro hsub cur u hu
        obtain ⟨hn, hns⟩ := List.cons_subset.mp hsub
        simp only [dumpMembers, Option.bind_eq_bind, Option.bind_eq_some_iff] at hu
        obtain ⟨name, hk, first, hf, rest, hr, -⟩ := hu
        exact List.forall_mem_cons.mpr ⟨⟨validUtf8_of_dumpString hk, ih n hn (hm n hn).2 hf⟩,
          ihn hns cur rest hr⟩
    refine proper_obj.mpr ⟨hsorted, ?_⟩
    cases ms with
    | nil => simp
    | cons m ms =>
      simp only [dumpAt, Option.bind_eq_bind, Option.bind_eq_some_iff] at h
      obtain ⟨name, hk, first, hf, rest, hr, -⟩ := h
      exact List.forall_mem_cons.mpr ⟨⟨validUtf8_of_dumpString hk, ih m (by simp) (hm m (by simp)).2 hf⟩,
        members ms (List.subset_cons_self ..) _ rest hr⟩

/-! ### What a text is longer than -/

omit [Library] in
lemma length_le_escape (s : Bytes) : s.length ≤ (escape s).length := by
  unfold escape
  induction s with
  | nil => simp
  | cons b s ih =>
    have hb : 1 ≤ (escapeByte b).length := by
      unfold escapeByte
      split_ifs <;> simp
    rw [List.flatMap_cons, List.length_append, List.length_cons]
    omega

omit [Library] in
lemma length_le_dumpString {s u : Bytes} (h : dumpString s = some u) : s.length ≤ u.length := by
  unfold dumpString at h
  split_ifs at h
  cases h
  have := length_le_escape s
  simp only [List.length_cons, List.length_append, List.length_nil]
  omega

lemma length_le_dumpMembers {step : Option ℕ} {cur : ℕ} {ms : List (Bytes × Value)} {u : Bytes}
    (h : dumpMembers step cur ms = some u) {m : Bytes × Value} (hm : m ∈ ms) :
    ∃ w, dumpAt step cur m.2 = some w ∧ w.length ≤ u.length := by
  induction ms generalizing u with
  | nil => simp at hm
  | cons n ms ih =>
    simp only [dumpMembers, Option.bind_eq_bind, Option.bind_eq_some_iff] at h
    obtain ⟨name, hk, first, hf, rest, hr, h⟩ := h
    cases h
    simp only [List.length_cons, List.length_append]
    rcases List.mem_cons.mp hm with rfl | hm
    · exact ⟨first, hf, by omega⟩
    · obtain ⟨w, hw, hle⟩ := ih hr hm
      exact ⟨w, hw, by omega⟩

/-- The text of an object is no shorter than the text of a member. -/
lemma length_le_dumpAt_obj {step : Option ℕ} {cur : ℕ} {ms : List (Bytes × Value)} {u : Bytes}
    (h : dumpAt step cur (.obj ms) = some u) {m : Bytes × Value} (hm : m ∈ ms) :
    ∃ w, dumpAt step (cur + step.getD 0) m.2 = some w ∧ w.length ≤ u.length := by
  cases ms with
  | nil => simp at hm
  | cons n ms =>
    simp only [dumpAt, Option.bind_eq_bind, Option.bind_eq_some_iff] at h
    obtain ⟨name, hk, first, hf, rest, hr, h⟩ := h
    cases h
    simp only [List.length_cons, List.length_append]
    rcases List.mem_cons.mp hm with rfl | hm
    · exact ⟨first, hf, by omega⟩
    · obtain ⟨w, hw, hle⟩ := length_le_dumpMembers hr hm
      exact ⟨w, hw, by omega⟩

end CcsTrans.Json
