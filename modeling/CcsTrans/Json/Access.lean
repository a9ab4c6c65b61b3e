import CcsTrans.Json.Document

/-!
Looking into documents and changing them.

The operations of a JSON document that the program uses: members of an object are found,
set and erased by name, and two documents are compared. The comparison is on numbers, not
on their types: a signed and an unsigned integer are equal when they agree as signed ones.
-/

namespace CcsTrans.Json

open CcsTrans.Text

/-! ### Members -/

section Members

variable {α : Type}

/-- The member of a name. -/
def find (k : Bytes) : List (Bytes × α) → Option α
  | [] => none
  | (k', v) :: ms => if k = k' then some v else find k ms

def contains (k : Bytes) (ms : List (Bytes × α)) : Bool := (find k ms).isSome

/-- The members without those of a name. -/
def erase (k : Bytes) (ms : List (Bytes × α)) : List (Bytes × α) := ms.filter (·.1 ≠ k)

/-- Give the member of a name another value. -/
def replace (k : Bytes) (v : α) : List (Bytes × α) → List (Bytes × α)
  | [] => []
  | (k', v') :: ms => if k = k' then (k', v) :: ms else (k', v') :: replace k v ms

lemma mem_of_find {k : Bytes} {ms : List (Bytes × α)} {v : α} (h : find k ms = some v) :
    (k, v) ∈ ms := by
  induction ms with
  | nil => cases h
  | cons m ms ih =>
    obtain ⟨k', v'⟩ := m
    rw [find] at h
    split at h
    · next hk =>
      cases h
      simp [hk]
    · exact List.mem_cons_of_mem _ (ih h)

/-- A member is found when no two have one name. -/
lemma find_of_mem {k : Bytes} {ms : List (Bytes × α)} {v : α}
    (h : ms.Pairwise fun a b => a.1 ≠ b.1) (hm : (k, v) ∈ ms) : find k ms = some v := by
  induction ms with
  | nil => cases hm
  | cons m ms ih =>
    obtain ⟨k', v'⟩ := m
    obtain ⟨hne, hrest⟩ := List.pairwise_cons.mp h
    rw [find]
    rcases List.mem_cons.mp hm with heq | hm
    · cases heq
      rw [if_pos rfl]
    · have hk : ¬ k = k' := fun hk => hne (k, v) hm hk.symm
      rw [if_neg hk]
      exact ih hrest hm

/-- Values that change in place are found as they were. -/
lemma contains_map (f : Bytes → α → α) (k : Bytes) (ms : List (Bytes × α)) :
    contains k (ms.map fun m => (m.1, f m.1 m.2)) = contains k ms := by
  induction ms with
  | nil => rfl
  | cons m ms ih =>
    simp only [contains, List.map_cons, find] at ih ⊢
    split
    · rfl
    · exact ih

lemma insertMember_map (f : Bytes → α → α) (k : Bytes) (v : α) (ms : List (Bytes × α)) :
    insertMember k (f k v) (ms.map fun m => (m.1, f m.1 m.2)) =
      (insertMember k v ms).map fun m => (m.1, f m.1 m.2) := by
  induction ms with
  | nil => rfl
  | cons m ms ih =>
    simp only [List.map_cons, insertMember] at ih ⊢
    split_ifs
    · rfl
    · rfl
    · rw [ih]
      rfl

lemma contains_of_mem {k : Bytes} {ms : List (Bytes × α)} (h : k ∈ ms.map Prod.fst) :
    contains k ms = true := by
  induction ms with
  | nil => cases h
  | cons m ms ih =>
    obtain ⟨k', v'⟩ := m
    rw [contains, find]
    split_ifs with hk
    · rfl
    · rw [List.map_cons, List.mem_cons] at h
      exact ih (h.resolve_left hk)

lemma map_fst_replace (k : Bytes) (v : α) (ms : List (Bytes × α)) :
    (replace k v ms).map Prod.fst = ms.map Prod.fst := by
  induction ms with
  | nil => rfl
  | cons m ms ih =>
    obtain ⟨k', v'⟩ := m
    rw [replace]
    split <;> simp [ih]

lemma mem_replace {k : Bytes} {v : α} {ms : List (Bytes × α)} {m : Bytes × α}
    (h : m ∈ replace k v ms) : m ∈ ms ∨ m.2 = v ∧ ∃ w, (m.1, w) ∈ ms := by
  induction ms with
  | nil => cases h
  | cons p ms ih =>
    obtain ⟨k', v'⟩ := p
    rw [replace] at h
    split at h
    · rcases List.mem_cons.mp h with rfl | h
      · exact Or.inr ⟨rfl, v', by simp⟩
      · exact Or.inl (by simp [h])
    · rcases List.mem_cons.mp h with rfl | h
      · exact Or.inl (by simp)
      · rcases ih h with h | ⟨h, w, hw⟩
        · exact Or.inl (by simp [h])
        · exact Or.inr ⟨h, w, by simp [hw]⟩

lemma find_replace {k k' : Bytes} {v : α} {ms : List (Bytes × α)} : find k (replace k' v ms) =
    if k = k' ∧ contains k' ms then some v else find k ms := by
  induction ms with
  | nil => simp [find, replace, contains]
  | cons m ms ih =>
    obtain ⟨l, w⟩ := m
    simp only [replace, find, contains] at ih ⊢
    by_cases hl : k' = l
    · subst hl
      by_cases hk : k = k' <;> simp [find, hk]
    · by_cases hk : k = l
      · subst hk
        simp [find, hl, Ne.symm hl]
      · simp only [hl, hk, if_false, find, ih]
        congr

lemma find_erase {k k' : Bytes} {ms : List (Bytes × α)} :
    find k (erase k' ms) = if k = k' then none else find k ms := by
  induction ms with
  | nil => simp [erase, find]
  | cons m ms ih =>
    obtain ⟨l, w⟩ := m
    rw [erase, List.filter_cons]
    by_cases hl : l = k'
    · subst hl
      rw [if_neg (by simp), ← erase, ih, find]
      split_ifs <;> rfl
    · rw [if_pos (by simpa using hl), find, ← erase, ih, find]
      by_cases hk : k = l
      · subst hk
        simp [hl]
      · simp [hk]

end Members

section Proper

variable {S : Bytes → Prop} {ms : List (Bytes × Value)} {k : Bytes} {v : Value}

lemma Proper.find (h : Proper S (.obj ms)) (hv : find k ms = some v) : Proper S v :=
  ((proper_obj.mp h).2 _ (mem_of_find hv)).2

lemma Proper.erase (h : Proper S (.obj ms)) (k : Bytes) : Proper S (.obj (erase k ms)) := by
  obtain ⟨h1, h2⟩ := proper_obj.mp h
  refine proper_obj.mpr ⟨h1.filter _, fun m hm => h2 m ?_⟩
  exact (List.mem_filter.mp hm).1

lemma Proper.insertMember (h : Proper S (.obj ms)) (hk : S k) (hv : Proper S v) :
    Proper S (.obj (insertMember k v ms)) := by
  obtain ⟨h1, h2⟩ := proper_obj.mp h
  refine proper_obj.mpr ⟨pairwise_insertMember h1, fun m hm => ?_⟩
  rcases mem_insertMember hm with rfl | hm
  · exact ⟨hk, hv⟩
  · exact h2 m hm

lemma Proper.replace (h : Proper S (.obj ms)) (hv : Proper S v) :
    Proper S (.obj (replace k v ms)) := by
  obtain ⟨h1, h2⟩ := proper_obj.mp h
  refine proper_obj.mpr ⟨?_, fun m hm => ?_⟩
  · rw [← List.pairwise_map (f := Prod.fst)] at h1 ⊢
    rwa [map_fst_replace]
  · rcases mem_replace hm with hm | ⟨rfl, w, hw⟩
    · exact h2 m hm
    · exact ⟨(h2 _ hw).1, hv⟩

end Proper

/-! ### Comparison -/

variable [Library]

mutual

/-- `operator==` of documents. -/
def equal : Value → Value → Bool
  | .null, .null => true
  | .bool a, .bool b => a == b
  | .int a, .int b => a == b
  | .uint a, .uint b => a == b
  | .float a, .float b => Library.floatEq a b
  | .int a, .uint b => a == b.toInt64
  | .uint a, .int b => a.toInt64 == b
  | .int a, .float b => Library.floatEq (Library.ofInt a.toInt) b
  | .float a, .int b => Library.floatEq a (Library.ofInt b.toInt)
  | .uint a, .float b => Library.floatEq (Library.ofInt a.toNat) b
  | .float a, .uint b => Library.floatEq a (Library.ofInt b.toNat)
  | .str a, .str b => a == b
  | .arr xs, .arr ys => equalItems xs ys
  | .obj ms, .obj ns => equalMembers ms ns
  | _, _ => false

def equalItems : List Value → List Value → Bool
  | [], [] => true
  | x :: xs, y :: ys => equal x y && equalItems xs ys
  | _, _ => false

def equalMembers : List (Bytes × Value) → List (Bytes × Value) → Bool
  | [], [] => true
  | (k, v) :: ms, (l, w) :: ns => k == l && equal v w && equalMembers ms ns
  | _, _ => false

end

/-- **A document equals what its text denotes.** -/
theorem equal_canon {S : Bytes → Prop} {v : Value} (h : Proper S v) : equal (canon v) v = true := by
  induction v using Value.induction with
  | null => rfl
  | bool | uint | str => simp [canon, equal]
  | int n =>
    rw [canon]
    split
    · next hn =>
      simp only [equal, beq_iff_eq]
      exact Int64.ofNat_toNatClampNeg n (Int64.le_iff_toInt_le.mpr hn)
    · simp [equal]
  | float d =>
    rw [Proper] at h
    simp [canon, h, equal, Library.floatEq_refl d h]
  | arr xs ih =>
    rw [proper_arr] at h
    rw [canon, equal]
    induction xs with
    | nil => rfl
    | cons x xs ih' =>
      rw [canonItems, equalItems, ih x (by simp) (h x (by simp)), Bool.true_and]
      exact ih' (fun y hy => ih y (by simp [hy])) fun y hy => h y (by simp [hy])
  | obj ms ih =>
    replace h := (proper_obj.mp h).2
    rw [canon, equal]
    induction ms with
    | nil => rfl
    | cons m ms ih' =>
      rw [canonMembers, equalMembers, ih m (by simp) (h m (by simp)).2]
      simp only [beq_self_eq_true, Bool.true_and]
      exact ih' (fun y hy => ih y (by simp [hy])) fun y hy => h y (by simp [hy])

end CcsTrans.Json
