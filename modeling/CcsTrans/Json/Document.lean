import CcsTrans.Json.RoundTrip

/-!
Documents.

In a document the doubles are finite and the names of an object are distinct and sorted.
What reading a text gives is a document whose strings are UTF-8. Such a document can be
written, on one line or indented, and the text of any document that has one reads as the
document again, up to the type of its integers.
-/

namespace CcsTrans.Json

open CcsTrans.Text CcsTrans.Fallible

/-! ### Well-formed documents -/

mutual

/-- A document whose strings and names are in `S`. -/
def Proper (S : Bytes → Prop) : Value → Prop
  | .float d => d.isFinite = true
  | .str s => S s
  | .arr xs => ProperItems S xs
  | .obj ms => ms.Pairwise (fun a b => a.1 < b.1) ∧ ProperMembers S ms
  | _ => True

def ProperItems (S : Bytes → Prop) : List Value → Prop
  | [] => True
  | x :: xs => Proper S x ∧ ProperItems S xs

def ProperMembers (S : Bytes → Prop) : List (Bytes × Value) → Prop
  | [] => True
  | (k, v) :: ms => (S k ∧ Proper S v) ∧ ProperMembers S ms

end

/-- A value in memory: nothing is known of its strings. -/
abbrev Document : Value → Prop := Proper fun _ => True

/-- A value that has a text. -/
abbrev Writable : Value → Prop := Proper fun s => validUtf8 s = true

variable {S : Bytes → Prop}

lemma properItems_iff {xs : List Value} : ProperItems S xs ↔ ∀ x ∈ xs, Proper S x := by
  induction xs with
  | nil => simp [ProperItems]
  | cons x xs ih => simp [ProperItems, ih]

lemma properMembers_iff {ms : List (Bytes × Value)} :
    ProperMembers S ms ↔ ∀ m ∈ ms, S m.1 ∧ Proper S m.2 := by
  induction ms with
  | nil => simp [ProperMembers]
  | cons m ms ih => simp only [ProperMembers, ih, List.forall_mem_cons]

@[simp] lemma proper_arr {xs : List Value} : Proper S (.arr xs) ↔ ∀ x ∈ xs, Proper S x := by
  rw [Proper, properItems_iff]

@[simp] lemma proper_obj {ms : List (Bytes × Value)} :
    Proper S (.obj ms) ↔ ms.Pairwise (fun a b => a.1 < b.1) ∧
      ∀ m ∈ ms, S m.1 ∧ Proper S m.2 := by
  rw [Proper, properMembers_iff]

/-- An object is proper when its names are sorted and it is proper in its parts. -/
lemma proper_of_names {ms : List (Bytes × Value)} (names : List Bytes)
    (hnames : ms.map Prod.fst = names) (hsorted : names.Pairwise (· < ·)) (hS : ∀ k ∈ names, S k)
    (h : ∀ m ∈ ms, Proper S m.2) : Proper S (.obj ms) := by
  subst hnames
  exact proper_obj.mpr ⟨List.pairwise_map.mp hsorted,
    fun m hm => ⟨hS _ (List.mem_map_of_mem hm), h m hm⟩⟩

lemma document_obj {ms : List (Bytes × Value)} (names : List Bytes)
    (hnames : ms.map Prod.fst = names) (hsorted : names.Pairwise (· < ·))
    (h : ∀ m ∈ ms, Document m.2) : Document (.obj ms) :=
  proper_of_names names hnames hsorted (fun _ _ => trivial) h

lemma Proper.mono {T : Bytes → Prop} (hST : ∀ s, S s → T s) {v : Value} (h : Proper S v) :
    Proper T v := by
  induction v using Value.induction with
  | null | bool | int | uint => trivial
  | float d => exact h
  | str s => exact hST s h
  | arr xs ih =>
    rw [proper_arr] at h ⊢
    exact fun x hx => ih x hx (h x hx)
  | obj ms ih =>
    rw [proper_obj] at h ⊢
    exact ⟨h.1, fun m hm => ⟨hST _ (h.2 m hm).1, ih m hm (h.2 m hm).2⟩⟩

lemma canonItems_eq (xs : List Value) : canonItems xs = xs.map canon := by
  induction xs with
  | nil => rfl
  | cons x xs ih => simp [canonItems, ih]

lemma canonMembers_eq (ms : List (Bytes × Value)) :
    canonMembers ms = ms.map fun m => (m.1, canon m.2) := by
  induction ms with
  | nil => rfl
  | cons m ms ih => simp [canonMembers, ih]

/-- What the text of a document denotes is a document. -/
lemma proper_canon {v : Value} (h : Proper S v) : Proper S (canon v) := by
  induction v using Value.induction with
  | null | bool | uint | str => simpa [canon] using h
  | int n => rw [canon]; split <;> trivial
  | float d => rw [canon]; split <;> simp_all [Proper]
  | arr xs ih =>
    rw [canon, canonItems_eq]
    simp only [proper_arr, List.mem_map] at h ⊢
    rintro _ ⟨x, hx, rfl⟩
    exact ih x hx (h x hx)
  | obj ms ih =>
    rw [canon, canonMembers_eq]
    simp only [proper_obj, List.pairwise_map, List.mem_map] at h ⊢
    refine ⟨h.1, ?_⟩
    rintro _ ⟨m, hm, rfl⟩
    exact ⟨(h.2 m hm).1, ih m hm (h.2 m hm).2⟩

/-! ### From trees to documents -/

lemma not_lt_of_gt {a b : Bytes} (h : a < b) : ¬ b < a :=
  fun h' => List.lt_irrefl a (List.lt_trans h h')

lemma lt_of_not_lt_of_ne {a b : Bytes} (h : ¬ a < b) (hne : a ≠ b) : b < a := by
  by_contra h'
  exact hne (List.le_antisymm (List.not_lt.mp h') (List.not_lt.mp h))

lemma canon_canon (v : Value) : canon (canon v) = canon v := by
  induction v using Value.induction with
  | null | bool | uint | str => rfl
  | int n =>
    by_cases hn : 0 ≤ n.toInt
    · simp only [canon, hn, if_true]
    · simp only [canon, hn, if_false]
  | float d =>
    by_cases hd : d.isFinite = true
    · simp only [canon, hd, if_true]
    · simp only [canon, hd, if_false, Bool.false_eq_true]
  | arr xs ih =>
    simp only [canon, canonItems_eq, List.map_map, Value.arr.injEq]
    exact List.map_congr_left ih
  | obj ms ih =>
    simp only [canon, canonMembers_eq, List.map_map, Value.obj.injEq]
    exact List.map_congr_left fun m hm => Prod.ext rfl (ih m hm)

section Members

variable {α : Type} {k : Bytes} {v : α} {ms : List (Bytes × α)}

lemma mem_insertMember {m : Bytes × α} (h : m ∈ insertMember k v ms) : m = (k, v) ∨ m ∈ ms := by
  induction ms with
  | nil => simpa [insertMember] using h
  | cons p ms ih =>
    obtain ⟨k', v'⟩ := p
    simp only [insertMember] at h
    split_ifs at h with h1 h2
    · simpa using h
    · exact (List.mem_cons.mp h).imp_right (List.mem_cons_of_mem _)
    · rcases List.mem_cons.mp h with rfl | h
      · exact Or.inr (by simp)
      · exact (ih h).imp_right (List.mem_cons_of_mem _)

lemma pairwise_insertMember (h : ms.Pairwise fun a b => a.1 < b.1) :
    (insertMember k v ms).Pairwise fun a b => a.1 < b.1 := by
  induction ms with
  | nil => simp [insertMember]
  | cons p ms ih =>
    obtain ⟨k', v'⟩ := p
    rw [List.pairwise_cons] at h
    simp only [insertMember]
    split_ifs with h1 h2
    · rw [List.pairwise_cons, List.forall_mem_cons, List.pairwise_cons]
      exact ⟨⟨h1, fun m hm => List.lt_trans h1 (h.1 m hm)⟩, h⟩
    · rw [List.pairwise_cons]
      subst h2
      exact ⟨h.1, h.2⟩
    · rw [List.pairwise_cons]
      refine ⟨fun m hm => ?_, ih h.2⟩
      rcases mem_insertMember hm with rfl | hm
      · exact lt_of_not_lt_of_ne h1 h2
      · exact h.1 m hm

/-- A member behind all others is put at the end. -/
lemma insertMember_last (h : ∀ m ∈ ms, m.1 < k) : insertMember k v ms = ms ++ [(k, v)] := by
  induction ms with
  | nil => rfl
  | cons p ms ih =>
    obtain ⟨k', v'⟩ := p
    have hk : k' < k := h (k', v') (by simp)
    have hne : k ≠ k' := by rintro rfl; exact List.lt_irrefl _ hk
    simp [insertMember, not_lt_of_gt hk, hne, ih fun m hm => h m (by simp [hm])]

/-- Members that are sorted are built up one by one. -/
lemma foldl_insertMember {acc : List (Bytes × α)}
    (h : (acc ++ ms).Pairwise fun a b => a.1 < b.1) :
    ms.foldl (fun ms m => insertMember m.1 m.2 ms) acc = acc ++ ms := by
  induction ms generalizing acc with
  | nil => simp
  | cons m ms ih =>
    have hlast : ∀ m' ∈ acc, m'.1 < m.1 := by
      intro m' hm'
      exact (List.pairwise_append.mp h).2.2 m' hm' m (by simp)
    rw [List.foldl_cons, insertMember_last hlast, ih (by simpa using h)]
    simp

/-- A new member joins the others. -/
lemma perm_insertMember (h : ∀ m ∈ ms, m.1 ≠ k) : (insertMember k v ms).Perm ((k, v) :: ms) := by
  induction ms with
  | nil => exact .refl _
  | cons p ms ih =>
    obtain ⟨k', v'⟩ := p
    have hne : ¬ k = k' := fun hk => h (k', v') (by simp) hk.symm
    rw [insertMember, if_neg hne]
    split
    · exact .refl _
    · exact ((ih fun m hm => h m (by simp [hm])).cons _).trans (.swap _ _ _)

/-- New members join the others. -/
lemma perm_foldl_insertMember {acc : List (Bytes × α)}
    (h : (ms ++ acc).Pairwise fun a b => a.1 ≠ b.1) :
    (ms.foldl (fun ms m => insertMember m.1 m.2 ms) acc).Perm (ms ++ acc) := by
  induction ms generalizing acc with
  | nil => exact .refl _
  | cons m ms ih =>
    obtain ⟨hm, hrest⟩ := List.pairwise_cons.mp h
    have hfresh : ∀ m' ∈ acc, m'.1 ≠ m.1 := fun m' hm' => (hm m' (by simp [hm'])).symm
    have hinsert : (ms ++ insertMember m.1 m.2 acc).Perm (m :: (ms ++ acc)) :=
      ((List.perm_append_left_iff ms).mpr (perm_insertMember hfresh)).trans List.perm_middle
    have hne : (ms ++ insertMember m.1 m.2 acc).Pairwise fun a b => a.1 ≠ b.1 :=
      hinsert.symm.pairwise h fun hab => hab.symm
    exact (ih hne).trans hinsert

lemma pairwise_foldl_insertMember {acc : List (Bytes × α)}
    (h : acc.Pairwise fun a b => a.1 < b.1) :
    (ms.foldl (fun ms m => insertMember m.1 m.2 ms) acc).Pairwise fun a b => a.1 < b.1 := by
  induction ms generalizing acc with
  | nil => exact h
  | cons m ms ih => exact ih (pairwise_insertMember h)

/-- Members that are sorted are given by which they are. -/
lemma eq_of_perm_of_pairwise_lt {ns : List (Bytes × α)} (hms : ms.Pairwise fun a b => a.1 < b.1)
    (hns : ns.Pairwise fun a b => a.1 < b.1) (h : ms.Perm ns) : ms = ns := by
  refine List.Perm.eq_of_pairwise ?_ hms hns h
  intro a b _ _ hab hba
  exact absurd hba (not_lt_of_gt hab)

end Members

lemma toDomItems_eq (xs : List Value) : toDomItems xs = xs.map toDom := by
  induction xs with
  | nil => rfl
  | cons x xs ih => simp [toDomItems, ih]

/-- The names of a document are in their places. -/
lemma toDomMembers_sorted {ms acc : List (Bytes × Value)}
    (hs : (acc ++ ms).Pairwise fun a b => a.1 < b.1) (hms : ∀ m ∈ ms, toDom m.2 = m.2) :
    toDomMembers acc ms = acc ++ ms := by
  induction ms generalizing acc with
  | nil => simp [toDomMembers]
  | cons m ms ih =>
    obtain ⟨k, v⟩ := m
    have hlast : ∀ m ∈ acc, m.1 < k := by
      intro m hm
      exact (List.pairwise_append.mp hs).2.2 m hm (k, v) (by simp)
    have hv : toDom v = v := hms (k, v) (by simp)
    rw [toDomMembers, insertMember_last hlast, hv,
      ih (by simpa using hs) fun m hm => hms m (by simp [hm])]
    simp

lemma canonMembers_insertMember (k : Bytes) (v : Value) (ms : List (Bytes × Value)) :
    canonMembers (insertMember k v ms) = insertMember k (canon v) (canonMembers ms) := by
  induction ms with
  | nil => rfl
  | cons m ms ih =>
    obtain ⟨k', v'⟩ := m
    rw [insertMember, canonMembers, insertMember]
    split_ifs
    · rfl
    · rfl
    · rw [canonMembers, ih]

lemma canonMembers_toDomMembers {ms acc : List (Bytes × Value)}
    (h : ∀ m ∈ ms, canon (toDom m.2) = toDom (canon m.2)) :
    canonMembers (toDomMembers acc ms) = toDomMembers (canonMembers acc) (canonMembers ms) := by
  induction ms generalizing acc with
  | nil => rfl
  | cons m ms ih =>
    obtain ⟨k, v⟩ := m
    have hv : canon (toDom v) = toDom (canon v) := h (k, v) List.mem_cons_self
    rw [toDomMembers, canonMembers, toDomMembers, ih fun n hn => h n (List.mem_cons_of_mem _ hn),
      canonMembers_insertMember, hv]

/-- A tree may become a document before or after it is written. -/
lemma canon_toDom (v : Value) : canon (toDom v) = toDom (canon v) := by
  induction v using Value.induction with
  | null | bool | uint | str => rfl
  | int n =>
    simp only [toDom, canon]
    split_ifs <;> rfl
  | float d =>
    simp only [toDom, canon]
    split_ifs <;> rfl
  | arr xs ih =>
    simp only [toDom, canon, toDomItems_eq, canonItems_eq, List.map_map, Value.arr.injEq]
    exact List.map_congr_left ih
  | obj ms ih =>
    simp only [toDom, canon, Value.obj.injEq]
    exact canonMembers_toDomMembers ih

/-- The document of a document is itself. -/
lemma toDom_proper {v : Value} (h : Proper S v) : toDom v = v := by
  induction v using Value.induction with
  | null | bool | int | uint | float | str => rfl
  | arr xs ih =>
    rw [toDom, toDomItems_eq]
    congr 1
    exact (List.map_congr_left fun x hx => ih x hx (proper_arr.mp h x hx)).trans (List.map_id' _)
  | obj ms ih =>
    obtain ⟨hs, hm⟩ := proper_obj.mp h
    rw [toDom, toDomMembers_sorted (by simpa using hs) fun m hm' => ih m hm' (hm m hm').2]
    rfl

/-- A document has no name twice. -/
lemma duplicateKey_proper {v : Value} (h : Proper S v) : duplicateKey v = none := by
  induction v using Value.induction with
  | null | bool | int | uint | float | str => rfl
  | arr xs ih =>
    rw [proper_arr] at h
    rw [duplicateKey]
    induction xs with
    | nil => rfl
    | cons x xs ih' =>
      rw [duplicateInItems, ih x (by simp) (h x (by simp)), Option.none_or]
      exact ih' (fun y hy => ih y (by simp [hy])) fun y hy => h y (by simp [hy])
  | obj ms ih =>
    obtain ⟨hs, hm⟩ := proper_obj.mp h
    have key : ∀ seen : List Bytes, (∀ k ∈ seen, ∀ m ∈ ms, k < m.1) →
        duplicateInMembers seen ms = none := by
      clear h
      induction ms with
      | nil => intros; rfl
      | cons m ms ih' =>
        obtain ⟨k, v⟩ := m
        intro seen hseen
        have hk : k ∉ seen := fun hk => List.lt_irrefl k (hseen k hk (k, v) (by simp))
        rw [List.pairwise_cons] at hs
        rw [duplicateInMembers, if_neg (fun h => hk h.1), ih (k, v) (by simp) (hm (k, v) (by simp)).2,
          Option.none_or]
        refine ih' (fun y hy => ih y (by simp [hy])) hs.2 (fun y hy => hm y (by simp [hy])) _ ?_
        rintro k' hk' m' hm'
        rcases List.mem_cons.mp hk' with rfl | hk'
        · exact hs.1 m' hm'
        · exact hseen k' hk' m' (by simp [hm'])
    exact key [] (by simp)

/-! ### Documents and their text -/

variable [Library]

lemma length_pos_of_dumpAt {step : Option ℕ} {cur : ℕ} {v : Value} {u : Bytes}
    (h : dumpAt step cur v = some u) : 0 < u.length := by
  obtain ⟨b, t, rfl, -⟩ := opensValue_dumpAt h
  simp

/-- The calls it takes to read a text are paid for by its length. -/
lemma cost_le {v : Value} {step : Option ℕ} {cur : ℕ} {u : Bytes} (h : dumpAt step cur v = some u) :
    cost v ≤ 2 * u.length := by
  induction v using Value.induction generalizing cur u with
  | null | bool | int | uint | float | str =>
    have := length_pos_of_dumpAt h
    simp only [cost]
    omega
  | arr xs ih =>
    have items : ∀ ys u' cur, (∀ y ∈ ys, y ∈ xs) → dumpItems step cur ys = some u' →
        costItems ys ≤ 2 * u'.length + 1 := by
      intro ys
      induction ys with
      | nil => simp [costItems]
      | cons y ys ihy =>
        intro u' cur hsub hu
        simp only [dumpItems, Option.bind_eq_bind, Option.bind_eq_some_iff] at hu
        obtain ⟨first, hf, rest, hr, hu⟩ := hu
        cases hu
        have h1 := ih y (hsub y (by simp)) hf
        have h2 := ihy rest cur (fun z hz => hsub z (by simp [hz])) hr
        simp only [costItems, List.length_cons, List.length_append]
        omega
    cases xs with
    | nil => cases h; simp [cost]
    | cons x xs =>
      simp only [dumpAt, Option.bind_eq_bind, Option.bind_eq_some_iff] at h
      obtain ⟨first, hf, rest, hr, h⟩ := h
      cases h
      have h1 := ih x (by simp) hf
      have h2 := items xs rest _ (fun _ => List.mem_cons_of_mem _) hr
      simp only [cost, List.length_cons, List.length_append]
      omega
  | obj ms ih =>
    have members : ∀ ns u' cur, (∀ n ∈ ns, n ∈ ms) → dumpMembers step cur ns = some u' →
        costMembers ns ≤ 2 * u'.length + 1 := by
      intro ns
      induction ns with
      | nil => simp [costMembers]
      | cons n ns ihn =>
        obtain ⟨k, v⟩ := n
        intro u' cur hsub hu
        simp only [dumpMembers, Option.bind_eq_bind, Option.bind_eq_some_iff] at hu
        obtain ⟨name, -, first, hf, rest, hr, hu⟩ := hu
        cases hu
        have h1 := ih (k, v) (hsub _ (by simp)) hf
        have h2 := ihn rest cur (fun z hz => hsub z (by simp [hz])) hr
        simp only [costMembers, colon, List.length_cons, List.length_append]
        dsimp only at h1
        omega
    cases ms with
    | nil => cases h; simp [cost]
    | cons m ms =>
      obtain ⟨k, v⟩ := m
      simp only [dumpAt, Option.bind_eq_bind, Option.bind_eq_some_iff] at h
      obtain ⟨name, -, first, hf, rest, hr, h⟩ := h
      cases h
      have h1 := ih (k, v) (by simp) hf
      have h2 := members ms rest _ (fun _ => List.mem_cons_of_mem _) hr
      simp only [cost, colon, List.length_cons, List.length_append]
      dsimp only at h1
      omega

omit [Library] in
lemma skipBom_opensValue {u : Bytes} (h : OpensValue u) : skipBom u = .ok u := by
  obtain ⟨b, t, rfl, ⟨-, -, hb⟩, -⟩ := h
  unfold skipBom
  split
  · simp_all
  · simp_all
  · rfl

/-- A text of a value, with blanks after it, is the tree that the value denotes. -/
lemma parseTree_dumpAt {c : Bool} {step : Option ℕ} {v : Value} {u r : Bytes}
    (h : dumpAt step 0 v = some u) (hr : Ends r) (hskip : skip c r = .ok []) :
    parseTree c (u ++ r) = .ok (canon v) := by
  have hcost := cost_le h
  have hparse := readsBack v c step 0 u (2 * (u ++ r).length + 2) r h
    (by simp only [List.length_append]; omega) hr
  simp only [parseTree, skipBom_opensValue (opensValue_append (opensValue_dumpAt h) r), ok_bind,
    hparse, hskip, pure_eq_ok]

/-- **The text of a document reads as the document.** -/
theorem parse_dump {v : Value} (hv : Proper S v) {u : Bytes} (h : dump v = some u) :
    parse u = .ok (canon v) := by
  have htree := parseTree_dumpAt (c := false) h ends_nil rfl
  rw [List.append_nil] at htree
  simp [parse, htree, toDom_proper (proper_canon hv)]

/-- The indented text of a document, with its last line ended, has the tree of the document. -/
theorem parseTree_dumpPretty {c : Bool} {v : Value} {u : Bytes} (h : dumpPretty v = some u) :
    parseTree c (u ++ [ch '\n']) = .ok (canon v) :=
  parseTree_dumpAt h (ends_cons [] (by decide)) (by cases c <;> rfl)

omit [Library] in
lemma dumpString_valid {s : Bytes} (h : validUtf8 s = true) : ∃ u, dumpString s = some u := by
  simp [dumpString, h]

/-- An array of what has a text has a text. -/
lemma dumpAt_arr {step : Option ℕ} {xs : List Value} (h : ∀ x ∈ xs, ∀ cur, ∃ u, dumpAt step cur x = some u)
    (cur : ℕ) : ∃ u, dumpAt step cur (.arr xs) = some u := by
  have items : ∀ ys ⊆ xs, ∀ cur, ∃ u, dumpItems step cur ys = some u := by
    intro ys
    induction ys with
    | nil => simp [dumpItems]
    | cons y ys ihy =>
      intro hsub cur
      obtain ⟨hy, hys⟩ := List.cons_subset.mp hsub
      obtain ⟨first, hf⟩ := h y hy cur
      obtain ⟨rest, hr⟩ := ihy hys cur
      simp [dumpItems, hf, hr]
  cases xs with
  | nil => simp [dumpAt]
  | cons x xs =>
    obtain ⟨first, hf⟩ := h x (by simp) (cur + step.getD 0)
    obtain ⟨rest, hr⟩ := items xs (List.subset_cons_self ..) (cur + step.getD 0)
    simp [dumpAt, hf, hr]

/-- An object of UTF-8 names and of what has a text has a text. -/
lemma dumpAt_obj {step : Option ℕ} {ms : List (Bytes × Value)}
    (h : ∀ m ∈ ms, validUtf8 m.1 = true ∧ ∀ cur, ∃ u, dumpAt step cur m.2 = some u) (cur : ℕ) :
    ∃ u, dumpAt step cur (.obj ms) = some u := by
  have members : ∀ ns ⊆ ms, ∀ cur, ∃ u, dumpMembers step cur ns = some u := by
    intro ns
    induction ns with
    | nil => simp [dumpMembers]
    | cons n ns ihn =>
      intro hsub cur
      obtain ⟨hn, hns⟩ := List.cons_subset.mp hsub
      obtain ⟨name, hk⟩ := dumpString_valid (h n hn).1
      obtain ⟨first, hf⟩ := (h n hn).2 cur
      obtain ⟨rest, hr⟩ := ihn hns cur
      simp [dumpMembers, hk, hf, hr]
  cases ms with
  | nil => simp [dumpAt]
  | cons m ms =>
    obtain ⟨name, hk⟩ := dumpString_valid (h m (by simp)).1
    obtain ⟨first, hf⟩ := (h m (by simp)).2 (cur + step.getD 0)
    obtain ⟨rest, hr⟩ := members ms (List.subset_cons_self ..) (cur + step.getD 0)
    simp [dumpAt, hk, hf, hr]

/-- A document of UTF-8 strings has a text. -/
lemma dumpAt_writable {v : Value} (h : Writable v) (step : Option ℕ) (cur : ℕ) :
    ∃ u, dumpAt step cur v = some u := by
  induction v using Value.induction generalizing cur with
  | null | int | uint | float => simp [dumpAt]
  | bool b => cases b <;> simp [dumpAt]
  | str s => simpa [dumpAt] using dumpString_valid h
  | arr xs ih => exact dumpAt_arr (fun x hx => ih x hx (proper_arr.mp h x hx)) cur
  | obj ms ih =>
    obtain ⟨-, hm⟩ := proper_obj.mp h
    exact dumpAt_obj (fun m hmem => ⟨(hm m hmem).1, ih m hmem (hm m hmem).2⟩) cur

/-- A value and what its text denotes are written alike. -/
lemma dumpAt_canon (step : Option ℕ) (cur : ℕ) (v : Value) :
    dumpAt step cur (canon v) = dumpAt step cur v := by
  induction v using Value.induction generalizing cur with
  | null | bool | uint | str => rfl
  | int n =>
    rw [canon]
    split
    · next h =>
      have hmax := n.toInt_lt
      have hnat : n.toInt.toNat.toUInt64.toNat = n.toInt.natAbs := by
        rw [show n.toInt.toNat = n.toInt.natAbs by omega]
        simp only [Nat.toUInt64_eq, UInt64.toNat_ofNat']
        omega
      rw [dumpAt, dumpAt, hnat, decimalInt, if_neg (not_lt.mpr h)]
    · rfl
  | float d =>
    rw [canon]
    split
    · rfl
    · next h => simp [dumpAt, h]
  | arr xs ih =>
    have items : ∀ ys ⊆ xs, ∀ cur, dumpItems step cur (canonItems ys) = dumpItems step cur ys := by
      intro ys
      induction ys with
      | nil => simp [canonItems]
      | cons y ys ihy =>
        intro hsub cur
        obtain ⟨hy, hys⟩ := List.cons_subset.mp hsub
        simp [canonItems, dumpItems, ih y hy, ihy hys]
    cases xs with
    | nil => rfl
    | cons x xs => simp [canon, canonItems, dumpAt, ih x (by simp), items xs (List.subset_cons_self ..)]
  | obj ms ih =>
    have members : ∀ ns ⊆ ms, ∀ cur,
        dumpMembers step cur (canonMembers ns) = dumpMembers step cur ns := by
      intro ns
      induction ns with
      | nil => simp [canonMembers]
      | cons n ns ihn =>
        intro hsub cur
        obtain ⟨hn, hns⟩ := List.cons_subset.mp hsub
        simp [canonMembers, dumpMembers, ih n hn, ihn hns]
    cases ms with
    | nil => rfl
    | cons m ms =>
      simp [canon, canonMembers, dumpAt, ih m (by simp), members ms (List.subset_cons_self ..)]

/-! ### What is read is a document -/

section Strings

omit [Library]

lemma utf8Run_append (q : Utf8State) (s t : Bytes) :
    utf8Run q (s ++ t) = (utf8Run q s).bind fun q' => utf8Run q' t := by
  induction s generalizing q with
  | nil => rfl
  | cons b s ih =>
    simp only [List.cons_append, utf8Run]
    cases utf8Step q b with
    | none => rfl
    | some q' => exact ih q'

/-- ASCII is UTF-8. -/
lemma validUtf8_of_ascii {s : Bytes} (h : ∀ b ∈ s, b ≤ 0x7F) : validUtf8 s = true := by
  have hrun : utf8Run .start s = some .start := by
    induction s with
    | nil => rfl
    | cons b s ih =>
      obtain ⟨hb, hs⟩ := List.forall_mem_cons.mp h
      simp only [utf8Run, utf8Step, if_pos hb, Option.bind_some]
      exact ih hs
  simp [validUtf8, hrun]

lemma toUInt8_toNat {n : ℕ} (h : n < 256) : n.toUInt8.toNat = n := by
  simp only [Nat.toUInt8_eq, UInt8.toNat_ofNat']
  omega

lemma utf8Step_head {k : ℕ} (hk : k < 256) : utf8Step .start k.toUInt8 =
    if k ≤ 0x7F then some .start
    else if 0xC2 ≤ k ∧ k ≤ 0xDF then some (.need 0x80 0xBF 0)
    else if k = 0xE0 then some (.need 0xA0 0xBF 1)
    else if k = 0xED then some (.need 0x80 0x9F 1)
    else if 0xE1 ≤ k ∧ k ≤ 0xEF then some (.need 0x80 0xBF 1)
    else if k = 0xF0 then some (.need 0x90 0xBF 2)
    else if 0xF1 ≤ k ∧ k ≤ 0xF3 then some (.need 0x80 0xBF 2)
    else if k = 0xF4 then some (.need 0x80 0x8F 2)
    else none := by
  simp only [utf8Step, UInt8.le_iff_toNat_le, ← UInt8.toNat_inj, toUInt8_toNat hk]
  rfl

lemma utf8Step_tail {low high : UInt8} {more k : ℕ} (hk : k < 256)
    (h : low.toNat ≤ k ∧ k ≤ high.toNat) : utf8Step (.need low high more) k.toUInt8 =
      some (match more with
        | 0 => .start
        | n + 1 => .need 0x80 0xBF n) := by
  cases more <;> simp [utf8Step, UInt8.le_iff_toNat_le, toUInt8_toNat hk, h]

/-- A code point that is no surrogate is encoded in UTF-8. -/
lemma utf8Run_encode {n : ℕ} (h : n < 0xD800 ∨ 0xE000 ≤ n ∧ n < 0x110000) :
    utf8Run .start (utf8Encode n) = some .start := by
  have tail : ∀ {k : ℕ} {more : ℕ}, 0x80 ≤ k ∧ k ≤ 0xBF →
      utf8Step (.need 0x80 0xBF more) k.toUInt8 =
        some (match more with
          | 0 => .start
          | n + 1 => .need 0x80 0xBF n) :=
    fun hk => utf8Step_tail (by omega) hk
  unfold utf8Encode
  split_ifs with h1 h2 h3
  · rw [utf8Run, utf8Step_head (by omega), if_pos (by omega)]
    rfl
  · rw [utf8Run, utf8Step_head (by omega), if_neg (by omega), if_pos (by omega),
      Option.bind_some, utf8Run, tail (by omega)]
    rfl
  · -- the second octet keeps overlong forms and surrogates out
    obtain ⟨low, high, hh, hr⟩ : ∃ low high : UInt8,
        utf8Step .start (0xE0 + n / 4096).toUInt8 = some (.need low high 1) ∧
          low.toNat ≤ 0x80 + n / 64 % 64 ∧ 0x80 + n / 64 % 64 ≤ high.toNat := by
      rw [utf8Step_head (by omega), if_neg (by omega), if_neg (by omega)]
      split_ifs
      · exact ⟨0xA0, 0xBF, rfl, by simp; omega⟩
      · exact ⟨0x80, 0x9F, rfl, by simp; omega⟩
      · exact ⟨0x80, 0xBF, rfl, by simp; omega⟩
      all_goals omega
    rw [utf8Run, hh, Option.bind_some, utf8Run, utf8Step_tail (by omega) hr, Option.bind_some,
      utf8Run, tail (by omega)]
    rfl
  · -- and so it does for the planes above
    obtain ⟨low, high, hh, hr⟩ : ∃ low high : UInt8,
        utf8Step .start (0xF0 + n / 262144).toUInt8 = some (.need low high 2) ∧
          low.toNat ≤ 0x80 + n / 4096 % 64 ∧ 0x80 + n / 4096 % 64 ≤ high.toNat := by
      rw [utf8Step_head (by omega), if_neg (by omega), if_neg (by omega), if_neg (by omega),
        if_neg (by omega), if_neg (by omega)]
      split_ifs
      · exact ⟨0x90, 0xBF, rfl, by simp; omega⟩
      · exact ⟨0x80, 0xBF, rfl, by simp; omega⟩
      · exact ⟨0x80, 0x8F, rfl, by simp; omega⟩
      · omega
    rw [utf8Run, hh, Option.bind_some, utf8Run, utf8Step_tail (by omega) hr, Option.bind_some,
      utf8Run, tail (by omega), Option.bind_some, utf8Run, tail (by omega)]
    rfl

/-- What a reader of a string may hold, and the UTF-8 state it has reached. -/
def StringState.Reaches : StringState → Utf8State → Prop
  | .text q, u => q = u
  | .backslash, u => u = .start
  | .hex high left acc, u => u = .start ∧ 1 ≤ left ∧ left ≤ 4 ∧ acc < 16 ^ (4 - left) ∧
      ∀ h ∈ high, 0xD800 ≤ h ∧ h ≤ 0xDBFF
  | .pairBackslash h, u => u = .start ∧ 0xD800 ≤ h ∧ h ≤ 0xDBFF
  | .pairU h, u => u = .start ∧ 0xD800 ≤ h ∧ h ≤ 0xDBFF

lemma hexValue_lt {b : UInt8} {d : ℕ} (h : hexValue b = some d) : d < 16 := by
  have hall : ∀ n < 256, ∀ d ∈ hexValue n.toUInt8, d < 16 := by decide +kernel
  exact hall b.toNat b.toNat_lt d (by simpa using h)

/-- What a backslash stands for is a character of its own. -/
lemma utf8Run_unescape {b c : UInt8} (h : unescape b = some c) :
    utf8Run .start [c] = some .start := by
  unfold unescape at h
  split_ifs at h with hself
  · cases h
    rcases hself with rfl | rfl | rfl <;> rfl
  all_goals
    cases h
    rfl

/-- A complete code unit keeps the string in UTF-8. -/
lemma unitStep_reaches {high : Option ℕ} {n : ℕ} {out : Bytes} {q : StringState}
    (hn : n < 0x10000) (hh : ∀ h ∈ high, 0xD800 ≤ h ∧ h ≤ 0xDBFF)
    (h : unitStep high n = .next out q) :
    ∃ u, utf8Run .start out = some u ∧ q.Reaches u := by
  unfold unitStep at h
  split at h
  · split_ifs at h with h1 h2
    · cases h
      exact ⟨.start, rfl, rfl, h1⟩
    · cases h
      exact ⟨.start, utf8Run_encode (by omega), rfl⟩
  · next hi =>
    have := hh hi rfl
    split_ifs at h with h1
    obtain ⟨rfl, rfl⟩ := StringStep.next.injEq .. ▸ h
    exact ⟨.start, utf8Run_encode (by omega), rfl⟩

/-- One byte keeps the string in UTF-8. -/
lemma stringStep_reaches {q q' : StringState} {u : Utf8State} {b : UInt8} {out : Bytes}
    (hq : q.Reaches u) (h : stringStep q b = .next out q') :
    ∃ u', utf8Run u out = some u' ∧ q'.Reaches u' := by
  unfold stringStep at h
  split at h
  · cases hq
    split_ifs at h
    · cases h
      exact ⟨.start, rfl, rfl⟩
    · split at h
      · cases h
      · next u' hu =>
        cases h
        exact ⟨u', by simp [utf8Run, hu], rfl⟩
  · cases hq
    split at h
    · cases h
    · next u' hu =>
      cases h
      exact ⟨u', by simp [utf8Run, hu], rfl⟩
  · cases hq
    split_ifs at h with hu
    · cases h
      exact ⟨.start, rfl, rfl, by omega, by omega, by simp, by simp⟩
    · split at h
      · cases h
      · next c hc =>
        cases h
        exact ⟨.start, utf8Run_unescape hc, rfl⟩
  · next high left acc =>
    obtain ⟨rfl, h1, h2, h3, h4⟩ := hq
    split at h
    · cases h
    · next d hd =>
      have hlt := hexValue_lt hd
      have hpow : acc * 16 + d < 16 ^ (4 - (left - 1)) := by
        rw [show 4 - (left - 1) = (4 - left) + 1 by omega, pow_succ]
        omega
      split_ifs at h with hleft
      · cases h
        exact ⟨.start, rfl, rfl, by omega, by omega, hpow, h4⟩
      · obtain rfl : left = 1 := by omega
        exact unitStep_reaches (by simpa using hpow) h4 h
  · obtain ⟨rfl, hh⟩ := hq
    split_ifs at h
    cases h
    exact ⟨.start, rfl, rfl, hh⟩
  · obtain ⟨rfl, hh⟩ := hq
    split_ifs at h
    cases h
    exact ⟨.start, rfl, rfl, by omega, by omega, by simp, by simpa using hh⟩

/-- A string ends between characters. -/
lemma stringStep_close {q : StringState} {u : Utf8State} {b : UInt8} (hq : q.Reaches u)
    (h : stringStep q b = .close) : u = .start := by
  unfold stringStep at h
  split at h
  · exact hq.symm
  · split at h <;> cases h
  · exact hq
  · exact hq.1
  · exact hq.1
  · exact hq.1

/-- A string that was read is UTF-8. -/
lemma utf8Run_scanString {q : StringState} {u : Utf8State} (hq : q.Reaches u) {s out r : Bytes}
    (h : scanString q s = .ok (out, r)) : utf8Run u out = some .start := by
  induction s generalizing q u out with
  | nil => cases h
  | cons b s ih =>
    rw [scanString] at h
    split at h
    · next hstep =>
      cases h
      rw [stringStep_close hq hstep]
      rfl
    · cases h
    · next o q' hstep =>
      obtain ⟨⟨t, r'⟩, ht, h⟩ := bind_eq_ok.mp h
      cases h
      obtain ⟨u', hu', hq'⟩ := stringStep_reaches hq hstep
      rw [utf8Run_append, hu']
      exact ih hq' ht

lemma validUtf8_scanString {s out r : Bytes} (h : scanString (.text .start) s = .ok (out, r)) :
    validUtf8 out = true := by
  simp [validUtf8, utf8Run_scanString (q := .text .start) rfl h]

end Strings

lemma double_writable {s : Bytes} {v : Value} (h : (match Library.strtod s with
      | some d => .ok (.float d)
      | none => .error .outOfRange : Except JsonError Value) = .ok v) : Writable (toDom v) := by
  split at h
  · next d hd =>
    cases h
    exact Library.strtod_finite _ _ hd
  · cases h

lemma numberValue_writable {t : NumberToken} {v : Value} (h : numberValue t = .ok v) :
    Writable (toDom v) := by
  simp only [numberValue] at h
  split_ifs at h
  · exact double_writable h
  · cases h; trivial
  · exact double_writable h
  · cases h; trivial
  · exact double_writable h

omit [Library] in
lemma literal_ok {l s r : Bytes} {v w : Value} (h : literal l v s = .ok (w, r)) : w = v := by
  unfold literal at h
  split at h <;> cases h
  rfl

omit [Library] in
/-- The members of a tree become the members of a document. -/
lemma toDomMembers_writable {ms acc : List (Bytes × Value)}
    (hms : ∀ m ∈ ms, validUtf8 m.1 = true ∧ Writable (toDom m.2)) (hacc : Writable (.obj acc)) :
    Writable (.obj (toDomMembers acc ms)) := by
  induction ms generalizing acc with
  | nil => simpa [toDomMembers] using hacc
  | cons m ms ih =>
    obtain ⟨k, v⟩ := m
    rw [toDomMembers]
    refine ih (fun m hm => hms m (by simp [hm])) (proper_obj.mpr ⟨?_, ?_⟩)
    · exact pairwise_insertMember (proper_obj.mp hacc).1
    · intro m hm
      rcases mem_insertMember hm with rfl | hm
      · exact hms (k, v) (by simp)
      · exact (proper_obj.mp hacc).2 m hm

/-- The readers give what becomes a document. -/
structure ReadsWritable (c : Bool) (n : ℕ) : Prop where
  value : ∀ {s v r}, parseValue c n s = .ok (v, r) → Writable (toDom v)
  array : ∀ {s v r}, parseArray c n s = .ok (v, r) → Writable (toDom v)
  items : ∀ {s xs r}, parseItems c n s = .ok (xs, r) → ∀ x ∈ xs, Writable (toDom x)
  object : ∀ {s v r}, parseObject c n s = .ok (v, r) → Writable (toDom v)
  member : ∀ {s m r}, parseMember c n s = .ok (m, r) → validUtf8 m.1 = true ∧ Writable (toDom m.2)
  members : ∀ {s ms r}, parseMembers c n s = .ok (ms, r) →
    ∀ m ∈ ms, validUtf8 m.1 = true ∧ Writable (toDom m.2)

omit [Library] in
lemma writable_toDom_arr {xs : List Value} (h : ∀ x ∈ xs, Writable (toDom x)) :
    Writable (toDom (.arr xs)) := by
  rw [toDom, toDomItems_eq]
  refine proper_arr.mpr fun y hy => ?_
  obtain ⟨x, hx, rfl⟩ := List.mem_map.mp hy
  exact h x hx

omit [Library] in
lemma writable_toDom_obj {ms : List (Bytes × Value)}
    (h : ∀ m ∈ ms, validUtf8 m.1 = true ∧ Writable (toDom m.2)) : Writable (toDom (.obj ms)) := by
  rw [toDom]
  exact toDomMembers_writable h (proper_obj.mpr ⟨List.Pairwise.nil, by simp⟩)

section Steps

variable {c : Bool} {n : ℕ}

lemma ReadsWritable.value_succ (ih : ReadsWritable c n) {s : Bytes} {v : Value} {r : Bytes}
    (h : parseValue c (n + 1) s = .ok (v, r)) : Writable (toDom v) := by
  rw [parseValue] at h
  obtain ⟨s', -, h⟩ := bind_eq_ok.mp h
  split at h
  · cases h
  · split_ifs at h
    · exact ih.array h
    · exact ih.object h
    · obtain ⟨⟨t, r'⟩, ht, h⟩ := bind_eq_ok.mp h
      cases h
      exact validUtf8_scanString ht
    · rw [literal_ok h]; trivial
    · rw [literal_ok h]; trivial
    · rw [literal_ok h]; trivial
    · obtain ⟨⟨tok, r'⟩, -, h⟩ := bind_eq_ok.mp h
      obtain ⟨w, hw, h⟩ := bind_eq_ok.mp h
      cases h
      exact numberValue_writable hw

lemma ReadsWritable.array_succ (ih : ReadsWritable c n) {s : Bytes} {v : Value} {r : Bytes}
    (h : parseArray c (n + 1) s = .ok (v, r)) : Writable (toDom v) := by
  rw [parseArray] at h
  obtain ⟨s', -, h⟩ := bind_eq_ok.mp h
  split at h
  · cases h
  · split_ifs at h
    · cases h
      exact writable_toDom_arr (by simp)
    · obtain ⟨⟨x, r₁⟩, hx, h⟩ := bind_eq_ok.mp h
      obtain ⟨⟨xs, r₂⟩, hxs, h⟩ := bind_eq_ok.mp h
      cases h
      exact writable_toDom_arr (List.forall_mem_cons.mpr ⟨ih.value hx, ih.items hxs⟩)

lemma ReadsWritable.items_succ (ih : ReadsWritable c n) {s : Bytes} {xs : List Value} {r : Bytes}
    (h : parseItems c (n + 1) s = .ok (xs, r)) : ∀ x ∈ xs, Writable (toDom x) := by
  rw [parseItems] at h
  obtain ⟨s', -, h⟩ := bind_eq_ok.mp h
  split at h
  · cases h
  · split_ifs at h
    · cases h
      simp
    · obtain ⟨⟨x, r₁⟩, hx, h⟩ := bind_eq_ok.mp h
      obtain ⟨⟨xs, r₂⟩, hxs, h⟩ := bind_eq_ok.mp h
      cases h
      exact List.forall_mem_cons.mpr ⟨ih.value hx, ih.items hxs⟩

lemma ReadsWritable.object_succ (ih : ReadsWritable c n) {s : Bytes} {v : Value} {r : Bytes}
    (h : parseObject c (n + 1) s = .ok (v, r)) : Writable (toDom v) := by
  rw [parseObject] at h
  obtain ⟨s', -, h⟩ := bind_eq_ok.mp h
  split at h
  · cases h
  · split_ifs at h
    · cases h
      exact writable_toDom_obj (by simp)
    · obtain ⟨⟨m, r₁⟩, hm, h⟩ := bind_eq_ok.mp h
      obtain ⟨⟨ms, r₂⟩, hms, h⟩ := bind_eq_ok.mp h
      cases h
      exact writable_toDom_obj (List.forall_mem_cons.mpr ⟨ih.member hm, ih.members hms⟩)

lemma ReadsWritable.member_succ (ih : ReadsWritable c n) {s : Bytes} {m : Bytes × Value} {r : Bytes}
    (h : parseMember c (n + 1) s = .ok (m, r)) : validUtf8 m.1 = true ∧ Writable (toDom m.2) := by
  rw [parseMember] at h
  obtain ⟨s', -, h⟩ := bind_eq_ok.mp h
  split at h
  · cases h
  · split_ifs at h
    obtain ⟨⟨k, r₁⟩, hk, h⟩ := bind_eq_ok.mp h
    obtain ⟨s'', -, h⟩ := bind_eq_ok.mp h
    split at h
    · cases h
    · split_ifs at h
      obtain ⟨⟨v, r₂⟩, hv, h⟩ := bind_eq_ok.mp h
      cases h
      exact ⟨validUtf8_scanString hk, ih.value hv⟩

lemma ReadsWritable.members_succ (ih : ReadsWritable c n) {s : Bytes} {ms : List (Bytes × Value)}
    {r : Bytes} (h : parseMembers c (n + 1) s = .ok (ms, r)) :
    ∀ m ∈ ms, validUtf8 m.1 = true ∧ Writable (toDom m.2) := by
  rw [parseMembers] at h
  obtain ⟨s', -, h⟩ := bind_eq_ok.mp h
  split at h
  · cases h
  · split_ifs at h
    · cases h
      simp
    · obtain ⟨⟨m, r₁⟩, hm, h⟩ := bind_eq_ok.mp h
      obtain ⟨⟨ms, r₂⟩, hms, h⟩ := bind_eq_ok.mp h
      cases h
      exact List.forall_mem_cons.mpr ⟨ih.member hm, ih.members hms⟩

end Steps

lemma readsWritable (c : Bool) (n : ℕ) : ReadsWritable c n := by
  induction n with
  | zero => constructor <;> intro _ _ _ h <;> simp [parseValue, parseArray, parseItems,
      parseObject, parseMember, parseMembers] at h
  | succ n ih =>
    exact ⟨ih.value_succ, ih.array_succ, ih.items_succ, ih.object_succ, ih.member_succ,
      ih.members_succ⟩

lemma parseTree_writable {c : Bool} {s : Bytes} {v : Value} (h : parseTree c s = .ok v) :
    Writable (toDom v) := by
  obtain ⟨s', -, h⟩ := bind_eq_ok.mp h
  obtain ⟨⟨w, r⟩, hw, h⟩ := bind_eq_ok.mp h
  obtain ⟨s'', -, h⟩ := bind_eq_ok.mp h
  have hp := (readsWritable c _).value hw
  split at h
  · cases h
    exact hp
  · split_ifs at h
    cases h
    exact hp

/-- **What is read is a document.** -/
theorem parse_writable {s : Bytes} {v : Value} (h : parse s = .ok v) : Writable v := by
  obtain ⟨w, hw, rfl⟩ := map_eq_ok.mp h
  exact parseTree_writable hw

lemma parseWithComments_writable {s : Bytes} {v : Value} (h : parseWithComments s = .ok v) :
    Writable v := by
  obtain ⟨w, hw, rfl⟩ := map_eq_ok.mp h
  exact parseTree_writable hw

end CcsTrans.Json
