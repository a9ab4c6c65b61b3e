import CcsTrans.Text

/-!
Pieces of byte strings.

Where a text first occurs in another, and what stands between separators. A string that starts
with a separator is the same thing as a list of pieces without it, each behind a separator.
-/

namespace CcsTrans.Text

/-! ### The first occurrence of a text -/

section Cut

variable {p s t x y : Bytes}

lemma cut_eq (h : cut p s = some (x, y)) : s = x ++ p ++ y := by
  induction s generalizing x y with
  | nil =>
    unfold cut at h
    split_ifs at h with hp
    cases h
    simp [hp]
  | cons b s ih =>
    unfold cut at h
    split_ifs at h with hp
    · cases h
      simp only [startsWith, List.isPrefixOf_iff_prefix] at hp
      obtain ⟨r, hr⟩ := hp
      simp [← hr]
    · obtain ⟨⟨x', y'⟩, hcut, heq⟩ := Option.map_eq_some_iff.mp h
      cases heq
      rw [ih hcut]
      simp

lemma length_le_of_cut (h : cut p s = some (x, y)) : x.length + p.length ≤ s.length := by
  rw [cut_eq h]
  simp

/-- What follows an occurrence does not matter. -/
lemma cut_append (h : cut p s = some (x, y)) (t : Bytes) : cut p (s ++ t) = some (x, y ++ t) := by
  induction s generalizing x y with
  | nil =>
    unfold cut at h
    split_ifs at h with hp
    cases h
    subst hp
    cases t <;> simp [cut, startsWith]
  | cons b s ih =>
    have hlen := length_le_of_cut h
    rw [List.cons_append]
    unfold cut at h ⊢
    by_cases hp : startsWith p (b :: s) = true
    · rw [if_pos hp] at h
      cases h
      simp only [startsWith, List.isPrefixOf_iff_prefix] at hp
      have hp' : p <+: b :: (s ++ t) := hp.trans (List.prefix_append (b :: s) t)
      rw [if_pos (by simpa [startsWith] using hp'), ← List.cons_append,
        List.drop_append_of_le_length hp.length_le]
    · rw [if_neg hp] at h
      have hp' : ¬ startsWith p (b :: (s ++ t)) = true := by
        simp only [startsWith, List.isPrefixOf_iff_prefix] at hp ⊢
        intro hpre
        refine hp (List.prefix_of_prefix_length_le hpre (List.prefix_append (b :: s) t) ?_)
        omega
      obtain ⟨⟨x', y'⟩, hcut, heq⟩ := Option.map_eq_some_iff.mp h
      cases heq
      rw [if_neg hp', ih hcut]
      rfl

/-- There is no occurrence in a part without its end. -/
lemma cut_left_none (h : cut p (s ++ t) = some (x, y)) (hs : s.length < x.length + p.length) :
    cut p s = none := by
  cases hcut : cut p s with
  | none => rfl
  | some r =>
    have hlen := length_le_of_cut (x := r.1) (y := r.2) hcut
    have happ := cut_append (x := r.1) (y := r.2) hcut t
    rw [h] at happ
    cases happ
    omega

lemma cut_none_left (h : cut p (s ++ t) = none) : cut p s = none := by
  cases hcut : cut p s with
  | none => rfl
  | some r =>
    have happ := cut_append (x := r.1) (y := r.2) hcut t
    rw [h] at happ
    cases happ

/-- An occurrence is found in every part with its end. -/
lemma cut_left (h : cut p (s ++ t) = some (x, y)) (hs : x.length + p.length ≤ s.length) :
    ∃ z, cut p s = some (x, z) := by
  induction s generalizing x y with
  | nil =>
    obtain ⟨rfl, rfl⟩ : x = [] ∧ p = [] := by simpa using hs
    exact ⟨[], rfl⟩
  | cons b s ih =>
    rw [List.cons_append] at h
    unfold cut at h ⊢
    by_cases hp : startsWith p (b :: (s ++ t)) = true
    · rw [if_pos hp] at h
      cases h
      have hp' : startsWith p (b :: s) = true := by
        simp only [startsWith, List.isPrefixOf_iff_prefix] at hp ⊢
        refine List.prefix_of_prefix_length_le hp (List.prefix_append (b :: s) t) ?_
        simpa using hs
      exact ⟨_, if_pos hp'⟩
    · rw [if_neg hp] at h
      have hp' : ¬ startsWith p (b :: s) = true := by
        simp only [startsWith, List.isPrefixOf_iff_prefix] at hp ⊢
        exact fun hpre => hp (hpre.trans (List.prefix_append (b :: s) t))
      obtain ⟨⟨x', y'⟩, hcut, heq⟩ := Option.map_eq_some_iff.mp h
      cases heq
      obtain ⟨z, hz⟩ := ih hcut (by simpa [Nat.add_right_comm] using hs)
      exact ⟨z, by rw [if_neg hp', hz]; rfl⟩

end Cut

/-- An occurrence of a text. -/
lemma infix_of_cut {p s : Bytes} (h : (cut p s).isSome = true) : p <:+: s := by
  obtain ⟨⟨x, y⟩, hcut⟩ := Option.isSome_iff_exists.mp h
  exact ⟨x, y, (cut_eq hcut).symm⟩

lemma cut_of_isInfix {p s : Bytes} (h : p <:+: s) : (cut p s).isSome = true := by
  obtain ⟨x, y, rfl⟩ := h
  rw [List.append_assoc]
  induction x with
  | nil =>
    cases hp : p ++ y with
    | nil =>
      obtain ⟨rfl, rfl⟩ := List.append_eq_nil_iff.mp hp
      rfl
    | cons b t =>
      have hpre : startsWith p (b :: t) = true := by
        simp [startsWith, ← hp]
      rw [List.nil_append, cut, if_pos hpre]
      rfl
  | cons b x ih =>
    rw [List.cons_append, cut]
    split
    · rfl
    · simpa using ih

/-! ### Between separators -/

section Split

variable {c : UInt8} {s t x : Bytes} {xs : List Bytes}

lemma splitOn_ne_nil (c : UInt8) (t : Bytes) : splitOn c t ≠ [] := by
  cases t with
  | nil => simp [splitOn]
  | cons b t =>
    rw [splitOn]
    split_ifs
    · simp
    · split <;> simp

/-- The pieces, each behind a separator, are the string behind a separator. -/
lemma flatMap_splitOn (c : UInt8) (t : Bytes) : (splitOn c t).flatMap (c :: ·) = c :: t := by
  induction t with
  | nil => rfl
  | cons b t ih =>
    rw [splitOn]
    split_ifs with hb
    · rw [List.flatMap_cons, ih, hb]
      rfl
    · split
      · next h => exact absurd h (splitOn_ne_nil c t)
      · next y ys h =>
        rw [h, List.flatMap_cons, List.cons_append, List.cons.injEq] at ih
        rw [List.flatMap_cons, List.cons_append, List.cons_append, ih.2]

/-- There is no separator in a piece. -/
lemma notMem_of_mem_splitOn (h : x ∈ splitOn c t) : c ∉ x := by
  induction t generalizing x with
  | nil =>
    obtain rfl := List.mem_singleton.mp h
    simp
  | cons b t ih =>
    rw [splitOn] at h
    split_ifs at h with hb
    · rcases List.mem_cons.mp h with rfl | h
      · simp
      · exact ih h
    · split at h
      · next hnil => exact absurd hnil (splitOn_ne_nil c t)
      · next y ys hy =>
        rcases List.mem_cons.mp h with rfl | h
        · have hc : c ∉ y := ih (by simp [hy])
          simp [Ne.symm hb, hc]
        · exact ih (by simp [hy, h])

lemma splitOn_of_notMem (h : c ∉ s) : splitOn c s = [s] := by
  induction s with
  | nil => rfl
  | cons b s ih =>
    obtain ⟨hb, hs⟩ := not_or.mp (mt List.mem_cons.mpr h)
    rw [splitOn, if_neg (Ne.symm hb), ih hs]

/-- A separator ends a piece. -/
lemma splitOn_append (c : UInt8) (s t : Bytes) :
    splitOn c (s ++ c :: t) = splitOn c s ++ splitOn c t := by
  induction s with
  | nil => simp [splitOn]
  | cons b s ih =>
    rw [List.cons_append, splitOn, splitOn, ih]
    split_ifs with hb
    · rfl
    · cases hs : splitOn c s with
      | nil => exact absurd hs (splitOn_ne_nil c s)
      | cons y ys => rfl

/-- A piece ends at the first separator behind it. -/
lemma append_separator_inj {c : UInt8} {s s' t t' : Bytes} (hs : c ∉ s) (hs' : c ∉ s')
    (h : s ++ c :: t = s' ++ c :: t') : s = s' ∧ t = t' := by
  induction s generalizing s' with
  | nil =>
    cases s' with
    | nil => exact ⟨rfl, (List.cons.inj h).2⟩
    | cons b s' => exact absurd ((List.cons.inj h).1 ▸ List.mem_cons_self) hs'
  | cons a s ih =>
    cases s' with
    | nil => exact absurd ((List.cons.inj h).1 ▸ List.mem_cons_self) hs
    | cons b s' =>
      obtain ⟨rfl, htail⟩ := List.cons.inj h
      obtain ⟨rfl, rfl⟩ := ih (fun hmem => hs (List.mem_cons_of_mem _ hmem))
        (fun hmem => hs' (List.mem_cons_of_mem _ hmem)) htail
      exact ⟨rfl, rfl⟩

/-- Pieces behind separators are found again. -/
lemma splitOn_of_flatMap (h : ∀ x ∈ xs, c ∉ x) (heq : xs.flatMap (c :: ·) = c :: t) :
    splitOn c t = xs := by
  induction xs generalizing t with
  | nil => cases heq
  | cons x xs ih =>
    rw [List.flatMap_cons, List.cons_append, List.cons.injEq] at heq
    have hx : splitOn c x = [x] := splitOn_of_notMem (h x (by simp))
    cases hxs : xs.flatMap (c :: ·) with
    | nil =>
      obtain rfl : xs = [] := List.eq_nil_iff_forall_not_mem.mpr (by simpa using hxs)
      rw [← heq.2, hxs, List.append_nil, hx]
    | cons b r =>
      obtain rfl : b = c := by
        cases xs with
        | nil => cases hxs
        | cons y ys =>
          rw [List.flatMap_cons, List.cons_append, List.cons.injEq] at hxs
          exact hxs.1.symm
      rw [← heq.2, hxs, splitOn_append, hx, ih (fun y hy => h y (by simp [hy])) hxs]
      rfl

end Split

end CcsTrans.Text
