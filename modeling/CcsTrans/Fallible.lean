import Mathlib.Tactic.Common

/-!
Computations that may fail: how `Except` values are taken apart.
-/

namespace CcsTrans.Fallible

variable {ε α β : Type}

@[simp] lemma ok_bind (a : α) (f : α → Except ε β) : (Except.ok a >>= f) = f a := rfl
@[simp] lemma error_bind (e : ε) (f : α → Except ε β) : (Except.error e >>= f) = .error e := rfl
@[simp] lemma pure_eq_ok (a : α) : (pure a : Except ε α) = .ok a := rfl
@[simp] lemma map_ok (f : α → β) (a : α) : f <$> (Except.ok a : Except ε α) = .ok (f a) := rfl
@[simp] lemma map_error (f : α → β) (e : ε) :
    f <$> (Except.error e : Except ε α) = .error e := rfl

/-- A sequence succeeds when its parts do. -/
lemma bind_eq_ok {x : Except ε α} {f : α → Except ε β} {b : β} :
    (x >>= f) = .ok b ↔ ∃ a, x = .ok a ∧ f a = .ok b := by
  cases x <;> simp

/-- A sequence fails when its first part does, or the second after it. -/
lemma bind_eq_error {x : Except ε α} {f : α → Except ε β} {e : ε} :
    (x >>= f) = .error e ↔ x = .error e ∨ ∃ a, x = .ok a ∧ f a = .error e := by
  cases x <;> simp

lemma map_eq_ok {x : Except ε α} {f : α → β} {b : β} :
    f <$> x = .ok b ↔ ∃ a, x = .ok a ∧ f a = b := by
  cases x <;> simp

lemma toOption_eq_some {x : Except ε α} {a : α} : x.toOption = some a ↔ x = .ok a := by
  cases x <;> simp [Except.toOption]

/-! ### Lists -/

section Lists

variable {α β ε : Type} {f : α → Except ε β} {xs ys : List α} {zs : List β}

lemma mapM_cons_eq_ok {x : α} : (x :: xs).mapM f = .ok zs ↔
    ∃ y ys, f x = .ok y ∧ xs.mapM f = .ok ys ∧ zs = y :: ys := by
  rw [List.mapM_cons]
  constructor
  · intro h
    obtain ⟨y, hy, h⟩ := bind_eq_ok.mp h
    obtain ⟨ys, hys, h⟩ := bind_eq_ok.mp h
    cases h
    exact ⟨y, ys, hy, hys, rfl⟩
  · rintro ⟨y, ys, hy, hys, rfl⟩
    rw [hy, hys]
    rfl

lemma length_of_mapM (h : xs.mapM f = .ok zs) : zs.length = xs.length := by
  induction xs generalizing zs with
  | nil =>
    cases h
    rfl
  | cons x xs ih =>
    obtain ⟨y, ys, -, hys, rfl⟩ := mapM_cons_eq_ok.mp h
    rw [List.length_cons, List.length_cons, ih hys]

/-- What is made of each element of a list. -/
lemma forall₂_of_mapM (h : xs.mapM f = .ok zs) : List.Forall₂ (fun x z => f x = .ok z) xs zs := by
  induction xs generalizing zs with
  | nil =>
    cases h
    exact .nil
  | cons x xs ih =>
    obtain ⟨y, ys, hy, hys, rfl⟩ := mapM_cons_eq_ok.mp h
    exact .cons hy (ih hys)

lemma mapM_of_forall₂ (h : List.Forall₂ (fun x z => f x = .ok z) xs zs) : xs.mapM f = .ok zs := by
  induction h with
  | nil => rfl
  | cons hy _ ih => exact mapM_cons_eq_ok.mpr ⟨_, _, hy, ih, rfl⟩

lemma mapM_append_one {x : α} {y : β} (h : xs.mapM f = .ok zs) (hx : f x = .ok y) :
    (xs ++ [x]).mapM f = .ok (zs ++ [y]) := by
  induction xs generalizing zs with
  | nil =>
    cases h
    exact mapM_cons_eq_ok.mpr ⟨y, [], hx, rfl, rfl⟩
  | cons z xs ih =>
    obtain ⟨w, ws, hw, hws, rfl⟩ := mapM_cons_eq_ok.mp h
    exact mapM_cons_eq_ok.mpr ⟨w, ws ++ [y], hw, ih hws, rfl⟩

lemma foldlM_append_one {f : β → α → Except ε β} {x : α} {b b' b'' : β} (h : xs.foldlM f b = .ok b')
    (hx : f b' x = .ok b'') : (xs ++ [x]).foldlM f b = .ok b'' := by
  rw [List.foldlM_append, h]
  simp [hx]

/-- A list is converted when each of its items is. -/
lemma exists_mapM_iff : (∃ ys, xs.mapM f = .ok ys) ↔ ∀ x ∈ xs, ∃ y, f x = .ok y := by
  induction xs with
  | nil => simp
  | cons x xs ih =>
    rw [List.forall_mem_cons, ← ih]
    constructor
    · rintro ⟨zs, h⟩
      obtain ⟨y, ys, hy, hys, rfl⟩ := mapM_cons_eq_ok.mp h
      exact ⟨⟨y, hy⟩, ys, hys⟩
    · rintro ⟨⟨y, hy⟩, ys, hys⟩
      exact ⟨y :: ys, mapM_cons_eq_ok.mpr ⟨y, ys, hy, hys, rfl⟩⟩

/-- What is converted one by one is converted back one by one. -/
lemma mapM_inverse {δ : Type} {g : β → Except δ α} (h : ∀ x y, f x = .ok y → g y = .ok x)
    (hxs : xs.mapM f = .ok zs) : zs.mapM g = .ok xs := by
  induction xs generalizing zs with
  | nil =>
    cases hxs
    rfl
  | cons x xs ih =>
    obtain ⟨y, ys, hy, hys, rfl⟩ := mapM_cons_eq_ok.mp hxs
    exact mapM_cons_eq_ok.mpr ⟨x, xs, h x y hy, ih hys, rfl⟩

/-- The order of a list does not matter to what its items become. -/
lemma mapM_perm (hp : xs.Perm ys) (hxs : xs.mapM f = .ok zs) :
    ∃ ws, ys.mapM f = .ok ws ∧ zs.Perm ws := by
  induction hp generalizing zs with
  | nil => exact ⟨zs, hxs, .refl _⟩
  | cons x _ ih =>
    obtain ⟨y, ys, hy, hys, rfl⟩ := mapM_cons_eq_ok.mp hxs
    obtain ⟨ws, hws, hp⟩ := ih hys
    exact ⟨y :: ws, mapM_cons_eq_ok.mpr ⟨y, ws, hy, hws, rfl⟩, hp.cons y⟩
  | swap x x' l =>
    obtain ⟨y', ys', hy', hys', rfl⟩ := mapM_cons_eq_ok.mp hxs
    obtain ⟨y, ys, hy, hys, rfl⟩ := mapM_cons_eq_ok.mp hys'
    have htail := mapM_cons_eq_ok.mpr ⟨y', ys, hy', hys, rfl⟩
    exact ⟨y :: y' :: ys, mapM_cons_eq_ok.mpr ⟨y, _, hy, htail, rfl⟩, .swap _ _ _⟩
  | trans _ _ ih₁ ih₂ =>
    obtain ⟨ws, hws, hp₁⟩ := ih₁ hxs
    obtain ⟨ws', hws', hp₂⟩ := ih₂ hws
    exact ⟨ws', hws', hp₁.trans hp₂⟩

end Lists

end CcsTrans.Fallible
