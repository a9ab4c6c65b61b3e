import Mathlib.Tactic.Common

/-!
Computations that change a state in place and may fail.

`EStateM` hands the state on also when a computation fails, so that whatever was written
before the failure stays written. Whether a failed computation has left something behind is
then a question: `Quiet` computations change nothing that is looked at, and `Atomic` ones
change nothing of it when they fail. What is looked at is a part of the state.
-/

namespace CcsTrans.InPlace

variable {ε σ τ α β : Type}

/-- The state that a computation leaves, whether or not it fails. -/
def left : EStateM.Result ε σ α → σ
  | .ok _ s => s
  | .error _ s => s

@[simp] lemma left_ok (a : α) (s : σ) : left (.ok a s : EStateM.Result ε σ α) = s := rfl
@[simp] lemma left_error (e : ε) (s : σ) : left (.error e s : EStateM.Result ε σ α) = s := rfl

def failed : EStateM.Result ε σ α → Bool
  | .ok _ _ => false
  | .error _ _ => true

/-- Go on when a check passes. -/
def demand (x : Except ε α) : EStateM ε σ α := fun s =>
  match x with
  | .ok a => .ok a s
  | .error e => .error e s

/-- Fail when a condition holds. -/
def rejectIf (c : Prop) [Decidable c] (e : ε) : EStateM ε σ Unit :=
  if c then throw e else pure ()

/-! ### Sequences -/

section Sequences

variable {m : EStateM ε σ α} {f : α → EStateM ε σ β} {s s' : σ}

lemma bind_eq_ok {b : β} : (m >>= f) s = .ok b s' ↔
    ∃ a t, m s = .ok a t ∧ f a t = .ok b s' := by
  show EStateM.bind m f s = _ ↔ _
  unfold EStateM.bind
  cases m s <;> simp

lemma bind_eq_error {e : ε} : (m >>= f) s = .error e s' ↔
    m s = .error e s' ∨ ∃ a t, m s = .ok a t ∧ f a t = .error e s' := by
  show EStateM.bind m f s = _ ↔ _
  unfold EStateM.bind
  cases m s <;> simp

@[simp] lemma pure_apply (a : α) (s : σ) : (pure a : EStateM ε σ α) s = .ok a s := rfl
@[simp] lemma throw_apply (e : ε) (s : σ) : (throw e : EStateM ε σ α) s = .error e s := rfl
@[simp] lemma modify_apply (g : σ → σ) (s : σ) :
    (modify g : EStateM ε σ PUnit) s = .ok ⟨⟩ (g s) := rfl
@[simp] lemma get_apply (s : σ) : (get : EStateM ε σ σ) s = .ok s s := rfl

/-- A sequence goes on with what its first part comes to. -/
lemma bind_of_ok {a : α} (h : m s = .ok a s') : (m >>= f) s = f a s' := by
  show EStateM.bind m f s = _
  rw [EStateM.bind, h]

lemma get_bind (g : σ → EStateM ε σ β) : (get >>= g) s = g s s := rfl

/-- A check that passes changes nothing. -/
lemma demand_bind_eq_ok {x : Except ε α} {b : β} : (demand x >>= f) s = .ok b s' ↔
    ∃ a, x = .ok a ∧ f a s = .ok b s' := by
  cases x <;> simp [bind_eq_ok, demand]

lemma rejectIf_bind_eq_ok {c : Prop} [Decidable c] {e : ε} {g : Unit → EStateM ε σ β} {b : β} :
    (rejectIf c e >>= g) s = .ok b s' ↔ ¬ c ∧ g () s = .ok b s' := by
  unfold rejectIf
  split_ifs with h <;> simp [bind_eq_ok, h]

end Sequences

/-! ### Quiet and atomic computations -/

section Atomicity

variable {π : σ → τ} {m : EStateM ε σ α} {f : α → EStateM ε σ β}

/-- The part of the state that `π` looks at stays as it is. -/
def Quiet (π : σ → τ) (m : EStateM ε σ α) : Prop := ∀ s, π (left (m s)) = π s

/-- The part of the state that `π` looks at stays as it is when the computation fails. -/
def Atomic (π : σ → τ) (m : EStateM ε σ α) : Prop := ∀ s e s', m s = .error e s' → π s' = π s

lemma Quiet.atomic (h : Quiet π m) : Atomic π m := by
  intro s e s' hs
  have := h s
  rwa [hs] at this

lemma quiet_pure (a : α) : Quiet π (pure a : EStateM ε σ α) := fun _ => rfl
lemma quiet_throw (e : ε) : Quiet π (throw e : EStateM ε σ α) := fun _ => rfl
lemma quiet_get : Quiet π (get : EStateM ε σ σ) := fun _ => rfl

lemma quiet_demand (x : Except ε α) : Quiet π (demand x) := by
  intro s
  cases x <;> rfl

lemma quiet_rejectIf (c : Prop) [Decidable c] (e : ε) :
    Quiet π (rejectIf c e : EStateM ε σ Unit) := by
  intro s
  unfold rejectIf
  split_ifs <;> rfl

lemma quiet_modify {g : σ → σ} (h : ∀ s, π (g s) = π s) :
    Quiet π (modify g : EStateM ε σ PUnit) := h

lemma atomic_modify (g : σ → σ) : Atomic π (modify g : EStateM ε σ PUnit) := by
  intro s e s' h
  cases h

lemma atomic_pure (a : α) : Atomic π (pure a : EStateM ε σ α) := (quiet_pure a).atomic
lemma atomic_throw (e : ε) : Atomic π (throw e : EStateM ε σ α) := (quiet_throw e).atomic

lemma Quiet.bind (hm : Quiet π m) (hf : ∀ a, Quiet π (f a)) : Quiet π (m >>= f) := by
  intro s
  show π (left (EStateM.bind m f s)) = π s
  have := hm s
  unfold EStateM.bind
  cases h : m s with
  | ok a t =>
    rw [h] at this
    exact (hf a t).trans this
  | error e t =>
    rw [h] at this
    exact this

/-- Before the first change, nothing has to be undone. -/
lemma Quiet.bind_atomic (hm : Quiet π m) (hf : ∀ a, Atomic π (f a)) : Atomic π (m >>= f) := by
  intro s e s' h
  rcases bind_eq_error.mp h with h | ⟨a, t, hs, h⟩
  · exact hm.atomic s e s' h
  · have := hm s
    rw [hs] at this
    exact (hf a t e s' h).trans this

end Atomicity

/-! ### Invariants -/

section Invariants

variable {P : σ → Prop} {m : EStateM ε σ α} {f : α → EStateM ε σ β}

/-- What holds before a computation holds after it, when it succeeds. -/
def Keeps (P : σ → Prop) (m : EStateM ε σ α) : Prop := ∀ s a s', m s = .ok a s' → P s → P s'

lemma keeps_pure (a : α) : Keeps P (pure a : EStateM ε σ α) := by
  intro s b s' h hs
  cases h
  exact hs

lemma Keeps.bind (hm : Keeps P m) (hf : ∀ a, Keeps P (f a)) : Keeps P (m >>= f) := by
  intro s b s' h hs
  obtain ⟨a, t, ha, hb⟩ := bind_eq_ok.mp h
  exact hf a t b s' hb (hm s a t ha hs)

lemma keeps_forM {g : β → EStateM ε σ PUnit} (hg : ∀ x, Keeps P (g x)) (xs : List β) :
    Keeps P (xs.forM g) := by
  induction xs with
  | nil => exact keeps_pure _
  | cons x xs ih => exact (hg x).bind fun _ => ih

/-- An invariant of the part that a quiet computation leaves alone. -/
lemma Quiet.keeps {π : σ → τ} (hm : Quiet π m) (hP : ∀ s s', π s' = π s → P s → P s') :
    Keeps P m := by
  intro s a s' h hs
  have hsame := hm s
  rw [h] at hsame
  exact hP s s' hsame hs

/-- An invariant is kept whether or not an atomic computation fails. -/
lemma Keeps.left {π : σ → τ} (hm : Keeps P m) (hatomic : Atomic π m)
    (hP : ∀ s s', π s' = π s → P s → P s') {s : σ} (hs : P s) : P (left (m s)) := by
  cases h : m s with
  | ok a t => exact hm s a t h hs
  | error e t => exact hP s t (hatomic s e t h) hs

end Invariants

end CcsTrans.InPlace
