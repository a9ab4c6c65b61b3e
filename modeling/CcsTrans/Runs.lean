import Mathlib.Tactic.Common

/-!
Runs of a machine whose steps may be asked to meet a condition.

A machine is a function from a state and a step to a state. A run is a list of steps; what
each of them must meet is said of the step and the state before it.
-/

namespace CcsTrans.Runs

variable {σ ι : Type} {step : σ → ι → σ} {ok : σ → ι → Prop} {s : σ}

/-- Every step of a run meets a condition. -/
def Along (step : σ → ι → σ) (ok : σ → ι → Prop) : σ → List ι → Prop
  | _, [] => True
  | s, i :: is => ok s i ∧ Along step ok (step s i) is

/-- What every step keeps holds after a run. -/
lemma Along.keeps {P : σ → Prop} (hstep : ∀ s i, ok s i → P s → P (step s i)) {is : List ι}
    (h : Along step ok s is) (hs : P s) : P (is.foldl step s) := by
  induction is generalizing s with
  | nil => exact hs
  | cons i is ih => exact ih h.2 (hstep s i h.1 hs)

/-- What every step keeps, whatever it is, holds after every run. -/
lemma keeps_run {P : σ → Prop} (hstep : ∀ s i, P s → P (step s i)) (is : List ι) (hs : P s) :
    P (is.foldl step s) := by
  induction is generalizing s with
  | nil => exact hs
  | cons i is ih => exact ih (hstep s i hs)

/-- Every step of a run, with the state before it. -/
lemma along_iff {is : List ι} : Along step ok s is ↔
    ∀ before i after, is = before ++ i :: after → ok (before.foldl step s) i := by
  induction is generalizing s with
  | nil => simp [Along]
  | cons i is ih =>
    rw [Along, ih]
    constructor
    · rintro ⟨hfirst, hrest⟩ before j after h
      cases before with
      | nil =>
        cases h
        exact hfirst
      | cons k before =>
        cases h
        exact hrest before j after rfl
    · intro h
      exact ⟨h [] i is rfl, fun before j after hsplit => h (i :: before) j after (by rw [hsplit]; rfl)⟩

/-- A run, and a run from where it ends. -/
lemma Along.append {is js : List ι} (h : Along step ok s is) (h' : Along step ok (is.foldl step s) js) :
    Along step ok s (is ++ js) := by
  induction is generalizing s with
  | nil => exact h'
  | cons i is ih => exact ⟨h.1, ih h.2 h'⟩

/-- The first part of a run. -/
lemma Along.left {is js : List ι} (h : Along step ok s (is ++ js)) : Along step ok s is := by
  rw [along_iff] at h ⊢
  intro before i after hsplit
  exact h before i (after ++ js) (by rw [hsplit, List.append_assoc, List.cons_append])

/-- An event in a history of which the last event is known is the last one, or before it. -/
lemma snoc_cases {α : Type} {history before after : List α} {last event : α}
    (h : history ++ [last] = before ++ event :: after) :
    history = before ∧ last = event ∧ after = [] ∨
      ∃ rest, history = before ++ event :: rest ∧ after = rest ++ [last] := by
  rcases List.eq_nil_or_concat after with rfl | ⟨rest, final, rfl⟩
  · obtain ⟨hhistory, hlast⟩ := List.append_inj' h rfl
    exact .inl ⟨hhistory, List.singleton_inj.mp hlast, rfl⟩
  · rw [List.concat_eq_append, ← List.cons_append, ← List.append_assoc] at h
    obtain ⟨hhistory, hlast⟩ := List.append_inj' h rfl
    exact .inr ⟨rest, hhistory, by rw [List.concat_eq_append, List.singleton_inj.mp hlast]⟩

end CcsTrans.Runs
