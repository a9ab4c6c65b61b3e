import CcsTrans.Fallible
import Mathlib.Tactic.Common

/-!
Programs that change a disk step by step.

A program runs on a disk. What it does there are steps, each of which takes effect as a
whole or fails and takes none. The process may stop between any two steps: the disks at which
it may stop are those the program visits. A run may also be given a fault, the number of the
step that is to fail and the reason why; the program goes on after it as it is written to.
-/

namespace CcsTrans.Durable

variable {σ ρ ε α β : Type}

/-- What a run comes to. -/
structure Run (σ ρ ε α : Type) where
  result : Except ε α
  disk : σ
  /-- The disk after each of the steps. -/
  visited : List σ := []
  /-- The fault that is still to come. -/
  fault : Option (ℕ × ρ) := none

/-- The run, after steps that visited other disks. -/
def Run.after (v : List σ) (r : Run σ ρ ε α) : Run σ ρ ε α := { r with visited := v ++ r.visited }

@[simp] lemma Run.after_mk (v v' : List σ) (x : Except ε α) (d : σ) (w : Option (ℕ × ρ)) :
    Run.after v ⟨x, d, v', w⟩ = ⟨x, d, v ++ v', w⟩ := rfl
@[simp] lemma Run.after_nil (r : Run σ ρ ε α) : r.after [] = r := rfl
@[simp] lemma Run.result_after (v : List σ) (r : Run σ ρ ε α) : (r.after v).result = r.result := rfl
@[simp] lemma Run.disk_after (v : List σ) (r : Run σ ρ ε α) : (r.after v).disk = r.disk := rfl
@[simp] lemma Run.fault_after (v : List σ) (r : Run σ ρ ε α) : (r.after v).fault = r.fault := rfl
@[simp] lemma Run.visited_after (v : List σ) (r : Run σ ρ ε α) :
    (r.after v).visited = v ++ r.visited := rfl

structure Prog (σ ρ ε α : Type) where
  run : Option (ℕ × ρ) → σ → Run σ ρ ε α

namespace Prog

def bind (p : Prog σ ρ ε α) (f : α → Prog σ ρ ε β) : Prog σ ρ ε β where
  run w d :=
    match p.run w d with
    | ⟨.ok a, d', v, w'⟩ => ((f a).run w' d').after v
    | ⟨.error e, d', v, w'⟩ => ⟨.error e, d', v, w'⟩

instance : Monad (Prog σ ρ ε) where
  pure a := ⟨fun w d => ⟨.ok a, d, [], w⟩⟩
  bind := bind

/-- A program that fails is followed by another. -/
def tryCatch (p : Prog σ ρ ε α) (handler : ε → Prog σ ρ ε α) : Prog σ ρ ε α where
  run w d :=
    match p.run w d with
    | ⟨.ok a, d', v, w'⟩ => ⟨.ok a, d', v, w'⟩
    | ⟨.error e, d', v, w'⟩ => ((handler e).run w' d').after v

/-- A program whose failure is a value. -/
def attempt {δ : Type} (p : Prog σ ρ δ α) : Prog σ ρ ε (Except δ α) where
  run w d :=
    let r := p.run w d
    ⟨.ok r.result, r.disk, r.visited, r.fault⟩

instance : MonadExceptOf ε (Prog σ ρ ε) where
  throw e := ⟨fun w d => ⟨.error e, d, [], w⟩⟩
  tryCatch := tryCatch

/-- What the disk is like. -/
def look (f : σ → α) : Prog σ ρ ε α := ⟨fun w d => ⟨.ok (f d), d, [], w⟩⟩

/-- What is read from the disk. -/
def read (f : σ → Except ε α) : Prog σ ρ ε α := ⟨fun w d => ⟨f d, d, [], w⟩⟩

end Prog

section Runs

variable {p : Prog σ ρ ε α} {f : α → Prog σ ρ ε β} {handler : ε → Prog σ ρ ε α} {w w' : Option (ℕ × ρ)}
  {d d' : σ} {v : List σ} {a : α} {e : ε}

@[simp] lemma run_pure (a : α) : (pure a : Prog σ ρ ε α).run w d = ⟨.ok a, d, [], w⟩ := rfl
@[simp] lemma run_throw (e : ε) : (throw e : Prog σ ρ ε α).run w d = ⟨.error e, d, [], w⟩ := rfl
@[simp] lemma run_read (f : σ → Except ε α) :
    (Prog.read f : Prog σ ρ ε α).run w d = ⟨f d, d, [], w⟩ := rfl

lemma run_bind_ok (h : p.run w d = ⟨.ok a, d', v, w'⟩) :
    (p >>= f).run w d = ((f a).run w' d').after v := by
  show (p.bind f).run w d = _
  simp only [Prog.bind, h]

lemma run_bind_error (h : p.run w d = ⟨.error e, d', v, w'⟩) :
    (p >>= f).run w d = ⟨.error e, d', v, w'⟩ := by
  show (p.bind f).run w d = _
  simp only [Prog.bind, h]

/-- A sequence that succeeds is that of its first part and the second after it. -/
lemma bind_result_ok {b : β} (h : ((p >>= f).run w d).result = .ok b) :
    ∃ a, (p.run w d).result = .ok a ∧
      (p >>= f).run w d = ((f a).run (p.run w d).fault (p.run w d).disk).after (p.run w d).visited := by
  rcases hp : p.run w d with ⟨x, d', v, w'⟩
  cases x with
  | error e =>
    rw [run_bind_error hp] at h
    cases h
  | ok a => exact ⟨a, rfl, run_bind_ok hp⟩

lemma throw_ne_ok (e : ε) (w : Option (ℕ × ρ)) (d : σ) (b : β) :
    ((throw e : Prog σ ρ ε β).run w d).result ≠ .ok b := by
  intro h
  cases h

/-- A sequence does not succeed whose second part never does. -/
lemma bind_ne_ok {b : β} (h : ∀ a w d, ((f a).run w d).result ≠ .ok b) (w : Option (ℕ × ρ)) (d : σ) :
    ((p >>= f).run w d).result ≠ .ok b := by
  intro hok
  obtain ⟨a, -, heq⟩ := bind_result_ok hok
  rw [heq, Run.result_after] at hok
  exact h a _ _ hok

lemma run_tryCatch_ok (h : p.run w d = ⟨.ok a, d', v, w'⟩) :
    (p.tryCatch handler).run w d = ⟨.ok a, d', v, w'⟩ := by
  simp only [Prog.tryCatch, h]

lemma run_tryCatch_error (h : p.run w d = ⟨.error e, d', v, w'⟩) :
    (p.tryCatch handler).run w d = ((handler e).run w' d').after v := by
  simp only [Prog.tryCatch, h]

lemma attempt_bind {δ : Type} {p : Prog σ ρ δ α} {g : Except δ α → Prog σ ρ ε β} {x : Except δ α}
    (h : p.run w d = ⟨x, d', v, w'⟩) :
    (p.attempt >>= g).run w d = ((g x).run w' d').after v :=
  run_bind_ok (by simp only [Prog.attempt, h])

@[simp] lemma pure_bind (a : α) (f : α → Prog σ ρ ε β) : (pure a >>= f) = f a := rfl
@[simp] lemma throw_bind (e : ε) (f : α → Prog σ ρ ε β) :
    ((throw e : Prog σ ρ ε α) >>= f) = throw e := rfl

@[simp] lemma look_bind (g : σ → α) : (Prog.look g >>= f).run w d = (f (g d)).run w d := rfl

lemma read_bind_ok {g : σ → Except ε α} (h : g d = .ok a) :
    (Prog.read g >>= f).run w d = (f a).run w d := by
  rw [run_bind_ok (show (Prog.read g : Prog σ ρ ε α).run w d = ⟨.ok a, d, [], w⟩ by rw [run_read, h])]
  rfl

lemma read_bind_error {g : σ → Except ε α} (h : g d = .error e) :
    (Prog.read g >>= f).run w d = ⟨.error e, d, [], w⟩ :=
  run_bind_error (by rw [run_read, h])

end Runs

/-! ### Steps -/

structure Step (σ ρ ε : Type) where
  act : σ → σ
  /-- How the step fails. -/
  error : ρ → ε

/-- The step is performed, unless it is the one that is to fail. -/
def step (s : Step σ ρ ε) : Prog σ ρ ε Unit where
  run
    | some (0, r), d => ⟨.error (s.error r), d, [], none⟩
    | some (k + 1, r), d => ⟨.ok (), s.act d, [s.act d], some (k, r)⟩
    | none, d => ⟨.ok (), s.act d, [s.act d], none⟩

/-- One step after another. -/
def block : List (Step σ ρ ε) → Prog σ ρ ε Unit
  | [] => pure ()
  | s :: ss => do step s; block ss

/-- The disk after all of the steps. -/
def performed (ss : List (Step σ ρ ε)) (d : σ) : σ := ss.foldl (fun d s => s.act d) d

/-- The disk after each of the steps. -/
def trail : List (Step σ ρ ε) → σ → List σ
  | [], _ => []
  | s :: ss, d => s.act d :: trail ss (s.act d)

@[simp] lemma performed_nil (d : σ) : performed ([] : List (Step σ ρ ε)) d = d := rfl
@[simp] lemma performed_cons (s : Step σ ρ ε) (ss : List (Step σ ρ ε)) (d : σ) :
    performed (s :: ss) d = performed ss (s.act d) := rfl
@[simp] lemma trail_nil (d : σ) : trail ([] : List (Step σ ρ ε)) d = [] := rfl
@[simp] lemma trail_cons (s : Step σ ρ ε) (ss : List (Step σ ρ ε)) (d : σ) :
    trail (s :: ss) d = s.act d :: trail ss (s.act d) := rfl

lemma performed_append (ss ts : List (Step σ ρ ε)) (d : σ) :
    performed (ss ++ ts) d = performed ts (performed ss d) := List.foldl_append

lemma trail_append (ss ts : List (Step σ ρ ε)) (d : σ) :
    trail (ss ++ ts) d = trail ss d ++ trail ts (performed ss d) := by
  induction ss generalizing d with
  | nil => rfl
  | cons s ss ih => simp [ih]

/-- Without a fault all steps are performed. -/
lemma block_none (ss : List (Step σ ρ ε)) (d : σ) :
    (block ss).run none d = ⟨.ok (), performed ss d, trail ss d, none⟩ := by
  induction ss generalizing d with
  | nil => rfl
  | cons s ss ih =>
    rw [block, run_bind_ok (show (step s).run none d = ⟨.ok (), s.act d, [s.act d], none⟩ from rfl), ih]
    rfl

/-- A fault that comes later is left over. -/
lemma block_later {ss : List (Step σ ρ ε)} {k : ℕ} (h : ss.length ≤ k) (r : ρ) (d : σ) :
    (block ss).run (some (k, r)) d =
      ⟨.ok (), performed ss d, trail ss d, some (k - ss.length, r)⟩ := by
  induction ss generalizing k d with
  | nil => rfl
  | cons s ss ih =>
    obtain ⟨k, rfl⟩ : ∃ n, k = n + 1 := ⟨k - 1, by simp only [List.length_cons] at h; omega⟩
    rw [block, run_bind_ok
      (show (step s).run (some (k + 1, r)) d = ⟨.ok (), s.act d, [s.act d], some (k, r)⟩ from rfl),
      ih (by simpa using h)]
    simp

/-- A fault stops the steps before the one that fails. -/
lemma block_fault {ss : List (Step σ ρ ε)} {k : ℕ} (h : k < ss.length) (r : ρ) (d : σ) :
    ∃ s ∈ ss, ss[k]? = some s ∧ (block ss).run (some (k, r)) d =
      ⟨.error (s.error r), performed (ss.take k) d, trail (ss.take k) d, none⟩ := by
  induction ss generalizing k d with
  | nil => cases h
  | cons s ss ih =>
    cases k with
    | zero => exact ⟨s, by simp, rfl, rfl⟩
    | succ k =>
      obtain ⟨t, hmem, ht, hrun⟩ := ih (by simpa using h) (s.act d)
      refine ⟨t, by simp [hmem], ht, ?_⟩
      rw [block, run_bind_ok
        (show (step s).run (some (k + 1, r)) d = ⟨.ok (), s.act d, [s.act d], some (k, r)⟩ from rfl), hrun]
      rfl

/-- A property that every step keeps holds after all of them. -/
lemma performed_keeps {I : σ → Prop} {ss : List (Step σ ρ ε)}
    (h : ∀ s ∈ ss, ∀ d, I d → I (s.act d)) {d : σ} (hd : I d) : I (performed ss d) := by
  induction ss generalizing d with
  | nil => exact hd
  | cons s ss ih => exact ih (fun t ht => h t (by simp [ht])) (h s (by simp) d hd)

/-- … and after each. -/
lemma trail_keeps {I : σ → Prop} {ss : List (Step σ ρ ε)}
    (h : ∀ s ∈ ss, ∀ d, I d → I (s.act d)) {d : σ} (hd : I d) : ∀ d' ∈ trail ss d, I d' := by
  induction ss generalizing d with
  | nil => simp
  | cons s ss ih =>
    have hs := h s (by simp) d hd
    exact List.forall_mem_cons.mpr ⟨hs, ih (fun t ht => h t (by simp [ht])) hs⟩

/-- Steps that change nothing leave the disk as it is. -/
lemma performed_quiet {ss : List (Step σ ρ ε)} {d : σ} (h : ∀ s ∈ ss, s.act d = d) :
    performed ss d = d :=
  performed_keeps (I := fun d' => d' = d) (fun s hs _ he => he ▸ h s hs) rfl

lemma trail_quiet {ss : List (Step σ ρ ε)} {d : σ} (h : ∀ s ∈ ss, s.act d = d) :
    ∀ d' ∈ trail ss d, d' = d :=
  trail_keeps (I := fun d' => d' = d) (fun s hs _ he => he ▸ h s hs) rfl

/-! ### Stops -/

/-- The disks at which a process may stop that runs a program. -/
def stops (p : Prog σ ρ ε α) (d : σ) : List σ := d :: (p.run none d).visited

end CcsTrans.Durable
