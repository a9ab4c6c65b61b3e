import Mathlib.Tactic.Common

/-!
Programs that interact with their surroundings.

A program calls operations and goes on with their answers, until it returns or throws. What the
answers are is not its business: a way through a program is a list of operations with answers
to them, and the end they lead to.
-/

namespace CcsTrans.Procs

/-- A program with operations `Op` that are answered by `Ans`, which throws `ε` or returns `α`. -/
inductive Proc (Op : Type) (Ans : Op → Type) (ε α : Type) where
  | ret (a : α)
  | throw (e : ε)
  | call (o : Op) (k : Ans o → Proc Op Ans ε α)

variable {Op : Type} {Ans : Op → Type} {ε α β : Type}

namespace Proc

def bind : Proc Op Ans ε α → (α → Proc Op Ans ε β) → Proc Op Ans ε β
  | .ret a, f => f a
  | .throw e, _ => .throw e
  | .call o k, f => .call o fun a => (k a).bind f

def tryCatch : Proc Op Ans ε α → (ε → Proc Op Ans ε α) → Proc Op Ans ε α
  | .ret a, _ => .ret a
  | .throw e, g => g e
  | .call o k, g => .call o fun a => (k a).tryCatch g

instance : Monad (Proc Op Ans ε) where
  pure := .ret
  bind := .bind

instance : MonadExceptOf ε (Proc Op Ans ε) where
  throw := .throw
  tryCatch := .tryCatch

/-- One operation. -/
def op (o : Op) : Proc Op Ans ε (Ans o) := .call o .ret

/-- A program is run by another one, which answers its operations and keeps a state. -/
def drive {Op' : Type} {Ans' : Op' → Type} {ε' σ : Type}
    (answer : σ → (o : Op) → Proc Op' Ans' ε' (σ × Ans o)) :
    Proc Op Ans ε α → σ → Proc Op' Ans' ε' (σ × Except ε α)
  | .ret a, s => .ret (s, .ok a)
  | .throw e, s => .ret (s, .error e)
  | .call o k, s => (answer s o).bind fun x => (k x.2).drive answer x.1

end Proc

/-- An operation that was called, and its answer. -/
abbrev Event (Op : Type) (Ans : Op → Type) : Type := (o : Op) × Ans o

/-- A way through a program. -/
inductive Way : Proc Op Ans ε α → List (Event Op Ans) → Except ε α → Prop
  | ret (a : α) : Way (.ret a) [] (.ok a)
  | throw (e : ε) : Way (.throw e) [] (.error e)
  | call {o : Op} {k : Ans o → Proc Op Ans ε α} {h : List (Event Op Ans)} {r : Except ε α}
      (a : Ans o) (way : Way (k a) h r) : Way (.call o k) (⟨o, a⟩ :: h) r

section Ways

variable {p : Proc Op Ans ε α} {f : α → Proc Op Ans ε β} {g : ε → Proc Op Ans ε α}
  {h : List (Event Op Ans)}

lemma way_ret_iff {a : α} {r : Except ε α} :
    Way (.ret a : Proc Op Ans ε α) h r ↔ h = [] ∧ r = .ok a := by
  constructor
  · rintro ⟨⟩
    exact ⟨rfl, rfl⟩
  · rintro ⟨rfl, rfl⟩
    exact .ret a

lemma way_pure_iff {a : α} {r : Except ε α} :
    Way (pure a : Proc Op Ans ε α) h r ↔ h = [] ∧ r = .ok a := way_ret_iff

lemma way_throw_iff {e : ε} {r : Except ε α} :
    Way (throw e : Proc Op Ans ε α) h r ↔ h = [] ∧ r = .error e := by
  constructor
  · rintro ⟨⟩
    exact ⟨rfl, rfl⟩
  · rintro ⟨rfl, rfl⟩
    exact .throw e

lemma way_call_iff {o : Op} {k : Ans o → Proc Op Ans ε α} {r : Except ε α} :
    Way (.call o k) h r ↔ ∃ a rest, h = ⟨o, a⟩ :: rest ∧ Way (k a) rest r := by
  constructor
  · intro hway
    cases hway with
    | call a way => exact ⟨a, _, rfl, way⟩
  · rintro ⟨a, rest, rfl, way⟩
    exact .call a way

lemma way_op_iff {o : Op} {r : Except ε (Ans o)} :
    Way (Proc.op o : Proc Op Ans ε (Ans o)) h r ↔ ∃ a, h = [⟨o, a⟩] ∧ r = .ok a := by
  rw [Proc.op, way_call_iff]
  simp only [way_ret_iff]
  constructor
  · rintro ⟨a, rest, rfl, rfl, rfl⟩
    exact ⟨a, rfl, rfl⟩
  · rintro ⟨a, rfl, rfl⟩
    exact ⟨a, [], rfl, rfl, rfl⟩

/-- A sequence ends with its first part, which throws, or goes on with the second. -/
lemma way_bind_iff {r : Except ε β} : Way (p >>= f) h r ↔
    (∃ before a after, h = before ++ after ∧ Way p before (.ok a) ∧ Way (f a) after r) ∨
    ∃ e, r = .error e ∧ Way p h (.error e) := by
  change Way (p.bind f) h r ↔ _
  induction p generalizing h with
  | ret a => simp [Proc.bind, way_ret_iff]
  | throw e =>
    change Way (throw e) h r ↔ (_ ∨ ∃ e', _ ∧ Way (throw e) h (.error e'))
    constructor
    · intro hway
      obtain ⟨rfl, rfl⟩ := way_throw_iff.mp hway
      exact .inr ⟨e, rfl, .throw e⟩
    · rintro (⟨_, _, _, _, hfirst, _⟩ | ⟨_, rfl, hfirst⟩)
      · cases hfirst
      · cases hfirst
        exact .throw e
  | call o k ih =>
    rw [Proc.bind, way_call_iff]
    constructor
    · rintro ⟨a, rest, rfl, hrest⟩
      rcases (ih a).mp hrest with ⟨before, b, after, rfl, hfirst, hsecond⟩ | ⟨e, rfl, hfirst⟩
      · exact .inl ⟨⟨o, a⟩ :: before, b, after, rfl, .call a hfirst, hsecond⟩
      · exact .inr ⟨e, rfl, .call a hfirst⟩
    · rintro (⟨before, b, after, rfl, hfirst, hsecond⟩ | ⟨e, rfl, hfirst⟩)
      · obtain ⟨a, rest, rfl, hrest⟩ := way_call_iff.mp hfirst
        exact ⟨a, rest ++ after, rfl, (ih a).mpr (.inl ⟨rest, b, after, rfl, hrest, hsecond⟩)⟩
      · obtain ⟨a, rest, rfl, hrest⟩ := way_call_iff.mp hfirst
        exact ⟨a, rest, rfl, (ih a).mpr (.inr ⟨e, rfl, hrest⟩)⟩

/-- A guarded program returns, or its handler takes over. -/
lemma way_tryCatch_iff {r : Except ε α} : Way (tryCatch p g) h r ↔
    (∃ a, r = .ok a ∧ Way p h (.ok a)) ∨
    ∃ before e after, h = before ++ after ∧ Way p before (.error e) ∧ Way (g e) after r := by
  change Way (p.tryCatch g) h r ↔ _
  induction p generalizing h with
  | ret a =>
    constructor
    · rintro ⟨⟩
      exact .inl ⟨a, rfl, .ret a⟩
    · rintro (⟨_, rfl, hfirst⟩ | ⟨_, _, _, _, hfirst, _⟩)
      · cases hfirst
        exact .ret a
      · cases hfirst
  | throw e =>
    constructor
    · intro hway
      exact .inr ⟨[], e, h, rfl, .throw e, hway⟩
    · rintro (⟨_, _, hfirst⟩ | ⟨_, _, _, rfl, hfirst, hsecond⟩)
      · cases hfirst
      · cases hfirst
        exact hsecond
  | call o k ih =>
    rw [Proc.tryCatch, way_call_iff]
    constructor
    · rintro ⟨a, rest, rfl, hrest⟩
      rcases (ih a).mp hrest with ⟨b, rfl, hfirst⟩ | ⟨before, e, after, rfl, hfirst, hsecond⟩
      · exact .inl ⟨b, rfl, .call a hfirst⟩
      · exact .inr ⟨⟨o, a⟩ :: before, e, after, rfl, .call a hfirst, hsecond⟩
    · rintro (⟨b, rfl, hfirst⟩ | ⟨before, e, after, rfl, hfirst, hsecond⟩)
      · obtain ⟨a, rest, rfl, hrest⟩ := way_call_iff.mp hfirst
        exact ⟨a, rest, rfl, (ih a).mpr (.inl ⟨b, rfl, hrest⟩)⟩
      · obtain ⟨a, rest, rfl, hrest⟩ := way_call_iff.mp hfirst
        exact ⟨a, rest ++ after, rfl, (ih a).mpr (.inr ⟨rest, e, after, rfl, hrest, hsecond⟩)⟩

/-- Where every operation has an answer, every program has a way through. -/
lemma exists_way [∀ o, Inhabited (Ans o)] (p : Proc Op Ans ε α) : ∃ h r, Way p h r := by
  induction p with
  | ret a => exact ⟨[], .ok a, .ret a⟩
  | throw e => exact ⟨[], .error e, .throw e⟩
  | call o k ih =>
    obtain ⟨h, r, hway⟩ := ih default
    exact ⟨_, r, .call default hway⟩

end Ways

/-! ### What a program may call -/

/-- Whatever the answers are, a program calls operations of a kind only. -/
def Only (P : Op → Prop) : Proc Op Ans ε α → Prop
  | .ret _ => True
  | .throw _ => True
  | .call o k => P o ∧ ∀ a, Only P (k a)

section Only

variable {P : Op → Prop} {p : Proc Op Ans ε α}

lemma only_pure (a : α) : Only P (pure a : Proc Op Ans ε α) := trivial

lemma only_throw (e : ε) : Only P (throw e : Proc Op Ans ε α) := trivial

lemma only_op {o : Op} (h : P o) : Only P (Proc.op o : Proc Op Ans ε (Ans o)) :=
  ⟨h, fun _ => trivial⟩

lemma only_bind {f : α → Proc Op Ans ε β} (hp : Only P p) (hf : ∀ a, Only P (f a)) :
    Only P (p >>= f) := by
  induction p with
  | ret a => exact hf a
  | throw e => trivial
  | call o k ih => exact ⟨hp.1, fun a => ih a (hp.2 a)⟩

lemma only_tryCatch {g : ε → Proc Op Ans ε α} (hp : Only P p) (hg : ∀ e, Only P (g e)) :
    Only P (tryCatch p g) := by
  induction p with
  | ret a => trivial
  | throw e => exact hg e
  | call o k ih => exact ⟨hp.1, fun a => ih a (hp.2 a)⟩

/-- A program that is driven calls what its driver calls. -/
lemma only_drive {Op' : Type} {Ans' : Op' → Type} {ε' σ : Type} {P' : Op' → Prop}
    {answer : σ → (o : Op) → Proc Op' Ans' ε' (σ × Ans o)}
    (h : ∀ s o, Only P' (answer s o)) (p : Proc Op Ans ε α) (s : σ) : Only P' (p.drive answer s) := by
  induction p generalizing s with
  | ret a => trivial
  | throw e => trivial
  | call o k ih => exact only_bind (h s o) fun x => ih x.2 x.1

/-- What is called on a way is what the program may call. -/
lemma Only.way {h : List (Event Op Ans)} {r : Except ε α} (hp : Only P p) (hway : Way p h r) :
    ∀ e ∈ h, P e.1 := by
  induction hway with
  | ret a => simp
  | throw e => simp
  | call a _ ih => exact List.forall_mem_cons.mpr ⟨hp.1, ih (hp.2 a)⟩

end Only

/-! ### What can be seen of a way -/

section Seen

variable {M : Type} {view : Event Op Ans → Option M}

/-- A way through a program, of which some events can be seen. -/
def Seen (view : Event Op Ans → Option M) (p : Proc Op Ans ε α) (seen : List M) (r : Except ε α) : Prop :=
  ∃ h, Way p h r ∧ h.filterMap view = seen

variable {p : Proc Op Ans ε α} {f : α → Proc Op Ans ε β} {g : ε → Proc Op Ans ε α} {seen : List M}

lemma seen_pure_iff {a : α} {r : Except ε α} :
    Seen view (pure a : Proc Op Ans ε α) seen r ↔ seen = [] ∧ r = .ok a := by
  constructor
  · rintro ⟨h, hway, rfl⟩
    obtain ⟨rfl, rfl⟩ := way_pure_iff.mp hway
    exact ⟨rfl, rfl⟩
  · rintro ⟨rfl, rfl⟩
    exact ⟨[], .ret a, rfl⟩

lemma seen_throw_iff {e : ε} {r : Except ε α} :
    Seen view (throw e : Proc Op Ans ε α) seen r ↔ seen = [] ∧ r = .error e := by
  constructor
  · rintro ⟨h, hway, rfl⟩
    obtain ⟨rfl, rfl⟩ := way_throw_iff.mp hway
    exact ⟨rfl, rfl⟩
  · rintro ⟨rfl, rfl⟩
    exact ⟨[], .throw e, rfl⟩

lemma seen_op_iff {o : Op} {r : Except ε (Ans o)} : Seen view (Proc.op o : Proc Op Ans ε (Ans o)) seen r ↔
    ∃ a, seen = (view ⟨o, a⟩).toList ∧ r = .ok a := by
  have hsingle : ∀ a : Ans o, [(⟨o, a⟩ : Event Op Ans)].filterMap view = (view ⟨o, a⟩).toList := by
    intro a
    cases hview : view ⟨o, a⟩ <;> simp [hview]
  constructor
  · rintro ⟨h, hway, rfl⟩
    obtain ⟨a, rfl, rfl⟩ := way_op_iff.mp hway
    exact ⟨a, hsingle a, rfl⟩
  · rintro ⟨a, rfl, rfl⟩
    exact ⟨[⟨o, a⟩], .call a (.ret a), hsingle a⟩

lemma seen_bind_iff {r : Except ε β} : Seen view (p >>= f) seen r ↔
    (∃ before a after, seen = before ++ after ∧ Seen view p before (.ok a) ∧ Seen view (f a) after r) ∨
    ∃ e, r = .error e ∧ Seen view p seen (.error e) := by
  constructor
  · rintro ⟨h, hway, rfl⟩
    rcases way_bind_iff.mp hway with ⟨before, a, after, rfl, hfirst, hrest⟩ | ⟨e, rfl, hfirst⟩
    · exact .inl ⟨_, a, _, List.filterMap_append, ⟨before, hfirst, rfl⟩, ⟨after, hrest, rfl⟩⟩
    · exact .inr ⟨e, rfl, h, hfirst, rfl⟩
  · rintro (⟨_, a, _, rfl, ⟨before, hfirst, rfl⟩, ⟨after, hrest, rfl⟩⟩ | ⟨e, rfl, h, hfirst, rfl⟩)
    · exact ⟨before ++ after, way_bind_iff.mpr (.inl ⟨before, a, after, rfl, hfirst, hrest⟩),
        List.filterMap_append⟩
    · exact ⟨h, way_bind_iff.mpr (.inr ⟨e, rfl, hfirst⟩), rfl⟩

lemma seen_tryCatch_iff {r : Except ε α} : Seen view (tryCatch p g) seen r ↔
    (∃ a, r = .ok a ∧ Seen view p seen (.ok a)) ∨
    ∃ before e after, seen = before ++ after ∧ Seen view p before (.error e) ∧
      Seen view (g e) after r := by
  constructor
  · rintro ⟨h, hway, rfl⟩
    rcases way_tryCatch_iff.mp hway with ⟨a, rfl, hfirst⟩ | ⟨before, e, after, rfl, hfirst, hrest⟩
    · exact .inl ⟨a, rfl, h, hfirst, rfl⟩
    · exact .inr ⟨_, e, _, List.filterMap_append, ⟨before, hfirst, rfl⟩, ⟨after, hrest, rfl⟩⟩
  · rintro (⟨a, rfl, h, hfirst, rfl⟩ | ⟨_, e, _, rfl, ⟨before, hfirst, rfl⟩, ⟨after, hrest, rfl⟩⟩)
    · exact ⟨h, way_tryCatch_iff.mpr (.inl ⟨a, rfl, hfirst⟩), rfl⟩
    · exact ⟨before ++ after, way_tryCatch_iff.mpr (.inr ⟨before, e, after, rfl, hfirst, hrest⟩),
        List.filterMap_append⟩

/-- After a program of which nothing is seen, and which returns, what follows is seen. -/
lemma seen_bind_of_unseen (hp : ∀ seen r, Seen view p seen r ↔ seen = [] ∧ ∃ a, r = .ok a)
    {r : Except ε β} : Seen view (p >>= f) seen r ↔ ∃ a, Seen view (f a) seen r := by
  rw [seen_bind_iff]
  constructor
  · rintro (⟨before, a, after, rfl, hfirst, hrest⟩ | ⟨e, rfl, hfirst⟩)
    · obtain ⟨rfl, _⟩ := (hp _ _).mp hfirst
      exact ⟨a, hrest⟩
    · obtain ⟨_, a, hok⟩ := (hp _ _).mp hfirst
      cases hok
  · rintro ⟨a, hrest⟩
    exact .inl ⟨[], a, seen, rfl, (hp _ _).mpr ⟨rfl, a, rfl⟩, hrest⟩

end Seen

/-! ### Driven programs -/

/-- Where every answer to an event is known, with what is seen of it, a driven program is seen as
the ways through the program are answered. -/
lemma seen_drive_iff {Op' : Type} {Ans' : Op' → Type} {ε' σ M : Type} {view : Event Op' Ans' → Option M}
    {answer : σ → (o : Op) → Proc Op' Ans' ε' (σ × Ans o)} {possible : Event Op Ans → Prop}
    {marks : Event Op Ans → List M} {next : σ → Event Op Ans → σ}
    (hanswer : ∀ s o seen r, Seen view (answer s o) seen r ↔
      ∃ a, possible ⟨o, a⟩ ∧ seen = marks ⟨o, a⟩ ∧ r = .ok (next s ⟨o, a⟩, a))
    {p : Proc Op Ans ε α} {s : σ} {seen : List M} {r : Except ε' (σ × Except ε α)} :
    Seen view (p.drive answer s) seen r ↔ ∃ th out, Way p th out ∧ (∀ e ∈ th, possible e) ∧
      seen = th.flatMap marks ∧ r = .ok (th.foldl next s, out) := by
  induction p generalizing s seen with
  | ret a =>
    change Seen view (pure _) seen r ↔ _
    rw [seen_pure_iff]
    constructor
    · rintro ⟨rfl, rfl⟩
      exact ⟨[], .ok a, .ret a, nofun, rfl, rfl⟩
    · rintro ⟨_, _, ⟨⟩, _, rfl, rfl⟩
      exact ⟨rfl, rfl⟩
  | throw e =>
    change Seen view (pure _) seen r ↔ _
    rw [seen_pure_iff]
    constructor
    · rintro ⟨rfl, rfl⟩
      exact ⟨[], .error e, .throw e, nofun, rfl, rfl⟩
    · rintro ⟨_, _, ⟨⟩, _, rfl, rfl⟩
      exact ⟨rfl, rfl⟩
  | call o k ih =>
    change Seen view (answer s o >>= fun x => (k x.2).drive answer x.1) seen r ↔ _
    rw [seen_bind_iff]
    constructor
    · rintro (⟨before, x, after, rfl, hfirst, hrest⟩ | ⟨e, rfl, hfirst⟩)
      · obtain ⟨a, hpossible, rfl, hx⟩ := (hanswer _ _ _ _).mp hfirst
        cases hx
        obtain ⟨th, out, hway, hth, rfl, rfl⟩ := (ih a).mp hrest
        exact ⟨⟨o, a⟩ :: th, out, .call a hway, List.forall_mem_cons.mpr ⟨hpossible, hth⟩, rfl, rfl⟩
      · obtain ⟨_, _, _, hx⟩ := (hanswer _ _ _ _).mp hfirst
        cases hx
    · rintro ⟨_, out, hway, hth, rfl, rfl⟩
      obtain ⟨a, th, rfl, hrest⟩ := way_call_iff.mp hway
      obtain ⟨hpossible, hth⟩ := List.forall_mem_cons.mp hth
      exact .inl ⟨marks ⟨o, a⟩, _, th.flatMap marks, rfl, (hanswer _ _ _ _).mpr ⟨a, hpossible, rfl, rfl⟩,
        (ih a).mpr ⟨th, out, hrest, hth, rfl, rfl⟩⟩

end CcsTrans.Procs
