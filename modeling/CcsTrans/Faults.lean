import CcsTrans.Durable

/-!
Programs of which a step fails.

Where a program has no handler it ends at the step that fails, on a disk at which it might have
stopped. Where it has one, the handler goes on from there. The rules below lead from what the parts
of a program visit, and from the disks on which they fail, to the same for the whole.
-/

namespace CcsTrans.Durable

variable {σ ρ ε δ α β : Type}

/-- With a step that fails the program does as without, or it fails itself: on a disk with `F`, by way of
disks with `V`. -/
structure Careful (V F : σ → Prop) (p : Prog σ ρ ε α) (d : σ) : Prop where
  clean : (p.run none d).fault = none
  visits : ∀ t ∈ (p.run none d).visited, V t
  faulty : ∀ k r, (∃ w, p.run (some (k, r)) d = { p.run none d with fault := w }) ∨
    ∃ e s v, p.run (some (k, r)) d = ⟨.error e, s, v, none⟩ ∧ F s ∧ ∀ t ∈ v, V t

/-- The program fails on a disk with `F`, by way of disks with `V`. -/
def FailsTo (V F : σ → Prop) (p : Prog σ ρ ε α) (d : σ) : Prop :=
  ∃ e s v, p.run none d = ⟨.error e, s, v, none⟩ ∧ F s ∧ ∀ t ∈ v, V t

section Careful

variable {V F Q : σ → Prop} {p q : Prog σ ρ ε α} {f : α → Prog σ ρ ε β} {d : σ}

lemma Careful.mono {V' F' : σ → Prop} (h : Careful V F p d) (hV : ∀ t, V t → V' t) (hF : ∀ t, F t → F' t) :
    Careful V' F' p d where
  clean := h.clean
  visits t ht := hV t (h.visits t ht)
  faulty k r := by
    rcases h.faulty k r with hsame | ⟨e, s, v, hrun, hs, hv⟩
    · exact .inl hsame
    · exact .inr ⟨e, s, v, hrun, hF s hs, fun t ht => hV t (hv t ht)⟩

lemma Careful.congr (h : ∀ w, p.run w d = q.run w d) (hq : Careful V F q d) : Careful V F p d where
  clean := by rw [h, hq.clean]
  visits := by rw [h]; exact hq.visits
  faulty k r := by rw [h, h]; exact hq.faulty k r

/-- What comes of any fault, or none. -/
lemma Careful.cases (h : Careful V F p d) (w : Option (ℕ × ρ)) :
    (∃ w', p.run w d = { p.run none d with fault := w' }) ∨
      ∃ e s v, p.run w d = ⟨.error e, s, v, none⟩ ∧ F s ∧ ∀ t ∈ v, V t := by
  rcases w with - | ⟨k, r⟩
  · exact .inl ⟨(p.run none d).fault, rfl⟩
  · exact h.faulty k r

/-- A program without a step. -/
lemma careful_still {x : Except ε α} (h : ∀ w, p.run w d = ⟨x, d, [], w⟩) : Careful V F p d where
  clean := by rw [h]
  visits := by simp [h]
  faulty k r := .inl ⟨some (k, r), by rw [h, h]⟩

lemma careful_bind (hp : Careful V F p d)
    (hf : ∀ a, (p.run none d).result = .ok a → Careful V F (f a) (p.run none d).disk) :
    Careful V F (p >>= f) d := by
  have hclean := hp.clean
  have hvisits := hp.visits
  have hfaulty := hp.faulty
  rcases hrun : p.run none d with ⟨x, d', v, w⟩
  rw [hrun] at hclean hvisits hfaulty hf
  dsimp only at hclean hvisits hf
  subst hclean
  cases x with
  | error e =>
    refine ⟨by rw [run_bind_error hrun], by rw [run_bind_error hrun]; exact hvisits, fun k r => ?_⟩
    rcases hfaulty k r with ⟨w, hsame⟩ | ⟨e', s, v', hfail, hs, hv'⟩
    · exact .inl ⟨w, by rw [run_bind_error hsame, run_bind_error hrun]⟩
    · exact .inr ⟨e', s, v', run_bind_error hfail, hs, hv'⟩
  | ok a =>
    have hrest := hf a rfl
    have hall : ∀ {v'}, (∀ t ∈ v', V t) → ∀ t ∈ v ++ v', V t := fun hv' =>
      List.forall_mem_append.mpr ⟨hvisits, hv'⟩
    refine ⟨?_, ?_, fun k r => ?_⟩
    · rw [run_bind_ok hrun]
      exact hrest.clean
    · rw [run_bind_ok hrun]
      exact hall hrest.visits
    · rcases hfaulty k r with ⟨w, hsame⟩ | ⟨e', s, v', hfail, hs, hv'⟩
      · rw [run_bind_ok hsame, run_bind_ok hrun]
        rcases hrest.cases w with ⟨w', hlater⟩ | ⟨e', s, v', hfail, hs, hv'⟩
        · exact .inl ⟨w', by rw [hlater]; rfl⟩
        · exact .inr ⟨e', s, v ++ v', by rw [hfail]; rfl, hs, hall hv'⟩
      · exact .inr ⟨e', s, v', run_bind_error hfail, hs, hv'⟩

lemma careful_bind_ok {a : α} {d' : σ} {v : List σ} (hp : Careful V F p d)
    (hrun : p.run none d = ⟨.ok a, d', v, none⟩) (hf : Careful V F (f a) d') : Careful V F (p >>= f) d := by
  refine careful_bind hp fun a' ha' => ?_
  rw [hrun] at ha' ⊢
  cases ha'
  exact hf

/-- The disk before a step is the first one, or the one behind the step before. -/
lemma performed_take_mem (ss : List (Step σ ρ ε)) (k : ℕ) (d : σ) :
    performed (ss.take k) d ∈ d :: trail ss d := by
  induction ss generalizing k d with
  | nil => simp
  | cons s ss ih =>
    cases k with
    | zero => exact List.mem_cons_self ..
    | succ k => exact List.mem_cons_of_mem _ (ih k _)

lemma careful_block {ss : List (Step σ ρ ε)} (hF : ∀ k < ss.length, F (performed (ss.take k) d))
    (hV : ∀ t ∈ trail ss d, V t) : Careful V F (block ss) d := by
  refine ⟨by rw [block_none], by rw [block_none]; exact hV, fun k r => ?_⟩
  rcases Nat.lt_or_ge k ss.length with hk | hk
  · obtain ⟨s, -, -, hrun⟩ := block_fault hk r d
    have hsplit : trail ss d = trail (ss.take k) d ++ trail (ss.drop k) (performed (ss.take k) d) := by
      rw [← trail_append, List.take_append_drop]
    refine .inr ⟨_, _, _, hrun, hF k hk, fun t ht => hV t ?_⟩
    rw [hsplit]
    exact List.mem_append_left _ ht
  · exact .inl ⟨_, by rw [block_later hk, block_none]⟩

/-- A part of which the failure is a value: what follows it deals with that. -/
lemma careful_attempt {p : Prog σ ρ δ α} {g : Except δ α → Prog σ ρ ε β} {x : Except δ α} {d' : σ}
    {v : List σ} (hp : Careful V Q p d) (hrun : p.run none d = ⟨x, d', v, none⟩) (hg : Careful V F (g x) d')
    (hfails : ∀ e s, Q s → FailsTo V F (g (.error e)) s) : Careful V F (p.attempt >>= g) d := by
  have hvisits := hp.visits
  have hfaulty := hp.faulty
  rw [hrun] at hvisits hfaulty
  have hall : ∀ {u v'}, (∀ t ∈ u, V t) → (∀ t ∈ v', V t) → ∀ t ∈ u ++ v', V t := fun hu hv' =>
    List.forall_mem_append.mpr ⟨hu, hv'⟩
  refine ⟨?_, ?_, fun k r => ?_⟩
  · rw [attempt_bind hrun]
    exact hg.clean
  · rw [attempt_bind hrun]
    exact hall hvisits hg.visits
  · rcases hfaulty k r with ⟨w, hsame⟩ | ⟨e, s, v', hfail, hs, hv'⟩
    · rw [attempt_bind hsame, attempt_bind hrun]
      rcases hg.cases w with ⟨w', hlater⟩ | ⟨e, s, v', hfail, hs, hv'⟩
      · exact .inl ⟨w', by rw [hlater]; rfl⟩
      · exact .inr ⟨e, s, v ++ v', by rw [hfail]; rfl, hs, hall hvisits hv'⟩
    · obtain ⟨e', s', u, hhandled, hs', hu⟩ := hfails e s hs
      exact .inr ⟨e', s', v' ++ u, by rw [attempt_bind hfail, hhandled]; rfl, hs', hall hv' hu⟩

/-- A part with a handler, which fails in its turn. -/
lemma careful_tryCatch {handler : ε → Prog σ ρ ε α} {x : Except ε α} {d' : σ} {v : List σ}
    (hp : Careful V Q p d) (hrun : p.run none d = ⟨x, d', v, none⟩)
    (hhandler : ∀ e, x = .error e → Careful V F (handler e) d')
    (hfails : ∀ e s, Q s → FailsTo V F (handler e) s) : Careful V F (p.tryCatch handler) d := by
  have hvisits := hp.visits
  have hfaulty := hp.faulty
  rw [hrun] at hvisits hfaulty
  have hall : ∀ {u v'}, (∀ t ∈ u, V t) → (∀ t ∈ v', V t) → ∀ t ∈ u ++ v', V t := fun hu hv' =>
    List.forall_mem_append.mpr ⟨hu, hv'⟩
  have hhandled : ∀ {e s v' w}, p.run w d = ⟨.error e, s, v', none⟩ → Q s → (∀ t ∈ v', V t) →
      ∃ e' s' u, (p.tryCatch handler).run w d = ⟨.error e', s', u, none⟩ ∧ F s' ∧ ∀ t ∈ u, V t := by
    intro e s v' w hfail hs hv'
    obtain ⟨e', s', u, hrun', hs', hu⟩ := hfails e s hs
    exact ⟨e', s', v' ++ u, by rw [run_tryCatch_error hfail, hrun']; rfl, hs', hall hv' hu⟩
  cases x with
  | ok a =>
    refine ⟨by rw [run_tryCatch_ok hrun], by rw [run_tryCatch_ok hrun]; exact hvisits, fun k r => ?_⟩
    rcases hfaulty k r with ⟨w, hsame⟩ | ⟨e, s, v', hfail, hs, hv'⟩
    · exact .inl ⟨w, by rw [run_tryCatch_ok hsame, run_tryCatch_ok hrun]⟩
    · exact .inr (hhandled hfail hs hv')
  | error e =>
    have hrest := hhandler e rfl
    refine ⟨?_, ?_, fun k r => ?_⟩
    · rw [run_tryCatch_error hrun]
      exact hrest.clean
    · rw [run_tryCatch_error hrun]
      exact hall hvisits hrest.visits
    · rcases hfaulty k r with ⟨w, hsame⟩ | ⟨e', s, v', hfail, hs, hv'⟩
      · rw [run_tryCatch_error hsame, run_tryCatch_error hrun]
        rcases hrest.cases w with ⟨w', hlater⟩ | ⟨e', s, v', hfail, hs, hv'⟩
        · exact .inl ⟨w', by rw [hlater]; rfl⟩
        · exact .inr ⟨e', s, v ++ v', by rw [hfail]; rfl, hs, hall hvisits hv'⟩
      · exact .inr (hhandled hfail hs hv')

end Careful

/-! ### Programs without handlers -/

/-- The program ends at a step that fails, on a disk at which it might have stopped. -/
structure Plain (p : Prog σ ρ ε α) (d : σ) : Prop where
  careful : Careful (· ∈ stops p d) (· ∈ stops p d) p d
  ends : (p.run none d).disk ∈ stops p d

section Plain

variable {p : Prog σ ρ ε α} {f : α → Prog σ ρ ε β} {d : σ}

/-- What holds at the stops holds where the program fails. -/
lemma Plain.fails {V : σ → Prop} (h : Plain p d) (hV : ∀ t ∈ stops p d, V t) : Careful V V p d :=
  h.careful.mono hV hV

lemma plain_still {x : Except ε α} (h : ∀ w, p.run w d = ⟨x, d, [], w⟩) : Plain p d :=
  ⟨careful_still h, by rw [stops, h]; exact List.mem_cons_self ..⟩

lemma plain_block (ss : List (Step σ ρ ε)) (d : σ) : Plain (block ss) d := by
  have hstops : stops (block ss) d = d :: trail ss d := by rw [stops, block_none]
  refine ⟨careful_block (fun k _ => ?_) fun t ht => ?_, ?_⟩
  · rw [hstops]
    exact performed_take_mem ss k d
  · rw [hstops]
    exact List.mem_cons_of_mem _ ht
  · rw [hstops, block_none]
    simpa using performed_take_mem ss ss.length d

lemma plain_bind (hp : Plain p d)
    (hf : ∀ a, (p.run none d).result = .ok a → Plain (f a) (p.run none d).disk) : Plain (p >>= f) d := by
  have hclean := hp.careful.clean
  have hends := hp.ends
  rcases hrun : p.run none d with ⟨x, d', v, w⟩
  rw [hrun] at hclean hends hf
  dsimp only at hclean hends hf
  subst hclean
  have hstops : stops p d = d :: v := by rw [stops, hrun]
  rw [hstops] at hends
  cases x with
  | error e =>
    have hsame : stops (p >>= f) d = stops p d := by rw [stops, run_bind_error hrun, hstops]
    refine ⟨careful_bind (by rw [hsame]; exact hp.careful) fun a ha => ?_, ?_⟩
    · rw [hrun] at ha
      cases ha
    · rw [hsame, run_bind_error hrun, hstops]
      exact hends
  | ok a =>
    have hrest := hf a rfl
    have hall : stops (p >>= f) d = d :: (v ++ ((f a).run none d').visited) := by
      rw [stops, run_bind_ok hrun]
      rfl
    have hfirst : ∀ t ∈ stops p d, t ∈ stops (p >>= f) d := fun t ht => by
      rw [hstops] at ht
      rw [hall, ← List.cons_append]
      exact List.mem_append_left _ ht
    have hsecond : ∀ t ∈ stops (f a) d', t ∈ stops (p >>= f) d := fun t ht => by
      rcases List.mem_cons.mp ht with rfl | ht
      · exact hfirst _ (by rw [hstops]; exact hends)
      · rw [hall]
        exact List.mem_cons_of_mem _ (List.mem_append_right _ ht)
    refine ⟨careful_bind (hp.careful.mono hfirst hfirst) fun a' ha' => ?_, ?_⟩
    · rw [hrun] at ha' ⊢
      cases ha'
      exact hrest.careful.mono hsecond hsecond
    · rw [run_bind_ok hrun]
      exact hsecond _ hrest.ends

lemma plain_look {g : σ → α} (h : Plain (f (g d)) d) : Plain (Prog.look g >>= f) d :=
  plain_bind (plain_still fun _ => rfl) fun _ ha => by
    cases ha
    exact h

/-- A failure is thrown on. -/
lemma plain_read {g : σ → Except ε α} (h : ∀ a, g d = .ok a → Plain (f a) d) : Plain (Prog.read g >>= f) d :=
  plain_bind (plain_still fun _ => rfl) h

end Plain

end CcsTrans.Durable
