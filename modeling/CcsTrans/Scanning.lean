import Mathlib.Tactic.Common

/-!
Reading items off a stream that arrives in pieces.

A scanner looks at what has arrived and not been read: it yields an item and says how much of
the stream the item takes, or fails, or asks for more. What it yields or fails with stays the
same when more arrives. Then what is read of a stream is a matter of the stream alone.
-/

namespace CcsTrans.Scanning

variable {α ι ε : Type}

/-- What a scanner makes of the stream before it. -/
inductive Next (ι ε : Type) where
  | more
  | fails (e : ε)
  | yields (i : ι) (n : ℕ)

structure Scanner (α ι ε : Type) where
  next : List α → Next ι ε
  bounded : ∀ {xs i n}, next xs = .yields i n → 0 < n ∧ n ≤ xs.length
  yields_append : ∀ {xs i n} (ys), next xs = .yields i n → next (xs ++ ys) = .yields i n
  fails_append : ∀ {xs e} (ys), next xs = .fails e → next (xs ++ ys) = .fails e

/-- What was read of a stream: the items, the error that ended it, if any, and what is left. -/
structure Scanned (α ι ε : Type) where
  items : List ι
  error : Option ε
  rest : List α

namespace Scanner

/-- Everything that can be read of a stream. -/
def scan (S : Scanner α ι ε) (xs : List α) : Scanned α ι ε :=
  match h : S.next xs with
  | .more => ⟨[], none, xs⟩
  | .fails e => ⟨[], some e, xs⟩
  | .yields i n =>
    have := S.bounded h
    let t := S.scan (xs.drop n)
    ⟨i :: t.items, t.error, t.rest⟩
termination_by xs.length
decreasing_by
  rw [List.length_drop]
  omega

variable {S : Scanner α ι ε} {xs : List α}

lemma scan_more (h : S.next xs = .more) : S.scan xs = ⟨[], none, xs⟩ := by
  rw [scan]
  split <;> simp_all

lemma scan_fails {e : ε} (h : S.next xs = .fails e) : S.scan xs = ⟨[], some e, xs⟩ := by
  rw [scan]
  split <;> simp_all

lemma scan_yields {i : ι} {n : ℕ} (h : S.next xs = .yields i n) : S.scan xs =
    ⟨i :: (S.scan (xs.drop n)).items, (S.scan (xs.drop n)).error, (S.scan (xs.drop n)).rest⟩ := by
  rw [scan]
  split <;> simp_all

/-- What is left of a stream without an error does not have another item. -/
lemma next_rest (h : (S.scan xs).error = none) : S.next (S.scan xs).rest = .more := by
  induction xs using scan.induct S with
  | case1 xs hnext =>
    rw [scan_more hnext]
    exact hnext
  | case2 xs e hnext =>
    rw [scan_fails hnext] at h
    exact nomatch h
  | case3 xs i n hnext _ ih =>
    rw [scan_yields hnext] at h ⊢
    exact ih h

/-- **More of the stream is read from where the reading has stopped, unless it has failed.** -/
theorem scan_append (ys : List α) : S.scan (xs ++ ys) =
    match (S.scan xs).error with
    | some e => ⟨(S.scan xs).items, some e, (S.scan xs).rest ++ ys⟩
    | none => ⟨(S.scan xs).items ++ (S.scan ((S.scan xs).rest ++ ys)).items,
        (S.scan ((S.scan xs).rest ++ ys)).error, (S.scan ((S.scan xs).rest ++ ys)).rest⟩ := by
  induction xs using scan.induct S with
  | case1 xs hnext =>
    rw [scan_more hnext]
    rfl
  | case2 xs e hnext => rw [scan_fails hnext, scan_fails (S.fails_append ys hnext)]
  | case3 xs i n hnext _ ih =>
    have hdrop : (xs ++ ys).drop n = xs.drop n ++ ys :=
      List.drop_append_of_le_length (S.bounded hnext).2
    rw [scan_yields hnext, scan_yields (S.yields_append ys hnext), hdrop, ih]
    cases (S.scan (xs.drop n)).error <;> rfl

end Scanner

end CcsTrans.Scanning
