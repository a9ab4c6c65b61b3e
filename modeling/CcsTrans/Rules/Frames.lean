import CcsTrans.Rules.Pipeline
import CcsTrans.Rules.Pointer

/-!
What a rule leaves alone.

A pointer leads through objects by the names of members and through arrays by the numerals of
indices. A rule of one field changes what its pointer leads to; every pointer that parts from it
on the way leads where it led before, but for the indices behind an element that was removed.
-/

namespace CcsTrans.Rules

open CcsTrans.Text CcsTrans.Json CcsTrans.Config CcsTrans.Protocols CcsTrans.Fallible

/-- Where a pointer leads. -/
inductive Resolves : Value → List Bytes → Value → Prop
  | root (v : Value) : Resolves v [] v
  | member {ms : List (Bytes × Value)} {token : Bytes} {child : Value} {tokens : List Bytes}
      {x : Value} : find token ms = some child → Resolves child tokens x →
      Resolves (.obj ms) (token :: tokens) x
  | element {xs : List Value} {i : ℕ} {child : Value} {tokens : List Bytes} {x : Value} :
      xs[i]? = some child → Resolves child tokens x → Resolves (.arr xs) (decimal i :: tokens) x

/-- A `std::size_t` counts the elements of every array. -/
def Sized (v : Value) : Prop :=
  ∀ tokens xs, Resolves v tokens (.arr xs) → xs.length < 2 ^ 64

section Resolves

variable {v x y : Value} {ms : List (Bytes × Value)} {xs : List Value} {token : Bytes}
  {tokens rest : List Bytes}

@[simp] lemma resolves_nil : Resolves v [] x ↔ x = v := by
  constructor
  · rintro ⟨⟩
    rfl
  · rintro rfl
    exact .root x

lemma resolves_obj : Resolves (.obj ms) (token :: tokens) x ↔
    ∃ child, find token ms = some child ∧ Resolves child tokens x := by
  constructor
  · rintro ⟨⟩
    exact ⟨_, ‹_›, ‹_›⟩
  · rintro ⟨child, hf, hr⟩
    exact .member hf hr

lemma resolves_arr : Resolves (.arr xs) (token :: tokens) x ↔
    ∃ i child, token = decimal i ∧ xs[i]? = some child ∧ Resolves child tokens x := by
  constructor
  · intro h
    cases h with
    | element hi hr => exact ⟨_, _, rfl, hi, hr⟩
  · rintro ⟨i, child, rfl, hi, hr⟩
    exact .element hi hr

lemma decimal_injective {i j : ℕ} (h : decimal i = decimal j) : i = j := by
  rw [← digitsValue_decimal i, h, digitsValue_decimal]

/-- A pointer leads to one place. -/
lemma Resolves.unique (hx : Resolves v tokens x) (hy : Resolves v tokens y) : x = y := by
  induction hx with
  | root v => exact (resolves_nil.mp hy).symm
  | member hf _ ih =>
    obtain ⟨child, hf', hy⟩ := resolves_obj.mp hy
    rw [hf] at hf'
    cases hf'
    exact ih hy
  | element hi _ ih =>
    obtain ⟨j, child, hj, hi', hy⟩ := resolves_arr.mp hy
    obtain rfl := decimal_injective hj
    rw [hi] at hi'
    cases hi'
    exact ih hy

lemma resolves_append : Resolves v (tokens ++ rest) y ↔
    ∃ x, Resolves v tokens x ∧ Resolves x rest y := by
  constructor
  · intro h
    induction tokens generalizing v with
    | nil => exact ⟨v, .root v, h⟩
    | cons token tokens ih =>
      cases h with
      | member hf hr =>
        obtain ⟨x, hx, hy⟩ := ih hr
        exact ⟨x, .member hf hx, hy⟩
      | element hi hr =>
        obtain ⟨x, hx, hy⟩ := ih hr
        exact ⟨x, .element hi hx, hy⟩
  · rintro ⟨x, hx, hy⟩
    induction hx with
    | root => exact hy
    | member hf _ ih => exact .member hf (ih hy)
    | element hi _ ih => exact .element hi (ih hy)

lemma Sized.of_resolves (h : Sized v) (hx : Resolves v tokens x) : Sized x :=
  fun rest xs hr => h (tokens ++ rest) xs (resolves_append.mpr ⟨x, hx, hr⟩)

lemma Sized.length_lt (h : Sized (.arr xs)) : xs.length < 2 ^ 64 := h [] xs (.root _)

end Resolves

/-! ### Array indices -/

/-- The digits of an index, behind those read before. -/
lemma arrayIndexDigits_ok_iff {value i : ℕ} {ds : Bytes} (hv : value < 2 ^ 64) :
    arrayIndexDigits value ds = .ok i ↔ (∀ b ∈ ds, isDigit b = true) ∧
      i = ds.foldl (fun n d => n * 10 + (d.toNat - 48)) value ∧ i < 2 ^ 64 := by
  induction ds generalizing value with
  | nil =>
    simp only [arrayIndexDigits, Except.ok.injEq, List.not_mem_nil, false_implies, implies_true,
      List.foldl_nil, true_and]
    constructor
    · rintro rfl
      exact ⟨rfl, hv⟩
    · exact fun h => h.1.symm
  | cons b t ih =>
    rw [arrayIndexDigits, List.foldl_cons]
    by_cases hb : isDigit b = true
    · have hdigit := (digit_of_isDigit hb).1
      rw [if_neg (by simp [hb])]
      dsimp only
      by_cases hbig : value > (2 ^ 64 - 1 - (b.toNat - 48)) / 10
      · rw [if_pos hbig]
        constructor
        · nofun
        · -- The value does not shrink as digits are added.
          rintro ⟨-, rfl, hlt⟩
          have hmono : ∀ (l : Bytes) (n : ℕ), n ≤ l.foldl (fun n d => n * 10 + (d.toNat - 48)) n := by
            intro l
            induction l with
            | nil => simp
            | cons c l ih =>
              intro n
              refine le_trans ?_ (ih (n * 10 + (c.toNat - 48)))
              omega
          have := hmono t (value * 10 + (b.toNat - 48))
          omega
      · rw [if_neg hbig, ih (by omega)]
        simp [hb]
    · rw [if_pos (by simpa using hb)]
      constructor
      · nofun
      · rintro ⟨hall, -⟩
        exact absurd (hall b (by simp)) hb

/-- An index is read from its numeral, and from nothing else. -/
lemma parseArrayIndex_ok_iff {token : Bytes} {n i : ℕ} (hn : n < 2 ^ 64) :
    parseArrayIndex token n = .ok i ↔ token = decimal i ∧ i < n := by
  constructor
  · intro h
    refine ⟨?_, parseArrayIndex_lt h⟩
    unfold parseArrayIndex at h
    split_ifs at h with hbad
    · cases h
    · simp only [not_or, not_and] at hbad
      obtain ⟨v, hv, h⟩ := bind_eq_ok.mp h
      split_ifs at h
      · cases h
      · cases h
        obtain ⟨hd, hi, -⟩ := (arrayIndexDigits_ok_iff (by norm_num)).mp hv
        have hvalue : i = digitsValue token := hi
        rw [hvalue, decimal_digitsValue hbad.1 hd]
        intro hhead
        cases token with
        | nil => cases hhead
        | cons b t =>
          cases t with
          | nil => simpa using hhead
          | cons c t => exact absurd hhead (hbad.2.2 (by simp))
  · rintro ⟨rfl, hi⟩
    have hdash : decimal i ≠ str "-" := by
      intro heq
      have := decimal_isDigit i (ch '-') (by rw [heq]; simp [str])
      revert this
      decide
    have hzero : ¬((decimal i).length > 1 ∧ (decimal i).head? = some (ch '0')) := by
      rintro ⟨hlen, hhead⟩
      by_cases h0 : i = 0
      · subst h0
        simp [decimal_zero] at hlen
      · cases hd : decimal i with
        | nil => exact decimal_ne_nil i hd
        | cons b t =>
          rw [hd] at hhead
          exact decimal_head hd h0 (Option.some.inj hhead)
    have hdigits : arrayIndexDigits 0 (decimal i) = .ok i :=
      (arrayIndexDigits_ok_iff (by norm_num)).mpr
        ⟨decimal_isDigit i, (digitsValue_decimal i).symm, by omega⟩
    unfold parseArrayIndex
    rw [if_neg (by simp [decimal_ne_nil, hdash, hzero]), hdigits]
    simp [hi]

/-! ### A change at a place -/

/-- `v'` is `v` with `x'` for `x` where the tokens lead. -/
inductive Swaps : List Bytes → Value → Value → Value → Value → Prop
  | root (x x' : Value) : Swaps [] x x' x x'
  | member {ms : List (Bytes × Value)} {token : Bytes} {child child' : Value} {tokens : List Bytes}
      {x x' : Value} : find token ms = some child → Swaps tokens child child' x x' →
      Swaps (token :: tokens) (.obj ms) (.obj (replace token child' ms)) x x'
  | element {xs : List Value} {i : ℕ} {child child' : Value} {tokens : List Bytes} {x x' : Value} :
      xs[i]? = some child → Swaps tokens child child' x x' →
      Swaps (decimal i :: tokens) (.arr xs) (.arr (xs.set i child')) x x'

/-- Neither pointer leads through the place of the other. -/
def Apart (p q : List Bytes) : Prop := ¬ p <+: q ∧ ¬ q <+: p

lemma find_replace_self {token : Bytes} {ms : List (Bytes × Value)} {c : Value}
    (h : find token ms = some c) (c' : Value) : find token (replace token c' ms) = some c' := by
  rw [find_replace, if_pos ⟨rfl, by simp [contains, h]⟩]

lemma lt_of_getElem? {xs : List Value} {i : ℕ} {c : Value} (h : xs[i]? = some c) :
    i < xs.length := by
  obtain ⟨hi, -⟩ := List.getElem?_eq_some_iff.mp h
  exact hi

section Swaps

variable {v v' x x' y : Value} {tokens q : List Bytes}

lemma Swaps.before (h : Swaps tokens v v' x x') : Resolves v tokens x := by
  induction h with
  | root x x' => exact .root x
  | member hf _ ih => exact .member hf ih
  | element hi _ ih => exact .element hi ih

lemma Swaps.after (h : Swaps tokens v v' x x') : Resolves v' tokens x' := by
  induction h with
  | root x x' => exact .root x'
  | member hf _ ih => exact .member (find_replace_self hf _) ih
  | element hi _ ih =>
    refine .element ?_ ih
    rw [List.getElem?_set_self (lt_of_getElem? hi)]

lemma exists_swaps (h : Resolves v tokens x) (x' : Value) : ∃ v', Swaps tokens v v' x x' := by
  induction h with
  | root v => exact ⟨x', .root v x'⟩
  | member hf _ ih =>
    obtain ⟨c', hc⟩ := ih
    exact ⟨_, .member hf hc⟩
  | element hi _ ih =>
    obtain ⟨c', hc⟩ := ih
    exact ⟨_, .element hi hc⟩

/-- What lies below the place. -/
lemma Swaps.below_before (h : Swaps tokens v v' x x') :
    Resolves v (tokens ++ q) y ↔ Resolves x q y := by
  rw [resolves_append]
  constructor
  · rintro ⟨z, hz, hy⟩
    rwa [h.before.unique hz]
  · exact fun hy => ⟨x, h.before, hy⟩

lemma Swaps.below_after (h : Swaps tokens v v' x x') :
    Resolves v' (tokens ++ q) y ↔ Resolves x' q y := by
  rw [resolves_append]
  constructor
  · rintro ⟨z, hz, hy⟩
    rwa [h.after.unique hz]
  · exact fun hy => ⟨x', h.after, hy⟩

lemma Apart.tail {token : Bytes} (h : Apart (token :: tokens) (token :: q)) : Apart tokens q :=
  ⟨fun hp => h.1 (List.cons_prefix_cons.mpr ⟨rfl, hp⟩),
    fun hp => h.2 (List.cons_prefix_cons.mpr ⟨rfl, hp⟩)⟩

/-- What lies elsewhere is as before. -/
lemma Swaps.frame (h : Swaps tokens v v' x x') (hq : Apart tokens q) :
    Resolves v' q y ↔ Resolves v q y := by
  induction h generalizing q with
  | root => exact absurd (List.nil_prefix) hq.1
  | @member ms token child child' tokens x x' hf _ ih =>
    cases q with
    | nil => exact absurd (List.nil_prefix) hq.2
    | cons t q =>
      rw [resolves_obj, resolves_obj]
      by_cases ht : t = token
      · subst ht
        simp only [find_replace_self hf, hf, Option.some.injEq, exists_eq_left']
        exact ih hq.tail
      · rw [find_replace, if_neg (fun hn => ht hn.1)]
  | @element xs i child child' tokens x x' hi _ ih =>
    cases q with
    | nil => exact absurd (List.nil_prefix) hq.2
    | cons t q =>
      rw [resolves_arr, resolves_arr]
      refine exists_congr fun j => ?_
      by_cases hj : t = decimal j
      · subst hj
        by_cases hij : i = j
        · subst hij
          simp only [List.getElem?_set_self (lt_of_getElem? hi), hi, Option.some.injEq,
            exists_eq_left', true_and]
          exact ih hq.tail
        · rw [List.getElem?_set_ne hij]
      · simp [hj]

end Swaps

/-- **What a change at a place is.** -/
lemma updateAt_ok_iff {f : Value → Except Thrown (RuleApplyResult × Value)} {tokens : List Bytes}
    {v v' : Value} {r : RuleApplyResult} (hs : Sized v) : updateAt f tokens v = .ok (r, v') ↔
      ∃ x x', f x = .ok (r, x') ∧ Swaps tokens v v' x x' := by
  induction tokens generalizing v v' with
  | nil =>
    rw [updateAt]
    constructor
    · exact fun h => ⟨v, v', h, .root v v'⟩
    · rintro ⟨x, x', hf, ⟨⟩⟩
      exact hf
  | cons token tokens ih =>
    constructor
    · intro h
      cases v with
      | obj ms =>
        rw [updateAt] at h
        split at h
        · cases h
        · next c hc =>
          obtain ⟨⟨r', c'⟩, hu, h⟩ := bind_eq_ok.mp h
          cases h
          obtain ⟨x, x', hf, hsw⟩ := (ih (hs.of_resolves (.member hc (.root c)))).mp hu
          exact ⟨x, x', hf, .member hc hsw⟩
      | arr xs =>
        rw [updateAt] at h
        obtain ⟨i, hi, h⟩ := bind_eq_ok.mp h
        obtain ⟨⟨r', c'⟩, hu, h⟩ := bind_eq_ok.mp h
        cases h
        obtain ⟨rfl, hlt⟩ := (parseArrayIndex_ok_iff hs.length_lt).mp hi
        rw [getD_eq_getElem hlt] at hu
        have hc : xs[i]? = some xs[i] := List.getElem?_eq_getElem hlt
        obtain ⟨x, x', hf, hsw⟩ := (ih (hs.of_resolves (.element hc (.root _)))).mp hu
        exact ⟨x, x', hf, .element hc hsw⟩
      | null | bool | int | uint | float | str => cases h
    · rintro ⟨x, x', hf, hsw⟩
      cases hsw with
      | @member ms _ c c' _ _ _ hc hsw =>
        have hu := (ih (hs.of_resolves (.member hc (.root c)))).mpr ⟨x, x', hf, hsw⟩
        simp only [updateAt, hc, hu]
        rfl
      | @element xs i c c' _ _ _ hi hsw =>
        have hu := (ih (hs.of_resolves (.element hi (.root c)))).mpr ⟨x, x', hf, hsw⟩
        have hlt := lt_of_getElem? hi
        have hget : xs.getD i .null = c := by simp [List.getD, hi]
        rw [updateAt, (parseArrayIndex_ok_iff hs.length_lt).mpr ⟨rfl, hlt⟩, ok_bind, hget, hu]
        rfl

lemma error_iff_not_ok {ε α : Type} {x : Except ε α} : (∃ e, x = .error e) ↔ ¬ ∃ a, x = .ok a := by
  cases x <;> simp

lemma updateAt_error_iff {f : Value → Except Thrown (RuleApplyResult × Value)}
    {tokens : List Bytes} {v : Value} (hs : Sized v) : (∃ e, updateAt f tokens v = .error e) ↔
      ¬ ∃ x, Resolves v tokens x ∧ ∃ a, f x = .ok a := by
  rw [error_iff_not_ok, not_iff_not]
  constructor
  · rintro ⟨⟨r, v'⟩, h⟩
    obtain ⟨x, x', hf, hsw⟩ := (updateAt_ok_iff hs).mp h
    exact ⟨x, hsw.before, _, hf⟩
  · rintro ⟨x, hx, ⟨r, x'⟩, hf⟩
    obtain ⟨v', hsw⟩ := exists_swaps hx x'
    exact ⟨(r, v'), (updateAt_ok_iff hs).mpr ⟨x, x', hf, hsw⟩⟩

lemma atomically_error {f : Value → Except Thrown (RuleApplyResult × Value)} {v : Value} :
    (∃ e, (atomically f v).1 = .error e) ↔ ∃ e, f v = .error e := by
  unfold atomically
  split <;> simp [*]

lemma atomically_unchanged {f : Value → Except Thrown (RuleApplyResult × Value)} {v v' : Value}
    {e : Thrown} (h : atomically f v = (.error e, v')) : v' = v := by
  unfold atomically at h
  split at h <;> cases h
  rfl

/-! ### The rules of one field -/

/-- A rule that gives the place of its tokens another value, or fails. -/
structure SetsOnly (tokens : List Bytes) (rule : CompiledRule) (body : Value) : Prop where
  fails : (∃ e, (rule.apply body).1 = .error e) ↔ ¬ ∃ x, Resolves body tokens x
  unchanged : ∀ {e body'}, rule.apply body = (.error e, body') → body' = body
  frame : ∀ {r body'}, rule.apply body = (.ok r, body') →
    ∀ q y, Apart tokens q → (Resolves body' q y ↔ Resolves body q y)

/-- A rule that removes the child of a name or an index from its parent, or fails. -/
structure RemovesOnly (parents : List Bytes) (last : Bytes) (rule : CompiledRule) (body : Value) :
    Prop where
  fails : (∃ e, (rule.apply body).1 = .error e) ↔ ¬ ∃ x, Resolves body (parents ++ [last]) x
  unchanged : ∀ {e body'}, rule.apply body = (.error e, body') → body' = body
  /-- A member is gone, and everything elsewhere is as before. -/
  member : ∀ {r body'}, rule.apply body = (.ok r, body') →
    ∀ ms, Resolves body parents (.obj ms) →
      (∀ q y, Apart (parents ++ [last]) q → (Resolves body' q y ↔ Resolves body q y)) ∧
      ∀ q y, parents ++ [last] <+: q → ¬ Resolves body' q y
  /-- An element is gone, and the elements behind it have moved up by one. -/
  element : ∀ {r body'}, rule.apply body = (.ok r, body') →
    ∀ xs, Resolves body parents (.arr xs) → ∃ i, last = decimal i ∧ i < xs.length ∧
      Resolves body' parents (.arr (xs.eraseIdx i)) ∧
      (∀ q y, Apart parents q → (Resolves body' q y ↔ Resolves body q y)) ∧
      ∀ token rest y, Resolves body' (parents ++ token :: rest) y ↔ ∃ k, token = decimal k ∧
        Resolves body (parents ++ decimal (if k < i then k else k + 1) :: rest) y

lemma setFieldRule_setsOnly [Library] (id : Bytes) (pointer : ParsedJsonPointer) (value : Value)
    {body : Value} (hs : Sized body) :
    SetsOnly pointer.tokens (setFieldRule id pointer value) body where
  fails := by
    have hassign : ∀ x, ∃ a, assign pointer.traceTarget value x = .ok a := by
      intro x
      unfold assign
      split <;> exact ⟨_, rfl⟩
    rw [setFieldRule, atomically_error, updateAt_error_iff hs]
    simp only [hassign, and_true]
  unchanged := atomically_unchanged
  frame h q y hq := by
    obtain ⟨x, x', -, hsw⟩ := (updateAt_ok_iff hs).mp (atomically_ok h)
    exact hsw.frame hq

/-- What is left of a parent. -/
inductive Removed (token : Bytes) : Value → Value → Prop
  | member {ms : List (Bytes × Value)} {c : Value} : find token ms = some c →
      Removed token (.obj ms) (.obj (Json.erase token ms))
  | element {xs : List Value} {i : ℕ} : token = decimal i → i < xs.length →
      Removed token (.arr xs) (.arr (xs.eraseIdx i))

lemma removed_of_removeChild {target token : Bytes} {v v' : Value} {r : RuleApplyResult}
    (hs : Sized v) (h : removeChild target token v = .ok (r, v')) : Removed token v v' := by
  cases v with
  | obj ms =>
    rw [removeChild] at h
    split at h
    · cases h
    · next c hc =>
      cases h
      exact .member hc
  | arr xs =>
    obtain ⟨i, hi, h⟩ := bind_eq_ok.mp h
    cases h
    obtain ⟨htoken, hlt⟩ := (parseArrayIndex_ok_iff hs.length_lt).mp hi
    exact .element htoken hlt
  | null | bool | int | uint | float | str => cases h

lemma removeChild_ok_iff {target token : Bytes} {v : Value} (hs : Sized v) :
    (∃ a, removeChild target token v = .ok a) ↔ ∃ y, Resolves v [token] y := by
  constructor
  · rintro ⟨⟨r, v'⟩, h⟩
    cases removed_of_removeChild hs h with
    | member hc => exact ⟨_, .member hc (.root _)⟩
    | element ht hi =>
      subst ht
      exact ⟨_, .element (List.getElem?_eq_getElem hi) (.root _)⟩
  · rintro ⟨y, hy⟩
    cases hy with
    | member hf hr => exact ⟨_, by rw [removeChild, hf]⟩
    | element hi hr =>
      have hread := (parseArrayIndex_ok_iff hs.length_lt).mpr ⟨rfl, lt_of_getElem? hi⟩
      exact ⟨_, by rw [removeChild, hread, ok_bind]; rfl⟩

/-- Where the elements are from which one was removed. -/
lemma getElem?_eraseIdx_shift (xs : List Value) (i k : ℕ) :
    (xs.eraseIdx i)[k]? = xs[if k < i then k else k + 1]? := by
  rw [List.getElem?_eraseIdx]
  split <;> rfl

/-- A pointer apart from a child is apart from its parent or leads to another child. -/
lemma Apart.of_append {parents q : List Bytes} {last : Bytes} (h : Apart (parents ++ [last]) q) :
    Apart parents q ∨ ∃ token rest, q = parents ++ token :: rest ∧ token ≠ last := by
  by_cases hp : parents <+: q
  · obtain ⟨rest, rfl⟩ := hp
    cases rest with
    | nil => exact absurd (by simp) h.2
    | cons token rest =>
      refine Or.inr ⟨token, rest, rfl, ?_⟩
      rintro rfl
      exact h.1 ⟨rest, by simp⟩
  · exact Or.inl ⟨hp, fun hq => h.2 (hq.trans (List.prefix_append _ _))⟩

lemma removeFieldRule_removesOnly (id : Bytes) {pointer : ParsedJsonPointer} {parents : List Bytes}
    {last : Bytes} (ht : pointer.tokens = parents ++ [last]) {body : Value} (hs : Sized body) :
    RemovesOnly parents last (removeFieldRule id pointer) body := by
  have hrule : (removeFieldRule id pointer).apply =
      atomically (updateAt (removeChild pointer.traceTarget last) parents) := by
    simp [removeFieldRule, ht]
  have hok : ∀ {r body'}, (removeFieldRule id pointer).apply body = (.ok r, body') →
      ∃ x x', Removed last x x' ∧ Swaps parents body body' x x' := by
    intro r body' h
    rw [hrule] at h
    obtain ⟨x, x', hf, hsw⟩ := (updateAt_ok_iff hs).mp (atomically_ok h)
    exact ⟨x, x', removed_of_removeChild (hs.of_resolves hsw.before) hf, hsw⟩
  constructor
  case fails =>
    rw [hrule, atomically_error, updateAt_error_iff hs, not_iff_not]
    simp only [resolves_append]
    constructor
    · rintro ⟨x, hx, hf⟩
      obtain ⟨y, hy⟩ := (removeChild_ok_iff (hs.of_resolves hx)).mp hf
      exact ⟨y, x, hx, hy⟩
    · rintro ⟨y, x, hx, hy⟩
      exact ⟨x, hx, (removeChild_ok_iff (hs.of_resolves hx)).mpr ⟨y, hy⟩⟩
  case unchanged =>
    intro e body' h
    rw [hrule] at h
    exact atomically_unchanged h
  case member =>
    intro r body' h ms hms
    obtain ⟨x, x', hrem, hsw⟩ := hok h
    obtain rfl := hsw.before.unique hms
    cases hrem with
    | member hc =>
      constructor
      · intro q y hq
        rcases hq.of_append with hq | ⟨token, rest, rfl, hne⟩
        · exact hsw.frame hq
        · rw [hsw.below_before, hsw.below_after, resolves_obj, resolves_obj, find_erase, if_neg hne]
      · rintro q y ⟨rest, rfl⟩ hy
        rw [List.append_assoc, hsw.below_after, List.singleton_append, resolves_obj] at hy
        obtain ⟨c, hc, -⟩ := hy
        rw [find_erase, if_pos rfl] at hc
        cases hc
  case element =>
    intro r body' h xs hxs
    obtain ⟨x, x', hrem, hsw⟩ := hok h
    obtain rfl := hsw.before.unique hxs
    cases hrem with
    | @element _ i htoken hlt =>
      refine ⟨i, htoken, hlt, hsw.after, fun q y hq => hsw.frame hq, fun token rest y => ?_⟩
      rw [hsw.below_after, resolves_arr]
      refine exists_congr fun k => ?_
      rw [hsw.below_before, resolves_arr, getElem?_eraseIdx_shift]
      constructor
      · rintro ⟨c, hk, hc, hy⟩
        exact ⟨hk, _, c, rfl, hc, hy⟩
      · rintro ⟨hk, j, c, hj, hc, hy⟩
        rw [decimal_injective hj]
        exact ⟨c, hk, hc, hy⟩

/-- **The rules of one field touch their target only.** Of every body they fail exactly when their
pointer leads nowhere, and leave it as it was; else every pointer apart from the target leads
where it led. What a rule removes is a child of something, never the document. -/
theorem field_rules_frame [Library] (d : RuleDefinition) (protocol : ProtocolDescriptor)
    (rule : CompiledRule) :
    (setFieldRuleFactory.compile d protocol = .ok (some rule) →
      ∃ pointer, pathOption d = .ok pointer ∧
        ∀ body, Sized body → SetsOnly pointer.tokens rule body) ∧
    (removeFieldRuleFactory.compile d protocol = .ok (some rule) →
      ∃ pointer parents last, pathOption d = .ok pointer ∧ pointer.tokens = parents ++ [last] ∧
        ∀ body, Sized body → RemovesOnly parents last rule body) := by
  constructor
  · intro h
    obtain ⟨-, -, h⟩ := bind_eq_ok.mp h
    obtain ⟨-, -, h⟩ := bind_eq_ok.mp h
    obtain ⟨pointer, hp, h⟩ := bind_eq_ok.mp h
    split at h
    · cases h
      exact ⟨pointer, hp, fun body hs => setFieldRule_setsOnly _ _ _ hs⟩
    · cases h
  · intro h
    obtain ⟨-, -, h⟩ := bind_eq_ok.mp h
    obtain ⟨-, -, h⟩ := bind_eq_ok.mp h
    obtain ⟨pointer, hp, h⟩ := bind_eq_ok.mp h
    split_ifs at h with hne
    · cases h
    · cases h
      have ht : pointer.tokens = pointer.tokens.dropLast ++ [pointer.tokens.getLast hne] :=
        (List.dropLast_append_getLast hne).symm
      exact ⟨pointer, _, _, hp, ht, fun body hs => removeFieldRule_removesOnly _ ht hs⟩

section Instances

attribute [local instance] bitLibrary

/-- `{"a":1,"l":[1,2]}`. -/
def memberAndList : Value :=
  .obj [(str "a", .uint 1), (str "l", .arr [.uint 1, .uint 2])]

lemma sized_memberAndList : Sized memberAndList := by
  intro tokens xs h
  have hmembers : ∀ {token child}, find token [(str "a", Value.uint 1),
      (str "l", Value.arr [.uint 1, .uint 2])] = some child →
      child = .uint 1 ∨ child = .arr [.uint 1, .uint 2] := by
    intro token child hf
    simp only [find] at hf
    split_ifs at hf <;> cases hf
    · exact Or.inl rfl
    · exact Or.inr rfl
  cases h with
  | member hf hr =>
    rcases hmembers hf with rfl | rfl
    · cases hr
    · cases hr with
      | root => decide
      | @element _ i _ _ _ hi hr =>
        have hchild := List.mem_of_getElem? hi
        simp only [List.mem_cons, List.not_mem_nil, or_false] at hchild
        rcases hchild with rfl | rfl <;> cases hr

def setA : RuleDefinition :=
  { id := str "set", enabled := true, type := str "set_field",
    options := [(str "path", .str (str "/a")), (str "value", .bool true)] }

def removeFirst : RuleDefinition :=
  { id := str "remove", enabled := true, type := str "remove_field",
    options := [(str "path", .str (str "/l/0"))] }

/-- One rule of each kind. -/
theorem field_rules_frame_two :
    ∃ set remove, setFieldRuleFactory.compile setA responsesHandler = .ok (some set) ∧
      removeFieldRuleFactory.compile removeFirst responsesHandler = .ok (some remove) ∧
      SetsOnly [str "a"] set memberAndList ∧
      RemovesOnly [str "l"] (str "0") remove memberAndList := by
  refine ⟨_, _, rfl, rfl, ?_, ?_⟩
  · obtain ⟨pointer, hp, hsets⟩ := (field_rules_frame setA responsesHandler _).1 rfl
    have hpath : pathOption setA = .ok ⟨str "/a", [str "a"]⟩ := by decide
    rw [hpath] at hp
    cases hp
    exact hsets memberAndList sized_memberAndList
  · obtain ⟨pointer, parents, last, hp, ht, hremoves⟩ :=
      (field_rules_frame removeFirst responsesHandler _).2 rfl
    have hpath : pathOption removeFirst = .ok ⟨str "/l/0", [str "l"] ++ [str "0"]⟩ := by decide
    rw [hpath] at hp
    cases hp
    obtain ⟨rfl, hlast⟩ := List.append_inj' ht rfl
    cases hlast
    exact hremoves memberAndList sized_memberAndList

/-- What lies above a target is not as before. -/
theorem ancestors_change :
    ¬ ∀ d protocol rule pointer, setFieldRuleFactory.compile d protocol = .ok (some rule) →
      pathOption d = .ok pointer → ∀ body r body', Sized body →
      rule.apply body = (.ok r, body') →
      ∀ q y, ¬ pointer.tokens <+: q → (Resolves body' q y ↔ Resolves body q y) := by
  intro h
  have hpath : pathOption setA = .ok ⟨str "/a", [str "a"]⟩ := by decide
  let changed : Value := .obj [(str "a", .bool true), (str "l", .arr [.uint 1, .uint 2])]
  have hroot := (h setA responsesHandler _ _ rfl hpath memberAndList _ changed sized_memberAndList
    rfl [] memberAndList (by simp)).mpr (.root _)
  have hsame := resolves_nil.mp hroot
  simp [memberAndList, changed] at hsame

end Instances

end CcsTrans.Rules
