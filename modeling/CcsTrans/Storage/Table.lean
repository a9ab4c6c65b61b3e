import Mathlib.Data.List.Basic
import Mathlib.Data.List.Nodup
import Mathlib.Data.List.Pairwise
import Mathlib.Data.List.Sort
import Mathlib.Data.List.Forall2
import Mathlib.Tactic.Common

/-!
Tables whose constraints are checked row by row.

A table is a list of rows and the largest key it ever gave out. `Ok` is what a row must
meet by itself, `Apart` what two rows must meet together: their keys and their other
unique columns differ. A statement that changes many rows checks each of them when it
changes it, against the rows as they are at that moment; so an order in which every row
would pass at the end may still fail in between.

The second half is about putting a list of items in their places: an item with a key
changes the row of that key, an item without one becomes a new row. This succeeds when the
rows that wait for their change keep out of the way.
-/

namespace CcsTrans.Storage.Table

variable {ρ α : Type}

/-- The rows, and the largest key given out so far. -/
structure Rows (ρ : Type) where
  rows : List ρ := []
  sequence : ℕ := 0

section Statements

variable (Ok : ρ → Prop) (Apart : ρ → ρ → Prop) [DecidablePred Ok] [DecidableRel Apart]

/-- Change the rows in `p` one after another; those in `done` are behind. -/
def updateFrom (p : ρ → Bool) (f : ρ → ρ) : List ρ → List ρ → Option (List ρ)
  | done, [] => some done
  | done, r :: rest =>
    if p r then
      if Ok (f r) ∧ ∀ x ∈ done ++ rest, Apart (f r) x then updateFrom p f (done ++ [f r]) rest
      else none
    else updateFrom p f (done ++ [r]) rest

/-- `UPDATE`: the rows afterwards, and how many were changed. -/
def update (p : ρ → Bool) (f : ρ → ρ) (t : Rows ρ) : Option (ℕ × Rows ρ) :=
  (updateFrom Ok Apart p f [] t.rows).map fun rows => (t.rows.countP p, { t with rows := rows })

/-- `DELETE`. -/
def delete (p : ρ → Bool) (t : Rows ρ) : Rows ρ := { t with rows := t.rows.filter fun r => !p r }

variable (key : ρ → ℤ)

/-- The key that the next new row gets. -/
def newKey (t : Rows ρ) : ℤ := (t.rows.map key).foldl max (t.sequence : ℤ) + 1

/-- `INSERT` of a row that is given its key. -/
def insert (row : ℤ → ρ) (t : Rows ρ) : Option (ℤ × Rows ρ) :=
  let k := newKey key t
  if Ok (row k) ∧ ∀ x ∈ t.rows, Apart (row k) x then
    some (k, ⟨t.rows ++ [row k], k.toNat⟩)
  else none

end Statements

/-! ### Many rows at once -/

section Update

variable {Ok : ρ → Prop} {Apart : ρ → ρ → Prop} [DecidablePred Ok] [DecidableRel Apart]
  {p : ρ → Bool} {f : ρ → ρ}

/-- A row after the statement. -/
def changed (p : ρ → Bool) (f : ρ → ρ) (r : ρ) : ρ := if p r then f r else r

/-- Every row passes when it keeps apart from the rows before it as they are changed and from
the rows behind it as they were. -/
lemma updateFrom_eq {done rest : List ρ} (hok : ∀ r ∈ rest, p r = true → Ok (f r))
    (hdone : ∀ r ∈ rest, p r = true → ∀ x ∈ done, Apart (f r) x)
    (hrest : rest.Pairwise fun a b =>
      (p a = true → Apart (f a) b) ∧ (p b = true → Apart (f b) (changed p f a))) :
    updateFrom Ok Apart p f done rest = some (done ++ rest.map (changed p f)) := by
  induction rest generalizing done with
  | nil => simp [updateFrom]
  | cons r rest ih =>
    rw [List.pairwise_cons] at hrest
    have hstep : updateFrom Ok Apart p f (done ++ [changed p f r]) rest =
        some (done ++ (r :: rest).map (changed p f)) := by
      rw [ih (fun x hx => hok x (by simp [hx])) ?_ hrest.2]
      · simp
      · intro x hx hp y hy
        rcases List.mem_append.mp hy with hy | hy
        · exact hdone x (by simp [hx]) hp y hy
        · rw [List.mem_singleton.mp hy]
          exact (hrest.1 x hx).2 hp
    rw [updateFrom]
    by_cases hp : p r = true
    · have hapart : ∀ x ∈ done ++ rest, Apart (f r) x := by
        intro x hx
        rcases List.mem_append.mp hx with hx | hx
        · exact hdone r (by simp) hp x hx
        · exact (hrest.1 x hx).1 hp
      rw [if_pos hp, if_pos ⟨hok r (by simp) hp, hapart⟩]
      simpa [changed, hp] using hstep
    · rw [if_neg hp]
      simpa [changed, hp] using hstep

lemma update_eq {t : Rows ρ} (hok : ∀ r ∈ t.rows, p r = true → Ok (f r))
    (hrows : t.rows.Pairwise fun a b =>
      (p a = true → Apart (f a) b) ∧ (p b = true → Apart (f b) (changed p f a))) :
    update Ok Apart p f t = some (t.rows.countP p, { t with rows := t.rows.map (changed p f) }) := by
  rw [update, updateFrom_eq hok (by simp) hrows]
  simp

end Update

/-! ### Keys -/

section Keys

variable {key : ρ → ℤ}

/-- The keys of the rows differ. -/
def KeysDiffer (key : ρ → ℤ) (rows : List ρ) : Prop := rows.Pairwise fun a b => key a ≠ key b

/-- No row has a key beyond those that were given out. -/
def Bounded (key : ρ → ℤ) (t : Rows ρ) : Prop := ∀ r ∈ t.rows, key r ≤ t.sequence

lemma KeysDiffer.eq_of_key {rows : List ρ} (h : KeysDiffer key rows) {a b : ρ} (ha : a ∈ rows)
    (hb : b ∈ rows) (hk : key a = key b) : a = b := by
  have : Std.Symm fun a b : ρ => key a ≠ key b := ⟨fun _ _ => Ne.symm⟩
  by_contra hne
  exact List.Pairwise.forall h ha hb hne hk

lemma KeysDiffer.countP_eq_one {rows : List ρ} (h : KeysDiffer key rows) {r : ρ} (hr : r ∈ rows)
    {p : ρ → Bool} (hp : ∀ x ∈ rows, p x = true ↔ key x = key r) : rows.countP p = 1 := by
  induction rows with
  | nil => cases hr
  | cons x rows ih =>
    rw [KeysDiffer, List.pairwise_cons] at h
    by_cases hx : key x = key r
    · have hrest : rows.countP p = 0 := by
        rw [List.countP_eq_zero]
        intro y hy hpy
        exact h.1 y hy (hx.trans ((hp y (by simp [hy])).mp hpy).symm)
      rw [List.countP_cons, hrest, if_pos ((hp x (by simp)).mpr hx)]
    · have hpx : ¬ p x = true := fun hpx => hx ((hp x (by simp)).mp hpx)
      rw [List.countP_cons, if_neg hpx]
      refine ih h.2 ?_ fun y hy => hp y (by simp [hy])
      rcases List.mem_cons.mp hr with rfl | hr
      · exact absurd rfl hx
      · exact hr

lemma le_foldl_max (ks : List ℤ) (n : ℤ) : n ≤ ks.foldl max n ∧ ∀ k ∈ ks, k ≤ ks.foldl max n := by
  induction ks generalizing n with
  | nil => simp
  | cons k ks ih =>
    obtain ⟨h1, h2⟩ := ih (max n k)
    rw [List.foldl_cons]
    refine ⟨le_trans (le_max_left n k) h1, fun x hx => ?_⟩
    rcases List.mem_cons.mp hx with rfl | hx
    · exact le_trans (le_max_right n x) h1
    · exact h2 x hx

lemma newKey_pos (t : Rows ρ) : 0 < newKey key t := by
  have := (le_foldl_max (t.rows.map key) t.sequence).1
  unfold newKey
  omega

lemma sequence_lt_newKey (t : Rows ρ) : (t.sequence : ℤ) < newKey key t := by
  have := (le_foldl_max (t.rows.map key) t.sequence).1
  unfold newKey
  omega

lemma lt_newKey {t : Rows ρ} {r : ρ} (hr : r ∈ t.rows) : key r < newKey key t := by
  have := (le_foldl_max (t.rows.map key) t.sequence).2 _ (List.mem_map_of_mem hr)
  unfold newKey
  omega

/-- Rows that are sorted by a number are found again, in whatever order they are kept. -/
lemma insertionSort_eq {rows l : List ρ} {position : ρ → ℤ} (hk : KeysDiffer key rows)
    (hl : l.Pairwise fun a b => position a < position b) (hmem : ∀ r, r ∈ rows ↔ r ∈ l) :
    rows.insertionSort (fun a b => position a ≤ position b) = l := by
  have : Std.Total fun a b : ρ => position a ≤ position b := ⟨fun a b => le_total _ _⟩
  have : IsTrans ρ fun a b : ρ => position a ≤ position b := ⟨fun a b c => le_trans⟩
  have hrows : rows.Nodup := hk.imp fun hne h => hne (congrArg key h)
  have hperm : rows.Perm l := (List.perm_ext_iff_of_nodup hrows
    (hl.imp fun hlt h => hlt.ne (congrArg position h))).mpr hmem
  have hsymm : ∀ a ∈ l, ∀ b ∈ l, position a = position b → a = b := by
    intro a ha b hb hab
    by_contra hne
    have hsymm : Std.Symm fun a b : ρ => position a ≠ position b := ⟨fun _ _ => Ne.symm⟩
    exact List.Pairwise.forall (hl.imp fun h => h.ne) ha hb hne hab
  refine List.Perm.eq_of_pairwise ?_ (List.pairwise_insertionSort _ rows) (hl.imp le_of_lt)
    ((List.perm_insertionSort _ rows).trans hperm)
  intro a b ha hb hab hba
  refine hsymm a ?_ b hb (le_antisymm hab hba)
  exact (hmem a).mp ((List.mem_insertionSort _).mp ha)

end Keys

/-! ### Items in their places -/

/-- Why an item is not placed. -/
inductive PlaceError where
  | constraint
  | invalidKey
  | notOneRow
  deriving DecidableEq

/-- How items become rows: the item of number `i` is inserted as `make i a k`, or changes the
row of its key, if that is one of those it may change, by `assign i a`. -/
structure Placement (ρ α : Type) where
  key : ρ → ℤ
  itemKey : α → ℤ
  mine : ρ → Bool
  make : ℕ → α → ℤ → ρ
  assign : ℕ → α → ρ → ρ

section Place

variable (Ok : ρ → Prop) (Apart : ρ → ρ → Prop) [DecidablePred Ok] [DecidableRel Apart]
  (P : Placement ρ α)

/-- Put an item in its place: its key, and the table. -/
def place (i : ℕ) (a : α) (t : Rows ρ) : Except PlaceError (ℤ × Rows ρ) :=
  if P.itemKey a = 0 then
    match insert Ok Apart P.key (P.make i a) t with
    | none => .error .constraint
    | some (k, t') => if k ≤ 0 then .error .invalidKey else .ok (k, t')
  else
    match update Ok Apart (fun r => P.key r == P.itemKey a && P.mine r) (P.assign i a) t with
    | none => .error .constraint
    | some (n, t') => if n ≠ 1 then .error .notOneRow else .ok (P.itemKey a, t')

/-- Put items in their places, one after another. -/
def placeAll (i : ℕ) : List α → Rows ρ → Except PlaceError (List ℤ × Rows ρ)
  | [], t => .ok ([], t)
  | a :: as, t =>
    match place Ok Apart P i a t with
    | .error e => .error e
    | .ok (k, t') =>
      match placeAll (i + 1) as t' with
      | .error e => .error e
      | .ok (ks, t'') => .ok (k :: ks, t'')

end Place

section Placing

variable {Ok : ρ → Prop} {Apart : ρ → ρ → Prop} [DecidablePred Ok] [DecidableRel Apart]
  {P : Placement ρ α}

/-- What lets items be placed below the number `limit`: the rows they make are in order and
keep apart from each other, from the rows that wait, and from the rows of others. -/
structure Fits (Ok : ρ → Prop) (Apart : ρ → ρ → Prop) (P : Placement ρ α)
    (Waiting : ρ → Prop) (Differ : α → α → Prop) (Good : α → Prop) (limit : ℕ) : Prop where
  key_make : ∀ i a k, P.key (P.make i a k) = k
  mine_make : ∀ i a k, P.mine (P.make i a k) = true
  assign_eq : ∀ i a r, P.mine r = true → P.assign i a r = P.make i a (P.key r)
  ok_make : ∀ {i a k}, Good a → Ok (P.make i a k)
  apart_symm : ∀ {r s}, Apart r s → Apart s r
  apart_waiting : ∀ {i a k r}, Good a → i < limit → Waiting r → P.key r ≠ k →
    Apart (P.make i a k) r
  apart_others : ∀ {i a k r}, P.mine r = false → P.key r ≠ k → Apart (P.make i a k) r
  apart_placed : ∀ {i j a b k l}, Differ a b → i ≠ j → k ≠ l →
    Apart (P.make i a k) (P.make j b l)

/-- The rows when the items `done` are in their places and the items `todo` wait. -/
structure Ready (P : Placement ρ α) (Waiting : ρ → Prop) (Differ : α → α → Prop)
    (i : ℕ) (todo : List α) (t : Rows ρ) : Prop where
  keys : KeysDiffer P.key t.rows
  /-- A row that may be changed waits, or is the place of an item from which those to come
  differ. -/
  rows : ∀ r ∈ t.rows, P.mine r = true →
    (Waiting r ∧ ∃ a ∈ todo, P.itemKey a ≠ 0 ∧ P.itemKey a = P.key r) ∨
    ∃ j < i, ∃ b, r = P.make j b (P.key r) ∧ ∀ a ∈ todo, Differ a b
  /-- An item with a key has a row. -/
  waiting : ∀ a ∈ todo, P.itemKey a ≠ 0 → ∃ r ∈ t.rows, P.key r = P.itemKey a ∧ P.mine r = true ∧
    Waiting r

variable {Waiting : ρ → Prop} {Differ : α → α → Prop} {Good : α → Prop} {limit i : ℕ}

omit [DecidablePred Ok] [DecidableRel Apart] in
/-- A row keeps apart from the row of an item that is placed now. -/
lemma Fits.apart (h : Fits Ok Apart P Waiting Differ Good limit) {a : α} {as : List α} {t : Rows ρ}
    (hr : Ready P Waiting Differ i (a :: as) t) (hgood : Good a) (hi : i < limit) {k : ℤ} {r : ρ}
    (hmem : r ∈ t.rows) (hk : P.key r ≠ k) : Apart (P.make i a k) r := by
  by_cases hmine : P.mine r = true
  · rcases hr.rows r hmem hmine with ⟨hw, -⟩ | ⟨j, hj, b, hb, hd⟩
    · exact h.apart_waiting hgood hi hw hk
    · rw [hb]
      exact h.apart_placed (hd a (by simp)) (by omega) (Ne.symm hk)
  · exact h.apart_others (by simpa using hmine) hk

/-- What placing one item does. -/
structure Placed (P : Placement ρ α) (i : ℕ) (a : α) (t : Rows ρ) (k : ℤ) (t' : Rows ρ) :
    Prop where
  positive : 0 < k
  own : P.itemKey a ≠ 0 → k = P.itemKey a
  fresh : P.itemKey a = 0 → ∀ r ∈ t.rows, P.key r ≠ k
  new : P.itemKey a = 0 → (t.sequence : ℤ) < k
  sequence : t.sequence ≤ t'.sequence
  bounded : Bounded P.key t → Bounded P.key t'
  keys : KeysDiffer P.key t'.rows
  mem : ∀ r, r ∈ t'.rows ↔ (r ∈ t.rows ∧ P.key r ≠ k) ∨ r = P.make i a k

lemma place_insert (h : Fits Ok Apart P Waiting Differ Good limit) {a : α} {as : List α}
    {t : Rows ρ} (hr : Ready P Waiting Differ i (a :: as) t) (hgood : Good a) (hi : i < limit)
    (h0 : P.itemKey a = 0) : ∃ k t', place Ok Apart P i a t = .ok (k, t') ∧ Placed P i a t k t' := by
  have hfresh : ∀ r ∈ t.rows, P.key r ≠ newKey P.key t := fun r hr => (lt_newKey hr).ne
  have hins : insert Ok Apart P.key (P.make i a) t = some (newKey P.key t,
      ⟨t.rows ++ [P.make i a (newKey P.key t)], (newKey P.key t).toNat⟩) := by
    unfold insert
    exact if_pos ⟨h.ok_make hgood, fun x hx => h.apart hr hgood hi hx (hfresh x hx)⟩
  have hpos : ¬ newKey P.key t ≤ 0 := not_le.mpr (newKey_pos t)
  refine ⟨newKey P.key t, _, by simp only [place, h0, if_true, hins, hpos, if_false]; rfl, ?_⟩
  have hseq : (t.sequence : ℤ) < newKey P.key t := sequence_lt_newKey t
  refine ⟨newKey_pos t, fun h => absurd h0 h, fun _ => hfresh, fun _ => hseq, ?_, ?_, ?_, fun r => ?_⟩
  · show t.sequence ≤ (newKey P.key t).toNat
    omega
  · intro _ r hmem
    simp only [List.mem_append, List.mem_singleton] at hmem
    rcases hmem with hmem | rfl
    · have : P.key r < newKey P.key t := lt_newKey hmem
      show P.key r ≤ ((newKey P.key t).toNat : ℤ)
      omega
    · rw [h.key_make]
      show newKey P.key t ≤ ((newKey P.key t).toNat : ℤ)
      omega
  · refine List.pairwise_append.mpr ⟨hr.keys, by simp, fun x hx y hy => ?_⟩
    rw [List.mem_singleton.mp hy, h.key_make]
    exact hfresh x hx
  · simp only [List.mem_append, List.mem_singleton]
    constructor
    · exact Or.imp_left fun hmem => ⟨hmem, hfresh r hmem⟩
    · exact Or.imp_left And.left

lemma place_update (h : Fits Ok Apart P Waiting Differ Good limit) {a : α} {as : List α}
    {t : Rows ρ} (hr : Ready P Waiting Differ i (a :: as) t) (hgood : Good a) (hi : i < limit)
    (h0 : 0 < P.itemKey a) :
    ∃ k t', place Ok Apart P i a t = .ok (k, t') ∧ Placed P i a t k t' := by
  obtain ⟨w, hw, hwk, hwm, -⟩ := hr.waiting a (by simp) h0.ne'
  have hp : ∀ x ∈ t.rows, (P.key x == P.itemKey a && P.mine x) = true ↔ P.key x = P.key w := by
    intro x hx
    rw [Bool.and_eq_true, beq_iff_eq, hwk]
    refine ⟨And.left, fun hk => ⟨hk, ?_⟩⟩
    rw [hr.keys.eq_of_key hx hw (hk.trans hwk.symm)]
    exact hwm
  have hassign : ∀ x ∈ t.rows, (P.key x == P.itemKey a && P.mine x) = true →
      P.assign i a x = P.make i a (P.itemKey a) := by
    intro x hx hpx
    rw [Bool.and_eq_true, beq_iff_eq] at hpx
    rw [h.assign_eq i a x hpx.2, hpx.1]
  have hchanged : ∀ x ∈ t.rows, changed (fun r => P.key r == P.itemKey a && P.mine r)
      (P.assign i a) x = if P.key x = P.itemKey a then P.make i a (P.itemKey a) else x := by
    intro x hx
    unfold changed
    by_cases hk : P.key x = P.itemKey a
    · have hpx := (hp x hx).mpr (hk.trans hwk.symm)
      rw [if_pos hpx, if_pos hk, hassign x hx hpx]
    · rw [if_neg hk, if_neg (by simp [hk])]
  have hok : ∀ x ∈ t.rows, (P.key x == P.itemKey a && P.mine x) = true → Ok (P.assign i a x) := by
    intro x hx hpx
    rw [hassign x hx hpx]
    exact h.ok_make hgood
  -- only the row of the key is changed, so that all others are as they were
  have hpairs : t.rows.Pairwise fun x y =>
      ((P.key x == P.itemKey a && P.mine x) = true → Apart (P.assign i a x) y) ∧
      ((P.key y == P.itemKey a && P.mine y) = true → Apart (P.assign i a y)
        (changed (fun r => P.key r == P.itemKey a && P.mine r) (P.assign i a) x)) := by
    refine hr.keys.imp_of_mem fun {x y} hx hy hne => ⟨fun hpx => ?_, fun hpy => ?_⟩
    · rw [hassign x hx hpx]
      refine h.apart hr hgood hi hy ?_
      rw [← hwk, ← (hp x hx).mp hpx]
      exact Ne.symm hne
    · have hkx : P.key x ≠ P.itemKey a := by
        rw [← hwk, ← (hp y hy).mp hpy]
        exact hne
      rw [hassign y hy hpy, hchanged x hx, if_neg hkx]
      exact h.apart hr hgood hi hx hkx
  have hup := update_eq hok hpairs
  rw [hr.keys.countP_eq_one hw hp] at hup
  refine ⟨P.itemKey a, _, by simp only [place, h0.ne', if_false, hup]; rfl, ?_⟩
  refine ⟨h0, fun _ => rfl, fun h => absurd h h0.ne', fun h => absurd h h0.ne', le_rfl, ?_, ?_,
    fun r => ?_⟩
  · intro hb r hmem
    obtain ⟨x, hx, rfl⟩ := List.mem_map.mp hmem
    rw [hchanged x hx]
    split_ifs with hk
    · rw [h.key_make, ← hk]
      exact hb x hx
    · exact hb x hx
  · refine List.pairwise_map.mpr (hr.keys.imp_of_mem fun hx hy hne => ?_)
    rw [hchanged _ hx, hchanged _ hy]
    split_ifs with h1 h2 h2
    · exact absurd (h1.trans h2.symm) hne
    · rw [h.key_make]; exact Ne.symm h2
    · rw [h.key_make]; exact h1
    · exact hne
  · simp only [List.mem_map]
    constructor
    · rintro ⟨x, hx, rfl⟩
      rw [hchanged x hx]
      split_ifs with hk
      · exact Or.inr rfl
      · exact Or.inl ⟨hx, hk⟩
    · rintro (⟨hx, hk⟩ | rfl)
      · exact ⟨r, hx, by rw [hchanged r hx, if_neg hk]⟩
      · exact ⟨w, hw, by rw [hchanged w hw, if_pos hwk]⟩

/-- The items that are placed have different keys, as far as they have any. -/
def ItemKeysDiffer (P : Placement ρ α) (as : List α) : Prop :=
  as.Pairwise fun a b => P.itemKey a ≠ 0 → P.itemKey a ≠ P.itemKey b

omit [DecidablePred Ok] [DecidableRel Apart] in
/-- The other items wait as before when one is placed. -/
lemma Ready.next (h : Fits Ok Apart P Waiting Differ Good limit) {a : α} {as : List α}
    {t t' : Rows ρ} {k : ℤ} (hr : Ready P Waiting Differ i (a :: as) t)
    (hdiff : ∀ b ∈ as, Differ b a) (hkeys : ItemKeysDiffer P (a :: as))
    (hp : Placed P i a t k t') : Ready P Waiting Differ (i + 1) as t' := by
  refine ⟨hp.keys, fun r hmem hmine => ?_, fun b hb hb0 => ?_⟩
  · rcases (hp.mem r).mp hmem with ⟨hold, hk⟩ | rfl
    · rcases hr.rows r hold hmine with ⟨hw, b, hb, hb0, hbk⟩ | ⟨j, hj, b, hjb, hd⟩
      · rcases List.mem_cons.mp hb with rfl | hb
        · exact absurd (hbk.symm.trans (hp.own hb0).symm) hk
        · exact Or.inl ⟨hw, b, hb, hb0, hbk⟩
      · exact Or.inr ⟨j, by omega, b, hjb, fun c hc => hd c (by simp [hc])⟩
    · exact Or.inr ⟨i, by omega, a, by rw [h.key_make], hdiff⟩
  · obtain ⟨r, hmem, hk, hm, hw⟩ := hr.waiting b (by simp [hb]) hb0
    refine ⟨r, (hp.mem r).mpr (Or.inl ⟨hmem, ?_⟩), hk, hm, hw⟩
    by_cases ha0 : P.itemKey a = 0
    · exact hp.fresh ha0 r hmem
    · rw [hp.own ha0, hk]
      exact ((List.pairwise_cons.mp hkeys).1 b hb ha0).symm

/-- What placing a list of items does. -/
structure AllPlaced (P : Placement ρ α) (i : ℕ) (as : List α) (t : Rows ρ) (ks : List ℤ)
    (t' : Rows ρ) : Prop where
  length : ks.length = as.length
  positive : ∀ k ∈ ks, 0 < k
  own : ∀ p ∈ as.zip ks, P.itemKey p.1 ≠ 0 → p.2 = P.itemKey p.1
  fresh : ∀ p ∈ as.zip ks, P.itemKey p.1 = 0 → ∀ r ∈ t.rows, P.key r ≠ p.2
  new : ∀ p ∈ as.zip ks, P.itemKey p.1 = 0 → (t.sequence : ℤ) < p.2
  nodup : ks.Nodup
  sequence : t.sequence ≤ t'.sequence
  bounded : Bounded P.key t → Bounded P.key t'
  keys : KeysDiffer P.key t'.rows
  mem : ∀ r, r ∈ t'.rows ↔ (r ∈ t.rows ∧ P.key r ∉ ks) ∨
    ∃ j a k, (as.zip ks)[j]? = some (a, k) ∧ r = P.make (i + j) a k

omit [DecidablePred Ok] [DecidableRel Apart] in
lemma AllPlaced.cons (h : Fits Ok Apart P Waiting Differ Good limit) {a : α} {as : List α}
    {t t₁ t' : Rows ρ} {k : ℤ} {ks : List ℤ} (hr : Ready P Waiting Differ i (a :: as) t)
    (hkeys : ItemKeysDiffer P (a :: as)) (hp : Placed P i a t k t₁)
    (hps : AllPlaced P (i + 1) as t₁ ks t') : AllPlaced P i (a :: as) t (k :: ks) t' := by
  have hnew : P.make i a k ∈ t₁.rows := (hp.mem _).mpr (Or.inr rfl)
  have hk : k ∉ ks := by
    intro hk
    obtain ⟨j, hj, hjk⟩ := List.getElem_of_mem hk
    have hj' : j < as.length := hps.length ▸ hj
    have hz : (as[j], k) ∈ as.zip ks := by
      rw [← hjk]
      exact List.mem_iff_getElem.mpr ⟨j, by simp [hj', hj], by simp⟩
    by_cases hb0 : P.itemKey as[j] = 0
    · exact hps.fresh _ hz hb0 _ hnew (h.key_make i a k)
    · have hbk : k = _ := hps.own _ hz hb0
      have hb : as[j] ∈ as := List.getElem_mem _
      by_cases ha0 : P.itemKey a = 0
      · obtain ⟨r, hmem, hrk, -⟩ := hr.waiting _ (List.mem_cons_of_mem _ hb) hb0
        exact hp.fresh ha0 r hmem (hrk.trans hbk.symm)
      · exact (List.pairwise_cons.mp hkeys).1 _ hb ha0 ((hp.own ha0).symm.trans hbk)
  refine ⟨by simp [hps.length], ?_, ?_, ?_, ?_, List.nodup_cons.mpr ⟨hk, hps.nodup⟩,
    hp.sequence.trans hps.sequence, fun hb => hps.bounded (hp.bounded hb), hps.keys, ?_⟩
  · exact List.forall_mem_cons.mpr ⟨hp.positive, hps.positive⟩
  · exact List.forall_mem_cons.mpr ⟨hp.own, hps.own⟩
  · refine List.forall_mem_cons.mpr ⟨hp.fresh, fun p hz h0 r hmem => ?_⟩
    by_cases hrk : P.key r = k
    · have := hps.fresh p hz h0 _ hnew
      rwa [h.key_make, ← hrk] at this
    · exact hps.fresh p hz h0 r ((hp.mem r).mpr (Or.inl ⟨hmem, hrk⟩))
  · refine List.forall_mem_cons.mpr ⟨hp.new, fun p hz h0 => ?_⟩
    have := hps.new p hz h0
    have := hp.sequence
    omega
  · intro r
    rw [hps.mem, hp.mem]
    constructor
    · rintro (⟨⟨hmem, hrk⟩ | rfl, hks⟩ | ⟨j, b, l, hj, rfl⟩)
      · exact Or.inl ⟨hmem, by simp [hrk, hks]⟩
      · exact Or.inr ⟨0, a, k, rfl, rfl⟩
      · exact Or.inr ⟨j + 1, b, l, hj, by rw [show i + 1 + j = i + (j + 1) by omega]⟩
    · rintro (⟨hmem, hrk⟩ | ⟨_ | j, b, l, hj, rfl⟩)
      · rw [List.mem_cons, not_or] at hrk
        exact Or.inl ⟨Or.inl ⟨hmem, hrk.1⟩, hrk.2⟩
      · cases hj
        exact Or.inl ⟨Or.inr rfl, by rwa [h.key_make]⟩
      · exact Or.inr ⟨j, b, l, hj, by rw [show i + 1 + j = i + (j + 1) by omega]⟩

/-- **Items that fit are placed**, whatever their order and the order of the rows. -/
theorem placeAll_spec (h : Fits Ok Apart P Waiting Differ Good limit) {as : List α} {t : Rows ρ}
    (hr : Ready P Waiting Differ i as t) (hgood : ∀ a ∈ as, Good a)
    (hlimit : i + as.length ≤ limit) (hdiff : as.Pairwise fun a b => Differ b a)
    (hpos : ∀ a ∈ as, 0 ≤ P.itemKey a) (hkeys : ItemKeysDiffer P as) :
    ∃ ks t', placeAll Ok Apart P i as t = .ok (ks, t') ∧ AllPlaced P i as t ks t' := by
  induction as generalizing i t with
  | nil => exact ⟨[], t, rfl, ⟨rfl, by simp, by simp, by simp, by simp, by simp, le_rfl, id, hr.keys,
      by simp⟩⟩
  | cons a as ih =>
    rw [List.length_cons] at hlimit
    rw [List.pairwise_cons] at hdiff
    have hgood₁ := hgood a (by simp)
    obtain ⟨k, t₁, hplace, hp⟩ : ∃ k t', place Ok Apart P i a t = .ok (k, t') ∧
        Placed P i a t k t' := by
      rcases (hpos a (by simp)).eq_or_lt with h0 | h0
      · exact place_insert h hr hgood₁ (by omega) h0.symm
      · exact place_update h hr hgood₁ (by omega) h0
    obtain ⟨ks, t', hall, hps⟩ := ih (hr.next h hdiff.1 hkeys hp)
      (fun b hb => hgood b (by simp [hb])) (by omega) hdiff.2
      (fun b hb => hpos b (by simp [hb])) (List.pairwise_cons.mp hkeys).2
    exact ⟨k :: ks, t', by simp [placeAll, hplace, hall], hps.cons h hr hkeys hp⟩

omit [DecidablePred Ok] [DecidableRel Apart] in
/-- When nothing was placed before, exactly the rows of others stay as they were. -/
lemma AllPlaced.stays {as : List α} {t t' : Rows ρ} {ks : List ℤ}
    (hr : Ready P Waiting Differ 0 as t) (h : AllPlaced P 0 as t ks t') {r : ρ}
    (hmem : r ∈ t.rows) : P.key r ∉ ks ↔ P.mine r = false := by
  have hzip : ∀ {j : ℕ} (hj : j < as.length) (hk : j < ks.length), (as[j], ks[j]) ∈ as.zip ks := by
    intro j hj hk
    exact List.mem_iff_getElem.mpr ⟨j, by simp [hj, hk], by simp⟩
  rw [← Bool.not_eq_true, not_iff_not]
  constructor
  · intro hk
    obtain ⟨j, hj, hjk⟩ := List.getElem_of_mem hk
    have hj' : j < as.length := h.length ▸ hj
    have hz := hzip hj' hj
    by_cases h0 : P.itemKey as[j] = 0
    · exact absurd hjk.symm (h.fresh _ hz h0 r hmem)
    · obtain ⟨w, hw, hwk, hwm, -⟩ := hr.waiting _ (List.getElem_mem hj') h0
      have : w = r := hr.keys.eq_of_key hw hmem (hwk.trans ((h.own _ hz h0).symm.trans hjk))
      rwa [← this]
  · intro hm
    rcases hr.rows r hmem hm with ⟨-, a, ha, ha0, hak⟩ | ⟨j, hj, -⟩
    · obtain ⟨j, hj, rfl⟩ := List.getElem_of_mem ha
      have hown : _ = _ := h.own _ (hzip hj (h.length ▸ hj)) ha0
      rw [← hak, ← hown]
      exact List.getElem_mem _
    · omega

end Placing

end CcsTrans.Storage.Table
