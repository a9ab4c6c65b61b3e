import CcsTrans.Runs
import Mathlib.Data.List.InsertIdx
import Mathlib.Data.List.Nodup

/-!
A list that announces its changes row by row, brought to another list by keys.

Rows whose keys are not wanted are removed from the end to the front. Then the wanted rows are
placed one after the other: a row that is not there is inserted, another one is moved to its
place and updated. What has been placed stands in front of what has not, so that a row is only
ever moved to the front.
-/

namespace CcsTrans.Rows

open CcsTrans.Runs

/-! ### What is announced -/

/-- A change of a list, with what is read of the row it is about. A move is recorded when it is asked
for. -/
inductive Change (ι ρ : Type) where
  | remove (row : ℕ)
  | insert (row : ℕ) (item : ι)
  | move (source destination : ℕ)
  | data (row : ℕ) (item : ι) (roles : List ρ)
  | count

/-- Rows are not moved into themselves, nor to where they stand. -/
def moveAllowed (first last destination : ℕ) : Bool :=
  !(decide (first ≤ destination) && decide (destination ≤ last + 1))

/-- The rows of a list, and how they are brought to others: what an item was made of, its key, and which
roles of a row are read again after an update. -/
structure Model (ι δ κ ρ : Type) where
  server : ι → δ
  key : δ → κ
  make : δ → ι
  update : ι → δ → ι × List ρ
  refresh : List ρ → ι → ι → ι
  server_make : ∀ d, server (make d) = d
  server_update : ∀ i d, key (server i) = key d → server (update i d).1 = d
  refresh_update : ∀ i d, key (server i) = key d → refresh (update i d).2 i (update i d).1 = (update i d).1
  unchanged : ∀ i d, key (server i) = key d → (update i d).2 = [] → (update i d).1 = i

variable {ι δ κ ρ : Type} (m : Model ι δ κ ρ)

namespace Model

/-- What someone who shows the list makes of a change. -/
def replay (l : List ι) : Change ι ρ → List ι
  | .remove row => l.eraseIdx row
  | .insert row item => l.insertIdx row item
  | .move source destination =>
    if moveAllowed source source destination then
      match l[source]? with
      | some item => (l.eraseIdx source).insertIdx (if source < destination then destination - 1 else destination) item
      | none => l
    else l
  | .data row item roles => l.modify row (m.refresh roles · item)
  | .count => l

/-- The rows of a change are rows of the list. -/
def InRange (l : List ι) : Change ι ρ → Prop
  | .remove row => row < l.length
  | .insert row _ => row ≤ l.length
  | .move source destination => source < l.length ∧ destination ≤ l.length ∧
      moveAllowed source source destination = true
  | .data row _ _ => row < l.length
  | .count => True

/-- No row goes that is wanted, and no row comes that was there. -/
def Keeps (old : List ι) (desired : List δ) (l : List ι) : Change ι ρ → Prop
  | .remove row => ∀ item, l[row]? = some item → m.key (m.server item) ∉ desired.map m.key
  | .insert _ item => m.key (m.server item) ∉ old.map (m.key ∘ m.server)
  | _ => True

/-- A change as it should be. -/
def Proper (old : List ι) (desired : List δ) (l : List ι) (c : Change ι ρ) : Prop :=
  InRange l c ∧ m.Keeps old desired l c

/-! ### The changes -/

end Model

/-- The rows, and what was announced so far. -/
structure State (ι ρ : Type) where
  items : List ι
  announced : List (Change ι ρ) := []

namespace Model

def indexOfKey [DecidableEq κ] (items : List ι) (key : κ) : Option ℕ :=
  items.findIdx? fun item => m.key (m.server item) = key

def removeItem (row : ℕ) (s : State ι ρ) : State ι ρ :=
  ⟨s.items.eraseIdx row, s.announced ++ [.remove row, .count]⟩

def insertItem (target : ℕ) (d : δ) (s : State ι ρ) : State ι ρ :=
  ⟨s.items.insertIdx target (m.make d), s.announced ++ [.insert target (m.make d), .count]⟩

/-- A move is asked for, and made if it is allowed. -/
def moveItem (source target : ℕ) (s : State ι ρ) : State ι ρ :=
  let destination := if source < target then target + 1 else target
  let announced := s.announced ++ [.move source destination]
  if moveAllowed source source destination then
    match s.items[source]? with
    | some moved => ⟨(s.items.eraseIdx source).insertIdx target moved, announced⟩
    | none => ⟨s.items, announced⟩
  else ⟨s.items, announced⟩

def updateItem (row : ℕ) (d : δ) (s : State ι ρ) : State ι ρ :=
  match s.items[row]? with
  | some current =>
    let (item, changed) := m.update current d
    ⟨s.items.set row item, s.announced ++ if changed.isEmpty then [] else [.data row item changed]⟩
  | none => s

/-- Rows that are not wanted go, those before a row first the last. -/
def removeAbsent [DecidableEq κ] (desired : List δ) : ℕ → State ι ρ → State ι ρ
  | 0, s => s
  | row + 1, s =>
    removeAbsent desired row <|
      match s.items[row]? with
      | some item => if desired.any fun d => m.key d = m.key (m.server item) then s else removeItem row s
      | none => s

/-- What is wanted at a row is brought there. -/
def placeItem [DecidableEq κ] (target : ℕ) (d : δ) (s : State ι ρ) : State ι ρ :=
  match m.indexOfKey s.items (m.key d) with
  | none => m.insertItem target d s
  | some current => m.updateItem target d (if current ≠ target then moveItem current target s else s)

def placeAll [DecidableEq κ] (target : ℕ) : List δ → State ι ρ → State ι ρ
  | [], s => s
  | d :: desired, s => placeAll (target + 1) desired (m.placeItem target d s)

/-- The rows are brought to what is wanted. -/
def apply [DecidableEq κ] (items : List ι) (desired : List δ) : State ι ρ :=
  m.placeAll 0 desired (m.removeAbsent desired items.length ⟨items, []⟩)

/-! ### At a row -/

section Windows

variable {before after : List ι} {item : ι}

lemma getElem?_window : (before ++ item :: after)[before.length]? = some item := by simp

lemma eraseIdx_window : (before ++ item :: after).eraseIdx before.length = before ++ after := by
  rw [List.eraseIdx_append_of_length_le (Nat.le_refl _), Nat.sub_self, List.eraseIdx_cons_zero]

lemma insertIdx_window : (before ++ after).insertIdx before.length item = before ++ item :: after := by
  induction before with
  | nil => rfl
  | cons first before ih => rw [List.cons_append, List.length_cons, List.insertIdx_succ_cons, ih]; rfl

lemma set_window {item' : ι} :
    (before ++ item :: after).set before.length item' = before ++ item' :: after := by
  rw [List.set_append_right _ _ (Nat.le_refl _), Nat.sub_self, List.set_cons_zero]

lemma modify_window {f : ι → ι} :
    (before ++ item :: after).modify before.length f = before ++ f item :: after := by
  induction before with
  | nil => rfl
  | cons first before ih => rw [List.cons_append, List.length_cons, List.modify_succ_cons, ih]; rfl

/-- A row is somewhere. -/
lemma exists_window {l : List ι} {row : ℕ} (h : l[row]? = some item) :
    ∃ before after, l = before ++ item :: after ∧ row = before.length := by
  obtain ⟨hrow, hitem⟩ := List.getElem?_eq_some_iff.mp h
  refine ⟨l.take row, l.drop (row + 1), ?_, (List.length_take_of_le (Nat.le_of_lt hrow)).symm⟩
  rw [← hitem, List.getElem_cons_drop, List.take_append_drop]

end Windows

/-! ### Each change -/

variable {m}

/-- The keys of rows. -/
def keys (m : Model ι δ κ ρ) (items : List ι) : List κ := items.map (m.key ∘ m.server)

@[simp] lemma mem_keys {items : List ι} {k : κ} :
    k ∈ m.keys items ↔ ∃ item ∈ items, m.key (m.server item) = k := by
  simp [keys]

/-- What was announced so far leads from the old rows to these, and each change was as it should be. -/
structure Good (m : Model ι δ κ ρ) (old : List ι) (desired : List δ) (s : State ι ρ) : Prop where
  proper : Along m.replay (m.Proper old desired) old s.announced
  shown : s.announced.foldl m.replay old = s.items
  kept : ∀ k ∈ m.keys old, k ∈ desired.map m.key → k ∈ m.keys s.items

variable {old : List ι} {desired : List δ} {s : State ι ρ}

/-- One change more. -/
lemma Good.change {c : Change ι ρ} {items : List ι} (h : m.Good old desired s)
    (hproper : m.Proper old desired s.items c) (hitems : m.replay s.items c = items)
    (hkept : ∀ k ∈ m.keys s.items, k ∈ desired.map m.key → k ∈ m.keys items) :
    m.Good old desired ⟨items, s.announced ++ [c]⟩ := by
  refine ⟨h.proper.append ⟨?_, trivial⟩, ?_, fun k hk hwanted => hkept k (h.kept k hk hwanted) hwanted⟩
  · rw [h.shown]
    exact hproper
  · change (s.announced ++ [c]).foldl m.replay old = items
    rw [List.foldl_append, h.shown]
    exact hitems

/-- That the number of rows is another one. -/
lemma Good.count (h : m.Good old desired s) : m.Good old desired ⟨s.items, s.announced ++ [.count]⟩ :=
  h.change ⟨trivial, trivial⟩ rfl fun _ hk _ => hk

variable {before after : List ι} {item : ι}

lemma Good.remove (h : m.Good old desired s) (hs : s.items = before ++ item :: after)
    (habsent : m.key (m.server item) ∉ desired.map m.key) :
    m.Good old desired (removeItem before.length s) ∧
      (removeItem before.length s).items = before ++ after := by
  have hitems : s.items.eraseIdx before.length = before ++ after := by rw [hs, eraseIdx_window]
  have hgood : m.Good old desired ⟨before ++ after, s.announced ++ [.remove before.length]⟩ := by
    refine h.change ⟨?_, ?_⟩ hitems fun k hk hwanted => ?_
    · simp [InRange, hs]
    · intro item' hitem'
      rw [hs, getElem?_window, Option.some.injEq] at hitem'
      rwa [← hitem']
    · rw [hs] at hk
      simp only [mem_keys, List.mem_append, List.mem_cons] at hk ⊢
      obtain ⟨item', hmem, rfl⟩ := hk
      rcases hmem with hmem | rfl | hmem
      · exact ⟨item', .inl hmem, rfl⟩
      · exact absurd hwanted habsent
      · exact ⟨item', .inr hmem, rfl⟩
  have hstate : removeItem before.length s =
      ⟨before ++ after, s.announced ++ [.remove before.length] ++ [.count]⟩ := by
    rw [removeItem, hitems, List.append_assoc]
    rfl
  exact ⟨hstate ▸ hgood.count, hitems⟩

lemma Good.insert {d : δ} (h : m.Good old desired s) (hs : s.items = before ++ after)
    (hwanted : m.key d ∈ desired.map m.key) (habsent : m.key d ∉ m.keys s.items) :
    m.Good old desired (m.insertItem before.length d s) ∧
      (m.insertItem before.length d s).items = before ++ m.make d :: after := by
  have hitems : s.items.insertIdx before.length (m.make d) = before ++ m.make d :: after := by
    rw [hs, insertIdx_window]
  have hgood : m.Good old desired
      ⟨before ++ m.make d :: after, s.announced ++ [.insert before.length (m.make d)]⟩ := by
    refine h.change ⟨?_, ?_⟩ hitems fun k hk _ => ?_
    · simp [InRange, hs]
    · intro hold
      rw [m.server_make] at hold
      exact habsent (h.kept _ hold hwanted)
    · rw [hs] at hk
      simp only [mem_keys, List.mem_append, List.mem_cons] at hk ⊢
      obtain ⟨item', hmem, rfl⟩ := hk
      exact ⟨item', hmem.imp_right .inr, rfl⟩
  have hstate : m.insertItem before.length d s =
      ⟨before ++ m.make d :: after, s.announced ++ [.insert before.length (m.make d)] ++ [.count]⟩ := by
    rw [insertItem, hitems, List.append_assoc]
    rfl
  exact ⟨hstate ▸ hgood.count, hitems⟩

/-- A row is moved to the front, past one row at least. -/
lemma Good.move {between : List ι} (h : m.Good old desired s)
    (hs : s.items = before ++ (between ++ item :: after)) (hbetween : between ≠ []) :
    m.Good old desired (moveItem (before.length + between.length) before.length s) ∧
      (moveItem (before.length + between.length) before.length s).items =
        before ++ item :: (between ++ after) := by
  have hs' : s.items = (before ++ between) ++ item :: after := by rw [hs, List.append_assoc]
  have hlength : (before ++ between).length = before.length + between.length := List.length_append
  have hpos : 0 < between.length := List.length_pos_iff.mpr hbetween
  have hallowed : moveAllowed (before.length + between.length) (before.length + between.length)
      before.length = true := by
    rw [moveAllowed, decide_eq_false (by omega), Bool.false_and, Bool.not_false]
  have hfound : s.items[before.length + between.length]? = some item := by
    rw [hs', ← hlength, getElem?_window]
  have hitems : (s.items.eraseIdx (before.length + between.length)).insertIdx before.length item =
      before ++ item :: (between ++ after) := by
    rw [hs', ← hlength, eraseIdx_window, List.append_assoc, insertIdx_window]
  have hdestination : ¬ before.length + between.length < before.length := by omega
  have hstate : moveItem (before.length + between.length) before.length s =
      ⟨before ++ item :: (between ++ after),
        s.announced ++ [.move (before.length + between.length) before.length]⟩ := by
    unfold moveItem
    rw [if_neg hdestination]
    dsimp only
    rw [if_pos hallowed, hfound]
    dsimp only
    rw [hitems]
  rw [hstate]
  refine ⟨h.change ⟨⟨?_, ?_, hallowed⟩, trivial⟩ ?_ fun k hk _ => ?_, rfl⟩
  · rw [hs']
    simp
  · rw [hs]
    simp
  · unfold replay
    dsimp only
    rw [if_pos hallowed, hfound]
    dsimp only
    rw [if_neg hdestination, hitems]
  · rw [hs] at hk
    simp only [mem_keys, List.mem_append, List.mem_cons] at hk ⊢
    obtain ⟨item', hmem, rfl⟩ := hk
    exact ⟨item', by tauto, rfl⟩

lemma Good.update {d : δ} (h : m.Good old desired s) (hs : s.items = before ++ item :: after)
    (hkey : m.key (m.server item) = m.key d) :
    m.Good old desired (m.updateItem before.length d s) ∧
      (m.updateItem before.length d s).items = before ++ (m.update item d).1 :: after := by
  have hfound : s.items[before.length]? = some item := by rw [hs, getElem?_window]
  have hitems : s.items.set before.length (m.update item d).1 =
      before ++ (m.update item d).1 :: after := by rw [hs, set_window]
  have hstate : m.updateItem before.length d s = ⟨before ++ (m.update item d).1 :: after,
      s.announced ++ if (m.update item d).2.isEmpty then []
        else [.data before.length (m.update item d).1 (m.update item d).2]⟩ := by
    unfold updateItem
    rw [hfound]
    dsimp only
    rw [hitems]
  refine ⟨?_, by rw [hstate]⟩
  rw [hstate]
  split_ifs with hempty
  · -- no role is another one, and neither is the row
    rw [m.unchanged item d hkey (List.isEmpty_iff.mp hempty), ← hs, List.append_nil]
    exact h
  · refine h.change ⟨?_, trivial⟩ ?_ fun k hk _ => ?_
    · simp [InRange, hs]
    · unfold replay
      dsimp only
      rw [hs, modify_window, m.refresh_update item d hkey]
    · rw [hs] at hk
      simp only [mem_keys, List.mem_append, List.mem_cons] at hk ⊢
      obtain ⟨item', hmem, rfl⟩ := hk
      rcases hmem with hmem | rfl | hmem
      · exact ⟨item', .inl hmem, rfl⟩
      · exact ⟨_, .inr (.inl rfl), by rw [m.server_update _ _ hkey, hkey]⟩
      · exact ⟨item', .inr (.inr hmem), rfl⟩

/-! ### Whole runs -/

section Runs

variable [DecidableEq κ]

/-- What is not wanted goes, from the end to the front. -/
lemma removeAbsent_good {row : ℕ} (h : m.Good old desired s) (hrow : row ≤ s.items.length)
    (hdone : ∀ item ∈ s.items.drop row, m.key (m.server item) ∈ desired.map m.key)
    (hnodup : (m.keys s.items).Nodup) :
    m.Good old desired (m.removeAbsent desired row s) ∧
      (∀ item ∈ (m.removeAbsent desired row s).items, m.key (m.server item) ∈ desired.map m.key) ∧
      (m.keys (m.removeAbsent desired row s).items).Nodup := by
  induction row generalizing s with
  | zero =>
    rw [List.drop_zero] at hdone
    exact ⟨h, hdone, hnodup⟩
  | succ row ih =>
    obtain ⟨before, item, after, hs, rfl⟩ : ∃ before item after,
        s.items = before ++ item :: after ∧ row = before.length := by
      obtain ⟨before, after, hs, hlength⟩ := exists_window (List.getElem?_eq_getElem hrow)
      exact ⟨before, _, after, hs, hlength⟩
    have hfound : s.items[before.length]? = some item := by rw [hs, getElem?_window]
    have hafter : ∀ item ∈ after, m.key (m.server item) ∈ desired.map m.key := by
      simpa [hs] using hdone
    have hany : desired.any (fun d => m.key d = m.key (m.server item)) =
        decide (m.key (m.server item) ∈ desired.map m.key) := by
      rw [Bool.eq_iff_iff]
      simp
    rw [removeAbsent, hfound]
    dsimp only
    rw [hany]
    by_cases hwanted : m.key (m.server item) ∈ desired.map m.key
    · rw [decide_eq_true hwanted, if_pos rfl]
      refine ih h (by omega) (fun item' hmem => ?_) hnodup
      have hdrop : s.items.drop before.length = item :: after := by rw [hs, List.drop_left]
      rw [hdrop] at hmem
      rcases List.mem_cons.mp hmem with rfl | hmem
      · exact hwanted
      · exact hafter _ hmem
    · rw [decide_eq_false hwanted, if_neg Bool.false_ne_true]
      obtain ⟨hgood, hitems⟩ := h.remove hs hwanted
      refine ih hgood ?_ ?_ ?_
      · rw [hitems]
        simp
      · rw [hitems, List.drop_left]
        exact hafter
      · rw [hitems]
        rw [hs] at hnodup
        exact hnodup.sublist (((List.sublist_cons_self item after).append_left before).map _)

lemma indexOfKey_append {front rest : List ι} {k : κ} (h : k ∉ m.keys front) :
    m.indexOfKey (front ++ rest) k = (m.indexOfKey rest k).map (· + front.length) := by
  have hnone : front.findIdx? (fun item => m.key (m.server item) = k) = none := by
    rw [List.findIdx?_eq_none_iff]
    intro item hmem
    exact decide_eq_false fun hkey => h (mem_keys.mpr ⟨item, hmem, hkey⟩)
  rw [indexOfKey, List.findIdx?_append, hnone, Option.none_or, indexOfKey]

/-- One row is brought to its place: what stood in front still does, and of the others the rest is
left. -/
lemma placeItem_good {front rest : List ι} {d : δ} (h : m.Good old desired s)
    (hs : s.items = front ++ rest) (hwanted : m.key d ∈ desired.map m.key)
    (hfront : m.key d ∉ m.keys front) :
    m.Good old desired (m.placeItem front.length d s) ∧ ∃ item rest',
      (m.placeItem front.length d s).items = front ++ item :: rest' ∧ m.server item = d ∧
      (rest' = rest ∧ m.key d ∉ m.keys rest ∨
        ∃ before row after, rest = before ++ row :: after ∧ rest' = before ++ after ∧
          m.key (m.server row) = m.key d) := by
  have hindex : m.indexOfKey s.items (m.key d) = (m.indexOfKey rest (m.key d)).map (· + front.length) := by
    rw [hs, indexOfKey_append hfront]
  cases hrest : m.indexOfKey rest (m.key d) with
  | none =>
    have habsent : m.key d ∉ m.keys rest := by
      rw [indexOfKey, List.findIdx?_eq_none_iff] at hrest
      rintro hkey
      obtain ⟨row, hmem, hkey⟩ := mem_keys.mp hkey
      exact of_decide_eq_false (hrest row hmem) hkey
    have hitems : m.key d ∉ m.keys s.items := by
      rw [hs, keys, List.map_append, List.mem_append]
      exact fun hkey => hkey.elim hfront habsent
    rw [placeItem, hindex, hrest]
    dsimp only [Option.map_none]
    obtain ⟨hgood, hinserted⟩ := h.insert hs hwanted hitems
    exact ⟨hgood, m.make d, rest, hinserted, m.server_make d, .inl ⟨rfl, habsent⟩⟩
  | some i =>
    obtain ⟨hi, hkey, -⟩ := List.findIdx?_eq_some_iff_getElem.mp hrest
    obtain ⟨before, after, hwindow, rfl⟩ := exists_window (List.getElem?_eq_getElem hi)
    have hkey := of_decide_eq_true hkey
    rw [placeItem, hindex, hrest]
    dsimp only [Option.map_some]
    generalize rest[before.length] = row at hwindow hkey
    -- the row is brought to the place, if it is not there
    have hmoved : ∃ s', s' = (if before.length + front.length ≠ front.length then
        moveItem (before.length + front.length) front.length s else s) ∧ m.Good old desired s' ∧
        s'.items = front ++ row :: (before ++ after) := by
      refine ⟨_, rfl, ?_⟩
      cases before with
      | nil =>
        rw [if_neg (by simp)]
        exact ⟨h, by rw [hs, hwindow]; rfl⟩
      | cons first before =>
        rw [if_pos (by simp), Nat.add_comm]
        exact h.move (by rw [hs, hwindow]) (List.cons_ne_nil _ _)
    obtain ⟨s', hs', hgood, hitems⟩ := hmoved
    rw [← hs']
    obtain ⟨hgood', hitems'⟩ := hgood.update hitems hkey
    exact ⟨hgood', _, _, hitems', m.server_update _ _ hkey, .inr ⟨before, row, after, hwindow, rfl, hkey⟩⟩

/-- What is placed stands in front, in its order; what is not placed yet is wanted. -/
lemma placeAll_good {wanted : List δ} {front rest : List ι} (h : m.Good old desired s)
    (hs : s.items = front ++ rest) (hwanted : wanted.map m.key ⊆ desired.map m.key)
    (hnodup : (wanted.map m.key).Nodup) (hfront : ∀ k ∈ wanted.map m.key, k ∉ m.keys front)
    (hrest : m.keys rest ⊆ wanted.map m.key) (hkeys : (m.keys rest).Nodup) :
    m.Good old desired (m.placeAll front.length wanted s) ∧ ∃ placed,
      (m.placeAll front.length wanted s).items = front ++ placed ∧ placed.map m.server = wanted := by
  induction wanted generalizing s front rest with
  | nil =>
    have hempty : rest = [] := by
      cases rest with
      | nil => rfl
      | cons row rest => exact absurd (hrest List.mem_cons_self) List.not_mem_nil
    subst hempty
    exact ⟨h, [], hs, rfl⟩
  | cons d wanted ih =>
    rw [List.map_cons] at hwanted hnodup hfront hrest
    rw [List.nodup_cons] at hnodup
    obtain ⟨hgood, item, rest', hitems, hserver, hcases⟩ :=
      placeItem_good h hs (hwanted List.mem_cons_self) (hfront _ List.mem_cons_self)
    have hleft : (m.keys rest').Nodup ∧ m.keys rest' ⊆ m.keys rest ∧ m.key d ∉ m.keys rest' := by
      rcases hcases with ⟨rfl, habsent⟩ | ⟨before, row, after, rfl, rfl, hkey⟩
      · exact ⟨hkeys, List.Subset.refl _, habsent⟩
      · rw [keys, List.map_append, List.map_cons] at hkeys
        have hsublist : (m.keys (before ++ after)).Sublist (m.keys (before ++ row :: after)) :=
          ((List.sublist_cons_self row after).append_left before).map _
        refine ⟨?_, hsublist.subset, ?_⟩
        · rw [keys, List.map_append]
          exact hkeys.sublist ((List.sublist_cons_self _ _).append_left _)
        · rw [← hkey, keys, List.map_append]
          exact (List.nodup_middle.mp hkeys).notMem
    obtain ⟨hnodup', hsubset, habsent⟩ := hleft
    have hlength : front.length + 1 = (front ++ [item]).length := by simp
    have hitems' : (m.placeItem front.length d s).items = (front ++ [item]) ++ rest' := by
      rw [hitems, List.append_assoc, List.singleton_append]
    rw [placeAll, hlength]
    obtain ⟨hgood', placed, hplaced, hserver'⟩ := ih hgood hitems'
      (fun k hk => hwanted (List.mem_cons_of_mem _ hk)) hnodup.2
      (by
        intro k hk hmem
        rw [keys, List.map_append, List.mem_append] at hmem
        rcases hmem with hmem | hmem
        · exact hfront k (List.mem_cons_of_mem _ hk) hmem
        · simp only [List.map_cons, List.map_nil, List.mem_singleton, Function.comp_apply, hserver] at hmem
          exact hnodup.1 (hmem ▸ hk))
      (by
        intro k hk
        rcases List.mem_cons.mp (hrest (hsubset hk)) with rfl | hk'
        · exact absurd hk habsent
        · exact hk')
      hnodup'
    exact ⟨hgood', item :: placed, by rw [hplaced, List.append_assoc]; rfl,
      by rw [List.map_cons, hserver, hserver']⟩

/-- **Keyed rows converge.** From any rows with distinct keys to any that are wanted with distinct keys:
every announced change is in range and leaves alone what is in both, and what is announced
leads from the old rows to the new ones, which are those that are wanted. -/
lemma apply_good (hold : (m.keys old).Nodup) (hdesired : (desired.map m.key).Nodup) :
    m.Good old desired (m.apply old desired) ∧ (m.apply old desired).items.map m.server = desired := by
  have hstart : m.Good old desired ⟨old, []⟩ := ⟨trivial, rfl, fun _ hk _ => hk⟩
  obtain ⟨hgood, hwanted, hnodup⟩ := removeAbsent_good hstart (Nat.le_refl old.length) (by simp) hold
  obtain ⟨hgood', placed, hitems, hserver⟩ := placeAll_good hgood (List.nil_append _).symm
    (List.Subset.refl _) hdesired (by simp [keys])
    (by
      intro k hk
      obtain ⟨item, hmem, rfl⟩ := mem_keys.mp hk
      exact hwanted item hmem)
    hnodup
  refine ⟨hgood', ?_⟩
  calc (m.apply old desired).items.map m.server
    _ = placed.map m.server := congrArg (List.map m.server) hitems
    _ = desired := hserver

end Runs

end Model

end CcsTrans.Rows
