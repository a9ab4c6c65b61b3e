import CcsTrans.Json.Length

/-!
How long the indented text of a value is.
-/

namespace CcsTrans.Json

open CcsTrans.Text CcsTrans.Fallible

variable [Library]

mutual

/-- The length of the text of a value, indented by two spaces a level, from a column on. -/
def laidOut (column : ℕ) : Value → ℕ
  | .null => 4
  | .bool b => if b then 4 else 5
  | .int n => (decimalInt n.toInt).length
  | .uint n => (decimal n.toNat).length
  | .float d => if d.isFinite then (Library.toChars d).length else 4
  | .str s => (escape s).length + 2
  | .arr xs => if xs.isEmpty then 2 else column + 2 + laidOutItems (column + 2) xs
  | .obj ms => if ms.isEmpty then 2 else column + 2 + laidOutMembers (column + 2) ms

/-- Every element has its line and what stands in front of the line. -/
def laidOutItems (column : ℕ) : List Value → ℕ
  | [] => 0
  | x :: xs => column + 2 + laidOut column x + laidOutItems column xs

def laidOutMembers (column : ℕ) : List (Bytes × Value) → ℕ
  | [] => 0
  | (k, v) :: ms => column + 2 + ((escape k).length + 4) + laidOut column v + laidOutMembers column ms

end

omit [Library] in
lemma length_dumpString {s u : Bytes} (h : dumpString s = some u) : u.length = (escape s).length + 2 := by
  unfold dumpString at h
  split_ifs at h
  cases h
  rw [List.length_cons, List.length_append, List.length_singleton]

omit [Library] in
lemma length_indentation (n : ℕ) : (indentation (some 2) n).length = n + 1 := by
  rw [indentation, Option.isSome_some, if_pos rfl, List.length_cons, List.length_replicate]

section Parts

variable {column : ℕ} {u : Bytes}

lemma length_dumpItems_pretty {xs : List Value}
    (hxs : ∀ x ∈ xs, ∀ w, dumpAt (some 2) column x = some w → w.length = laidOut column x)
    (h : dumpItems (some 2) column xs = some u) : u.length = laidOutItems column xs := by
  induction xs generalizing u with
  | nil =>
    cases h
    rfl
  | cons x xs ih =>
    simp only [dumpItems, Option.bind_eq_bind, Option.bind_eq_some_iff] at h
    obtain ⟨first, hfirst, rest, hrest, h⟩ := h
    cases h
    have hx := hxs x List.mem_cons_self first hfirst
    have hxs := ih (fun y hy => hxs y (List.mem_cons_of_mem _ hy)) hrest
    rw [laidOutItems, List.length_cons, List.length_append, List.length_append, length_indentation]
    omega

lemma length_dumpMembers_pretty {ms : List (Bytes × Value)}
    (hms : ∀ m ∈ ms, ∀ w, dumpAt (some 2) column m.2 = some w → w.length = laidOut column m.2)
    (h : dumpMembers (some 2) column ms = some u) : u.length = laidOutMembers column ms := by
  induction ms generalizing u with
  | nil =>
    cases h
    rfl
  | cons m ms ih =>
    obtain ⟨k, v⟩ := m
    simp only [dumpMembers, Option.bind_eq_bind, Option.bind_eq_some_iff] at h
    obtain ⟨name, hname, first, hfirst, rest, hrest, h⟩ := h
    cases h
    have hk := length_dumpString hname
    have hv : first.length = laidOut column v := hms (k, v) List.mem_cons_self first hfirst
    have hms := ih (fun n hn => hms n (List.mem_cons_of_mem _ hn)) hrest
    simp only [laidOutMembers, colon, Option.isSome_some, if_true, List.length_cons, List.length_append,
      List.length_nil, length_indentation]
    omega

end Parts

/-- **The length of the indented text.** -/
theorem length_dumpAt_pretty {v : Value} {column : ℕ} {u : Bytes}
    (h : dumpAt (some 2) column v = some u) : u.length = laidOut column v := by
  induction v using Value.induction generalizing column u with
  | null =>
    cases h
    rfl
  | bool b => cases b <;> cases h <;> rfl
  | int n =>
    cases h
    rfl
  | uint n =>
    cases h
    rfl
  | float d =>
    cases h
    rw [laidOut]
    split_ifs <;> rfl
  | str s => exact length_dumpString h
  | arr xs ih =>
    cases xs with
    | nil =>
      cases h
      rfl
    | cons x xs =>
      simp only [dumpAt, Option.bind_eq_bind, Option.bind_eq_some_iff, Option.getD_some] at h
      obtain ⟨first, hfirst, rest, hrest, h⟩ := h
      cases h
      have hx := ih x List.mem_cons_self hfirst
      have hxs := length_dumpItems_pretty (fun y hy w hw => ih y (List.mem_cons_of_mem _ hy) hw) hrest
      simp only [laidOut, laidOutItems, List.isEmpty_cons, Bool.false_eq_true, if_false, List.length_cons,
        List.length_append, List.length_nil, length_indentation]
      omega
  | obj ms ih =>
    cases ms with
    | nil =>
      cases h
      rfl
    | cons m ms =>
      obtain ⟨k, v⟩ := m
      simp only [dumpAt, Option.bind_eq_bind, Option.bind_eq_some_iff, Option.getD_some] at h
      obtain ⟨name, hname, first, hfirst, rest, hrest, h⟩ := h
      cases h
      have hk := length_dumpString hname
      have hv : first.length = laidOut (column + 2) v := ih (k, v) List.mem_cons_self hfirst
      have hms := length_dumpMembers_pretty (fun n hn w hw => ih n (List.mem_cons_of_mem _ hn) hw) hrest
      simp only [laidOut, laidOutMembers, colon, List.isEmpty_cons, Bool.false_eq_true, if_false,
        Option.isSome_some, if_true, List.length_cons, List.length_append, List.length_nil, length_indentation]
      omega

/-- A value and what its text denotes are laid out alike. -/
lemma laidOut_canon {v : Value} (h : Writable (canon v)) (column : ℕ) :
    laidOut column (canon v) = laidOut column v := by
  obtain ⟨u, hu⟩ := dumpAt_writable h (some 2) column
  rw [← length_dumpAt_pretty hu, ← length_dumpAt_pretty ((dumpAt_canon _ _ v).symm.trans hu)]

end CcsTrans.Json
