import CcsTrans.Rules.Pipeline

/-!
The tools that are left.

The rule removes elements by moving the others to the front of the array and cutting off the
rest. What is left is what does not match, in its order, whatever the array was; a second run
finds nothing to remove, and two runs for two names may be in either order.
-/

namespace CcsTrans.Rules

open CcsTrans.Text CcsTrans.Json CcsTrans.Config CcsTrans.Protocols CcsTrans.Fallible

/-! ### Removing in place -/

section RemoveIf

variable {α : Type}

/-- An array on the way: its first elements are those kept so far. -/
structure Removing (α : Type) where
  array : List α
  kept : ℕ := 0
  removed : ℕ := 0

/-- The element of index `first`; one that is moved leaves `moved` behind. -/
def removeIfStep (p : α → Bool) (moved : α) (s : Removing α) (first : ℕ) : Removing α :=
  match s.array[first]? with
  | none => s
  | some x =>
    if p x then { s with removed := s.removed + 1 }
    else if s.kept = first then { s with kept := s.kept + 1 }
    else { s with array := (s.array.set s.kept x).set first moved, kept := s.kept + 1 }

/-- `std::remove_if` with a predicate that counts. -/
def removeIf (p : α → Bool) (moved : α) (xs : List α) : Removing α :=
  (List.range xs.length).foldl (removeIfStep p moved) ⟨xs, 0, 0⟩

/-- What is known when `n` elements were looked at. -/
structure Kept (p : α → Bool) (xs : List α) (n : ℕ) (s : Removing α) : Prop where
  length : s.array.length = xs.length
  front : s.array.take s.kept = (xs.take n).filter fun x => !p x
  rest : s.array.drop n = xs.drop n
  removed : s.removed = (xs.take n).countP p
  total : s.kept + s.removed = n

lemma Kept.step {p : α → Bool} {moved : α} {xs : List α} {n : ℕ} {s : Removing α}
    (h : Kept p xs n s) (hn : n < xs.length) : Kept p xs (n + 1) (removeIfStep p moved s n) := by
  have hget : s.array[n]? = some xs[n] := by
    have hdrop := congrArg (fun l => l[0]?) h.rest
    simpa [List.getElem?_eq_getElem hn] using hdrop
  have hn' : n < s.array.length := by rw [h.length]; exact hn
  have htake : xs.take (n + 1) = xs.take n ++ [xs[n]] := (List.take_append_getElem hn).symm
  have hfront : (xs.take (n + 1)).filter (fun x => !p x) =
      s.array.take s.kept ++ [xs[n]].filter fun x => !p x := by
    rw [htake, List.filter_append, h.front]
  have hremoved : (xs.take (n + 1)).countP p = s.removed + [xs[n]].countP p := by
    rw [htake, List.countP_append, h.removed]
  have hrest : s.array.drop (n + 1) = xs.drop (n + 1) := by
    rw [← List.drop_drop, ← List.drop_drop, h.rest]
  have htotal := h.total
  unfold removeIfStep
  rw [hget]
  dsimp only
  by_cases hp : p xs[n] = true
  · rw [if_pos hp]
    refine ⟨h.length, ?_, hrest, ?_, by dsimp only; omega⟩
    · rw [hfront]
      simp [hp]
    · rw [hremoved]
      simp [hp]
  · rw [if_neg hp]
    have hcount : s.removed = (xs.take (n + 1)).countP p := by
      rw [hremoved]
      simp [hp]
    have hlast : (xs.take (n + 1)).filter (fun x => !p x) = s.array.take s.kept ++ [xs[n]] := by
      rw [hfront]
      simp [hp]
    by_cases hk : s.kept = n
    · rw [if_pos hk]
      refine ⟨h.length, ?_, hrest, hcount, by dsimp only; omega⟩
      have hsame : s.array[n] = xs[n] := by
        rw [List.getElem?_eq_getElem hn'] at hget
        exact Option.some.inj hget
      rw [hlast, hk, ← hsame]
      exact (List.take_append_getElem hn').symm
    · rw [if_neg hk]
      have hlt : s.kept < n := by omega
      refine ⟨by simp [h.length], ?_, ?_, hcount, by dsimp only; omega⟩
      · dsimp only
        rw [hlast, List.take_set_of_le (by omega), List.take_succ_eq_append_getElem (by simp; omega),
          List.take_set_of_le le_rfl, List.getElem_set_self]
      · dsimp only
        rw [List.drop_set_of_lt (by omega), List.drop_set_of_lt (by omega), hrest]

lemma kept_removeIf (p : α → Bool) (moved : α) (xs : List α) :
    Kept p xs xs.length (removeIf p moved xs) := by
  have hrun : ∀ n ≤ xs.length,
      Kept p xs n ((List.range n).foldl (removeIfStep p moved) ⟨xs, 0, 0⟩) := by
    intro n
    induction n with
    | zero => exact fun _ => ⟨rfl, by simp, rfl, by simp, rfl⟩
    | succ n ih =>
      intro hn
      rw [List.range_succ, List.foldl_append]
      exact (ih (by omega)).step (by omega)
  exact hrun xs.length le_rfl

/-- **What is kept is what does not match, in its order.** -/
lemma take_removeIf (p : α → Bool) (moved : α) (xs : List α) :
    (removeIf p moved xs).array.take (removeIf p moved xs).kept = xs.filter fun x => !p x := by
  simpa using (kept_removeIf p moved xs).front

lemma removed_removeIf (p : α → Bool) (moved : α) (xs : List α) :
    (removeIf p moved xs).removed = xs.countP p := by
  simpa using (kept_removeIf p moved xs).removed

/-- Nothing is moved when nothing matches. -/
lemma array_removeIf {p : α → Bool} {moved : α} {xs : List α}
    (h : (removeIf p moved xs).removed = 0) : (removeIf p moved xs).array = xs.filter fun x => !p x := by
  have hkept := kept_removeIf p moved xs
  have hall : (removeIf p moved xs).array.length ≤ (removeIf p moved xs).kept := by
    rw [hkept.length, ← hkept.total, h, Nat.add_zero]
  rw [← take_removeIf p moved xs, List.take_of_length_le hall]

end RemoveIf

/-! ### The rule -/

variable (layout : ToolLayout) (toolName : Bytes)

/-- The members with the tools that do not match. -/
def withoutTool (ms : List (Bytes × Value)) : List (Bytes × Value) :=
  match find (str "tools") ms with
  | some (.arr tools) =>
    replace (str "tools") (.arr (tools.filter fun t => !matchesTool layout toolName t)) ms
  | _ => ms

/-- What the rule reports of an array of tools. -/
def removedFrom (tools : List Value) : RuleApplyResult :=
  let removed := tools.countP (matchesTool layout toolName)
  if removed = 0 then ⟨false, false, str "tool_not_found", ⟨str "/tools", 0⟩⟩
  else ⟨true, true, str "tool_removed", ⟨str "/tools", removed⟩⟩

variable {layout toolName} {ms : List (Bytes × Value)} {tools : List Value}

lemma withoutTool_array (h : find (str "tools") ms = some (.arr tools)) :
    withoutTool layout toolName ms =
      replace (str "tools") (.arr (tools.filter fun t => !matchesTool layout toolName t)) ms := by
  rw [withoutTool, h]

lemma withoutTool_other (h : ∀ tools, find (str "tools") ms ≠ some (.arr tools)) :
    withoutTool layout toolName ms = ms := by
  unfold withoutTool
  split
  · next tools htools => exact absurd htools (h tools)
  · rfl

lemma removeTool_array (h : find (str "tools") ms = some (.arr tools)) :
    removeTool layout toolName (.obj ms) =
      .ok (removedFrom layout toolName tools, .obj (withoutTool layout toolName ms)) := by
  rw [withoutTool_array h]
  simp only [removeTool, h, ← List.countP_eq_length_filter, removedFrom]
  by_cases h0 : tools.countP (matchesTool layout toolName) = 0
  · have hall : tools.filter (fun t => !matchesTool layout toolName t) = tools := by
      rw [List.countP_eq_zero] at h0
      exact List.filter_eq_self.mpr fun t ht => by simp [h0 t ht]
    rw [if_pos h0, if_pos h0, hall, replace_find h]
  · rw [if_neg h0, if_neg h0]

/-- The rule as the loop over the array has it. -/
lemma removeTool_inPlace (h : find (str "tools") ms = some (.arr tools)) :
    let s := removeIf (matchesTool layout toolName) .null tools
    removeTool layout toolName (.obj ms) =
      if s.removed = 0 then
        .ok (⟨false, false, str "tool_not_found", ⟨str "/tools", 0⟩⟩,
          .obj (replace (str "tools") (.arr s.array) ms))
      else
        .ok (⟨true, true, str "tool_removed", ⟨str "/tools", s.removed⟩⟩,
          .obj (replace (str "tools") (.arr (s.array.take s.kept)) ms)) := by
  dsimp only
  rw [removeTool_array h, withoutTool_array h, removedFrom, take_removeIf,
    ← removed_removeIf (matchesTool layout toolName) .null]
  split_ifs with h0
  · rw [array_removeIf h0]
  · rfl

lemma removeTool_other (h : ∀ tools, find (str "tools") ms ≠ some (.arr tools)) :
    ∃ r, removeTool layout toolName (.obj ms) = .ok (r, .obj ms) ∧ r.modified = false ∧
      r.summary.affectedCount = 0 := by
  rw [removeTool]
  split
  · exact ⟨_, rfl, rfl, rfl⟩
  · next tools htools => exact absurd htools (h tools)
  · exact ⟨_, rfl, rfl, rfl⟩

lemma transform_removeToolRule (id : Bytes) (ms : List (Bytes × Value)) :
    (removeToolRule id layout toolName).transform (.obj ms) =
      some (.obj (withoutTool layout toolName ms)) := by
  by_cases h : ∃ tools, find (str "tools") ms = some (.arr tools)
  · obtain ⟨tools, h⟩ := h
    simp only [CompiledRule.transform, removeToolRule, atomically, removeTool_array h]
  · have hother : ∀ tools, find (str "tools") ms ≠ some (.arr tools) := fun t ht => h ⟨t, ht⟩
    obtain ⟨r, hr, -⟩ := @removeTool_other layout toolName ms hother
    simp only [CompiledRule.transform, removeToolRule, atomically, hr, withoutTool_other hother]

lemma replace_replace {k : Bytes} {v w : Value} (ms : List (Bytes × Value)) :
    replace k w (replace k v ms) = replace k w ms := by
  induction ms with
  | nil => rfl
  | cons m ms ih =>
    obtain ⟨l, x⟩ := m
    rw [replace]
    split_ifs with hk
    · rw [replace, replace, if_pos hk, if_pos hk]
    · rw [replace, if_neg hk, ih, replace, if_neg hk]

lemma find_tools_withoutTool (h : find (str "tools") ms = some (.arr tools)) :
    find (str "tools") (withoutTool layout toolName ms) =
      some (.arr (tools.filter fun t => !matchesTool layout toolName t)) := by
  rw [withoutTool_array h, find_replace, if_pos ⟨rfl, by simp [contains, h]⟩]

/-- Two names after each other. -/
lemma withoutTool_twice (other : Bytes) (h : find (str "tools") ms = some (.arr tools)) :
    withoutTool layout other (withoutTool layout toolName ms) = replace (str "tools") (.arr
      (tools.filter fun t => !matchesTool layout other t && !matchesTool layout toolName t)) ms := by
  rw [withoutTool_array (find_tools_withoutTool h), withoutTool_array h, replace_replace,
    List.filter_filter]

lemma withoutTool_comm (other : Bytes) (ms : List (Bytes × Value)) :
    withoutTool layout other (withoutTool layout toolName ms) =
      withoutTool layout toolName (withoutTool layout other ms) := by
  by_cases h : ∃ tools, find (str "tools") ms = some (.arr tools)
  · obtain ⟨tools, h⟩ := h
    rw [withoutTool_twice other h, withoutTool_twice toolName h]
    simp only [Bool.and_comm]
  · have hother : ∀ tools, find (str "tools") ms ≠ some (.arr tools) := fun t ht => h ⟨t, ht⟩
    rw [withoutTool_other hother, withoutTool_other hother, withoutTool_other hother]

lemma withoutTool_idem (ms : List (Bytes × Value)) :
    withoutTool layout toolName (withoutTool layout toolName ms) =
      withoutTool layout toolName ms := by
  by_cases h : ∃ tools, find (str "tools") ms = some (.arr tools)
  · obtain ⟨tools, h⟩ := h
    rw [withoutTool_twice toolName h, withoutTool_array h]
    simp only [Bool.and_self]
  · have hother : ∀ tools, find (str "tools") ms ≠ some (.arr tools) := fun t ht => h ⟨t, ht⟩
    rw [withoutTool_other hother, withoutTool_other hother]

/-- A body from which the tools of a name were filtered, as it is reported. -/
structure Filtered (layout : ToolLayout) (toolName : Bytes) (ms ms' : List (Bytes × Value))
    (r : RuleApplyResult) : Prop where
  names : ms'.map Prod.fst = ms.map Prod.fst
  others : ∀ k, k ≠ str "tools" → find k ms' = find k ms
  tools : ∀ tools, find (str "tools") ms = some (.arr tools) →
    find (str "tools") ms' = some (.arr (tools.filter fun t => !matchesTool layout toolName t)) ∧
    (r.modified = true ↔ ∃ t ∈ tools, matchesTool layout toolName t = true) ∧
    r.summary.affectedCount = tools.countP (matchesTool layout toolName)
  noTools : (∀ tools, find (str "tools") ms ≠ some (.arr tools)) →
    ms' = ms ∧ r.modified = false ∧ r.summary.affectedCount = 0

lemma filtered_array (h : find (str "tools") ms = some (.arr tools)) :
    Filtered layout toolName ms (withoutTool layout toolName ms)
      (removedFrom layout toolName tools) where
  names := by rw [withoutTool_array h, map_fst_replace]
  others k hk := by rw [withoutTool_array h, find_replace, if_neg fun hn => hk hn.1]
  tools ts hts := by
    rw [h] at hts
    cases hts
    refine ⟨find_tools_withoutTool h, ?_, ?_⟩
    · rw [← List.countP_pos_iff, removedFrom]
      split_ifs with h0
      · simp [h0]
      · simpa using Nat.pos_of_ne_zero h0
    · rw [removedFrom]
      split_ifs with h0
      · exact h0.symm
      · rfl
  noTools hno := absurd h (hno tools)

lemma filtered_other (h : ∀ tools, find (str "tools") ms ≠ some (.arr tools)) {r : RuleApplyResult}
    (hm : r.modified = false) (hc : r.summary.affectedCount = 0) :
    Filtered layout toolName ms ms r where
  names := rfl
  others _ _ := rfl
  tools ts hts := absurd hts (h ts)
  noTools _ := ⟨rfl, hm, hc⟩

/-- **Removing a tool is a stable filter.** For every object, layout and name: what matches is gone,
what does not stays in its order, everything else is as before, and the report counts what is
gone. Twice is once, and the order of two names does not matter. -/
theorem remove_tool_filters (layout : ToolLayout) (id toolName : Bytes)
    (ms : List (Bytes × Value)) :
    (∃ r ms', (removeToolRule id layout toolName).apply (.obj ms) = (.ok r, .obj ms') ∧
      Filtered layout toolName ms ms' r) ∧
    fold [removeToolRule id layout toolName, removeToolRule id layout toolName] (.obj ms) =
      fold [removeToolRule id layout toolName] (.obj ms) ∧
    ∀ id' other,
      fold [removeToolRule id layout toolName, removeToolRule id' layout other] (.obj ms) =
        fold [removeToolRule id' layout other, removeToolRule id layout toolName] (.obj ms) := by
  refine ⟨?_, ?_, fun id' other => ?_⟩
  · by_cases h : ∃ tools, find (str "tools") ms = some (.arr tools)
    · obtain ⟨tools, h⟩ := h
      refine ⟨_, _, ?_, filtered_array h⟩
      simp only [removeToolRule, atomically, removeTool_array h]
    · have hother : ∀ tools, find (str "tools") ms ≠ some (.arr tools) := fun t ht => h ⟨t, ht⟩
      obtain ⟨r, hr, hm, hc⟩ := @removeTool_other layout toolName ms hother
      refine ⟨r, ms, ?_, filtered_other hother hm hc⟩
      simp only [removeToolRule, atomically, hr]
  · simp [fold, transform_removeToolRule, withoutTool_idem]
  · simp [fold, transform_removeToolRule, withoutTool_comm other ms]

end CcsTrans.Rules
