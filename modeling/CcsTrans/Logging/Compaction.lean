import CcsTrans.Text

/-!
The compaction of a log that is too large.

Of the active file the end is kept, from the first record on that starts in it. Where a record
starts is looked for block by block.
-/

namespace CcsTrans.Logging

open CcsTrans.Text

/-! ### The file -/

/-- `FileLogSink`, as far as the sizes and the active file go. -/
structure FileLogSink where
  maxTotalSize : UInt64
  activeSize : UInt64
  managedSize : UInt64
  /-- What stands at the path of the log. -/
  file : Bytes

/-- What the system does with the files of a compaction, all of it by default. -/
structure Files where
  opens : Bool := true
  creates : Bool := true
  copies : Bool := true
  flushes : Bool := true
  /-- The error of `replace_file`. -/
  replaceError : Option Bytes := none

/-- The search for a line end, from a cursor on in blocks of 8 KiB. It gives the place behind it. -/
def scan (content : Bytes) (cursor : ℕ) : Option ℕ :=
  let block := (content.drop cursor).take 8192
  match block.findIdx? (· == ch '\n') with
  | some newline => some (cursor + newline + 1)
  | none =>
    -- a short read is the last
    if block.length < 8192 then none else scan content (cursor + block.length)
termination_by content.length - cursor
decreasing_by
  simp only [block, List.length_take, List.length_drop] at *
  omega

/-- The copy of what a stream still has, in blocks of 64 KiB. -/
def copyRest (rest : Bytes) : Bytes :=
  let block := rest.take 65536
  if block.length < 65536 then block else block ++ copyRest (rest.drop 65536)
termination_by rest.length
decreasing_by
  simp only [block, List.length_take, List.length_drop] at *
  omega

/-- Where the copy starts, or nothing when the byte before cannot be read. -/
def compactStart (s : FileLogSink) : Option UInt64 :=
  let start := s.activeSize - s.maxTotalSize
  if start ≠ 0 then
    (s.file[(start - 1).toNat]?).map fun previous =>
      if previous ≠ ch '\n' then
        match scan s.file start.toNat with
        | some found => found.toUInt64
        | none => s.activeSize
      else start
  else some start

/-- `compact_oversized_active`. Whatever fails, the file and the sizes stay. -/
def FileLogSink.compactOversizedActive (s : FileLogSink) (files : Files) (path temporary : Bytes) :
    Except Bytes FileLogSink :=
  if s.activeSize ≤ s.maxTotalSize then .ok s
  else if !files.opens then .error (str "failed to open oversized log file for compaction: " ++ path)
  else match compactStart s with
    | none => .error (str "failed to inspect oversized log record boundary")
    | some start =>
      if !files.creates then .error (str "failed to create compacted log file: " ++ temporary)
      else if !files.copies then .error (str "failed while compacting oversized log file")
      else if !files.flushes then .error (str "failed to flush compacted log file")
      else match files.replaceError with
        | some error => .error error
        | none =>
          let activeSize := s.activeSize - start
          .ok { s with
            activeSize := activeSize
            managedSize := s.managedSize - (s.activeSize - activeSize)
            file := copyRest (s.file.drop start.toNat) }

/-! ### What is kept -/

/-- A record starts at the start of the file or behind a line end. -/
def Starts (content : Bytes) (start : ℕ) : Prop :=
  start = 0 ∨ 0 < start ∧ content[start - 1]? = some (ch '\n')

/-- The records at the end that fit: the longest end that fits and starts a record, or nothing. -/
def Newest (limit : ℕ) (content kept : Bytes) : Prop :=
  (∃ start ≤ content.length, Starts content start ∧ content.length - start ≤ limit ∧
    kept = content.drop start ∧
    ∀ start' ≤ content.length, Starts content start' → content.length - start' ≤ limit → start ≤ start') ∨
  kept = [] ∧ ∀ start ≤ content.length, Starts content start → limit < content.length - start

lemma copyRest_eq (rest : Bytes) : copyRest rest = rest := by
  induction hn : rest.length using Nat.strong_induction_on generalizing rest with
  | _ n ih =>
    subst hn
    have hlength : (rest.take 65536).length = min 65536 rest.length := List.length_take
    rw [copyRest]
    split_ifs with hshort
    · exact List.take_of_length_le (by omega)
    · rw [ih _ (by rw [List.length_drop]; omega) _ rfl, List.take_append_drop]

/-- The search finds the first line end from the cursor on. -/
lemma scan_eq (content : Bytes) (cursor : ℕ) :
    scan content cursor = ((content.drop cursor).findIdx? (· == ch '\n')).map (cursor + · + 1) := by
  induction hn : content.length - cursor using Nat.strong_induction_on generalizing cursor with
  | _ n ih =>
    subst hn
    obtain ⟨block, hblock⟩ : ∃ block, block = (content.drop cursor).take 8192 := ⟨_, rfl⟩
    have hlength : block.length = min 8192 (content.length - cursor) := by
      rw [hblock, List.length_take, List.length_drop]
    have hsplit : content.drop cursor = block ++ (content.drop cursor).drop 8192 := by
      rw [hblock, List.take_append_drop]
    rw [scan]
    rw [← hblock, hsplit, List.findIdx?_append]
    cases hfind : block.findIdx? (· == ch '\n') with
    | some newline => rfl
    | none =>
      dsimp only
      split_ifs with hshort
      · rw [List.drop_drop, List.drop_eq_nil_of_le (by omega)]
        rfl
      · have hfull : block.length = 8192 := by omega
        rw [ih _ (by omega) _ rfl, hfull, List.drop_drop]
        cases ((content.drop (cursor + 8192)).findIdx? (· == ch '\n')) with
        | none => rfl
        | some newline =>
          show some (cursor + 8192 + newline + 1) = some (cursor + (newline + 8192) + 1)
          congr 1
          omega

/-- Behind the first line end that is found a record starts, and none starts before from the cursor on. -/
lemma starts_of_scan {content : Bytes} {cursor start : ℕ} (h : scan content cursor = some start) :
    cursor < start ∧ start ≤ content.length ∧ Starts content start ∧
      ∀ start', cursor < start' → Starts content start' → start ≤ start' := by
  rw [scan_eq, Option.map_eq_some_iff] at h
  obtain ⟨newline, hfind, rfl⟩ := h
  obtain ⟨hlt, hfound, hbefore⟩ := List.findIdx?_eq_some_iff_getElem.mp hfind
  rw [List.length_drop] at hlt
  rw [List.getElem_drop, beq_iff_eq] at hfound
  refine ⟨by omega, by omega, .inr ⟨by omega, ?_⟩, fun start' hcursor hstarts => ?_⟩
  · rw [Nat.add_sub_cancel, List.getElem?_eq_getElem (by omega), hfound]
  · by_contra hless
    rcases hstarts with hzero | ⟨hpositive, hnewline⟩
    · omega
    · have hnot := hbefore (start' - 1 - cursor) (by omega)
      rw [List.getElem_drop] at hnot
      have hindex : cursor + (start' - 1 - cursor) = start' - 1 := by omega
      rw [← hindex, List.getElem?_eq_getElem (by omega), Option.some.injEq] at hnewline
      exact hnot (beq_iff_eq.mpr hnewline)

lemma not_starts_of_scan {content : Bytes} {cursor : ℕ} (h : scan content cursor = none) {start : ℕ}
    (hcursor : cursor < start) : ¬ Starts content start := by
  rw [scan_eq, Option.map_eq_none_iff, List.findIdx?_eq_none_iff] at h
  rintro (hzero | ⟨hpositive, hnewline⟩)
  · omega
  · obtain ⟨hlt, heq⟩ := List.getElem?_eq_some_iff.mp hnewline
    have hmem : content[start - 1] ∈ content.drop cursor := by
      rw [List.mem_iff_getElem]
      refine ⟨start - 1 - cursor, by rw [List.length_drop]; omega, ?_⟩
      rw [List.getElem_drop]
      congr 1
      omega
    have hnot := h _ hmem
    rw [heq] at hnot
    exact absurd hnot (by decide)

section Compact

variable {s s' : FileLogSink} (hactive : s.activeSize.toNat = s.file.length)
  (hlarge : s.maxTotalSize < s.activeSize)
include hactive hlarge

/-- The copy starts in the file, and what it takes are the records that fit. -/
lemma compactStart_newest : ∃ start, compactStart s = some start ∧ start.toNat ≤ s.file.length ∧
    Newest s.maxTotalSize.toNat s.file (s.file.drop start.toNat) := by
  have hlt := UInt64.lt_iff_toNat_lt.mp hlarge
  have hbound := s.activeSize.toNat_lt
  obtain ⟨first, hfirst⟩ : ∃ first, first = s.activeSize - s.maxTotalSize := ⟨_, rfl⟩
  have hcursor : first.toNat = s.file.length - s.maxTotalSize.toNat := by
    rw [hfirst, UInt64.toNat_sub_of_le _ _ (UInt64.le_iff_toNat_le.mpr hlt.le), hactive]
  have hnonzero : first ≠ 0 := fun h => by
    rw [h] at hcursor
    change 0 = _ at hcursor
    omega
  have hprevious : (first - 1).toNat = first.toNat - 1 := by
    refine UInt64.toNat_sub_of_le _ _ (UInt64.le_iff_toNat_le.mpr ?_)
    show 1 ≤ first.toNat
    omega
  have hinside : first.toNat - 1 < s.file.length := by omega
  unfold compactStart
  dsimp only
  rw [← hfirst, if_pos hnonzero, hprevious, List.getElem?_eq_getElem hinside, Option.map_some]
  by_cases hnewline : s.file[first.toNat - 1] = ch '\n'
  · -- a record starts at the limit
    rw [if_neg (not_not.mpr hnewline)]
    refine ⟨first, rfl, by omega, .inl ⟨first.toNat, by omega, .inr ⟨by omega, ?_⟩, by omega, rfl,
      fun start' _ _ _ => by omega⟩⟩
    rw [List.getElem?_eq_getElem hinside, hnewline]
  · have hnot : ¬ Starts s.file first.toNat := by
      rintro (hzero | ⟨-, hfound⟩)
      · omega
      · rw [List.getElem?_eq_getElem hinside] at hfound
        exact hnewline (Option.some.inj hfound)
    rw [if_pos hnewline]
    cases hscan : scan s.file first.toNat with
    | some found =>
      obtain ⟨hbehind, hfound, hstarts, hleast⟩ := starts_of_scan hscan
      have hsmall : found < 2 ^ 64 := by omega
      have htoNat : found.toUInt64.toNat = found := UInt64.toNat_ofNat_of_lt' hsmall
      dsimp only
      refine ⟨_, rfl, by omega, .inl ⟨found, hfound, hstarts, by omega, by rw [htoNat],
        fun start' hstart' hstarts' hfits => hleast start' ?_ hstarts'⟩⟩
      have hne : start' ≠ first.toNat := fun h => hnot (h ▸ hstarts')
      omega
    | none =>
      dsimp only
      refine ⟨_, rfl, hactive.le, .inr ⟨by rw [hactive, List.drop_length], fun start hstart hstarts => ?_⟩⟩
      by_contra hfits
      have hne : start ≠ first.toNat := fun h => hnot (h ▸ hstarts)
      exact not_starts_of_scan hscan (by omega) hstarts

/-- **Compaction keeps the newest records**, and the sizes follow. -/
theorem compactOversizedActive_ok {files : Files} {path temporary : Bytes}
    (h : s.compactOversizedActive files path temporary = .ok s') :
    Newest s.maxTotalSize.toNat s.file s'.file ∧ s'.activeSize.toNat = s'.file.length ∧
      s'.file.length ≤ s.file.length ∧
      s'.managedSize = s.managedSize - (s.file.length - s'.file.length).toUInt64 := by
  obtain ⟨start, hstart, hinside, hnewest⟩ := compactStart_newest hactive hlarge
  have hle : start ≤ s.activeSize := UInt64.le_iff_toNat_le.mpr (by omega)
  have hdropped : s.activeSize - (s.activeSize - start) = start := by grind
  unfold FileLogSink.compactOversizedActive at h
  rw [hstart, if_neg (UInt64.not_le.mpr hlarge)] at h
  dsimp only at h
  split_ifs at h with hopens hcreates hcopies hflushes
  cases hreplace : files.replaceError with
  | some error =>
    rw [hreplace] at h
    cases h
  | none =>
    rw [hreplace] at h
    obtain rfl := Except.ok.inj h
    dsimp only
    rw [copyRest_eq, List.length_drop, hdropped]
    refine ⟨hnewest, ?_, by omega, ?_⟩
    · rw [UInt64.toNat_sub_of_le _ _ hle, hactive]
    · rw [show s.file.length - (s.file.length - start.toNat) = start.toNat by omega, Nat.toUInt64_eq,
        UInt64.ofNat_toNat]

/-- A compaction that nothing hinders is done. -/
lemma compactOversizedActive_done (path temporary : Bytes) :
    ∃ s', s.compactOversizedActive {} path temporary = .ok s' := by
  obtain ⟨start, hstart, -, -⟩ := compactStart_newest hactive hlarge
  unfold FileLogSink.compactOversizedActive
  rw [hstart, if_neg (UInt64.not_le.mpr hlarge)]
  exact ⟨_, rfl⟩

end Compact

/-- No line end is among the last bytes, one more than fit: then nothing is kept. -/
lemma Newest.eq_nil {limit : ℕ} {content kept : Bytes} (h : Newest limit content kept)
    (hlarge : limit < content.length)
    (hnone : ∀ i, content[i]? = some (ch '\n') → i + limit + 1 < content.length) : kept = [] := by
  rcases h with ⟨start, hstart, hzero | ⟨hpositive, hnewline⟩, hfits, -, -⟩ | ⟨hnil, -⟩
  · omega
  · have := hnone _ hnewline
    omega
  · exact hnil

/-- **Compaction keeps exactly the newest whole records**: of a file that is too large the longest end
that fits and starts behind a line end is left, and nothing where no line end is among the last
bytes, one more than fit. The sizes go down by what is dropped. -/
theorem compaction_keeps_newest (s : FileLogSink) (path temporary : Bytes)
    (hactive : s.activeSize.toNat = s.file.length) (hlarge : s.maxTotalSize < s.activeSize) :
    (∃ s', s.compactOversizedActive {} path temporary = .ok s') ∧
    ∀ files s', s.compactOversizedActive files path temporary = .ok s' →
      Newest s.maxTotalSize.toNat s.file s'.file ∧
      ((∀ i, s.file[i]? = some (ch '\n') → i + s.maxTotalSize.toNat + 1 < s.file.length) → s'.file = []) ∧
      s'.activeSize.toNat = s'.file.length ∧
      s'.activeSize = s.activeSize - (s.file.length - s'.file.length).toUInt64 ∧
      s'.managedSize = s.managedSize - (s.file.length - s'.file.length).toUInt64 ∧
      (s.activeSize ≤ s.managedSize →
        s'.managedSize.toNat = s.managedSize.toNat - (s.file.length - s'.file.length)) := by
  refine ⟨compactOversizedActive_done hactive hlarge path temporary, fun files s' h => ?_⟩
  obtain ⟨hnewest, hsize, hle, hmanaged⟩ := compactOversizedActive_ok hactive hlarge h
  have hlt := UInt64.lt_iff_toNat_lt.mp hlarge
  have hbound := s.activeSize.toNat_lt
  have hdropped : s.file.length - s'.file.length < 2 ^ 64 := by omega
  have htoNat : (s.file.length - s'.file.length).toUInt64.toNat = s.file.length - s'.file.length :=
    UInt64.toNat_ofNat_of_lt' hdropped
  have hactive' : (s.file.length - s'.file.length).toUInt64 ≤ s.activeSize := by
    rw [UInt64.le_iff_toNat_le, htoNat]
    omega
  refine ⟨hnewest, hnewest.eq_nil (by omega), hsize, ?_, hmanaged, fun hmore => ?_⟩
  · rw [← UInt64.toNat_inj, UInt64.toNat_sub_of_le _ _ hactive', htoNat]
    omega
  · rw [hmanaged, UInt64.toNat_sub_of_le _ _ (UInt64.le_trans hactive' hmore), htoNat]

theorem compaction_keeps_newest_lines :
    ∃ s', (⟨4, 6, 6, str "a\nb\nc\n"⟩ : FileLogSink).compactOversizedActive {} [] [] = .ok s' :=
  (compaction_keeps_newest ⟨4, 6, 6, str "a\nb\nc\n"⟩ [] [] rfl (by decide)).1

/-- No line end is among the last two bytes, and they are kept: the one before them ends a line. -/
theorem line_end_before_limit : ¬ ∀ (s s' : FileLogSink) (files : Files) (path temporary : Bytes),
    s.activeSize.toNat = s.file.length → s.maxTotalSize < s.activeSize →
    s.compactOversizedActive files path temporary = .ok s' →
    (∀ i, s.file[i]? = some (ch '\n') → i + s.maxTotalSize.toNat < s.file.length) → s'.file = [] := by
  intro h
  have hstart : compactStart ⟨2, 4, 4, str "a\nbc"⟩ = some 2 := rfl
  have hcompact : (⟨2, 4, 4, str "a\nbc"⟩ : FileLogSink).compactOversizedActive {} [] [] =
      .ok ⟨2, 2, 2, str "bc"⟩ := by
    unfold FileLogSink.compactOversizedActive
    rw [hstart]
    dsimp only
    rw [copyRest_eq]
    rfl
  have hfile := h _ _ {} [] [] rfl (by decide) hcompact fun i hi => ?_
  · exact absurd hfile (by decide)
  · have hlt : i < 4 := (List.getElem?_eq_some_iff.mp hi).1
    revert hi
    revert i
    decide

end CcsTrans.Logging
