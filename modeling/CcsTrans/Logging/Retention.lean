import CcsTrans.Config.Settings
import CcsTrans.Logging.ArchiveNames
import CcsTrans.Logging.Compaction
import CcsTrans.Runs
import Mathlib.Algebra.Order.BigOperators.Group.List
import Mathlib.Algebra.Ring.Nat
import Mathlib.Data.List.Sort

/-!
What is kept of a log.

The active file grows by whole records. When the next record would make it larger than a segment, it
becomes the archive with the next number. As long as the active file and the archives are together
larger than configured, the archive with the lowest number is removed. An active file that is too
large on its own is there only when the log is opened, and is compacted then.
-/

namespace CcsTrans.Logging.Retention

open CcsTrans.Text CcsTrans.Core CcsTrans.Decimals CcsTrans.Logging.Archives CcsTrans.Runs
open CcsTrans.Fallible
open CcsTrans.Config (kMaxLogTotalSize)

/-! ### The sink -/

/-- Regular files of a directory: their names and what stands in them. -/
abbrev Entries := List (Bytes × Bytes)

/-- `FileLogSink::Archive`. All of them are in one directory, so that a name does for a path. -/
structure Archive where
  name : Bytes
  sequence : UInt64
  size : UInt64
  deriving DecidableEq

/-- `FileLogSink`. -/
structure FileLogSink extends Logging.FileLogSink where
  segmentTargetSize : UInt64
  archives : List Archive
  nextArchiveSequence : UInt64

/-- `has_managed_prefix`. -/
def hasManagedPrefix (path candidate marker : Bytes) : Bool :=
  let managed := Path.filename path ++ marker
  let filename := Path.filename candidate
  managed.length < filename.length && filename.take managed.length == managed

/-- What `scan_existing` has found, and what it has left of the directory. -/
structure Scan where
  archives : List Archive := []
  managedSize : UInt64
  nextArchiveSequence : UInt64 := 1
  others : Entries := []

/-- The loop of `scan_existing`, for one entry. -/
def scanEntry (path : Bytes) (found : Scan) (entry : Bytes × Bytes) : Except Bytes Scan :=
  -- a compaction that was not finished is removed
  if hasManagedPrefix path entry.1 (str ".ccs-compact-") then .ok found
  else
    let found := { found with others := found.others ++ [entry] }
    match parseArchiveSequence path entry.1 with
    | none => .ok found
    | some sequence =>
      let size := entry.2.length.toUInt64
      if sequence = maxValue then .error (str "log archive sequence is exhausted")
      else .ok { found with
        archives := found.archives ++ [⟨entry.1, sequence, size⟩]
        managedSize := found.managedSize + size
        nextArchiveSequence := max found.nextArchiveSequence (sequence + 1) }

/-- `scan_existing`, with the entries in the order in which the directory gives them. -/
def scanExisting (path active : Bytes) (entries : Entries) : Except Bytes Scan := do
  let found ← entries.foldlM (scanEntry path) { managedSize := active.length.toUInt64 }
  .ok { found with archives := found.archives.insertionSort fun a b => a.sequence ≤ b.sequence }

/-- The loop of `prune_archives`. -/
def pruneFrom (maxTotalSize : UInt64) :
    List Archive → UInt64 → Entries → Except Bytes (List Archive × UInt64 × Entries)
  | [], managed, others =>
    if managed > maxTotalSize then
      .error (str "active log file exceeds the configured total size limit")
    else .ok ([], managed, others)
  | oldest :: archives, managed, others =>
    if managed > maxTotalSize then
      if oldest.name ∈ others.map Prod.fst then
        pruneFrom maxTotalSize archives (managed - oldest.size) (others.filter (·.1 ≠ oldest.name))
      else .error (str "failed to remove expired log archive: " ++ oldest.name)
    else .ok (oldest :: archives, managed, others)

namespace FileLogSink

/-- `prune_archives`. -/
def pruneArchives (s : FileLogSink) (others : Entries) : Except Bytes (FileLogSink × Entries) := do
  let (archives, managed, others) ← pruneFrom s.maxTotalSize s.archives s.managedSize others
  .ok ({ s with archives := archives, managedSize := managed }, others)

/-- `rotate`. What had the name of the archive would be gone. -/
def rotate (s : FileLogSink) (path : Bytes) (others : Entries) : Except Bytes (FileLogSink × Entries) :=
  if s.nextArchiveSequence = maxValue then .error (str "log archive sequence is exhausted")
  else
    let destination := Path.filename (archivePath path s.nextArchiveSequence)
    .ok ({ s with
        archives := s.archives ++ [⟨destination, s.nextArchiveSequence, s.activeSize⟩]
        nextArchiveSequence := s.nextArchiveSequence + 1
        activeSize := 0
        file := [] },
      others.filter (·.1 ≠ destination) ++ [(destination, s.file)])

/-- Whether `write` begins a new segment. -/
def Rotates (s : FileLogSink) (data : Bytes) : Prop :=
  s.activeSize ≠ 0 ∧ s.activeSize + data.length.toUInt64 > s.segmentTargetSize

instance (s : FileLogSink) (data : Bytes) : Decidable (s.Rotates data) := instDecidableAnd

/-- `write`. The file is as it will be when what is buffered has been written. -/
def write (s : FileLogSink) (path : Bytes) (others : Entries) (data : Bytes) :
    Except Bytes (FileLogSink × Entries) :=
  if data.length > s.maxTotalSize.toNat then
    .error (str "log record exceeds the configured total size limit")
  else do
    let (s, others) ← if s.Rotates data then s.rotate path others else .ok (s, others)
    { s with
      file := s.file ++ data
      activeSize := s.activeSize + data.length.toUInt64
      managedSize := s.managedSize + data.length.toUInt64 }.pruneArchives others

end FileLogSink

/-- `open`, of a log whose active file may be missing. The temporary file of a compaction has the time
in its name. -/
def openSink (path : Bytes) (maxTotalSize : UInt64) (active : Option Bytes) (entries : Entries)
    (now : ℕ) : Except Bytes (FileLogSink × Entries) :=
  if maxTotalSize = 0 then .error (str "log max total size must be greater than zero")
  else do
    let file := active.getD []
    let found ← scanExisting path file entries
    let s ← Logging.FileLogSink.compactOversizedActive
      ⟨maxTotalSize, file.length.toUInt64, found.managedSize, file⟩ {} path
      (path ++ (str ".ccs-compact-" ++ decimal now))
    FileLogSink.pruneArchives
      { s with
        segmentTargetSize := min (128 * 1024 * 1024) (max 1 (maxTotalSize / 16))
        archives := found.archives
        nextArchiveSequence := found.nextArchiveSequence } found.others

/-! ### Runs -/

/-- A log and the other files of its directory, between calls. -/
inductive State where
  | closed (active : Option Bytes) (others : Entries)
  | opened (sink : FileLogSink) (others : Entries)

/-- The calls. A directory is read in an order of its own. -/
inductive Action where
  | openSink (maxTotalSize : UInt64) (entries : Entries) (now : ℕ)
  | write (data : Bytes)
  | close

/-- A call. One that fails leaves the log as it is, and a sink is opened only when it is closed. -/
def step (path : Bytes) : State → Action → State
  | .closed active others, .openSink maxTotalSize entries now =>
    match openSink path maxTotalSize active entries now with
    | .ok (sink, others) => .opened sink others
    | .error _ => .closed active others
  | .opened sink others, .write data =>
    match sink.write path others data with
    | .ok (sink, others) => .opened sink others
    | .error _ => .opened sink others
  | .opened sink others, .close => .closed (some sink.file) others
  | s, _ => s

/-- What a call adds to the log. -/
def recorded (path : Bytes) : State → Action → Bytes
  | .opened sink others, .write data =>
    match sink.write path others data with
    | .ok _ => data
    | .error _ => []
  | _, _ => []

/-- What the calls of a run add to the log. -/
def records (path : Bytes) : State → List Action → Bytes
  | _, [] => []
  | s, a :: as => recorded path s a ++ records path (step path s a) as

/-! ### Archives of a directory -/

/-- The archives among the files, each with what stands in it. -/
def archived (path : Bytes) (others : Entries) : List (Archive × Bytes) :=
  others.filterMap fun e => (parseArchiveSequence path e.1).map fun sequence =>
    (⟨e.1, sequence, e.2.length.toUInt64⟩, e.2)

/-- The bytes of the archives. -/
def stored (path : Bytes) (others : Entries) : ℕ := ((archived path others).map (·.2.length)).sum

/-- What has come before stands in the archive with the lower number. -/
abbrev Ordered (archives : List (Archive × Bytes)) : Prop :=
  archives.Pairwise fun a b => a.1.sequence ≤ b.1.sequence

/-- The archives in the order of their numbers, and the active file behind them. Where two archives
have one number, either may be first. -/
def Contents (path active : Bytes) (others : Entries) (content : Bytes) : Prop :=
  ∃ archives : List (Archive × Bytes), archives.Perm (archived path others) ∧ Ordered archives ∧
    content = (archives.map Prod.snd).flatten ++ active

def State.Contents (path : Bytes) : State → Bytes → Prop
  | .closed active others => Retention.Contents path (active.getD []) others
  | .opened sink others => Retention.Contents path sink.file others

section Directory

variable {path : Bytes} {others others' : Entries}

lemma mem_archived {a : Archive × Bytes} : a ∈ archived path others ↔
    (a.1.name, a.2) ∈ others ∧ parseArchiveSequence path a.1.name = some a.1.sequence ∧
      a.1.size = a.2.length.toUInt64 := by
  rw [archived, List.mem_filterMap]
  constructor
  · rintro ⟨e, he, h⟩
    obtain ⟨sequence, hsequence, rfl⟩ := Option.map_eq_some_iff.mp h
    exact ⟨he, hsequence, rfl⟩
  · obtain ⟨⟨name, sequence, size⟩, content⟩ := a
    rintro ⟨hmem, hsequence, hsize⟩
    dsimp only at hsequence hsize
    exact ⟨(name, content), hmem, by rw [hsequence, Option.map_some, hsize]⟩

lemma archived_perm (h : others.Perm others') : (archived path others).Perm (archived path others') :=
  h.filterMap _

lemma Contents.of_perm {active content : Bytes} (h : (archived path others).Perm (archived path others'))
    (hc : Contents path active others content) : Contents path active others' content := by
  obtain ⟨archives, hperm, hrest⟩ := hc
  exact ⟨archives, hperm.trans h, hrest⟩

/-- There is an order of the archives. -/
lemma exists_contents (path active : Bytes) (others : Entries) :
    ∃ archives : Bytes, Contents path active others (archives ++ active) := by
  have htotal : Std.Total fun a b : Archive × Bytes => a.1.sequence ≤ b.1.sequence :=
    ⟨fun a b => UInt64.le_total _ _⟩
  have htrans : IsTrans (Archive × Bytes) fun a b => a.1.sequence ≤ b.1.sequence :=
    ⟨fun a b c => UInt64.le_trans⟩
  exact ⟨_, _, List.perm_insertionSort _ _, List.pairwise_insertionSort _ (archived path others), rfl⟩

lemma stored_perm (h : (archived path others).Perm (archived path others')) :
    stored path others = stored path others' := (h.map _).sum_eq

/-- The file of one name, and the files of others. -/
lemma perm_remove {e : Bytes × Bytes} (hnames : (others.map Prod.fst).Nodup) (he : e ∈ others) :
    others.Perm (e :: others.filter (·.1 ≠ e.1)) := by
  induction others with
  | nil => cases he
  | cons x xs ih =>
    rw [List.map_cons, List.nodup_cons] at hnames
    by_cases hname : x.1 = e.1
    · have hx : x = e := by
        rcases List.mem_cons.mp he with rfl | htail
        · rfl
        · exact absurd (hname ▸ List.mem_map_of_mem htail) hnames.1
      have hrest : xs.filter (·.1 ≠ e.1) = xs := by
        rw [List.filter_eq_self]
        intro y hy
        rw [decide_eq_true_eq, ← hname]
        exact fun heq => hnames.1 (heq ▸ List.mem_map_of_mem hy)
      rw [List.filter_cons_of_neg (by simpa using hname), hrest, hx]
    · have htail : e ∈ xs := by
        rcases List.mem_cons.mp he with rfl | htail
        · exact absurd rfl hname
        · exact htail
      rw [List.filter_cons_of_pos (by simpa using hname)]
      exact ((ih hnames.2 htail).cons x).trans (List.Perm.swap e x _)

lemma archived_cons {a : Archive × Bytes} (h : a ∈ archived path others) :
    archived path ((a.1.name, a.2) :: others') = a :: archived path others' := by
  obtain ⟨⟨name, sequence, size⟩, content⟩ := a
  obtain ⟨-, hsequence, hsize⟩ := mem_archived.mp h
  dsimp only at hsequence hsize
  rw [archived, List.filterMap_cons, hsequence, hsize]
  rfl

/-- Without the file of an archive, that archive is gone and the others stay. -/
lemma archived_remove {a : Archive × Bytes} (hnames : (others.map Prod.fst).Nodup)
    (h : a ∈ archived path others) :
    (archived path others).Perm (a :: archived path (others.filter (·.1 ≠ a.1.name))) := by
  have hfile := perm_remove hnames (mem_archived.mp h).1
  have harchived := @archived_perm path _ _ hfile
  rwa [archived_cons h] at harchived

/-- An archive whose number is above all others stands last. -/
lemma ordered_concat {archives before : List (Archive × Bytes)} {last : Archive × Bytes}
    (hperm : archives.Perm (before ++ [last])) (hordered : Ordered archives)
    (hlast : ∀ a ∈ before, a.1.sequence < last.1.sequence) :
    ∃ earlier, archives = earlier ++ [last] ∧ earlier.Perm before := by
  obtain ⟨earlier, later, rfl⟩ := List.append_of_mem (hperm.mem_iff.mpr List.mem_concat_self)
  have hrest : (earlier ++ later).Perm before :=
    (List.perm_middle.symm.trans (hperm.trans (List.perm_append_singleton last before))).cons_inv
  have hnil : later = [] := by
    rw [List.eq_nil_iff_forall_not_mem]
    intro a ha
    have hle := (List.pairwise_cons.mp (List.pairwise_append.mp hordered).2.1).1 a ha
    exact absurd (hlast a (hrest.mem_iff.mp (List.mem_append_right _ ha))) (UInt64.not_lt.mpr hle)
  rw [hnil] at hrest ⊢
  exact ⟨earlier, rfl, by rwa [List.append_nil] at hrest⟩

end Directory

/-! ### Pruning -/

/-- Some archives are gone, and none of them comes behind one that is left. -/
def Trimmed (path : Bytes) (others others' : Entries) : Prop :=
  ∃ dropped, (archived path others).Perm (dropped ++ archived path others') ∧ Ordered dropped ∧
    ∀ d ∈ dropped, ∀ a ∈ archived path others', d.1.sequence ≤ a.1.sequence

/-- The list of a sink has the archives of the directory in order. -/
structure Listed (path : Bytes) (archives : List Archive) (others : Entries) : Prop where
  names : (others.map Prod.fst).Nodup
  listed : archives.Perm ((archived path others).map Prod.fst)
  sorted : archives.Pairwise fun a b => a.sequence ≤ b.sequence

section Prune

variable {path active content : Bytes} {others others' : Entries}

lemma Trimmed.refl (path : Bytes) (others : Entries) : Trimmed path others others :=
  ⟨[], List.Perm.refl _, List.Pairwise.nil, nofun⟩

lemma Trimmed.subset (h : Trimmed path others others') {a : Archive × Bytes}
    (ha : a ∈ archived path others') : a ∈ archived path others := by
  obtain ⟨dropped, hsplit, -, -⟩ := h
  exact hsplit.mem_iff.mpr (List.mem_append_right _ ha)

/-- What is left is an end of what was there. -/
lemma Trimmed.contents (h : Trimmed path others others') (hc : Contents path active others' content) :
    ∃ before, Contents path active others before ∧ content <:+ before := by
  obtain ⟨dropped, hsplit, hdropped, hbefore⟩ := h
  obtain ⟨archives, hperm, hordered, rfl⟩ := hc
  refine ⟨(dropped.map Prod.snd).flatten ++ ((archives.map Prod.snd).flatten ++ active),
    ⟨dropped ++ archives, (hperm.append_left dropped).trans hsplit.symm, ?_, ?_⟩,
    List.suffix_append _ _⟩
  · refine List.pairwise_append.mpr ⟨hdropped, hordered, fun d hd a ha => ?_⟩
    exact hbefore d hd a (hperm.mem_iff.mp ha)
  · rw [List.map_append, List.flatten_append, List.append_assoc]

/-- The first archive of the list is that of a file, and no other comes before it. -/
lemma Listed.oldest {oldest : Archive} {archives : List Archive}
    (h : Listed path (oldest :: archives) others) :
    ∃ content, (oldest, content) ∈ archived path others ∧
      Listed path archives (others.filter (·.1 ≠ oldest.name)) ∧
      ∀ a ∈ archived path (others.filter (·.1 ≠ oldest.name)), oldest.sequence ≤ a.1.sequence := by
  obtain ⟨⟨a, content⟩, hmem, rfl⟩ := List.mem_map.mp (h.listed.mem_iff.mp List.mem_cons_self)
  have hlisted : archives.Perm ((archived path (others.filter (·.1 ≠ a.name))).map Prod.fst) :=
    (h.listed.trans ((archived_remove h.names hmem).map Prod.fst)).cons_inv
  obtain ⟨hleast, hsorted⟩ := List.pairwise_cons.mp h.sorted
  refine ⟨content, hmem, ⟨?_, hlisted, hsorted⟩, fun b hb => ?_⟩
  · exact h.names.sublist (List.filter_sublist.map Prod.fst)
  · exact hleast b.1 (hlisted.mem_iff.mpr (List.mem_map_of_mem hb))

/-- **Pruning ends within the limit**, when the active file is: it takes away the oldest archives. -/
lemma pruneFrom_ok {limit managed : UInt64} {archives : List Archive} {n : ℕ}
    (h : Listed path archives others) (hn : n ≤ limit.toNat)
    (hmanaged : managed.toNat = n + stored path others) :
    ∃ archives' managed' others',
      pruneFrom limit archives managed others = .ok (archives', managed', others') ∧
      Listed path archives' others' ∧ managed'.toNat = n + stored path others' ∧ managed' ≤ limit ∧
      Trimmed path others others' ∧ (n + stored path others ≤ limit.toNat → others' = others) := by
  induction archives generalizing managed others with
  | nil =>
    have hnone : stored path others = 0 := by
      rw [stored, List.map_eq_nil_iff.mp (List.Perm.nil_eq h.listed).symm]
      rfl
    have hle : managed ≤ limit := UInt64.le_iff_toNat_le.mpr (by omega)
    refine ⟨[], managed, others, ?_, h, hmanaged, hle, Trimmed.refl path others, fun _ => rfl⟩
    rw [pruneFrom, if_neg (UInt64.not_lt.mpr hle)]
  | cons oldest archives ih =>
    rw [pruneFrom]
    by_cases hlarge : managed > limit
    · obtain ⟨content, hmem, hlisted, hleast⟩ := h.oldest
      obtain ⟨hfile, -, hsize⟩ := mem_archived.mp hmem
      have hremove := archived_remove h.names hmem
      have hstored : stored path others =
          content.length + stored path (others.filter (·.1 ≠ oldest.name)) :=
        (hremove.map _).sum_eq
      have hbound := managed.toNat_lt
      have hlength : oldest.size.toNat = content.length := by
        rw [hsize]
        exact UInt64.toNat_ofNat_of_lt' (show content.length < 2 ^ 64 by omega)
      have hless : (managed - oldest.size).toNat =
          n + stored path (others.filter (·.1 ≠ oldest.name)) := by
        rw [UInt64.toNat_sub_of_le _ _ (UInt64.le_iff_toNat_le.mpr (by omega))]
        omega
      obtain ⟨archives', managed', others', hok, hlisted', hmanaged', hle, ⟨dropped, hsplit, hdropped,
        hbefore⟩, -⟩ := ih hlisted hless
      have hbelow : ∀ a ∈ dropped ++ archived path others', oldest.sequence ≤ a.1.sequence :=
        fun a ha => hleast a (hsplit.mem_iff.mpr ha)
      rw [if_pos hlarge, if_pos (List.mem_map_of_mem hfile)]
      refine ⟨archives', managed', others', hok, hlisted', hmanaged', hle, ⟨(oldest, content) :: dropped,
        hremove.trans (hsplit.cons _), List.pairwise_cons.mpr ⟨fun d hd => ?_, hdropped⟩,
        fun d hd a ha => ?_⟩, fun hfits => ?_⟩
      · exact hbelow d (List.mem_append_left _ hd)
      · rcases List.mem_cons.mp hd with rfl | hd
        · exact hbelow a (List.mem_append_right _ ha)
        · exact hbefore d hd a ha
      · have hlt := UInt64.lt_iff_toNat_lt.mp hlarge
        omega
    · rw [if_neg hlarge]
      exact ⟨_, _, _, rfl, h, hmanaged, UInt64.not_lt.mp hlarge, Trimmed.refl path others, fun _ => rfl⟩

end Prune

/-! ### Opening -/

section Scan

variable {path : Bytes}

lemma toNat_max (x y : UInt64) : (max x y).toNat = max x.toNat y.toNat := by
  change (if x ≤ y then y else x).toNat = _
  split_ifs with hle
  · rw [UInt64.le_iff_toNat_le] at hle
    omega
  · rw [UInt64.le_iff_toNat_le] at hle
    omega

lemma succ_toNat {n : UInt64} (h : n ≠ maxValue) : (n + 1).toNat = n.toNat + 1 := by
  have hne : n.toNat ≠ 2 ^ 64 - 1 := fun heq => h (UInt64.toNat_inj.mp heq)
  have hlt := n.toNat_lt
  rw [UInt64.toNat_add]
  show (n.toNat + 1) % 2 ^ 64 = n.toNat + 1
  omega

/-- What is left of a compaction is no archive. -/
lemma parse_of_compaction {name : Bytes} (h : hasManagedPrefix path name (str ".ccs-compact-") = true) :
    parseArchiveSequence path name = none := by
  rw [hasManagedPrefix, Bool.and_eq_true, beq_iff_eq] at h
  by_contra hsome
  obtain ⟨sequence, hsequence⟩ := Option.ne_none_iff_exists'.mp hsome
  obtain ⟨digits, hname, -⟩ := parseArchiveSequence_iff.mp hsequence
  have hlength : (str ".ccs-compact-").length = (str ".ccs-archive-").length := by decide
  have htake := h.2
  rw [hname, List.length_append, hlength, ← List.length_append, List.take_left] at htake
  exact absurd (List.append_cancel_left htake) (by decide)

/-- The files that a scan leaves. -/
def keptOf (path : Bytes) (entries : Entries) : Entries :=
  entries.filter fun e => !hasManagedPrefix path e.1 (str ".ccs-compact-")

lemma archived_keptOf (entries : Entries) : archived path (keptOf path entries) = archived path entries := by
  rw [archived, keptOf, List.filterMap_filter, archived]
  refine List.filterMap_congr fun e _ => ?_
  cases hcompaction : hasManagedPrefix path e.1 (str ".ccs-compact-") with
  | true =>
    rw [parse_of_compaction hcompaction]
    rfl
  | false => rfl

/-- What the loop of a scan makes of what it had found. -/
structure Scanned (path : Bytes) (entries : Entries) (found found' : Scan) : Prop where
  archives : found'.archives = found.archives ++ (archived path entries).map Prod.fst
  others : found'.others = found.others ++ keptOf path entries
  managed : found'.managedSize.toNat = found.managedSize.toNat + stored path entries
  grows : found.nextArchiveSequence ≤ found'.nextArchiveSequence
  fresh : ∀ a ∈ archived path entries, a.1.sequence < found'.nextArchiveSequence
  least : ∀ n, found.nextArchiveSequence.toNat ≤ n + 1 →
    (∀ a ∈ archived path entries, a.1.sequence.toNat ≤ n) → found'.nextArchiveSequence.toNat ≤ n + 1

lemma scan_ok {entries : Entries} (found : Scan)
    (hnumbers : ∀ a ∈ archived path entries, a.1.sequence ≠ maxValue)
    (hfits : found.managedSize.toNat + stored path entries < 2 ^ 64) :
    ∃ found', entries.foldlM (scanEntry path) found = .ok found' ∧ Scanned path entries found found' := by
  induction entries generalizing found with
  | nil =>
    refine ⟨found, rfl, ?_, ?_, rfl, UInt64.le_refl _, nofun, fun n h _ => h⟩
    · exact (List.append_nil _).symm
    · exact (List.append_nil _).symm
  | cons e entries ih =>
    rw [List.foldlM_cons, scanEntry]
    by_cases hcompaction : hasManagedPrefix path e.1 (str ".ccs-compact-") = true
    · have harchived : archived path (e :: entries) = archived path entries := by
        rw [archived, List.filterMap_cons, parse_of_compaction hcompaction]
        rfl
      have hkept : keptOf path (e :: entries) = keptOf path entries := by
        rw [keptOf, List.filter_cons_of_neg (by rw [hcompaction]; decide), keptOf]
      have hstored : stored path (e :: entries) = stored path entries := by rw [stored, harchived, stored]
      rw [harchived] at hnumbers
      rw [hstored] at hfits
      obtain ⟨found', hok, hscan⟩ := ih found hnumbers hfits
      rw [if_pos hcompaction]
      refine ⟨found', hok, ?_, ?_, ?_, hscan.grows, ?_, ?_⟩
      · rw [harchived, hscan.archives]
      · rw [hkept, hscan.others]
      · rw [hstored, hscan.managed]
      · rw [harchived]
        exact hscan.fresh
      · rw [harchived]
        exact hscan.least
    · have hkept : keptOf path (e :: entries) = e :: keptOf path entries := by
        rw [keptOf, List.filter_cons_of_pos (by simpa using hcompaction), keptOf]
      rw [if_neg hcompaction]
      cases hparse : parseArchiveSequence path e.1 with
      | none =>
        have harchived : archived path (e :: entries) = archived path entries := by
          rw [archived, List.filterMap_cons, hparse]
          rfl
        have hstored : stored path (e :: entries) = stored path entries := by rw [stored, harchived, stored]
        rw [harchived] at hnumbers
        rw [hstored] at hfits
        obtain ⟨found', hok, hscan⟩ := ih { found with others := found.others ++ [e] } hnumbers hfits
        refine ⟨found', hok, ?_, ?_, ?_, hscan.grows, ?_, ?_⟩
        · rw [harchived, hscan.archives]
        · rw [hkept, hscan.others, List.append_assoc, List.singleton_append]
        · rw [hstored, hscan.managed]
        · rw [harchived]
          exact hscan.fresh
        · rw [harchived]
          exact hscan.least
      | some sequence =>
        have harchived : archived path (e :: entries) =
            (⟨e.1, sequence, e.2.length.toUInt64⟩, e.2) :: archived path entries := by
          rw [archived, List.filterMap_cons, hparse]
          rfl
        have hstored : stored path (e :: entries) = e.2.length + stored path entries := by
          rw [stored, harchived, List.map_cons, List.sum_cons, stored]
        rw [harchived] at hnumbers
        rw [hstored] at hfits
        obtain ⟨hnumber, hnumbers⟩ := List.forall_mem_cons.mp hnumbers
        have hnumber : sequence ≠ maxValue := hnumber
        have hsize : e.2.length.toUInt64.toNat = e.2.length :=
          UInt64.toNat_ofNat_of_lt' (show e.2.length < 2 ^ 64 by omega)
        have hsum : (found.managedSize + e.2.length.toUInt64).toNat =
            found.managedSize.toNat + e.2.length := by
          rw [UInt64.toNat_add, hsize]
          omega
        have hnext := succ_toNat hnumber
        obtain ⟨found', hok, hscan⟩ := ih { found with
          others := found.others ++ [e]
          archives := found.archives ++ [⟨e.1, sequence, e.2.length.toUInt64⟩]
          managedSize := found.managedSize + e.2.length.toUInt64
          nextArchiveSequence := max found.nextArchiveSequence (sequence + 1) } hnumbers
          (show (found.managedSize + e.2.length.toUInt64).toNat + _ < _ by omega)
        simp only [if_neg hnumber]
        have hgrows : max found.nextArchiveSequence.toNat (sequence.toNat + 1) ≤
            found'.nextArchiveSequence.toNat := by
          rw [← hnext, ← toNat_max]
          exact UInt64.le_iff_toNat_le.mp hscan.grows
        refine ⟨found', hok, ?_, ?_, ?_, ?_, ?_, fun n hn hall => ?_⟩
        · rw [harchived, hscan.archives, List.append_assoc, List.map_cons, List.singleton_append]
        · rw [hkept, hscan.others, List.append_assoc, List.singleton_append]
        · rw [hstored, hscan.managed]
          show (found.managedSize + e.2.length.toUInt64).toNat + _ = _
          omega
        · exact UInt64.le_iff_toNat_le.mpr ((le_max_left _ _).trans hgrows)
        · rw [harchived]
          refine List.forall_mem_cons.mpr ⟨?_, hscan.fresh⟩
          exact UInt64.lt_iff_toNat_lt.mpr ((le_max_right _ _).trans hgrows)
        · rw [harchived] at hall
          obtain ⟨hle, hall⟩ := List.forall_mem_cons.mp hall
          have hle : sequence.toNat ≤ n := hle
          refine hscan.least n ?_ hall
          rw [toNat_max, hnext]
          omega

end Scan

/-- An open sink agrees with the files. -/
structure Kept (path : Bytes) (s : FileLogSink) (others : Entries) : Prop where
  listed : Listed path s.archives others
  fresh : ∀ a ∈ archived path others, a.1.sequence < s.nextArchiveSequence
  first : 1 ≤ s.nextArchiveSequence
  active : s.activeSize.toNat = s.file.length
  managed : s.managedSize.toNat = s.file.length + stored path others
  segment : s.segmentTargetSize ≤ s.maxTotalSize
  configured : s.maxTotalSize ≤ kMaxLogTotalSize

section Open

variable {path active : Bytes} {limit : UInt64} {entries : Entries}

/-- **A pruning of a sink**, which keeps everything but the oldest archives. -/
lemma Kept.prune {s : FileLogSink} {others : Entries} (h : Kept path s others)
    (hactive : s.file.length ≤ s.maxTotalSize.toNat) :
    ∃ s' others', s.pruneArchives others = .ok (s', others') ∧ Kept path s' others' ∧
      s'.managedSize ≤ s'.maxTotalSize ∧ Trimmed path others others' ∧
      (s.file.length + stored path others ≤ s.maxTotalSize.toNat → others' = others) ∧ s'.file = s.file ∧
      s'.maxTotalSize = s.maxTotalSize ∧ s'.nextArchiveSequence = s.nextArchiveSequence := by
  obtain ⟨archives, managed, others', hok, hlisted, hmanaged, hle, htrimmed, hwhole⟩ :=
    pruneFrom_ok h.listed hactive h.managed
  refine ⟨{ s with archives := archives, managedSize := managed }, others', ?_,
    ⟨hlisted, fun a ha => h.fresh a (htrimmed.subset ha), h.first, h.active, hmanaged, h.segment,
      h.configured⟩,
    hle, htrimmed, hwhole, rfl, rfl, rfl⟩
  rw [FileLogSink.pruneArchives, hok]
  rfl

lemma compactOversizedActive_limit {s s' : Logging.FileLogSink} {files : Files} {temporary : Bytes}
    (h : s.compactOversizedActive files path temporary = .ok s') : s'.maxTotalSize = s.maxTotalSize := by
  unfold Logging.FileLogSink.compactOversizedActive at h
  split at h
  · cases h
    rfl
  split at h
  · cases h
  cases hstart : compactStart s with
  | none =>
    rw [hstart] at h
    cases h
  | some start =>
    rw [hstart] at h
    dsimp only at h
    split_ifs at h
    cases hreplace : files.replaceError with
    | some error =>
      rw [hreplace] at h
      cases h
    | none =>
      rw [hreplace] at h
      cases h
      rfl

/-- **The active file after a compaction** is within the limit, and an end of what it was; it is what
it was where it was within the limit. -/
lemma compact_active {managed : UInt64} (temporary : Bytes) {n : ℕ}
    (hmanaged : managed.toNat = active.length + n) :
    ∃ s, Logging.FileLogSink.compactOversizedActive ⟨limit, active.length.toUInt64, managed, active⟩ {} path
        temporary = .ok s ∧
      s.maxTotalSize = limit ∧ s.activeSize.toNat = s.file.length ∧ s.managedSize.toNat = s.file.length + n ∧
      s.file.length ≤ limit.toNat ∧ s.file <:+ active ∧ (active.length ≤ limit.toNat → s.file = active) ∧
      (limit.toNat < active.length → Newest limit.toNat active s.file) := by
  have hbound := managed.toNat_lt
  have hsize : active.length.toUInt64.toNat = active.length :=
    UInt64.toNat_ofNat_of_lt' (show active.length < 2 ^ 64 by omega)
  by_cases hlarge : limit < active.length.toUInt64
  · have hlt := UInt64.lt_iff_toNat_lt.mp hlarge
    rw [hsize] at hlt
    obtain ⟨s, hok⟩ := compactOversizedActive_done
      (s := ⟨limit, active.length.toUInt64, managed, active⟩) hsize hlarge path temporary
    obtain ⟨hnewest, hactive, hle, hdropped⟩ := compactOversizedActive_ok hsize hlarge hok
    dsimp only at hnewest hle hdropped
    have htoNat : (active.length - s.file.length).toUInt64.toNat = active.length - s.file.length :=
      UInt64.toNat_ofNat_of_lt' (show active.length - s.file.length < 2 ^ 64 by omega)
    have hrest : s.managedSize.toNat = s.file.length + n := by
      rw [hdropped, UInt64.toNat_sub_of_le _ _ (UInt64.le_iff_toNat_le.mpr (by omega)), htoNat]
      omega
    have hend : s.file.length ≤ limit.toNat ∧ s.file <:+ active := by
      rcases hnewest with ⟨start, hstart, -, hfits, hkept, -⟩ | ⟨hnil, -⟩
      · rw [hkept, List.length_drop]
        exact ⟨hfits, List.drop_suffix _ _⟩
      · rw [hnil]
        exact ⟨Nat.zero_le _, List.nil_suffix⟩
    exact ⟨s, hok, compactOversizedActive_limit hok, hactive, hrest, hend.1, hend.2,
      fun hfits => absurd hfits (by omega), fun _ => hnewest⟩
  · have hle : active.length ≤ limit.toNat := by
      rw [UInt64.not_lt, UInt64.le_iff_toNat_le, hsize] at hlarge
      exact hlarge
    refine ⟨_, if_pos (UInt64.not_lt.mp hlarge), rfl, hsize, hmanaged, hle, List.suffix_refl _,
      fun _ => rfl, fun hlt => absurd hle (by omega)⟩

/-- What an open makes of the files. -/
structure Opened (path : Bytes) (limit : UInt64) (active : Bytes) (entries : Entries) (s : FileLogSink)
    (others : Entries) : Prop where
  kept : Kept path s others
  maximum : s.maxTotalSize = limit
  within : s.managedSize ≤ s.maxTotalSize
  trimmed : Trimmed path entries others
  whole : s.file.length + stored path entries ≤ limit.toNat → others = keptOf path entries
  suffix : s.file <:+ active
  fits : active.length ≤ limit.toNat → s.file = active
  newest : limit.toNat < active.length → Newest limit.toNat active s.file
  least : ∀ n, (∀ a ∈ archived path entries, a.1.sequence.toNat ≤ n) → s.nextArchiveSequence.toNat ≤ n + 1

/-- The order of the files of a directory does not matter. -/
lemma Listed.of_sort {found : List Archive} {others : Entries} (hnames : (others.map Prod.fst).Nodup)
    (hfound : found.Perm ((archived path others).map Prod.fst)) :
    Listed path (found.insertionSort fun a b => a.sequence ≤ b.sequence) others := by
  refine ⟨hnames, (List.perm_insertionSort _ found).trans hfound, ?_⟩
  have htotal : Std.Total fun a b : Archive => a.sequence ≤ b.sequence :=
    ⟨fun a b => UInt64.le_total _ _⟩
  have htrans : IsTrans Archive fun a b => a.sequence ≤ b.sequence :=
    ⟨fun a b c => UInt64.le_trans⟩
  exact List.pairwise_insertionSort _ found

/-- A segment is within the limit. -/
lemma segment_le (h : limit ≠ 0) : min (128 * 1024 * 1024) (max 1 (limit / 16)) ≤ limit := by
  have hpositive : limit.toNat ≠ 0 := fun hzero => h (UInt64.toNat_inj.mp hzero)
  have hsixteenth : max 1 (limit / 16) ≤ limit := by
    rw [UInt64.le_iff_toNat_le, toNat_max, UInt64.toNat_div]
    show max 1 (limit.toNat / 16) ≤ limit.toNat
    omega
  change (if 128 * 1024 * 1024 ≤ max 1 (limit / 16) then 128 * 1024 * 1024 else max 1 (limit / 16)) ≤ limit
  split_ifs with hle
  · exact UInt64.le_trans hle hsixteenth
  · exact hsixteenth

/-- **Every open succeeds**, unless an archive has the last number. -/
lemma openSink_ok (file : Option Bytes) (now : ℕ) (hpositive : limit ≠ 0) (hlimit : limit ≤ kMaxLogTotalSize)
    (hnames : (entries.map Prod.fst).Nodup)
    (hnumbers : ∀ a ∈ archived path entries, a.1.sequence ≠ maxValue)
    (hfits : (file.getD []).length + stored path entries < 2 ^ 64) :
    ∃ s others, openSink path limit file entries now = .ok (s, others) ∧
      Opened path limit (file.getD []) entries s others := by
  obtain ⟨active, hactive⟩ : ∃ active, active = file.getD [] := ⟨_, rfl⟩
  rw [← hactive] at hfits ⊢
  have hsize : active.length.toUInt64.toNat = active.length :=
    UInt64.toNat_ofNat_of_lt' (show active.length < 2 ^ 64 by omega)
  obtain ⟨found, hscan, hfound⟩ := scan_ok { managedSize := active.length.toUInt64 } hnumbers
    (show active.length.toUInt64.toNat + _ < _ by omega)
  have hmanaged : found.managedSize.toNat = active.length + stored path entries := by
    rw [hfound.managed]
    exact congrArg (· + stored path entries) hsize
  have harchived : archived path found.others = archived path entries := by
    rw [hfound.others]
    exact archived_keptOf entries
  have hstored : stored path found.others = stored path entries := by rw [stored, harchived, stored]
  obtain ⟨c, hcompact, hmax, hsize', hmanaged', hsmall, hsuffix, hsame, hnewest⟩ :=
    @compact_active path active limit _ (path ++ (str ".ccs-compact-" ++ decimal now)) _ hmanaged
  have hlisted : Listed path (found.archives.insertionSort fun a b => a.sequence ≤ b.sequence)
      found.others := by
    refine Listed.of_sort ?_ ?_
    · rw [hfound.others]
      exact hnames.sublist (List.filter_sublist.map Prod.fst)
    · rw [hfound.archives, harchived]
      exact List.Perm.refl _
  obtain ⟨big, hbig⟩ : ∃ big : FileLogSink, big = { c with
      segmentTargetSize := min (128 * 1024 * 1024) (max 1 (limit / 16))
      archives := found.archives.insertionSort fun a b => a.sequence ≤ b.sequence
      nextArchiveSequence := found.nextArchiveSequence } := ⟨_, rfl⟩
  have hkept : Kept path big found.others := by
    rw [hbig]
    refine ⟨hlisted, ?_, hfound.grows, hsize', ?_, ?_, hmax ▸ hlimit⟩
    · rw [harchived]
      exact hfound.fresh
    · rw [hstored]
      exact hmanaged'
    · rw [hmax]
      exact segment_le hpositive
  have hbounded : big.file.length ≤ big.maxTotalSize.toNat := by
    rw [hbig]
    exact hmax.symm ▸ hsmall
  obtain ⟨s, others, hok, hkept', hwithin, htrimmed, hwhole, hfile, hmaximum, hnext⟩ := hkept.prune hbounded
  have hfileof : s.file = c.file := by rw [hfile, hbig]
  refine ⟨s, others, ?_, hkept', ?_, hwithin, ?_, fun hfits => ?_, ?_, ?_, ?_, fun n hn => ?_⟩
  · unfold openSink scanExisting
    rw [if_neg hpositive]
    simp only [← hactive, hscan, ok_bind, hcompact]
    rw [← hok, hbig]
  · rw [hmaximum, hbig]
    exact hmax
  · obtain ⟨dropped, hsplit, hdropped, hbefore⟩ := htrimmed
    exact ⟨dropped, harchived ▸ hsplit, hdropped, hbefore⟩
  · rw [hwhole, hfound.others]
    · exact List.nil_append _
    · rw [← hfile, hstored, hbig]
      exact hmax.symm ▸ hfits
  · rw [hfileof]
    exact hsuffix
  · rw [hfileof]
    exact hsame
  · rw [hfileof]
    exact hnewest
  · rw [hnext, hbig]
    exact hfound.least n (by show 1 ≤ n + 1; omega) hn

end Open

/-! ### Writing -/

section Write

variable {path data : Bytes} {s : FileLogSink} {others : Entries}

/-- **The name of the next archive is free.** -/
lemma Kept.free (h : Kept path s others) :
    Path.filename (archivePath path s.nextArchiveSequence) ∉ others.map Prod.fst := by
  intro hmem
  obtain ⟨e, he, hname⟩ := List.mem_map.mp hmem
  have hparse : parseArchiveSequence path e.1 = some s.nextArchiveSequence := by
    rw [hname, parseArchiveSequence_filename]
    exact parseArchiveSequence_archivePath path (UInt64.le_iff_toNat_le.mp h.first)
  have harchived : (⟨e.1, s.nextArchiveSequence, e.2.length.toUInt64⟩, e.2) ∈ archived path others :=
    mem_archived.mpr ⟨he, hparse, rfl⟩
  exact UInt64.lt_irrefl _ (h.fresh _ harchived)

/-- The active file as the next archive. -/
def FileLogSink.nextArchive (s : FileLogSink) (path : Bytes) : Archive × Bytes :=
  (⟨Path.filename (archivePath path s.nextArchiveSequence), s.nextArchiveSequence, s.activeSize⟩, s.file)

/-- **A rotation** makes an archive of the active file, and leaves all others. -/
lemma Kept.rotate (h : Kept path s others) (hnext : s.nextArchiveSequence ≠ maxValue) :
    ∃ s' others', s.rotate path others = .ok (s', others') ∧ Kept path s' others' ∧ s'.file = [] ∧
      archived path others' = archived path others ++ [s.nextArchive path] ∧
      s'.managedSize = s.managedSize ∧ s'.maxTotalSize = s.maxTotalSize ∧
      s'.nextArchiveSequence.toNat = s.nextArchiveSequence.toNat + 1 := by
  obtain ⟨name, hname⟩ : ∃ name, name = Path.filename (archivePath path s.nextArchiveSequence) := ⟨_, rfl⟩
  have hfree : name ∉ others.map Prod.fst := hname ▸ h.free
  have hsame : others.filter (·.1 ≠ name) = others := by
    rw [List.filter_eq_self]
    intro e he
    exact decide_eq_true fun heq => hfree (heq ▸ List.mem_map_of_mem he)
  have hsize : s.file.length.toUInt64 = s.activeSize := by
    rw [← h.active, Nat.toUInt64_eq, UInt64.ofNat_toNat]
  have hparse : parseArchiveSequence path name = some s.nextArchiveSequence := by
    rw [hname, parseArchiveSequence_filename]
    exact parseArchiveSequence_archivePath path (UInt64.le_iff_toNat_le.mp h.first)
  have harchived : archived path (others ++ [(name, s.file)]) =
      archived path others ++ [s.nextArchive path] := by
    rw [archived, List.filterMap_append, List.filterMap_cons, hparse, hsize, hname]
    rfl
  have hgrows := succ_toNat hnext
  have hfresh : ∀ a ∈ archived path others ++ [s.nextArchive path],
      a.1.sequence < s.nextArchiveSequence + 1 := by
    intro a ha
    rw [UInt64.lt_iff_toNat_lt, hgrows]
    rcases List.mem_append.mp ha with hold | hnew
    · have hlt := UInt64.lt_iff_toNat_lt.mp (h.fresh a hold)
      omega
    · rw [List.mem_singleton.mp hnew]
      exact Nat.lt_succ_self _
  refine ⟨{ s with
      archives := s.archives ++ [⟨name, s.nextArchiveSequence, s.activeSize⟩]
      nextArchiveSequence := s.nextArchiveSequence + 1
      activeSize := 0
      file := [] }, others ++ [(name, s.file)], ?_,
    ⟨⟨?_, ?_, ?_⟩, ?_, ?_, rfl, ?_, h.segment, h.configured⟩, rfl, harchived, rfl, rfl, hgrows⟩
  · rw [FileLogSink.rotate, if_neg hnext, ← hname]
    simp only [hsame]
  · rw [List.map_append, List.nodup_append]
    refine ⟨h.listed.names, List.nodup_singleton _, fun a ha b hb heq => hfree ?_⟩
    have hb : b = name := List.mem_singleton.mp hb
    rw [← hb, ← heq]
    exact ha
  · rw [harchived, List.map_append, hname]
    exact h.listed.listed.append_right [(s.nextArchive path).1]
  · refine List.pairwise_append.mpr ⟨h.listed.sorted, List.pairwise_singleton _ _, fun a ha b hb => ?_⟩
    obtain ⟨x, hx, rfl⟩ := List.mem_map.mp (h.listed.listed.mem_iff.mp ha)
    rw [List.mem_singleton.mp hb]
    exact UInt64.le_of_lt (h.fresh x hx)
  · rw [harchived]
    exact hfresh
  · rw [UInt64.le_iff_toNat_le, hgrows]
    exact Nat.le_add_left _ _
  · have hstored : stored path (others ++ [(name, s.file)]) = stored path others + s.file.length := by
      rw [stored, harchived, List.map_append, List.sum_append, stored]
      rfl
    show s.managedSize.toNat = 0 + _
    rw [hstored, h.managed]
    omega

/-- The archive that a rotation makes stands last. -/
lemma Kept.contents_rotate (h : Kept path s others) {others' : Entries}
    (harchived : archived path others' = archived path others ++ [s.nextArchive path]) {content : Bytes}
    (hc : Contents path data others' content) :
    ∃ before, Contents path s.file others before ∧ content = before ++ data := by
  obtain ⟨archives, hperm, hordered, rfl⟩ := hc
  rw [harchived] at hperm
  obtain ⟨earlier, rfl, hearlier⟩ := ordered_concat hperm hordered h.fresh
  refine ⟨_, ⟨earlier, hearlier, (List.pairwise_append.mp hordered).1, rfl⟩, ?_⟩
  rw [List.map_append, List.flatten_append, List.map_singleton, List.flatten_singleton,
    FileLogSink.nextArchive]

/-- **A record that fits** is added to the active file, and pruning finds the active file within the
limit. -/
lemma Kept.append (h : Kept path s others) (hwithin : s.managedSize ≤ s.maxTotalSize)
    (hfits : s.file.length + data.length ≤ s.maxTotalSize.toNat) :
    ∃ s' others',
      { s with
        file := s.file ++ data
        activeSize := s.activeSize + data.length.toUInt64
        managedSize := s.managedSize + data.length.toUInt64 }.pruneArchives others = .ok (s', others') ∧
      Kept path s' others' ∧ s'.managedSize ≤ s'.maxTotalSize ∧ Trimmed path others others' ∧
      s'.file = s.file ++ data ∧ s'.maxTotalSize = s.maxTotalSize ∧
      s'.nextArchiveSequence = s.nextArchiveSequence := by
  have hmaximum := UInt64.le_iff_toNat_le.mp h.configured
  have hmanaged := UInt64.le_iff_toNat_le.mp hwithin
  have hterabyte : kMaxLogTotalSize.toNat = 2 ^ 40 := by decide
  have hsize : data.length.toUInt64.toNat = data.length :=
    UInt64.toNat_ofNat_of_lt' (show data.length < 2 ^ 64 by omega)
  have hactive : (s.activeSize + data.length.toUInt64).toNat = (s.file ++ data).length := by
    rw [UInt64.toNat_add, hsize, h.active, List.length_append]
    omega
  have hsum : (s.managedSize + data.length.toUInt64).toNat = (s.file ++ data).length + stored path others := by
    rw [UInt64.toNat_add, hsize, List.length_append]
    have := h.managed
    omega
  obtain ⟨big, hbig⟩ : ∃ big : FileLogSink, big = { s with
      file := s.file ++ data
      activeSize := s.activeSize + data.length.toUInt64
      managedSize := s.managedSize + data.length.toUInt64 } := ⟨_, rfl⟩
  have hkept : Kept path big others := by
    rw [hbig]
    exact ⟨h.listed, h.fresh, h.first, hactive, hsum, h.segment, h.configured⟩
  have hbounded : big.file.length ≤ big.maxTotalSize.toNat := by
    rw [hbig, List.length_append]
    exact hfits
  obtain ⟨s', others', hok, hkept', hwithin', htrimmed, -, hfile, hmaximum', hnext⟩ := hkept.prune hbounded
  rw [hbig] at hok hfile hmaximum' hnext
  exact ⟨s', others', hok, hkept', hwithin', htrimmed, hfile, hmaximum', hnext⟩

/-- What a write makes of the files. -/
structure Wrote (path data : Bytes) (s : FileLogSink) (others : Entries) (s' : FileLogSink)
    (others' : Entries) : Prop where
  kept : Kept path s' others'
  within : s'.managedSize ≤ s'.maxTotalSize
  maximum : s'.maxTotalSize = s.maxTotalSize
  next : s'.nextArchiveSequence.toNat ≤ s.nextArchiveSequence.toNat + 1
  contents : ∀ content, Contents path s'.file others' content →
    ∃ before, Contents path s.file others before ∧ content <:+ before ++ data

/-- **Every write succeeds** of a record within the limit, unless it needs a number behind the last. -/
lemma Kept.write (h : Kept path s others) (hwithin : s.managedSize ≤ s.maxTotalSize)
    (hdata : data.length ≤ s.maxTotalSize.toNat)
    (hnext : s.Rotates data → s.nextArchiveSequence ≠ maxValue) :
    ∃ s' others', s.write path others data = .ok (s', others') ∧ Wrote path data s others s' others' := by
  rw [FileLogSink.write, if_neg (Nat.not_lt.mpr hdata)]
  by_cases hrotates : s.Rotates data
  · obtain ⟨r, between, hrotate, hkept, hfile, harchived, hmanaged, hmaximum, hgrows⟩ :=
      h.rotate (hnext hrotates)
    have hfits : r.file.length + data.length ≤ r.maxTotalSize.toNat := by
      rw [hfile, hmaximum, List.length_nil, Nat.zero_add]
      exact hdata
    obtain ⟨s', others', hok, hkept', hwithin', htrimmed, hfile', hmaximum', hnext'⟩ :=
      hkept.append (hmanaged ▸ hmaximum ▸ hwithin) hfits
    rw [if_pos hrotates, hrotate, ok_bind]
    refine ⟨s', others', hok, hkept', hwithin', hmaximum'.trans hmaximum, ?_, fun content hc => ?_⟩
    · rw [hnext', hgrows]
    · obtain ⟨before, hbefore, hsuffix⟩ := htrimmed.contents hc
      rw [hfile', hfile, List.nil_append] at hbefore
      obtain ⟨earlier, hearlier, rfl⟩ := h.contents_rotate harchived hbefore
      exact ⟨earlier, hearlier, hsuffix⟩
  · have hfits : s.file.length + data.length ≤ s.maxTotalSize.toNat := by
      have hmaximum := UInt64.le_iff_toNat_le.mp h.configured
      have hsegment := UInt64.le_iff_toNat_le.mp h.segment
      have hmanaged := UInt64.le_iff_toNat_le.mp hwithin
      have hterabyte : kMaxLogTotalSize.toNat = 2 ^ 40 := by decide
      have hsize : data.length.toUInt64.toNat = data.length :=
        UInt64.toNat_ofNat_of_lt' (show data.length < 2 ^ 64 by omega)
      rw [FileLogSink.Rotates, not_and_or, not_not, gt_iff_lt, UInt64.not_lt] at hrotates
      have hactive := h.active
      rcases hrotates with hzero | hshort
      · rw [hzero] at hactive
        have hempty : 0 = s.file.length := hactive
        omega
      · have hsum := UInt64.le_iff_toNat_le.mp hshort
        have hwhole := h.managed
        rw [UInt64.toNat_add, hsize, hactive] at hsum
        omega
    obtain ⟨s', others', hok, hkept', hwithin', htrimmed, hfile', hmaximum', hnext'⟩ :=
      h.append hwithin hfits
    rw [if_neg hrotates, ok_bind]
    refine ⟨s', others', hok, hkept', hwithin', hmaximum', ?_, fun content hc => ?_⟩
    · rw [hnext']
      exact Nat.le_succ _
    · obtain ⟨before, hbefore, hsuffix⟩ := htrimmed.contents hc
      rw [hfile'] at hbefore
      obtain ⟨archives, hperm, hordered, rfl⟩ := hbefore
      exact ⟨_, ⟨archives, hperm, hordered, rfl⟩, by rwa [List.append_assoc]⟩

/-- What a write that succeeds has checked. -/
lemma write_checked {r : FileLogSink × Entries} (h : s.write path others data = .ok r) :
    data.length ≤ s.maxTotalSize.toNat ∧ (s.Rotates data → s.nextArchiveSequence ≠ maxValue) := by
  unfold FileLogSink.write at h
  split at h
  · cases h
  next hdata =>
    refine ⟨not_lt.mp hdata, fun hrotates hlast => ?_⟩
    rw [if_pos hrotates, FileLogSink.rotate, if_pos hlast] at h
    cases h

end Write

/-! ### Runs of a log -/

section Run

variable {path : Bytes} {n : ℕ} {s : State} {a : Action}

/-- The calls of a log: a limit is one that a configuration accepts, and a directory is read with all
that is in it. -/
def Allowed (s : State) : Action → Prop
  | .openSink limit entries _ => limit ≠ 0 ∧ limit ≤ kMaxLogTotalSize ∧
      ∀ active others, s = .closed active others → entries.Perm others
  | _ => True

/-- An open that finds an active file over the limit leaves no archive before it. -/
def Unbroken (path : Bytes) (s : State) : Action → Prop
  | .openSink limit entries now => ∀ active others, s = .closed active others →
      (active.getD []).length ≤ limit.toNat ∨
      ∀ sink others', openSink path limit active entries now = .ok (sink, others') → sink.archives = []
  | _ => True

/-- The state of a log whose archives have numbers up to one. -/
def Accounted (path : Bytes) (n : ℕ) : State → Prop
  | .closed active others => (others.map Prod.fst).Nodup ∧
      (∀ a ∈ archived path others, a.1.sequence ≠ maxValue ∧ a.1.sequence.toNat ≤ n) ∧
      (active.getD []).length + stored path others < 2 ^ 64
  | .opened sink others => Kept path sink others ∧ sink.managedSize ≤ sink.maxTotalSize ∧
      sink.nextArchiveSequence.toNat ≤ n + 1

lemma Accounted.succ (h : Accounted path n s) : Accounted path (n + 1) s := by
  cases s with
  | closed active others =>
    obtain ⟨hnames, hnumbers, hsizes⟩ := h
    exact ⟨hnames, fun a ha => ⟨(hnumbers a ha).1, (hnumbers a ha).2.trans (Nat.le_succ n)⟩, hsizes⟩
  | opened sink others =>
    obtain ⟨hkept, hwithin, hnext⟩ := h
    exact ⟨hkept, hwithin, hnext.trans (Nat.le_succ _)⟩

/-- **Every open succeeds** in a run. -/
lemma Accounted.opens {active : Option Bytes} {others entries : Entries} {limit : UInt64} (now : ℕ)
    (h : Accounted path n (.closed active others))
    (hallowed : Allowed (.closed active others) (.openSink limit entries now)) :
    ∃ sink others', openSink path limit active entries now = .ok (sink, others') ∧
      Opened path limit (active.getD []) entries sink others' ∧ sink.nextArchiveSequence.toNat ≤ n + 1 ∧
      (archived path entries).Perm (archived path others) := by
  obtain ⟨hnames, hnumbers, hsizes⟩ := h
  obtain ⟨hpositive, hlimit, hentries⟩ := hallowed
  have hperm := hentries active others rfl
  have harchived := @archived_perm path _ _ hperm
  have hnumbers' := fun a ha => hnumbers a (harchived.mem_iff.mp ha)
  obtain ⟨sink, others', hok, hopened⟩ := openSink_ok active now hpositive hlimit
    ((hperm.map Prod.fst).nodup_iff.mpr hnames) (fun a ha => (hnumbers' a ha).1)
    (by rw [stored_perm harchived]; exact hsizes)
  exact ⟨sink, others', hok, hopened, hopened.least n fun a ha => (hnumbers' a ha).2, harchived⟩

lemma Accounted.step (h : Accounted path n s) (ha : Allowed s a) :
    Accounted path (n + 1) (Retention.step path s a) := by
  cases s with
  | closed active others =>
    cases a with
    | openSink limit entries now =>
      obtain ⟨sink, others', hok, hopened, hnext, -⟩ := h.opens now ha
      rw [Retention.step, hok]
      exact ⟨hopened.kept, hopened.within, hnext.trans (Nat.le_succ _)⟩
    | write data => exact h.succ
    | close => exact h.succ
  | opened sink others =>
    obtain ⟨hkept, hwithin, hnext⟩ := h
    cases a with
    | openSink limit entries now => exact Accounted.succ ⟨hkept, hwithin, hnext⟩
    | write data =>
      rw [Retention.step]
      cases hwrite : sink.write path others data with
      | error e => exact Accounted.succ ⟨hkept, hwithin, hnext⟩
      | ok r =>
        obtain ⟨hdata, hlast⟩ := write_checked hwrite
        obtain ⟨sink', others', hok, hwrote⟩ := hkept.write hwithin hdata hlast
        rw [hok] at hwrite
        cases hwrite
        exact ⟨hwrote.kept, hwrote.within, hwrote.next.trans (Nat.succ_le_succ hnext)⟩
    | close =>
      have hmanaged := hkept.managed
      have hle := sink.managedSize.toNat_lt
      refine ⟨hkept.listed.names, fun a ha => ?_, ?_⟩
      · have hlt := UInt64.lt_iff_toNat_lt.mp (hkept.fresh a ha)
        have hbound := sink.nextArchiveSequence.toNat_lt
        refine ⟨fun heq => ?_, by omega⟩
        rw [heq] at hlt
        have hmax : maxValue.toNat = 2 ^ 64 - 1 := rfl
        omega
      · show sink.file.length + stored path others < 2 ^ 64
        omega

/-- What an open leaves, where it leaves no gap. -/
lemma Opened.contents {limit : UInt64} {active content : Bytes} {entries others : Entries}
    {sink : FileLogSink} (h : Opened path limit active entries sink others)
    (hunbroken : active.length ≤ limit.toNat ∨ sink.archives = [])
    (hc : Contents path sink.file others content) :
    ∃ before, Contents path active entries before ∧ content <:+ before := by
  rcases hunbroken with hfits | hnone
  · rw [h.fits hfits] at hc
    exact h.trimmed.contents hc
  · have hempty : archived path others = [] := by
      have hperm := h.kept.listed.listed
      rw [hnone] at hperm
      exact List.map_eq_nil_iff.mp (List.Perm.nil_eq hperm).symm
    obtain ⟨archives, hperm, -, rfl⟩ := hc
    rw [hempty] at hperm
    rw [List.Perm.eq_nil hperm]
    obtain ⟨earlier, hearlier⟩ := exists_contents path active entries
    exact ⟨_, hearlier, h.suffix.trans (List.suffix_append _ _)⟩

/-- **A call drops the oldest bytes only**, and adds what it records. -/
lemma Accounted.contents_step (h : Accounted path n s) (ha : Allowed s a) (hunbroken : Unbroken path s a)
    {content : Bytes} (hc : (Retention.step path s a).Contents path content) :
    ∃ before, s.Contents path before ∧ content <:+ before ++ recorded path s a := by
  have hsame : ∀ {r : State}, r.Contents path content →
      ∃ before, r.Contents path before ∧ content <:+ before ++ [] :=
    fun hr => ⟨content, hr, by rw [List.append_nil]⟩
  cases s with
  | closed active others =>
    cases a with
    | openSink limit entries now =>
      obtain ⟨sink, others', hok, hopened, -, harchived⟩ := h.opens now ha
      rw [Retention.step, hok] at hc
      have hcases := (hunbroken active others rfl).imp_right fun hnone => hnone sink others' hok
      obtain ⟨before, hbefore, hsuffix⟩ := hopened.contents hcases hc
      refine ⟨before, hbefore.of_perm harchived, ?_⟩
      show content <:+ before ++ []
      rwa [List.append_nil]
    | write data => exact hsame hc
    | close => exact hsame hc
  | opened sink others =>
    obtain ⟨hkept, hwithin, -⟩ := h
    cases a with
    | openSink limit entries now => exact hsame hc
    | write data =>
      rw [Retention.step] at hc
      rw [recorded]
      cases hwrite : sink.write path others data with
      | error e =>
        rw [hwrite] at hc
        exact hsame hc
      | ok r =>
        obtain ⟨hdata, hlast⟩ := write_checked hwrite
        obtain ⟨sink', others', hok, hwrote⟩ := hkept.write hwithin hdata hlast
        rw [hok] at hc
        exact hwrote.contents content hc
    | close => exact hsame hc

lemma Accounted.run {actions : List Action} (h : Accounted path n s)
    (hallowed : Along (Retention.step path) Allowed s actions) :
    Accounted path (n + actions.length) (actions.foldl (Retention.step path) s) := by
  induction actions generalizing s n with
  | nil => exact h
  | cons a actions ih =>
    have hrest := ih (h.step hallowed.1) hallowed.2
    rwa [Nat.add_right_comm, Nat.add_assoc] at hrest

lemma Accounted.contents_run {actions : List Action} (h : Accounted path n s)
    (hallowed : Along (Retention.step path) Allowed s actions)
    (hunbroken : Along (Retention.step path) (Unbroken path) s actions) {content : Bytes}
    (hc : (actions.foldl (Retention.step path) s).Contents path content) :
    ∃ before, s.Contents path before ∧ content <:+ before ++ records path s actions := by
  induction actions generalizing s n with
  | nil => exact ⟨content, hc, by rw [records, List.append_nil]⟩
  | cons a actions ih =>
    obtain ⟨between, hbetween, hsuffix⟩ := ih (h.step hallowed.1) hallowed.2 hunbroken.2 hc
    obtain ⟨before, hbefore, hsuffix'⟩ := h.contents_step hallowed.1 hunbroken.1 hbetween
    refine ⟨before, hbefore, hsuffix.trans ?_⟩
    rw [records, ← List.append_assoc]
    exact List.suffix_append_self_iff.mpr hsuffix'

end Run

/-- The files of a directory before a log is opened there for the first time. -/
structure Folder (path : Bytes) where
  active : Option Bytes
  others : Entries
  names : (others.map Prod.fst).Nodup
  /-- Sizes are counted in 64 bits. -/
  sizes : (active.getD []).length + stored path others < 2 ^ 64
  numbers : ∀ a ∈ archived path others, a.1.sequence.toNat < 2 ^ 64 - 2

def Folder.state {path : Bytes} (f : Folder path) : State := .closed f.active f.others

lemma Folder.accounted {path : Bytes} (f : Folder path) {n : ℕ}
    (hn : ∀ a ∈ archived path f.others, a.1.sequence.toNat ≤ n) : Accounted path n f.state := by
  refine ⟨f.names, fun a ha => ⟨fun hlast => ?_, hn a ha⟩, f.sizes⟩
  have hlt := f.numbers a ha
  rw [hlast] at hlt
  exact absurd hlt (by decide)

/-- Where the active file is over the limit and has no line end, and what was written before fits, an
open keeps the old archive and drops the newer record. -/
theorem openSink_gap {limit : UInt64} {n now : ℕ} (hlimit : 2 ≤ limit.toNat)
    (hmaximum : limit ≤ kMaxLogTotalSize) (hn : limit.toNat < n) (hn' : n + 2 < 2 ^ 64) :
    ∃ sink others, openSink (str "l") limit (some (List.replicate n (ch 'x')))
        [(str "l.ccs-archive-1", str "a\n")] now = .ok (sink, others) ∧ sink.file = [] ∧
      others = [(str "l.ccs-archive-1", str "a\n")] := by
  obtain ⟨entries, hentries⟩ : ∃ entries : Entries, entries = [(str "l.ccs-archive-1", str "a\n")] :=
    ⟨_, rfl⟩
  have harchived : archived (str "l") entries =
      [(⟨str "l.ccs-archive-1", 1, 2⟩, str "a\n")] := by
    rw [hentries]
    decide
  have hstored : stored (str "l") entries = 2 := by
    rw [stored, harchived]
    rfl
  have hlength : ((some (List.replicate n (ch 'x'))).getD []).length = n := List.length_replicate
  obtain ⟨sink, others, hok, hopened⟩ := openSink_ok (some (List.replicate n (ch 'x'))) now
    (fun hzero => by rw [hzero] at hlimit; exact absurd hlimit (by decide)) hmaximum
    (show (entries.map Prod.fst).Nodup by rw [hentries]; exact List.nodup_singleton _)
    (fun a ha => by
      rw [harchived] at ha
      rw [List.mem_singleton.mp ha]
      decide)
    (by rw [hlength, hstored]; exact hn')
  have hfile : sink.file = [] := by
    refine (hopened.newest (by rw [hlength]; exact hn)).eq_nil (by rw [hlength]; exact hn) fun i hi => ?_
    have hx := List.eq_of_mem_replicate (List.mem_of_getElem? hi)
    exact absurd hx (by decide)
  have hothers : others = entries := by
    rw [hopened.whole (by rw [hfile, hstored]; exact hlimit), hentries]
    decide
  exact ⟨sink, others, hentries ▸ hok, hfile, hothers.trans hentries⟩

end CcsTrans.Logging.Retention
