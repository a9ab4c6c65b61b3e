import CcsTrans.Core.Path
import CcsTrans.Logging.Lines
import CcsTrans.Rules.ArrayIndex

/-!
The names of log archives.

An archive stands beside the active file, and has its name with a number behind it. The number is
written with zeros in front, so that the names are in order, and read with or without them.
-/

namespace CcsTrans.Logging.Archives

open CcsTrans.Text CcsTrans.Core CcsTrans.Decimals CcsTrans.Logging.Lines

/-- `archive_path`. -/
def archivePath (path : Bytes) (sequence : UInt64) : Bytes :=
  path ++ (str ".ccs-archive-" ++ padded 20 sequence.toNat)

/-- `parse_archive_sequence`, with the number it leaves when it succeeds. -/
def parseArchiveSequence (path candidate : Bytes) : Option UInt64 :=
  let managed := Path.filename path ++ str ".ccs-archive-"
  let filename := Path.filename candidate
  if filename.length ≤ managed.length ∨ filename.take managed.length ≠ managed then none
  else match Decimals.scan 0 (filename.drop managed.length) with
    | .error _ => none
    | .ok sequence => if sequence ≠ 0 then some sequence else none

/-! ### The last part of a path -/

lemma filename_of_notMem {p : Bytes} (h : ch '/' ∉ p) : Path.filename p = p := by
  rw [Path.filename, splitOn_of_notMem h]
  rfl

lemma filename_slash (p : Bytes) {name : Bytes} (h : ch '/' ∉ name) :
    Path.filename (p ++ ch '/' :: name) = name := by
  rw [Path.filename, splitOn_append, splitOn_of_notMem h, List.getLast?_append]
  rfl

/-- A text without a slash goes to the last part. -/
lemma filename_append (p : Bytes) {s : Bytes} (h : ch '/' ∉ s) :
    Path.filename (p ++ s) = Path.filename p ++ s := by
  by_cases hslash : ch '/' ∈ p
  · obtain ⟨last, before, hsplit, hlast⟩ := List.eq_append_cons_of_mem (List.mem_reverse.mpr hslash)
    have hp : p = before.reverse ++ ch '/' :: last.reverse := by
      rw [← List.reverse_reverse p, hsplit, List.reverse_append, List.reverse_cons, List.append_assoc,
        List.singleton_append]
    have hname : ch '/' ∉ last.reverse := fun hmem => hlast (List.mem_reverse.mp hmem)
    have happend : ch '/' ∉ last.reverse ++ s := by
      rw [List.mem_append]
      exact not_or.mpr ⟨hname, h⟩
    rw [hp, List.append_assoc, List.cons_append, filename_slash _ happend, filename_slash _ hname]
  · have happend : ch '/' ∉ p ++ s := by
      rw [List.mem_append]
      exact not_or.mpr ⟨hslash, h⟩
    rw [filename_of_notMem happend, filename_of_notMem hslash]

lemma notSlash_filename (p : Bytes) : ch '/' ∉ Path.filename p := by
  rw [Path.filename]
  cases hlast : (splitOn (ch '/') p).getLast? with
  | none => exact List.not_mem_nil
  | some last => exact notMem_of_mem_splitOn (List.mem_of_getLast? hlast)

lemma parseArchiveSequence_filename (path candidate : Bytes) :
    parseArchiveSequence path (Path.filename candidate) = parseArchiveSequence path candidate := by
  rw [parseArchiveSequence, filename_of_notMem (notSlash_filename candidate)]
  rfl

/-! ### Names and numbers -/

variable {path candidate : Bytes} {sequence : UInt64}

/-- What the reader accepts. -/
lemma parseArchiveSequence_iff : parseArchiveSequence path candidate = some sequence ↔
    ∃ digits, Path.filename candidate = Path.filename path ++ str ".ccs-archive-" ++ digits ∧
      digits ≠ [] ∧ (∀ b ∈ digits, isDigit b = true) ∧ digitsValue digits = sequence.toNat ∧
      1 ≤ sequence.toNat := by
  have hpositive : sequence ≠ 0 ↔ 1 ≤ sequence.toNat := by
    rw [Nat.one_le_iff_ne_zero, ne_eq, ← UInt64.toNat_inj]
    rfl
  unfold parseArchiveSequence
  simp only []
  generalize Path.filename path ++ str ".ccs-archive-" = managed
  constructor
  · intro h
    split_ifs at h with hother
    rw [not_or, not_le, not_not] at hother
    refine ⟨(Path.filename candidate).drop managed.length, ?_, ?_, ?_⟩
    · conv_lhs => rw [← List.take_append_drop managed.length (Path.filename candidate), hother.2]
    · rw [ne_eq, List.drop_eq_nil_iff]
      omega
    · cases hscan : Decimals.scan 0 ((Path.filename candidate).drop managed.length) with
      | error refusal =>
        rw [hscan] at h
        cases h
      | ok n =>
        rw [hscan] at h
        simp only [] at h
        split_ifs at h with hzero
        cases h
        obtain ⟨hdigits, hvalue⟩ := scan_zero_ok_iff.mp hscan
        exact ⟨hdigits, hvalue.symm, hpositive.mp hzero⟩
  · rintro ⟨digits, hname, hne, hdigits, hvalue, hone⟩
    have hlength := List.length_pos_iff.mpr hne
    rw [hname, List.take_left, List.drop_left, List.length_append,
      if_neg (by rw [not_or, not_not]; exact ⟨by omega, rfl⟩),
      scan_zero_ok_iff.mpr ⟨hdigits, hvalue.symm⟩]
    exact if_pos (hpositive.mpr hone)

lemma notSlash_of_isDigit {s : Bytes} (h : ∀ b ∈ s, isDigit b = true) : ch '/' ∉ s :=
  fun hmem => absurd (h _ hmem) (by decide)

lemma isDigit_padded (width n : ℕ) : ∀ b ∈ padded width n, isDigit b = true := by
  intro b hb
  rcases List.mem_append.mp hb with hzero | hdigit
  · rw [List.eq_of_mem_replicate hzero]
    rfl
  · exact decimal_isDigit n b hdigit

/-- Every name that is written is read. -/
lemma parseArchiveSequence_archivePath (path : Bytes) {sequence : UInt64} (hone : 1 ≤ sequence.toNat) :
    parseArchiveSequence path (archivePath path sequence) = some sequence := by
  have hdigits := isDigit_padded 20 sequence.toNat
  have hslash : ch '/' ∉ str ".ccs-archive-" ++ padded 20 sequence.toNat := by
    rw [List.mem_append]
    exact not_or.mpr ⟨by decide, notSlash_of_isDigit hdigits⟩
  refine parseArchiveSequence_iff.mpr ⟨padded 20 sequence.toNat, ?_, ?_, hdigits, ?_, hone⟩
  · rw [archivePath, filename_append path hslash, List.append_assoc]
  · exact List.append_ne_nil_of_right_ne_nil _ (decimal_ne_nil _)
  · rw [padded, digitsValue_zeros, digitsValue_decimal]

/-- **Decimal scanners are exact**: an array index is read from its canonical numeral alone; the
name of an archive is read whatever zeros it has, and every name that is written is read. -/
theorem decimal_scanners :
    (∀ (token : Bytes) (size i : UInt64),
      Rules.Word.parseArrayIndex token size = .ok i ↔ token = decimal i.toNat ∧ i < size) ∧
    (∀ (path candidate : Bytes) (sequence : UInt64),
      parseArchiveSequence path candidate = some sequence ↔
        ∃ digits, Path.filename candidate = Path.filename path ++ str ".ccs-archive-" ++ digits ∧
          digits ≠ [] ∧ (∀ b ∈ digits, isDigit b = true) ∧ digitsValue digits = sequence.toNat ∧
          1 ≤ sequence.toNat) ∧
    ∀ (path : Bytes) (sequence : UInt64), 1 ≤ sequence.toNat →
      parseArchiveSequence path (archivePath path sequence) = some sequence := by
  exact ⟨fun token size i => Rules.Word.parseArrayIndex_ok_iff,
    fun path candidate sequence => parseArchiveSequence_iff,
    fun path sequence hone => parseArchiveSequence_archivePath path hone⟩

end CcsTrans.Logging.Archives
