import CcsTrans.Core.Digests
import CcsTrans.Fallible

/-!
Digests of contents that come in pieces.

The bytes that do not fill a block wait in a buffer. Whatever the pieces are, the state is that of
the blocks so far, and the buffer has what is behind them.
-/

namespace CcsTrans.Core

open CcsTrans.Text CcsTrans.Fallible

/-! ### The state -/

/-- `Sha256`, of which the buffer is an array of 64 bytes. -/
structure Sha256 where
  hash : Digest := {}
  buffer : Bytes := List.replicate 64 0
  bufferSize : ℕ := 0
  totalBytes : UInt64 := 0
  deriving DecidableEq

/-- What `std::copy_n` and `std::fill` do to an array. -/
def copyInto (buffer : Bytes) (position : ℕ) (source : Bytes) : Bytes :=
  buffer.take position ++ source ++ buffer.drop (position + source.length)

/-- Whole blocks are taken from the content. -/
def wholeBlocks (hash : Digest) (content : Bytes) (offset : ℕ) : Digest × ℕ :=
  if 64 ≤ content.length - offset then
    wholeBlocks (transform hash ((content.drop offset).take 64)) content (offset + 64)
  else (hash, offset)
termination_by content.length - offset

namespace Sha256

/-- A buffer that is not empty is filled up first. -/
def fill (s : Sha256) (content : Bytes) : Sha256 × ℕ :=
  if s.bufferSize ≠ 0 then
    let copied := min content.length (64 - s.bufferSize)
    let buffer := copyInto s.buffer s.bufferSize (content.take copied)
    let size := s.bufferSize + copied
    if size = 64 then
      ({ s with hash := transform s.hash buffer, buffer := buffer, bufferSize := 0 }, copied)
    else ({ s with buffer := buffer, bufferSize := size }, copied)
  else (s, 0)

/-- `Sha256::update`. -/
def update (s : Sha256) (content : Bytes) : Bool × Sha256 :=
  if content.length > 2 ^ 64 - 1 - s.totalBytes.toNat then (false, s)
  else
    let s := { s with totalBytes := s.totalBytes + content.length.toUInt64 }
    let (s, offset) := s.fill content
    let (hash, offset) := wholeBlocks s.hash content offset
    let s := { s with hash := hash }
    if offset < content.length then
      (true, { s with
        bufferSize := content.length - offset
        buffer := copyInto s.buffer 0 (content.drop offset) })
    else (true, s)

/-- `Sha256::finish`. -/
def finish (s : Sha256) : Bytes :=
  let bitLength := s.totalBytes * 8
  let buffer := copyInto s.buffer s.bufferSize [0x80]
  let size := s.bufferSize + 1
  let (hash, buffer, size) :=
    if size > 56 then
      let buffer := copyInto buffer size (List.replicate (64 - size) 0)
      (transform s.hash buffer, buffer, 0)
    else (s.hash, buffer, size)
  let buffer := copyInto buffer size (List.replicate (56 - size) 0)
  let buffer := copyInto buffer 56
    ((List.range 8).map fun i => (bitLength >>> ((7 - i) * 8).toUInt64).toUInt8)
  (transform hash buffer).words.flatMap hexWord

/-- `sha256_hex`. -/
def hex (content : Bytes) : Bytes := (({} : Sha256).update content).2.finish

/-- Pieces one after the other, as long as they are taken. -/
def updates (s : Sha256) (pieces : List Bytes) : Option Sha256 :=
  pieces.foldlM (fun s piece => let (taken, s) := s.update piece; if taken then some s else none) s

end Sha256

/-! ### Files -/

/-- A file as its stream gives it: what can be read, and whether the end is behind it or an error. -/
structure InputFile where
  content : Bytes
  ends : Bool := true

/-- The loop of `sha256_file_hex`, with what the stream still has. -/
def readAll (path : Bytes) (s : Sha256) (rest : Bytes) : Except Bytes Sha256 :=
  let count := (rest.take 65536).length
  let (taken, s) := if count > 0 then s.update (rest.take 65536) else (true, s)
  if !taken then .error (str "file is too large for SHA-256 length accounting: " ++ path)
  -- a short read is the last
  else if _ : count < 65536 then .ok s
  else readAll path s (rest.drop 65536)
termination_by rest.length
decreasing_by
  simp only [count, List.length_take] at *
  rw [List.length_drop]
  omega

/-- `sha256_file_hex`. A file that cannot be opened is nothing. -/
def sha256FileHex (path : Bytes) (file : Option InputFile) : Except Bytes Bytes :=
  match file with
  | none => .error (str "failed to open file for SHA-256: " ++ path)
  | some file => do
    let s ← readAll path {} file.content
    if !file.ends then throw (str "failed to read file for SHA-256: " ++ path)
    return s.finish

/-! ### Blocks -/

/-- The state behind the whole blocks of a content. -/
def absorb (d : Digest) (s : Bytes) : Digest := (blocks (s.length / 64) s).foldl transform d

lemma blocks_append {n : ℕ} {s : Bytes} (h : s.length = 64 * n) (m : ℕ) (t : Bytes) :
    blocks (n + m) (s ++ t) = blocks n s ++ blocks m t := by
  induction n generalizing s with
  | zero =>
    rw [List.length_eq_zero_iff.mp h, Nat.zero_add]
    rfl
  | succ n ih =>
    have hdrop : (s.drop 64).length = 64 * n := by
      rw [List.length_drop]
      omega
    rw [Nat.add_right_comm, blocks, blocks, List.take_append_of_le_length (by omega),
      List.drop_append_of_le_length (by omega), ih hdrop, List.cons_append]

lemma absorb_append {s : Bytes} (h : s.length % 64 = 0) (d : Digest) (t : Bytes) :
    absorb d (s ++ t) = absorb (absorb d s) t := by
  have hn : (s ++ t).length / 64 = s.length / 64 + t.length / 64 := by
    rw [List.length_append]
    omega
  rw [absorb, hn, blocks_append (by omega), List.foldl_append]
  rfl

/-- What does not fill a block does not matter. -/
lemma absorb_short {s : Bytes} (h : s.length < 64) (d : Digest) : absorb d s = d := by
  rw [absorb, Nat.div_eq_of_lt h]
  rfl

lemma absorb_block {s : Bytes} (h : s.length = 64) (d : Digest) : absorb d s = transform d s := by
  rw [absorb, h]
  show (blocks 1 s).foldl transform d = _
  rw [blocks, List.take_of_length_le (by omega)]
  rfl

lemma sha256Hex_eq_absorb (content : Bytes) : sha256Hex content =
    (absorb {} (content ++ padding content.length)).words.flatMap hexWord := rfl

lemma wholeBlocks_eq (content : Bytes) (offset : ℕ) (h : offset ≤ content.length) (d : Digest) :
    ∃ k, offset + 64 * k ≤ content.length ∧ content.length - (offset + 64 * k) < 64 ∧
      wholeBlocks d content offset = (absorb d ((content.drop offset).take (64 * k)), offset + 64 * k) := by
  induction hn : content.length - offset using Nat.strong_induction_on generalizing offset d with
  | _ n ih =>
    subst hn
    rw [wholeBlocks]
    split_ifs with hmore
    · obtain ⟨k, hk, hshort, heq⟩ := ih _ (by omega) (offset + 64) (by omega)
        (transform d ((content.drop offset).take 64)) rfl
      refine ⟨k + 1, by omega, by omega, ?_⟩
      have hblock : ((content.drop offset).take 64).length = 64 := by
        rw [List.length_take, List.length_drop]
        omega
      have hsplit : (content.drop offset).take (64 * (k + 1)) =
          (content.drop offset).take 64 ++ (content.drop (offset + 64)).take (64 * k) := by
        rw [Nat.mul_succ, Nat.add_comm, List.take_add, List.drop_drop]
      rw [heq, hsplit, absorb_append (by omega), absorb_block hblock]
      simp only [Prod.mk.injEq, true_and]
      ring
    · exact ⟨0, h, by omega, by rw [Nat.mul_zero, List.take_zero, absorb_short (by simp)]; rfl⟩

/-! ### Pieces -/

/-- The state is that behind whole blocks, and the rest is in the buffer. -/
structure Sha256.Holds (s : Sha256) (whole rest : Bytes) : Prop where
  aligned : whole.length % 64 = 0
  short : rest.length < 64
  hash : s.hash = absorb {} whole
  size : s.bufferSize = rest.length
  buffer : s.buffer.length = 64
  kept : s.buffer.take rest.length = rest

lemma holds_initial : Sha256.Holds {} [] [] := ⟨rfl, by decide, rfl, rfl, rfl, rfl⟩

lemma copyInto_append {u v w : Bytes} : copyInto (u ++ v) u.length w = u ++ w ++ v.drop w.length := by
  rw [copyInto, List.take_left, List.drop_append, Nat.add_sub_cancel_left,
    List.drop_eq_nil_of_le (Nat.le_add_right _ _), List.nil_append]

lemma length_copyInto {buffer : Bytes} {position : ℕ} {source : Bytes}
    (h : position + source.length ≤ buffer.length) :
    (copyInto buffer position source).length = buffer.length := by
  simp only [copyInto, List.length_append, List.length_take, List.length_drop]
  omega

variable {s : Sha256} {whole rest : Bytes}

/-- The buffer of a state that holds. -/
lemma Sha256.Holds.buffer_eq (h : s.Holds whole rest) : s.buffer = rest ++ s.buffer.drop rest.length := by
  conv_lhs => rw [← List.take_append_drop rest.length s.buffer, h.kept]

/-- What is written into the buffer stands behind the rest. -/
lemma Sha256.Holds.copy (h : s.Holds whole rest) (source : Bytes) : copyInto s.buffer s.bufferSize source =
    rest ++ source ++ (s.buffer.drop rest.length).drop source.length := by
  rw [h.size]
  conv_lhs => rw [h.buffer_eq]
  exact copyInto_append

/-- The buffer is filled up from the content: it is full and taken in, or all of the content is in it. -/
lemma Sha256.Holds.fill (h : s.Holds whole rest) (content : Bytes) : ∃ s' offset whole' rest',
    s.fill content = (s', offset) ∧ offset ≤ content.length ∧ (rest' = [] ∨ offset = content.length) ∧
      s'.Holds whole' rest' ∧ s'.totalBytes = s.totalBytes ∧
      whole' ++ rest' = whole ++ (rest ++ content.take offset) := by
  have hshort := h.short
  have hsize := h.size
  have hbuffer := h.buffer
  unfold Sha256.fill
  by_cases hzero : s.bufferSize = 0
  · have hrest : rest = [] := List.length_eq_zero_iff.mp (by omega)
    rw [if_neg (not_not.mpr hzero)]
    exact ⟨s, 0, whole, rest, rfl, Nat.zero_le _, .inl hrest, h, rfl, by simp⟩
  rw [if_pos hzero]
  dsimp only
  obtain ⟨copied, hcopied⟩ : ∃ copied, copied = min content.length (64 - s.bufferSize) := ⟨_, rfl⟩
  have hlength : (content.take copied).length = copied := by
    rw [List.length_take]
    omega
  have hcopy := h.copy (content.take copied)
  have hkept : (copyInto s.buffer s.bufferSize (content.take copied)).length = 64 := by
    rw [length_copyInto (by rw [hlength]; omega), hbuffer]
  rw [← hcopied]
  split_ifs with hfull
  · -- the buffer is a block
    have hblock : (rest ++ content.take copied).length = 64 := by
      rw [List.length_append, hlength]
      omega
    have hdrop : (s.buffer.drop rest.length).drop (content.take copied).length = [] := by
      rw [List.drop_drop]
      exact List.drop_eq_nil_of_le (by rw [hlength]; omega)
    rw [hdrop, List.append_nil] at hcopy
    refine ⟨_, copied, whole ++ (rest ++ content.take copied), [], rfl, by omega, .inl rfl, ?_, rfl, by simp⟩
    refine ⟨?_, by decide, ?_, rfl, hkept, rfl⟩
    · have := h.aligned
      rw [List.length_append]
      omega
    · rw [absorb_append h.aligned, absorb_block hblock, ← h.hash, hcopy]
  · -- all of the content is in the buffer
    have hall : copied = content.length := by omega
    refine ⟨_, copied, whole, rest ++ content.take copied, rfl, by omega, .inr hall, ?_, rfl, rfl⟩
    refine ⟨h.aligned, ?_, h.hash, ?_, hkept, ?_⟩
    · rw [List.length_append, hlength]
      omega
    · rw [List.length_append, hlength, hsize]
    · show (copyInto _ _ _).take _ = _
      rw [hcopy, List.take_left]

/-- **A piece is taken**, whatever its length, and nothing of it is lost. -/
theorem Sha256.Holds.update (h : s.Holds whole rest)
    (htotal : s.totalBytes.toNat = whole.length + rest.length) (content : Bytes)
    (hcontent : whole.length + rest.length + content.length < 2 ^ 64) :
    ∃ s' whole' rest', s.update content = (true, s') ∧ s'.Holds whole' rest' ∧
      s'.totalBytes.toNat = whole'.length + rest'.length ∧
      whole' ++ rest' = whole ++ rest ++ content := by
  have hcounted : ({ s with totalBytes := s.totalBytes + content.length.toUInt64 } : Sha256).Holds whole rest :=
    ⟨h.aligned, h.short, h.hash, h.size, h.buffer, h.kept⟩
  obtain ⟨s₁, offset, whole₁, rest₁, hfill, hoffset, hrest₁, h₁, htotal₁, happend⟩ := hcounted.fill content
  obtain ⟨k, hk, hshort, hblocks⟩ := wholeBlocks_eq content offset hoffset s₁.hash
  have hcount : s₁.totalBytes.toNat = whole.length + rest.length + content.length := by
    rw [htotal₁, UInt64.toNat_add, htotal, Nat.toUInt64_eq, UInt64.toNat_ofNat']
    omega
  unfold Sha256.update
  rw [if_neg (by omega)]
  dsimp only
  rw [hfill]
  dsimp only
  rw [hblocks]
  dsimp only
  obtain ⟨taken, htaken⟩ : ∃ taken, taken = (content.drop offset).take (64 * k) := ⟨_, rfl⟩
  have hlength : taken.length = 64 * k := by
    rw [htaken, List.length_take, List.length_drop]
    omega
  have hsplit : taken ++ content.drop (offset + 64 * k) = content.drop offset := by
    rw [htaken, ← List.drop_drop, List.take_append_drop]
  have haligned : (whole₁ ++ taken).length % 64 = 0 := by
    have := h₁.aligned
    rw [List.length_append, hlength]
    omega
  have hhash : absorb s₁.hash taken = absorb {} (whole₁ ++ taken) := by
    rw [absorb_append h₁.aligned, h₁.hash]
  rw [← htaken, hhash]
  split_ifs with hmore
  · -- what fills no block goes to the front of the buffer, which is empty
    have hempty : rest₁ = [] := hrest₁.resolve_right (by omega)
    have hdrop : (content.drop (offset + 64 * k)).length = content.length - (offset + 64 * k) := List.length_drop
    have hbuffer := h₁.buffer
    rw [hempty, List.append_nil] at happend
    refine ⟨_, whole₁ ++ taken, content.drop (offset + 64 * k), rfl,
      ⟨haligned, by omega, rfl, hdrop.symm, ?_, ?_⟩, ?_, ?_⟩
    · show (copyInto _ _ _).length = 64
      rw [length_copyInto (by omega), hbuffer]
    · show (copyInto _ _ _).take _ = _
      rw [copyInto, List.take_zero, List.nil_append, List.take_left]
    · show s₁.totalBytes.toNat = _
      have hwhole := congrArg List.length happend
      rw [List.length_append, List.length_append, List.length_take] at hwhole
      rw [hcount, List.length_append, hlength, hdrop]
      omega
    · rw [List.append_assoc, hsplit, happend]
      simp only [List.append_assoc, List.take_append_drop]
  · -- the content is used up
    have hend : offset + 64 * k = content.length := by omega
    have hall : whole₁ ++ taken ++ rest₁ = whole ++ rest ++ content := by
      rw [hend, List.drop_length, List.append_nil] at hsplit
      rcases hrest₁ with hempty | hoffset'
      · rw [hempty, List.append_nil] at happend ⊢
        rw [happend, hsplit]
        simp only [List.append_assoc, List.take_append_drop]
      · have hnone : taken = [] := List.length_eq_zero_iff.mp (by omega)
        rw [hnone, List.append_nil, happend, hoffset', List.take_length, List.append_assoc]
    refine ⟨_, whole₁ ++ taken, rest₁, rfl, ⟨haligned, h₁.short, rfl, h₁.size, h₁.buffer, h₁.kept⟩, ?_, hall⟩
    show s₁.totalBytes.toNat = _
    have hlengths := congrArg List.length hall
    simp only [List.length_append] at hlengths ⊢
    omega

/-! ### The end -/

/-- The eight bytes of a length. -/
def lengthBytes (n : ℕ) : Bytes := (List.range 8).map fun i => (n * 8 / 256 ^ (7 - i)).toUInt8

lemma lengthBytes_eq {total : UInt64} (h : total.toNat < 2 ^ 61) :
    ((List.range 8).map fun i => ((total * 8) >>> ((7 - i) * 8).toUInt64).toUInt8) =
      lengthBytes total.toNat := by
  refine List.map_congr_left fun i hi => ?_
  have hi := List.mem_range.mp hi
  have hshift : ((7 - i) * 8).toUInt64.toNat % 64 = 8 * (7 - i) := by
    rw [Nat.toUInt64_eq, UInt64.toNat_ofNat']
    omega
  have hbits : (total * 8).toNat = total.toNat * 8 := by
    rw [UInt64.toNat_mul]
    exact Nat.mod_eq_of_lt (by show total.toNat * 8 < 2 ^ 64; omega)
  rw [← UInt8.toNat_inj, UInt64.toNat_toUInt8, UInt64.toNat_shiftRight, hshift, hbits,
    Nat.shiftRight_eq_div_pow, Nat.pow_mul, Nat.toUInt8_eq, UInt8.toNat_ofNat']

/-- The padding in one block, or in one and another. -/
lemma padding_eq {n r : ℕ} (h : n % 64 = r) : padding n =
    if r + 1 > 56 then [0x80] ++ List.replicate (63 - r) 0 ++ (List.replicate 56 0 ++ lengthBytes n)
    else [0x80] ++ List.replicate (55 - r) 0 ++ lengthBytes n := by
  unfold padding
  split_ifs with hlong
  · rw [h, show (119 - r) % 64 = 63 - r + 56 by omega, List.replicate_add]
    simp only [List.append_assoc, List.cons_append, List.nil_append]
    rfl
  · rw [h, show (119 - r) % 64 = 55 - r by omega]
    rfl

/-- **The end of a state** is the digest of all that was taken. -/
theorem Sha256.Holds.finish (h : s.Holds whole rest)
    (htotal : s.totalBytes.toNat = whole.length + rest.length)
    (hlength : whole.length + rest.length < 2 ^ 61) : s.finish = sha256Hex (whole ++ rest) := by
  have haligned := h.aligned
  have hshort := h.short
  have hbuffer := h.buffer
  obtain ⟨behind, hbehind⟩ : ∃ behind, behind = (s.buffer.drop rest.length).drop 1 := ⟨_, rfl⟩
  have hbehind' : behind.length = 63 - rest.length := by
    rw [hbehind, List.length_drop, List.length_drop]
    omega
  have hmark : copyInto s.buffer s.bufferSize [0x80] = (rest ++ [0x80]) ++ behind := by
    rw [h.copy, hbehind]
    rfl
  have hmarked : (rest ++ [0x80]).length = rest.length + 1 := by
    rw [List.length_append, List.length_singleton]
  -- zeros behind the mark
  have hzeros (n : ℕ) : copyInto ((rest ++ [0x80]) ++ behind) (rest.length + 1) (List.replicate n 0) =
      (rest ++ [0x80]) ++ List.replicate n 0 ++ behind.drop n := by
    rw [← hmarked, copyInto_append, List.length_replicate]
  have hbytes : (lengthBytes (whole.length + rest.length)).length = 8 := by
    rw [lengthBytes, List.length_map, List.length_range]
  -- the length at the end of the last block
  have hlast {u v : Bytes} (hu : u.length = 56) (hv : v.length = 8) :
      copyInto (u ++ v) 56 (lengthBytes (whole.length + rest.length)) =
        u ++ lengthBytes (whole.length + rest.length) := by
    rw [← hu, copyInto_append, List.drop_eq_nil_of_le (by omega), List.append_nil]
  have hdigest : sha256Hex (whole ++ rest) = (absorb s.hash
      (rest ++ padding (whole.length + rest.length))).words.flatMap hexWord := by
    rw [sha256Hex_eq_absorb, List.append_assoc, absorb_append haligned, ← h.hash, List.length_append]
  unfold Sha256.finish
  dsimp only
  rw [lengthBytes_eq (by omega), htotal, hdigest, padding_eq (r := rest.length) (by omega), hmark, h.size]
  split_ifs with hlong
  · dsimp only
    obtain ⟨first, hfirst⟩ : ∃ first, first = rest ++ ([0x80] ++ List.replicate (63 - rest.length) 0) := ⟨_, rfl⟩
    have hblock : first.length = 64 := by
      simp only [hfirst, List.length_append, List.length_singleton, List.length_replicate]
      omega
    have hfilled : copyInto (rest ++ [0x80] ++ behind) (rest.length + 1)
        (List.replicate (64 - (rest.length + 1)) 0) = first := by
      rw [hzeros, show 64 - (rest.length + 1) = 63 - rest.length by omega,
        List.drop_eq_nil_of_le (by omega), List.append_nil, List.append_assoc, hfirst]
    have hagain : copyInto first 0 (List.replicate (56 - 0) 0) = List.replicate 56 0 ++ first.drop 56 := by
      rw [copyInto, List.take_zero, List.nil_append, List.length_replicate]
    have hsecond : (List.replicate 56 0 ++ lengthBytes (whole.length + rest.length)).length = 64 := by
      rw [List.length_append, List.length_replicate, hbytes]
    rw [hfilled, hagain, hlast List.length_replicate (by rw [List.length_drop]; omega), ← List.append_assoc,
      ← hfirst, absorb_append (by omega), absorb_block hblock, absorb_block hsecond]
  · dsimp only
    have hblock : (rest ++ ([0x80] ++ List.replicate (55 - rest.length) 0 ++
        lengthBytes (whole.length + rest.length))).length = 64 := by
      simp only [List.length_append, List.length_singleton, List.length_replicate, hbytes]
      omega
    have hfilled : (rest ++ [0x80] ++ List.replicate (55 - rest.length) 0).length = 56 := by
      simp only [List.length_append, List.length_singleton, List.length_replicate]
      omega
    rw [hzeros, show 56 - (rest.length + 1) = 55 - rest.length by omega,
      hlast hfilled (by rw [List.length_drop]; omega), absorb_block hblock]
    simp only [List.append_assoc]

/-! ### Whole contents -/

/-- Pieces are taken one after the other. -/
lemma Sha256.Holds.updates (h : s.Holds whole rest) (htotal : s.totalBytes.toNat = whole.length + rest.length)
    (pieces : List Bytes) (hpieces : whole.length + rest.length + pieces.flatten.length < 2 ^ 64) :
    ∃ s' whole' rest', s.updates pieces = some s' ∧ s'.Holds whole' rest' ∧
      s'.totalBytes.toNat = whole'.length + rest'.length ∧
      whole' ++ rest' = whole ++ rest ++ pieces.flatten := by
  induction pieces generalizing s whole rest with
  | nil => exact ⟨s, whole, rest, rfl, h, htotal, by simp⟩
  | cons piece pieces ih =>
    rw [List.flatten_cons, List.length_append] at hpieces
    obtain ⟨s₁, whole₁, rest₁, hupdate, h₁, htotal₁, happend₁⟩ := h.update htotal piece (by omega)
    have hlength := congrArg List.length happend₁
    simp only [List.length_append] at hlength
    obtain ⟨s', whole', rest', hupdates, h', htotal', happend'⟩ := ih h₁ htotal₁ (by omega)
    refine ⟨s', whole', rest', ?_, h', htotal', ?_⟩
    · rw [Sha256.updates, List.foldlM_cons, hupdate]
      exact hupdates
    · rw [happend', happend₁, List.flatten_cons, List.append_assoc]

/-- A stream is read to its end. -/
lemma Sha256.Holds.readAll (h : s.Holds whole rest) (htotal : s.totalBytes.toNat = whole.length + rest.length)
    (path content : Bytes) (hcontent : whole.length + rest.length + content.length < 2 ^ 64) :
    ∃ s' whole' rest', readAll path s content = .ok s' ∧ s'.Holds whole' rest' ∧
      s'.totalBytes.toNat = whole'.length + rest'.length ∧
      whole' ++ rest' = whole ++ rest ++ content := by
  induction hn : content.length using Nat.strong_induction_on generalizing s whole rest content with
  | _ n ih =>
    subst hn
    have hcount : (content.take 65536).length = min 65536 content.length := List.length_take
    by_cases hnil : content = []
    · subst hnil
      refine ⟨s, whole, rest, ?_, h, htotal, by rw [List.append_nil]⟩
      unfold Core.readAll
      rfl
    have hpositive : 0 < content.length := List.length_pos_iff.mpr hnil
    obtain ⟨s₁, whole₁, rest₁, hupdate, h₁, htotal₁, happend₁⟩ :=
      h.update htotal (content.take 65536) (by omega)
    have htaken : (if (content.take 65536).length > 0 then s.update (content.take 65536) else (true, s)) =
        (true, s₁) := by
      rw [if_pos (by omega), hupdate]
    unfold Core.readAll
    simp only [htaken, Bool.not_true, Bool.false_eq_true, if_false]
    split_ifs with hshort
    · -- the last read has all that is left
      have hall : content.take 65536 = content := List.take_of_length_le (by omega)
      rw [hall] at happend₁
      exact ⟨s₁, whole₁, rest₁, rfl, h₁, htotal₁, happend₁⟩
    · have hdrop : (content.drop 65536).length = content.length - 65536 := List.length_drop
      have hlength := congrArg List.length happend₁
      simp only [List.length_append] at hlength
      obtain ⟨s', whole', rest', hread, h', htotal', happend'⟩ :=
        ih _ (by omega) h₁ htotal₁ (content.drop 65536) (by omega) rfl
      refine ⟨s', whole', rest', hread, h', htotal', ?_⟩
      rw [happend', happend₁, List.append_assoc, List.take_append_drop]

/-- **Digests do not depend on the pieces that a content comes in**, and are those of the standard. -/
theorem sha256_streams :
    (∀ pieces : List Bytes, pieces.flatten.length < 2 ^ 61 →
      ∃ s, Sha256.updates {} pieces = some s ∧ s.finish = hashText pieces.flatten) ∧
    (∀ content : Bytes, content.length < 2 ^ 61 → Sha256.hex content = hashText content) ∧
    ∀ path content : Bytes, content.length < 2 ^ 61 →
      sha256FileHex path (some ⟨content, true⟩) = .ok (Sha256.hex content) := by
  have hhex (content : Bytes) (hcontent : content.length < 2 ^ 61) : Sha256.hex content = hashText content := by
    obtain ⟨s, whole, rest, hupdate, h, htotal, happend⟩ :=
      holds_initial.update rfl content (by simp only [List.length_nil]; omega)
    rw [List.append_nil, List.nil_append] at happend
    have hlength := congrArg List.length happend
    rw [List.length_append] at hlength
    rw [Sha256.hex, hupdate, h.finish htotal (by omega), happend, sha256Hex_eq_hashText]
  refine ⟨fun pieces hpieces => ?_, hhex, fun path content hcontent => ?_⟩
  · obtain ⟨s, whole, rest, hupdates, h, htotal, happend⟩ :=
      holds_initial.updates rfl pieces (by simp only [List.length_nil]; omega)
    rw [List.append_nil, List.nil_append] at happend
    have hlength := congrArg List.length happend
    rw [List.length_append] at hlength
    refine ⟨s, hupdates, ?_⟩
    rw [h.finish htotal (by omega), happend, sha256Hex_eq_hashText]
  · obtain ⟨s, whole, rest, hread, h, htotal, happend⟩ :=
      holds_initial.readAll rfl path content (by simp only [List.length_nil]; omega)
    rw [List.append_nil, List.nil_append] at happend
    have hlength := congrArg List.length happend
    rw [List.length_append] at hlength
    have hfile : sha256FileHex path (some ⟨content, true⟩) = .ok s.finish := by
      rw [sha256FileHex, hread]
      rfl
    rw [hfile, h.finish htotal (by omega), happend, hhex content hcontent, sha256Hex_eq_hashText]

theorem sha256_streams_abc :
    (∃ s, Sha256.updates {} [str "a", str "bc"] = some s ∧
      s.finish = hashText [str "a", str "bc"].flatten) ∧
    Sha256.hex (str "abc") = hashText (str "abc") ∧
    sha256FileHex (str "f") (some ⟨str "abc", true⟩) = .ok (Sha256.hex (str "abc")) :=
  ⟨sha256_streams.1 _ (by decide), sha256_streams.2.1 _ (by decide), sha256_streams.2.2 _ _ (by decide)⟩

end CcsTrans.Core
