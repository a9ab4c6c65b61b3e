import CcsTrans.Fallible
import CcsTrans.GuiIpc.FrameCodec
import CcsTrans.Scanning

/-!
What the decoder of frames makes of a stream does not depend on how the stream arrives.

The decoder is a scanner over the bytes that belong to no frame yet. Each call reads off what
it can of these bytes and those of the call; the theorems about scanners put the calls together.
-/

namespace CcsTrans.GuiIpc

open CcsTrans.Text CcsTrans.Scanning

/-! ### Headers -/

/-- The bytes of a header are its digits to the base 256. -/
lemma readLittleEndianLength_toNat (b0 b1 b2 b3 : UInt8) (xs : Bytes) :
    (readLittleEndianLength (b0 :: b1 :: b2 :: b3 :: xs)).toNat =
      b0.toNat + b1.toNat * 2 ^ 8 + b2.toNat * 2 ^ 16 + b3.toNat * 2 ^ 24 := by
  have h0 := b0.toNat_lt
  have h1 := b1.toNat_lt
  have h2 := b2.toNat_lt
  simp only [readLittleEndianLength, List.getD_cons_zero, List.getD_cons_succ, UInt32.toNat_or,
    UInt32.toNat_shiftLeft, UInt8.toNat_toUInt32]
  change b0.toNat ||| b1.toNat <<< 8 % 2 ^ 32 ||| b2.toNat <<< 16 % 2 ^ 32 |||
    b3.toNat <<< 24 % 2 ^ 32 = _
  rw [shiftLeft_byte (by omega), shiftLeft_byte (by omega), shiftLeft_byte (by omega),
    or_shiftLeft h0, @or_shiftLeft (b0.toNat + b1.toNat * 2 ^ 8) _ 16 (by omega),
    @or_shiftLeft (b0.toNat + b1.toNat * 2 ^ 8 + b2.toNat * 2 ^ 16) _ 24 (by omega)]

lemma readLittleEndianLength_header (n : UInt32) (xs : Bytes) :
    readLittleEndianLength (header n ++ xs) = n := by
  have hn := n.toNat_lt
  have hmask (k : ℕ) : k &&& 255 = k % 256 := Nat.and_two_pow_sub_one_eq_mod k 8
  rw [← UInt32.toNat_inj]
  unfold header
  simp only [List.cons_append, List.nil_append, readLittleEndianLength_toNat]
  simp only [UInt32.toNat_toUInt8, UInt32.toNat_and, UInt32.toNat_shiftRight, UInt32.reduceToNat,
    Nat.shiftRight_eq_div_pow, hmask, Nat.reduceMod]
  omega

/-! ### What the decoder reads is a matter of the stream -/

/-- What the decoder makes of the bytes that belong to no frame yet. -/
def nextFrame (pending : Bytes) : Next Bytes FrameError :=
  let length := (readLittleEndianLength pending).toNat
  let view := (pending.drop 4).take length
  if pending.length < 4 then .more
  else if length = 0 then .fails .emptyPayload
  else if length > kMaximumFrameBytes then .fails .tooLarge
  else if pending.length - 4 < length then .more
  else if !validUtf8 view then .fails .invalidUtf8
  else .yields view (4 + length)

lemma readLittleEndianLength_append {xs : Bytes} (h : 4 ≤ xs.length) (ys : Bytes) :
    readLittleEndianLength (xs ++ ys) = readLittleEndianLength xs := by
  have hget (i : ℕ) (hi : i < 4) : (xs ++ ys).getD i 0 = xs.getD i 0 := by
    rw [List.getD_eq_getElem?_getD, List.getD_eq_getElem?_getD,
      List.getElem?_append_left (by omega)]
  simp only [readLittleEndianLength, hget 0, hget 1, hget 2, hget 3, Nat.lt_add_one,
    Nat.reduceLT]

/-- How the decoder settles on something: what is before it has a header, and if the header is
in order, also the payload. -/
lemma nextFrame_append {xs : Bytes} (h : nextFrame xs ≠ .more) (ys : Bytes) :
    nextFrame (xs ++ ys) = nextFrame xs := by
  have hlength : ¬ xs.length < 4 := by
    intro hlt
    exact h (by simp [nextFrame, hlt])
  have hread := readLittleEndianLength_append (not_lt.mp hlength) ys
  have hlength' : ¬ (xs ++ ys).length < 4 := by
    rw [List.length_append]
    omega
  have hdrop : (xs ++ ys).drop 4 = xs.drop 4 ++ ys :=
    List.drop_append_of_le_length (not_lt.mp hlength)
  unfold nextFrame at h ⊢
  simp only [hread, hlength, hlength', hdrop, if_false] at h ⊢
  generalize (readLittleEndianLength xs).toNat = length at h ⊢
  by_cases hempty : length = 0
  · simp only [hempty, if_true]
  by_cases hlarge : length > kMaximumFrameBytes
  · simp only [hempty, hlarge, if_true, if_false]
  by_cases hshort : xs.length - 4 < length
  · simp [hempty, hlarge, hshort] at h
  have hshort' : ¬ (xs ++ ys).length - 4 < length := by
    rw [List.length_append]
    omega
  have htake : (xs.drop 4 ++ ys).take length = (xs.drop 4).take length := by
    apply List.take_append_of_le_length
    rw [List.length_drop]
    omega
  simp only [hempty, hlarge, hshort, hshort', htake, if_false]

/-- The frames of a stream, as a scanner reads them. -/
def frameScanner : Scanner UInt8 Bytes FrameError where
  next := nextFrame
  bounded := by
    intro xs view n h
    unfold nextFrame at h
    dsimp only at h
    split_ifs at h with hlength hempty hlarge hshort hvalid
    cases h
    omega
  yields_append := by
    intro xs view n ys h
    rw [nextFrame_append (by rw [h]; exact nofun), h]
  fails_append := by
    intro xs e ys h
    rw [nextFrame_append (by rw [h]; exact nofun), h]

namespace FrameDecoder

variable {d : FrameDecoder}

lemma length_pending (d : FrameDecoder) : d.pending.length = d.buffer.length - d.offset := by
  rw [pending, List.length_drop]

lemma pending_tidy (d : FrameDecoder) : d.tidy.pending = d.pending := by
  unfold tidy
  split_ifs with hall hfar
  · simp [pending, hall]
  · simp [dropRead, pending]
  · rfl

lemma failed_tidy (d : FrameDecoder) : d.tidy.failed = d.failed := by
  unfold tidy
  split_ifs <;> rfl

lemma peak_tidy (d : FrameDecoder) : d.tidy.peak = d.peak := by
  unfold tidy
  split_ifs <;> rfl

lemma offset_tidy (h : d.offset ≤ d.buffer.length) : d.tidy.offset ≤ d.tidy.buffer.length := by
  unfold tidy
  split_ifs
  · exact Nat.zero_le _
  · exact Nat.zero_le _
  · exact h

/-- What a call leaves: it has read the frames of the pending bytes, and kept the rest. -/
structure ReadsOff (d : FrameDecoder) (frames : List Bytes) (r : Decoded) : Prop where
  error : r.error = (frameScanner.scan d.pending).error
  frames : r.frames = frames ++ (frameScanner.scan d.pending).items
  pending : r.decoder.pending = (frameScanner.scan d.pending).rest
  goes : r.error = none → r.decoder.failed = d.failed
  failed : r.error ≠ none → r.decoder.failed = true
  offset : r.decoder.offset ≤ r.decoder.buffer.length
  peak : r.decoder.peak = d.peak

/-- The loop of `decode_available`, by what comes next. -/
lemma decodeAvailable_eq (d : FrameDecoder) (frames : List Bytes) : d.decodeAvailable frames =
    match nextFrame d.pending with
    | .more => ⟨none, if d.pending.length < 4 then d.tidy else d, frames⟩
    | .fails e => d.fail e frames
    | .yields view n => decodeAvailable { d with offset := d.offset + n } (frames ++ [view]) := by
  rw [decodeAvailable, ← length_pending]
  unfold nextFrame
  dsimp only
  by_cases hheader : d.pending.length < 4
  · simp only [hheader, not_le.mpr hheader, if_true, if_false]
  simp only [hheader, not_lt.mp hheader, if_true, if_false]
  generalize (readLittleEndianLength d.pending).toNat = length
  split_ifs <;> rfl

/-- The bytes past a frame. -/
lemma pending_offset (d : FrameDecoder) (n : ℕ) :
    ({ d with offset := d.offset + n } : FrameDecoder).pending = d.pending.drop n := by
  rw [pending, pending, List.drop_drop]

lemma readsOff_decodeAvailable (frames : List Bytes) (h : d.offset ≤ d.buffer.length) :
    ReadsOff d frames (d.decodeAvailable frames) := by
  induction hk : d.pending.length using Nat.strongRecOn generalizing d frames with
  | _ k ih =>
    rw [decodeAvailable_eq]
    cases hnext : nextFrame d.pending with
    | more =>
      have hscan := Scanner.scan_more (S := frameScanner) hnext
      dsimp only
      split_ifs
      · exact ⟨by rw [hscan], by simp [hscan], by rw [hscan, pending_tidy], fun _ => failed_tidy d,
          fun he => absurd rfl he, offset_tidy h, peak_tidy d⟩
      · exact ⟨by rw [hscan], by simp [hscan], by rw [hscan], fun _ => rfl,
          fun he => absurd rfl he, h, rfl⟩
    | fails e =>
      have hscan := Scanner.scan_fails (S := frameScanner) hnext
      exact ⟨by rw [hscan]; rfl, by simp [hscan, fail], by rw [hscan]; rfl, nofun, fun _ => rfl,
        h, rfl⟩
    | yields view n =>
      have hscan := Scanner.scan_yields (S := frameScanner) hnext
      have hn := frameScanner.bounded hnext
      have hrest := ih (d.pending.length - n) (by omega) (d := { d with offset := d.offset + n })
        (frames ++ [view]) (by rw [length_pending] at hn; dsimp only; omega)
        (by rw [pending_offset, List.length_drop])
      constructor
      · rw [hrest.error, pending_offset, hscan]
      · rw [hrest.frames, pending_offset, hscan, List.append_assoc, List.singleton_append]
      · rw [hrest.pending, pending_offset, hscan]
      · exact hrest.goes
      · exact hrest.failed
      · exact hrest.offset
      · exact hrest.peak

/-- A decoder that has not failed, and has delivered all frames that it can. -/
structure Sound (d : FrameDecoder) : Prop where
  failed : d.failed = false
  offset : d.offset ≤ d.buffer.length
  waiting : nextFrame d.pending = .more

/-- What is not a whole frame leaves room in the buffer. -/
lemma length_lt_of_more {pending : Bytes} (h : nextFrame pending = .more) :
    pending.length < maximumBuffer := by
  unfold nextFrame at h
  unfold maximumBuffer
  dsimp only at h
  split_ifs at h with hheader hempty hlarge hshort
  · omega
  · omega

lemma ready_eq (d : FrameDecoder) : d.ready = d.dropRead := by
  unfold ready dropRead
  split_ifs with hoffset
  · rfl
  · rw [not_not] at hoffset
    simp only [pending, hoffset, List.drop_zero]
    rw [← hoffset]

/-- What the calls leave, as far as the frames go. -/
structure Consumed (d : FrameDecoder) (bytes : Bytes) (frames : List Bytes) (r : Decoded) :
    Prop where
  error : r.error = (frameScanner.scan (d.pending ++ bytes)).error
  frames : r.frames = frames ++ (frameScanner.scan (d.pending ++ bytes)).items
  sound : r.error = none → r.decoder.Sound
  pending : r.error = none → r.decoder.pending = (frameScanner.scan (d.pending ++ bytes)).rest
  failed : r.error ≠ none → r.decoder.failed = true
  peak : d.peak ≤ maximumBuffer → r.decoder.peak ≤ maximumBuffer

section Calls

variable {xs ys : Bytes} {frames : List Bytes} {r r' : Decoded}

lemma consumed_nil (hd : d.Sound) (frames : List Bytes) :
    Consumed d [] frames ⟨none, d, frames⟩ := by
  have hscan := Scanner.scan_more (S := frameScanner) hd.waiting
  rw [← List.append_nil d.pending] at hscan
  exact ⟨by rw [hscan], by rw [hscan, List.append_nil], fun _ => hd,
    fun _ => by rw [hscan, List.append_nil], fun h => absurd rfl h, id⟩

/-- What comes after an error is not read. -/
lemma Consumed.stop (h : Consumed d xs frames r) (he : r.error ≠ none) (ys : Bytes) :
    Consumed d (xs ++ ys) frames r := by
  obtain ⟨e, he'⟩ := Option.ne_none_iff_exists'.mp he
  have hscan : frameScanner.scan (d.pending ++ xs ++ ys) = _ := Scanner.scan_append ys
  rw [← h.error, he', List.append_assoc] at hscan
  exact ⟨by rw [hscan, he'], by rw [hscan, h.frames], fun hnone => absurd hnone he,
    fun hnone => absurd hnone he, h.failed, h.peak⟩

/-- What comes after a call without an error is read from where the call has stopped. -/
lemma Consumed.next (h : Consumed d xs frames r) (he : r.error = none)
    (h' : Consumed r.decoder ys r.frames r') : Consumed d (xs ++ ys) frames r' := by
  have hscan : frameScanner.scan (d.pending ++ xs ++ ys) = _ := Scanner.scan_append ys
  rw [← h.error, he, List.append_assoc, ← h.pending he] at hscan
  constructor
  · rw [h'.error, hscan]
  · rw [h'.frames, h.frames, hscan, List.append_assoc]
  · exact h'.sound
  · intro he'
    rw [h'.pending he', hscan]
  · exact h'.failed
  · exact fun hpeak => h'.peak (h.peak hpeak)

/-- One round of the loop of `consume`, for bytes that have room in the buffer. -/
lemma consumed_round (hd : d.Sound) (frames : List Bytes) (bytes : Bytes)
    (hroom : d.pending.length + bytes.length ≤ maximumBuffer) :
    Consumed d bytes frames ((d.ready.insert bytes).decodeAvailable frames) := by
  have hread := readsOff_decodeAvailable (d := d.dropRead.insert bytes) frames (Nat.zero_le _)
  rw [← ready_eq] at hread
  have hpending : (d.ready.insert bytes).pending = d.pending ++ bytes := by rw [ready_eq]; rfl
  constructor
  · rw [hread.error, hpending]
  · rw [hread.frames, hpending]
  · intro he
    refine ⟨?_, hread.offset, ?_⟩
    · rw [hread.goes he, ready_eq]
      exact hd.failed
    · rw [hread.pending]
      exact Scanner.next_rest (hread.error ▸ he)
  · intro _
    rw [hread.pending, hpending]
  · exact hread.failed
  · intro hpeak
    rw [hread.peak, ready_eq]
    simp only [insert, dropRead, List.length_append]
    omega

lemma consumed_consumeLoop (hd : d.Sound) (bytes : Bytes) (frames : List Bytes) :
    Consumed d bytes frames (d.consumeLoop bytes frames) := by
  induction hk : bytes.length using Nat.strongRecOn generalizing d bytes frames with
  | _ k ih =>
    rw [consumeLoop]
    by_cases hbytes : bytes = []
    · rw [if_pos hbytes, hbytes]
      exact consumed_nil hd frames
    have hroom := length_lt_of_more hd.waiting
    have hbuffer : d.ready.buffer.length = d.pending.length := by rw [ready_eq]; rfl
    have hlength : 0 < bytes.length := List.length_pos_iff.mpr hbytes
    have hcount : 0 < d.count bytes := by
      unfold count
      omega
    have htaken : d.pending.length + (bytes.take (d.count bytes)).length ≤ maximumBuffer := by
      rw [List.length_take]
      unfold count
      omega
    have hround := consumed_round hd frames _ htaken
    rw [if_neg hbytes, if_neg (by omega)]
    dsimp only
    have hcut := List.take_append_drop (d.count bytes) bytes
    split_ifs with herror hstuck
    · have hall := hround.stop herror (bytes.drop (d.count bytes))
      rwa [hcut] at hall
    · omega
    · have herror' := not_not.mp herror
      have hall := hround.next herror' (ih (bytes.length - d.count bytes) (by omega)
        (hround.sound herror') (bytes.drop (d.count bytes)) _ List.length_drop)
      rwa [hcut] at hall

lemma consumed_consume (hd : d.Sound) (bytes : Bytes) (frames : List Bytes) :
    Consumed d bytes frames (d.consume bytes frames) := by
  rw [consume, hd.failed]
  exact consumed_consumeLoop hd bytes frames

end Calls

/-- Calls of `consume` for one chunk after the other, until the first error. -/
def consumeAll (d : FrameDecoder) : List Bytes → List Bytes → Decoded
  | [], frames => ⟨none, d, frames⟩
  | chunk :: chunks, frames =>
    let r := d.consume chunk frames
    if r.error ≠ none then r else consumeAll r.decoder chunks r.frames

lemma consumed_consumeAll (hd : d.Sound) (chunks : List Bytes) (frames : List Bytes) :
    Consumed d chunks.flatten frames (d.consumeAll chunks frames) := by
  induction chunks generalizing d frames with
  | nil => exact consumed_nil hd frames
  | cons chunk chunks ih =>
    have hfirst := consumed_consume hd chunk frames
    rw [List.flatten_cons]
    unfold consumeAll
    dsimp only
    split_ifs with herror
    · exact hfirst.stop herror _
    · have herror' := not_not.mp herror
      exact hfirst.next herror' (ih (hfirst.sound herror') _)

lemma sound_fresh : ({} : FrameDecoder).Sound := ⟨rfl, le_refl _, rfl⟩

/-- A decoder that has not failed has an incomplete frame, unless all was read. -/
lemma finish_eq_none (hd : d.Sound) : d.finish = none ↔ d.pending = [] := by
  have hoffset := hd.offset
  have hpending : d.pending = [] ↔ d.buffer.length ≤ d.offset := List.drop_eq_nil_iff
  rw [hpending, finish, hd.failed]
  simp only [Bool.false_eq_true, if_false]
  split_ifs with hleft
  · simp only [false_iff]
    omega
  · simp only [true_iff]
    omega

end FrameDecoder

/-! ### Frames come through -/

lemma nextFrame_frame {payload frame : Bytes} (h : encodeFrame payload = .ok frame) (ys : Bytes) :
    nextFrame (frame ++ ys) = .yields payload frame.length := by
  unfold encodeFrame at h
  split_ifs at h with hempty hlarge hvalid
  cases h
  have hlength : payload.length.toUInt32.toNat = payload.length := by
    rw [UInt32.toNat_ofNat']
    omega
  have hpos : 0 < payload.length := List.length_pos_iff.mpr hempty
  have hheader : (header payload.length.toUInt32).length = 4 := rfl
  have htake : (payload ++ ys).take payload.length = payload := List.take_left
  unfold nextFrame
  rw [List.append_assoc, readLittleEndianLength_header, hlength, List.drop_left' hheader]
  simp only [List.length_append, hheader, htake, hvalid]
  rw [if_neg (by omega), if_neg (by omega), if_neg (by omega), if_neg (by omega), if_neg (by simp)]

/-- A payload as a frame holds it. -/
def frameOf (payload : Bytes) : Bytes := header payload.length.toUInt32 ++ payload

lemma header_readLittleEndianLength {xs : Bytes} (h : 4 ≤ xs.length) :
    header (readLittleEndianLength xs) = xs.take 4 := by
  obtain ⟨b0, b1, b2, b3, ys, rfl⟩ : ∃ b0 b1 b2 b3 ys, xs = b0 :: b1 :: b2 :: b3 :: ys := by
    match xs, h with
    | b0 :: b1 :: b2 :: b3 :: ys, _ => exact ⟨b0, b1, b2, b3, ys, rfl⟩
  have hread := readLittleEndianLength_toNat b0 b1 b2 b3 ys
  have h0 := b0.toNat_lt
  have h1 := b1.toNat_lt
  have h2 := b2.toNat_lt
  have h3 := b3.toNat_lt
  have hmask (k : ℕ) : k &&& 255 = k % 256 := Nat.and_two_pow_sub_one_eq_mod k 8
  simp only [header, List.take_succ_cons, List.take_zero, List.cons.injEq, and_true,
    ← UInt8.toNat_inj, UInt32.toNat_toUInt8, UInt32.toNat_and, UInt32.toNat_shiftRight,
    UInt32.reduceToNat, Nat.shiftRight_eq_div_pow, hmask, Nat.reduceMod, hread]
  omega

/-- What is delivered as a frame is what the stream has. -/
lemma take_of_nextFrame {xs view : Bytes} {n : ℕ} (h : nextFrame xs = .yields view n) :
    xs.take n = frameOf view := by
  unfold nextFrame at h
  dsimp only at h
  split_ifs at h with hheader hempty hlarge hshort hvalid
  cases h
  have hlength : ((xs.drop 4).take (readLittleEndianLength xs).toNat).length =
      (readLittleEndianLength xs).toNat := by
    rw [List.length_take, List.length_drop]
    omega
  have hback : (readLittleEndianLength xs).toNat.toUInt32 = readLittleEndianLength xs :=
    UInt32.ofNat_toNat
  rw [frameOf, hlength, List.take_add, hback, header_readLittleEndianLength (not_lt.mp hheader)]

/-- Every byte of a stream is in a frame that was delivered, or left. -/
lemma flatMap_scan (xs : Bytes) : xs =
    (frameScanner.scan xs).items.flatMap frameOf ++ (frameScanner.scan xs).rest := by
  induction xs using Scanner.scan.induct frameScanner with
  | case1 xs hnext => rw [Scanner.scan_more hnext]; rfl
  | case2 xs e hnext => rw [Scanner.scan_fails hnext]; rfl
  | case3 xs view n hnext _ ih =>
    rw [Scanner.scan_yields hnext]
    dsimp only
    rw [List.flatMap_cons, ← take_of_nextFrame hnext, List.append_assoc, ← ih,
      List.take_append_drop]

/-- The frames of payloads, one after the other. -/
lemma scan_frames {payloads frames : List Bytes} (h : payloads.mapM encodeFrame = .ok frames) :
    frameScanner.scan frames.flatten = ⟨payloads, none, []⟩ := by
  induction payloads generalizing frames with
  | nil =>
    cases h
    exact Scanner.scan_more rfl
  | cons payload payloads ih =>
    obtain ⟨frame, frames, hframe, hframes, rfl⟩ := Fallible.mapM_cons_eq_ok.mp h
    have hnext : frameScanner.next (frame ++ frames.flatten) = .yields payload frame.length :=
      nextFrame_frame hframe _
    rw [List.flatten_cons, Scanner.scan_yields hnext, List.drop_left, ih hframes]

/-- What a new decoder makes of chunks. -/
def decodeChunks (chunks : List Bytes) : Decoded := ({} : FrameDecoder).consumeAll chunks []

lemma consumed_decodeChunks (chunks : List Bytes) :
    FrameDecoder.Consumed {} chunks.flatten [] (decodeChunks chunks) :=
  FrameDecoder.consumed_consumeAll FrameDecoder.sound_fresh chunks []

/-- A call of `consume` reports an error, or has put every byte into a frame or the buffer. -/
lemma consume_decodeChunks (chunks : List Bytes) (bytes : Bytes) :
    let r := decodeChunks chunks
    let r' := r.decoder.consume bytes r.frames
    r'.error ≠ none ∨ ∃ delivered, r'.frames = r.frames ++ delivered ∧
      r.decoder.pending ++ bytes = delivered.flatMap frameOf ++ r'.decoder.pending := by
  have hchunks := consumed_decodeChunks chunks
  by_cases herror : (decodeChunks chunks).error = none
  · have hcall := FrameDecoder.consumed_consume (hchunks.sound herror) bytes
      (decodeChunks chunks).frames
    by_cases herror' : ((decodeChunks chunks).decoder.consume bytes
        (decodeChunks chunks).frames).error = none
    · refine .inr ⟨_, hcall.frames, ?_⟩
      rw [hcall.pending herror']
      exact flatMap_scan _
    · exact .inl herror'
  · refine .inl ?_
    rw [FrameDecoder.consume, hchunks.failed herror]
    exact nofun

/-- **Frames come through however the stream is cut; an arbitrary stream gives the same frames
and the same error however it is cut; the buffer stays small, and no byte is lost.** -/
theorem frame_stream :
    (∀ payloads frames chunks, payloads.mapM encodeFrame = .ok frames →
      chunks.flatten = frames.flatten →
      (decodeChunks chunks).error = none ∧ (decodeChunks chunks).frames = payloads ∧
        (decodeChunks chunks).decoder.finish = none) ∧
    (∀ chunks chunks', chunks.flatten = chunks'.flatten →
      (decodeChunks chunks).frames = (decodeChunks chunks').frames ∧
        (decodeChunks chunks).error = (decodeChunks chunks').error) ∧
    (∀ chunks, (decodeChunks chunks).decoder.peak ≤ kMaximumFrameBytes + 4) ∧
    (∀ chunks bytes, let r := decodeChunks chunks
      let r' := r.decoder.consume bytes r.frames
      r'.error ≠ none ∨ ∃ delivered, r'.frames = r.frames ++ delivered ∧
        r.decoder.pending ++ bytes = delivered.flatMap frameOf ++ r'.decoder.pending) := by
  refine ⟨?_, ?_, ?_, consume_decodeChunks⟩
  · intro payloads frames chunks hframes hcut
    have h := consumed_decodeChunks chunks
    have hscan : frameScanner.scan (({} : FrameDecoder).pending ++ chunks.flatten) =
        ⟨payloads, none, []⟩ := by
      rw [hcut]
      exact scan_frames hframes
    have herror : (decodeChunks chunks).error = none := by rw [h.error, hscan]
    refine ⟨herror, ?_, ?_⟩
    · rw [h.frames, hscan, List.nil_append]
    · rw [FrameDecoder.finish_eq_none (h.sound herror), h.pending herror, hscan]
  · intro chunks chunks' hcut
    have h := consumed_decodeChunks chunks
    have h' := consumed_decodeChunks chunks'
    exact ⟨by rw [h.frames, h'.frames, hcut], by rw [h.error, h'.error, hcut]⟩
  · intro chunks
    exact (consumed_decodeChunks chunks).peak (Nat.zero_le _)

/-- A frame, cut inside of its header and inside of its payload. -/
theorem frame_stream_cut : (decodeChunks [[2], [0, 0, 0, 123], [125]]).frames = [[123, 125]] :=
  (frame_stream.1 [[123, 125]] [[2, 0, 0, 0, 123, 125]] [[2], [0, 0, 0, 123], [125]]
    (by decide) rfl).2.1

end CcsTrans.GuiIpc
