import CcsTrans.GuiIpc.Envelope

/-!
Frames on the pipe.

A frame is the length of its payload in four bytes and the payload, which is a text in UTF-8.
The decoder is given what the pipe delivers, in pieces that need not respect the frames, and
keeps what is not yet a whole frame in a buffer of limited size.
-/

namespace CcsTrans.GuiIpc

open CcsTrans.Text

/-! ### The encoder -/

inductive FrameError where
  | emptyPayload
  | tooLarge
  | invalidUtf8
  | incomplete
  | decoderFailed
  deriving DecidableEq

def frameErrorName : FrameError → Bytes
  | .emptyPayload => str "empty_payload"
  | .tooLarge => str "too_large"
  | .invalidUtf8 => str "invalid_utf8"
  | .incomplete => str "incomplete"
  | .decoderFailed => str "decoder_failed"

def continuation (byte : UInt8) : Bool := byte &&& 0xc0 == 0x80

/-- `valid_utf8`. -/
def validUtf8 : Bytes → Bool
  | [] => true
  | first :: rest =>
    if first ≤ 0x7f then validUtf8 rest
    else if 0xc2 ≤ first ∧ first ≤ 0xdf then
      match rest with
      | second :: rest => continuation second && validUtf8 rest
      | _ => false
    else if 0xe0 ≤ first ∧ first ≤ 0xef then
      match rest with
      | second :: third :: rest =>
        continuation second && continuation third &&
          !((first == 0xe0 && second < 0xa0) || (first == 0xed && second ≥ 0xa0)) &&
          validUtf8 rest
      | _ => false
    else if 0xf0 ≤ first ∧ first ≤ 0xf4 then
      match rest with
      | second :: third :: fourth :: rest =>
        continuation second && continuation third && continuation fourth &&
          !((first == 0xf0 && second < 0x90) || (first == 0xf4 && second ≥ 0x90)) &&
          validUtf8 rest
      | _ => false
    else false

/-- The length of a payload as the header of its frame. -/
def header (length : UInt32) : Bytes :=
  [(length &&& 0xff).toUInt8, ((length >>> 8) &&& 0xff).toUInt8,
    ((length >>> 16) &&& 0xff).toUInt8, ((length >>> 24) &&& 0xff).toUInt8]

/-- `encode_frame`. -/
def encodeFrame (payload : Bytes) : Except FrameError Bytes :=
  if payload = [] then .error .emptyPayload
  else if payload.length > kMaximumFrameBytes ∨ payload.length > 2 ^ 32 - 1 then .error .tooLarge
  else if !validUtf8 payload then .error .invalidUtf8
  else .ok (header payload.length.toUInt32 ++ payload)

/-! ### The decoder -/

structure FrameDecoder where
  buffer : Bytes := []
  offset : ℕ := 0
  failed : Bool := false
  /-- The most bytes that the buffer has held so far. -/
  peak : ℕ := 0

/-- `read_little_endian_length`. -/
def readLittleEndianLength (bytes : Bytes) : UInt32 :=
  (bytes.getD 0 0).toUInt32 ||| ((bytes.getD 1 0).toUInt32 <<< 8) |||
    ((bytes.getD 2 0).toUInt32 <<< 16) ||| ((bytes.getD 3 0).toUInt32 <<< 24)

/-- What a call of the decoder gives: its error, if any, the decoder, and all frames so far. -/
structure Decoded where
  error : Option FrameError
  decoder : FrameDecoder
  frames : List Bytes

namespace FrameDecoder

/-- The decoder has failed for good. -/
def fail (d : FrameDecoder) (error : FrameError) (frames : List Bytes) : Decoded :=
  ⟨some error, { d with failed := true }, frames⟩

/-- The bytes that belong to no frame yet. -/
def pending (d : FrameDecoder) : Bytes := d.buffer.drop d.offset

/-- The buffer without the bytes of frames that were delivered. -/
def dropRead (d : FrameDecoder) : FrameDecoder := { d with buffer := d.pending, offset := 0 }

/-- What `decode_available` does once there is no further header. -/
def tidy (d : FrameDecoder) : FrameDecoder :=
  if d.offset = d.buffer.length then { d with buffer := [], offset := 0 }
  else if d.offset > 64 * 1024 then d.dropRead
  else d

/-- `decode_available`. -/
def decodeAvailable (d : FrameDecoder) (frames : List Bytes) : Decoded :=
  if d.buffer.length - d.offset ≥ 4 then
    let length := (readLittleEndianLength d.pending).toNat
    if length = 0 then d.fail .emptyPayload frames
    else if length > kMaximumFrameBytes then d.fail .tooLarge frames
    else if d.buffer.length - d.offset - 4 < length then ⟨none, d, frames⟩
    else
      let view := (d.pending.drop 4).take length
      if !validUtf8 view then d.fail .invalidUtf8 frames
      else decodeAvailable { d with offset := d.offset + (4 + length) } (frames ++ [view])
  else ⟨none, d.tidy, frames⟩
termination_by d.buffer.length - d.offset

def maximumBuffer : ℕ := kMaximumFrameBytes + 4

/-- Takes bytes into the buffer. -/
def insert (d : FrameDecoder) (bytes : Bytes) : FrameDecoder :=
  let buffer := d.buffer ++ bytes
  { d with buffer := buffer, peak := max d.peak buffer.length }

/-- The decoder at the start of a round of the loop of `consume`. -/
def ready (d : FrameDecoder) : FrameDecoder := if d.offset ≠ 0 then d.dropRead else d

/-- How many bytes a round takes. -/
def count (d : FrameDecoder) (bytes : Bytes) : ℕ :=
  min (maximumBuffer - d.ready.buffer.length) bytes.length

/-- The loop of `consume`. -/
def consumeLoop (d : FrameDecoder) (bytes : Bytes) (frames : List Bytes) : Decoded :=
  if bytes = [] then ⟨none, d, frames⟩
  else if d.ready.buffer.length > maximumBuffer then d.ready.fail .tooLarge frames
  else
    let r := (d.ready.insert (bytes.take (d.count bytes))).decodeAvailable frames
    if r.error ≠ none then r
    else if d.count bytes = 0 ∧ bytes.drop (d.count bytes) ≠ [] then
      r.decoder.fail .tooLarge r.frames
    else consumeLoop r.decoder (bytes.drop (d.count bytes)) r.frames
termination_by bytes.length
decreasing_by
  rename_i hbytes _ _ hcount
  have hlength : 0 < bytes.length := List.length_pos_iff.mpr hbytes
  have htaken : d.count bytes ≠ 0 := by
    intro hzero
    exact hcount ⟨hzero, by rwa [hzero]⟩
  rw [List.length_drop]
  omega

/-- `consume`. -/
def consume (d : FrameDecoder) (bytes : Bytes) (frames : List Bytes) : Decoded :=
  if d.failed then ⟨some .decoderFailed, d, frames⟩ else d.consumeLoop bytes frames

/-- `finish`. -/
def finish (d : FrameDecoder) : Option FrameError :=
  if d.failed then some .decoderFailed
  else if d.buffer.length ≠ d.offset then some .incomplete
  else none

end FrameDecoder

end CcsTrans.GuiIpc
