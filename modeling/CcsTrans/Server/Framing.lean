import CcsTrans.Pieces
import CcsTrans.Server.HttpRequest
import Mathlib.Tactic.Ring

/-!
Whether it matters how a request comes in.

The reader looks at what happens to be in its buffer when it has found the head, and when it has
all of the body. What is sent after the body decides, then, and whether it comes in the same
piece: the result is the same for every division of a stream exactly when there is nothing of
the kind to be seen.
-/

namespace CcsTrans.Server

open CcsTrans.Text CcsTrans.Fallible

lemma length_terminator : terminator.length = 4 := rfl

/-! ### What the errors come to -/

lemma status_of_contentLength {headers : Headers} {e : RequestError}
    (h : contentLength headers = .error e) : e.status = some 400 := by
  unfold contentLength at h
  replace h := bind_eq_error.mp h
  rcases h with h | ⟨_, -, h⟩
  · generalize (none : Option ℕ) = result at h
    induction headers generalizing result with
    | nil => cases h
    | cons header headers ih =>
      rw [List.foldlM_cons] at h
      rcases bind_eq_error.mp h with h | ⟨result', -, h⟩
      · dsimp only at h
        split_ifs at h <;> cases h <;> rfl
      · exact ih _ h
  · cases h

lemma status_of_parseHeaders {lines : List Bytes} {e : RequestError}
    (h : parseHeaders lines = .error e) : e.status = some 400 := by
  induction lines with
  | nil => cases h
  | cons line lines ih =>
    unfold parseHeaders at h
    split_ifs at h with hline
    cases hcut : cut (str ":") line with
    | none =>
      rw [hcut] at h
      cases h
      rfl
    | some r =>
      rw [hcut] at h
      dsimp only at h
      split_ifs at h
      · cases h
        rfl
      · cases hrest : parseHeaders lines with
        | ok headers =>
          rw [hrest] at h
          cases h
        | error e' =>
          rw [hrest] at h
          cases h
          exact ih hrest

lemma status_of_parseRequestHead {rawHead clientIp : Bytes} {e : RequestError}
    (h : parseRequestHead rawHead clientIp = .error e) : e.status = some 400 := by
  unfold parseRequestHead at h
  dsimp only at h
  cases hlines : headLines rawHead with
  | nil =>
    rw [hlines] at h
    cases h
    rfl
  | cons first lines =>
    rw [hlines] at h
    dsimp only at h
    split at h
    · split_ifs at h
      · cases h
        rfl
      · cases h
        rfl
      · cases hheaders : parseHeaders lines with
        | ok headers =>
          rw [hheaders] at h
          cases h
        | error e' =>
          rw [hheaders] at h
          cases h
          exact status_of_parseHeaders hheaders
    · cases h
      rfl

/-! ### Reading, piece by piece -/

section Reading

variable {maxBodySize room memory : ℕ} {buffer : Bytes} {pieces : List Bytes}

/-- The pieces fit into the buffer of `recv`. -/
def Fit (pieces : List Bytes) : Prop := ∀ piece ∈ pieces, piece ≠ [] ∧ piece.length ≤ kReceiveSize

lemma growRequestMemory_eq {held bytes : ℕ} (h : held + bytes ≤ room) :
    growRequestMemory room held bytes = .ok (held + bytes) := by
  unfold growRequestMemory
  rw [if_neg (by omega)]

/-- A piece without the end of the head. -/
lemma readHead_cons_none {piece : Bytes} (hroom : kHeaderLimit + maxBodySize ≤ room)
    (hnone : cut terminator (buffer ++ piece) = none)
    (hlimit : (buffer ++ piece).length ≤ kHeaderLimit) :
    readHead maxBodySize room buffer.length buffer (piece :: pieces) =
      readHead maxBodySize room (buffer ++ piece).length (buffer ++ piece) pieces := by
  have hlength : (buffer ++ piece).length = buffer.length + piece.length := List.length_append
  rw [readHead, if_neg (by omega), growRequestMemory_eq (by omega), hnone]
  dsimp only
  rw [if_neg (by omega), hlength]

/-- The pieces before the one with the end of the head. -/
lemma readHead_append (hroom : kHeaderLimit + maxBodySize ≤ room) {rest : List Bytes}
    (hnone : cut terminator (buffer ++ pieces.flatten) = none)
    (hlimit : (buffer ++ pieces.flatten).length ≤ kHeaderLimit) :
    readHead maxBodySize room buffer.length buffer (pieces ++ rest) =
      readHead maxBodySize room (buffer ++ pieces.flatten).length (buffer ++ pieces.flatten) rest := by
  induction pieces generalizing buffer with
  | nil => simp
  | cons piece pieces ih =>
    rw [List.flatten_cons, ← List.append_assoc] at hnone hlimit ⊢
    have hlength : (buffer ++ piece ++ pieces.flatten).length =
        (buffer ++ piece).length + pieces.flatten.length := List.length_append
    rw [List.cons_append, readHead_cons_none hroom (cut_none_left hnone) (by omega),
      ih hnone hlimit]

/-- The piece with the end of the head. -/
lemma readHead_cons_some {piece head : Bytes} {after : Bytes}
    (hroom : kHeaderLimit + maxBodySize ≤ room)
    (hsome : cut terminator (buffer ++ piece) = some (head, after))
    (hhead : head.length + 4 ≤ kHeaderLimit)
    (hfits : (buffer ++ piece).length ≤ kHeaderLimit + maxBodySize) :
    readHead maxBodySize room buffer.length buffer (piece :: pieces) =
      .ok ⟨(buffer ++ piece).length, buffer ++ piece, head, pieces⟩ := by
  have hlength : (buffer ++ piece).length = buffer.length + piece.length := List.length_append
  rw [readHead, if_neg (by omega), growRequestMemory_eq (by omega), hsome]
  dsimp only
  rw [if_neg (by omega), hlength]

/-- A piece that is too much. -/
lemma readHead_cons_large {piece : Bytes} (hbuffer : buffer.length ≤ kHeaderLimit)
    (hlarge : kHeaderLimit + maxBodySize < (buffer ++ piece).length) :
    readHead maxBodySize room memory buffer (piece :: pieces) =
      .error (.runtimeError (str "request too large")) := by
  rw [List.length_append] at hlarge
  rw [readHead, if_pos (by omega)]

lemma status_large : (RequestError.runtimeError (str "request too large")).status = some 413 := by decide

lemma status_headers :
    (RequestError.runtimeError (str "request headers too large")).status = some 413 := by decide

/-- A stream without a head. -/
lemma readHead_headless (buffer : Bytes) (hroom : kHeaderLimit + maxBodySize ≤ room)
    (hnone : cut terminator (buffer ++ pieces.flatten) = none) (hlimit : buffer.length ≤ kHeaderLimit) :
    ∃ e, readHead maxBodySize room buffer.length buffer pieces = .error e ∧
      e.status = if kHeaderLimit < (buffer ++ pieces.flatten).length then some 413
        else if buffer ++ pieces.flatten = [] then none else some 500 := by
  induction pieces generalizing buffer with
  | nil =>
    refine ⟨_, rfl, ?_⟩
    have hnot : ¬ kHeaderLimit < buffer.length := by omega
    rw [List.flatten_nil, List.append_nil, if_neg hnot]
    by_cases hempty : buffer = []
    · rw [if_pos hempty, if_pos hempty]
      decide
    · rw [if_neg hempty, if_neg hempty]
      decide
  | cons piece pieces ih =>
    rw [List.flatten_cons, ← List.append_assoc] at hnone ⊢
    have hlength : (buffer ++ piece ++ pieces.flatten).length =
        (buffer ++ piece).length + pieces.flatten.length := List.length_append
    by_cases hlarge : kHeaderLimit + maxBodySize < (buffer ++ piece).length
    · refine ⟨_, readHead_cons_large hlimit hlarge, ?_⟩
      rw [if_pos (by omega)]
      exact status_large
    by_cases hhead : (buffer ++ piece).length ≤ kHeaderLimit
    · rw [readHead_cons_none hroom (cut_none_left hnone) hhead]
      exact ih (buffer ++ piece) hnone hhead
    · have hlength' : (buffer ++ piece).length = buffer.length + piece.length := List.length_append
      rw [readHead, if_neg (by omega), growRequestMemory_eq (by omega), cut_none_left hnone]
      dsimp only
      rw [if_pos (by omega), if_pos (by omega)]
      exact ⟨_, rfl, status_headers⟩

/-- A head that is too large. -/
lemma readHead_oversized (buffer : Bytes) (hroom : kHeaderLimit + maxBodySize ≤ room) {head after : Bytes}
    (hsome : cut terminator (buffer ++ pieces.flatten) = some (head, after))
    (hhead : kHeaderLimit < head.length + 4) (hnone : cut terminator buffer = none)
    (hlimit : buffer.length ≤ kHeaderLimit) :
    ∃ e, readHead maxBodySize room buffer.length buffer pieces = .error e ∧ e.status = some 413 := by
  induction pieces generalizing buffer with
  | nil =>
    rw [List.flatten_nil, List.append_nil, hnone] at hsome
    cases hsome
  | cons piece pieces ih =>
    rw [List.flatten_cons, ← List.append_assoc] at hsome
    by_cases hlarge : kHeaderLimit + maxBodySize < (buffer ++ piece).length
    · exact ⟨_, readHead_cons_large hlimit hlarge, status_large⟩
    have hlength' : (buffer ++ piece).length = buffer.length + piece.length := List.length_append
    by_cases hfound : head.length + terminator.length ≤ (buffer ++ piece).length
    · obtain ⟨z, hz⟩ := cut_left hsome hfound
      rw [readHead, if_neg (by omega), growRequestMemory_eq (by omega), hz]
      dsimp only
      rw [if_pos hhead]
      exact ⟨_, rfl, status_headers⟩
    · have hnone' := cut_left_none hsome (by omega)
      by_cases hfits : (buffer ++ piece).length ≤ kHeaderLimit
      · rw [readHead_cons_none hroom hnone' hfits]
        exact ih (buffer ++ piece) hsome hnone' hfits
      · rw [readHead, if_neg (by omega), growRequestMemory_eq (by omega), hnone']
        dsimp only
        rw [if_pos (by omega)]
        exact ⟨_, rfl, status_headers⟩

/-- How a head is read: the piece with its end may be too much. -/
inductive HeadOutcome (maxBodySize : ℕ) (stream head : Bytes) : Except RequestError HeadRead → Prop
  | large (hlong : kHeaderLimit + maxBodySize < stream.length)
      (hreach : kHeaderLimit + maxBodySize < head.length + 3 + kReceiveSize) :
      HeadOutcome maxBodySize stream head (.error (.runtimeError (str "request too large")))
  | read (buffer : Bytes) (pieces : List Bytes) (hwhole : buffer ++ pieces.flatten = stream)
      (hhead : head.length + 4 ≤ buffer.length) (hfits : buffer.length ≤ kHeaderLimit + maxBodySize) :
      HeadOutcome maxBodySize stream head (.ok ⟨buffer.length, buffer, head, pieces⟩)

lemma readHead_outcome (buffer : Bytes) (hroom : kHeaderLimit + maxBodySize ≤ room) {head after : Bytes}
    (hsome : cut terminator (buffer ++ pieces.flatten) = some (head, after))
    (hhead : head.length + 4 ≤ kHeaderLimit) (hnone : cut terminator buffer = none)
    (hbuffer : buffer.length ≤ head.length + 3) (hfit : Fit pieces) :
    HeadOutcome maxBodySize (buffer ++ pieces.flatten) head
      (readHead maxBodySize room buffer.length buffer pieces) := by
  induction pieces generalizing buffer with
  | nil =>
    rw [List.flatten_nil, List.append_nil, hnone] at hsome
    cases hsome
  | cons piece pieces ih =>
    rw [List.flatten_cons, ← List.append_assoc] at hsome ⊢
    have hlength : (buffer ++ piece ++ pieces.flatten).length =
        (buffer ++ piece).length + pieces.flatten.length := List.length_append
    have hlength' : (buffer ++ piece).length = buffer.length + piece.length := List.length_append
    have hpiece := (hfit piece (by simp)).2
    by_cases hlarge : kHeaderLimit + maxBodySize < (buffer ++ piece).length
    · rw [readHead_cons_large (by omega) hlarge]
      exact .large (by omega) (by omega)
    by_cases hfound : head.length + terminator.length ≤ (buffer ++ piece).length
    · obtain ⟨z, hz⟩ := cut_left hsome hfound
      rw [readHead_cons_some hroom hz hhead (by omega)]
      rw [length_terminator] at hfound
      exact .read _ _ rfl hfound (by omega)
    · have hnone' := cut_left_none hsome (by omega)
      rw [length_terminator] at hfound
      rw [readHead_cons_none hroom hnone' (by omega)]
      exact ih (buffer ++ piece) hsome hnone' (by omega) fun q hq => hfit q (by simp [hq])

/-- How a body is read: the piece with its end may be too much. -/
inductive BodyOutcome (stop memory : ℕ) (start stream : Bytes) : Except RequestError (ℕ × Bytes) → Prop
  | large (hlong : stop + 4 < stream.length) :
      BodyOutcome stop memory start stream (.error (.runtimeError (str "request too large")))
  | short (hshort : stream.length < stop) :
      BodyOutcome stop memory start stream (.error (.runtimeError (str "failed to read request body")))
  | read (buffer : Bytes) (pieces : List Bytes) (hwhole : buffer ++ pieces.flatten = stream)
      (hall : stop ≤ buffer.length) (hfew : buffer = start ∨ buffer.length ≤ stop + 4)
      (held : ℕ) (hheld : held + start.length = memory + buffer.length) :
      BodyOutcome stop memory start stream (.ok (held, buffer))

lemma readBody_of_le {stop : ℕ} (h : stop ≤ buffer.length) :
    readBody room stop memory buffer pieces = .ok (memory, buffer) := by
  cases pieces with
  | nil => rw [readBody, if_pos h]
  | cons piece pieces => rw [readBody, if_pos h]

lemma readBody_outcome (buffer : Bytes) (pieces : List Bytes) {stop : ℕ}
    (hroom : memory + stop + 4 ≤ room + buffer.length) :
    BodyOutcome stop memory buffer (buffer ++ pieces.flatten) (readBody room stop memory buffer pieces) := by
  induction pieces generalizing buffer memory with
  | nil =>
    rw [readBody]
    split_ifs with hall
    · exact .read buffer [] (by simp) hall (.inl rfl) memory rfl
    · exact .short (by simp; omega)
  | cons piece pieces ih =>
    rw [readBody]
    by_cases hall : stop ≤ buffer.length
    · rw [if_pos hall]
      exact .read buffer _ rfl hall (.inl rfl) memory rfl
    rw [if_neg hall]
    have hlength : (buffer ++ (piece :: pieces).flatten).length =
        buffer.length + (piece.length + pieces.flatten.length) := by simp
    by_cases hlarge : piece.length > stop + 4 - min (stop + 4) buffer.length
    · rw [if_pos hlarge]
      exact .large (by omega)
    · have hlength' : (buffer ++ piece).length = buffer.length + piece.length := List.length_append
      rw [if_neg hlarge, growRequestMemory_eq (by omega)]
      dsimp only
      have hrest : BodyOutcome stop (memory + piece.length) (buffer ++ piece) _ _ :=
        ih (buffer ++ piece) (by omega)
      rw [List.flatten_cons, ← List.append_assoc]
      generalize readBody room stop (memory + piece.length) (buffer ++ piece) pieces = r at hrest
      cases hrest with
      | large hlong => exact .large hlong
      | short hshort => exact .short hshort
      | read whole pieces' hwhole hall hfew held hheld =>
        refine .read whole pieces' hwhole hall (.inr ?_) held (by omega)
        rcases hfew with rfl | hfew
        · omega
        · exact hfew

end Reading

/-! ### The whole request -/

section Requests

variable {maxBodySize room : ℕ} {clientIp stream head after : Bytes} {pieces : List Bytes}

/-- What a head declares: the request, and the length of its body. -/
def declared (head clientIp : Bytes) : Except RequestError (HttpRequest × ℕ) := do
  let request ← parseRequestHead head clientIp
  let expected ← contentLength request.headers
  pure (request, expected)

lemma status_of_declared {e : RequestError} (h : declared head clientIp = .error e) :
    e.status = some 400 := by
  rcases bind_eq_error.mp h with h | ⟨request, -, h⟩
  · exact status_of_parseRequestHead h
  rcases bind_eq_error.mp h with h | ⟨expected, -, h⟩
  · exact status_of_contentLength h
  · cases h

/-- The request with the body that has been read. -/
def completeRequest (request : HttpRequest) (start expected : ℕ) (r : ℕ × Bytes) : ReceivedRequest where
  request := { request with
    body := (r.2.drop (actualBodyStart request start expected r.2)).take expected }
  memory := r.1 - r.2.length
  bodyMemoryBytes := expected

/-- There is room for a request of the largest size, twice. -/
def Roomy (maxBodySize room : ℕ) : Prop := 2 * (kHeaderLimit + maxBodySize) + 4 ≤ room

lemma received_of_error {e : RequestError} (h : readHead maxBodySize room 0 [] pieces = .error e) :
    received maxBodySize room clientIp pieces = .error e.status := by
  unfold received recvRequest
  rw [h]
  rfl

lemma received_of_head {buffer : Bytes} {rest : List Bytes} (hroom : Roomy maxBodySize room)
    (hread : readHead maxBodySize room 0 [] pieces = .ok ⟨buffer.length, buffer, head, rest⟩)
    (hhead : head.length + 4 ≤ kHeaderLimit) (hbuffer : buffer.length ≤ kHeaderLimit + maxBodySize) :
    received maxBodySize room clientIp pieces =
      match declared head clientIp with
      | .error _ => .error (some 400)
      | .ok (request, expected) =>
        if expected > maxBodySize then .error (some 413)
        else ((readBody room (head.length + 4 + expected) (buffer.length + head.length + expected)
          buffer rest).map (completeRequest request (head.length + 4) expected)).mapError
            RequestError.status := by
  unfold Roomy at hroom
  have hdeclared : ∀ e, declared head clientIp = .error e → e.status = some 400 :=
    fun e he => status_of_declared he
  unfold declared at hdeclared ⊢
  unfold received recvRequest
  rw [hread, ok_bind]
  dsimp only
  rw [growRequestMemory_eq (by omega), ok_bind]
  cases hparse : parseRequestHead head clientIp with
  | error e =>
    have he := hdeclared e (by rw [hparse]; rfl)
    simp only [error_bind, Except.mapError, he]
  | ok request =>
    simp only [ok_bind]
    cases hlength : contentLength request.headers with
    | error e =>
      have he := hdeclared e (by rw [hparse, ok_bind, hlength]; rfl)
      simp only [error_bind, Except.mapError, he]
    | ok expected =>
      simp only [ok_bind, pure_eq_ok]
      by_cases hlarge : expected > maxBodySize
      · rw [if_pos hlarge, if_pos hlarge]
        simp only [Except.mapError]
        congr 1
      · rw [if_neg hlarge, if_neg hlarge, growRequestMemory_eq (by omega), ok_bind]
        cases readBody room (head.length + 4 + expected) (buffer.length + head.length + expected)
          buffer rest with
        | error e => rfl
        | ok r => rfl

/-- Nothing that is received along with the head makes the request too large. -/
def Contained (maxBodySize : ℕ) (stream head : Bytes) : Prop :=
  stream.length ≤ kHeaderLimit + maxBodySize ∨ head.length + 3 + kReceiveSize ≤ kHeaderLimit + maxBodySize

/-- At most four bytes follow the body, and a second terminator before it is not mistaken. -/
structure Followed (request : HttpRequest) (start expected : ℕ) (stream : Bytes) : Prop where
  few : stream.length ≤ start + expected + 4
  unshifted : stream.length = start + expected + 4 → hasJsonContentType request.headers = true →
    (stream.drop start).take 4 = terminator →
    (stream.drop (start + 4)).take expected = (stream.drop start).take expected

/-- There is nothing to be seen, in whatever pieces a stream comes in. -/
def Steady (maxBodySize : ℕ) (clientIp stream : Bytes) : Prop :=
  ∀ head after, cut terminator stream = some (head, after) → head.length + 4 ≤ kHeaderLimit →
    (∀ e, declared head clientIp = .error e → Contained maxBodySize stream head) ∧
    ∀ request expected, declared head clientIp = .ok (request, expected) → expected ≤ maxBodySize →
      Contained maxBodySize stream head ∧
      (0 < expected → head.length + 4 + expected ≤ stream.length →
        Followed request (head.length + 4) expected stream)

/-- What becomes of a stream that comes in byte by byte. -/
def settled (maxBodySize : ℕ) (clientIp stream : Bytes) : Except (Option ℕ) ReceivedRequest :=
  match cut terminator stream with
  | none => .error (if kHeaderLimit < stream.length then some 413
      else if stream = [] then none else some 500)
  | some (head, _) =>
    if kHeaderLimit < head.length + 4 then .error (some 413)
    else match declared head clientIp with
      | .error _ => .error (some 400)
      | .ok (request, expected) =>
        if expected > maxBodySize then .error (some 413)
        else if stream.length < head.length + 4 + expected then .error (some 500)
        else .ok ⟨{ request with body := (stream.drop (head.length + 4)).take expected },
          head.length + expected, expected⟩

lemma Contained.not_large (h : Contained maxBodySize stream head)
    (hlong : kHeaderLimit + maxBodySize < stream.length)
    (hreach : kHeaderLimit + maxBodySize < head.length + 3 + kReceiveSize) : False := by
  rcases h with h | h
  · omega
  · omega

/-- The body of a request that has been read. -/
lemma completeRequest_eq {request : HttpRequest} {start expected held : ℕ} {buffer : Bytes}
    (rest : Bytes)
    (hfollowed : 0 < expected → Followed request start expected (buffer ++ rest))
    (hall : start + expected ≤ buffer.length) :
    completeRequest request start expected (held, buffer) =
      ⟨{ request with body := ((buffer ++ rest).drop start).take expected },
        held - buffer.length, expected⟩ := by
  have hbody : ∀ k, k + expected ≤ buffer.length →
      (buffer.drop k).take expected = ((buffer ++ rest).drop k).take expected := by
    intro k hk
    rw [List.drop_append_of_le_length (by omega), List.take_append_of_le_length (by simp; omega)]
  unfold completeRequest actualBodyStart
  dsimp only
  by_cases hshift : expected > 0 ∧ hasJsonContentType request.headers = true ∧
      buffer.length ≥ start + 4 ∧ (buffer.drop start).take 4 = terminator ∧
      buffer.length ≥ start + 4 + expected
  · obtain ⟨hpos, hjson, -, hsecond, hlong⟩ := hshift
    have hlength : (buffer ++ rest).length = buffer.length + rest.length := List.length_append
    have hfew := (hfollowed hpos).few
    have hsame := (hfollowed hpos).unshifted (by omega) hjson (by
      rw [List.drop_append_of_le_length (by omega), List.take_append_of_le_length (by simp; omega),
        hsecond])
    rw [if_pos ⟨hpos, hjson, by omega, hsecond, hlong⟩, hbody _ (by omega), hsame]
  · rw [if_neg hshift, hbody _ hall]

/-- **A steady stream has one result.** -/
theorem received_steady (hroom : Roomy maxBodySize room) (hsteady : Steady maxBodySize clientIp stream)
    (hdivides : Divides pieces stream) :
    received maxBodySize room clientIp pieces = settled maxBodySize clientIp stream := by
  obtain ⟨rfl, hfit⟩ := hdivides
  have hroom' : kHeaderLimit + maxBodySize ≤ room := by unfold Roomy at hroom; omega
  have hstart : cut terminator ([] ++ pieces.flatten) = cut terminator pieces.flatten := rfl
  unfold settled
  cases hcut : cut terminator pieces.flatten with
  | none =>
    obtain ⟨e, he, hstatus⟩ := readHead_headless [] hroom' (hstart.trans hcut) (by simp)
    rw [received_of_error he, hstatus]
    rfl
  | some r =>
    obtain ⟨head, after⟩ := r
    dsimp only
    by_cases hhead : kHeaderLimit < head.length + 4
    · obtain ⟨e, he, hstatus⟩ := readHead_oversized [] hroom' (hstart.trans hcut) hhead
        rfl (by simp)
      rw [received_of_error he, hstatus, if_pos hhead]
    rw [if_neg hhead]
    obtain ⟨hinvalid, hvalid⟩ := hsteady head after hcut (by omega)
    have houtcome := readHead_outcome [] hroom' (hstart.trans hcut) (by omega) rfl
      (by simp) hfit
    have hread : readHead maxBodySize room ([] : Bytes).length [] pieces =
      readHead maxBodySize room 0 [] pieces := rfl
    rw [hread, List.nil_append] at houtcome
    generalize hr : readHead maxBodySize room 0 [] pieces = r at houtcome
    cases houtcome with
    | large hlong hreach =>
      rw [received_of_error hr, status_large]
      cases hdeclared : declared head clientIp with
      | error e => exact ((hinvalid e hdeclared).not_large hlong hreach).elim
      | ok d =>
        obtain ⟨request, expected⟩ := d
        dsimp only
        by_cases hlarge : expected > maxBodySize
        · rw [if_pos hlarge]
        · exact ((hvalid request expected hdeclared (by omega)).1.not_large hlong hreach).elim
    | read buffer rest hwhole hfound hfits =>
      rw [received_of_head hroom hr (by omega) hfits]
      cases hdeclared : declared head clientIp with
      | error e => rfl
      | ok d =>
        obtain ⟨request, expected⟩ := d
        dsimp only
        by_cases hlarge : expected > maxBodySize
        · rw [if_pos hlarge, if_pos hlarge]
        rw [if_neg hlarge, if_neg hlarge]
        obtain ⟨-, hfollowed⟩ := hvalid request expected hdeclared (by omega)
        have hbody : BodyOutcome (head.length + 4 + expected)
            (buffer.length + head.length + expected) buffer (buffer ++ rest.flatten)
            (readBody room _ _ buffer rest) :=
          readBody_outcome buffer rest (by unfold Roomy at hroom; omega)
        rw [hwhole] at hbody
        have hlength : pieces.flatten.length = buffer.length + rest.flatten.length := by
          rw [← hwhole, List.length_append]
        generalize hr' : readBody room (head.length + 4 + expected)
          (buffer.length + head.length + expected) buffer rest = r at hbody
        cases hbody with
        | large hlong =>
          by_cases hpos : 0 < expected
          · have hfew := (hfollowed hpos (by omega)).few
            omega
          · rw [readBody_of_le (by omega)] at hr'
            cases hr'
        | short hshort =>
          rw [if_pos hshort]
          rfl
        | read whole rest' hwhole' hall hfew held hheld =>
          have hlength' : pieces.flatten.length = whole.length + rest'.flatten.length := by
            rw [← hwhole', List.length_append]
          have hmemory : held - whole.length = head.length + expected := by omega
          rw [if_neg (by omega), ← hwhole', Except.map]
          rw [← hwhole'] at hfollowed
          rw [completeRequest_eq rest'.flatten (fun hpos => hfollowed hpos (by
            rw [List.length_append]; omega)) hall, hmemory]
          rfl

/-! ### Divisions that show a difference -/

/-- A stream that comes in byte by byte. -/
def singly (xs : Bytes) : List Bytes := xs.map fun b => [b]

lemma flatten_singly (xs : Bytes) : (singly xs).flatten = xs := by
  induction xs with
  | nil => rfl
  | cons b xs ih => rw [singly, List.map_cons, List.flatten_cons, ← singly, ih]; rfl

lemma singly_append (xs ys : Bytes) : singly (xs ++ ys) = singly xs ++ singly ys := List.map_append

lemma fit_singly (xs : Bytes) : Fit (singly xs) := by
  intro piece hpiece
  obtain ⟨b, -, rfl⟩ := List.mem_map.mp hpiece
  exact ⟨List.cons_ne_nil _ _, by simp [kReceiveSize]⟩

/-- A stream whose bytes come in one by one, but for `k` of them after the first `m`. -/
def lumped (m k : ℕ) (stream : Bytes) : List Bytes :=
  singly (stream.take m) ++ (stream.drop m).take k :: singly (stream.drop (m + k))

lemma divides_singly (stream : Bytes) : Divides (singly stream) stream :=
  ⟨flatten_singly stream, fit_singly stream⟩

lemma divides_lumped {m k : ℕ} (hm : m < stream.length) (hk : 0 < k) (hk' : k ≤ kReceiveSize) :
    Divides (lumped m k stream) stream := by
  constructor
  · rw [lumped, List.flatten_append, List.flatten_cons, flatten_singly, flatten_singly,
      ← List.drop_drop, List.take_append_drop, List.take_append_drop]
  · intro piece hpiece
    rcases List.mem_append.mp hpiece with hpiece | hpiece
    · exact fit_singly _ piece hpiece
    rcases List.mem_cons.mp hpiece with rfl | hpiece
    · refine ⟨fun hnil => ?_, ?_⟩
      · have hlength := congrArg List.length hnil
        simp only [List.length_take, List.length_drop, List.length_nil] at hlength
        omega
      · rw [List.length_take]
        omega
    · exact fit_singly _ piece hpiece

lemma readBody_singly {memory stop : ℕ} {buffer xs : Bytes} {rest : List Bytes}
    (hstop : buffer.length + xs.length ≤ stop) (hroom : memory + xs.length ≤ room) :
    readBody room stop memory buffer (singly xs ++ rest) =
      readBody room stop (memory + xs.length) (buffer ++ xs) rest := by
  induction xs generalizing memory buffer with
  | nil => simp [singly]
  | cons b xs ih =>
    rw [List.length_cons] at hstop hroom
    have hone : singly (b :: xs) ++ rest = [b] :: (singly xs ++ rest) := rfl
    have hlength : (buffer ++ [b]).length = buffer.length + 1 := by simp
    rw [hone, readBody, if_neg (by omega), if_neg (by simp; omega),
      growRequestMemory_eq (by simp; omega)]
    dsimp only
    have hsum : memory + [b].length + xs.length = memory + (b :: xs).length := by
      simp only [List.length_cons, List.length_nil]
      omega
    rw [ih (by omega) (by simp; omega), List.append_assoc, List.singleton_append, hsum]

section Lumps

variable (hroom : Roomy maxBodySize room) (hcut : cut terminator stream = some (head, after))
  (hhead : head.length + 4 ≤ kHeaderLimit)

include hroom hcut hhead

/-- The bytes before the last one of the head. -/
lemma readHead_singly (rest : List Bytes) :
    readHead maxBodySize room 0 [] (singly (stream.take (head.length + 3)) ++ rest) =
      readHead maxBodySize room (head.length + 3) (stream.take (head.length + 3)) rest := by
  have hlong := length_le_of_cut hcut
  rw [length_terminator] at hlong
  have hlength : (stream.take (head.length + 3)).length = head.length + 3 := by
    rw [List.length_take]
    omega
  have hnone : cut terminator (stream.take (head.length + 3)) = none := by
    refine cut_left_none (t := stream.drop (head.length + 3)) (x := head) (y := after) ?_ ?_
    · rwa [List.take_append_drop]
    · rw [hlength, length_terminator]
      omega
  have hskip : readHead maxBodySize room ([] : Bytes).length []
      (singly (stream.take (head.length + 3)) ++ rest) = _ :=
    readHead_append (by unfold Roomy at hroom; omega) (by rwa [flatten_singly])
      (by rw [flatten_singly, List.nil_append]; omega)
  rw [flatten_singly, List.nil_append, hlength] at hskip
  exact hskip

/-- A piece with the end of the head that is too much. -/
lemma received_lump {k : ℕ} (hlarge : kHeaderLimit + maxBodySize < min stream.length (head.length + 3 + k)) :
    received maxBodySize room clientIp (lumped (head.length + 3) k stream) = .error (some 413) := by
  have hlong := length_le_of_cut hcut
  rw [length_terminator] at hlong
  have hlength : (stream.take (head.length + 3)).length = head.length + 3 := by
    rw [List.length_take]
    omega
  have hread : readHead maxBodySize room 0 [] (lumped (head.length + 3) k stream) =
      .error (.runtimeError (str "request too large")) := by
    rw [lumped, readHead_singly hroom hcut hhead]
    apply readHead_cons_large (by omega)
    rw [List.length_append, hlength, List.length_take, List.length_drop]
    omega
  rw [received_of_error hread, status_large]

/-- The head, byte by byte, with whatever follows it. -/
lemma readHead_head (rest : List Bytes) :
    readHead maxBodySize room 0 [] (singly (stream.take (head.length + 4)) ++ rest) =
      .ok ⟨(stream.take (head.length + 4)).length, stream.take (head.length + 4), head, rest⟩ := by
  have hlong := length_le_of_cut hcut
  rw [length_terminator] at hlong
  have hlast : stream.take (head.length + 4) =
      stream.take (head.length + 3) ++ [stream.get ⟨head.length + 3, by omega⟩] := by
    rw [show head.length + 4 = head.length + 3 + 1 from rfl, List.take_succ_eq_append_getElem (by omega)]
    rfl
  have hlength : (stream.take (head.length + 3)).length = head.length + 3 := by
    rw [List.length_take]
    omega
  obtain ⟨z, hz⟩ : ∃ z, cut terminator (stream.take (head.length + 4)) = some (head, z) := by
    apply cut_left (t := stream.drop (head.length + 4)) (y := after)
    · rwa [List.take_append_drop]
    · rw [List.length_take, length_terminator]
      omega
  rw [hlast] at hz ⊢
  rw [singly_append, List.append_assoc, readHead_singly hroom hcut hhead]
  have hsome : readHead maxBodySize room _ _ (_ :: rest) = _ :=
    readHead_cons_some (by unfold Roomy at hroom; omega) hz hhead
      (by rw [List.length_append, hlength]; simp; omega)
  rw [hlength] at hsome
  exact hsome

/-- The body, byte by byte, up to a byte of it. -/
lemma received_head (rest : List Bytes) {request : HttpRequest} {expected m : ℕ}
    (hdeclared : declared head clientIp = .ok (request, expected)) (hexpected : expected ≤ maxBodySize)
    (hm : head.length + 4 ≤ m) (hm' : m ≤ head.length + 4 + expected) (hstream : m ≤ stream.length) :
    received maxBodySize room clientIp (singly (stream.take m) ++ rest) =
      ((readBody room (head.length + 4 + expected) (m + head.length + expected) (stream.take m)
        rest).map (completeRequest request (head.length + 4) expected)).mapError
          RequestError.status := by
  have hlength : (stream.take (head.length + 4)).length = head.length + 4 := by
    rw [List.length_take]
    omega
  have hparts : stream.take m =
      stream.take (head.length + 4) ++ (stream.take m).drop (head.length + 4) := by
    have hsplit := List.take_append_drop (head.length + 4) (stream.take m)
    rw [List.take_take, min_eq_left hm] at hsplit
    exact hsplit.symm
  have hrest : ((stream.take m).drop (head.length + 4)).length = m - (head.length + 4) := by
    rw [List.length_drop, List.length_take]
    omega
  have hread := readHead_head hroom hcut hhead
    (singly ((stream.take m).drop (head.length + 4)) ++ rest)
  rw [← List.append_assoc, ← singly_append, ← hparts] at hread
  rw [received_of_head hroom hread hhead (by omega), hdeclared]
  dsimp only
  rw [if_neg (by omega), hlength, readBody_singly (by rw [hlength, hrest]; omega)
    (by unfold Roomy at hroom; rw [hrest]; omega), ← hparts, hrest]
  congr 3
  omega

/-- A request whose head says nothing of a body. -/
lemma received_invalid {e : RequestError} (hdeclared : declared head clientIp = .error e) :
    received maxBodySize room clientIp (singly stream) = .error (some 400) := by
  have hlong := length_le_of_cut hcut
  rw [length_terminator] at hlong
  have hread := readHead_head hroom hcut hhead (singly (stream.drop (head.length + 4)))
  rw [← singly_append, List.take_append_drop] at hread
  rw [received_of_head hroom hread hhead (by rw [List.length_take]; omega), hdeclared]

/-- A request that is there, byte by byte. -/
lemma received_whole {request : HttpRequest} {expected : ℕ}
    (hdeclared : declared head clientIp = .ok (request, expected)) (hexpected : expected ≤ maxBodySize)
    (hwhole : head.length + 4 + expected ≤ stream.length) :
    received maxBodySize room clientIp (singly stream) =
      .ok ⟨{ request with body := (stream.drop (head.length + 4)).take expected },
        head.length + expected, expected⟩ := by
  have hlength : (stream.take (head.length + 4 + expected)).length = head.length + 4 + expected := by
    rw [List.length_take]
    omega
  have hreceived := received_head hroom hcut hhead
    (singly (stream.drop (head.length + 4 + expected))) hdeclared hexpected (by omega) le_rfl hwhole
  rw [← singly_append, List.take_append_drop, readBody_of_le (by omega)] at hreceived
  rw [hreceived]
  have hstart : actualBodyStart request (head.length + 4) expected
      (stream.take (head.length + 4 + expected)) = head.length + 4 := by
    unfold actualBodyStart
    rw [if_neg (by omega)]
  have hbody : ((stream.take (head.length + 4 + expected)).drop (head.length + 4)).take expected =
      (stream.drop (head.length + 4)).take expected := by
    rw [List.drop_take, Nat.add_sub_cancel_left, List.take_take, min_self]
  have hmemory : head.length + 4 + expected + head.length + expected -
      (head.length + 4 + expected) = head.length + expected := by omega
  simp only [Except.map, Except.mapError, completeRequest, hstart, hlength, hbody, hmemory]

/-- A request whose last byte comes in along with more than four further ones. -/
lemma received_surplus {request : HttpRequest} {expected : ℕ}
    (hdeclared : declared head clientIp = .ok (request, expected)) (hexpected : expected ≤ maxBodySize)
    (hpos : 0 < expected) (hmore : head.length + 4 + expected + 4 < stream.length) :
    received maxBodySize room clientIp (lumped (head.length + 3 + expected) 6 stream) =
      .error (some 413) := by
  have hlength : (stream.take (head.length + 3 + expected)).length = head.length + 3 + expected := by
    rw [List.length_take]
    omega
  rw [lumped, received_head hroom hcut hhead _ hdeclared hexpected (by omega) (by omega) (by omega),
    readBody, if_neg (by omega), if_pos (by simp; omega)]
  simp only [Except.map, Except.mapError, status_large]

/-- A request whose last byte comes in along with the four that follow it, and with a second
terminator before its body. -/
lemma received_shifted {request : HttpRequest} {expected : ℕ}
    (hdeclared : declared head clientIp = .ok (request, expected)) (hexpected : expected ≤ maxBodySize)
    (hpos : 0 < expected) (hfour : stream.length = head.length + 4 + expected + 4)
    (hjson : hasJsonContentType request.headers = true)
    (hsecond : (stream.drop (head.length + 4)).take 4 = terminator) :
    received maxBodySize room clientIp (lumped (head.length + 3 + expected) 5 stream) =
      .ok ⟨{ request with body := (stream.drop (head.length + 4 + 4)).take expected },
        head.length + expected, expected⟩ := by
  have hlength : (stream.take (head.length + 3 + expected)).length = head.length + 3 + expected := by
    rw [List.length_take]
    omega
  have hpiece : (stream.drop (head.length + 3 + expected)).take 5 =
      stream.drop (head.length + 3 + expected) := List.take_of_length_le (by simp; omega)
  rw [lumped, received_head hroom hcut hhead _ hdeclared hexpected (by omega) (by omega) (by omega),
    hpiece, readBody, if_neg (by omega), if_neg (by simp; omega),
    growRequestMemory_eq (by unfold Roomy at hroom; simp; omega)]
  dsimp only
  rw [List.take_append_drop, readBody_of_le (by omega)]
  have hstart : actualBodyStart request (head.length + 4) expected stream = head.length + 4 + 4 := by
    unfold actualBodyStart
    rw [if_pos ⟨hpos, hjson, by omega, hsecond, by omega⟩]
  have hmemory : head.length + 3 + expected + head.length + expected +
      (stream.drop (head.length + 3 + expected)).length - stream.length = head.length + expected := by
    rw [List.length_drop]
    omega
  simp only [Except.map, Except.mapError, completeRequest, hstart, hmemory]

end Lumps

def theHead : Bytes :=
  str "POST /v1 HTTP/1.1\r\nContent-Type: application/json\r\nContent-Length: 6"

def theRequest : Bytes := theHead ++ terminator ++ str "[1, 2]"

def twoRequests : Bytes := theRequest ++ str "GET / HTTP/1.1\r\n\r\n"

lemma steady_theRequest : Steady 1024 [] theRequest := by
  have hcut : cut terminator theRequest = some (theHead, str "[1, 2]") := by decide +kernel
  have hlength : theRequest.length = theHead.length + 4 + 6 := by decide +kernel
  have hshort : theHead.length ≤ 100 := by decide +kernel
  intro head after h hhead
  rw [hcut] at h
  cases h
  have hcontained : Contained 1024 theRequest theHead := .inl (by rw [hlength]; omega)
  refine ⟨fun _ _ => hcontained, fun request expected hdeclared _ => ⟨hcontained, fun _ _ => ?_⟩⟩
  have hexpected : (declared theHead []).toOption.map (·.2) = some 6 := by decide +kernel
  have hsix : expected = 6 := by simpa [hdeclared, Except.toOption] using hexpected
  subst hsix
  exact ⟨by rw [hlength]; omega, fun hfour => by rw [hlength] at hfour; omega⟩

end Requests

end CcsTrans.Server
