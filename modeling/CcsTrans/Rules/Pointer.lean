import CcsTrans.Pieces
import CcsTrans.Rules.Rule

/-!
JSON pointers as RFC 6901 has them.

A pointer is a sequence of reference tokens, each behind a slash, in which a tilde only begins
an escape. The tokens and the texts determine each other.
-/

namespace CcsTrans.Rules

open CcsTrans.Text CcsTrans.Fallible

/-- Every tilde begins an escape. -/
def Escaped (s : Bytes) : Prop :=
  ∀ i, s[i]? = some (ch '~') → s[i + 1]? = some (ch '0') ∨ s[i + 1]? = some (ch '1')

/-- `json-pointer = *( "/" reference-token )`. -/
def IsJsonPointer (source : Bytes) : Prop :=
  ∃ segments : List Bytes, source = segments.flatMap (ch '/' :: ·) ∧
    ∀ s ∈ segments, ch '/' ∉ s ∧ Escaped s

def encodePointerByte (b : UInt8) : Bytes :=
  if b = ch '~' then [ch '~', ch '0'] else if b = ch '/' then [ch '~', ch '1'] else [b]

def encodePointerToken (token : Bytes) : Bytes := token.flatMap encodePointerByte

/-- The text of a pointer of these tokens. -/
def encodePointer (tokens : List Bytes) : Bytes :=
  tokens.flatMap fun token => ch '/' :: encodePointerToken token

/-! ### Tokens -/

lemma escaped_nil : Escaped [] := by
  intro i h
  simp at h

lemma escaped_cons {b : UInt8} {t : Bytes} : Escaped (b :: t) ↔
    (b = ch '~' → t[0]? = some (ch '0') ∨ t[0]? = some (ch '1')) ∧ Escaped t := by
  constructor
  · intro h
    exact ⟨fun hb => h 0 (by simp [hb]), fun i hi => h (i + 1) hi⟩
  · rintro ⟨hb, ht⟩ (_ | i) hi
    · exact hb (by simpa using hi)
    · exact ht i hi

lemma decodePointerToken_cons {b : UInt8} (h : b ≠ ch '~') (t : Bytes) :
    decodePointerToken (b :: t) = (b :: ·) <$> decodePointerToken t := by
  cases t <;> simp only [decodePointerToken, if_pos h]

lemma decodePointerToken_tilde (t : Bytes) :
    decodePointerToken (ch '~' :: ch '0' :: t) = (ch '~' :: ·) <$> decodePointerToken t := by
  rw [decodePointerToken, if_neg (by simp), if_pos rfl]

lemma decodePointerToken_slash (t : Bytes) :
    decodePointerToken (ch '~' :: ch '1' :: t) = (ch '/' :: ·) <$> decodePointerToken t := by
  rw [decodePointerToken, if_neg (by simp), if_neg (by decide), if_pos rfl]

/-- Exactly the tokens without other tildes are decoded. -/
lemma decodePointerToken_ok_iff (e : Bytes) :
    (∃ d, decodePointerToken e = .ok d) ↔ Escaped e := by
  have h0 : ch '0' ≠ ch '~' := by decide
  have h1 : ch '1' ≠ ch '~' := by decide
  fun_induction decodePointerToken e with
  | case1 => simp [escaped_nil]
  | case2 b t hb ih => simp [escaped_cons, hb, ← ih, map_eq_ok]
  | case3 b hb r ih => simp [escaped_cons, h0, ← ih, map_eq_ok]
  | case4 b hb r hne ih => simp [escaped_cons, h1, ← ih, map_eq_ok]
  | case5 b hb c r hc0 hc1 =>
    obtain rfl := not_not.mp hb
    simp [escaped_cons, hc0, hc1]
  | case6 b hb =>
    obtain rfl := not_not.mp hb
    simp [escaped_cons]

lemma encodePointerToken_cons (b : UInt8) (t : Bytes) :
    encodePointerToken (b :: t) = encodePointerByte b ++ encodePointerToken t := by
  rw [encodePointerToken, List.flatMap_cons, ← encodePointerToken]

lemma decodePointerToken_encode (token : Bytes) :
    decodePointerToken (encodePointerToken token) = .ok token := by
  induction token with
  | nil => rfl
  | cons b t ih =>
    rw [encodePointerToken_cons, encodePointerByte]
    by_cases htilde : b = ch '~'
    · rw [if_pos htilde, htilde]
      simp only [List.cons_append, List.nil_append, decodePointerToken_tilde, ih, map_ok]
    · rw [if_neg htilde]
      by_cases hslash : b = ch '/'
      · rw [if_pos hslash, hslash]
        simp only [List.cons_append, List.nil_append, decodePointerToken_slash, ih, map_ok]
      · rw [if_neg hslash]
        simp only [List.cons_append, List.nil_append, decodePointerToken_cons htilde, ih, map_ok]

/-- A token is the encoding of what it is decoded to. -/
lemma encode_of_decodePointerToken {e d : Bytes} (h : decodePointerToken e = .ok d)
    (hslash : ch '/' ∉ e) : encodePointerToken d = e := by
  fun_induction decodePointerToken e generalizing d with
  | case1 =>
    cases h
    rfl
  | case2 b t hb ih =>
    obtain ⟨d', hd, rfl⟩ := map_eq_ok.mp h
    obtain ⟨hb', ht⟩ := not_or.mp (mt List.mem_cons.mpr hslash)
    rw [encodePointerToken_cons, ih hd ht, encodePointerByte, if_neg hb, if_neg (Ne.symm hb')]
    rfl
  | case3 b hb r ih =>
    obtain ⟨d', hd, rfl⟩ := map_eq_ok.mp h
    obtain rfl := not_not.mp hb
    have hr : ch '/' ∉ r := fun hr => hslash (by simp [hr])
    rw [encodePointerToken_cons, ih hd hr]
    rfl
  | case4 b hb r hne ih =>
    obtain ⟨d', hd, rfl⟩ := map_eq_ok.mp h
    obtain rfl := not_not.mp hb
    have hr : ch '/' ∉ r := fun hr => hslash (by simp [hr])
    rw [encodePointerToken_cons, ih hd hr]
    rfl
  | case5 => cases h
  | case6 => cases h

lemma slash_notMem_encode (token : Bytes) : ch '/' ∉ encodePointerToken token := by
  rw [encodePointerToken, List.mem_flatMap]
  rintro ⟨b, -, hb⟩
  rw [encodePointerByte] at hb
  split_ifs at hb with htilde hslash
  · revert hb
    decide
  · revert hb
    decide
  · exact hslash (List.mem_singleton.mp hb).symm

/-! ### Pointers -/

lemma encodePointer_eq (tokens : List Bytes) :
    encodePointer tokens = (tokens.map encodePointerToken).flatMap (ch '/' :: ·) := by
  rw [encodePointer, List.flatMap_map]

/-- What is parsed: the pieces between the slashes, decoded one by one. -/
lemma parseJsonPointer_ok_iff {source : Bytes} {p : ParsedJsonPointer} :
    parseJsonPointer source = .ok p ↔ source.length ≤ kMaxJsonPointerBytes ∧
      p.traceTarget = boundedTraceTarget source ∧
      ∃ segments : List Bytes, source = segments.flatMap (ch '/' :: ·) ∧
        (∀ s ∈ segments, ch '/' ∉ s) ∧ segments.mapM decodePointerToken = .ok p.tokens := by
  obtain ⟨target, tokens⟩ := p
  unfold parseJsonPointer
  by_cases hlen : source.length > kMaxJsonPointerBytes
  · rw [if_pos hlen]
    constructor
    · nofun
    · rintro ⟨h, -⟩
      omega
  · rw [if_neg hlen]
    cases source with
    | nil =>
      constructor
      · intro h
        cases h
        exact ⟨by simp, rfl, [], rfl, by simp, rfl⟩
      · rintro ⟨-, rfl, segments, hs, -, hd⟩
        obtain rfl : segments = [] :=
          List.eq_nil_iff_forall_not_mem.mpr (by simpa using hs.symm)
        cases hd
        rfl
    | cons b t =>
      by_cases hb : b ≠ ch '/'
      · simp only [if_pos hb]
        constructor
        · nofun
        · rintro ⟨-, -, segments, hs, -, -⟩
          cases segments with
          | nil => cases hs
          | cons x xs =>
            rw [List.flatMap_cons, List.cons_append, List.cons.injEq] at hs
            exact absurd hs.1 hb
      · simp only [if_neg hb]
        obtain rfl : b = ch '/' := not_not.mp hb
        constructor
        · intro h
          obtain ⟨ts, hts, h⟩ := bind_eq_ok.mp h
          cases h
          exact ⟨by omega, rfl, splitOn (ch '/') t, (flatMap_splitOn _ t).symm,
            fun s hs => notMem_of_mem_splitOn hs, hts⟩
        · rintro ⟨-, rfl, segments, hs, hslash, hd⟩
          rw [splitOn_of_flatMap hslash hs.symm, hd]
          rfl

lemma parseJsonPointer_accepts (source : Bytes) : (∃ p, parseJsonPointer source = .ok p) ↔
    source.length ≤ kMaxJsonPointerBytes ∧ IsJsonPointer source := by
  constructor
  · rintro ⟨p, hp⟩
    obtain ⟨hlen, -, segments, hs, hslash, hd⟩ := parseJsonPointer_ok_iff.mp hp
    refine ⟨hlen, segments, hs, fun s hmem => ⟨hslash s hmem, ?_⟩⟩
    exact (decodePointerToken_ok_iff s).mp (exists_mapM_iff.mp ⟨_, hd⟩ s hmem)
  · rintro ⟨hlen, segments, hs, hall⟩
    obtain ⟨tokens, htokens⟩ := exists_mapM_iff.mpr fun s hmem =>
      (decodePointerToken_ok_iff s).mpr (hall s hmem).2
    exact ⟨⟨_, tokens⟩, parseJsonPointer_ok_iff.mpr
      ⟨hlen, rfl, segments, hs, fun s hmem => (hall s hmem).1, htokens⟩⟩

lemma parse_encodePointer {tokens : List Bytes}
    (h : (encodePointer tokens).length ≤ kMaxJsonPointerBytes) :
    ∃ p, parseJsonPointer (encodePointer tokens) = .ok p ∧ p.tokens = tokens := by
  have hd : (tokens.map encodePointerToken).mapM decodePointerToken = .ok tokens := by
    refine mapM_of_forall₂ (List.forall₂_map_left_iff.mpr (List.forall₂_same.mpr ?_))
    exact fun t _ => decodePointerToken_encode t
  refine ⟨⟨_, tokens⟩, parseJsonPointer_ok_iff.mpr
    ⟨h, rfl, _, encodePointer_eq tokens, fun s hs => ?_, hd⟩, rfl⟩
  obtain ⟨t, -, rfl⟩ := List.mem_map.mp hs
  exact slash_notMem_encode t

lemma encode_of_mapM_decode {segments tokens : List Bytes} (hslash : ∀ s ∈ segments, ch '/' ∉ s)
    (h : segments.mapM decodePointerToken = .ok tokens) :
    tokens.map encodePointerToken = segments := by
  induction segments generalizing tokens with
  | nil =>
    cases h
    rfl
  | cons s segments ih =>
    obtain ⟨d, ds, hd, hds, rfl⟩ := mapM_cons_eq_ok.mp h
    have hs := encode_of_decodePointerToken hd (hslash s (by simp))
    have hrest := ih (fun x hx => hslash x (by simp [hx])) hds
    rw [List.map_cons, hs, hrest]

lemma encode_of_parseJsonPointer {source : Bytes} {p : ParsedJsonPointer}
    (h : parseJsonPointer source = .ok p) : encodePointer p.tokens = source := by
  obtain ⟨-, -, segments, rfl, hslash, hd⟩ := parseJsonPointer_ok_iff.mp h
  rw [encodePointer_eq, encode_of_mapM_decode hslash hd]

/-- **Pointers are those of RFC 6901.** A text is parsed exactly when it is a pointer within the
limit; the text of tokens is parsed to them, and every parsed text is the text of its tokens. -/
theorem json_pointer_rfc6901 :
    (∀ source, (∃ p, parseJsonPointer source = .ok p) ↔
      source.length ≤ kMaxJsonPointerBytes ∧ IsJsonPointer source) ∧
    (∀ tokens, (encodePointer tokens).length ≤ kMaxJsonPointerBytes →
      ∃ p, parseJsonPointer (encodePointer tokens) = .ok p ∧ p.tokens = tokens) ∧
    ∀ source p, parseJsonPointer source = .ok p → encodePointer p.tokens = source :=
  ⟨parseJsonPointer_accepts, fun _ => parse_encodePointer, fun _ _ => encode_of_parseJsonPointer⟩

/-- Tokens with a separator and a tilde, and an empty one. -/
theorem json_pointer_rfc6901_escapes :
    encodePointer [str "a/b", str "m~n", []] = str "/a~1b/m~0n/" ∧
    ∃ p, parseJsonPointer (str "/a~1b/m~0n/") = .ok p ∧ p.tokens = [str "a/b", str "m~n", []] :=
  ⟨by decide, json_pointer_rfc6901.2.1 [str "a/b", str "m~n", []] (by decide)⟩

end CcsTrans.Rules
