import CcsTrans.GuiIpc.FrameCodec

/-!
The texts that frames may have.

The check of a payload reads its bytes by their index. It never reads one that is not there, and
what it accepts are the texts of Unicode, encoded character by character.
-/

namespace CcsTrans.GuiIpc

open CcsTrans.Text

/-! ### Bytes by their index -/

/-- `valid_utf8` from an index on. Nothing is what a byte is that is not there. -/
def validUtf8At (bytes : Bytes) (index : ℕ) : Option Bool :=
  if h : index < bytes.length then do
    let first ← bytes[index]?
    if first ≤ 0x7f then validUtf8At bytes (index + 1)
    else if first ≥ 0xc2 ∧ first ≤ 0xdf then
      if index + 1 ≥ bytes.length then return false
      if !continuation (← bytes[index + 1]?) then return false
      validUtf8At bytes (index + 2)
    else if first ≥ 0xe0 ∧ first ≤ 0xef then
      if index + 2 ≥ bytes.length then return false
      if !continuation (← bytes[index + 1]?) then return false
      if !continuation (← bytes[index + 2]?) then return false
      let second ← bytes[index + 1]?
      if (first == 0xe0 && second < 0xa0) || (first == 0xed && second ≥ 0xa0) then return false
      validUtf8At bytes (index + 3)
    else if first ≥ 0xf0 ∧ first ≤ 0xf4 then
      if index + 3 ≥ bytes.length then return false
      if !continuation (← bytes[index + 1]?) then return false
      if !continuation (← bytes[index + 2]?) then return false
      if !continuation (← bytes[index + 3]?) then return false
      let second ← bytes[index + 1]?
      if (first == 0xf0 && second < 0x90) || (first == 0xf4 && second ≥ 0x90) then return false
      validUtf8At bytes (index + 4)
    else return false
  else some true
termination_by bytes.length - index

/-- What is behind an index. -/
lemma getElem?_append {before rest : Bytes} (k : ℕ) : (before ++ rest)[before.length + k]? = rest[k]? := by
  rw [List.getElem?_append_right (Nat.le_add_right _ _), Nat.add_sub_cancel_left]

lemma validUtf8_cons (first : UInt8) (rest : Bytes) : validUtf8 (first :: rest) =
    if first ≤ 0x7f then validUtf8 rest
    else if 0xc2 ≤ first ∧ first ≤ 0xdf then
      match rest with
      | second :: rest => continuation second && validUtf8 rest
      | _ => false
    else if 0xe0 ≤ first ∧ first ≤ 0xef then
      match rest with
      | second :: third :: rest =>
        continuation second && continuation third &&
          !((first == 0xe0 && second < 0xa0) || (first == 0xed && second ≥ 0xa0)) &&
          validUtf8 rest
      | _ => false
    else if 0xf0 ≤ first ∧ first ≤ 0xf4 then
      match rest with
      | second :: third :: fourth :: rest =>
        continuation second && continuation third && continuation fourth &&
          !((first == 0xf0 && second < 0x90) || (first == 0xf4 && second ≥ 0x90)) &&
          validUtf8 rest
      | _ => false
    else false := by
  rw [validUtf8.eq_def]
  rfl

lemma validUtf8At_append (before rest : Bytes) :
    validUtf8At (before ++ rest) before.length = some (validUtf8 rest) := by
  induction hn : rest.length using Nat.strong_induction_on generalizing before rest with
  | _ n ih =>
    subst hn
    have hnext (u v : Bytes) (hrest : rest = u ++ v) (hu : 0 < u.length) :
        validUtf8At (before ++ rest) (before.length + u.length) = some (validUtf8 v) := by
      have := ih v.length (by rw [hrest, List.length_append]; omega) (before ++ u) v rfl
      rwa [List.append_assoc, ← hrest, List.length_append] at this
    cases rest with
    | nil =>
      rw [validUtf8At, List.append_nil, dif_neg (Nat.lt_irrefl _), validUtf8]
    | cons first rest =>
      have hlength : (before ++ first :: rest).length = before.length + (rest.length + 1) := by
        rw [List.length_append, List.length_cons]
      have hread (k : ℕ) : (before ++ first :: rest)[before.length + k]? = (first :: rest)[k]? :=
        getElem?_append k
      have hfirst : (before ++ first :: rest)[before.length]? = some first := hread 0
      rw [validUtf8At, dif_pos (by omega), hfirst]
      simp only [hread, hlength, Option.bind_eq_bind, Option.bind_some]
      by_cases hone : first ≤ 0x7f
      · rw [if_pos hone, validUtf8_cons, if_pos hone]
        exact hnext [first] rest rfl (by simp)
      rw [if_neg hone]
      by_cases htwo : first ≥ 0xc2 ∧ first ≤ 0xdf
      · rw [if_pos htwo, validUtf8_cons, if_neg hone, if_pos htwo]
        match rest with
        | [] => rw [if_pos (by simp)]; rfl
        | second :: rest =>
          rw [if_neg (by simp)]
          have hrest := hnext [first, second] rest rfl (by simp)
          simp only [List.getElem?_cons_succ, List.getElem?_cons_zero, Option.bind_some]
          cases continuation second
          · rfl
          · exact hrest
      rw [if_neg htwo]
      by_cases hthree : first ≥ 0xe0 ∧ first ≤ 0xef
      · rw [if_pos hthree, validUtf8_cons, if_neg hone, if_neg htwo, if_pos hthree]
        match rest with
        | [] => rw [if_pos (by simp)]; rfl
        | [_] => rw [if_pos (by simp)]; rfl
        | second :: third :: rest =>
          rw [if_neg (by simp)]
          have hrest := hnext [first, second, third] rest rfl (by simp)
          simp only [List.getElem?_cons_succ, List.getElem?_cons_zero, Option.bind_some]
          cases continuation second
          · rfl
          cases continuation third
          · rfl
          cases first == 0xe0 && second < 0xa0 || first == 0xed && second ≥ 0xa0
          · exact hrest
          · rfl
      rw [if_neg hthree]
      by_cases hfour : first ≥ 0xf0 ∧ first ≤ 0xf4
      · rw [if_pos hfour, validUtf8_cons, if_neg hone, if_neg htwo, if_neg hthree, if_pos hfour]
        match rest with
        | [] => rw [if_pos (by simp)]; rfl
        | [_] => rw [if_pos (by simp)]; rfl
        | [_, _] => rw [if_pos (by simp)]; rfl
        | second :: third :: fourth :: rest =>
          rw [if_neg (by simp)]
          have hrest := hnext [first, second, third, fourth] rest rfl (by simp)
          simp only [List.getElem?_cons_succ, List.getElem?_cons_zero, Option.bind_some]
          cases continuation second
          · rfl
          cases continuation third
          · rfl
          cases continuation fourth
          · rfl
          cases first == 0xf0 && second < 0x90 || first == 0xf4 && second ≥ 0x90
          · exact hrest
          · rfl
      rw [if_neg hfour, validUtf8_cons, if_neg hone, if_neg htwo, if_neg hthree, if_neg hfour]
      rfl

/-- The check reads no byte that is not there, and comes to its end. -/
lemma validUtf8At_zero (bytes : Bytes) : validUtf8At bytes 0 = some (validUtf8 bytes) :=
  validUtf8At_append [] bytes

/-! ### Characters -/

lemma continuation_iff {b : UInt8} : continuation b = true ↔ 0x80 ≤ b.toNat ∧ b.toNat ≤ 0xBF := by
  have hall : ∀ n < 256, (continuation n.toUInt8 = true ↔ 0x80 ≤ n ∧ n ≤ 0xBF) := by decide +kernel
  simpa using hall b.toNat b.toNat_lt

/-- The bytes of one character: no character takes more bytes than it needs, is a surrogate, or is
past U+10FFFF. -/
inductive Encoded : Bytes → Prop
  | one {a : UInt8} (ha : a.toNat ≤ 0x7F) : Encoded [a]
  | two {a b : UInt8} (ha : 0xC2 ≤ a.toNat ∧ a.toNat ≤ 0xDF) (hb : continuation b = true) : Encoded [a, b]
  | three {a b c : UInt8} (ha : 0xE0 ≤ a.toNat ∧ a.toNat ≤ 0xEF) (hb : continuation b = true)
      (hc : continuation c = true) (short : a.toNat = 0xE0 → 0xA0 ≤ b.toNat)
      (surrogate : a.toNat = 0xED → b.toNat < 0xA0) : Encoded [a, b, c]
  | four {a b c d : UInt8} (ha : 0xF0 ≤ a.toNat ∧ a.toNat ≤ 0xF4) (hb : continuation b = true)
      (hc : continuation c = true) (hd : continuation d = true) (short : a.toNat = 0xF0 → 0x90 ≤ b.toNat)
      (last : a.toNat = 0xF4 → b.toNat < 0x90) : Encoded [a, b, c, d]

lemma le_iff {a b : UInt8} : a ≤ b ↔ a.toNat ≤ b.toNat := UInt8.le_iff_toNat_le

/-- The bytes that may not follow a first one. -/
lemma second_iff {a b first second third : UInt8} : (!((a == first && b < second) ||
    (a == third && b ≥ second))) = true ↔
      (a.toNat = first.toNat → second.toNat ≤ b.toNat) ∧ (a.toNat = third.toNat → b.toNat < second.toNat) := by
  simp only [Bool.not_eq_true', Bool.or_eq_false_iff, Bool.and_eq_false_imp, beq_iff_eq,
    decide_eq_false_iff_not, ge_iff_le, UInt8.toNat_inj, UInt8.le_iff_toNat_le,
    UInt8.lt_iff_toNat_lt, not_lt, not_le]

/-- What is accepted starts with a character. -/
lemma exists_encoded {first : UInt8} {rest : Bytes} (h : validUtf8 (first :: rest) = true) :
    ∃ p t, Encoded p ∧ first :: rest = p ++ t ∧ validUtf8 t = true := by
  rw [validUtf8_cons] at h
  split_ifs at h with hone htwo hthree hfour
  · exact ⟨[first], rest, .one (le_iff.mp hone), rfl, h⟩
  · split at h
    · next second t =>
      obtain ⟨hsecond, ht⟩ := Bool.and_eq_true_iff.mp h
      exact ⟨[first, second], t, .two ⟨le_iff.mp htwo.1, le_iff.mp htwo.2⟩ hsecond, rfl, ht⟩
    · cases h
  · split at h
    · next second third t =>
      simp only [Bool.and_eq_true, second_iff] at h
      obtain ⟨⟨⟨hsecond, hthird⟩, hshort, hsurrogate⟩, ht⟩ := h
      exact ⟨[first, second, third], t, .three ⟨le_iff.mp hthree.1, le_iff.mp hthree.2⟩ hsecond hthird
        hshort hsurrogate, rfl, ht⟩
    · cases h
  · split at h
    · next second third fourth t =>
      simp only [Bool.and_eq_true, second_iff] at h
      obtain ⟨⟨⟨⟨hsecond, hthird⟩, hfourth⟩, hshort, hlast⟩, ht⟩ := h
      exact ⟨[first, second, third, fourth], t, .four ⟨le_iff.mp hfour.1, le_iff.mp hfour.2⟩ hsecond hthird
        hfourth hshort hlast, rfl, ht⟩
    · cases h

/-- A character in front of what is accepted is accepted. -/
lemma validUtf8_append {p t : Bytes} (hp : Encoded p) (h : validUtf8 t = true) :
    validUtf8 (p ++ t) = true := by
  cases hp with
  | one ha =>
    rw [List.singleton_append, validUtf8_cons, if_pos (le_iff.mpr ha)]
    exact h
  | two ha hb =>
    rw [List.cons_append, List.singleton_append, validUtf8_cons, if_neg (by rw [le_iff]; simp; omega),
      if_pos ⟨le_iff.mpr ha.1, le_iff.mpr ha.2⟩]
    simp only [hb, h, Bool.and_self]
  | three ha hb hc short surrogate =>
    rw [List.cons_append, List.cons_append, List.singleton_append, validUtf8_cons,
      if_neg (by rw [le_iff]; simp; omega), if_neg (by rw [le_iff, le_iff]; simp; omega),
      if_pos ⟨le_iff.mpr ha.1, le_iff.mpr ha.2⟩]
    simp only [Bool.and_eq_true, second_iff]
    exact ⟨⟨⟨hb, hc⟩, short, surrogate⟩, h⟩
  | four ha hb hc hd short last =>
    rw [List.cons_append, List.cons_append, List.cons_append, List.singleton_append, validUtf8_cons,
      if_neg (by rw [le_iff]; simp; omega), if_neg (by rw [le_iff, le_iff]; simp; omega),
      if_neg (by rw [le_iff, le_iff]; simp; omega), if_pos ⟨le_iff.mpr ha.1, le_iff.mpr ha.2⟩]
    simp only [Bool.and_eq_true, second_iff]
    exact ⟨⟨⟨⟨hb, hc⟩, hd⟩, short, last⟩, h⟩

/-! ### Texts of Unicode -/

lemma ofNat_eq {n : ℕ} {b : UInt8} (h : n = b.toNat) : UInt8.ofNat n = b := by
  rw [h, UInt8.ofNat_toNat]

/-- A character of a number. -/
lemma exists_char {n : ℕ} (h : n < 0xD800 ∨ 0xDFFF < n ∧ n < 0x110000) : ∃ c : Char, c.val.toNat = n :=
  ⟨Char.ofNatAux n h, rfl⟩

lemma toNat_ofNat {n : ℕ} (h : n < 256) : (UInt8.ofNat n).toNat = n := by
  rw [UInt8.toNat_ofNat']
  exact Nat.mod_eq_of_lt h

lemma continuation_ofNat {n : ℕ} (h : 0x80 ≤ n ∧ n ≤ 0xBF) : continuation (UInt8.ofNat n) = true := by
  rw [continuation_iff, toNat_ofNat (by omega)]
  exact h

/-- The last six bits of a number, and what is in front of them. -/
lemma six_bits (n : ℕ) {b : ℕ} (hb : 0x80 ≤ b ∧ b ≤ 0xBF) :
    (n * 64 + (b - 0x80)) / 64 = n ∧ (n * 64 + (b - 0x80)) % 64 + 0x80 = b := by
  constructor <;> omega

lemma first_bits {a first size : ℕ} (h : first ≤ a ∧ a < first + size) : (a - first) % size + first = a := by
  rw [Nat.mod_eq_of_lt (by omega)]
  omega

lemma two_bytes {a b n : ℕ} (ha : 0xC0 ≤ a ∧ a < 0xC0 + 32) (hb : 0x80 ≤ b ∧ b ≤ 0xBF)
    (hn : n = (a - 0xC0) * 64 + (b - 0x80)) : n / 64 % 32 + 0xC0 = a ∧ n % 64 + 0x80 = b := by
  obtain ⟨hfront, hlast⟩ := six_bits (a - 0xC0) hb
  rw [hn, hfront]
  exact ⟨first_bits ha, hlast⟩

lemma three_bytes {a b c n : ℕ} (ha : 0xE0 ≤ a ∧ a < 0xE0 + 16) (hb : 0x80 ≤ b ∧ b ≤ 0xBF)
    (hc : 0x80 ≤ c ∧ c ≤ 0xBF) (hn : n = ((a - 0xE0) * 64 + (b - 0x80)) * 64 + (c - 0x80)) :
    n / 4096 % 16 + 0xE0 = a ∧ n / 64 % 64 + 0x80 = b ∧ n % 64 + 0x80 = c := by
  obtain ⟨hfront, hlast⟩ := six_bits ((a - 0xE0) * 64 + (b - 0x80)) hc
  obtain ⟨hfirst, hsecond⟩ := six_bits (a - 0xE0) hb
  rw [← hn] at hfront hlast
  rw [show 4096 = 64 * 64 from rfl, ← Nat.div_div_eq_div_mul, hfront, hfirst]
  exact ⟨first_bits ha, hsecond, hlast⟩

lemma four_bytes {a b c d n : ℕ} (ha : 0xF0 ≤ a ∧ a < 0xF0 + 8) (hb : 0x80 ≤ b ∧ b ≤ 0xBF)
    (hc : 0x80 ≤ c ∧ c ≤ 0xBF) (hd : 0x80 ≤ d ∧ d ≤ 0xBF)
    (hn : n = (((a - 0xF0) * 64 + (b - 0x80)) * 64 + (c - 0x80)) * 64 + (d - 0x80)) :
    n / 262144 % 8 + 0xF0 = a ∧ n / 4096 % 64 + 0x80 = b ∧ n / 64 % 64 + 0x80 = c ∧ n % 64 + 0x80 = d := by
  obtain ⟨hfront, hlast⟩ := six_bits (((a - 0xF0) * 64 + (b - 0x80)) * 64 + (c - 0x80)) hd
  obtain ⟨hmiddle, hthird⟩ := six_bits ((a - 0xF0) * 64 + (b - 0x80)) hc
  obtain ⟨hfirst, hsecond⟩ := six_bits (a - 0xF0) hb
  rw [← hn] at hfront hlast
  rw [show 262144 = 64 * 64 * 64 from rfl, show 4096 = 64 * 64 from rfl, ← Nat.div_div_eq_div_mul,
    ← Nat.div_div_eq_div_mul, hfront, hmiddle, hfirst]
  exact ⟨first_bits ha, hsecond, hthird, hlast⟩

/-- What is accepted encodes a character. -/
lemma exists_char_of_encoded {p : Bytes} (h : Encoded p) : ∃ c : Char, p = String.utf8EncodeChar c := by
  cases h with
  | @one a ha =>
    obtain ⟨c, hc⟩ := exists_char (n := a.toNat) (by omega)
    refine ⟨c, ?_⟩
    rw [String.utf8EncodeChar, if_pos (by omega), ofNat_eq hc]
  | @two a b ha hb =>
    rw [continuation_iff] at hb
    obtain ⟨n, hn⟩ : ∃ n, n = (a.toNat - 0xC0) * 64 + (b.toNat - 0x80) := ⟨_, rfl⟩
    have hrange : 0x7F < n ∧ n ≤ 0x7FF := by omega
    obtain ⟨hfirst, hsecond⟩ := two_bytes ⟨by omega, by omega⟩ hb hn
    obtain ⟨c, rfl⟩ := exists_char (n := n) (.inl (hrange.2.trans_lt (by decide)))
    refine ⟨c, ?_⟩
    rw [String.utf8EncodeChar, if_neg hrange.1.not_ge, if_pos hrange.2, ofNat_eq hfirst, ofNat_eq hsecond]
  | @three a b d ha hb hd short surrogate =>
    rw [continuation_iff] at hb hd
    obtain ⟨n, hn⟩ : ∃ n, n = ((a.toNat - 0xE0) * 64 + (b.toNat - 0x80)) * 64 + (d.toNat - 0x80) := ⟨_, rfl⟩
    have hrange : 0x7FF < n ∧ n ≤ 0xFFFF := by omega
    have hchar : n < 0xD800 ∨ 0xDFFF < n ∧ n < 0x110000 := by omega
    obtain ⟨hfirst, hsecond, hthird⟩ := three_bytes ⟨ha.1, by omega⟩ hb hd hn
    obtain ⟨c, rfl⟩ := exists_char hchar
    refine ⟨c, ?_⟩
    rw [String.utf8EncodeChar, if_neg (hrange.1.trans' (by decide)).not_ge, if_neg hrange.1.not_ge,
      if_pos hrange.2, ofNat_eq hfirst, ofNat_eq hsecond, ofNat_eq hthird]
  | @four a b d e ha hb hd he short last =>
    rw [continuation_iff] at hb hd he
    obtain ⟨n, hn⟩ : ∃ n, n = (((a.toNat - 0xF0) * 64 + (b.toNat - 0x80)) * 64 + (d.toNat - 0x80)) * 64 +
        (e.toNat - 0x80) := ⟨_, rfl⟩
    have hrange : 0xFFFF < n ∧ n < 0x110000 := by omega
    obtain ⟨hfirst, hsecond, hthird, hfourth⟩ := four_bytes ⟨ha.1, by omega⟩ hb hd he hn
    obtain ⟨c, rfl⟩ := exists_char (n := n) (.inr ⟨hrange.1.trans' (by decide), hrange.2⟩)
    refine ⟨c, ?_⟩
    rw [String.utf8EncodeChar, if_neg (hrange.1.trans' (by decide)).not_ge,
      if_neg (hrange.1.trans' (by decide)).not_ge, if_neg hrange.1.not_ge,
      ofNat_eq hfirst, ofNat_eq hsecond, ofNat_eq hthird, ofNat_eq hfourth]

/-- A character is encoded as what is accepted. -/
lemma encoded_utf8EncodeChar (c : Char) : Encoded (String.utf8EncodeChar c) := by
  have hvalid : c.val.toNat < 0xD800 ∨ 0xDFFF < c.val.toNat ∧ c.val.toNat < 0x110000 := c.valid
  rw [String.utf8EncodeChar]
  generalize c.val.toNat = n at hvalid ⊢
  split_ifs with hone htwo hthree
  · exact .one (by rw [toNat_ofNat (by omega)]; omega)
  · exact .two (by rw [toNat_ofNat (by omega)]; omega) (continuation_ofNat (by omega))
  · refine .three ?_ (continuation_ofNat (by omega)) (continuation_ofNat (by omega)) ?_ ?_ <;>
      simp only [toNat_ofNat, show n / 4096 % 16 + 0xE0 < 256 by omega,
        show n / 64 % 64 + 0x80 < 256 by omega] <;> omega
  · refine .four ?_ (continuation_ofNat (by omega)) (continuation_ofNat (by omega))
      (continuation_ofNat (by omega)) ?_ ?_ <;>
      simp only [toNat_ofNat, show n / 262144 % 8 + 0xF0 < 256 by omega,
        show n / 4096 % 64 + 0x80 < 256 by omega] <;> omega

/-- The encodings of the characters of Unicode. -/
lemma encoded_iff {p : Bytes} : Encoded p ↔ ∃ c : Char, p = String.utf8EncodeChar c := by
  refine ⟨exists_char_of_encoded, ?_⟩
  rintro ⟨c, rfl⟩
  exact encoded_utf8EncodeChar c

/-- **The check of a payload accepts the texts of Unicode, and nothing else.** It comes to its end
without reading a byte that is not there, whatever the bytes are. -/
theorem validUtf8_iff_unicode (bytes : Bytes) : validUtf8At bytes 0 = some (validUtf8 bytes) ∧
    (validUtf8 bytes = true ↔ ∃ text : List Char, bytes = text.flatMap String.utf8EncodeChar) := by
  refine ⟨validUtf8At_zero bytes, ?_, ?_⟩
  · intro h
    induction hn : bytes.length using Nat.strong_induction_on generalizing bytes with
    | _ n ih =>
      subst hn
      cases bytes with
      | nil => exact ⟨[], rfl⟩
      | cons first rest =>
        obtain ⟨p, t, hp, heq, ht⟩ := exists_encoded h
        obtain ⟨c, rfl⟩ := encoded_iff.mp hp
        have hpos := List.length_pos_of_ne_nil (String.utf8EncodeChar_ne_nil (c := c))
        obtain ⟨text, rfl⟩ := ih t.length (by rw [heq, List.length_append]; omega) t ht rfl
        exact ⟨c :: text, heq⟩
  · rintro ⟨text, rfl⟩
    induction text with
    | nil => rw [List.flatMap_nil, validUtf8]
    | cons c text ih =>
      rw [List.flatMap_cons]
      exact validUtf8_append (encoded_iff.mpr ⟨c, rfl⟩) ih

end CcsTrans.GuiIpc
