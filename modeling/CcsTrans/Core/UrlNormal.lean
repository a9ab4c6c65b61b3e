import CcsTrans.Core.Url
import CcsTrans.Pieces

/-!
Canonical paths are a normal form.

A path is read item by item: a byte that stands for itself, an escape of an unreserved byte,
which is decoded, or another escape, which is kept in upper case. What is made of an item is made
of itself again, and no two items join to a third, so that the canonical path is its own.
-/

namespace CcsTrans.Core

open CcsTrans.Text CcsTrans.Fallible

/-- The byte of an escape. -/
def escapedByte (high low : UInt8) : UInt8 := (hexDigitValue high <<< 4) ||| hexDigitValue low

def toUpper (b : UInt8) : UInt8 := if isLower b then b - 32 else b

/-- The escapes of unreserved bytes decoded, the others in upper case. -/
def normalEscapes : Bytes → Bytes
  | [] => []
  | b :: t =>
    if b ≠ ch '%' then b :: normalEscapes t
    else match t with
      | high :: low :: r =>
        if isUnreserved (escapedByte high low) then escapedByte high low :: normalEscapes r
        else ch '%' :: toUpper high :: toUpper low :: normalEscapes r
      | _ => b :: t

/-- All escapes decoded. -/
def percentDecode : Bytes → Bytes
  | [] => []
  | b :: t =>
    if b ≠ ch '%' then b :: percentDecode t
    else match t with
      | high :: low :: r => escapedByte high low :: percentDecode r
      | _ => b :: t

/-- Without one trailing slash. -/
def dropSlash (s : Bytes) : Bytes := if s.getLast? = some (ch '/') then s.dropLast else s

/-- What a canonical path looks like. -/
structure NormalPath (c : Bytes) : Prop where
  unreserved : ∀ {before high low after}, c = before ++ ch '%' :: high :: low :: after →
    isUnreserved (escapedByte high low) = false
  upper : ∀ {before high low after}, c = before ++ ch '%' :: high :: low :: after →
    isLower high = false ∧ isLower low = false
  control : ∀ b ∈ c, isControl b = false
  segments : c = str "/" ∨ ∀ s ∈ splitOn (ch '/') (c.drop 1), s ≠ [] ∧ s ≠ str "." ∧ s ≠ str ".."
  trailing : c = str "/" ∨ c.getLast? ≠ some (ch '/')

/-! ### Bytes -/

lemma byte_induction {P : UInt8 → Prop} (h : ∀ n < 256, P n.toUInt8) (b : UInt8) : P b := by
  have hb := h b.toNat b.toNat_lt
  rwa [show b.toNat.toUInt8 = b by simp] at hb

/-- What the bytes of an escape are. -/
lemma hex_facts (b : UInt8) : isHex b = true → (hexDigitValue b).toNat < 16 ∧
    isHex (toUpper b) = true ∧ isLower (toUpper b) = false ∧
    hexDigitValue (toUpper b) = hexDigitValue b ∧ upperHex (hexDigitValue b) = toUpper b ∧
    b ≠ ch '%' ∧ b ≠ ch '/' := by
  refine byte_induction (P := fun b => isHex b = true → (hexDigitValue b).toNat < 16 ∧
    isHex (toUpper b) = true ∧ isLower (toUpper b) = false ∧
    hexDigitValue (toUpper b) = hexDigitValue b ∧ upperHex (hexDigitValue b) = toUpper b ∧
    b ≠ ch '%' ∧ b ≠ ch '/') ?_ b
  decide +kernel

/-- A byte that may stand in a path. -/
def allowed (b : UInt8) : Bool :=
  !(isControl b || b == ch '?' || b == ch '#' || b == ch '\\')

lemma unreserved_facts (b : UInt8) : isUnreserved b = true →
    allowed b = true ∧ b ≠ ch '%' ∧ b ≠ ch '/' := by
  refine byte_induction (P := fun b => isUnreserved b = true →
    allowed b = true ∧ b ≠ ch '%' ∧ b ≠ ch '/') ?_ b
  decide +kernel

lemma nibbles {a b : UInt8} (ha : a.toNat < 16) (hb : b.toNat < 16) :
    ((a <<< 4) ||| b) >>> 4 = a ∧ ((a <<< 4) ||| b) &&& 0x0F = b := by
  have hall : ∀ m : ℕ, m < 16 → ∀ n : ℕ, n < 16 →
      ((m.toUInt8 <<< 4) ||| n.toUInt8) >>> 4 = m.toUInt8 ∧
      ((m.toUInt8 <<< 4) ||| n.toUInt8) &&& 0x0F = n.toUInt8 := by decide +kernel
  have h := hall a.toNat ha b.toNat hb
  rwa [show a.toNat.toUInt8 = a by simp, show b.toNat.toUInt8 = b by simp] at h

lemma escapedByte_toUpper {high low : UInt8} (hh : isHex high = true) (hl : isHex low = true) :
    escapedByte (toUpper high) (toUpper low) = escapedByte high low := by
  obtain ⟨-, -, -, hhigh, -⟩ := hex_facts high hh
  obtain ⟨-, -, -, hlow, -⟩ := hex_facts low hl
  rw [escapedByte, escapedByte, hhigh, hlow]

lemma toUpper_ne {b : UInt8} (h : isHex b = true) : toUpper b ≠ ch '%' ∧ toUpper b ≠ ch '/' := by
  obtain ⟨-, hupper, -⟩ := hex_facts b h
  obtain ⟨-, -, -, -, -, hne⟩ := hex_facts _ hupper
  exact hne

/-! ### Items -/

/-- A byte that an escape may stand for. -/
def escapable (b : UInt8) : Bool :=
  !isControl b && b != ch '.' && b != ch '/' && b != ch '\\'

/-- The canonical bytes of a path, item by item. -/
inductive Canonical : Bytes → Bytes → Prop
  | nil : Canonical [] []
  | byte {b : UInt8} {t c : Bytes} : allowed b = true → b ≠ ch '%' → Canonical t c →
      Canonical (b :: t) (b :: c)
  | decoded {high low : UInt8} {t c : Bytes} : isHex high = true → isHex low = true →
      escapable (escapedByte high low) = true → isUnreserved (escapedByte high low) = true →
      Canonical t c → Canonical (ch '%' :: high :: low :: t) (escapedByte high low :: c)
  | kept {high low : UInt8} {t c : Bytes} : isHex high = true → isHex low = true →
      escapable (escapedByte high low) = true → isUnreserved (escapedByte high low) = false →
      Canonical t c →
      Canonical (ch '%' :: high :: low :: t) (ch '%' :: toUpper high :: toUpper low :: c)

lemma canonicalEscape_ok_iff {high low : UInt8} {e : Bytes} (hh : isHex high = true)
    (hl : isHex low = true) : canonicalEscape high low = .ok e ↔
      escapable (escapedByte high low) = true ∧
      e = if isUnreserved (escapedByte high low) then [escapedByte high low]
        else [ch '%', toUpper high, toUpper low] := by
  obtain ⟨hhigh, -, -, -, huh, -⟩ := hex_facts high hh
  obtain ⟨hlow, -, -, -, hul, -⟩ := hex_facts low hl
  obtain ⟨h1, h2⟩ := nibbles hhigh hlow
  unfold canonicalEscape
  simp only [h1, h2, huh, hul]
  rw [← escapedByte]
  unfold escapable
  by_cases hc : isControl (escapedByte high low) = true
  · simp [hc]
  · by_cases hd : escapedByte high low = ch '.' ∨ escapedByte high low = ch '/' ∨
        escapedByte high low = ch '\\'
    · rw [if_neg hc, if_pos hd]
      constructor
      · nofun
      · rintro ⟨h, -⟩
        simp only [Bool.and_eq_true, bne_iff_ne] at h
        rcases hd with hd | hd | hd
        · exact absurd hd h.1.1.2
        · exact absurd hd h.1.2
        · exact absurd hd h.2
    · rw [if_neg hc, if_neg hd]
      simp only [not_or] at hd
      simp only [Bool.not_eq_true] at hc
      simp only [hc, Bool.not_false, Bool.true_and, Bool.and_eq_true, bne_iff_ne, ne_eq, hd,
        not_false_eq_true, and_self, true_and]
      split <;> simp [eq_comm]

lemma canonicalBytes_ok_iff {p c : Bytes} : canonicalBytes p = .ok c ↔ Canonical p c := by
  constructor
  · intro h
    fun_induction canonicalBytes p generalizing c with
    | case1 =>
      cases h
      exact .nil
    | case2 => cases h
    | case3 b t hb hne ih =>
      obtain ⟨c', hc', rfl⟩ := map_eq_ok.mp h
      exact .byte (by simpa [allowed] using hb) hne (ih hc')
    | case4 b hb hne high low r hhex ih =>
      obtain rfl := not_not.mp hne
      rw [Bool.and_eq_true] at hhex
      obtain ⟨e, he, h⟩ := bind_eq_ok.mp h
      obtain ⟨c', hc', h⟩ := bind_eq_ok.mp h
      cases h
      obtain ⟨hesc, rfl⟩ := (canonicalEscape_ok_iff hhex.1 hhex.2).mp he
      by_cases hu : isUnreserved (escapedByte high low) = true
      · rw [if_pos hu]
        exact .decoded hhex.1 hhex.2 hesc hu (ih hc')
      · rw [if_neg hu]
        exact .kept hhex.1 hhex.2 hesc (Bool.not_eq_true _ ▸ hu) (ih hc')
    | case5 => cases h
    | case6 => cases h
  · intro h
    induction h with
    | nil => rfl
    | @byte b t c ha hne _ ih =>
      have hb : ¬ (isControl b || b == ch '?' || b == ch '#' || b == ch '\\') = true := by
        simpa [allowed] using ha
      unfold canonicalBytes
      rw [if_neg hb, if_pos hne, ih]
      rfl
    | @decoded high low t c hh hl he hu _ ih =>
      have hesc := (canonicalEscape_ok_iff hh hl).mpr ⟨he, rfl⟩
      rw [if_pos hu] at hesc
      rw [canonicalBytes, if_neg (by decide), if_neg (by simp), if_pos (by simp [hh, hl]), hesc, ih]
      rfl
    | @kept high low t c hh hl he hu _ ih =>
      have hesc := (canonicalEscape_ok_iff hh hl).mpr ⟨he, rfl⟩
      rw [if_neg (by simp [hu])] at hesc
      rw [canonicalBytes, if_neg (by decide), if_neg (by simp), if_pos (by simp [hh, hl]), hesc, ih]
      rfl

section Canonical

variable {p c : Bytes}

/-- What is canonical already stays as it is. -/
lemma Canonical.self (h : Canonical p c) : Canonical c c := by
  induction h with
  | nil => exact .nil
  | byte ha hne _ ih => exact .byte ha hne ih
  | decoded _ _ _ hu _ ih =>
    obtain ⟨ha, hne, -⟩ := unreserved_facts _ hu
    exact .byte ha hne ih
  | @kept high low t c hh hl he hu _ ih =>
    obtain ⟨-, hhex, hlower, hvalue, -⟩ := hex_facts high hh
    obtain ⟨-, lhex, llower, lvalue, -⟩ := hex_facts low hl
    have hsame := escapedByte_toUpper hh hl
    have hkept := Canonical.kept hhex lhex (by rw [hsame]; exact he) (by rw [hsame]; exact hu) ih
    have htwice : ∀ b, isLower b = false → toUpper b = b := by
      intro b hb
      rw [toUpper, hb]
      rfl
    rwa [htwice _ hlower, htwice _ llower] at hkept

lemma Canonical.length_le (h : Canonical p c) : c.length ≤ p.length := by
  induction h with
  | nil => rfl
  | byte _ _ _ ih => simpa using ih
  | decoded _ _ _ _ _ ih =>
    simp only [List.length_cons]
    omega
  | kept _ _ _ _ _ ih => simpa using ih

lemma normalEscapes_cons {b : UInt8} (h : b ≠ ch '%') (t : Bytes) :
    normalEscapes (b :: t) = b :: normalEscapes t := by
  conv_lhs => unfold normalEscapes
  exact if_pos h

lemma percentDecode_cons {b : UInt8} (h : b ≠ ch '%') (t : Bytes) :
    percentDecode (b :: t) = b :: percentDecode t := by
  conv_lhs => unfold percentDecode
  exact if_pos h

lemma percentDecode_escape (high low : UInt8) (t : Bytes) :
    percentDecode (ch '%' :: high :: low :: t) = escapedByte high low :: percentDecode t := by
  rw [percentDecode, if_neg (by simp)]

lemma Canonical.normalEscapes_eq (h : Canonical p c) : normalEscapes p = c := by
  induction h with
  | nil => rfl
  | byte _ hne _ ih => rw [normalEscapes_cons hne, ih]
  | decoded _ _ _ hu _ ih => rw [normalEscapes, if_neg (by simp), if_pos hu, ih]
  | kept _ _ _ hu _ ih => rw [normalEscapes, if_neg (by simp), if_neg (by simp [hu]), ih]

/-- The canonical bytes stand for the same. -/
lemma Canonical.percentDecode_eq (h : Canonical p c) : percentDecode p = percentDecode c := by
  induction h with
  | nil => rfl
  | byte _ hne _ ih => rw [percentDecode_cons hne, percentDecode_cons hne, ih]
  | decoded _ _ _ hu _ ih =>
    rw [percentDecode_escape, percentDecode_cons (unreserved_facts _ hu).2.1, ih]
  | kept hh hl _ _ _ ih =>
    rw [percentDecode_escape, percentDecode_escape, escapedByte_toUpper hh hl, ih]

lemma control_of_hex (b : UInt8) : isHex b = true → isControl b = false := by
  refine byte_induction (P := fun b => isHex b = true → isControl b = false) ?_ b
  decide +kernel

lemma not_control_of_allowed {b : UInt8} (h : allowed b = true) : isControl b = false := by
  simp only [allowed, Bool.not_eq_true', Bool.or_eq_false_iff] at h
  exact h.1.1.1

lemma Canonical.control (h : Canonical p c) : ∀ b ∈ c, isControl b = false := by
  induction h with
  | nil => simp
  | byte ha _ _ ih => exact List.forall_mem_cons.mpr ⟨not_control_of_allowed ha, ih⟩
  | decoded _ _ _ hu _ ih =>
    exact List.forall_mem_cons.mpr ⟨not_control_of_allowed (unreserved_facts _ hu).1, ih⟩
  | @kept high low _ _ hh hl _ _ _ ih =>
    obtain ⟨-, hhex, -⟩ := hex_facts high hh
    obtain ⟨-, lhex, -⟩ := hex_facts low hl
    refine List.forall_mem_cons.mpr ⟨by decide, List.forall_mem_cons.mpr ⟨?_, ?_⟩⟩
    · exact control_of_hex _ hhex
    · exact List.forall_mem_cons.mpr ⟨control_of_hex _ lhex, ih⟩

/-- A percent sign begins an escape that had to be kept. -/
lemma Canonical.escapes (h : Canonical p c) {before after : Bytes} {high low : UInt8}
    (hc : c = before ++ ch '%' :: high :: low :: after) :
    isUnreserved (escapedByte high low) = false ∧ isLower high = false ∧ isLower low = false := by
  induction h generalizing before with
  | nil => simp at hc
  | byte _ hne _ ih =>
    cases before with
    | nil => exact absurd (List.cons.inj hc).1 hne
    | cons x before => exact ih (List.cons.inj hc).2
  | decoded _ _ _ hu _ ih =>
    cases before with
    | nil => exact absurd (List.cons.inj hc).1 (unreserved_facts _ hu).2.1
    | cons x before => exact ih (List.cons.inj hc).2
  | @kept h' l' _ _ hh hl _ hu _ ih =>
    obtain ⟨-, -, hlower, -, -, -⟩ := hex_facts h' hh
    obtain ⟨-, -, llower, -, -, -⟩ := hex_facts l' hl
    match before with
    | [] =>
      simp only [List.nil_append, List.cons.injEq, true_and] at hc
      obtain ⟨rfl, rfl, -⟩ := hc
      rw [escapedByte_toUpper hh hl]
      exact ⟨hu, hlower, llower⟩
    | [_] =>
      simp only [List.cons_append, List.nil_append, List.cons.injEq] at hc
      exact absurd hc.2.1 (toUpper_ne hh).1
    | [_, _] =>
      simp only [List.cons_append, List.nil_append, List.cons.injEq] at hc
      exact absurd hc.2.2.1 (toUpper_ne hl).1
    | _ :: _ :: _ :: before =>
      simp only [List.cons_append, List.cons.injEq] at hc
      exact ih hc.2.2.2

lemma escape_of_append_slash {x t : Bytes} {high low : UInt8} (hh : isHex high = true)
    (hl : isHex low = true) (h : x ++ [ch '/'] = ch '%' :: high :: low :: t) :
    ∃ x', x = ch '%' :: high :: low :: x' ∧ x' ++ [ch '/'] = t := by
  obtain ⟨-, -, -, -, -, -, hhne⟩ := hex_facts high hh
  obtain ⟨-, -, -, -, -, -, hlne⟩ := hex_facts low hl
  match x with
  | [] => simp at h
  | [_] =>
    simp only [List.cons_append, List.nil_append, List.cons.injEq] at h
    exact absurd h.2.1.symm hhne
  | [_, _] =>
    simp only [List.cons_append, List.nil_append, List.cons.injEq] at h
    exact absurd h.2.2.1.symm hlne
  | _ :: _ :: _ :: x' =>
    simp only [List.cons_append, List.cons.injEq] at h
    obtain ⟨rfl, rfl, rfl, h⟩ := h
    exact ⟨x', rfl, h⟩

/-- A slash at the end stands for itself. -/
lemma Canonical.of_append_slash {x : Bytes} (h : Canonical (x ++ [ch '/']) c) :
    ∃ d, c = d ++ [ch '/'] ∧ Canonical x d := by
  generalize hp : x ++ [ch '/'] = p at h
  induction h generalizing x with
  | nil => simp at hp
  | @byte b t c ha hne ht ih =>
    cases x with
    | nil =>
      obtain ⟨rfl, rfl⟩ := List.cons.inj hp
      cases ht
      exact ⟨[], rfl, .nil⟩
    | cons y x =>
      obtain ⟨rfl, hp'⟩ := List.cons.inj hp
      obtain ⟨d, rfl, hd⟩ := ih hp'
      exact ⟨y :: d, rfl, .byte ha hne hd⟩
  | decoded hh hl he hu _ ih =>
    obtain ⟨x', rfl, hx'⟩ := escape_of_append_slash hh hl hp
    obtain ⟨d, rfl, hd⟩ := ih hx'
    exact ⟨_ :: d, rfl, .decoded hh hl he hu hd⟩
  | kept hh hl he hu _ ih =>
    obtain ⟨x', rfl, hx'⟩ := escape_of_append_slash hh hl hp
    obtain ⟨d, rfl, hd⟩ := ih hx'
    exact ⟨_ :: _ :: _ :: d, rfl, .kept hh hl he hu hd⟩

end Canonical

/-! ### Segments -/

/-- Two separators stand next to each other around an empty piece, unless it is the last. -/
lemma infix_of_empty_piece {c : UInt8} {t : Bytes} (h : [] ∈ splitOn c t) :
    [c, c] <:+: c :: t ∨ (c :: t).getLast? = some c := by
  obtain ⟨xs, ys, hsplit⟩ := List.append_of_mem h
  have htext := flatMap_splitOn c t
  rw [hsplit, List.flatMap_append, List.flatMap_cons] at htext
  cases ys with
  | nil =>
    refine Or.inr ?_
    rw [← htext]
    simp
  | cons y ys =>
    refine Or.inl ⟨xs.flatMap (c :: ·), y ++ ys.flatMap (c :: ·), ?_⟩
    rw [← htext]
    simp

/-- An accepted path and its canonical bytes. -/
structure Candidate (raw n : Bytes) : Prop where
  starts : raw.head? = some (ch '/')
  length : raw.length ≤ 2048
  canonical : Canonical raw n
  single : ¬ str "//" <:+: n
  noDots : ∀ s ∈ splitOn (ch '/') (n.drop 1), s ≠ str "." ∧ s ≠ str ".."

/-- Without the last slash, unless it is the root. -/
def closed (n : Bytes) : Bytes :=
  if n.length > 1 ∧ n.getLast? = some (ch '/') then n.dropLast else n

/-- The checks in their order. -/
lemma canonicalizeHttpPath_eq (raw : Bytes) : canonicalizeHttpPath raw =
    if raw.head? ≠ some (ch '/') then .error (str "path must start with /")
    else if raw.length > 2048 then
      .error (str "path exceeds the maximum length of 2048 bytes")
    else canonicalBytes raw >>= fun n =>
      if (cut (str "//") n).isSome then .error (str "path must not contain duplicate separators")
      else if (splitOn (ch '/') (n.drop 1)).any fun s => s == str "." || s == str ".." then
        .error (str "path must not contain dot segments")
      else .ok (closed n) := by
  unfold canonicalizeHttpPath closed
  generalize canonicalBytes raw = x
  by_cases hstarts : raw.head? ≠ some (ch '/')
  · rw [if_pos hstarts, if_pos hstarts]
    rfl
  · rw [if_neg hstarts, if_neg hstarts]
    dsimp only
    by_cases hlength : raw.length > 2048
    · rw [if_pos hlength, if_pos hlength]
      rfl
    · rw [if_neg hlength, if_neg hlength]
      refine congrArg _ (funext fun n => ?_)
      split_ifs <;> rfl

lemma canonicalizeHttpPath_ok_iff {raw c : Bytes} : canonicalizeHttpPath raw = .ok c ↔
    ∃ n, Candidate raw n ∧ c = closed n := by
  rw [canonicalizeHttpPath_eq]
  constructor
  · intro h
    by_cases hstarts : raw.head? ≠ some (ch '/')
    · rw [if_pos hstarts] at h
      cases h
    · rw [if_neg hstarts] at h
      by_cases hlength : raw.length > 2048
      · rw [if_pos hlength] at h
        cases h
      · rw [if_neg hlength] at h
        obtain ⟨n, hn, h⟩ := bind_eq_ok.mp h
        split_ifs at h with hsingle hdots
        cases h
        refine ⟨n, ⟨not_not.mp hstarts, by omega, canonicalBytes_ok_iff.mp hn, ?_, ?_⟩, rfl⟩
        · exact fun hin => hsingle (cut_of_isInfix hin)
        · simpa [not_or] using hdots
  · rintro ⟨n, hn, rfl⟩
    have hlength := hn.length
    have hsingle : ¬ (cut (str "//") n).isSome = true := fun h => hn.single (infix_of_cut h)
    have hdots : ¬ ((splitOn (ch '/') (n.drop 1)).any fun s => s == str "." || s == str "..") =
        true := by
      simpa [not_or] using hn.noDots
    rw [if_neg (not_not.mpr hn.starts), if_neg (by omega), canonicalBytes_ok_iff.mpr hn.canonical,
      ok_bind, if_neg hsingle, if_neg hdots]

lemma Candidate.cons {raw n : Bytes} (h : Candidate raw n) : ∃ t, n = ch '/' :: t := by
  obtain ⟨hstarts, -, hcanonical, -, -⟩ := h
  cases hcanonical with
  | nil => cases hstarts
  | byte => exact ⟨_, by rw [Option.some.inj hstarts]⟩
  | decoded => exact absurd (Option.some.inj hstarts) (by decide)
  | kept => exact absurd (Option.some.inj hstarts) (by decide)

/-- The canonical path is the root, the candidate, or what stands before its last slash. -/
lemma closed_cases {raw n : Bytes} (h : Candidate raw n) :
    (n = str "/" ∧ closed n = str "/") ∨
    (n.getLast? ≠ some (ch '/') ∧ closed n = n) ∨
    ∃ u, u ≠ [] ∧ n = ch '/' :: u ++ [ch '/'] ∧ closed n = ch '/' :: u ∧
      (ch '/' :: u).getLast? ≠ some (ch '/') := by
  obtain ⟨t, rfl⟩ := h.cons
  unfold closed
  by_cases hlast : (ch '/' :: t).getLast? = some (ch '/')
  · rcases List.eq_nil_or_concat' t with rfl | ⟨u, b, rfl⟩
    · exact Or.inl ⟨rfl, rfl⟩
    · right
      right
      obtain rfl : b = ch '/' := by
        rw [← List.cons_append, List.getLast?_append] at hlast
        simpa using hlast
      have hu : (ch '/' :: u).getLast? ≠ some (ch '/') := by
        intro hu
        obtain ⟨w, hw⟩ := List.getLast?_eq_some_iff.mp hu
        refine h.single ⟨w, [], ?_⟩
        rw [← List.cons_append, hw]
        simp [str]
      refine ⟨u, ?_, rfl, ?_, hu⟩
      · rintro rfl
        exact hu rfl
      · rw [if_pos ⟨by simp, hlast⟩, ← List.cons_append, List.dropLast_concat]
  · exact Or.inr (Or.inl ⟨hlast, if_neg fun hn => hlast hn.2⟩)

/-- The canonical path of a candidate is accepted, and a candidate of itself. -/
lemma candidate_closed {raw n : Bytes} (h : Candidate raw n) : Candidate (closed n) (closed n) := by
  have hlength := h.canonical.length_le
  have hraw := h.length
  rcases closed_cases h with ⟨hroot, hc⟩ | ⟨-, hc⟩ | ⟨u, -, hu, hc, -⟩
  · rw [hc]
    exact ⟨rfl, by decide, .byte (by decide) (by decide) .nil, by decide, by decide⟩
  · obtain ⟨t, ht⟩ := h.cons
    rw [hc]
    exact ⟨by rw [ht]; rfl, by omega, h.canonical.self, h.single, h.noDots⟩
  · have hself := h.canonical.self
    rw [hu] at hself
    obtain ⟨d, hd, hcanon⟩ := hself.of_append_slash
    obtain rfl := (List.append_inj' hd rfl).1
    rw [hc]
    refine ⟨rfl, ?_, hcanon, ?_, ?_⟩
    · have : n.length = (ch '/' :: u).length + 1 := by rw [hu, List.length_append]; rfl
      omega
    · intro hin
      refine h.single (hin.trans ?_)
      rw [hu]
      exact (List.prefix_append _ _).isInfix
    · intro s hs
      refine h.noDots s ?_
      rw [hu]
      change s ∈ splitOn (ch '/') (u ++ [ch '/'])
      rw [splitOn_append]
      exact List.mem_append_left _ hs

lemma Candidate.normalPath {raw n : Bytes} (h : Candidate raw n) : NormalPath (closed n) := by
  have hc := candidate_closed h
  have hends : closed n = str "/" ∨ (closed n).getLast? ≠ some (ch '/') := by
    rcases closed_cases h with ⟨-, hroot⟩ | ⟨hlast, hsame⟩ | ⟨u, -, -, hcut, hlast⟩
    · exact Or.inl hroot
    · rw [hsame]
      exact Or.inr hlast
    · rw [hcut]
      exact Or.inr hlast
  refine ⟨fun heq => (hc.canonical.escapes heq).1, fun heq => (hc.canonical.escapes heq).2,
    hc.canonical.control, ?_, hends⟩
  rcases hends with hroot | hlast
  · exact Or.inl hroot
  · refine Or.inr fun s hs => ⟨?_, hc.noDots s hs⟩
    rintro rfl
    obtain ⟨u, hu⟩ := hc.cons
    rw [hu] at hs hlast
    rcases infix_of_empty_piece hs with hin | hend
    · exact hc.single (by rw [hu]; exact hin)
    · exact hlast hend

lemma percentDecode_append {p c q : Bytes} (h : Canonical p c) :
    percentDecode (p ++ q) = percentDecode p ++ percentDecode q := by
  induction h with
  | nil => rfl
  | byte _ hne _ ih => rw [List.cons_append, percentDecode_cons hne, percentDecode_cons hne, ih]; rfl
  | decoded _ _ _ _ _ ih =>
    rw [List.cons_append, List.cons_append, List.cons_append, percentDecode_escape,
      percentDecode_escape, ih]
    rfl
  | kept _ _ _ _ _ ih =>
    rw [List.cons_append, List.cons_append, List.cons_append, percentDecode_escape,
      percentDecode_escape, ih]
    rfl

lemma percentDecode_closed {raw n : Bytes} (h : Candidate raw n) :
    percentDecode raw = percentDecode (closed n) ∨
      percentDecode raw = percentDecode (closed n) ++ [ch '/'] := by
  rw [h.canonical.percentDecode_eq]
  rcases closed_cases h with ⟨hroot, hc⟩ | ⟨-, hc⟩ | ⟨u, -, hu, hc, -⟩
  · rw [hc, hroot]
    exact Or.inl rfl
  · rw [hc]
    exact Or.inl rfl
  · have hcanonical := (candidate_closed h).canonical
    rw [hc] at hcanonical ⊢
    rw [hu, percentDecode_append hcanonical]
    exact Or.inr rfl

/-- Dropping a slash from the candidate loses nothing of the canonical path. -/
lemma dropSlash_candidate {raw n : Bytes} (h : Candidate raw n) :
    dropSlash (normalEscapes raw) = if closed n = str "/" then [] else closed n := by
  rw [h.canonical.normalEscapes_eq, dropSlash]
  rcases closed_cases h with ⟨hroot, hc⟩ | ⟨hlast, hc⟩ | ⟨u, hne, hu, hc, -⟩
  · rw [hc, hroot]
    rfl
  · have hroot : n ≠ str "/" := by
      rintro rfl
      exact hlast rfl
    rw [hc, if_neg hlast, if_neg hroot]
  · have hroot : ch '/' :: u ≠ str "/" := by
      intro heq
      exact hne (List.cons.inj heq).2
    rw [hc, if_neg hroot, hu, if_pos List.getLast?_concat, List.dropLast_concat]

/-- **Canonical paths are a normal form.** The canonical path of an accepted one is its own
canonical path, looks like one, and stands for the same bytes but for one slash at the end. Two
accepted paths have one canonical path exactly when they are the same with their escapes
normalized and without one slash at the end. -/
theorem canonical_path_normal_form :
    (∀ p c, canonicalizeHttpPath p = .ok c →
      canonicalizeHttpPath c = .ok c ∧ NormalPath c ∧
        (percentDecode p = percentDecode c ∨ percentDecode p = percentDecode c ++ [ch '/'])) ∧
    ∀ p q c d, canonicalizeHttpPath p = .ok c → canonicalizeHttpPath q = .ok d →
      (c = d ↔ dropSlash (normalEscapes p) = dropSlash (normalEscapes q)) := by
  constructor
  · intro p c h
    obtain ⟨n, hn, rfl⟩ := canonicalizeHttpPath_ok_iff.mp h
    refine ⟨canonicalizeHttpPath_ok_iff.mpr ⟨closed n, candidate_closed hn, ?_⟩, hn.normalPath,
      percentDecode_closed hn⟩
    rcases hn.normalPath.trailing with hroot | hlast
    · rw [hroot]
      rfl
    · exact (if_neg fun h => hlast h.2).symm
  · intro p q c d hp hq
    obtain ⟨n, hn, rfl⟩ := canonicalizeHttpPath_ok_iff.mp hp
    obtain ⟨m, hm, rfl⟩ := canonicalizeHttpPath_ok_iff.mp hq
    rw [dropSlash_candidate hn, dropSlash_candidate hm]
    constructor
    · intro h
      rw [h]
    · have hne : ∀ {raw n}, Candidate raw n → closed n ≠ [] := by
        intro raw n h heq
        obtain ⟨t, ht⟩ := (candidate_closed h).cons
        rw [ht] at heq
        cases heq
      split_ifs with h1 h2 h2
      · exact fun _ => h1.trans h2.symm
      · exact fun h => absurd h.symm (hne hm)
      · exact fun h => absurd h (hne hn)
      · exact fun h => h

/-- Two spellings of one path. -/
theorem canonical_path_normal_form_spellings :
    canonicalizeHttpPath (str "/v1/%7euser/%c3%A9/") = .ok (str "/v1/~user/%C3%A9") ∧
    NormalPath (str "/v1/~user/%C3%A9") ∧
    (str "/v1/~user/%C3%A9" = str "/v1/~user/%C3%A9" ↔
      dropSlash (normalEscapes (str "/v1/%7euser/%c3%A9/")) =
        dropSlash (normalEscapes (str "/v1/~%75ser/%C3%a9"))) := by
  have hp : canonicalizeHttpPath (str "/v1/%7euser/%c3%A9/") = .ok (str "/v1/~user/%C3%A9") := by
    decide +kernel
  have hq : canonicalizeHttpPath (str "/v1/~%75ser/%C3%a9") = .ok (str "/v1/~user/%C3%A9") := by
    decide +kernel
  exact ⟨hp, (canonical_path_normal_form.1 _ _ hp).2.1, canonical_path_normal_form.2 _ _ _ _ hp hq⟩

end CcsTrans.Core
