import CcsTrans.Config.LineEnds

/-!
The pieces of a rules text, and what its normal form leaves alone.

A text is made of strings and of what stands between them. In its normal form the strings are
what they were, and between them there is no line end but the newline.
-/

namespace CcsTrans.Config

open CcsTrans.Text CcsTrans.Json

/-! ### The normal form -/

/-- All line ends become newlines, wherever they stand. -/
def breakLines : Bytes → Bytes
  | [] => []
  | 0x0D :: 0x0A :: t => 0x0A :: breakLines t
  | 0x0D :: t => 0x0A :: breakLines t
  | 0xE2 :: 0x80 :: 0xA8 :: t => 0x0A :: breakLines t
  | 0xE2 :: 0x80 :: 0xA9 :: t => 0x0A :: breakLines t
  | b :: t => b :: breakLines t

/-- There is no line end but the newline. -/
def Unbroken (s : Bytes) : Prop :=
  0x0D ∉ s ∧ ¬ [0xE2, 0x80, 0xA8] <:+: s ∧ ¬ [0xE2, 0x80, 0xA9] <:+: s

instance (s : Bytes) : Decidable (Unbroken s) := inferInstanceAs (Decidable (_ ∧ _))

/-- A byte starts no line end in front of a text. -/
def Starts (b : UInt8) (t : Bytes) : Prop :=
  b = 0x0D ∨ b = 0xE2 ∧ (startsWith [0x80, 0xA8] t = true ∨ startsWith [0x80, 0xA9] t = true)

lemma unbroken_cons {b : UInt8} {t : Bytes} : Unbroken (b :: t) ↔ ¬ Starts b t ∧ Unbroken t := by
  have hseparator (c : UInt8) : [0xE2, 0x80, c] <:+: b :: t ↔
      b = 0xE2 ∧ startsWith [0x80, c] t = true ∨ [0xE2, 0x80, c] <:+: t := by
    rw [List.infix_cons_iff, List.cons_prefix_cons, startsWith, List.isPrefixOf_iff_prefix, @eq_comm _ b]
  unfold Unbroken Starts
  rw [hseparator, hseparator, List.mem_cons]
  tauto

lemma breakLines_cons {b : UInt8} {t : Bytes} (h : ¬ Starts b t) :
    breakLines (b :: t) = b :: breakLines t := by
  rw [breakLines]
  · rintro u rfl -
    exact h (.inl rfl)
  · rintro rfl
    exact h (.inl rfl)
  · rintro u rfl rfl
    exact h (.inr ⟨rfl, .inl rfl⟩)
  · rintro u rfl rfl
    exact h (.inr ⟨rfl, .inr rfl⟩)

/-- The line end at the head of a text. -/
lemma starts_cases {b : UInt8} {t : Bytes} (h : Starts b t) :
    ∃ p u, b :: t = p ++ u ∧ p ∈ lineBreaks ∧ (p = [0x0D] → ∀ v, u ≠ 0x0A :: v) := by
  rcases h with rfl | ⟨rfl, h | h⟩
  · cases t with
    | nil => exact ⟨[0x0D], [], rfl, by decide, fun _ v heq => by cases heq⟩
    | cons c u =>
      by_cases hc : c = 0x0A
      · subst hc
        exact ⟨[0x0D, 0x0A], u, rfl, by decide, fun heq => by cases heq⟩
      · refine ⟨[0x0D], c :: u, rfl, by decide, fun _ v heq => hc ?_⟩
        exact (List.cons.inj heq).1
  · obtain ⟨u, rfl⟩ := startsWith_iff.mp h
    exact ⟨[0xE2, 0x80, 0xA8], u, rfl, by decide, fun heq => by cases heq⟩
  · obtain ⟨u, rfl⟩ := startsWith_iff.mp h
    exact ⟨[0xE2, 0x80, 0xA9], u, rfl, by decide, fun heq => by cases heq⟩

lemma breakLines_lineBreak {p t : Bytes} (hp : p ∈ lineBreaks) (h : p = [0x0D] → ∀ v, t ≠ 0x0A :: v) :
    breakLines (p ++ t) = 0x0A :: breakLines t := by
  simp only [lineBreaks, List.mem_cons, List.not_mem_nil, or_false] at hp
  rcases hp with rfl | rfl | rfl | rfl
  · rw [List.cons_append, List.cons_append, List.nil_append, breakLines]
  · rw [List.cons_append, List.nil_append, breakLines]
    exact h rfl
  · rw [List.cons_append, List.cons_append, List.cons_append, List.nil_append, breakLines]
  · rw [List.cons_append, List.cons_append, List.cons_append, List.nil_append, breakLines]

/-- A text is read from left to right: at each place a line end, or a byte that starts none. -/
theorem breaksInduction {P : Bytes → Prop} (nil : P []) (byte : ∀ b t, ¬ Starts b t → P t → P (b :: t))
    (lineBreak : ∀ p t, p ∈ lineBreaks → (p = [0x0D] → ∀ v, t ≠ 0x0A :: v) → P t → P (p ++ t)) (s : Bytes) :
    P s := by
  induction hn : s.length using Nat.strong_induction_on generalizing s with
  | _ n ih =>
    subst hn
    cases s with
    | nil => exact nil
    | cons b t =>
      by_cases h : Starts b t
      · obtain ⟨p, u, hs, hp, hend⟩ := starts_cases h
        have hlength := congrArg List.length hs
        obtain ⟨c, q, rfl, -⟩ := head_lineBreaks hp
        rw [List.length_append, List.length_cons, List.length_cons] at hlength
        rw [hs]
        exact lineBreak _ u hp hend (ih u.length (by rw [List.length_cons]; omega) u rfl)
      · exact byte b t h (ih t.length (Nat.lt_succ_self _) t rfl)

/-- Only newlines are new. -/
lemma breakLines_eq_cons {s u : Bytes} {b : UInt8} (h : breakLines s = b :: u) (hb : b ≠ 0x0A) :
    ∃ t, s = b :: t ∧ u = breakLines t := by
  induction s using breaksInduction with
  | nil => cases h
  | byte c t hc _ =>
    rw [breakLines_cons hc] at h
    cases h
    exact ⟨t, rfl, rfl⟩
  | lineBreak p t hp hend _ =>
    rw [breakLines_lineBreak hp hend] at h
    cases h
    exact absurd rfl hb

/-- What starts no line end starts none when the line ends behind it are newlines. -/
lemma starts_breakLines {b : UInt8} {t : Bytes} (h : ¬ Starts b t) : ¬ Starts b (breakLines t) := by
  have hprefix {c : UInt8} (hc : startsWith [0x80, c] (breakLines t) = true) (hcr : c ≠ 0x0A) :
      startsWith [0x80, c] t = true := by
    obtain ⟨u, hu⟩ := startsWith_iff.mp hc
    obtain ⟨t₁, rfl, ht₁⟩ := breakLines_eq_cons hu (by decide)
    obtain ⟨t₂, rfl, -⟩ := breakLines_eq_cons ht₁.symm hcr
    exact startsWith_iff.mpr ⟨t₂, rfl⟩
  rintro (rfl | ⟨rfl, hb⟩)
  · exact h (.inl rfl)
  · exact h (.inr ⟨rfl, hb.imp (fun hb => hprefix hb (by decide)) fun hb => hprefix hb (by decide)⟩)

lemma unbroken_breakLines (s : Bytes) : Unbroken (breakLines s) := by
  induction s using breaksInduction with
  | nil => decide
  | byte b t h ih =>
    rw [breakLines_cons h]
    exact unbroken_cons.mpr ⟨starts_breakLines h, ih⟩
  | lineBreak p t hp h ih =>
    rw [breakLines_lineBreak hp h]
    exact unbroken_cons.mpr ⟨by simp [Starts], ih⟩

lemma breakLines_unbroken {s : Bytes} (h : Unbroken s) : breakLines s = s := by
  induction s with
  | nil => rfl
  | cons b t ih =>
    obtain ⟨hb, ht⟩ := unbroken_cons.mp h
    rw [breakLines_cons hb, ih ht]

/-! ### Pieces of a text -/

/-- What stands between strings, and a string with its quotes, of which the last may not be closed. -/
inductive Piece where
  | gap (s : Bytes)
  | literal (s : Bytes)
  deriving DecidableEq

namespace Piece

def bytes : Piece → Bytes
  | .gap s => s
  | .literal s => s

/-- Line ends are newlines in gaps. -/
def broken : Piece → Piece
  | .gap s => .gap (breakLines s)
  | .literal s => .literal s

/-- One byte more in front of the first piece. -/
def push (b : UInt8) : List Piece → List Piece
  | .gap s :: ps => .gap (b :: s) :: ps
  | .literal s :: ps => .literal (b :: s) :: ps
  | [] => []

end Piece

/-- The pieces of a text, of which the first goes on in a state. -/
def piecesFrom : QuoteState → Bytes → List Piece
  | .outside, [] => [.gap []]
  | .inside, [] => [.literal []]
  | .escaped, [] => [.literal []]
  | .outside, b :: t =>
    if b = ch '"' then .gap [] :: Piece.push b (piecesFrom .inside t)
    else Piece.push b (piecesFrom .outside t)
  | .inside, b :: t =>
    if b = ch '\\' then Piece.push b (piecesFrom .escaped t)
    else if b = ch '"' then .literal [b] :: piecesFrom .outside t
    else Piece.push b (piecesFrom .inside t)
  | .escaped, b :: t => Piece.push b (piecesFrom .inside t)

/-- The pieces of a text. -/
def pieces (s : Bytes) : List Piece := piecesFrom .outside s

example : pieces (str "1 \"a\\\"b\" 2") =
    [.gap (str "1 "), .literal (str "\"a\\\"b\""), .gap (str " 2")] := by decide

/-- The first piece is a gap outside of strings, and a string in one. -/
lemma piecesFrom_head (q : QuoteState) (s : Bytes) : ∃ u ps, piecesFrom q s =
    (match q with | .outside => Piece.gap u | _ => Piece.literal u) :: ps := by
  induction s generalizing q with
  | nil => cases q <;> exact ⟨[], [], rfl⟩
  | cons b t ih =>
    obtain ⟨gap, gaps, hgap⟩ := ih .outside
    obtain ⟨inside, insides, hinside⟩ := ih .inside
    obtain ⟨escaped, escapeds, hescaped⟩ := ih .escaped
    cases q with
    | outside =>
      rw [piecesFrom, hgap, hinside]
      split_ifs
      · exact ⟨[], _, rfl⟩
      · exact ⟨_, _, rfl⟩
    | inside =>
      rw [piecesFrom, hgap, hinside, hescaped]
      split_ifs
      · exact ⟨_, _, rfl⟩
      · exact ⟨_, _, rfl⟩
      · exact ⟨_, _, rfl⟩
    | escaped =>
      rw [piecesFrom, hinside]
      exact ⟨_, _, rfl⟩

/-- The pieces are the text. -/
lemma piecesFrom_bytes (q : QuoteState) (s : Bytes) : (piecesFrom q s).flatMap Piece.bytes = s := by
  have hpush (b : UInt8) (q : QuoteState) (t : Bytes) (ht : (piecesFrom q t).flatMap Piece.bytes = t) :
      (Piece.push b (piecesFrom q t)).flatMap Piece.bytes = b :: t := by
    obtain ⟨u, ps, h⟩ := piecesFrom_head q t
    rw [h] at ht ⊢
    cases q <;> exact congrArg (b :: ·) ht
  induction s generalizing q with
  | nil => cases q <;> rfl
  | cons b t ih =>
    cases q with
    | outside =>
      rw [piecesFrom]
      split_ifs
      · exact hpush b .inside t (ih .inside)
      · exact hpush b .outside t (ih .outside)
    | inside =>
      rw [piecesFrom]
      split_ifs with hbackslash hquote
      · exact hpush b .escaped t (ih .escaped)
      · exact congrArg (b :: ·) (ih .outside)
      · exact hpush b .inside t (ih .inside)
    | escaped => exact hpush b .inside t (ih .inside)

/-! ### From left to right -/

lemma normalizeFrom_string {q : QuoteState} (hq : q ≠ .outside) (b : UInt8) (t : Bytes) :
    normalizeFrom q (b :: t) = b :: normalizeFrom (q.next b) t := by
  cases q with
  | outside => exact absurd rfl hq
  | inside => rw [normalizeFrom, QuoteState.next]
  | escaped => rw [normalizeFrom, QuoteState.next]

lemma normalizeFrom_outside {b : UInt8} {t : Bytes} (h : ¬ Starts b t) :
    normalizeFrom .outside (b :: t) = b :: normalizeFrom (QuoteState.outside.next b) t := by
  rw [normalizeFrom, QuoteState.next]
  · rintro u rfl -
    exact h (.inl rfl)
  · rintro rfl
    exact h (.inl rfl)
  · rintro u rfl rfl
    exact h (.inr ⟨rfl, .inl rfl⟩)
  · rintro u rfl rfl
    exact h (.inr ⟨rfl, .inr rfl⟩)

lemma normalizeFrom_lineBreak {p t : Bytes} (hp : p ∈ lineBreaks)
    (h : p = [0x0D] → ∀ v, t ≠ 0x0A :: v) :
    normalizeFrom .outside (p ++ t) = 0x0A :: normalizeFrom .outside t := by
  simp only [lineBreaks, List.mem_cons, List.not_mem_nil, or_false] at hp
  rcases hp with rfl | rfl | rfl | rfl
  · rw [List.cons_append, List.cons_append, List.nil_append, normalizeFrom]
  · rw [List.cons_append, List.nil_append, normalizeFrom]
    exact h rfl
  · rw [List.cons_append, List.cons_append, List.cons_append, List.nil_append, normalizeFrom]
  · rw [List.cons_append, List.cons_append, List.cons_append, List.nil_append, normalizeFrom]

/-- A text is read from left to right with the state of the quotes: in a string byte by byte, outside
of strings as in `breaksInduction`. -/
theorem quotesInduction {P : QuoteState → Bytes → Prop} (nil : ∀ q, P q [])
    (string : ∀ q b t, q ≠ .outside → P (q.next b) t → P q (b :: t))
    (byte : ∀ b t, ¬ Starts b t → P (QuoteState.outside.next b) t → P .outside (b :: t))
    (lineBreak : ∀ p t, p ∈ lineBreaks → (p = [0x0D] → ∀ v, t ≠ 0x0A :: v) → P .outside t →
      P .outside (p ++ t)) (q : QuoteState) (s : Bytes) : P q s := by
  induction hn : s.length using Nat.strong_induction_on generalizing q s with
  | _ n ih =>
    subst hn
    cases s with
    | nil => exact nil q
    | cons b t =>
      have hrest (q : QuoteState) : P q t := ih t.length (Nat.lt_succ_self _) q t rfl
      by_cases hq : q = .outside
      · subst hq
        by_cases h : Starts b t
        · obtain ⟨p, u, hs, hp, hend⟩ := starts_cases h
          have hlength := congrArg List.length hs
          obtain ⟨c, r, rfl, -⟩ := head_lineBreaks hp
          rw [List.length_append, List.length_cons, List.length_cons] at hlength
          rw [hs]
          exact lineBreak _ u hp hend (ih u.length (by rw [List.length_cons]; omega) .outside u rfl)
        · exact byte b t h (hrest _)
      · exact string q b t hq (hrest _)

/-- The normal form is the text with newlines for line ends outside of strings. -/
lemma normalizeFrom_rebroken (q : QuoteState) (s : Bytes) : Rebroken False q s (normalizeFrom q s) := by
  induction q, s using quotesInduction with
  | nil q => cases q <;> exact .nil _
  | string q b t hq ih =>
    rw [normalizeFrom_string hq]
    exact .byte ih
  | byte b t h ih =>
    rw [normalizeFrom_outside h]
    exact .byte ih
  | lineBreak p t hp h ih =>
    rw [normalizeFrom_lineBreak hp h]
    exact .lineBreak hp ih

/-! ### The pieces of the normal form -/

lemma piecesFrom_string {q : QuoteState} (hq : q ≠ .outside) (b : UInt8) (t : Bytes) :
    piecesFrom q (b :: t) = if q.next b = .outside then .literal [b] :: piecesFrom .outside t
      else Piece.push b (piecesFrom (q.next b) t) := by
  cases q with
  | outside => exact absurd rfl hq
  | inside =>
    rw [piecesFrom, QuoteState.next]
    split_ifs <;> first | rfl | contradiction
  | escaped => rfl

lemma piecesFrom_outside (b : UInt8) (t : Bytes) :
    piecesFrom .outside (b :: t) = if b = ch '"' then .gap [] :: Piece.push b (piecesFrom .inside t)
      else Piece.push b (piecesFrom .outside t) := rfl

/-- A gap is what the text starts with. -/
lemma gap_prefix {s u : Bytes} {ps : List Piece} (h : piecesFrom .outside s = .gap u :: ps) :
    ∃ t, s = u ++ t := by
  have hbytes := piecesFrom_bytes .outside s
  rw [h] at hbytes
  exact ⟨_, hbytes.symm⟩

lemma Starts.append {b : UInt8} {u t : Bytes} (h : Starts b u) : Starts b (u ++ t) := by
  have hprefix {p : Bytes} (hp : startsWith p u = true) : startsWith p (u ++ t) = true := by
    obtain ⟨v, rfl⟩ := startsWith_iff.mp hp
    exact startsWith_iff.mpr ⟨v ++ t, List.append_assoc _ _ _⟩
  exact h.imp_right fun ⟨hb, hu⟩ => ⟨hb, hu.imp hprefix hprefix⟩

/-- **The pieces of the normal form** are those of the text, with the line ends of the gaps as
newlines. -/
theorem piecesFrom_normalizeFrom (q : QuoteState) (s : Bytes) :
    piecesFrom q (normalizeFrom q s) = (piecesFrom q s).map Piece.broken := by
  induction q, s using quotesInduction with
  | nil q => cases q <;> rfl
  | string q b t hq ih =>
    rw [normalizeFrom_string hq, piecesFrom_string hq, piecesFrom_string hq]
    split_ifs with hnext
    · rw [hnext] at ih ⊢
      rw [ih]
      rfl
    · obtain ⟨u, ps, h⟩ := piecesFrom_head (q.next b) t
      rw [ih, h]
      cases hstate : q.next b with
      | outside => exact absurd hstate hnext
      | inside => rfl
      | escaped => rfl
  | byte b t hstarts ih =>
    rw [normalizeFrom_outside hstarts, piecesFrom_outside, piecesFrom_outside]
    split_ifs with hquote
    · rw [QuoteState.next, if_pos hquote] at ih ⊢
      obtain ⟨u, ps, h⟩ := piecesFrom_head .inside t
      rw [ih, h]
      rfl
    · rw [QuoteState.next, if_neg hquote] at ih ⊢
      obtain ⟨u, ps, h⟩ := piecesFrom_head .outside t
      obtain ⟨v, rfl⟩ := gap_prefix h
      have hu : breakLines (b :: u) = b :: breakLines u := breakLines_cons fun hu => hstarts hu.append
      rw [ih, h]
      simp only [List.map_cons, Piece.broken, Piece.push, hu]
  | lineBreak p t hp hend ih =>
    rw [normalizeFrom_lineBreak hp hend]
    obtain ⟨u, ps, h⟩ := piecesFrom_head .outside t
    obtain ⟨v, rfl⟩ := gap_prefix h
    have hgap : piecesFrom .outside (p ++ (u ++ v)) = .gap (p ++ u) :: ps := by
      dsimp only at h
      simp only [lineBreaks, List.mem_cons, List.not_mem_nil, or_false] at hp
      rcases hp with rfl | rfl | rfl | rfl <;>
        simp [piecesFrom_outside, h, Piece.push, ch]
    have hu : breakLines (p ++ u) = 0x0A :: breakLines u :=
      breakLines_lineBreak hp fun hcr w hw => hend hcr (w ++ v) (by rw [hw]; rfl)
    rw [hgap, piecesFrom_outside, ih, h]
    simp only [List.map_cons, Piece.broken, hu]
    rfl

lemma breakLines_breakLines (s : Bytes) : breakLines (breakLines s) = breakLines s :=
  breakLines_unbroken (unbroken_breakLines s)

lemma Piece.broken_broken (p : Piece) : p.broken.broken = p.broken := by
  cases p with
  | gap s => rw [broken, broken, breakLines_breakLines]
  | literal s => rfl

lemma pieces_normalize (s : Bytes) :
    pieces (normalizeRulesTextNewlines s) = (pieces s).map Piece.broken :=
  piecesFrom_normalizeFrom .outside s

/-- The normal form is made of the pieces. -/
lemma normalize_eq (s : Bytes) :
    normalizeRulesTextNewlines s = ((pieces s).map Piece.broken).flatMap Piece.bytes := by
  rw [← pieces_normalize, pieces, piecesFrom_bytes]

lemma normalize_normalize (s : Bytes) :
    normalizeRulesTextNewlines (normalizeRulesTextNewlines s) = normalizeRulesTextNewlines s := by
  rw [normalize_eq, pieces_normalize, List.map_map, normalize_eq]
  congr 1
  exact List.map_congr_left fun p _ => p.broken_broken

/-- **The normal form of a rules text differs in line ends outside of strings only.** It is its own
normal form; its pieces are those of the text, of which the strings, closed or not, are what they
were and the gaps have no line end but the newline; all other bytes stand where they stood; and a
JSON text keeps its tree. -/
theorem normalize_line_ends_only [Library] (s : Bytes) :
    normalizeRulesTextNewlines (normalizeRulesTextNewlines s) = normalizeRulesTextNewlines s ∧
    (pieces s).flatMap Piece.bytes = s ∧
    pieces (normalizeRulesTextNewlines s) = (pieces s).map Piece.broken ∧
    (∀ g, .gap g ∈ pieces (normalizeRulesTextNewlines s) → Unbroken g) ∧
    Rebroken False .outside s (normalizeRulesTextNewlines s) ∧
    ∀ v, parseTree false s = .ok v → parseTree false (normalizeRulesTextNewlines s) = .ok v := by
  have hrebroken := normalizeFrom_rebroken .outside s
  refine ⟨normalize_normalize s, piecesFrom_bytes .outside s, pieces_normalize s, fun g hg => ?_,
    hrebroken, fun v hv => parseTree_rebroken hrebroken hv⟩
  rw [pieces_normalize] at hg
  obtain ⟨p, -, hp⟩ := List.mem_map.mp hg
  cases p with
  | gap u =>
    cases hp
    exact unbroken_breakLines u
  | literal u => cases hp

end CcsTrans.Config
