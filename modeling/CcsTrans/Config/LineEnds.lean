import CcsTrans.Config.RulesText
import CcsTrans.Json.Document

/-!
Line ends outside of strings.

A text and the text with other line ends in it are followed side by side, byte by byte, with
the state of the quotes. The reader of JSON follows both in step: between tokens it passes over
the line ends of either, and a string has none.
-/

namespace CcsTrans.Config

open CcsTrans.Text CcsTrans.Json CcsTrans.Fallible

/-! ### Side by side -/

/-- The state behind a byte. -/
def QuoteState.next : QuoteState → UInt8 → QuoteState
  | .outside, b => if b = ch '"' then .inside else .outside
  | .inside, b => if b = ch '\\' then .escaped else if b = ch '"' then .outside else .inside
  | .escaped, _ => .inside

/-- The line ends that become newlines. -/
def lineBreaks : List Bytes := [[0x0D, 0x0A], [0x0D], [0xE2, 0x80, 0xA8], [0xE2, 0x80, 0xA9]]

/-- The second text is the first with newlines for some of the line ends outside of strings. If it is
said so, the texts need not agree behind a zero byte outside of strings, where the reader of JSON
stops. -/
inductive Rebroken (loose : Prop) : QuoteState → Bytes → Bytes → Prop where
  | nil (q : QuoteState) : Rebroken loose q [] []
  | byte {q : QuoteState} {b : UInt8} {t t' : Bytes} (rest : Rebroken loose (q.next b) t t') :
      Rebroken loose q (b :: t) (b :: t')
  | lineBreak {p t t' : Bytes} (mem : p ∈ lineBreaks) (rest : Rebroken loose .outside t t') :
      Rebroken loose .outside (p ++ t) (0x0A :: t')
  | stop {t t' : Bytes} (h : loose) : Rebroken loose .outside (0 :: t) (0 :: t')

/-- No string has a control character in it, up to a zero byte outside of strings. -/
def cleanFrom : QuoteState → Bytes → Bool
  | _, [] => true
  | .outside, b :: t => b == 0 || cleanFrom (QuoteState.outside.next b) t
  | .inside, b :: t => decide (0x1F < b) && cleanFrom (QuoteState.inside.next b) t
  | .escaped, b :: t => decide (0x1F < b) && cleanFrom (QuoteState.escaped.next b) t

lemma cleanFrom_outside {b : UInt8} (hzero : b ≠ 0) (t : Bytes) :
    cleanFrom .outside (b :: t) = cleanFrom (QuoteState.outside.next b) t := by
  rw [cleanFrom, beq_false_of_ne hzero, Bool.false_or]

lemma cleanFrom_string {q : QuoteState} (hq : q ≠ .outside) {b : UInt8} (hb : 0x1F < b) (t : Bytes) :
    cleanFrom q (b :: t) = cleanFrom (q.next b) t := by
  cases q with
  | outside => exact absurd rfl hq
  | inside => rw [cleanFrom, decide_eq_true hb, Bool.true_and]
  | escaped => rw [cleanFrom, decide_eq_true hb, Bool.true_and]

lemma visible_of_clean {q : QuoteState} (hq : q ≠ .outside) {b : UInt8} {t : Bytes}
    (h : cleanFrom q (b :: t) = true) : 0x1F < b := by
  cases q with
  | outside => exact absurd rfl hq
  | inside => exact of_decide_eq_true (Bool.and_eq_true_iff.mp h).1
  | escaped => exact of_decide_eq_true (Bool.and_eq_true_iff.mp h).1

/-- A byte that neither starts a line end nor stops the reader. -/
def Plain (b : UInt8) : Prop := b ≠ 0 ∧ b ≠ 0x0D ∧ b ≠ 0xE2

instance (b : UInt8) : Decidable (Plain b) := inferInstanceAs (Decidable (_ ∧ _))

variable {loose : Prop}

lemma head_lineBreaks {p : Bytes} (h : p ∈ lineBreaks) :
    ∃ b t, p = b :: t ∧ (b = 0x0D ∨ b = 0xE2) := by
  simp only [lineBreaks, List.mem_cons, List.not_mem_nil, or_false] at h
  rcases h with rfl | rfl | rfl | rfl
  · exact ⟨_, _, rfl, .inl rfl⟩
  · exact ⟨_, _, rfl, .inl rfl⟩
  · exact ⟨_, _, rfl, .inr rfl⟩
  · exact ⟨_, _, rfl, .inr rfl⟩

/-- A plain byte stands in both texts. -/
lemma Rebroken.plain {q : QuoteState} {b : UInt8} {t s' : Bytes} (h : Rebroken loose q (b :: t) s')
    (hb : Plain b) : ∃ t', s' = b :: t' ∧ Rebroken loose (q.next b) t t' := by
  generalize hs : b :: t = s at h
  cases h with
  | nil => cases hs
  | byte rest =>
    cases hs
    exact ⟨_, rfl, rest⟩
  | lineBreak mem rest =>
    obtain ⟨c, p, rfl, hc⟩ := head_lineBreaks mem
    cases hs
    rcases hc with rfl | rfl
    · exact absurd rfl hb.2.1
    · exact absurd rfl hb.2.2
  | stop =>
    cases hs
    exact absurd rfl hb.1

/-- In a string every byte stands in both texts. -/
lemma Rebroken.string {q : QuoteState} (hq : q ≠ .outside) {b : UInt8} {t s' : Bytes}
    (h : Rebroken loose q (b :: t) s') : ∃ t', s' = b :: t' ∧ Rebroken loose (q.next b) t t' := by
  generalize hs : b :: t = s at h
  cases h with
  | nil => cases hs
  | byte rest =>
    cases hs
    exact ⟨_, rfl, rest⟩
  | lineBreak => exact absurd rfl hq
  | stop => exact absurd rfl hq

/-- The first byte of the second text is that of the first, or a newline. -/
lemma Rebroken.head {q : QuoteState} {s s' : Bytes} (h : Rebroken loose q s s') {c : UInt8}
    (hc : c ∈ s'.head?) : s.head? = some c ∨ c = 0x0A := by
  cases h with
  | nil => cases hc
  | byte rest => exact .inl hc
  | lineBreak => exact .inr (Option.some.inj hc).symm
  | stop => exact .inl hc

/-! ### Between tokens -/

lemma next_blank {b : UInt8} (h : isBlank b = true) : QuoteState.outside.next b = .outside ∧ b ≠ 0 := by
  have hb : b = 0x20 ∨ b = 0x09 ∨ b = 0x0A ∨ b = 0x0D := by simpa [isBlank, or_assoc] using h
  rcases hb with rfl | rfl | rfl | rfl <;> decide

lemma skipBlanks_blank {b : UInt8} (h : isBlank b = true) (t : Bytes) :
    skipBlanks (b :: t) = skipBlanks t := by
  rw [skipBlanks, if_pos h]

/-- Blanks are passed over in both texts, up to a byte that is in both or to where the reader stops. -/
lemma skipBlanks_rebroken {s s' : Bytes} (h : Rebroken loose .outside s s')
    (hs : (skipBlanks s).head? ≠ some 0xE2) :
    cleanFrom .outside s = cleanFrom .outside (skipBlanks s) ∧
      (skipBlanks s').length ≤ s'.length ∧ (skipBlanks s).head? = (skipBlanks s').head? ∧
      Rebroken loose .outside (skipBlanks s) (skipBlanks s') := by
  generalize hq : QuoteState.outside = q at h
  induction h with
  | nil => exact ⟨rfl, Nat.le_refl _, rfl, hq ▸ .nil _⟩
  | @byte q b t t' rest ih =>
    subst hq
    by_cases hb : isBlank b = true
    · obtain ⟨hnext, hzero⟩ := next_blank hb
      rw [hnext] at rest ih
      rw [skipBlanks_blank hb] at hs ⊢
      rw [skipBlanks_blank hb]
      obtain ⟨hclean, hlength, hhead, hrest⟩ := ih hs rfl
      refine ⟨?_, ?_, hhead, hrest⟩
      · rw [cleanFrom_outside hzero, hnext, hclean]
      · rw [List.length_cons]
        omega
    · rw [skipBlanks_cons (by simpa using hb), skipBlanks_cons (by simpa using hb)]
      exact ⟨rfl, Nat.le_refl _, rfl, .byte rest⟩
  | @lineBreak p t t' mem rest ih =>
    have hnewline : skipBlanks (0x0A :: t') = skipBlanks t' := skipBlanks_blank rfl _
    simp only [lineBreaks, List.mem_cons, List.not_mem_nil, or_false] at mem
    rw [hnewline]
    rcases mem with rfl | rfl | rfl | rfl
    · obtain ⟨hclean, hlength, hhead, hrest⟩ := ih hs rfl
      exact ⟨hclean, hlength.trans (Nat.le_succ _), hhead, hrest⟩
    · obtain ⟨hclean, hlength, hhead, hrest⟩ := ih hs rfl
      exact ⟨hclean, hlength.trans (Nat.le_succ _), hhead, hrest⟩
    · exact absurd rfl hs
    · exact absurd rfl hs
  | stop h => exact ⟨rfl, Nat.le_refl _, rfl, .stop h⟩

/-- A token starts with the same byte in both texts. -/
lemma token_rebroken {s s' t : Bytes} {b : UInt8} (h : Rebroken loose .outside s s')
    (hs : skipBlanks s = b :: t) (hb : Plain b) :
    cleanFrom .outside s = cleanFrom (QuoteState.outside.next b) t ∧ ∃ t', skipBlanks s' = b :: t' ∧
      t'.length < s'.length ∧ Rebroken loose (QuoteState.outside.next b) t t' := by
  have hhead : (skipBlanks s).head? ≠ some 0xE2 := by
    rw [hs]
    exact fun heq => hb.2.2 (Option.some.inj heq)
  obtain ⟨hclean, hlength, -, hrest⟩ := skipBlanks_rebroken h hhead
  rw [hs] at hclean hrest
  obtain ⟨t', ht', hrest⟩ := hrest.plain hb
  rw [ht', List.length_cons] at hlength
  exact ⟨hclean.trans (cleanFrom_outside hb.1 t), t', ht', hlength, hrest⟩

/-! ### Strings -/

/-- The state of the quotes in a string, for the states of its reader. -/
def Quoted : StringState → QuoteState → Prop
  | .text u, q => u.Proper ∧ q = .inside
  | .backslash, q => q = .escaped
  | .hex _ _ _, q => q = .inside
  | .pairBackslash _, q => q = .inside
  | .pairU _, q => q = .escaped

lemma Quoted.ne {st : StringState} {q : QuoteState} (h : Quoted st q) : q ≠ .outside := by
  rintro rfl
  cases st <;> simp [Quoted] at h

lemma hexValue_plain {b : UInt8} {d : ℕ} (h : hexValue b = some d) :
    0x1F < b ∧ QuoteState.inside.next b = .inside := by
  have hall : ∀ n < 256, (hexValue n.toUInt8).isSome = true →
      0x1F < n.toUInt8 ∧ QuoteState.inside.next n.toUInt8 = .inside := by decide +kernel
  simpa using hall b.toNat b.toNat_lt (by simp [h])

lemma unescape_visible {b c : UInt8} (h : unescape b = some c) : 0x1F < b := by
  have hall : ∀ n < 256, (unescape n.toUInt8).isSome = true → 0x1F < n.toUInt8 := by decide +kernel
  simpa using hall b.toNat b.toNat_lt (by simp [h])

/-- A byte of a character of several bytes is neither a quote nor a backslash. -/
lemma utf8Step_need {low high : UInt8} {more : ℕ} {b : UInt8} {u : Utf8State} (hlow : 0x80 ≤ low)
    (h : utf8Step (.need low high more) b = some u) :
    0x1F < b ∧ QuoteState.inside.next b = .inside := by
  have hb : 0x80 ≤ b := by
    unfold utf8Step at h
    exact UInt8.le_trans hlow (Option.ite_none_right_eq_some.mp h).1.1
  have hbackslash : b ≠ ch '\\' := by rintro rfl; revert hb; decide
  have hquote : b ≠ ch '"' := by rintro rfl; revert hb; decide
  exact ⟨UInt8.lt_of_lt_of_le (by decide) hb, by rw [QuoteState.next, if_neg hbackslash, if_neg hquote]⟩

lemma unitStep_quoted {high : Option ℕ} {n : ℕ} {out : Bytes} {st : StringState}
    (h : unitStep high n = .next out st) : Quoted st .inside := by
  unfold unitStep at h
  split at h
  · split_ifs at h <;> cases h
    · exact rfl
    · exact ⟨trivial, rfl⟩
  · split_ifs at h
    obtain ⟨-, rfl⟩ := StringStep.next.injEq .. ▸ h
    exact ⟨trivial, rfl⟩

/-- What is read of a string is no control character, and the quotes follow its reader. -/
lemma stringStep_quoted {st st' : StringState} {q : QuoteState} {b : UInt8} {out : Bytes}
    (hq : Quoted st q) (h : stringStep st b = .next out st') : 0x1F < b ∧ Quoted st' (q.next b) := by
  unfold stringStep at h
  split at h
  · obtain ⟨-, rfl⟩ := hq
    split_ifs at h with hquote hbackslash hcontrol
    · cases h
      subst hbackslash
      exact ⟨by decide, rfl⟩
    · split at h
      · cases h
      · next u hu =>
        cases h
        have hnext : QuoteState.inside.next b = .inside := by
          rw [QuoteState.next, if_neg hbackslash, if_neg hquote]
        exact ⟨UInt8.not_le.mp hcontrol, utf8Step_proper hu, hnext⟩
  · obtain ⟨hlow, rfl⟩ := hq
    split at h
    · cases h
    · next u hu =>
      cases h
      obtain ⟨hvisible, hnext⟩ := utf8Step_need hlow hu
      exact ⟨hvisible, utf8Step_proper hu, hnext⟩
  · cases hq
    split_ifs at h with hu
    · cases h
      subst hu
      exact ⟨by decide, rfl⟩
    · split at h
      · cases h
      · next c hc =>
        cases h
        exact ⟨unescape_visible hc, trivial, rfl⟩
  · cases hq
    split at h
    · cases h
    · next d hd =>
      obtain ⟨hvisible, hnext⟩ := hexValue_plain hd
      rw [hnext]
      split_ifs at h
      · cases h
        exact ⟨hvisible, rfl⟩
      · exact ⟨hvisible, unitStep_quoted h⟩
  · cases hq
    split_ifs at h with hb
    cases h
    subst hb
    exact ⟨by decide, rfl⟩
  · cases hq
    split_ifs at h with hb
    cases h
    subst hb
    exact ⟨by decide, rfl⟩

lemma unitStep_ne_close {high : Option ℕ} {n : ℕ} : unitStep high n ≠ .close := by
  unfold unitStep
  split <;> split_ifs <;> exact nofun

/-- A string is closed by a quote. -/
lemma stringStep_closing {st : StringState} {q : QuoteState} {b : UInt8} (hq : Quoted st q)
    (h : stringStep st b = .close) : 0x1F < b ∧ q.next b = .outside := by
  unfold stringStep at h
  split at h
  · obtain ⟨-, rfl⟩ := hq
    split_ifs at h with hquote
    · subst hquote
      decide
    · split at h <;> cases h
  · split at h <;> cases h
  · split_ifs at h
    split at h <;> cases h
  · split at h
    · cases h
    · split_ifs at h
      exact absurd h unitStep_ne_close
  · split_ifs at h
  · split_ifs at h

/-- A string is read in both texts. -/
lemma scanString_rebroken {st : StringState} {q : QuoteState} (hq : Quoted st q) {t t' out r : Bytes}
    (h : Rebroken loose q t t') (hs : scanString st t = .ok (out, r)) :
    cleanFrom q t = cleanFrom .outside r ∧ ∃ r', scanString st t' = .ok (out, r') ∧
      r'.length < t'.length ∧ Rebroken loose .outside r r' := by
  induction t generalizing st q t' out with
  | nil => cases hs
  | cons b t ih =>
    obtain ⟨u, rfl, hrest⟩ := h.string hq.ne
    rw [scanString] at hs
    split at hs
    · next hstep =>
      cases hs
      obtain ⟨hvisible, hnext⟩ := stringStep_closing hq hstep
      rw [hnext] at hrest
      refine ⟨by rw [cleanFrom_string hq.ne hvisible, hnext], u, ?_, by simp, hrest⟩
      rw [scanString, hstep]
    · cases hs
    · next out₁ st₁ hstep =>
      obtain ⟨⟨out₂, r₂⟩, hscan, hs⟩ := bind_eq_ok.mp hs
      cases hs
      obtain ⟨hvisible, hquoted⟩ := stringStep_quoted hq hstep
      obtain ⟨hclean, r', hscan', hlength, hrest'⟩ := ih hquoted hrest hscan
      refine ⟨by rw [cleanFrom_string hq.ne hvisible, hclean], r', ?_, ?_, hrest'⟩
      · rw [scanString, hstep]
        dsimp only
        rw [hscan', ok_bind]
        rfl
      · rw [List.length_cons]
        omega

/-! ### Numbers and literals -/

/-- What was read of the first text is read of the second. -/
def ReadsBoth {α : Type} (loose : Prop) (read : Bytes → Except JsonError (α × Bytes)) (s : Bytes) (x : α)
    (r : Bytes) : Prop :=
  cleanFrom .outside s = cleanFrom .outside r ∧ ∀ s', Rebroken loose .outside s s' →
    ∃ r', read s' = .ok (x, r') ∧ r'.length ≤ s'.length ∧ Rebroken loose .outside r r'

lemma digit_plain {b : UInt8} (h : isDigit b = true) : Plain b ∧ QuoteState.outside.next b = .outside := by
  have hall : ∀ n < 256, isDigit n.toUInt8 = true →
      Plain n.toUInt8 ∧ QuoteState.outside.next n.toUInt8 = .outside := by decide +kernel
  simpa using hall b.toNat b.toNat_lt (by simpa using h)

/-- A plain byte outside of strings that starts none. -/
lemma Rebroken.outside {b : UInt8} {t s' : Bytes} (h : Rebroken loose .outside (b :: t) s') (hb : Plain b)
    (hnext : QuoteState.outside.next b = .outside) :
    cleanFrom .outside (b :: t) = cleanFrom .outside t ∧ ∃ t', s' = b :: t' ∧
      Rebroken loose .outside t t' := by
  obtain ⟨t', rfl, hrest⟩ := h.plain hb
  rw [hnext] at hrest
  exact ⟨by rw [cleanFrom_outside hb.1, hnext], t', rfl, hrest⟩

/-- Where the first text has a byte of a kind at its head, or none of it, so has the second. -/
lemma Rebroken.head_not {s s' : Bytes} (h : Rebroken loose .outside s s') {P : UInt8 → Prop}
    (hs : ∀ b ∈ s.head?, ¬ P b) (hnewline : ¬ P 0x0A) : ∀ b ∈ s'.head?, ¬ P b := by
  intro b hb
  rcases h.head hb with hhead | rfl
  · exact hs b hhead
  · exact hnewline

/-- What is read one after the other. -/
lemma ReadsBoth.bind {α β : Type} {read : Bytes → Except JsonError (α × Bytes)}
    {s r r' : Bytes} {x : α} {y : β} (h : ReadsBoth loose read s x r)
    (read' : α → Bytes → Except JsonError (β × Bytes)) (h' : ReadsBoth loose (read' x) r y r') :
    ReadsBoth loose (fun s => read s >>= fun p => read' p.1 p.2) s y r' := by
  refine ⟨h.1.trans h'.1, fun s' hs => ?_⟩
  obtain ⟨t, ht, hlength, hrest⟩ := h.2 s' hs
  obtain ⟨t', ht', hlength', hrest'⟩ := h'.2 t hrest
  refine ⟨t', ?_, hlength'.trans hlength, hrest'⟩
  dsimp only
  rw [ht, ok_bind, ht']

/-- What is made of what was read. -/
lemma ReadsBoth.map {α β : Type} {read : Bytes → Except JsonError (α × Bytes)} {s r : Bytes} {x : α}
    (h : ReadsBoth loose read s x r) (f : α → β) :
    ReadsBoth loose (fun s => read s >>= fun p => .ok (f p.1, p.2)) s (f x) r :=
  h.bind (fun x s => .ok (f x, s)) ⟨rfl, fun s' h => ⟨s', rfl, Nat.le_refl _, h⟩⟩

/-- Of a reader that looks at the first byte only to pass it over. -/
lemma readsBoth_cons {α : Type} {read : Bytes → Except JsonError (α × Bytes)}
    (read' : Bytes → Except JsonError (α × Bytes)) {b : UInt8} {t r : Bytes} {x : α} (hb : Plain b)
    (hnext : QuoteState.outside.next b = .outside) (hread : ∀ u, read (b :: u) = read' u)
    (h : ReadsBoth loose read' t x r) :
    ReadsBoth loose read (b :: t) x r := by
  refine ⟨?_, fun s' hs => ?_⟩
  · rw [cleanFrom_outside hb.1, hnext, h.1]
  · obtain ⟨-, t', rfl, hrest⟩ := hs.outside hb hnext
    obtain ⟨r', hr', hlength, hrest'⟩ := h.2 t' hrest
    exact ⟨r', by rw [hread, hr'], hlength.trans (Nat.le_succ _), hrest'⟩

/-- Of a reader that takes nothing where no byte of a kind is at the head. -/
lemma readsBoth_none {α : Type} {read : Bytes → Except JsonError (α × Bytes)} {P : UInt8 → Prop}
    {s : Bytes} {x : α} (hread : ∀ u, (∀ b ∈ u.head?, ¬ P b) → read u = .ok (x, u))
    (hs : ∀ b ∈ s.head?, ¬ P b) (hnewline : ¬ P 0x0A) : ReadsBoth loose read s x s :=
  ⟨rfl, fun s' h => ⟨s', hread s' (h.head_not hs hnewline), Nat.le_refl _, h⟩⟩

lemma spanDigits_none {s : Bytes} (h : ∀ b ∈ s.head?, ¬ isDigit b = true) : spanDigits s = ([], s) := by
  cases s with
  | nil => rfl
  | cons b t => rw [spanDigits, if_neg (h b rfl)]

lemma spanDigits_readsBoth (s : Bytes) :
    ReadsBoth loose (fun s => .ok (spanDigits s)) s (spanDigits s).1 (spanDigits s).2 := by
  induction s with
  | nil => exact readsBoth_none (fun u hu => by rw [spanDigits_none hu]; rfl) (by simp) (by decide)
  | cons b t ih =>
    by_cases hb : isDigit b = true
    · obtain ⟨hplain, hnext⟩ := digit_plain hb
      have hspan (u : Bytes) : spanDigits (b :: u) = (b :: (spanDigits u).1, (spanDigits u).2) := by
        rw [spanDigits, if_pos hb]
      rw [hspan]
      exact readsBoth_cons _ hplain hnext (fun u => by rw [hspan]; rfl)
        (ih.map (b :: ·))
    · rw [spanDigits, if_neg hb]
      exact readsBoth_none (fun u hu => by rw [spanDigits_none hu]) (by simpa using hb) (by decide)

lemma scanWhole_readsBoth {s ds r : Bytes} (hs : scanWhole s = .ok (ds, r)) :
    ReadsBoth loose scanWhole s ds r := by
  cases s with
  | nil => cases hs
  | cons b t =>
    rw [scanWhole] at hs
    by_cases hzero : b = ch '0'
    · rw [if_pos hzero] at hs
      cases hs
      subst hzero
      exact readsBoth_cons (fun u => .ok ([ch '0'], u)) (by decide) rfl (fun _ => rfl)
        ⟨rfl, fun s' h => ⟨s', rfl, Nat.le_refl _, h⟩⟩
    · rw [if_neg hzero] at hs
      split_ifs at hs with hdigit
      cases hs
      obtain ⟨hplain, hnext⟩ := digit_plain hdigit
      refine readsBoth_cons _ hplain hnext (fun u => ?_) ((spanDigits_readsBoth t).map (b :: ·))
      rw [scanWhole, if_neg hzero, if_pos hdigit]
      rfl

/-- One digit at least. -/
lemma someDigits_readsBoth {f : Bytes → Bytes} {s x r : Bytes}
    (hs : (match spanDigits s with
      | ([], _) => .error .malformed
      | (ds, r) => .ok (f ds, r) : Except JsonError (Bytes × Bytes)) = .ok (x, r)) :
    ReadsBoth loose (fun u => match spanDigits u with
      | ([], _) => .error .malformed
      | (ds, r) => .ok (f ds, r)) s x r := by
  have h : ReadsBoth loose _ s _ _ := spanDigits_readsBoth s
  have hread (u : Bytes) : (match spanDigits u with
      | ([], _) => .error .malformed
      | (ds, r) => .ok (f ds, r) : Except JsonError (Bytes × Bytes)) =
        (if (spanDigits u).1 = [] then .error .malformed else .ok (f (spanDigits u).1, (spanDigits u).2)) := by
    rcases spanDigits u with ⟨_ | ⟨d, ds⟩, r⟩
    · rfl
    · rfl
  rw [hread] at hs
  split_ifs at hs with hempty
  cases hs
  refine ⟨h.1, fun s' hs' => ?_⟩
  obtain ⟨r', hr', hlength, hrest⟩ := h.2 s' hs'
  have hr' := Except.ok.inj hr'
  refine ⟨r', ?_, hlength, hrest⟩
  dsimp only
  rw [hread, hr', if_neg hempty]

lemma scanFraction_readsBoth {s x r : Bytes} (hs : scanFraction s = .ok (x, r)) :
    ReadsBoth loose scanFraction s x r := by
  have hnone (u : Bytes) (hu : ∀ b ∈ u.head?, ¬ b = ch '.') : scanFraction u = .ok ([], u) := by
    cases u with
    | nil => rfl
    | cons b u => rw [scanFraction, if_neg (hu b rfl)]
  by_cases hdot : ∀ b ∈ s.head?, ¬ b = ch '.'
  · rw [hnone s hdot] at hs
    cases hs
    exact readsBoth_none hnone hdot (by decide)
  · push Not at hdot
    obtain ⟨_, hhead, rfl⟩ := hdot
    obtain ⟨t, rfl⟩ := List.head?_eq_some_iff.mp hhead
    exact readsBoth_cons _ (by decide) rfl (fun _ => rfl) (someDigits_readsBoth hs)

/-- The sign of an exponent. -/
def signOf : Bytes → Bytes × Bytes
  | [] => ([], [])
  | s :: r => if s = ch '+' ∨ s = ch '-' then ([s], r) else ([], s :: r)

lemma signOf_readsBoth (s : Bytes) :
    ReadsBoth loose (fun s => .ok (signOf s)) s (signOf s).1 (signOf s).2 := by
  have hnone (u : Bytes) (hu : ∀ b ∈ u.head?, ¬ (b = ch '+' ∨ b = ch '-')) : signOf u = ([], u) := by
    cases u with
    | nil => rfl
    | cons b u => rw [signOf, if_neg (hu b rfl)]
  by_cases hsign : ∀ b ∈ s.head?, ¬ (b = ch '+' ∨ b = ch '-')
  · rw [hnone s hsign]
    exact readsBoth_none (fun u hu => by rw [hnone u hu]) hsign (by decide)
  · push Not at hsign
    obtain ⟨b, hhead, hb⟩ := hsign
    obtain ⟨t, rfl⟩ := List.head?_eq_some_iff.mp hhead
    have hread (u : Bytes) : signOf (b :: u) = ([b], u) := by rw [signOf, if_pos hb]
    rw [hread]
    refine readsBoth_cons (fun u => .ok ([b], u)) ?_ ?_ (fun u => by rw [hread])
      ⟨rfl, fun s' h => ⟨s', rfl, Nat.le_refl _, h⟩⟩
    · rcases hb with rfl | rfl <;> decide
    · rcases hb with rfl | rfl <;> rfl

lemma scanExponent_readsBoth {s x r : Bytes} (hs : scanExponent s = .ok (x, r)) :
    ReadsBoth loose scanExponent s x r := by
  have hnone (u : Bytes) (hu : ∀ b ∈ u.head?, ¬ (b = ch 'e' ∨ b = ch 'E')) :
      scanExponent u = .ok ([], u) := by
    cases u with
    | nil => rfl
    | cons b u =>
      unfold scanExponent
      dsimp only
      rw [if_neg (hu b rfl)]
  by_cases hmark : ∀ b ∈ s.head?, ¬ (b = ch 'e' ∨ b = ch 'E')
  · rw [hnone s hmark] at hs
    cases hs
    exact readsBoth_none hnone hmark (by decide)
  · push Not at hmark
    obtain ⟨b, hhead, hb⟩ := hmark
    obtain ⟨t, rfl⟩ := List.head?_eq_some_iff.mp hhead
    have hread (u : Bytes) : scanExponent (b :: u) = match spanDigits (signOf u).2 with
        | ([], _) => .error .malformed
        | (ds, r) => .ok (b :: ((signOf u).1 ++ ds), r) := by
      unfold scanExponent
      dsimp only
      rw [if_pos hb]
      rfl
    rw [hread] at hs
    refine readsBoth_cons _ ?_ ?_ hread ((signOf_readsBoth t).bind (fun sign u =>
      match spanDigits u with
        | ([], _) => .error .malformed
        | (ds, r) => .ok (b :: (sign ++ ds), r)) (someDigits_readsBoth hs))
    · rcases hb with rfl | rfl <;> decide
    · rcases hb with rfl | rfl <;> rfl

/-- The sign of a number. -/
def minusOf : Bytes → Bool × Bytes
  | [] => (false, [])
  | b :: t => if b = ch '-' then (true, t) else (false, b :: t)

lemma minusOf_readsBoth (s : Bytes) :
    ReadsBoth loose (fun s => .ok (minusOf s)) s (minusOf s).1 (minusOf s).2 := by
  have hnone (u : Bytes) (hu : ∀ b ∈ u.head?, ¬ b = ch '-') : minusOf u = (false, u) := by
    cases u with
    | nil => rfl
    | cons b u => rw [minusOf, if_neg (hu b rfl)]
  by_cases hminus : ∀ b ∈ s.head?, ¬ b = ch '-'
  · rw [hnone s hminus]
    exact readsBoth_none (fun u hu => by rw [hnone u hu]) hminus (by decide)
  · push Not at hminus
    obtain ⟨_, hhead, rfl⟩ := hminus
    obtain ⟨t, rfl⟩ := List.head?_eq_some_iff.mp hhead
    exact readsBoth_cons (fun u => .ok (true, u)) (by decide) rfl (fun _ => rfl)
      ⟨rfl, fun s' h => ⟨s', rfl, Nat.le_refl _, h⟩⟩

/-- A number is read in both texts. -/
lemma scanNumber_readsBoth {s r : Bytes} {tok : NumberToken} (hs : scanNumber s = .ok (tok, r)) :
    ReadsBoth loose scanNumber s tok r := by
  have hread (u : Bytes) : scanNumber u = (.ok (minusOf u) >>= fun p => scanWhole p.2 >>= fun q =>
      scanFraction q.2 >>= fun x => scanExponent x.2 >>= fun y =>
        .ok ((⟨p.1, q.1, x.1 ++ y.1⟩ : NumberToken), y.2)) := by
    unfold scanNumber
    rfl
  rw [hread] at hs
  obtain ⟨⟨negative, s₁⟩, hminus, hs⟩ := bind_eq_ok.mp hs
  obtain ⟨⟨whole, s₂⟩, hwhole, hs⟩ := bind_eq_ok.mp hs
  obtain ⟨⟨fraction, s₃⟩, hfraction, hs⟩ := bind_eq_ok.mp hs
  obtain ⟨⟨exponent, s₄⟩, hexponent, hs⟩ := bind_eq_ok.mp hs
  cases hs
  have hsign : minusOf s = (negative, s₁) := Except.ok.inj hminus
  have h : ReadsBoth loose _ s _ _ := minusOf_readsBoth s
  rw [hsign] at h
  have hall := h.bind (fun negative u => scanWhole u >>= fun q => scanFraction q.2 >>= fun x =>
      scanExponent x.2 >>= fun y => .ok ((⟨negative, q.1, x.1 ++ y.1⟩ : NumberToken), y.2))
    ((scanWhole_readsBoth hwhole).bind (fun whole u => scanFraction u >>= fun x =>
      scanExponent x.2 >>= fun y => .ok ((⟨negative, whole, x.1 ++ y.1⟩ : NumberToken), y.2))
      ((scanFraction_readsBoth hfraction).bind (fun fraction u => scanExponent u >>= fun y =>
        .ok ((⟨negative, whole, fraction ++ y.1⟩ : NumberToken), y.2))
        ((scanExponent_readsBoth hexponent).map fun exponent =>
          (⟨negative, whole, fraction ++ exponent⟩ : NumberToken))))
  exact ⟨hall.1, fun s' h' => by rw [hread]; exact hall.2 s' h'⟩

lemma Rebroken.refl (q : QuoteState) (s : Bytes) : Rebroken loose q s s := by
  induction s generalizing q with
  | nil => exact .nil q
  | cons b t ih => exact .byte (ih _)

lemma Rebroken.same (q : QuoteState) (s : Bytes) : Rebroken False q s s := .refl q s

/-- Nothing is read twice. -/
lemma ReadsBoth.length {α : Type} {read : Bytes → Except JsonError (α × Bytes)} {s r : Bytes} {x : α}
    (h : ReadsBoth loose read s x r) (hs : read s = .ok (x, r)) : r.length ≤ s.length := by
  obtain ⟨r', hr', hlength, -⟩ := h.2 s (.refl _ _)
  rw [hs] at hr'
  cases hr'
  exact hlength

lemma length_scanWhole {s ds r : Bytes} (hs : scanWhole s = .ok (ds, r)) : r.length < s.length := by
  cases s with
  | nil => cases hs
  | cons b t =>
    rw [scanWhole] at hs
    split_ifs at hs
    · cases hs
      exact Nat.lt_succ_self _
    · cases hs
      have hspan : ReadsBoth False _ t _ _ := spanDigits_readsBoth t
      exact Nat.lt_succ_of_le (hspan.length rfl)

lemma length_scanNumber {s r : Bytes} {tok : NumberToken} (hs : scanNumber s = .ok (tok, r)) :
    r.length < s.length := by
  unfold scanNumber at hs
  obtain ⟨⟨whole, s₂⟩, hwhole, hs⟩ := bind_eq_ok.mp hs
  obtain ⟨⟨fraction, s₃⟩, hfraction, hs⟩ := bind_eq_ok.mp hs
  obtain ⟨⟨exponent, s₄⟩, hexponent, hs⟩ := bind_eq_ok.mp hs
  cases hs
  have hsign : ReadsBoth False _ s _ _ := minusOf_readsBoth s
  have hminus := hsign.length rfl
  have hlong : s₂.length < (minusOf s).2.length := length_scanWhole hwhole
  have hthird : ReadsBoth False _ s₂ _ _ := scanFraction_readsBoth hfraction
  have hlast : ReadsBoth False _ s₃ _ _ := scanExponent_readsBoth hexponent
  have hshort := hthird.length hfraction
  have hshorter := hlast.length hexponent
  omega

/-- The bytes of a literal. -/
def Letters (l : Bytes) : Prop := ∀ b ∈ l, Plain b ∧ QuoteState.outside.next b = .outside

instance (l : Bytes) : Decidable (Letters l) := List.decidableBAll _ l

lemma Rebroken.letters {l t s' : Bytes} (hl : Letters l) (h : Rebroken loose .outside (l ++ t) s') :
    cleanFrom .outside (l ++ t) = cleanFrom .outside t ∧
      ∃ t', s' = l ++ t' ∧ Rebroken loose .outside t t' := by
  induction l generalizing s' with
  | nil => exact ⟨rfl, s', rfl, h⟩
  | cons b l ih =>
    obtain ⟨⟨hplain, hnext⟩, hl⟩ := List.forall_mem_cons.mp hl
    obtain ⟨hclean, u, rfl, hrest⟩ := h.outside hplain hnext
    obtain ⟨hclean', t', rfl, hrest'⟩ := ih hl hrest
    exact ⟨hclean.trans hclean', t', rfl, hrest'⟩

/-! ### Values -/

lemma literal_readsBoth {l s r : Bytes} {v w : Value} (hl : Letters l)
    (hs : literal l v s = .ok (w, r)) : ReadsBoth loose (literal l v) s w r ∧ r.length + l.length ≤ s.length := by
  have hread (u : Bytes) : literal l v (l ++ u) = .ok (v, u) := by
    rw [literal, if_pos (startsWith_iff.mpr ⟨u, rfl⟩), List.drop_left]
  have hstarts : startsWith l s = true := by
    unfold literal at hs
    split_ifs at hs with hstarts
    exact hstarts
  obtain ⟨t, rfl⟩ := startsWith_iff.mp hstarts
  rw [hread] at hs
  cases hs
  refine ⟨⟨(Rebroken.letters hl (Rebroken.same _ _)).1, fun s' h => ?_⟩, by
    rw [List.length_append, Nat.add_comm]⟩
  obtain ⟨-, t', rfl, hrest⟩ := h.letters hl
  exact ⟨t', hread t', by rw [List.length_append]; exact Nat.le_add_left _ _, hrest⟩

/-- What was read of the first text with some fuel is read of the second, where the fuel is twice what is
taken of it, which is `k` bytes at least. -/
def Follows {α : Type} (loose : Prop) (k : ℕ) (read : ℕ → Bytes → Except JsonError (α × Bytes))
    (s : Bytes) (x : α) (r : Bytes) : Prop :=
  cleanFrom .outside s = cleanFrom .outside r ∧ ∀ s', Rebroken loose .outside s s' →
    ∃ r', Rebroken loose .outside r r' ∧ r'.length + k ≤ s'.length ∧
      ∀ m, 2 * (s'.length - r'.length) ≤ m → read m s' = .ok (x, r')

/-- After a byte that is a token. -/
lemma follows_token {α : Type} {k : ℕ} {read : ℕ → Bytes → Except JsonError (α × Bytes)}
    (inner : ℕ → Bytes → Except JsonError (α × Bytes)) {b : UInt8} {s t r : Bytes} {x : α}
    (hs : skipBlanks s = b :: t) (hb : Plain b) (hnext : QuoteState.outside.next b = .outside)
    (hread : ∀ m u u', skipBlanks u = b :: u' → read (m + 1) u = inner m u')
    (h : Follows loose k inner t x r) : Follows loose 1 read s x r := by
  refine ⟨?_, fun s' hs' => ?_⟩
  · obtain ⟨hclean, -⟩ := token_rebroken (Rebroken.same _ _) hs hb
    rw [hclean, hnext, h.1]
  · obtain ⟨-, t', ht', hlength, hrest⟩ := token_rebroken hs' hs hb
    rw [hnext] at hrest
    obtain ⟨r', hr', hshort, hfuel⟩ := h.2 t' hrest
    refine ⟨r', hr', by omega, fun m hm => ?_⟩
    obtain ⟨m, rfl⟩ : ∃ n, m = n + 1 := Nat.exists_eq_succ_of_ne_zero (by omega)
    rw [hread m s' t' ht', hfuel m (by omega)]

/-- Nothing more is taken. -/
lemma follows_done {α : Type} (x : α) (s : Bytes) :
    Follows loose 0 (fun _ s => .ok (x, s)) s x s :=
  ⟨rfl, fun s' h => ⟨s', h, Nat.le_refl _, fun _ _ => rfl⟩⟩

/-- A string is read after its quote. -/
lemma follows_string {α : Type} {s t out r : Bytes} {x : α} {k : ℕ}
    {read : ℕ → Bytes → Except JsonError (α × Bytes)}
    (inner : Bytes → ℕ → Bytes → Except JsonError (α × Bytes)) (hs : skipBlanks s = ch '"' :: t)
    (hout : scanString (.text .start) t = .ok (out, r))
    (hread : ∀ m u u' out r, skipBlanks u = ch '"' :: u' → scanString (.text .start) u' = .ok (out, r) →
      read (m + 1) u = inner out m r) {r' : Bytes}
    (h : Follows loose k (inner out) r x r') : Follows loose 1 read s x r' := by
  have hplain : Plain (ch '"') := by decide
  have hquoted : Quoted (.text .start) .inside := ⟨trivial, rfl⟩
  refine ⟨?_, fun s' hs' => ?_⟩
  · obtain ⟨hclean, -⟩ := token_rebroken (Rebroken.same _ _) hs hplain
    obtain ⟨hclean', -⟩ := scanString_rebroken hquoted (Rebroken.same _ _) hout
    exact hclean.trans (hclean'.trans h.1)
  · obtain ⟨-, t', ht', hlength, hrest⟩ := token_rebroken hs' hs hplain
    obtain ⟨-, u, hu, hlength', hrest'⟩ := scanString_rebroken hquoted hrest hout
    obtain ⟨u', hu', hshort, hfuel⟩ := h.2 u hrest'
    refine ⟨u', hu', by omega, fun m hm => ?_⟩
    obtain ⟨m, rfl⟩ : ∃ n, m = n + 1 := Nat.exists_eq_succ_of_ne_zero (by omega)
    rw [hread m s' t' out u ht' hu, hfuel m (by omega)]

/-- One after the other, with the same fuel. -/
lemma Follows.both {α β : Type} {read : ℕ → Bytes → Except JsonError (α × Bytes)}
    {read' : ℕ → Bytes → Except JsonError (β × Bytes)} {s r r' : Bytes} {x : α} {y : β}
    (h : Follows loose 1 read s x r) (h' : Follows loose 1 read' r y r') :
    cleanFrom .outside s = cleanFrom .outside r' ∧ ∀ s', Rebroken loose .outside s s' →
      ∃ u u', Rebroken loose .outside r' u' ∧ u'.length + 2 ≤ s'.length ∧
        ∀ m, 2 * (s'.length - u'.length) ≤ m + 2 →
          read m s' = .ok (x, u) ∧ read' m u = .ok (y, u') := by
  refine ⟨h.1.trans h'.1, fun s' hs' => ?_⟩
  obtain ⟨u, hu, hlength, hfuel⟩ := h.2 s' hs'
  obtain ⟨u', hu', hlength', hfuel'⟩ := h'.2 u hu
  exact ⟨u, u', hu', by omega, fun m hm => ⟨hfuel m (by omega), hfuel' m (by omega)⟩⟩

/-- One after the other, with one more step for both. -/
lemma Follows.pair {α β γ : Type} {first : ℕ → Bytes → Except JsonError (α × Bytes)}
    {second : ℕ → Bytes → Except JsonError (β × Bytes)} {read : ℕ → Bytes → Except JsonError (γ × Bytes)}
    {s r r' : Bytes} {x : α} {y : β} {z : γ} (h : Follows loose 1 first s x r)
    (h' : Follows loose 1 second r y r')
    (hread : ∀ m u v v', first m u = .ok (x, v) → second m v = .ok (y, v') → read (m + 1) u = .ok (z, v')) :
    Follows loose 1 read s z r' := by
  obtain ⟨hclean, hboth⟩ := h.both h'
  refine ⟨hclean, fun s' hs' => ?_⟩
  obtain ⟨u, u', hu', hlength, hfuel⟩ := hboth s' hs'
  refine ⟨u', hu', by omega, fun m hm => ?_⟩
  obtain ⟨m, rfl⟩ : ∃ n, m = n + 1 := Nat.exists_eq_succ_of_ne_zero (by omega)
  obtain ⟨hfirst, hsecond⟩ := hfuel m (by omega)
  exact hread m s' u u' hfirst hsecond

/-- An element and those after it. -/
lemma Follows.cons {α : Type} {first : ℕ → Bytes → Except JsonError (α × Bytes)}
    {second : ℕ → Bytes → Except JsonError (List α × Bytes)} {s r r' : Bytes} {x : α} {xs : List α}
    (h : Follows loose 1 first s x r) (h' : Follows loose 1 second r xs r') :
    Follows loose 1 (fun m u => first m u >>= fun p => second m p.2 >>= fun q => .ok (p.1 :: q.1, q.2))
      s (x :: xs) r' := by
  obtain ⟨hclean, hboth⟩ := h.both h'
  refine ⟨hclean, fun s' hs' => ?_⟩
  obtain ⟨u, u', hu', hlength, hfuel⟩ := hboth s' hs'
  refine ⟨u', hu', by omega, fun m hm => ?_⟩
  obtain ⟨hfirst, hsecond⟩ := hfuel m (by omega)
  dsimp only
  rw [hfirst, ok_bind, hsecond, ok_bind]

/-- What is made of what was read, with fuel to spare. -/
lemma Follows.map {α β : Type} {k : ℕ} {read : ℕ → Bytes → Except JsonError (α × Bytes)} {s r : Bytes}
    {x : α} (h : Follows loose k read s x r) (f : α → β) :
    Follows loose k (fun m u => read (m + 1) u >>= fun p => .ok (f p.1, p.2)) s (f x) r := by
  refine ⟨h.1, fun s' hs' => ?_⟩
  obtain ⟨u, hu, hlength, hfuel⟩ := h.2 s' hs'
  refine ⟨u, hu, hlength, fun m hm => ?_⟩
  dsimp only
  rw [hfuel (m + 1) (by omega), ok_bind]

/-- Of what starts with its token. -/
lemma follows_direct {α : Type} {read : ℕ → Bytes → Except JsonError (α × Bytes)}
    (one : Bytes → Except JsonError (α × Bytes)) {b : UInt8} {s t r : Bytes} {x : α}
    (hs : skipBlanks s = b :: t) (hb : Plain b) (h : ReadsBoth loose one (b :: t) x r)
    (hshort : ∀ u r', one u = .ok (x, r') → r'.length < u.length)
    (hread : ∀ m u u', skipBlanks u = b :: u' → read (m + 1) u = one (b :: u')) :
    Follows loose 1 read s x r := by
  have hhead : (skipBlanks s).head? ≠ some 0xE2 := by
    rw [hs]
    exact fun heq => hb.2.2 (Option.some.inj heq)
  refine ⟨?_, fun s' hs' => ?_⟩
  · obtain ⟨hclean, -⟩ := skipBlanks_rebroken (Rebroken.same _ s) hhead
    rw [hclean, hs, h.1]
  · obtain ⟨-, hlength, -, hrest⟩ := skipBlanks_rebroken hs' hhead
    rw [hs] at hrest
    obtain ⟨u, hu, -⟩ := hrest.plain hb
    obtain ⟨r', hr', -, hrest'⟩ := h.2 _ hrest
    have hstrict := hshort _ _ hr'
    refine ⟨r', hrest', by omega, fun m hm => ?_⟩
    obtain ⟨m, rfl⟩ : ∃ n, m = n + 1 := Nat.exists_eq_succ_of_ne_zero (by omega)
    rw [hread m s' u hu, ← hu, hr']

section Values

variable [Library]

/-- The readers follow. -/
structure FollowsAll (loose : Prop) (n : ℕ) : Prop where
  value : ∀ {s v r}, parseValue false n s = .ok (v, r) → Follows loose 1 (parseValue false) s v r
  array : ∀ {s v r}, parseArray false n s = .ok (v, r) → Follows loose 1 (parseArray false) s v r
  items : ∀ {s xs r}, parseItems false n s = .ok (xs, r) → Follows loose 1 (parseItems false) s xs r
  object : ∀ {s v r}, parseObject false n s = .ok (v, r) → Follows loose 1 (parseObject false) s v r
  member : ∀ {s m r}, parseMember false n s = .ok (m, r) → Follows loose 1 (parseMember false) s m r
  members : ∀ {s ms r}, parseMembers false n s = .ok (ms, r) →
    Follows loose 1 (parseMembers false) s ms r

omit [Library] in
lemma skip_false (s : Bytes) : skip false s = .ok (skipBlanks s) := rfl

/-- The value of a number. -/
def numberAt (s : Bytes) : Except JsonError (Value × Bytes) :=
  scanNumber s >>= fun p => numberValue p.1 >>= fun v => .ok (v, p.2)

lemma numberAt_readsBoth {s r : Bytes} {v : Value} (hs : numberAt s = .ok (v, r)) :
    ReadsBoth loose numberAt s v r := by
  obtain ⟨⟨tok, r'⟩, htok, h⟩ := bind_eq_ok.mp hs
  obtain ⟨w, hw, h⟩ := bind_eq_ok.mp h
  cases h
  refine (scanNumber_readsBoth htok).bind (fun tok u => numberValue tok >>= fun v => .ok (v, u))
    ⟨rfl, fun s' h => ⟨s', ?_, Nat.le_refl _, h⟩⟩
  dsimp only
  rw [hw, ok_bind]

lemma length_numberAt {s r : Bytes} {v : Value} (hs : numberAt s = .ok (v, r)) :
    r.length < s.length := by
  obtain ⟨⟨tok, r'⟩, htok, h⟩ := bind_eq_ok.mp hs
  obtain ⟨w, -, h⟩ := bind_eq_ok.mp h
  cases h
  exact length_scanNumber htok

/-- The first byte of a value decides how it is read. -/
lemma parseValue_token {m : ℕ} {s t : Bytes} {b : UInt8} (hs : skipBlanks s = b :: t) :
    parseValue false (m + 1) s =
      if b = ch '[' then parseArray false m t
      else if b = ch '\x7b' then parseObject false m t
      else if b = ch '"' then scanString (.text .start) t >>= fun p => .ok (.str p.1, p.2)
      else if b = ch 't' then literal (str "true") (.bool true) (b :: t)
      else if b = ch 'f' then literal (str "false") (.bool false) (b :: t)
      else if b = ch 'n' then literal (str "null") .null (b :: t)
      else if b = ch '-' ∨ isDigit b then numberAt (b :: t)
      else .error .malformed := by
  rw [parseValue, skip_false, hs, ok_bind]
  rfl

lemma FollowsAll.value_succ {n : ℕ} (ih : FollowsAll loose n) {s : Bytes} {v : Value} {r : Bytes}
    (h : parseValue false (n + 1) s = .ok (v, r)) : Follows loose 1 (parseValue false) s v r := by
  cases hs : skipBlanks s with
  | nil =>
    rw [parseValue, skip_false, hs] at h
    cases h
  | cons b t =>
    rw [parseValue_token hs] at h
    have hliteral {l : Bytes} {w : Value} (hb : Plain b) (hl : Letters l) (hlength : 0 < l.length)
        (hread : ∀ m u u', skipBlanks u = b :: u' → parseValue false (m + 1) u = literal l w (b :: u'))
        (h : literal l w (b :: t) = .ok (v, r)) : Follows loose 1 (parseValue false) s v r := by
      refine follows_direct _ hs hb (literal_readsBoth hl h).1 (fun u r' hu => ?_) hread
      have hboth : ReadsBoth False _ u _ _ ∧ _ := literal_readsBoth hl hu
      omega
    split_ifs at h with harray hobject hstring htrue hfalse hnull hnumber
    · subst harray
      exact follows_token _ hs (by decide) rfl (fun m u u' hu => by rw [parseValue_token hu, if_pos rfl])
        (ih.array h)
    · subst hobject
      exact follows_token _ hs (by decide) rfl (fun m u u' hu => by rw [parseValue_token hu]; rfl)
        (ih.object h)
    · subst hstring
      obtain ⟨⟨out, r'⟩, hout, h⟩ := bind_eq_ok.mp h
      cases h
      refine follows_string (fun out _ u => .ok (.str out, u)) hs hout (fun m u u' out r hu hout => ?_)
        (follows_done _ _)
      rw [parseValue_token hu, if_neg harray, if_neg hobject, if_pos rfl, hout, ok_bind]
    · subst htrue
      exact hliteral (by decide) (by decide) (by decide) (fun m u u' hu => by rw [parseValue_token hu]; rfl) h
    · subst hfalse
      exact hliteral (by decide) (by decide) (by decide) (fun m u u' hu => by rw [parseValue_token hu]; rfl) h
    · subst hnull
      exact hliteral (by decide) (by decide) (by decide) (fun m u u' hu => by rw [parseValue_token hu]; rfl) h
    · have hplain : Plain b := by
        rcases hnumber with rfl | hdigit
        · decide
        · exact (digit_plain hdigit).1
      refine follows_direct numberAt hs hplain (numberAt_readsBoth h) (fun u r' hu => length_numberAt hu)
        (fun m u u' hu => ?_)
      rw [parseValue_token hu, if_neg harray, if_neg hobject, if_neg hstring, if_neg htrue, if_neg hfalse,
        if_neg hnull, if_pos hnumber]

omit [Library] in
lemma skipBlanks_skipBlanks (s : Bytes) : skipBlanks (skipBlanks s) = skipBlanks s := by
  induction s with
  | nil => rfl
  | cons b t ih =>
    rw [skipBlanks]
    split_ifs with hb
    · exact ih
    · rw [skipBlanks, if_neg hb]

/-- A value may be read from its first byte on. -/
lemma parseValue_skipBlanks (n : ℕ) (s : Bytes) : parseValue false n (skipBlanks s) = parseValue false n s := by
  cases n with
  | zero => rfl
  | succ n => rw [parseValue, parseValue, skip_false, skip_false, skipBlanks_skipBlanks]

lemma parseMember_skipBlanks (n : ℕ) (s : Bytes) :
    parseMember false n (skipBlanks s) = parseMember false n s := by
  cases n with
  | zero => rfl
  | succ n => rw [parseMember, parseMember, skip_false, skip_false, skipBlanks_skipBlanks]

lemma parseArray_token {m : ℕ} {s t : Bytes} {b : UInt8} (hs : skipBlanks s = b :: t) :
    parseArray false (m + 1) s = if b = ch ']' then .ok (.arr [], t)
      else parseValue false m s >>= fun p => parseItems false m p.2 >>= fun q =>
        .ok (.arr (p.1 :: q.1), q.2) := by
  rw [parseArray, skip_false, ← parseValue_skipBlanks m s, hs, ok_bind]
  rfl

lemma parseItems_token {m : ℕ} {s t : Bytes} {b : UInt8} (hs : skipBlanks s = b :: t) :
    parseItems false (m + 1) s = if b = ch ']' then .ok ([], t)
      else if b = ch ',' then parseValue false m t >>= fun p => parseItems false m p.2 >>= fun q =>
        .ok (p.1 :: q.1, q.2)
      else .error .malformed := by
  rw [parseItems, skip_false, hs, ok_bind]
  rfl

lemma parseObject_token {m : ℕ} {s t : Bytes} {b : UInt8} (hs : skipBlanks s = b :: t) :
    parseObject false (m + 1) s = if b = ch '\x7d' then .ok (.obj [], t)
      else parseMember false m s >>= fun p => parseMembers false m p.2 >>= fun q =>
        .ok (.obj (p.1 :: q.1), q.2) := by
  rw [parseObject, skip_false, ← parseMember_skipBlanks m s, hs, ok_bind]
  rfl

lemma parseMembers_token {m : ℕ} {s t : Bytes} {b : UInt8} (hs : skipBlanks s = b :: t) :
    parseMembers false (m + 1) s = if b = ch '\x7d' then .ok ([], t)
      else if b = ch ',' then parseMember false m t >>= fun p => parseMembers false m p.2 >>= fun q =>
        .ok (p.1 :: q.1, q.2)
      else .error .malformed := by
  rw [parseMembers, skip_false, hs, ok_bind]
  rfl

/-- What follows the name of a member. -/
def colonAt (k : Bytes) (m : ℕ) (s : Bytes) : Except JsonError ((Bytes × Value) × Bytes) :=
  match skipBlanks s with
  | [] => .error .malformed
  | b :: t => if b = ch ':' then parseValue false m t >>= fun p => .ok ((k, p.1), p.2)
    else .error .malformed

lemma parseMember_token {m : ℕ} {s t : Bytes} {b : UInt8} (hs : skipBlanks s = b :: t) :
    parseMember false (m + 1) s = if b = ch '"' then
        scanString (.text .start) t >>= fun p => colonAt p.1 m p.2
      else .error .malformed := by
  rw [parseMember, skip_false, hs, ok_bind]
  rfl

/-- No value starts with what closes an array. -/
lemma parseValue_head {m : ℕ} {s : Bytes} {p : Value × Bytes} (h : parseValue false m s = .ok p) :
    ∃ b t, skipBlanks s = b :: t ∧ b ≠ ch ']' := by
  cases m with
  | zero => cases h
  | succ m =>
    cases hs : skipBlanks s with
    | nil =>
      rw [parseValue, skip_false, hs] at h
      cases h
    | cons b t =>
      refine ⟨b, t, rfl, ?_⟩
      rintro rfl
      rw [parseValue_token hs] at h
      cases h

lemma parseMember_head {m : ℕ} {s : Bytes} {p : (Bytes × Value) × Bytes}
    (h : parseMember false m s = .ok p) : ∃ b t, skipBlanks s = b :: t ∧ b ≠ ch '\x7d' := by
  cases m with
  | zero => cases h
  | succ m =>
    cases hs : skipBlanks s with
    | nil =>
      rw [parseMember, skip_false, hs] at h
      cases h
    | cons b t =>
      refine ⟨b, t, rfl, ?_⟩
      rintro rfl
      rw [parseMember_token hs] at h
      cases h

section Steps

variable {n : ℕ} {s r : Bytes}

lemma FollowsAll.array_succ (ih : FollowsAll loose n) {v : Value}
    (h : parseArray false (n + 1) s = .ok (v, r)) : Follows loose 1 (parseArray false) s v r := by
  cases hs : skipBlanks s with
  | nil =>
    rw [parseArray, skip_false, hs] at h
    cases h
  | cons b t =>
    rw [parseArray_token hs] at h
    split_ifs at h with hclose
    · cases h
      subst hclose
      exact follows_token _ hs (by decide) rfl (fun m u u' hu => by rw [parseArray_token hu, if_pos rfl])
        (follows_done _ _)
    · obtain ⟨⟨x, r₁⟩, hx, h⟩ := bind_eq_ok.mp h
      obtain ⟨⟨xs, r₂⟩, hxs, h⟩ := bind_eq_ok.mp h
      cases h
      refine (ih.value hx).pair (ih.items hxs) fun m u v v' hv hv' => ?_
      obtain ⟨c, u', hu, hc⟩ := parseValue_head hv
      rw [parseArray_token hu, if_neg hc, hv, ok_bind, hv', ok_bind]

lemma FollowsAll.items_succ (ih : FollowsAll loose n) {xs : List Value}
    (h : parseItems false (n + 1) s = .ok (xs, r)) : Follows loose 1 (parseItems false) s xs r := by
  cases hs : skipBlanks s with
  | nil =>
    rw [parseItems, skip_false, hs] at h
    cases h
  | cons b t =>
    rw [parseItems_token hs] at h
    split_ifs at h with hclose hcomma
    · cases h
      subst hclose
      exact follows_token _ hs (by decide) rfl (fun m u u' hu => by rw [parseItems_token hu, if_pos rfl])
        (follows_done _ _)
    · obtain ⟨⟨x, r₁⟩, hx, h⟩ := bind_eq_ok.mp h
      obtain ⟨⟨ys, r₂⟩, hys, h⟩ := bind_eq_ok.mp h
      cases h
      subst hcomma
      exact follows_token _ hs (by decide) rfl
        (fun m u u' hu => by rw [parseItems_token hu, if_neg hclose, if_pos rfl])
        ((ih.value hx).cons (ih.items hys))

lemma FollowsAll.object_succ (ih : FollowsAll loose n) {v : Value}
    (h : parseObject false (n + 1) s = .ok (v, r)) : Follows loose 1 (parseObject false) s v r := by
  cases hs : skipBlanks s with
  | nil =>
    rw [parseObject, skip_false, hs] at h
    cases h
  | cons b t =>
    rw [parseObject_token hs] at h
    split_ifs at h with hclose
    · cases h
      subst hclose
      exact follows_token _ hs (by decide) rfl (fun m u u' hu => by rw [parseObject_token hu, if_pos rfl])
        (follows_done _ _)
    · obtain ⟨⟨x, r₁⟩, hx, h⟩ := bind_eq_ok.mp h
      obtain ⟨⟨ms, r₂⟩, hms, h⟩ := bind_eq_ok.mp h
      cases h
      refine (ih.member hx).pair (ih.members hms) fun m u v v' hv hv' => ?_
      obtain ⟨c, u', hu, hc⟩ := parseMember_head hv
      rw [parseObject_token hu, if_neg hc, hv, ok_bind, hv', ok_bind]

lemma FollowsAll.members_succ (ih : FollowsAll loose n) {ms : List (Bytes × Value)}
    (h : parseMembers false (n + 1) s = .ok (ms, r)) : Follows loose 1 (parseMembers false) s ms r := by
  cases hs : skipBlanks s with
  | nil =>
    rw [parseMembers, skip_false, hs] at h
    cases h
  | cons b t =>
    rw [parseMembers_token hs] at h
    split_ifs at h with hclose hcomma
    · cases h
      subst hclose
      exact follows_token _ hs (by decide) rfl (fun m u u' hu => by rw [parseMembers_token hu, if_pos rfl])
        (follows_done _ _)
    · obtain ⟨⟨x, r₁⟩, hx, h⟩ := bind_eq_ok.mp h
      obtain ⟨⟨ys, r₂⟩, hys, h⟩ := bind_eq_ok.mp h
      cases h
      subst hcomma
      exact follows_token _ hs (by decide) rfl
        (fun m u u' hu => by rw [parseMembers_token hu, if_neg hclose, if_pos rfl])
        ((ih.member hx).cons (ih.members hys))

lemma FollowsAll.member_succ (ih : FollowsAll loose n) {x : Bytes × Value}
    (h : parseMember false (n + 1) s = .ok (x, r)) : Follows loose 1 (parseMember false) s x r := by
  cases hs : skipBlanks s with
  | nil =>
    rw [parseMember, skip_false, hs] at h
    cases h
  | cons b t =>
    rw [parseMember_token hs] at h
    split_ifs at h with hquote
    subst hquote
    obtain ⟨⟨k, r₁⟩, hk, h⟩ := bind_eq_ok.mp h
    refine follows_string colonAt hs hk (fun m u u' out r hu hout => ?_) (k := 1) ?_
    · rw [parseMember_token hu, if_pos rfl, hout, ok_bind]
    · unfold colonAt at h
      cases hcolon : skipBlanks r₁ with
      | nil =>
        rw [hcolon] at h
        cases h
      | cons c r₂ =>
        rw [hcolon] at h
        dsimp only at h
        split_ifs at h with hc
        subst hc
        obtain ⟨⟨v, r₃⟩, hv, h⟩ := bind_eq_ok.mp h
        cases h
        refine follows_token _ hcolon (by decide) rfl (fun m u u' hu => ?_)
          ((ih.value hv).map fun v => (k, v))
        unfold colonAt
        rw [hu]
        rfl

end Steps

lemma followsAll (n : ℕ) : FollowsAll loose n := by
  induction n with
  | zero => constructor <;> intro _ _ _ h <;> cases h
  | succ n ih =>
    exact ⟨ih.value_succ, ih.array_succ, ih.items_succ, ih.object_succ, ih.member_succ,
      ih.members_succ⟩

/-! ### Whole texts -/

/-- The text is at its end: nothing is left but blanks, or a zero byte is next. -/
def AtEnd (s : Bytes) : Prop := ∀ b ∈ (skipBlanks s).head?, b = 0

omit [Library] in
lemma AtEnd.rebroken {s s' : Bytes} (h : AtEnd s) (hs : Rebroken loose .outside s s') :
    cleanFrom .outside s = true ∧ AtEnd s' := by
  have hhead : (skipBlanks s).head? ≠ some 0xE2 := fun heq => absurd (h _ heq) (by decide)
  obtain ⟨hclean, -, heq, -⟩ := skipBlanks_rebroken hs hhead
  refine ⟨?_, fun b hb => h b (heq ▸ hb)⟩
  rw [hclean]
  cases hskip : skipBlanks s with
  | nil => rfl
  | cons b t =>
    rw [AtEnd, hskip] at h
    rw [cleanFrom, h b rfl]
    rfl

lemma parseTree_iff {s : Bytes} {v : Value} : parseTree false s = .ok v ↔
    ∃ s₁ r, skipBom s = .ok s₁ ∧ parseValue false (2 * s₁.length + 2) s₁ = .ok (v, r) ∧ AtEnd r := by
  have hend (w : Value) (r : Bytes) : (match skipBlanks r with
      | [] => .ok w
      | b :: _ => if b = 0 then .ok w else .error .malformed : Except JsonError Value) = .ok v ↔
        w = v ∧ AtEnd r := by
    cases hskip : skipBlanks r with
    | nil => simp [AtEnd, hskip]
    | cons b t =>
      by_cases hb : b = 0
      · simp [AtEnd, hskip, hb]
      · simp [AtEnd, hskip, hb]
  constructor
  · intro h
    obtain ⟨s₁, hbom, h⟩ := bind_eq_ok.mp h
    obtain ⟨⟨w, r⟩, hw, h⟩ := bind_eq_ok.mp h
    obtain ⟨rfl, hr⟩ := (hend w r).mp h
    exact ⟨s₁, r, hbom, hw, hr⟩
  · rintro ⟨s₁, r, hbom, hw, hr⟩
    unfold parseTree
    rw [hbom, ok_bind, hw, ok_bind]
    exact (hend v r).mpr ⟨rfl, hr⟩

omit [Library] in
lemma skipBom_rebroken {s s' s₁ : Bytes} (h : Rebroken loose .outside s s') (hs : skipBom s = .ok s₁) :
    cleanFrom .outside s = cleanFrom .outside s₁ ∧
      ∃ s₁', skipBom s' = .ok s₁' ∧ Rebroken loose .outside s₁ s₁' := by
  have hnone {u : Bytes} (hu : ∀ b ∈ u.head?, ¬ b = 0xEF) : skipBom u = .ok u := by
    unfold skipBom
    split
    · exact absurd rfl (hu 0xEF rfl)
    · exact absurd rfl (hu 0xEF rfl)
    · rfl
  unfold skipBom at hs
  split at hs
  · cases hs
    have hletters : Letters [0xEF, 0xBB, 0xBF] := by decide
    obtain ⟨hclean, t', rfl, hrest⟩ := Rebroken.letters hletters h
    exact ⟨hclean, t', rfl, hrest⟩
  · cases hs
  · next hfirst hsecond =>
    cases hs
    refine ⟨rfl, s', hnone (h.head_not (fun b hb heq => ?_) (by decide)), h⟩
    obtain ⟨t, rfl⟩ := List.head?_eq_some_iff.mp hb
    exact hsecond t (by rw [heq])

lemma parseTree_follows {s s' : Bytes} {v : Value} (h : Rebroken loose .outside s s')
    (hs : parseTree false s = .ok v) : cleanFrom .outside s = true ∧ parseTree false s' = .ok v := by
  obtain ⟨s₁, r, hbom, hv, hr⟩ := parseTree_iff.mp hs
  obtain ⟨hclean, s₁', hbom', hrest⟩ := skipBom_rebroken h hbom
  have hfollows : Follows loose 1 (parseValue false) s₁ v r := (followsAll _).value hv
  obtain ⟨hclean', hvalue⟩ := hfollows
  obtain ⟨r', hr', -, hfuel⟩ := hvalue s₁' hrest
  obtain ⟨hend, hatEnd⟩ := hr.rebroken hr'
  exact ⟨hclean.trans (hclean'.trans hend),
    parseTree_iff.mpr ⟨s₁', r', hbom', hfuel _ (by omega), hatEnd⟩⟩

/-- **Line ends do not matter to a reader of JSON**, outside of strings. -/
theorem parseTree_rebroken {s s' : Bytes} {v : Value} (h : Rebroken loose .outside s s')
    (hs : parseTree false s = .ok v) : parseTree false s' = .ok v := (parseTree_follows h hs).2

/-- No string of a JSON text has a control character in it. -/
theorem clean_of_parseTree {s : Bytes} {v : Value} (hs : parseTree false s = .ok v) :
    cleanFrom .outside s = true :=
  (parseTree_follows (Rebroken.same _ s) hs).1

end Values

end CcsTrans.Config
