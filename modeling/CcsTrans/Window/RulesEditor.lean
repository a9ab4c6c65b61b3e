import CcsTrans.Config.TextPieces
import CcsTrans.Editor.Atomic

/-!
The editor of rules in the window.

The window makes all line ends of a text newlines before it keeps it, those in strings too. The
reader of rules does so outside of strings only. The two agree where no string has a separator
in it, for which the reader takes a byte of a string and the window a line end.
-/

namespace CcsTrans.Window

open CcsTrans.Text CcsTrans.Json CcsTrans.Config CcsTrans.Storage CcsTrans.Fallible

/-! ### The text of the editor -/

/-- `QString::replace`, from left to right. A text of the window stands for its UTF-8. -/
def replaceFrom (before after : Bytes) : ℕ → Bytes → Bytes
  | _, [] => []
  | skip + 1, _ :: t => replaceFrom before after skip t
  | 0, b :: t =>
    if startsWith before (b :: t) then after ++ replaceFrom before after (before.length - 1) t
    else b :: replaceFrom before after 0 t

def replace (before after s : Bytes) : Bytes := replaceFrom before after 0 s

/-- What `RulesController::setText` makes of a text. -/
def canonicalText (text : Bytes) : Bytes :=
  replace [0xE2, 0x80, 0xA9] [0x0A]
    (replace [0xE2, 0x80, 0xA8] [0x0A]
      (replace [0x0D] [0x0A] (replace [0x0D, 0x0A] [0x0A] text)))

inductive RulesSignal where
  | errorChanged
  | draftChanged
  | textReplaced (text : Bytes)

/-- `RulesController`, of which this is what `setText` looks at. -/
structure RulesController where
  serverText : Bytes := []
  text : Bytes := []
  error : Bytes := []
  editRevision : UInt64 := 0
  dirty : Bool := false

def RulesController.setText (c : RulesController) (text : Bytes) : RulesController × List RulesSignal :=
  let canonical := canonicalText text
  if c.text = canonical then (c, [])
  else
    ({ c with
        text := canonical
        editRevision := c.editRevision + 1
        error := []
        dirty := canonical ≠ c.serverText },
      (if c.error = [] then [] else [.errorChanged]) ++ [.draftChanged] ++
        if canonical = text then [] else [.textReplaced canonical])

/-- The text that is kept. -/
lemma setText_text (c : RulesController) (text : Bytes) :
    (c.setText text).1.text = canonicalText text := by
  unfold RulesController.setText
  by_cases h : c.text = canonicalText text
  · rw [if_pos h, h]
  · rw [if_neg h]

/-! ### Four passes are one -/

lemma replaceFrom_skip (before after u t : Bytes) :
    replaceFrom before after u.length (u ++ t) = replaceFrom before after 0 t := by
  induction u with
  | nil => rfl
  | cons b u ih => exact ih

lemma replace_match {before after : Bytes} (h : before ≠ []) (t : Bytes) :
    replace before after (before ++ t) = after ++ replace before after t := by
  obtain ⟨b, u, rfl⟩ := List.exists_cons_of_ne_nil h
  have hstarts : startsWith (b :: u) (b :: (u ++ t)) = true := startsWith_iff.mpr ⟨t, rfl⟩
  rw [replace, List.cons_append, replaceFrom, if_pos hstarts, replace, List.length_cons,
    Nat.add_sub_cancel, replaceFrom_skip]

lemma replace_cons {before after : Bytes} {b : UInt8} {t : Bytes}
    (h : startsWith before (b :: t) = false) :
    replace before after (b :: t) = b :: replace before after t := by
  rw [replace, replaceFrom, if_neg (by rw [h]; exact Bool.false_ne_true), replace]

/-- A byte that is not put in was there. -/
lemma replace_eq_cons {before s u : Bytes} {b : UInt8} (h : replace before [0x0A] s = b :: u)
    (hb : b ≠ 0x0A) : ∃ t, s = b :: t ∧ u = replace before [0x0A] t := by
  cases s with
  | nil => cases h
  | cons c t =>
    by_cases hc : startsWith before (c :: t) = true
    · rw [replace, replaceFrom, if_pos hc] at h
      cases h
      exact absurd rfl hb
    · rw [replace_cons (by simpa using hc)] at h
      cases h
      exact ⟨t, rfl, rfl⟩

lemma startsWith_replace {before p s : Bytes} (hp : 0x0A ∉ p)
    (h : startsWith p (replace before [0x0A] s) = true) : startsWith p s = true := by
  induction p generalizing s with
  | nil => rfl
  | cons b p ih =>
    rw [List.mem_cons, not_or] at hp
    obtain ⟨u, hu⟩ := startsWith_iff.mp h
    obtain ⟨t, rfl, ht⟩ := replace_eq_cons hu (Ne.symm hp.1)
    obtain ⟨v, rfl⟩ := startsWith_iff.mp (ih (s := t) hp.2 (startsWith_iff.mpr ⟨u, ht.symm⟩))
    exact startsWith_iff.mpr ⟨v, rfl⟩

/-- A byte that is none of a line end is left where it stands. -/
lemma canonicalText_cons {b : UInt8} {t : Bytes} (h : ¬ Starts b t) :
    canonicalText (b :: t) = b :: canonicalText t := by
  have hreturn : b ≠ 0x0D := fun hb => h (.inl hb)
  have hfirst {p u : Bytes} (hp : startsWith (0x0D :: p) (b :: u) = true) : False := by
    obtain ⟨v, hv⟩ := startsWith_iff.mp hp
    exact hreturn (List.cons.inj hv).1
  -- no pass before makes a separator of what was none
  have hseparator {c : UInt8} {u : Bytes} (hp : startsWith [0xE2, 0x80, c] (b :: u) = true) :
      b = 0xE2 ∧ startsWith [0x80, c] u = true := by
    obtain ⟨v, hv⟩ := startsWith_iff.mp hp
    obtain ⟨hb, hu⟩ := List.cons.inj hv
    exact ⟨hb, startsWith_iff.mpr ⟨v, hu⟩⟩
  unfold canonicalText
  rw [replace_cons (Bool.eq_false_iff.mpr fun hp => hfirst hp),
    replace_cons (Bool.eq_false_iff.mpr fun hp => hfirst hp),
    replace_cons (Bool.eq_false_iff.mpr fun hp => ?_), replace_cons (Bool.eq_false_iff.mpr fun hp => ?_)]
  · obtain ⟨hb, hp⟩ := hseparator hp
    have hp := startsWith_replace (by decide) (startsWith_replace (by decide)
      (startsWith_replace (by decide) hp))
    exact h (.inr ⟨hb, .inr hp⟩)
  · obtain ⟨hb, hp⟩ := hseparator hp
    have hp := startsWith_replace (by decide) (startsWith_replace (by decide) hp)
    exact h (.inr ⟨hb, .inl hp⟩)

/-- A newline is left by every pass. -/
lemma replace_newline {before after : Bytes} {t : Bytes} {b : UInt8} (hb : b ≠ 0x0A) :
    replace (b :: before) after (0x0A :: t) = 0x0A :: replace (b :: before) after t :=
  replace_cons (Bool.eq_false_iff.mpr fun hp => by
    obtain ⟨v, hv⟩ := startsWith_iff.mp hp
    exact hb (List.cons.inj hv).1.symm)

/-- The bytes of a separator are left by a pass that looks for another line end. -/
lemma replace_separator {before after : Bytes} {c : UInt8} (t : Bytes)
    (h : ∀ u, startsWith before (0xE2 :: 0x80 :: c :: u) = false)
    (h80 : ∀ u, startsWith before (0x80 :: u) = false) (hc : ∀ u, startsWith before (c :: u) = false) :
    replace before after (0xE2 :: 0x80 :: c :: t) = 0xE2 :: 0x80 :: c :: replace before after t := by
  rw [replace_cons (h t), replace_cons (h80 _), replace_cons (hc t)]

lemma canonicalText_lineBreak {p t : Bytes} (hp : p ∈ lineBreaks) (h : p = [0x0D] → ∀ v, t ≠ 0x0A :: v) :
    canonicalText (p ++ t) = 0x0A :: canonicalText t := by
  unfold canonicalText
  simp only [lineBreaks, List.mem_cons, List.not_mem_nil, or_false] at hp
  rcases hp with rfl | rfl | rfl | rfl
  · rw [replace_match (by decide), List.singleton_append, replace_newline (by decide),
      replace_newline (by decide), replace_newline (by decide)]
  · have hreturn : startsWith [0x0D, 0x0A] (0x0D :: t) = false := by
      refine Bool.eq_false_iff.mpr fun hp => ?_
      obtain ⟨v, hv⟩ := startsWith_iff.mp hp
      exact h rfl v (List.cons.inj hv).2
    have hmatch (u : Bytes) : replace [0x0D] [0x0A] (0x0D :: u) = 0x0A :: replace [0x0D] [0x0A] u :=
      replace_match (by decide) u
    rw [List.singleton_append, replace_cons hreturn, hmatch, replace_newline (by decide),
      replace_newline (by decide)]
  · have hpass : ∀ before ∈ [[0x0D, 0x0A], [(0x0D : UInt8)]], ∀ u, replace before [0x0A]
        ([0xE2, 0x80, 0xA8] ++ u) = [0xE2, 0x80, 0xA8] ++ replace before [0x0A] u := by
      intro before hbefore u
      simp only [List.mem_cons, List.not_mem_nil, or_false] at hbefore
      rcases hbefore with rfl | rfl <;> exact replace_separator u (fun _ => rfl) (fun _ => rfl) fun _ => rfl
    rw [hpass _ (by simp), hpass _ (by simp), replace_match (by decide), List.singleton_append,
      replace_newline (by decide)]
  · have hpass : ∀ before ∈ [[0x0D, 0x0A], [(0x0D : UInt8)], [0xE2, 0x80, 0xA8]], ∀ u, replace before [0x0A]
        ([0xE2, 0x80, 0xA9] ++ u) = [0xE2, 0x80, 0xA9] ++ replace before [0x0A] u := by
      intro before hbefore u
      simp only [List.mem_cons, List.not_mem_nil, or_false] at hbefore
      rcases hbefore with rfl | rfl | rfl <;>
        exact replace_separator u (fun _ => rfl) (fun _ => rfl) fun _ => rfl
    rw [hpass _ (by simp), hpass _ (by simp), hpass _ (by simp), replace_match (by decide),
      List.singleton_append]

/-- The window makes all line ends newlines. -/
theorem canonicalText_eq (s : Bytes) : canonicalText s = breakLines s := by
  induction s using breaksInduction with
  | nil => rfl
  | byte b t h ih => rw [canonicalText_cons h, breakLines_cons h, ih]
  | lineBreak p t hp h ih => rw [canonicalText_lineBreak hp h, breakLines_lineBreak hp h, ih]

/-! ### The text and its normal form -/

/-- No string has a separator in it, up to a zero byte outside of strings. -/
def separatorFree : QuoteState → Bytes → Bool
  | _, [] => true
  | .outside, b :: t => b == 0 || separatorFree (QuoteState.outside.next b) t
  | .inside, b :: t =>
    !startsWith [0xE2, 0x80, 0xA8] (b :: t) && !startsWith [0xE2, 0x80, 0xA9] (b :: t) &&
      separatorFree (QuoteState.inside.next b) t
  | .escaped, b :: t =>
    !startsWith [0xE2, 0x80, 0xA8] (b :: t) && !startsWith [0xE2, 0x80, 0xA9] (b :: t) &&
      separatorFree (QuoteState.escaped.next b) t

lemma separatorFree_outside {b : UInt8} (hzero : b ≠ 0) (t : Bytes) :
    separatorFree .outside (b :: t) = separatorFree (QuoteState.outside.next b) t := by
  rw [separatorFree, beq_false_of_ne hzero, Bool.false_or]

/-- In a string, the one line end of which no byte is a control character is a separator. -/
lemma separatorFree_string {q : QuoteState} (hq : q ≠ .outside) {b : UInt8} {t : Bytes} (hb : b ≠ 0x0D) :
    separatorFree q (b :: t) = true ↔ ¬ Starts b t ∧ separatorFree (q.next b) t = true := by
  have hseparator (c : UInt8) : startsWith [0xE2, 0x80, c] (b :: t) = true ↔
      b = 0xE2 ∧ startsWith [0x80, c] t = true := by
    rw [startsWith_iff, startsWith_iff]
    constructor
    · rintro ⟨u, hu⟩
      obtain ⟨rfl, ht⟩ := List.cons.inj hu
      exact ⟨rfl, u, ht⟩
    · rintro ⟨rfl, u, rfl⟩
      exact ⟨u, rfl⟩
  have hfree : separatorFree q (b :: t) = (!startsWith [0xE2, 0x80, 0xA8] (b :: t) &&
      !startsWith [0xE2, 0x80, 0xA9] (b :: t) && separatorFree (q.next b) t) := by
    cases q with
    | outside => exact absurd rfl hq
    | inside => rfl
    | escaped => rfl
  have hstarts : Starts b t ↔ startsWith [0xE2, 0x80, 0xA8] (b :: t) = true ∨
      startsWith [0xE2, 0x80, 0xA9] (b :: t) = true := by
    rw [Starts, hseparator, hseparator, ← and_or_left]
    exact or_iff_right hb
  rw [hfree, hstarts]
  simp [and_assoc]

/-- Nothing in front of a line end outside of strings is in a string. -/
lemma separatorFree_lineBreak {p t : Bytes} (hp : p ∈ lineBreaks) :
    separatorFree .outside (p ++ t) = separatorFree .outside t := by
  simp only [lineBreaks, List.mem_cons, List.not_mem_nil, or_false] at hp
  rcases hp with rfl | rfl | rfl | rfl <;> rfl

lemma ne_return {b : UInt8} (h : 0x1F < b) : b ≠ 0x0D := by
  rintro rfl
  revert h
  decide

/-- Without separators in strings, the window takes the line ends for newlines that the reader does. -/
lemma breakLines_rebroken {q : QuoteState} {s : Bytes} (hfree : separatorFree q s = true)
    (hclean : cleanFrom q (normalizeFrom q s) = true) :
    Rebroken True q (normalizeFrom q s) (breakLines s) := by
  induction q, s using quotesInduction with
  | nil q => cases q <;> exact .nil _
  | string q b t hq ih =>
    rw [normalizeFrom_string hq] at hclean ⊢
    have hb := visible_of_clean hq hclean
    rw [cleanFrom_string hq hb] at hclean
    obtain ⟨hstarts, hfree⟩ := (separatorFree_string hq (ne_return hb)).mp hfree
    rw [breakLines_cons hstarts]
    exact .byte (ih hfree hclean)
  | byte b t hstarts ih =>
    rw [normalizeFrom_outside hstarts] at hclean ⊢
    rw [breakLines_cons hstarts]
    by_cases hb : b = 0
    · subst hb
      exact .stop trivial
    · rw [cleanFrom_outside hb] at hclean
      rw [separatorFree_outside hb] at hfree
      exact .byte (ih hfree hclean)
  | lineBreak p t hp hend ih =>
    rw [separatorFree_lineBreak hp] at hfree
    rw [normalizeFrom_lineBreak hp hend, cleanFrom_outside (by decide)] at hclean
    rw [normalizeFrom_lineBreak hp hend, breakLines_lineBreak hp hend]
    exact .byte (ih hfree hclean)

/-- A separator in a string becomes a control character in it. -/
lemma not_clean_breakLines {q : QuoteState} {s : Bytes} (hclean : cleanFrom q (normalizeFrom q s) = true)
    (hbroken : cleanFrom q (breakLines s) = true) : separatorFree q s = true := by
  induction q, s using quotesInduction with
  | nil q => cases q <;> rfl
  | string q b t hq ih =>
    rw [normalizeFrom_string hq] at hclean
    have hb := visible_of_clean hq hclean
    rw [cleanFrom_string hq hb] at hclean
    by_cases hstarts : Starts b t
    · obtain ⟨p, u, hs, hp, hend⟩ := starts_cases hstarts
      rw [hs, breakLines_lineBreak hp hend] at hbroken
      exact absurd (visible_of_clean hq hbroken) (by decide)
    · rw [breakLines_cons hstarts, cleanFrom_string hq hb] at hbroken
      exact (separatorFree_string hq (ne_return hb)).mpr ⟨hstarts, ih hclean hbroken⟩
  | byte b t hstarts ih =>
    by_cases hb : b = 0
    · subst hb
      rfl
    · rw [normalizeFrom_outside hstarts, cleanFrom_outside hb] at hclean
      rw [breakLines_cons hstarts, cleanFrom_outside hb] at hbroken
      rw [separatorFree_outside hb]
      exact ih hclean hbroken
  | lineBreak p t hp hend ih =>
    rw [normalizeFrom_lineBreak hp hend, cleanFrom_outside (by decide)] at hclean
    rw [breakLines_lineBreak hp hend, cleanFrom_outside (by decide)] at hbroken
    rw [separatorFree_lineBreak hp]
    exact ih hclean hbroken

/-- A text without other line ends is its own normal form. -/
lemma normalizeFrom_unbroken {q : QuoteState} {s : Bytes} (h : Unbroken s) : normalizeFrom q s = s := by
  induction s generalizing q with
  | nil => cases q <;> rfl
  | cons b t ih =>
    obtain ⟨hb, ht⟩ := unbroken_cons.mp h
    by_cases hq : q = .outside
    · subst hq
      rw [normalizeFrom_outside hb, ih ht]
    · rw [normalizeFrom_string hq, ih ht]

lemma length_breakLines (s : Bytes) : (breakLines s).length ≤ s.length := by
  induction s using breaksInduction with
  | nil => exact Nat.le_refl _
  | byte b t h ih =>
    rw [breakLines_cons h, List.length_cons, List.length_cons]
    omega
  | lineBreak p t hp h ih =>
    obtain ⟨b, u, rfl, -⟩ := head_lineBreaks hp
    rw [breakLines_lineBreak hp h, List.length_cons, List.length_append, List.length_cons]
    omega

section Accepted

variable [TextLibrary] {t : Bytes} {existing rules : List StoredRule}

/-- A text that is accepted has a tree. -/
lemma parseTree_of_parseNormalized {registry : Rules.RuleRegistry}
    (h : parseNormalized registry t existing = .ok rules) : ∃ tree, parseTree false t = .ok tree := by
  obtain ⟨tree, htree, -⟩ := bind_eq_ok.mp h
  unfold parseStrictJson at htree
  split at htree
  · cases htree
  · cases htree
  · next tree' htree' => exact ⟨tree', htree'⟩

/-- **The window keeps the rules of a text exactly if no string of it has a separator in it.** -/
theorem setText_accepted_iff (c : RulesController) (h : parseRulesText t existing = .ok rules) :
    parseRulesText (c.setText t).1.text existing = .ok rules ↔ separatorFree .outside t = true := by
  rw [setText_text, canonicalText_eq]
  unfold parseRulesText at h ⊢
  split_ifs at h with hlength
  rw [if_neg (by have := length_breakLines t; omega),
    show normalizeRulesTextNewlines (breakLines t) = breakLines t from
      normalizeFrom_unbroken (unbroken_breakLines t)]
  split at h
  · cases h
  next registry _ =>
  obtain ⟨tree, htree⟩ := parseTree_of_parseNormalized h
  have hclean : cleanFrom .outside (normalizeFrom .outside t) = true := clean_of_parseTree htree
  constructor
  · intro h'
    obtain ⟨tree', htree'⟩ := parseTree_of_parseNormalized h'
    exact not_clean_breakLines hclean (clean_of_parseTree htree')
  · intro hfree
    exact parseNormalized_content h fun tree htree =>
      parseTree_rebroken (breakLines_rebroken hfree hclean) htree

end Accepted

/-! ### A separator in an option -/

/-- A rule of an unknown type with an option. -/
def optionText (value : Bytes) : Bytes :=
  str "\x7b\"rules\":[\x7b\"enabled\":false,\"id\":\"x\",\"options\":\x7b\"value\":\"" ++ value ++
    str "\"\x7d,\"type\":\"custom\"\x7d],\"schema_version\":\"ccs-trans.rules/v1\"\x7d"

def optionRule (value : Bytes) : StoredRule where
  ruleId := str "x"
  enabled := false
  type := str "custom"
  optionsJson := str "\x7b\"value\":\"" ++ value ++ str "\"\x7d"

section Separator

attribute [local instance] Editor.plainText

theorem setText_accepted_iff_plain :
    parseRulesText (({} : RulesController).setText (optionText (str "a"))).1.text [] =
      .ok [optionRule (str "a")] := by
  have haccepted : (parseRulesText (optionText (str "a")) []).toOption = some [optionRule (str "a")] := by
    decide +kernel
  exact (setText_accepted_iff {} (toOption_eq_some.mp haccepted)).mpr (by decide)

/-- A text with a separator in an option is accepted, and what the window keeps of it is not. -/
theorem setText_refuses_separator :
    let text := optionText [0xE2, 0x80, 0xA8]
    parseRulesText text [] = .ok [optionRule [0xE2, 0x80, 0xA8]] ∧
      ∀ rules, parseRulesText (({} : RulesController).setText text).1.text [] ≠ .ok rules := by
  intro text
  have haccepted : (parseRulesText (optionText [0xE2, 0x80, 0xA8]) []).toOption = some [optionRule [0xE2, 0x80, 0xA8]] := by
    decide +kernel
  have hrefused : (parseRulesText
      (({} : RulesController).setText (optionText [0xE2, 0x80, 0xA8])).1.text []).toOption = none := by
    decide +kernel
  refine ⟨toOption_eq_some.mp haccepted, fun rules h => ?_⟩
  rw [toOption_eq_some.mpr h] at hrefused
  cases hrefused

end Separator

end CcsTrans.Window
