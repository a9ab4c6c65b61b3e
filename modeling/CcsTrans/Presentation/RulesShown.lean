import CcsTrans.Editor.RulesRoundTrip
import CcsTrans.Json.Layout
import CcsTrans.Presentation.Effects

/-!
Which rules are shown again.

The text of rules that was read is as long as it was given; that which is shown is laid out with
two spaces a level. The limit is the same for both, so that rules are shown exactly if their text
is no longer than the limit when it is laid out.
-/

namespace CcsTrans.Presentation

open CcsTrans.Text CcsTrans.Json CcsTrans.Config CcsTrans.Rules CcsTrans.Storage CcsTrans.Fallible
open CcsTrans.Editor (ConfigurationEditor CanonicalOptions canonicalOptions_canonical findProfile)

/-! ### The text that is shown -/

/-- An item of a text of rules as it is shown: its four members, of which the options are in the
order of their names. -/
def shownItem : Value → Value
  | .obj ms => .obj [(str "id", (find (str "id") ms).getD .null),
      (str "enabled", (find (str "enabled") ms).getD .null),
      (str "type", (find (str "type") ms).getD .null),
      (str "options", toDom ((find (str "options") ms).getD .null))]
  | v => v

/-- The document that is shown for that of a text of rules. -/
def shownText : Value → Value
  | .obj ms =>
    match find (str "rules") ms with
    | some (.arr items) => rulesTextJson (items.map shownItem)
    | _ => rulesTextJson []
  | _ => rulesTextJson []

lemma validUtf8_of_stableId {s : Bytes} {lower dot : Bool} (h : validStableId s lower dot = true) :
    validUtf8 s = true := by
  have hall : ∀ n < 256, (isAlnum n.toUInt8 || isLower n.toUInt8 || isDigit n.toUInt8 ||
      n.toUInt8 == ch '-' || n.toUInt8 == ch '_' || n.toUInt8 == ch '.') = true →
      n.toUInt8 ≤ 0x7F := by decide +kernel
  refine validUtf8_of_ascii fun b hb => ?_
  rw [validStableId, Bool.and_eq_true, List.all_eq_true] at h
  have hbyte := h.2 b hb
  have hb' := hall b.toNat b.toNat_lt
  simp only [Nat.toUInt8_eq, UInt8.ofNat_toNat] at hb'
  refine hb' ?_
  split_ifs at hbyte
  · simp only [Bool.or_eq_true] at hbyte ⊢
    rcases hbyte with ((hb | hb) | hb) | hb <;> simp only [hb, true_or, or_true]
  · simp only [Bool.or_eq_true, Bool.and_eq_true] at hbyte ⊢
    rcases hbyte with ((hb | hb) | hb) | ⟨-, hb⟩ <;> simp only [hb, true_or, or_true]

section Items

variable [TextLibrary] {registry : RuleRegistry} {content : Bytes} {existing : List StoredRule}
  {seen : List Bytes} {item : Value} {r : StoredRule}

omit [TextLibrary] in
lemma exactKeys_ok {context : Bytes} {expected : List Bytes} {v : Value} {ms : List (Bytes × Value)}
    (h : exactKeys context expected v = .ok ms) : v = .obj ms := by
  unfold exactKeys at h
  split at h
  · split at h
    · cases h
    · split at h
      · cases h
      · cases h
        rfl
  · cases h

/-- The members of an item that is a rule. -/
lemma parseTextRule_members (h : parseTextRule registry content existing seen item = .ok r) :
    ∃ ms options, item = .obj ms ∧ find (str "id") ms = some (.str r.ruleId) ∧
      find (str "enabled") ms = some (.bool r.enabled) ∧ find (str "type") ms = some (.str r.type) ∧
      find (str "options") ms = some (.obj options) ∧
      canonicalOptions (.obj options) = some r.optionsJson := by
  unfold parseTextRule at h
  split at h
  · cases h
  next ms hms =>
  split at h
  · next id enabled type options hid henabled htype hoptions =>
    have hrule : ∃ text, canonicalOptions (.obj options) = some text ∧ r.ruleId = id ∧
        r.enabled = enabled ∧ r.type = type ∧ r.optionsJson = text := by
      dsimp only at h
      split at h
      · cases h
      split at h
      · cases h
      split at h
      · cases h
      split at h
      · obtain ⟨_, -, h⟩ := bind_eq_ok.mp h
        split at h
        · cases h
        · next text htext =>
          cases h
          exact ⟨text, htext, rfl, rfl, rfl, rfl⟩
      · split at h
        · cases h
        · next text htext =>
          cases h
          exact ⟨text, htext, rfl, rfl, rfl, rfl⟩
    obtain ⟨text, htext, rfl, rfl, rfl, rfl⟩ := hrule
    exact ⟨ms, options, exactKeys_ok hms, hid, henabled, htype, hoptions, htext⟩
  · cases h

/-- The options of a rule are written as those of the text, in their order. -/
lemma parse_canonicalOptions {options : List (Bytes × Value)} {text : Bytes}
    (h : canonicalOptions (.obj options) = some text) : ∃ stored,
      parse text = .ok (.obj stored) ∧ Writable (.obj stored) ∧
        canon (toDom (.obj options)) = .obj stored := by
  obtain ⟨w, hw, hrest⟩ := Option.bind_eq_some_iff.mp h
  obtain ⟨v, hv, hdump⟩ := Option.bind_eq_some_iff.mp hrest
  have hparse := toOption_eq_some.mp hv
  have htree := parseTree_dumpAt (c := false) hw ends_nil rfl
  rw [List.append_nil] at htree
  have hfirst : v = canon (toDom (.obj options)) := by
    rw [parse, htree] at hparse
    rw [canon_toDom]
    exact (Except.ok.inj hparse).symm
  have hsecond := parse_dump (parse_writable hparse) hdump
  rw [hfirst, canon_canon] at hsecond
  have hobject : canon (toDom (.obj options)) =
      .obj (canonMembers (toDomMembers [] options)) := rfl
  rw [hobject] at hsecond ⊢
  exact ⟨_, hsecond, parse_writable hsecond, rfl⟩

/-- What is written of a rule that was read is as long as what is shown of its item. -/
lemma formatRule_of_parsed (h : parseTextRule registry content existing seen item = .ok r) :
    ∃ item', formatRule seen r = .ok item' ∧
      (∀ column, laidOut column item' = laidOut column (shownItem item)) ∧
      ∀ column, ∃ u, dumpAt (some 2) column item' = some u := by
  obtain ⟨haccepted, hseen⟩ := parseTextRule_ok h
  obtain ⟨ms, options, rfl, hid, henabled, htype, hoptions, htext⟩ := parseTextRule_members h
  obtain ⟨stored, hparse, hwritable, hstored⟩ := parse_canonicalOptions htext
  have hunseen : seen.contains r.ruleId = false := by simpa using hseen
  refine ⟨.obj (ruleItem r stored), ?_, fun column => ?_, fun column => ?_⟩
  · unfold formatRule
    simp only [haccepted.id, haccepted.type, hunseen, hparse, Bool.not_true, Bool.or_self,
      Bool.false_eq_true, if_false]
    rfl
  · have hsame (n : ℕ) : laidOut n (.obj stored) = laidOut n (toDom (.obj options)) := by
      rw [← hstored] at hwritable ⊢
      exact laidOut_canon hwritable n
    simp only [shownItem, hid, henabled, htype, hoptions, Option.getD_some, ruleItem, laidOut,
      laidOutMembers, ← hsame]
    rfl
  · have hvalidId : validUtf8 r.ruleId = true := validUtf8_of_stableId haccepted.id
    have hvalidType : validUtf8 r.type = true :=
      validUtf8_of_stableId (Bool.and_eq_true_iff.mp haccepted.type).1
    refine dumpAt_obj ?_ column
    simp only [ruleItem, List.forall_mem_cons]
    refine ⟨⟨by decide +kernel, dumpAt_writable (v := .str r.ruleId) hvalidId _⟩,
      ⟨by decide +kernel, dumpAt_writable (v := .bool r.enabled) trivial _⟩,
      ⟨by decide +kernel, dumpAt_writable (v := .str r.type) hvalidType _⟩,
      ⟨by decide +kernel, dumpAt_writable hwritable _⟩, ?_⟩
    exact fun m hm => absurd hm List.not_mem_nil

/-- What is written of the rules is as long as what is shown of the items. -/
lemma formatRules_of_parsed {items : List Value} {rules : List StoredRule}
    (h : parseTextRules registry content existing seen items = .ok rules) :
    ∃ items', formatRules seen rules = .ok items' ∧ items'.isEmpty = items.isEmpty ∧
      (∀ column, laidOutItems column items' = laidOutItems column (items.map shownItem)) ∧
      ∀ x ∈ items', ∀ column, ∃ u, dumpAt (some 2) column x = some u := by
  induction items generalizing seen rules with
  | nil =>
    cases h
    exact ⟨[], rfl, rfl, fun _ => rfl, fun x hx => absurd hx List.not_mem_nil⟩
  | cons item items ih =>
    obtain ⟨r, hr, h⟩ := bind_eq_ok.mp h
    obtain ⟨rest, hrest, h⟩ := bind_eq_ok.mp h
    cases h
    obtain ⟨item', hitem, hlength, hdump⟩ := formatRule_of_parsed hr
    obtain ⟨items', hitems, -, hlengths, hdumps⟩ := ih hrest
    refine ⟨item' :: items', ?_, rfl, fun column => ?_, List.forall_mem_cons.mpr ⟨hdump, hdumps⟩⟩
    · rw [formatRules, hitem, ok_bind, hitems]
      rfl
    · rw [List.map_cons, laidOutItems, laidOutItems, hlength, hlengths]

end Items

/-! ### Texts of one limit -/

section Texts

variable [TextLibrary] {t : Bytes} {existing rules : List StoredRule}

/-- The rules of a text are shown: with its line ended, what is shown of it is no longer than a
text may be. -/
def IsShown (t : Bytes) : Prop :=
  ∀ tree, parseTree false (normalizeRulesTextNewlines t) = .ok tree →
    laidOut 0 (shownText tree) + 1 ≤ kMaxStoredProfileRulesTextBytes

/-- The items of a text that is accepted. -/
lemma parseRulesText_items (h : parseRulesText t existing = .ok rules) : ∃ ms items registry,
    parseTree false (normalizeRulesTextNewlines t) = .ok (.obj ms) ∧
      find (str "rules") ms = some (.arr items) ∧
      parseTextRules registry (normalizeRulesTextNewlines t) existing [] items = .ok rules := by
  unfold parseRulesText at h
  split_ifs at h
  split at h
  · cases h
  next registry _ =>
  obtain ⟨tree, hstrict, h⟩ := bind_eq_ok.mp h
  have htree : parseTree false (normalizeRulesTextNewlines t) = .ok tree := by
    unfold parseStrictJson at hstrict
    split at hstrict
    · cases hstrict
    · cases hstrict
    · next tree' htree' =>
      split at hstrict
      · cases hstrict
      · cases hstrict
        exact htree'
  split at h
  · cases h
  next ms hms =>
  obtain rfl := exactKeys_ok hms
  unfold parseTextRoot at h
  dsimp only at h
  split at h
  · split_ifs at h
    split at h
    · next items hitems =>
      split_ifs at h
      exact ⟨ms, items, registry, htree, hitems, h⟩
    · cases h
  · cases h

/-- A text that is accepted is shown if its layout is short enough. -/
theorem formatRulesText_parsed_iff (h : parseRulesText t existing = .ok rules) :
    (∃ u, formatRulesText rules = .ok u) ↔ IsShown t := by
  obtain ⟨ms, items, registry, htree, hitems, hparse⟩ := parseRulesText_items h
  obtain ⟨items', hformat, hempty, hlengths, hdumps⟩ := formatRules_of_parsed hparse
  have hlength : laidOut 0 (rulesTextJson items') = laidOut 0 (shownText (.obj ms)) := by
    simp only [shownText, hitems, rulesTextJson, laidOut, laidOutMembers, hlengths, hempty,
      List.isEmpty_map, List.isEmpty_cons]
  have hroot : ∃ text, dumpPretty (rulesTextJson items') = some text := by
    refine dumpAt_obj ?_ 0
    simp only [List.forall_mem_cons]
    refine ⟨⟨by decide +kernel, dumpAt_writable (v := .str kRulesTextSchema)
        (by show validUtf8 _ = true; decide +kernel) _⟩, ⟨by decide +kernel, dumpAt_arr hdumps⟩, ?_⟩
    exact fun m hm => absurd hm List.not_mem_nil
  obtain ⟨text, htext⟩ := hroot
  have hshown : IsShown t ↔ (text ++ [ch '\n']).length ≤ kMaxStoredProfileRulesTextBytes := by
    rw [List.length_append, length_dumpAt_pretty htext, hlength, List.length_singleton]
    constructor
    · intro hshown
      exact hshown _ htree
    · intro hle tree htree'
      rw [htree] at htree'
      cases htree'
      exact hle
  rw [hshown]
  unfold formatRulesText
  rw [hformat, ok_bind]
  dsimp only
  rw [htext]
  dsimp only
  constructor
  · rintro ⟨u, hu⟩
    split_ifs at hu with hlong
    · cases hu
    · exact Nat.le_of_not_lt hlong
  · intro hle
    rw [if_neg (Nat.not_lt.mpr hle)]
    exact ⟨_, rfl⟩

omit [TextLibrary] in
/-- Only an editor with a draft takes a text. -/
lemma active_of_replaceRulesText [TextLibrary] {key : ℤ} {e e' : ConfigurationEditor}
    (h : Editor.replaceRulesText key t e = .ok () e') : e.active = true := by
  obtain ⟨_, s, hclear, h⟩ := InPlace.bind_eq_ok.mp h
  cases hclear
  obtain ⟨_, s, hrequire, -⟩ := InPlace.bind_eq_ok.mp h
  unfold Editor.requireActive at hrequire
  rw [InPlace.get_bind] at hrequire
  split_ifs at hrequire with hactive
  · exact hactive
  · cases hrequire

/-- **Rules that were read are shown exactly if their layout is no longer than a text may be**, and
so are those of a text that the editor took. -/
theorem accepted_rules_shown_iff (h : parseRulesText t existing = .ok rules) :
    ((∃ u, formatRulesText rules = .ok u) ↔ IsShown t) ∧
    ∀ key e e', Editor.replaceRulesText key t e = .ok () e' →
      ((∃ u, formattedRules e' key = .ok u) ↔ IsShown t) := by
  refine ⟨formatRulesText_parsed_iff h, fun key e e' htaken => ?_⟩
  obtain ⟨p, parsed, hfind, hparsed, hdraft⟩ := Editor.replaceRulesText_ok htaken
  have hfind' : findProfile e'.draft.profiles key = some { p with rules := keyedRules e parsed } := by
    rw [hdraft]
    exact findProfile_profilesWithText hfind parsed
  have hactive := active_of_quiet (quiet_replaceRulesText key t) htaken (active_of_replaceRulesText htaken)
  rw [formattedRules_eq hactive hfind', ← formatRulesText_parsed_iff hparsed]
  cases formatRulesText parsed with
  | error d => exact ⟨nofun, nofun⟩
  | ok u => exact ⟨fun _ => ⟨u, rfl⟩, fun _ => ⟨u, rfl⟩⟩

end Texts

section Deep

attribute [local instance] Editor.plainText

theorem accepted_rules_shown_iff_short : IsShown (deepText 0) := by
  have hformats : (formatRulesText [deepRule 0]).toOption.isSome = true := by decide +kernel
  obtain ⟨u, hu⟩ := Option.isSome_iff_exists.mp hformats
  exact (accepted_rules_shown_iff (parseRulesText_deepText (by decide))).1.mp
    ⟨u, toOption_eq_some.mp hu⟩

/-- The rules of a deep text are read, and they are not shown. -/
theorem deepText_not_shown : (deepText 1500).length ≤ kMaxStoredProfileRulesTextBytes ∧
    parseRulesText (deepText 1500) [] = .ok [deepRule 1500] ∧
    ∃ e, formatRulesText [deepRule 1500] = .error e := by
  refine ⟨?_, parseRulesText_deepText (by decide), formatRulesText_deepRule le_rfl⟩
  have hhead : deepTextHead.length ≤ 100 := by decide +kernel
  have htail : deepTextTail.length ≤ 100 := by decide +kernel
  rw [deepText, List.length_append, List.length_append, length_brackets, kMaxStoredProfileRulesTextBytes]
  omega

end Deep

end CcsTrans.Presentation
