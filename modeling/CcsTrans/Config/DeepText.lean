import CcsTrans.Config.RulesText

/-!
Rules that can be read but not formatted.

A text of rules may be as long as what is written again, but it need not be indented. An
option that is a deep nest of arrays takes two bytes a level on one line, and two lines a
level when it is written for a reader, each longer than the one around it.
-/

namespace CcsTrans.Config

open CcsTrans.Text CcsTrans.Json CcsTrans.Rules CcsTrans.Storage CcsTrans.Fallible

/-! ### Line ends -/

/-- A text without carriage returns, and without the first byte of the other line ends, is
not changed. -/
lemma normalizeFrom_plain {s : Bytes} (h : ∀ b ∈ s, b ≠ 0x0D ∧ b ≠ 0xE2) (q : QuoteState) :
    normalizeFrom q s = s := by
  induction s generalizing q with
  | nil => cases q <;> rfl
  | cons b t ih =>
    have ht : ∀ c ∈ t, c ≠ 0x0D ∧ c ≠ 0xE2 := fun c hc => h c (List.mem_cons_of_mem _ hc)
    obtain ⟨hcr, hseparator⟩ := h b List.mem_cons_self
    cases q with
    | escaped => rw [normalizeFrom, ih ht]
    | inside => rw [normalizeFrom, ih ht]
    | outside =>
      rw [normalizeFrom, ih ht]
      all_goals simp_all

/-! ### A deep nest -/

/-- An empty array in arrays. -/
def nested : ℕ → Value
  | 0 => .arr []
  | n + 1 => .arr [nested n]

def brackets : ℕ → Bytes
  | 0 => [ch '[', ch ']']
  | n + 1 => ch '[' :: (brackets n ++ [ch ']'])

lemma length_brackets (n : ℕ) : (brackets n).length = 2 * n + 2 := by
  induction n with
  | zero => rfl
  | succ n ih =>
    rw [brackets, List.length_cons, List.length_append, ih, List.length_singleton]
    omega

lemma mem_brackets {n : ℕ} {b : UInt8} (h : b ∈ brackets n) : b = ch '[' ∨ b = ch ']' := by
  induction n with
  | zero => simpa [brackets] using h
  | succ n ih =>
    simp only [brackets, List.mem_cons, List.mem_append, List.not_mem_nil, or_false] at h
    rcases h with h | h | h
    · exact .inl h
    · exact ih h
    · exact .inr h

lemma canon_nested (n : ℕ) : canon (nested n) = nested n := by
  induction n with
  | zero => rfl
  | succ n ih => simp only [nested, canon, canonItems, ih]

lemma writable_nested (n : ℕ) : Writable (nested n) := by
  induction n with
  | zero => simp [nested]
  | succ n ih => simpa [nested] using ih

section Text

variable [TextLibrary]

lemma dumpAt_nested (n cur : ℕ) : dumpAt none cur (nested n) = some (brackets n) := by
  induction n generalizing cur with
  | zero => rfl
  | succ n ih =>
    simp only [nested, dumpAt, ih, dumpItems, indentation, Option.bind_eq_bind, Option.bind_some,
      Option.isSome_none, Bool.false_eq_true, if_false, List.nil_append, List.append_nil]
    rfl

/-- Written for a reader, a nest takes as many bytes as the square of its depth. -/
lemma length_pretty_nested {n cur : ℕ} {u : Bytes} (h : dumpAt (some 2) cur (nested n) = some u) :
    2 * n * n + 2 * n * cur ≤ u.length := by
  induction n generalizing cur u with
  | zero => simp
  | succ n ih =>
    simp only [nested, dumpAt, dumpItems, Option.bind_eq_bind, Option.bind_eq_some_iff] at h
    obtain ⟨first, hfirst, rest, -, h⟩ := h
    cases h
    have hinner := ih hfirst
    simp only [indentation, Option.isSome_some, if_true, Option.getD_some, List.length_cons,
      List.length_append, List.length_replicate, List.length_nil] at hinner ⊢
    nlinarith

/-! ### Parts of a text -/

section Parts

variable {step : Option ℕ} {cur : ℕ}

lemma dumpItems_part {xs : List Value} {x : Value} {u : Bytes} (h : dumpItems step cur xs = some u)
    (hx : x ∈ xs) : ∃ w, dumpAt step cur x = some w ∧ w.length ≤ u.length := by
  induction xs generalizing u with
  | nil => cases hx
  | cons y xs ih =>
    simp only [dumpItems, Option.bind_eq_bind, Option.bind_eq_some_iff] at h
    obtain ⟨first, hfirst, rest, hrest, h⟩ := h
    cases h
    simp only [List.length_cons, List.length_append]
    rcases List.mem_cons.mp hx with rfl | hx
    · exact ⟨first, hfirst, by omega⟩
    · obtain ⟨w, hw, hlength⟩ := ih hrest hx
      exact ⟨w, hw, by omega⟩

lemma dumpMembers_part {ms : List (Bytes × Value)} {m : Bytes × Value} {u : Bytes}
    (h : dumpMembers step cur ms = some u) (hm : m ∈ ms) :
    ∃ w, dumpAt step cur m.2 = some w ∧ w.length ≤ u.length := by
  induction ms generalizing u with
  | nil => cases hm
  | cons p ms ih =>
    obtain ⟨k, v⟩ := p
    simp only [dumpMembers, Option.bind_eq_bind, Option.bind_eq_some_iff] at h
    obtain ⟨name, -, first, hfirst, rest, hrest, h⟩ := h
    cases h
    simp only [List.length_cons, List.length_append]
    rcases List.mem_cons.mp hm with rfl | hm
    · exact ⟨first, hfirst, by omega⟩
    · obtain ⟨w, hw, hlength⟩ := ih hrest hm
      exact ⟨w, hw, by omega⟩

/-- The text of an array is no shorter than that of an element. -/
lemma dumpAt_arr_part {xs : List Value} {x : Value} {u : Bytes}
    (h : dumpAt step cur (.arr xs) = some u) (hx : x ∈ xs) :
    ∃ w, dumpAt step (cur + step.getD 0) x = some w ∧ w.length ≤ u.length := by
  cases xs with
  | nil => cases hx
  | cons y xs =>
    simp only [dumpAt, Option.bind_eq_bind, Option.bind_eq_some_iff] at h
    obtain ⟨first, hfirst, rest, hrest, h⟩ := h
    cases h
    simp only [List.length_cons, List.length_append]
    rcases List.mem_cons.mp hx with rfl | hx
    · exact ⟨first, hfirst, by omega⟩
    · obtain ⟨w, hw, hlength⟩ := dumpItems_part hrest hx
      exact ⟨w, hw, by omega⟩

/-- The text of an object is no shorter than that of a member. -/
lemma dumpAt_obj_part {ms : List (Bytes × Value)} {m : Bytes × Value} {u : Bytes}
    (h : dumpAt step cur (.obj ms) = some u) (hm : m ∈ ms) :
    ∃ w, dumpAt step (cur + step.getD 0) m.2 = some w ∧ w.length ≤ u.length := by
  cases ms with
  | nil => cases hm
  | cons p ms =>
    obtain ⟨k, v⟩ := p
    simp only [dumpAt, Option.bind_eq_bind, Option.bind_eq_some_iff] at h
    obtain ⟨name, -, first, hfirst, rest, hrest, h⟩ := h
    cases h
    simp only [List.length_cons, List.length_append]
    rcases List.mem_cons.mp hm with rfl | hm
    · exact ⟨first, hfirst, by omega⟩
    · obtain ⟨w, hw, hlength⟩ := dumpMembers_part hrest hm
      exact ⟨w, hw, by omega⟩

end Parts

/-! ### The text -/

/-- The options of the rule. -/
def deepOptions (n : ℕ) : Value := .obj [(str "value", nested n)]

/-- The members of the rule, which is of a type that the program does not know. -/
def deepMembers (n : ℕ) : List (Bytes × Value) := [(str "enabled", .bool false),
  (str "id", .str (str "x")), (str "options", deepOptions n), (str "type", .str (str "custom"))]

def deepTree (n : ℕ) : Value := .obj [(str "rules", .arr [.obj (deepMembers n)]),
  (str "schema_version", .str kRulesTextSchema)]

def deepTextHead : Bytes :=
  str "\x7b\"rules\":[\x7b\"enabled\":false,\"id\":\"x\",\"options\":\x7b\"value\":"

def deepTextTail : Bytes :=
  str "\x7d,\"type\":\"custom\"\x7d],\"schema_version\":\"ccs-trans.rules/v1\"\x7d"

/-- The text of one rule. -/
def deepText (n : ℕ) : Bytes := deepTextHead ++ (brackets n ++ deepTextTail)

lemma dump_deepTree (n : ℕ) : dump (deepTree n) = some (deepText n) := by
  have hrules : dumpString (str "rules") = some (str "\"rules\"") := by decide
  have henabled : dumpString (str "enabled") = some (str "\"enabled\"") := by decide
  have hid : dumpString (str "id") = some (str "\"id\"") := by decide
  have hx : dumpString (str "x") = some (str "\"x\"") := by decide
  have hoptions : dumpString (str "options") = some (str "\"options\"") := by decide
  have hvalue : dumpString (str "value") = some (str "\"value\"") := by decide
  have htype : dumpString (str "type") = some (str "\"type\"") := by decide
  have hcustom : dumpString (str "custom") = some (str "\"custom\"") := by decide
  have hversion : dumpString (str "schema_version") = some (str "\"schema_version\"") := by
    decide
  have hschema : dumpString kRulesTextSchema = some (str "\"ccs-trans.rules/v1\"") := by
    decide
  simp only [dump, deepTree, deepMembers, deepOptions, dumpAt, dumpItems, dumpMembers, dumpAt_nested, hrules,
    henabled, hid, hx, hoptions, hvalue, htype, hcustom, hversion, hschema, indentation, colon,
    Option.bind_eq_bind, Option.bind_some, Option.pure_def, Option.isSome_none, Bool.false_eq_true,
    if_false, List.nil_append, List.append_nil, List.append_assoc, List.cons_append]
  rfl

omit [TextLibrary] in
lemma writable_deepOptions (n : ℕ) : Writable (deepOptions n) :=
  proper_of_names [str "value"] rfl (by simp) (by decide) (by simpa using writable_nested n)

omit [TextLibrary] in
lemma canon_deepOptions (n : ℕ) : canon (deepOptions n) = deepOptions n := by
  simp only [deepOptions, canon, canonMembers, canon_nested]

omit [TextLibrary] in
lemma document_deepTree (n : ℕ) : Document (deepTree n) := by
  have hrule : Document (.obj (deepMembers n)) := by
    refine document_obj [str "enabled", str "id", str "options", str "type"] rfl
      (by decide) ?_
    simpa [Proper, deepMembers] using (writable_deepOptions n).mono fun _ _ => trivial
  refine document_obj [str "rules", str "schema_version"] rfl (by decide) ?_
  rw [List.forall_mem_cons]
  exact ⟨proper_arr.mpr (by simpa using hrule), by simp [Proper]⟩

omit [TextLibrary] in
lemma canon_deepTree (n : ℕ) : canon (deepTree n) = deepTree n := by
  simp only [deepTree, deepMembers, canon, canonItems, canonMembers, canon_deepOptions]

/-- The options of the rule as they are stored. -/
def deepOptionsText (n : ℕ) : Bytes := str "\x7b\"value\":" ++ (brackets n ++ str "\x7d")

lemma dump_deepOptions (n : ℕ) : dump (deepOptions n) = some (deepOptionsText n) := by
  have hvalue : dumpString (str "value") = some (str "\"value\"") := by decide
  simp only [dump, deepOptions, dumpAt, dumpMembers, dumpAt_nested, hvalue, indentation, colon,
    Option.bind_eq_bind, Option.bind_some, Option.pure_def, Option.isSome_none, Bool.false_eq_true,
    if_false, List.nil_append, List.append_assoc, List.cons_append]
  rfl

lemma parse_deepOptionsText (n : ℕ) : parse (deepOptionsText n) = .ok (deepOptions n) := by
  rw [parse_dump (writable_deepOptions n) (dump_deepOptions n), canon_deepOptions]

lemma canonicalOptions_deepOptions (n : ℕ) :
    canonicalOptions (deepOptions n) = some (deepOptionsText n) := by
  simp only [canonicalOptions, dump_deepOptions, parse_deepOptionsText, Except.toOption,
    Option.bind_eq_bind, Option.bind_some]

omit [TextLibrary] in
lemma normalize_deepText (n : ℕ) : normalizeRulesTextNewlines (deepText n) = deepText n := by
  refine normalizeFrom_plain (fun b hb => ?_) _
  unfold deepText at hb
  rw [List.mem_append, List.mem_append] at hb
  have hends : (deepTextHead ++ deepTextTail).all (fun c => c != 0x0D && c != 0xE2) = true := by
    decide
  have hplain : ∀ c ∈ deepTextHead ++ deepTextTail, c ≠ 0x0D ∧ c ≠ 0xE2 := by
    simpa only [List.all_eq_true, Bool.and_eq_true, bne_iff_ne] using hends
  rcases hb with hb | hb | hb
  · exact hplain b (List.mem_append_left _ hb)
  · rcases mem_brackets hb with rfl | rfl <;> decide
  · exact hplain b (List.mem_append_right _ hb)

/-- The rule of the text. -/
def deepRule (n : ℕ) : StoredRule where
  ruleId := str "x"
  enabled := false
  type := str "custom"
  optionsJson := deepOptionsText n

lemma parseTextRule_deep (n : ℕ) {registry : RuleRegistry} (content : Bytes)
    (hregistry : registry.find (str "custom") = none) :
    parseTextRule registry content [] [] (.obj (deepMembers n)) = .ok (deepRule n) := by
  have hkeys : exactKeys (str "rules text rule") [str "enabled", str "id", str "options",
      str "type"] (.obj (deepMembers n)) = .ok (deepMembers n) := rfl
  have hid : find (str "id") (deepMembers n) = some (.str (str "x")) := rfl
  have henabled : find (str "enabled") (deepMembers n) = some (.bool false) := rfl
  have htype : find (str "type") (deepMembers n) = some (.str (str "custom")) := rfl
  have hoptions : find (str "options") (deepMembers n) =
      some (.obj [(str "value", nested n)]) := rfl
  have hcanonical : canonicalOptions (.obj [(str "value", nested n)]) =
      some (deepOptionsText n) := canonicalOptions_deepOptions n
  have hvalid : isValidRuleId (str "x") = true ∧ isValidRuleType (str "custom") = true := by
    decide
  unfold parseTextRule
  simp only [hkeys, hid, henabled, htype, hoptions, hvalid.1, hvalid.2, hregistry, hcanonical,
    Bool.not_true, Bool.false_eq_true, if_false, List.contains_nil]
  rfl

lemma parseNormalized_deepText (n : ℕ) {registry : RuleRegistry}
    (hregistry : registry.find (str "custom") = none) :
    parseNormalized registry (deepText n) [] = .ok [deepRule n] := by
  have htree : parseTree false (deepText n) = .ok (deepTree n) := by
    have h := parseTree_dumpAt (c := false) (dump_deepTree n) ends_nil rfl
    rwa [List.append_nil, canon_deepTree] at h
  have hstrict : parseStrictJson (deepText n) = .ok (deepTree n) := by
    simp only [parseStrictJson, htree, duplicateKey_proper (document_deepTree n)]
  have hroot : exactKeys (str "rules text root") [str "rules", str "schema_version"]
      (deepTree n) = .ok [(str "rules", .arr [.obj (deepMembers n)]),
        (str "schema_version", .str kRulesTextSchema)] := rfl
  unfold parseNormalized
  rw [hstrict, ok_bind, hroot]
  show parseTextRules registry (deepText n) [] [] [.obj (deepMembers n)] = _
  rw [parseTextRules, parseTextRule_deep n _ hregistry]
  rfl

lemma builtinRuleRegistry_custom : ∃ registry, builtinRuleRegistry = .ok registry ∧
    registry.find (str "custom") = none := by
  have h : (builtinRuleRegistry.toOption.map fun r => (r.find (str "custom")).isNone) =
      some true := rfl
  obtain ⟨registry, hregistry, hfind⟩ := Option.map_eq_some_iff.mp h
  exact ⟨registry, toOption_eq_some.mp hregistry, Option.isNone_iff_eq_none.mp hfind⟩

/-- **The text is read.** -/
theorem parseRulesText_deepText {n : ℕ} (h : n ≤ 2000000) :
    parseRulesText (deepText n) [] = .ok [deepRule n] := by
  have hlength : (deepText n).length ≤ kMaxStoredProfileRulesTextBytes := by
    have hhead : deepTextHead.length ≤ 100 := by decide
    have htail : deepTextTail.length ≤ 100 := by decide
    rw [deepText, List.length_append, List.length_append, length_brackets,
      kMaxStoredProfileRulesTextBytes]
    omega
  obtain ⟨registry, hregistry, hfind⟩ := builtinRuleRegistry_custom
  unfold parseRulesText
  rw [if_neg (by omega), hregistry]
  dsimp only
  rw [normalize_deepText, parseNormalized_deepText n hfind]

/-- **Its rules cannot be formatted.** -/
theorem formatRulesText_deepRule {n : ℕ} (h : 1500 ≤ n) :
    ∃ e, formatRulesText [deepRule n] = .error e := by
  have hvalid : isValidRuleId (str "x") = true ∧ isValidRuleType (str "custom") = true := by
    decide
  have hrules : formatRules [] [deepRule n] = .ok [.obj [(str "id", .str (str "x")),
      (str "enabled", .bool false), (str "type", .str (str "custom")),
      (str "options", .obj [(str "value", nested n)])]] := by
    have hparse : parse (deepRule n).optionsJson = .ok (.obj [(str "value", nested n)]) :=
      parse_deepOptionsText n
    simp only [formatRules, formatRule, hparse]
    simp only [deepRule, hvalid.1, hvalid.2]
    rfl
  unfold formatRulesText
  rw [hrules, ok_bind]
  dsimp only
  split
  · exact ⟨_, rfl⟩
  next text htext =>
  rw [if_pos]
  · exact ⟨_, rfl⟩
  · obtain ⟨_, hrulesText, hroot⟩ := dumpAt_obj_part htext (.tail _ (.head _))
    obtain ⟨_, hitem, harray⟩ := dumpAt_arr_part hrulesText (.head _)
    obtain ⟨_, hoptions, hrule⟩ :=
      dumpAt_obj_part hitem (.tail _ (.tail _ (.tail _ (.head _))))
    obtain ⟨_, hnested, hvalue⟩ := dumpAt_obj_part hoptions (.head _)
    have hlong := length_pretty_nested hnested
    have hsquare : 2 * 1500 * 1500 ≤ 2 * n * n := by gcongr
    rw [List.length_append, kMaxStoredProfileRulesTextBytes]
    omega

end Text

end CcsTrans.Config
