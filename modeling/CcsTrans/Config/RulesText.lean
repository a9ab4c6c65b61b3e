import CcsTrans.Config.Snapshot
import CcsTrans.Rules.Rule

/-!
The rules of a profile as a text that can be edited.

The text is one JSON object with a schema and the rules in their order. A rule of a known
type must have the options of that type; one of an unknown type may have any. Rules keep
the keys of the rules of their names; the others have none yet.
-/

namespace CcsTrans.Config

open CcsTrans.Text CcsTrans.Json CcsTrans.Rules CcsTrans.Storage CcsTrans.Fallible

/-- A JSON library that also says where a text stops being JSON. -/
class TextLibrary extends Library where
  /-- The position, counted from one; zero when it does not say. -/
  errorByte : Bytes → ℕ

structure RulesTextError where
  message : Bytes := []
  line : ℕ := 1
  column : ℕ := 1
  ruleId : Bytes := []
  ruleType : Bytes := []
  option : Bytes := []

def kRulesTextSchema : Bytes := str "ccs-trans.rules/v1"

/-! ### Places in a text -/

/-- `line_column`. -/
def lineColumn (content : Bytes) (offset : ℕ) : ℕ × ℕ :=
  (content.take offset).foldl
    (fun (line, column) b => if b = ch '\n' then (line + 1, 1) else (line, column + 1)) (1, 1)

/-- `locate_value`. -/
def locateValue (content value : Bytes) : ℕ :=
  match cut value content with
  | some (before, _) => before.length
  | none => 0

/-- `locate_value` of a quoted name. -/
def locateName (content name : Bytes) : ℕ :=
  locateValue content (ch '"' :: (name ++ [ch '"']))

/-- `set_error`. -/
def textError (content message : Bytes) (offset : ℕ := 0) (ruleId : Bytes := [])
    (ruleType : Bytes := []) (option : Bytes := []) : RulesTextError :=
  let (line, column) := lineColumn content offset
  ⟨message, line, column, ruleId, ruleType, option⟩

/-! ### Line ends -/

/-- Where a reader of the text stands: outside of strings, in one, or behind a backslash in
one. -/
inductive QuoteState where
  | outside
  | inside
  | escaped
  deriving DecidableEq

/-- Outside of strings, all line ends become newlines. -/
def normalizeFrom : QuoteState → Bytes → Bytes
  | _, [] => []
  | .escaped, b :: t => b :: normalizeFrom .inside t
  | .inside, b :: t =>
    b :: normalizeFrom
      (if b = ch '\\' then .escaped else if b = ch '"' then .outside else .inside) t
  | .outside, 0x0D :: 0x0A :: t => 0x0A :: normalizeFrom .outside t
  | .outside, 0x0D :: t => 0x0A :: normalizeFrom .outside t
  -- U+2028 and U+2029
  | .outside, 0xE2 :: 0x80 :: 0xA8 :: t => 0x0A :: normalizeFrom .outside t
  | .outside, 0xE2 :: 0x80 :: 0xA9 :: t => 0x0A :: normalizeFrom .outside t
  | .outside, b :: t => b :: normalizeFrom (if b = ch '"' then .inside else .outside) t

/-- `normalize_rules_text_newlines`. -/
def normalizeRulesTextNewlines (content : Bytes) : Bytes := normalizeFrom .outside content

/-! ### Reading -/

/-- `exact_keys`: the members of an object that has the expected ones and no others. -/
def exactKeys (context : Bytes) (expected : List Bytes) :
    Value → Except Bytes (List (Bytes × Value))
  | .obj ms =>
    match ms.find? fun m => m.1 ∉ expected with
    | some m => .error (context ++ str " contains unknown field: " ++ m.1)
    | none => match expected.find? fun k => !contains k ms with
      | some k => .error (context ++ str " is missing required field: " ++ k)
      | none => .ok ms
  | _ => .error (context ++ str " must be a JSON object")

/-- `rule_option_value_type_name`. -/
def ruleOptionValueTypeName : RuleOptionValueType → Bytes
  | .string => str "string"
  | .jsonValue => str "json_value"
  | .jsonPointer => str "json_pointer"

/-- The text is a JSON pointer, of any length. -/
def isJsonPointer : Bytes → Bool
  | [] => true
  | b :: t => b == ch '/' && ((splitOn (ch '/') t).mapM decodePointerToken).toOption.isSome

/-- One option of a rule of a known type. -/
def validateKnownOption (d : RuleDescriptor) (content ruleId : Bytes) (o : Bytes × Value) :
    Except RulesTextError Unit :=
  match d.options.find? fun option => option.name == o.1 with
  | none => .error (textError content
      (str "rule " ++ ruleId ++ str " (" ++ d.type ++ str ") has unknown option: " ++ o.1)
      (locateName content o.1) ruleId d.type o.1)
  | some option =>
    let refuse (what : Bytes) : Except RulesTextError Unit := .error (textError content
      (str "rule " ++ ruleId ++ str " option " ++ option.name ++ str " must be " ++ what)
      (locateName content option.name) ruleId d.type option.name)
    match option.valueType, o.2 with
    | .jsonValue, _ => .ok ()
    | .string, .str _ => .ok ()
    | .jsonPointer, .str s =>
      if isJsonPointer s then .ok () else refuse (str "a valid JSON pointer")
    | type, _ => refuse (ruleOptionValueTypeName type)

/-- `validate_known_options`. -/
def validateKnownOptions (d : RuleDescriptor) (options : List (Bytes × Value)) (enabled : Bool)
    (content ruleId : Bytes) : Except RulesTextError Unit := do
  options.forM (validateKnownOption d content ruleId)
  if enabled then
    match d.options.find? fun option => option.required && !contains option.name options with
    | some option => throw (textError content
        (str "rule " ++ ruleId ++ str " (" ++ d.type ++ str ") is missing required option: " ++
          option.name) (locateValue content ruleId) ruleId d.type option.name)
    | none => pure ()

section Read

variable [TextLibrary]

/-- `parse_strict_json`: the tree of a text in which no name stands twice in an object. -/
def parseStrictJson (content : Bytes) : Except RulesTextError Value :=
  match parseTree false content with
  | .error .malformed => .error (textError content
      (str "failed to parse rules text: " ++ Library.what .malformed)
      (TextLibrary.errorByte content - 1))
  | .error .outOfRange => .error (textError content
      (str "failed to parse rules text: " ++ Library.what .outOfRange))
  | .ok tree =>
    match duplicateKey tree with
    | some key => .error (textError content
        (str "rules text contains duplicate JSON object key: " ++ key) (locateName content key))
    | none => .ok tree

/-- The options as they are stored: sorted, on one line. Nothing is the exception of the
library when it cannot write them or read them back. -/
def canonicalOptions (options : Value) : Option Bytes := do
  let text ← dump options
  dump (← (parse text).toOption)

/-- One rule of the text, those of the ids `seen` before it. -/
def parseTextRule (registry : RuleRegistry) (content : Bytes) (existing : List StoredRule)
    (seen : List Bytes) (item : Value) : Except RulesTextError StoredRule := do
  match exactKeys (str "rules text rule") [str "enabled", str "id", str "options", str "type"]
      item with
  | .error e => throw (textError content e)
  | .ok ms =>
    match find (str "id") ms, find (str "enabled") ms, find (str "type") ms,
        find (str "options") ms with
    | some (.str id), some (.bool enabled), some (.str type), some (.obj options) =>
      let location := locateValue content id
      if !isValidRuleId id then
        throw (textError content (str "invalid rule id: " ++ id) location id type)
      if !isValidRuleType type then
        throw (textError content (str "rule " ++ id ++ str " has an invalid type") location id type)
      if seen.contains id then
        throw (textError content (str "duplicate rule id: " ++ id) location id type)
      match registry.find type with
      | some factory => validateKnownOptions factory.descriptor options enabled content id
      | none => pure ()
      match canonicalOptions (.obj options) with
      | none => throw { message := Library.whatDump (.obj options) }
      | some text =>
        let key := ((existing.find? fun r => r.ruleId == id).map StoredRule.key).getD 0
        return ⟨key, id, enabled, type, text⟩
    | _, _, _, _ => throw (textError content (str "rules text rule fields have invalid JSON types"))

/-- The rules from left to right. -/
def parseTextRules (registry : RuleRegistry) (content : Bytes) (existing : List StoredRule)
    (seen : List Bytes) : List Value → Except RulesTextError (List StoredRule)
  | [] => .ok []
  | item :: items => do
    let rule ← parseTextRule registry content existing seen item
    return rule :: (← parseTextRules registry content existing (rule.ruleId :: seen) items)

/-- The rules of a root with its two members. -/
def parseTextRoot (registry : RuleRegistry) (content : Bytes) (existing : List StoredRule)
    (ms : List (Bytes × Value)) : Except RulesTextError (List StoredRule) :=
  let unsupported := textError content
    (str "unsupported rules text schema_version; expected ccs-trans.rules/v1")
    (locateValue content (str "schema_version"))
  match find (str "schema_version") ms with
  | some (.str schema) =>
    if schema ≠ kRulesTextSchema then .error unsupported
    else match find (str "rules") ms with
      | some (.arr items) =>
        if items.length > kMaxRulesPerProfile then
          .error (textError content (str "rules text exceeds the maximum rule count"))
        else parseTextRules registry content existing [] items
      | _ => .error (textError content (str "rules text rules field must be an array"))
  | _ => .error unsupported

/-- The rules of a text whose line ends are newlines. -/
def parseNormalized (registry : RuleRegistry) (content : Bytes) (existing : List StoredRule) :
    Except RulesTextError (List StoredRule) := do
  match exactKeys (str "rules text root") [str "rules", str "schema_version"]
      (← parseStrictJson content) with
  | .error e => throw (textError content e)
  | .ok ms => parseTextRoot registry content existing ms

/-- `parse_rules_text`. -/
def parseRulesText (content : Bytes) (existing : List StoredRule) :
    Except RulesTextError (List StoredRule) :=
  if content.length > kMaxStoredProfileRulesTextBytes then
    .error (textError content (str "rules text exceeds the 4 MiB limit"))
  else match builtinRuleRegistry with
    | .error e => .error { message := e }
    | .ok registry => parseNormalized registry (normalizeRulesTextNewlines content) existing

end Read

/-! ### Writing -/

section Write

variable [Library]

/-- One rule of the text, those of the ids `seen` before it. -/
def formatRule (seen : List Bytes) (rule : StoredRule) : Except RulesTextError Value :=
  if !isValidRuleId rule.ruleId || !isValidRuleType rule.type || seen.contains rule.ruleId then
    .error (textError []
      (str "stored rules contain an invalid or duplicate rule: " ++ rule.ruleId))
  else match parse rule.optionsJson with
    | .error e => .error (textError [] (str "failed to format stored rules: " ++ Library.what e))
    | .ok (.obj options) => .ok (.obj [(str "id", .str rule.ruleId),
        (str "enabled", .bool rule.enabled), (str "type", .str rule.type),
        (str "options", .obj options)])
    | .ok _ => .error (textError []
        (str "stored rule options must be a JSON object: " ++ rule.ruleId) 0 rule.ruleId rule.type)

def formatRules (seen : List Bytes) : List StoredRule → Except RulesTextError (List Value)
  | [] => .ok []
  | rule :: rules => do
    let item ← formatRule seen rule
    return item :: (← formatRules (rule.ruleId :: seen) rules)

/-- The document of the text. -/
def rulesTextJson (items : List Value) : Value :=
  .obj [(str "schema_version", .str kRulesTextSchema), (str "rules", .arr items)]

/-- `format_rules_text`. -/
def formatRulesText (rules : List StoredRule) : Except RulesTextError Bytes := do
  let root := rulesTextJson (← formatRules [] rules)
  match dumpPretty root with
  | none => throw (textError [] (str "failed to format stored rules: " ++ Library.whatDump root))
  | some text =>
    let content := text ++ [ch '\n']
    if content.length > kMaxStoredProfileRulesTextBytes then
      throw (textError [] (str "formatted rules text exceeds the 4 MiB limit"))
    return content

end Write

/-! ### What is accepted -/

section Accepted

variable [TextLibrary] {registry : RuleRegistry} {content : Bytes} {existing : List StoredRule}

/-- A rule that was read from a text. -/
structure AcceptedRule (registry : RuleRegistry) (content : Bytes) (existing : List StoredRule)
    (r : StoredRule) : Prop where
  id : isValidRuleId r.ruleId = true
  type : isValidRuleType r.type = true
  key : r.key = ((existing.find? fun q => q.ruleId == r.ruleId).map StoredRule.key).getD 0
  options : ∃ options, canonicalOptions (.obj options) = some r.optionsJson ∧
    ∀ factory, registry.find r.type = some factory →
      validateKnownOptions factory.descriptor options r.enabled content r.ruleId = .ok ()

lemma parseTextRule_ok {seen : List Bytes} {item : Value} {r : StoredRule}
    (h : parseTextRule registry content existing seen item = .ok r) :
    AcceptedRule registry content existing r ∧ r.ruleId ∉ seen := by
  unfold parseTextRule at h
  split at h
  · cases h
  split at h
  · next id enabled type options _ _ _ _ =>
    dsimp only at h
    split at h
    · cases h
    next hid =>
    split at h
    · cases h
    next htype =>
    split at h
    · cases h
    next hseen =>
    split at h
    · next factory hfactory =>
      obtain ⟨_, hknown, h⟩ := bind_eq_ok.mp h
      split at h
      · cases h
      · next text htext =>
        cases h
        refine ⟨⟨by simpa using hid, by simpa using htype, rfl, options, htext, ?_⟩,
          by simpa using hseen⟩
        intro factory' hfactory'
        rw [hfactory] at hfactory'
        cases hfactory'
        exact hknown
    · next hnone =>
      split at h
      · cases h
      · next text htext =>
        cases h
        refine ⟨⟨by simpa using hid, by simpa using htype, rfl, options, htext, ?_⟩,
          by simpa using hseen⟩
        intro factory hfactory
        rw [hnone] at hfactory
        cases hfactory
  · cases h

lemma parseTextRules_ok {seen : List Bytes} {items : List Value} {rules : List StoredRule}
    (h : parseTextRules registry content existing seen items = .ok rules) :
    (∀ r ∈ rules, AcceptedRule registry content existing r ∧ r.ruleId ∉ seen) ∧
      (rules.map StoredRule.ruleId).Nodup ∧ rules.length = items.length := by
  induction items generalizing seen rules with
  | nil =>
    cases h
    exact ⟨by simp, by simp, rfl⟩
  | cons item items ih =>
    rw [parseTextRules] at h
    obtain ⟨r, hr, h⟩ := bind_eq_ok.mp h
    obtain ⟨rest, hrest, h⟩ := bind_eq_ok.mp h
    cases h
    obtain ⟨haccepted, hunseen⟩ := parseTextRule_ok hr
    obtain ⟨hall, hnodup, hlength⟩ := ih hrest
    refine ⟨?_, ?_, by simp [hlength]⟩
    · refine List.forall_mem_cons.mpr ⟨⟨haccepted, hunseen⟩, fun q hq => ⟨(hall q hq).1, ?_⟩⟩
      exact fun hmem => (hall q hq).2 (by simp [hmem])
    · rw [List.map_cons, List.nodup_cons]
      refine ⟨fun hmem => ?_, hnodup⟩
      obtain ⟨q, hq, hqid⟩ := List.mem_map.mp hmem
      exact (hall q hq).2 (by simp [hqid])

lemma parseNormalized_ok {rules : List StoredRule}
    (h : parseNormalized registry content existing = .ok rules) :
    (∀ r ∈ rules, AcceptedRule registry content existing r) ∧
      (rules.map StoredRule.ruleId).Nodup ∧ rules.length ≤ kMaxRulesPerProfile := by
  obtain ⟨tree, -, h⟩ := bind_eq_ok.mp h
  split at h
  · cases h
  next ms _ =>
  unfold parseTextRoot at h
  dsimp only at h
  split at h
  · split_ifs at h
    split at h
    · split_ifs at h with hcount
      obtain ⟨hall, hnodup, hlength⟩ := parseTextRules_ok h
      exact ⟨fun r hr => (hall r hr).1, hnodup, by omega⟩
    · cases h
  · cases h

/-- The rules of a text that is accepted. -/
theorem parseRulesText_ok {rules : List StoredRule} (h : parseRulesText content existing = .ok rules) :
    ∃ registry, builtinRuleRegistry = .ok registry ∧
      (∀ r ∈ rules, AcceptedRule registry (normalizeRulesTextNewlines content) existing r) ∧
      (rules.map StoredRule.ruleId).Nodup ∧ rules.length ≤ kMaxRulesPerProfile := by
  unfold parseRulesText at h
  split at h
  · cases h
  split at h
  · cases h
  · next registry hregistry =>
    exact ⟨registry, hregistry, parseNormalized_ok h⟩

end Accepted

/-! ### Texts of one tree -/

section Content

variable {registry : RuleRegistry} {content content' : Bytes} {existing : List StoredRule}

/-- Whether an option is accepted does not depend on the text that an error points into. -/
lemma validateKnownOption_content {d : RuleDescriptor} {ruleId ruleId' : Bytes} {o : Bytes × Value}
    (h : validateKnownOption d content ruleId o = .ok ()) :
    validateKnownOption d content' ruleId' o = .ok () := by
  unfold validateKnownOption at h ⊢
  split at h
  · cases h
  next option hoption =>
    dsimp only at h ⊢
    split at h
    · rfl
    · rfl
    · split_ifs at h ⊢
      rfl
    · cases h

lemma validateKnownOptions_forM {d : RuleDescriptor} {options : List (Bytes × Value)}
    {ruleId ruleId' : Bytes} (h : options.forM (validateKnownOption d content ruleId) = .ok ()) :
    options.forM (validateKnownOption d content' ruleId') = .ok () := by
  induction options with
  | nil => rfl
  | cons o options ih =>
    obtain ⟨_, ho, hrest⟩ := bind_eq_ok.mp h
    exact bind_eq_ok.mpr ⟨(), validateKnownOption_content ho, ih hrest⟩

lemma validateKnownOptions_content {d : RuleDescriptor} {options : List (Bytes × Value)} {enabled : Bool}
    {ruleId ruleId' : Bytes} (h : validateKnownOptions d options enabled content ruleId = .ok ()) :
    validateKnownOptions d options enabled content' ruleId' = .ok () := by
  unfold validateKnownOptions at h ⊢
  obtain ⟨_, hall, h⟩ := bind_eq_ok.mp h
  rw [validateKnownOptions_forM hall, ok_bind]
  split_ifs at h ⊢ with henabled
  · split at h
    · cases h
    · rfl
  · rfl

variable [TextLibrary]

lemma parseTextRule_content {seen : List Bytes} {item : Value} {r : StoredRule}
    (h : parseTextRule registry content existing seen item = .ok r) :
    parseTextRule registry content' existing seen item = .ok r := by
  unfold parseTextRule at h ⊢
  split at h
  · cases h
  next ms _ =>
  split at h
  · next id enabled type options _ _ _ _ =>
    dsimp only at h ⊢
    split at h
    · cases h
    next hid =>
    split at h
    · cases h
    next htype =>
    split at h
    · cases h
    next hseen =>
    rw [if_neg hid, if_neg htype, if_neg hseen]
    split at h
    · next factory hfactory =>
      obtain ⟨_, hknown, h⟩ := bind_eq_ok.mp h
      split at h
      · cases h
      · exact bind_eq_ok.mpr ⟨(), validateKnownOptions_content hknown, h⟩
    · split at h
      · cases h
      · exact h
  · cases h

lemma parseTextRules_content {seen : List Bytes} {items : List Value} {rules : List StoredRule}
    (h : parseTextRules registry content existing seen items = .ok rules) :
    parseTextRules registry content' existing seen items = .ok rules := by
  induction items generalizing seen rules with
  | nil => exact h
  | cons item items ih =>
    rw [parseTextRules] at h ⊢
    obtain ⟨r, hr, h⟩ := bind_eq_ok.mp h
    obtain ⟨rest, hrest, h⟩ := bind_eq_ok.mp h
    rw [parseTextRule_content hr, ok_bind, ih hrest, ok_bind]
    exact h

/-- A text is accepted if its tree is that of a text that is. -/
lemma parseNormalized_content {rules : List StoredRule}
    (h : parseNormalized registry content existing = .ok rules)
    (htree : ∀ tree, parseTree false content = .ok tree → parseTree false content' = .ok tree) :
    parseNormalized registry content' existing = .ok rules := by
  unfold parseNormalized at h ⊢
  obtain ⟨tree, hstrict, h⟩ := bind_eq_ok.mp h
  have hstrict' : parseStrictJson content' = .ok tree := by
    unfold parseStrictJson at hstrict ⊢
    split at hstrict
    · cases hstrict
    · cases hstrict
    · next tree' htree' =>
      rw [htree _ htree']
      dsimp only
      split at hstrict
      · cases hstrict
      · exact hstrict
  rw [hstrict', ok_bind]
  split at h
  · cases h
  next ms _ =>
  unfold parseTextRoot at h ⊢
  dsimp only at h ⊢
  split at h
  · split_ifs at h ⊢
    split at h
    · split_ifs at h ⊢
      exact parseTextRules_content h
    · cases h
  · cases h

end Content

end CcsTrans.Config
