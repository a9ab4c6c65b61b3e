import CcsTrans.Config.DeepText
import CcsTrans.Config.TextPieces
import CcsTrans.Editor.Drafts

/-!
Rules as a text and back.

The text of rules is read as these rules: their options come back in the form in which they are
stored, and their keys by their ids. A text that was read and written again is written the same
from then on.
-/

namespace CcsTrans.Config

open CcsTrans.Text CcsTrans.Json CcsTrans.Rules CcsTrans.Storage CcsTrans.Fallible
open CcsTrans.Editor (CanonicalOptions canonicalOptions_canonical)

/-! ### Options of one kind -/

/-- The second members are those of the first, with strings as they were. -/
structure Alike (ms ms' : List (Bytes × Value)) : Prop where
  each : ∀ m' ∈ ms', ∃ m ∈ ms, m.1 = m'.1 ∧ ∀ s, m.2 = .str s → m'.2 = .str s
  names : ∀ k ∈ ms.map Prod.fst, k ∈ ms'.map Prod.fst

lemma Alike.trans {ms ms' ms'' : List (Bytes × Value)} (h : Alike ms ms') (h' : Alike ms' ms'') :
    Alike ms ms'' where
  each m'' hm'' := by
    obtain ⟨m', hm', hname', hstring'⟩ := h'.each m'' hm''
    obtain ⟨m, hm, hname, hstring⟩ := h.each m' hm'
    exact ⟨m, hm, hname.trans hname', fun s hs => hstring' s (hstring s hs)⟩
  names k hk := h'.names k (h.names k hk)

lemma alike_canonMembers (ms : List (Bytes × Value)) : Alike ms (canonMembers ms) := by
  rw [canonMembers_eq]
  refine ⟨fun m' hm' => ?_, fun k hk => ?_⟩
  · obtain ⟨m, hm, rfl⟩ := List.mem_map.mp hm'
    exact ⟨m, hm, rfl, fun s hs => by rw [hs]; rfl⟩
  · rwa [List.map_map]

lemma mem_names_insertMember {k k' : Bytes} {v : Value} {ms : List (Bytes × Value)} :
    k' ∈ (insertMember k v ms).map Prod.fst ↔ k' = k ∨ k' ∈ ms.map Prod.fst := by
  induction ms with
  | nil => simp [insertMember]
  | cons m ms ih =>
    rw [insertMember]
    split_ifs with hlt heq
    · rw [List.map_cons, List.mem_cons]
    · subst heq
      simp
    · rw [List.map_cons, List.mem_cons, ih, List.map_cons, List.mem_cons]
      tauto

lemma toDomMembers_alike (ms acc : List (Bytes × Value)) :
    (∀ m' ∈ toDomMembers acc ms, m' ∈ acc ∨
      ∃ m ∈ ms, m.1 = m'.1 ∧ ∀ s, m.2 = .str s → m'.2 = .str s) ∧
    ∀ k, k ∈ acc.map Prod.fst ∨ k ∈ ms.map Prod.fst → k ∈ (toDomMembers acc ms).map Prod.fst := by
  induction ms generalizing acc with
  | nil =>
    refine ⟨fun m' hm' => .inl hm', fun k hk => ?_⟩
    exact hk.resolve_right List.not_mem_nil
  | cons m ms ih =>
    obtain ⟨k, v⟩ := m
    rw [toDomMembers]
    obtain ⟨heach, hnames⟩ := ih (insertMember k (toDom v) acc)
    refine ⟨fun m' hm' => ?_, fun k' hk' => hnames k' ?_⟩
    · rcases heach m' hm' with hmem | ⟨n, hn, hrest⟩
      · rcases mem_insertMember hmem with rfl | hmem
        · exact .inr ⟨(k, v), List.mem_cons_self, rfl, fun s hs => by rw [show v = .str s from hs]; rfl⟩
        · exact .inl hmem
      · exact .inr ⟨n, List.mem_cons_of_mem _ hn, hrest⟩
    · rw [mem_names_insertMember, or_assoc]
      rw [List.map_cons, List.mem_cons] at hk'
      tauto

lemma alike_toDomMembers (ms : List (Bytes × Value)) : Alike ms (toDomMembers [] ms) where
  each m' hm' := ((toDomMembers_alike ms []).1 m' hm').resolve_left List.not_mem_nil
  names k hk := (toDomMembers_alike ms []).2 k (.inr hk)

lemma mem_names_of_contains {k : Bytes} {ms : List (Bytes × Value)} (h : contains k ms = true) :
    k ∈ ms.map Prod.fst := by
  obtain ⟨v, hv⟩ := Option.isSome_iff_exists.mp h
  exact List.mem_map_of_mem (mem_of_find hv)

section Known

variable {d : RuleDescriptor} {content ruleId : Bytes} {options options' : List (Bytes × Value)}
  {enabled : Bool}

lemma validateKnownOption_alike {o o' : Bytes × Value} (hname : o.1 = o'.1)
    (hstring : ∀ s, o.2 = .str s → o'.2 = .str s) (h : validateKnownOption d content ruleId o = .ok ()) :
    validateKnownOption d content ruleId o' = .ok () := by
  obtain ⟨k, v⟩ := o
  obtain ⟨k', v'⟩ := o'
  obtain rfl : k = k' := hname
  unfold validateKnownOption at h ⊢
  dsimp only at h ⊢
  split at h
  · cases h
  next option hoption =>
    split at h
    · next htype =>
      rw [htype]
    · next s htype =>
      obtain rfl : v' = .str s := hstring s rfl
      rw [htype]
    · next s htype =>
      obtain rfl : v' = .str s := hstring s rfl
      rw [htype]
      exact h
    · cases h

lemma forM_eq_ok {ε α : Type} {f : α → Except ε Unit} {xs : List α} :
    xs.forM f = .ok () ↔ ∀ x ∈ xs, f x = .ok () := by
  induction xs with
  | nil => exact ⟨fun _ _ hx => absurd hx List.not_mem_nil, fun _ => rfl⟩
  | cons x xs ih =>
    rw [List.forall_mem_cons, ← ih]
    constructor
    · intro h
      obtain ⟨_, hx, hrest⟩ := bind_eq_ok.mp h
      exact ⟨hx, hrest⟩
    · rintro ⟨hx, hrest⟩
      exact bind_eq_ok.mpr ⟨(), hx, hrest⟩

/-- The check of options looks at names and strings only. -/
lemma validateKnownOptions_alike (h : Alike options options')
    (hvalid : validateKnownOptions d options enabled content ruleId = .ok ()) :
    validateKnownOptions d options' enabled content ruleId = .ok () := by
  unfold validateKnownOptions at hvalid ⊢
  obtain ⟨_, hall, hrequired⟩ := bind_eq_ok.mp hvalid
  have hall' : options'.forM (validateKnownOption d content ruleId) = .ok () := by
    refine forM_eq_ok.mpr fun m' hm' => ?_
    obtain ⟨m, hm, hname, hstring⟩ := h.each m' hm'
    exact validateKnownOption_alike hname hstring (forM_eq_ok.mp hall m hm)
  rw [hall', ok_bind]
  split_ifs at hrequired ⊢
  · split at hrequired
    · cases hrequired
    · next hnone =>
      have hnone' : d.options.find? (fun o => o.required && !contains o.name options') = none := by
        rw [List.find?_eq_none] at hnone ⊢
        intro o ho hmissing
        refine hnone o ho ?_
        rw [Bool.and_eq_true, Bool.not_eq_true'] at hmissing ⊢
        refine ⟨hmissing.1, Bool.eq_false_iff.mpr fun hcontains => ?_⟩
        rw [contains_of_mem (h.names _ (mem_names_of_contains hcontains))] at hmissing
        cases hmissing.2
      rw [hnone']
      rfl
  · rfl

end Known

/-! ### From rules to a text -/

section Text

variable [TextLibrary]

/-- The options of a rule of a known type are those of the type. -/
def KnownOptions (r : StoredRule) : Prop :=
  ∀ registry factory ms, builtinRuleRegistry = .ok registry → registry.find r.type = some factory →
    parse r.optionsJson = .ok (.obj ms) →
    validateKnownOptions factory.descriptor ms r.enabled [] r.ruleId = .ok ()

omit [TextLibrary] in
/-- A rule with the key that goes with its id. -/
def rekeyed (existing : List StoredRule) (r : StoredRule) : StoredRule :=
  { r with key := ((existing.find? fun q => q.ruleId == r.ruleId).map StoredRule.key).getD 0 }

/-- A rule in a text. -/
def ruleItem (r : StoredRule) (options : List (Bytes × Value)) : List (Bytes × Value) :=
  [(str "id", .str r.ruleId), (str "enabled", .bool r.enabled), (str "type", .str r.type),
    (str "options", .obj options)]

variable {seen : List Bytes} {r : StoredRule} {rules existing : List StoredRule} {items : List Value}
  {item : Value} {registry : RuleRegistry} {content u : Bytes}

lemma formatRule_ok (h : formatRule seen r = .ok item) :
    isValidRuleId r.ruleId = true ∧ isValidRuleType r.type = true ∧ r.ruleId ∉ seen ∧
      ∃ options, parse r.optionsJson = .ok (.obj options) ∧ item = .obj (ruleItem r options) := by
  unfold formatRule at h
  split_ifs at h with hinvalid
  simp only [Bool.or_eq_true, Bool.not_eq_true', List.contains_iff_mem, not_or] at hinvalid
  obtain ⟨⟨hid, htype⟩, hseen⟩ := hinvalid
  split at h
  · cases h
  · next options hoptions =>
    cases h
    exact ⟨by simpa using hid, by simpa using htype, hseen, options, hoptions, rfl⟩
  · cases h

/-- No rule is written twice. -/
lemma formatRules_ok (h : formatRules seen rules = .ok items) :
    (∀ r ∈ rules, r.ruleId ∉ seen) ∧ (rules.map StoredRule.ruleId).Nodup ∧ items.length = rules.length := by
  induction rules generalizing seen items with
  | nil =>
    cases h
    exact ⟨by simp, by simp, rfl⟩
  | cons r rules ih =>
    obtain ⟨item, hitem, h⟩ := bind_eq_ok.mp h
    obtain ⟨rest, hrest, h⟩ := bind_eq_ok.mp h
    cases h
    obtain ⟨-, -, hseen, -⟩ := formatRule_ok hitem
    obtain ⟨hunseen, hnodup, hlength⟩ := ih hrest
    have hne : ∀ q ∈ rules, q.ruleId ∉ seen ∧ q.ruleId ≠ r.ruleId := by
      intro q hq
      have hmem := hunseen q hq
      rw [List.mem_cons, not_or] at hmem
      exact ⟨hmem.2, hmem.1⟩
    refine ⟨List.forall_mem_cons.mpr ⟨hseen, fun q hq => (hne q hq).1⟩, ?_, by simp [hlength]⟩
    rw [List.map_cons, List.nodup_cons]
    refine ⟨fun hmem => ?_, hnodup⟩
    obtain ⟨q, hq, hid⟩ := List.mem_map.mp hmem
    exact (hne q hq).2 hid

/-- Nothing that is written of a rule depends on its key. -/
lemma formatRulesText_rekeyed (existing : List StoredRule) :
    formatRulesText (rules.map (rekeyed existing)) = formatRulesText rules := by
  have hrules (seen : List Bytes) :
      formatRules seen (rules.map (rekeyed existing)) = formatRules seen rules := by
    induction rules generalizing seen with
    | nil => rfl
    | cons r rules ih =>
      rw [List.map_cons, formatRules, formatRules, show (rekeyed existing r).ruleId = r.ruleId from rfl, ih]
      rfl
  rw [formatRulesText, formatRulesText, hrules]

/-! ### From a text to rules -/

lemma canonicalOptions_eq {options : List (Bytes × Value)} (hparse : parse r.optionsJson = .ok (.obj options))
    (hcanonical : CanonicalOptions r.optionsJson) :
    canon (.obj options) = .obj options ∧ canonicalOptions (.obj options) = some r.optionsJson := by
  obtain ⟨ms, hms, hdump⟩ := hcanonical
  rw [hparse] at hms
  cases hms
  have hcanon := parse_dump (parse_writable hparse) hdump
  rw [hparse] at hcanon
  refine ⟨(Except.ok.inj hcanon).symm, ?_⟩
  rw [canonicalOptions, hdump]
  dsimp only [Option.bind_eq_bind, Option.bind_some]
  rw [hparse]
  exact hdump

/-- The rule of an item. -/
lemma parseTextRule_item (hregistry : builtinRuleRegistry = .ok registry)
    (hcanonical : CanonicalOptions r.optionsJson) (hknown : KnownOptions r)
    (h : formatRule seen r = .ok item) :
    parseTextRule registry content existing seen (canon item) = .ok (rekeyed existing r) := by
  obtain ⟨hid, htype, hseen, options, hparse, rfl⟩ := formatRule_ok h
  obtain ⟨hcanon, hoptions⟩ := canonicalOptions_eq hparse hcanonical
  have hitem : canon (.obj (ruleItem r options)) = .obj (ruleItem r options) := by
    rw [canon] at hcanon
    simp only [canon, ruleItem, canonMembers, hcanon]
  have hkeys : exactKeys (str "rules text rule") [str "enabled", str "id", str "options", str "type"]
      (.obj (ruleItem r options)) = .ok (ruleItem r options) := rfl
  have hmembers : find (str "id") (ruleItem r options) = some (.str r.ruleId) ∧
      find (str "enabled") (ruleItem r options) = some (.bool r.enabled) ∧
      find (str "type") (ruleItem r options) = some (.str r.type) ∧
      find (str "options") (ruleItem r options) = some (.obj options) := ⟨rfl, rfl, rfl, rfl⟩
  have hunseen : seen.contains r.ruleId = false := by simpa using hseen
  rw [hitem]
  unfold parseTextRule
  simp only [hkeys, hmembers, hid, htype, hunseen, hoptions, Bool.not_true, Bool.false_eq_true, if_false]
  cases hfactory : registry.find r.type with
  | none => rfl
  | some factory =>
    have hvalid : validateKnownOptions factory.descriptor options r.enabled content r.ruleId = .ok () :=
      validateKnownOptions_content (hknown registry factory options hregistry hfactory hparse)
    simp only [hvalid]
    rfl

lemma parseTextRules_items (hregistry : builtinRuleRegistry = .ok registry)
    (hrules : ∀ r ∈ rules, CanonicalOptions r.optionsJson ∧ KnownOptions r)
    (h : formatRules seen rules = .ok items) :
    parseTextRules registry content existing seen (items.map canon) =
      .ok (rules.map (rekeyed existing)) := by
  induction rules generalizing seen items with
  | nil =>
    cases h
    rfl
  | cons r rules ih =>
    obtain ⟨item, hitem, h⟩ := bind_eq_ok.mp h
    obtain ⟨rest, hrest, h⟩ := bind_eq_ok.mp h
    cases h
    obtain ⟨⟨hcanonical, hknown⟩, hrules⟩ := List.forall_mem_cons.mp hrules
    rw [List.map_cons, parseTextRules, parseTextRule_item hregistry hcanonical hknown hitem, ok_bind,
      show (rekeyed existing r).ruleId = r.ruleId from rfl, ih hrules hrest]
    rfl

omit [TextLibrary] in
lemma duplicateInItems_none {xs : List Value} (h : ∀ x ∈ xs, duplicateKey x = none) :
    duplicateInItems xs = none := by
  induction xs with
  | nil => rfl
  | cons x xs ih =>
    rw [duplicateInItems, h x List.mem_cons_self, ih fun y hy => h y (List.mem_cons_of_mem _ hy)]
    rfl

/-- No name stands twice in a text that is written. -/
lemma duplicateKey_formatted (h : formatRules seen rules = .ok items) :
    duplicateKey (canon (rulesTextJson items)) = none := by
  have hitems : ∀ x ∈ items.map canon, duplicateKey x = none := by
    induction rules generalizing seen items with
    | nil =>
      cases h
      exact fun x hx => absurd hx List.not_mem_nil
    | cons r rules ih =>
      obtain ⟨item, hitem, h⟩ := bind_eq_ok.mp h
      obtain ⟨rest, hrest, h⟩ := bind_eq_ok.mp h
      cases h
      refine List.forall_mem_cons.mpr ⟨?_, ih hrest⟩
      obtain ⟨-, -, -, options, hparse, rfl⟩ := formatRule_ok hitem
      have hoptions : duplicateInMembers [] (canonMembers options) = none :=
        duplicateKey_proper (proper_canon (parse_writable hparse))
      simp only [canon, ruleItem, canonMembers, duplicateKey, duplicateInMembers, hoptions]
      rfl
  have hrules := duplicateInItems_none hitems
  rw [← canonItems_eq] at hrules
  simp only [rulesTextJson, canon, canonMembers, duplicateKey, duplicateInMembers, hrules]
  rfl

lemma formatRulesText_ok (h : formatRulesText rules = .ok u) : ∃ items text,
    formatRules [] rules = .ok items ∧ dumpPretty (rulesTextJson items) = some text ∧
      u = text ++ [ch '\n'] ∧ u.length ≤ kMaxStoredProfileRulesTextBytes := by
  obtain ⟨items, hitems, h⟩ := bind_eq_ok.mp h
  dsimp only at h
  split at h
  · cases h
  · next text htext =>
    split_ifs at h with hlength
    · cases h
    · cases h
      exact ⟨items, text, hitems, htext, rfl, Nat.le_of_not_lt hlength⟩

lemma formatRulesText_of_width {text : Bytes} (hitems : formatRules [] rules = .ok items)
    (htext : dumpPretty (rulesTextJson items) = some text)
    (hwidth : widthAt 2 0 (rulesTextJson items) < kMaxStoredProfileRulesTextBytes) :
    formatRulesText rules = .ok (text ++ [ch '\n']) := by
  have hlength : ¬ (text ++ [ch '\n']).length > kMaxStoredProfileRulesTextBytes := by
    have hle := length_dumpPretty_le htext
    rw [List.length_append, List.length_singleton]
    omega
  simp only [formatRulesText, hitems, ok_bind, htext, hlength, if_false, pure_eq_ok]

/-- A text that is written has a tree, of which the rules are looked at. -/
lemma parseRulesText_root (h : formatRulesText rules = .ok u) : ∃ items registry,
    formatRules [] rules = .ok items ∧ builtinRuleRegistry = .ok registry ∧
      ∀ existing, parseRulesText u existing = if kMaxRulesPerProfile < rules.length then
          .error (textError (normalizeRulesTextNewlines u)
            (str "rules text exceeds the maximum rule count"))
        else parseTextRules registry (normalizeRulesTextNewlines u) existing [] (items.map canon) := by
  obtain ⟨items, text, hitems, htext, rfl, hlength⟩ := formatRulesText_ok h
  obtain ⟨registry, hregistry, -⟩ := builtinRuleRegistry_custom
  obtain ⟨-, -, hcount⟩ := formatRules_ok hitems
  have htree : parseTree false (normalizeRulesTextNewlines (text ++ [ch '\n'])) =
      .ok (canon (rulesTextJson items)) :=
    parseTree_rebroken (normalizeFrom_rebroken .outside _) (parseTree_dumpPretty htext)
  have hstrict : parseStrictJson (normalizeRulesTextNewlines (text ++ [ch '\n'])) =
      .ok (canon (rulesTextJson items)) := by
    simp only [parseStrictJson, htree, duplicateKey_formatted hitems]
  have hroot : exactKeys (str "rules text root") [str "rules", str "schema_version"]
      (canon (rulesTextJson items)) = .ok [(str "schema_version", .str kRulesTextSchema),
        (str "rules", .arr (items.map canon))] := by
    rw [← canonItems_eq]
    rfl
  have hschema : find (str "schema_version") [(str "schema_version", Value.str kRulesTextSchema),
      (str "rules", .arr (items.map canon))] = some (.str kRulesTextSchema) := rfl
  have harray : find (str "rules") [(str "schema_version", Value.str kRulesTextSchema),
      (str "rules", .arr (items.map canon))] = some (.arr (items.map canon)) := rfl
  refine ⟨items, registry, hitems, hregistry, fun existing => ?_⟩
  unfold parseRulesText
  rw [if_neg (Nat.not_lt.mpr hlength), hregistry]
  dsimp only
  unfold parseNormalized
  rw [hstrict, ok_bind, hroot]
  dsimp only
  unfold parseTextRoot
  simp only [hschema, harray, ne_eq, not_true_eq_false, if_false, List.length_map, hcount]

/-- **The rules of a text that is written** are those it is written of, with the keys that go with
their ids. -/
theorem parseRulesText_formatted (h : formatRulesText rules = .ok u)
    (hcount : rules.length ≤ kMaxRulesPerProfile)
    (hrules : ∀ r ∈ rules, CanonicalOptions r.optionsJson ∧ KnownOptions r) (existing : List StoredRule) :
    parseRulesText u existing = .ok (rules.map (rekeyed existing)) := by
  obtain ⟨items, registry, hitems, hregistry, hparse⟩ := parseRulesText_root h
  rw [hparse, if_neg (Nat.not_lt.mpr hcount)]
  exact parseTextRules_items hregistry hrules hitems

/-- The text of more rules than a profile may have is not read. -/
lemma not_parseRulesText_many (h : formatRulesText rules = .ok u)
    (hcount : kMaxRulesPerProfile < rules.length) (existing parsed : List StoredRule) :
    parseRulesText u existing ≠ .ok parsed := by
  obtain ⟨items, registry, -, -, hparse⟩ := parseRulesText_root h
  rw [hparse, if_pos hcount]
  exact nofun

omit [TextLibrary] in
/-- Rules of different ids keep their keys. -/
lemma rekeyed_self (h : (rules.map StoredRule.ruleId).Nodup) : rules.map (rekeyed rules) = rules := by
  have hself : ∀ r ∈ rules, rekeyed rules r = r := by
    intro r hr
    unfold rekeyed
    cases hfind : rules.find? fun q => q.ruleId == r.ruleId with
    | none =>
      rw [List.find?_eq_none] at hfind
      exact absurd BEq.rfl (hfind r hr)
    | some q =>
      have hid : q.ruleId = r.ruleId := by simpa using List.find?_some hfind
      have hsame : q = r := List.inj_on_of_nodup_map h (List.mem_of_find?_eq_some hfind) hr hid
      rw [hsame]
      rfl
  exact (List.map_congr_left hself).trans (List.map_id' rules)

/-! ### Rules that were read -/

/-- The rules of a text have their options as they are stored. -/
lemma known_of_accepted {t : Bytes} (hregistry : builtinRuleRegistry = .ok registry)
    (h : AcceptedRule registry t existing r) : CanonicalOptions r.optionsJson ∧ KnownOptions r := by
  obtain ⟨options, hoptions, hknown⟩ := h.options
  refine ⟨canonicalOptions_canonical hoptions, fun registry' factory ms hregistry' hfactory hparse => ?_⟩
  rw [hregistry] at hregistry'
  cases hregistry'
  obtain ⟨w, hw, hrest⟩ := Option.bind_eq_some_iff.mp hoptions
  obtain ⟨v, hv, hdump⟩ := Option.bind_eq_some_iff.mp hrest
  have htree := parseTree_dumpAt (c := false) hw ends_nil rfl
  rw [List.append_nil] at htree
  have hfirst : v = .obj (toDomMembers [] (canonMembers options)) := by
    have hparsed := toOption_eq_some.mp hv
    rw [parse, htree] at hparsed
    exact (Except.ok.inj hparsed).symm
  have hsecond : ms = canonMembers (toDomMembers [] (canonMembers options)) := by
    have hparsed := parse_dump (parse_writable (toOption_eq_some.mp hv)) hdump
    rw [hparse, hfirst, canon] at hparsed
    cases hparsed
    rfl
  rw [hsecond]
  have halike := ((alike_canonMembers options).trans (alike_toDomMembers _)).trans (alike_canonMembers _)
  exact validateKnownOptions_alike halike (validateKnownOptions_content (hknown factory hfactory))

/-- **Rules make a round trip through their text.** At most as many rules as a profile may have,
with options as they are stored and as their types have them, are read from their text as they
were; and the rules of a text that was read are written the same when they are read again. -/
theorem rules_text_round_trip :
    (∀ rules u, formatRulesText rules = .ok u → rules.length ≤ kMaxRulesPerProfile →
      (∀ r ∈ rules, CanonicalOptions r.optionsJson ∧ KnownOptions r) →
      parseRulesText u rules = .ok rules) ∧
    ∀ t existing rules u, parseRulesText t existing = .ok rules → formatRulesText rules = .ok u →
      ∀ existing', ∃ rules', parseRulesText u existing' = .ok rules' ∧ formatRulesText rules' = .ok u := by
  constructor
  · intro rules u hformat hcount hrules
    obtain ⟨items, -, hitems, -⟩ := formatRulesText_ok hformat
    obtain ⟨-, hnodup, -⟩ := formatRules_ok hitems
    rw [parseRulesText_formatted hformat hcount hrules, rekeyed_self hnodup]
  · intro t existing rules u hparsed hformat existing'
    obtain ⟨registry, hregistry, haccepted, -, hcount⟩ := parseRulesText_ok hparsed
    refine ⟨rules.map (rekeyed existing'), ?_, ?_⟩
    · exact parseRulesText_formatted hformat hcount
        (fun r hr => known_of_accepted hregistry (haccepted r hr)) existing'
    · rw [formatRulesText_rekeyed, hformat]

end Text

section Samples

attribute [local instance] Editor.plainText

/-- A rule of an unknown type may have any options. -/
lemma known_of_custom {r : StoredRule} (h : r.type = str "custom") : KnownOptions r := by
  intro registry factory ms hregistry hfactory
  obtain ⟨registry', hregistry', hcustom⟩ := builtinRuleRegistry_custom
  rw [hregistry] at hregistry'
  cases hregistry'
  rw [h, hcustom] at hfactory
  cases hfactory

theorem rules_text_round_trip_nested : ∃ u, formatRulesText [deepRule 0] = .ok u ∧
    parseRulesText u [deepRule 0] = .ok [deepRule 0] ∧
    ∃ rules', parseRulesText u [] = .ok rules' ∧ formatRulesText rules' = .ok u := by
  have hknown : ∀ r ∈ [deepRule 0], CanonicalOptions r.optionsJson ∧ KnownOptions r := by
    intro r hr
    rw [List.mem_singleton] at hr
    subst hr
    exact ⟨⟨_, parse_deepOptionsText 0, dump_deepOptions 0⟩, known_of_custom rfl⟩
  have hformats : (formatRulesText [deepRule 0]).toOption.isSome = true := by decide +kernel
  obtain ⟨u, hu⟩ := Option.isSome_iff_exists.mp hformats
  have hformat := toOption_eq_some.mp hu
  exact ⟨u, hformat, rules_text_round_trip.1 _ u hformat (by decide) hknown,
    rules_text_round_trip.2 (deepText 0) [] _ u (parseRulesText_deepText (by decide)) hformat []⟩

/-- More rules than a profile may have. -/
def manyRules : List StoredRule :=
  (List.range 65).map fun n => { ruleId := decimal n, type := str "custom", optionsJson := str "\x7b\x7d" }

/-- They have a text, but it is not read. -/
theorem manyRules_not_read : ∃ u, formatRulesText manyRules = .ok u ∧
    (∀ r ∈ manyRules, isValidRuleId r.ruleId = true ∧ isValidRuleType r.type = true ∧
      CanonicalOptions r.optionsJson ∧ KnownOptions r) ∧
    (manyRules.map StoredRule.ruleId).Nodup ∧ ∀ rules, parseRulesText u manyRules ≠ .ok rules := by
  have hformats : (formatRules [] manyRules).toOption.any (fun items =>
      (dumpPretty (rulesTextJson items)).isSome &&
        widthAt 2 0 (rulesTextJson items) < 100000) = true := by decide +kernel
  obtain ⟨items, hsome, hwritten⟩ := (Option.any_eq_true _ _).mp hformats
  have hitems := toOption_eq_some.mp hsome
  simp only [Bool.and_eq_true, decide_eq_true_eq] at hwritten
  obtain ⟨text, htext⟩ := Option.isSome_iff_exists.mp hwritten.1
  have hformat := formatRulesText_of_width hitems htext (hwritten.2.trans (by decide))
  refine ⟨_, hformat, fun r hr => ?_, (formatRules_ok hitems).2.1,
    not_parseRulesText_many hformat (by decide) manyRules⟩
  have hvalid : manyRules.all (fun r => isValidRuleId r.ruleId) = true := by decide +kernel
  have hcustom : isValidRuleType (str "custom") = true := by decide +kernel
  obtain ⟨n, -, rfl⟩ := List.mem_map.mp hr
  refine ⟨List.all_eq_true.mp hvalid _ hr, hcustom, ?_, ?_⟩
  · exact Editor.canonicalOptions_empty
  · exact known_of_custom rfl

end Samples

end CcsTrans.Config
