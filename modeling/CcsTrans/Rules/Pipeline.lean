import CcsTrans.Rules.Rule

/-!
The rule pipeline.

A request body is read once, every rule changes the document in turn, and the document is
written again when a rule changed it. Nothing is written when anything fails. Memory may
run out at any of these points, which an `Interruptions` says.
-/

namespace CcsTrans.Rules

open CcsTrans.Text CcsTrans.Json CcsTrans.Config CcsTrans.Protocols CcsTrans.Fallible

structure RuleTrace where
  ruleId : Bytes
  ruleType : Bytes
  matched : Bool := false
  modified : Bool := false
  reason : Bytes
  summary : RuleChangeSummary := {}

structure RulePipelineError where
  statusCode : ℕ := 400
  type : Bytes := str "invalid_request_error"
  message : Bytes
  ruleId : Bytes := []
  ruleType : Bytes := []
  reason : Bytes

structure RulePipelineResult where
  ok : Bool := true
  modified : Bool := false
  parseCount : ℕ := 0
  serializeCount : ℕ := 0
  originalBodySize : ℕ := 0
  outputBodySize : ℕ := 0
  rewrittenBody : Option Bytes := none
  traces : List RuleTrace := []
  error : Option RulePipelineError := none

/-- What the allocations of a run throw, and where. -/
structure Interruptions where
  parse : Option Thrown := none
  rule : ℕ → Option Thrown := fun _ => none
  serialize : Option Thrown := none

def budgetExhausted (rule : Option CompiledRule) : RulePipelineError :=
  { statusCode := 503, type := str "server_error",
    message := str "inflight memory budget exhausted",
    ruleId := (rule.map CompiledRule.id).getD [], ruleType := (rule.map CompiledRule.type).getD [],
    reason := str "inflight_budget_exhausted" }

/-- What is reported when the body cannot be read. -/
def parseFailure : Thrown ⊕ JsonError → RulePipelineError
  | .inl .inflightBudgetExceeded => budgetExhausted none
  | .inr .malformed =>
    { message := str "request body is not valid JSON", reason := str "invalid_json" }
  | .inr .outOfRange =>
    { message := str "request body could not be parsed as JSON", reason := str "json_parse_failed" }
  | .inl _ =>
    { statusCode := 500, type := str "server_error", message := str "failed to parse request JSON",
      reason := str "json_parse_internal_error" }

/-- What is reported when a rule throws. -/
def ruleFailure (rule : CompiledRule) : Thrown → RulePipelineError
  | .inflightBudgetExceeded => budgetExhausted (some rule)
  | .ruleRuntimeError reason message =>
    { message := message, ruleId := rule.id, ruleType := rule.type, reason := reason }
  | .other =>
    { statusCode := 500, type := str "server_error", message := str "rule execution failed",
      ruleId := rule.id, ruleType := rule.type, reason := str "unexpected_rule_error" }

/-- What is reported when the document cannot be written. -/
def serializeFailure : Option Thrown → RulePipelineError
  | some .inflightBudgetExceeded => budgetExhausted none
  | _ =>
    { statusCode := 500, type := str "server_error",
      message := str "failed to serialize rewritten request body",
      reason := str "json_serialize_failed" }

def makeTrace (rule : CompiledRule) (r : RuleApplyResult) : RuleTrace :=
  ⟨rule.id, rule.type, r.matched, r.modified, r.reason, r.summary⟩

def failureTrace (rule : CompiledRule) (e : RulePipelineError) : RuleTrace :=
  { ruleId := rule.id, ruleType := rule.type, reason := e.reason }

/-- The loop over the rules: the document, whether a rule changed it, and the traces. -/
structure Progress where
  candidate : Value
  modified : Bool := false
  traces : List RuleTrace := []

/-- One rule after another, from the one of number `i` on. -/
def runRules (faults : Interruptions) (i : ℕ) (p : Progress) :
    List CompiledRule → Except (RulePipelineError × List RuleTrace) Progress
  | [] => .ok p
  | rule :: rules =>
    match faults.rule i, rule.apply p.candidate with
    | none, (.ok r, candidate) =>
      runRules faults (i + 1) ⟨candidate, p.modified || r.modified, p.traces ++ [makeTrace rule r]⟩
        rules
    | some e, _ | none, (.error e, _) =>
      .error (ruleFailure rule e, p.traces ++ [failureTrace rule (ruleFailure rule e)])

variable [Library]

/-- `CompiledPipeline::apply`. -/
def applyPipeline (rules : List CompiledRule) (faults : Interruptions) (body : Bytes) :
    RulePipelineResult :=
  let result : RulePipelineResult :=
    { originalBodySize := body.length, outputBodySize := body.length }
  if rules.isEmpty then result
  else
    let result := { result with parseCount := 1 }
    match faults.parse, parse body with
    | some e, _ => { result with ok := false, error := some (parseFailure (.inl e)) }
    | none, .error e => { result with ok := false, error := some (parseFailure (.inr e)) }
    | none, .ok dom =>
      match runRules faults 0 ⟨dom, false, []⟩ rules with
      | .error (e, traces) => { result with ok := false, error := some e, traces := traces }
      | .ok p =>
        let result := { result with traces := p.traces }
        if !p.modified then result
        else
          let result := { result with serializeCount := 1 }
          match faults.serialize, dump p.candidate with
          | none, some text =>
            { result with modified := true, rewrittenBody := some text,
                          outputBodySize := text.length }
          | e, _ => { result with ok := false, error := some (serializeFailure e) }

/-! ### What the rules do -/

omit [Library]

/-- What a rule makes of a document, when it does not throw. -/
def CompiledRule.transform (rule : CompiledRule) (v : Value) : Option Value :=
  match rule.apply v with
  | (.ok _, v') => some v'
  | (.error _, _) => none

/-- The rules one after another. -/
def fold (rules : List CompiledRule) (v : Value) : Option Value :=
  rules.foldlM (fun v rule => rule.transform v) v

/-- A rule that says what it does, and makes documents of documents. -/
structure Honest (rule : CompiledRule) : Prop where
  unmodified : ∀ {v r v'}, rule.apply v = (.ok r, v') → r.modified = false → v' = v
  document : ∀ {v r v'}, rule.apply v = (.ok r, v') → Document v → Document v'

lemma replace_find {k : Bytes} {ms : List (Bytes × Value)} {v : Value} (h : find k ms = some v) :
    replace k v ms = ms := by
  induction ms with
  | nil => rfl
  | cons m ms ih =>
    obtain ⟨k', v'⟩ := m
    rw [find] at h
    rw [replace]
    split at h
    · next hk =>
      cases h
      rw [if_pos hk]
    · next hk => rw [if_neg hk, ih h]

lemma getD_eq_getElem {xs : List Value} {i : ℕ} (hi : i < xs.length) :
    xs.getD i .null = xs[i] := by
  simp [hi]

lemma parseArrayIndex_lt {token : Bytes} {n i : ℕ} (h : parseArrayIndex token n = .ok i) :
    i < n := by
  unfold parseArrayIndex at h
  split_ifs at h
  · cases h
  · obtain ⟨v, -, h⟩ := bind_eq_ok.mp h
    split_ifs at h
    · cases h
    · cases h
      omega

/-- What holds of a change at its target holds of it at the root, when it passes to parents. -/
lemma updateAt_induction {P : Value → RuleApplyResult → Value → Prop}
    {f : Value → Except Thrown (RuleApplyResult × Value)}
    (target : ∀ {v r v'}, f v = .ok (r, v') → P v r v')
    (object : ∀ {ms token c r c'}, find token ms = some c → P c r c' →
      P (.obj ms) r (.obj (replace token c' ms)))
    (array : ∀ {xs : List Value} {i r c'}, i < xs.length → P (xs.getD i .null) r c' →
      P (.arr xs) r (.arr (xs.set i c')))
    {tokens : List Bytes} {v : Value} {r : RuleApplyResult} {v' : Value}
    (h : updateAt f tokens v = .ok (r, v')) : P v r v' := by
  induction tokens generalizing v r v' with
  | nil => exact target (by simpa [updateAt] using h)
  | cons token tokens ih =>
    cases v with
    | obj ms =>
      rw [updateAt] at h
      split at h
      · cases h
      · next c hc =>
        obtain ⟨⟨r', c'⟩, hu, h⟩ := bind_eq_ok.mp h
        cases h
        exact object hc (ih hu)
    | arr xs =>
      rw [updateAt] at h
      obtain ⟨i, hi, h⟩ := bind_eq_ok.mp h
      obtain ⟨⟨r', c'⟩, hu, h⟩ := bind_eq_ok.mp h
      cases h
      refine array ?_ (ih hu)
      exact parseArrayIndex_lt hi
    | null | bool | int | uint | float | str => simp [updateAt] at h

lemma atomically_ok {f : Value → Except Thrown (RuleApplyResult × Value)} {v v' : Value}
    {r : RuleApplyResult} (h : atomically f v = (.ok r, v')) : f v = .ok (r, v') := by
  unfold atomically at h
  split at h
  · next hf => cases h; exact hf
  · cases h

/-- A change is made honest by its target being honest. -/
lemma honest_updateAt {id type : Bytes} {tokens : List Bytes}
    {f : Value → Except Thrown (RuleApplyResult × Value)}
    (unmodified : ∀ {v r v'}, f v = .ok (r, v') → r.modified = false → v' = v)
    (document : ∀ {v r v'}, f v = .ok (r, v') → Document v → Document v') :
    Honest ⟨id, type, atomically (updateAt f tokens)⟩ where
  unmodified h := by
    refine updateAt_induction (P := fun v r v' => r.modified = false → v' = v) unmodified ?_ ?_
      (atomically_ok h)
    · intro ms token c r c' hc hP hr
      rw [hP hr, replace_find hc]
    · intro xs i r c' hi hP hr
      rw [hP hr, getD_eq_getElem hi, List.set_getElem_self]
  document h := by
    refine updateAt_induction (P := fun v _ v' => Document v → Document v') document ?_ ?_
      (atomically_ok h)
    · intro ms token c r c' hc hP hd
      exact hd.replace (hP (hd.find hc))
    · intro xs i r c' hi hP hd
      refine proper_arr.mpr fun x hx => ?_
      rcases List.mem_or_eq_of_mem_set hx with hx | rfl
      · exact proper_arr.mp hd x hx
      · refine hP (proper_arr.mp hd _ ?_)
        rw [getD_eq_getElem hi]
        exact List.getElem_mem hi

lemma honest_setFieldRule [Library] (id : Bytes) (pointer : ParsedJsonPointer) {value : Value}
    (hv : Document value) : Honest (setFieldRule id pointer value) := by
  refine honest_updateAt ?_ ?_ <;> intro v r v' h
  · intro hr
    unfold assign at h
    split_ifs at h <;> cases h
    · rfl
    · cases hr
  · intro hd
    unfold assign at h
    split_ifs at h <;> cases h
    · exact hd
    · exact hv

lemma honest_removeFieldRule (id : Bytes) (pointer : ParsedJsonPointer) :
    Honest (removeFieldRule id pointer) := by
  have removed : ∀ {t k v r v'}, removeChild t k v = .ok (r, v') →
      r.modified = true ∧ (Document v → Document v') := by
    intro t k v r v' h
    cases v with
    | obj ms =>
      rw [removeChild] at h
      split at h <;> cases h
      exact ⟨rfl, fun hd => hd.erase k⟩
    | arr xs =>
      obtain ⟨i, -, h⟩ := bind_eq_ok.mp h
      cases h
      refine ⟨rfl, fun hd => proper_arr.mpr fun x hx => proper_arr.mp hd x ?_⟩
      exact List.mem_of_mem_eraseIdx hx
    | null | bool | int | uint | float | str => cases h
  refine honest_updateAt ?_ ?_ <;> intro v r v' h
  · intro hr
    rw [(removed h).1] at hr
    cases hr
  · exact (removed h).2

lemma honest_removeToolRule (id : Bytes) (layout : ToolLayout) (toolName : Bytes) :
    Honest (removeToolRule id layout toolName) := by
  have spec : ∀ {v r v'}, removeTool layout toolName v = .ok (r, v') →
      (r.modified = false → v' = v) ∧ (Document v → Document v') := by
    intro v r v' h
    cases v with
    | obj ms =>
      simp only [removeTool] at h
      split at h
      · cases h
        exact ⟨fun _ => rfl, fun hd => hd⟩
      · next tools ht =>
        split_ifs at h <;> cases h
        · exact ⟨fun _ => rfl, fun hd => hd⟩
        · refine ⟨nofun, fun hd => hd.replace (proper_arr.mpr fun x hx => ?_)⟩
          exact proper_arr.mp (hd.find ht) x (List.mem_filter.mp hx).1
      · cases h
        exact ⟨fun _ => rfl, fun hd => hd⟩
    | null | bool | int | uint | float | str | arr => cases h
  exact ⟨fun h => (spec (atomically_ok h)).1, fun h => (spec (atomically_ok h)).2⟩

/-! ### What is compiled -/

/-- The options of a rule are documents, as the readers of configurations give them. -/
def DocumentOptions (d : RuleDefinition) : Prop := ∀ o ∈ d.options, Document o.2

section Compiled

variable [Library] {registry : RuleRegistry} {protocol : ProtocolDescriptor}

lemma builtinRuleRegistry_eq : builtinRuleRegistry = .ok
    ⟨[(str "set_field", setFieldRuleFactory), (str "remove_field", removeFieldRuleFactory),
      (str "remove_tool", removeToolRuleFactory)]⟩ := by
  rfl

lemma honest_compile_setField {d : RuleDefinition} {rule : CompiledRule} (hd : DocumentOptions d)
    (h : setFieldRuleFactory.compile d protocol = .ok (some rule)) : Honest rule := by
  obtain ⟨-, -, h⟩ := bind_eq_ok.mp h
  obtain ⟨-, -, h⟩ := bind_eq_ok.mp h
  obtain ⟨pointer, -, h⟩ := bind_eq_ok.mp h
  split at h
  · next value hv =>
    cases h
    exact honest_setFieldRule _ _ (hd _ (mem_of_find hv))
  · cases h

omit [Library] in
lemma honest_compile_removeField {d : RuleDefinition} {rule : CompiledRule}
    (h : removeFieldRuleFactory.compile d protocol = .ok (some rule)) : Honest rule := by
  obtain ⟨-, -, h⟩ := bind_eq_ok.mp h
  obtain ⟨-, -, h⟩ := bind_eq_ok.mp h
  obtain ⟨pointer, -, h⟩ := bind_eq_ok.mp h
  split_ifs at h
  · cases h
  · cases h
    exact honest_removeFieldRule _ _

omit [Library] in
lemma honest_compile_removeTool {d : RuleDefinition} {rule : CompiledRule}
    (h : removeToolRuleFactory.compile d protocol = .ok (some rule)) : Honest rule := by
  obtain ⟨-, -, h⟩ := bind_eq_ok.mp h
  split_ifs at h
  · cases h
  · obtain ⟨-, -, h⟩ := bind_eq_ok.mp h
    split at h
    · split_ifs at h
      · cases h
      · obtain ⟨layout, -, h⟩ := bind_eq_ok.mp h
        cases h
        exact honest_removeToolRule _ _ _
    · cases h

/-- Every rule of the registry is honest. -/
lemma honest_compileRule (hreg : builtinRuleRegistry = .ok registry) {d : RuleDefinition}
    (hd : DocumentOptions d) {rule : CompiledRule} (h : registry.compileRule protocol d = .ok rule) :
    Honest rule := by
  rw [builtinRuleRegistry_eq] at hreg
  cases hreg
  unfold RuleRegistry.compileRule at h
  split at h
  · cases h
  · next factory hf =>
    split at h
    · cases h
    · cases h
    · next hc =>
      split_ifs at h
      cases h
      have hmem := mem_of_find hf
      simp only [List.mem_cons, Prod.mk.injEq, List.not_mem_nil, or_false] at hmem
      rcases hmem with ⟨-, rfl⟩ | ⟨-, rfl⟩ | ⟨-, rfl⟩
      · exact honest_compile_setField hd hc
      · exact honest_compile_removeField hc
      · exact honest_compile_removeTool hc

omit [Library] in
/-- A pipeline has the rules of the enabled definitions, in their order. -/
lemma compileRules_forall₂ {definitions : List RuleDefinition} {seen : List Bytes}
    {rules : List CompiledRule} (h : registry.compileRules protocol seen definitions = .ok rules) :
    List.Forall₂ (fun d rule => registry.compileRule protocol d = .ok rule)
      (definitions.filter (·.enabled)) rules := by
  induction definitions generalizing seen rules with
  | nil =>
    cases h
    exact List.Forall₂.nil
  | cons d ds ih =>
    rw [RuleRegistry.compileRules] at h
    split_ifs at h with _ _ _ he
    · simp only [Bool.not_eq_true'] at he
      simpa [List.filter_cons, he] using ih h
    · simp only [Bool.not_eq_true', Bool.not_eq_false] at he
      obtain ⟨rule, hr, h⟩ := bind_eq_ok.mp h
      obtain ⟨rest, hrest, h⟩ := bind_eq_ok.mp h
      cases h
      rw [List.filter_cons_of_pos he]
      exact List.Forall₂.cons hr (ih hrest)

omit [Library] in
lemma compilePipeline_forall₂ {definitions : List RuleDefinition} {rules : List CompiledRule}
    (h : registry.compilePipeline definitions protocol = .ok rules) :
    List.Forall₂ (fun d rule => registry.compileRule protocol d = .ok rule)
      (definitions.filter (·.enabled)) rules := by
  unfold RuleRegistry.compilePipeline at h
  split_ifs at h
  exact compileRules_forall₂ h

end Compiled

/-! ### Runs -/

/-- What the run of a rule is known by. -/
def RuleTrace.rule (t : RuleTrace) : Bytes × Bytes := (t.ruleId, t.ruleType)
def CompiledRule.name (rule : CompiledRule) : Bytes × Bytes := (rule.id, rule.type)

/-- Where a run of the rules ends when it fails: the rules before the one of number `i` made a
document, on which that one fails. -/
def FailsAt (rules : List CompiledRule) (faults : Interruptions) (dom : Value) (i : ℕ) : Prop :=
  ∃ (hi : i < rules.length) (v : Value), fold (rules.take i) dom = some v ∧
    ((faults.rule i).isSome ∨ rules[i].transform v = none)

lemma fold_append_singleton {rules : List CompiledRule} {rule : CompiledRule} {v w : Value}
    (h : fold rules v = some w) : fold (rules ++ [rule]) v = rule.transform w := by
  unfold fold at h ⊢
  simp [List.foldlM_append, h]

/-- The invariant of the loop: the rules behind it made the document it has, were all traced,
and left the document as it was unless it is marked as changed. -/
structure Reached (done : List CompiledRule) (dom : Value) (p : Progress) : Prop where
  fold : fold done dom = some p.candidate
  traces : p.traces.map RuleTrace.rule = done.map CompiledRule.name
  unmodified : p.modified = false → p.candidate = dom
  document : Document p.candidate

lemma Reached.step {done : List CompiledRule} {dom : Value} {p : Progress} (h : Reached done dom p)
    {rule : CompiledRule} (hr : Honest rule) {r : RuleApplyResult} {v : Value}
    (ha : rule.apply p.candidate = (.ok r, v)) :
    Reached (done ++ [rule]) dom ⟨v, p.modified || r.modified, p.traces ++ [makeTrace rule r]⟩ where
  fold := by
    rw [fold_append_singleton h.fold, CompiledRule.transform, ha]
  traces := by
    simp [h.traces, makeTrace, RuleTrace.rule, CompiledRule.name]
  unmodified hm := by
    rw [Bool.or_eq_false_iff] at hm
    rw [hr.unmodified ha hm.2, h.unmodified hm.1]
  document := hr.document ha h.document

/-- **Runs keep the invariant**, and end where a rule fails. -/
lemma runRules_spec {faults : Interruptions} {dom : Value} {rules done : List CompiledRule}
    {p : Progress} (hr : ∀ rule ∈ rules, Honest rule) (h : Reached done dom p) :
    match runRules faults done.length p rules with
    | .ok p' => Reached (done ++ rules) dom p'
    | .error (_, traces) => ∃ i, FailsAt (done ++ rules) faults dom i ∧
        traces.map RuleTrace.rule = ((done ++ rules).take (i + 1)).map CompiledRule.name := by
  induction rules generalizing done p with
  | nil => simpa [runRules] using h
  | cons rule rules ih =>
    have fails : ∀ e, ((faults.rule done.length).isSome ∨ rule.transform p.candidate = none) →
        ∃ i, FailsAt (done ++ rule :: rules) faults dom i ∧
          (p.traces ++ [failureTrace rule e]).map RuleTrace.rule =
            ((done ++ rule :: rules).take (i + 1)).map CompiledRule.name := by
      intro e he
      refine ⟨done.length, ⟨by simp, p.candidate, ?_, ?_⟩, ?_⟩
      · simpa using h.fold
      · simpa using he
      · simp [List.take_append, h.traces, failureTrace, RuleTrace.rule, CompiledRule.name]
    rw [runRules]
    rcases hf : faults.rule done.length with _ | e
    · rcases ha : rule.apply p.candidate with ⟨_ | r, v⟩
      · exact fails _ (Or.inr (by simp [CompiledRule.transform, ha]))
      · have := ih (fun x hx => hr x (by simp [hx])) (h.step (hr rule (by simp)) ha)
        simpa using this
    · exact fails _ (Or.inl (by simp [hf]))

variable [Library]

/-- How a pipeline may fail, and after how many rules: the body cannot be read, a rule fails, or
the document cannot be written. -/
inductive Fails (rules : List CompiledRule) (faults : Interruptions) (body : Bytes) : ℕ → Prop
  | parse : ((faults.parse).isSome ∨ ∃ e, parse body = .error e) → Fails rules faults body 0
  | rule {dom : Value} {i : ℕ} : parse body = .ok dom → FailsAt rules faults dom i →
      Fails rules faults body (i + 1)
  | serialize {dom v : Value} : parse body = .ok dom → fold rules dom = some v →
      (faults.serialize.isSome ∨ dump v = none) → Fails rules faults body rules.length

/-- **What a pipeline does.** -/
structure Meets (rules : List CompiledRule) (faults : Interruptions) (body : Bytes)
    (result : RulePipelineResult) : Prop where
  /-- All rules were run when it succeeds … -/
  traced : result.ok = true → result.traces.map RuleTrace.rule = rules.map CompiledRule.name
  noError : result.ok = true → result.error = none
  /-- … and the new body, if there is one, reads as what they make of the old one, -/
  rewritten : result.ok = true → result.modified = true → ∃ dom v text back,
    parse body = .ok dom ∧ fold rules dom = some v ∧ result.rewrittenBody = some text ∧
      parse text = .ok back ∧ equal back v = true
  /-- or else they make nothing of it. -/
  untouched : result.ok = true → result.modified = false → result.rewrittenBody = none ∧
    (rules ≠ [] → ∃ dom, parse body = .ok dom) ∧
    ∀ dom, parse body = .ok dom → fold rules dom = some dom
  /-- When it fails nothing is rewritten, and the rules run until then were traced. -/
  failed : result.ok = false → result.rewrittenBody = none ∧ result.modified = false ∧
    result.error.isSome = true ∧ ∃ n, Fails rules faults body n ∧
      result.traces.map RuleTrace.rule = (rules.take n).map CompiledRule.name

lemma applyPipeline_meets {rules : List CompiledRule} (hr : ∀ rule ∈ rules, Honest rule)
    (faults : Interruptions) (body : Bytes) :
    Meets rules faults body (applyPipeline rules faults body) := by
  unfold applyPipeline
  split
  · next he =>
    rw [List.isEmpty_iff] at he
    subst he
    exact ⟨by simp, by simp, by simp, by simp [fold], by simp⟩
  · next he =>
    split
    · next e _ hp => exact ⟨nofun, nofun, nofun, nofun, fun _ => ⟨rfl, rfl, rfl, 0,
        .parse (Or.inl (by simp [hp])), by simp⟩⟩
    · next e _ hp => exact ⟨nofun, nofun, nofun, nofun, fun _ => ⟨rfl, rfl, rfl, 0,
        .parse (Or.inr ⟨e, hp⟩), by simp⟩⟩
    · next dom _ hp =>
      have hdom : Document dom := (parse_writable hp).mono fun _ _ => trivial
      have hstart : Reached [] dom ⟨dom, false, []⟩ := ⟨by simp [fold], by simp, fun _ => rfl, hdom⟩
      have hrun := @runRules_spec faults dom rules [] _ hr hstart
      simp only [List.length_nil, List.nil_append] at hrun
      split
      · next e traces herr =>
        rw [herr] at hrun
        obtain ⟨i, hi, ht⟩ := hrun
        exact ⟨nofun, nofun, nofun, nofun, fun _ => ⟨rfl, rfl, rfl, i + 1, .rule hp hi, ht⟩⟩
      · next p hok =>
        rw [hok] at hrun
        dsimp only
        split_ifs with hm
        · simp only [Bool.not_eq_true'] at hm
          refine ⟨fun _ => hrun.traces, fun _ => rfl, nofun, fun _ _ => ⟨rfl, fun _ => ⟨dom, hp⟩,
            fun dom' hp' => ?_⟩, nofun⟩
          rw [hp] at hp'
          cases hp'
          rw [hrun.fold, hrun.unmodified hm]
        · have htraces : p.traces.map RuleTrace.rule =
              (rules.take rules.length).map CompiledRule.name := by
            simpa using hrun.traces
          rcases hs : faults.serialize with _ | e
          · rcases hd : dump p.candidate with _ | text
            · exact ⟨nofun, nofun, nofun, nofun, fun _ => ⟨rfl, rfl, rfl, rules.length,
                .serialize hp hrun.fold (Or.inr hd), htraces⟩⟩
            · exact ⟨fun _ => hrun.traces, fun _ => rfl, fun _ _ => ⟨dom, p.candidate, text,
                canon p.candidate, hp, hrun.fold, rfl, parse_dump hrun.document hd,
                equal_canon hrun.document⟩, nofun, nofun⟩
          · exact ⟨nofun, nofun, nofun, nofun, fun _ => ⟨rfl, rfl, rfl, rules.length,
              .serialize hp hrun.fold (Or.inl (by simp [hs])), htraces⟩⟩

/-- **The rule pipeline.** For every body and all definitions that the registry compiles, the
enabled rules are applied in their order, and the result is what they make of the body. -/
theorem pipeline_semantics {registry : RuleRegistry} (hreg : builtinRuleRegistry = .ok registry)
    {definitions : List RuleDefinition} {protocol : ProtocolDescriptor}
    (hdef : ∀ d ∈ definitions, DocumentOptions d) {rules : List CompiledRule}
    (hc : registry.compilePipeline definitions protocol = .ok rules)
    (faults : Interruptions) (body : Bytes) :
    List.Forall₂ (fun d rule => registry.compileRule protocol d = .ok rule)
      (definitions.filter (·.enabled)) rules ∧
    Meets rules faults body (applyPipeline rules faults body) := by
  have hall := compilePipeline_forall₂ hc
  refine ⟨hall, applyPipeline_meets (fun rule hrule => ?_) faults body⟩
  obtain ⟨i, hi, rfl⟩ := List.getElem_of_mem hrule
  have hd := List.getElem_mem (hall.length_eq ▸ hi)
  exact honest_compileRule hreg (hdef _ (List.mem_filter.mp hd).1) (hall.get (hall.length_eq ▸ hi) hi)

omit [Library] in
/-- A body whose field is set by one rule; the other rule is not enabled. -/
theorem pipeline_semantics_one_rule :
    let _ : Library := bitLibrary
    let definitions : List RuleDefinition :=
      [{ id := str "effort", enabled := true, type := str "set_field",
         options := [(str "path", .str (str "/a")), (str "value", .bool true)] },
       { id := str "unused", type := str "unknown" }]
    let body := str "\x7b\"a\":1\x7d"
    ∃ registry rules, builtinRuleRegistry = .ok registry ∧
      registry.compilePipeline definitions responsesHandler = .ok rules ∧
      (applyPipeline rules {} body).rewrittenBody = some (str "\x7b\"a\":true\x7d") ∧
      Meets rules {} body (applyPipeline rules {} body) := by
  intro _ definitions body
  have hrun : (match builtinRuleRegistry with
      | .ok registry => match registry.compilePipeline definitions responsesHandler with
        | .ok rules => (applyPipeline rules {} body).rewrittenBody
        | .error _ => none
      | .error _ => none) = some (str "\x7b\"a\":true\x7d") := by decide +kernel
  split at hrun
  · next registry hreg =>
    split at hrun
    · next rules hc =>
      refine ⟨registry, rules, hreg, hc, hrun, (pipeline_semantics hreg ?_ hc {} body).2⟩
      intro d hd o ho
      simp only [definitions, List.mem_cons, List.not_mem_nil, or_false] at hd
      rcases hd with rfl | rfl
      · simp only [List.mem_cons, List.not_mem_nil, or_false] at ho
        rcases ho with rfl | rfl <;> trivial
      · cases ho
    · cases hrun
  · cases hrun

end CcsTrans.Rules
