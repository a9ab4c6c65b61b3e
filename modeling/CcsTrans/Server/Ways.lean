import CcsTrans.Server.Processing

/-!
What can be seen of the programs of the server.

The parts they hand over are seen, with whether they were sent, and the memory they are refused.
The pipeline gives the result it gives with all the memory it asks for, or reports that there
was none.
-/

namespace CcsTrans.Server

open CcsTrans.Text CcsTrans.Config CcsTrans.Json CcsTrans.Protocols CcsTrans.Routing CcsTrans.Rules
open CcsTrans.Logging CcsTrans.Procs

/-! ### Marks -/

inductive Mark where
  | refused
  | sent (part : Part) (ok : Bool)

/-- The answer to a reservation is seen if it is a refusal. -/
def refusal (granted : Bool) : Option Mark := if granted then none else some .refused

def view : Event Op Ans → Option Mark
  | ⟨.reserve _, granted⟩ => refusal granted
  | ⟨.release _, _⟩ => none
  | ⟨.log _, _⟩ => none
  | ⟨.elapsed, _⟩ => none
  | ⟨.send part, ok⟩ => some (.sent part ok)

/-- The part of a mark. -/
def Mark.part? : Mark → Option Part
  | .refused => none
  | .sent part _ => some part

/-- The parts of some marks. -/
def partsOf (ms : List Mark) : List Part := ms.filterMap Mark.part?

@[simp] lemma partsOf_nil : partsOf [] = [] := rfl
@[simp] lemma partsOf_refused (ms : List Mark) : partsOf (.refused :: ms) = partsOf ms := rfl
@[simp] lemma partsOf_sent (part : Part) (ok : Bool) (ms : List Mark) :
    partsOf (.sent part ok :: ms) = part :: partsOf ms := rfl

@[simp] lemma partsOf_append (ms ms' : List Mark) : partsOf (ms ++ ms') = partsOf ms ++ partsOf ms' := by
  simp [partsOf]

/-- What has been handed over can be seen. -/
lemma partsOf_filterMap_view (h : List (Event Op Ans)) : partsOf (h.filterMap view) = handed h := by
  rw [partsOf, List.filterMap_filterMap, handed]
  congr 1
  ext ⟨o, a⟩ : 1
  cases o with
  | reserve bytes =>
    change (refusal a).bind Mark.part? = none
    cases a <;> rfl
  | _ => rfl

instance : ∀ o, Inhabited (Ans o)
  | .reserve _ => ⟨(true : Bool)⟩
  | .release _ => ⟨()⟩
  | .log _ => ⟨(true : Bool)⟩
  | .elapsed => ⟨(0 : ℕ)⟩
  | .send _ => ⟨(true : Bool)⟩

/-! ### Small programs -/

section Small

variable {seen : List Mark}

lemma seen_reserve_iff {bytes : ℕ} {r : Except Exception Bool} : Seen view (reserve bytes) seen r ↔
    seen = [] ∧ r = .ok true ∨ seen = [.refused] ∧ r = .ok false := by
  rw [reserve, seen_op_iff]
  constructor
  · rintro ⟨b, rfl, rfl⟩
    cases b
    · exact .inr ⟨rfl, rfl⟩
    · exact .inl ⟨rfl, rfl⟩
  · rintro (⟨rfl, rfl⟩ | ⟨rfl, rfl⟩)
    · exact ⟨true, rfl, rfl⟩
    · exact ⟨false, rfl, rfl⟩

lemma seen_send_iff {part : Part} {r : Except Exception Bool} : Seen view (send part) seen r ↔
    ∃ ok, seen = [.sent part ok] ∧ r = .ok ok := by
  rw [send, seen_op_iff]
  exact Iff.rfl

lemma seen_release_iff {bytes : ℕ} {r : Except Exception Unit} :
    Seen view (release bytes) seen r ↔ seen = [] ∧ ∃ a, r = .ok a := by
  rw [release, seen_op_iff]
  constructor
  · rintro ⟨a, rfl, rfl⟩
    exact ⟨rfl, a, rfl⟩
  · rintro ⟨rfl, a, rfl⟩
    exact ⟨a, rfl, rfl⟩

lemma seen_elapsed_iff {r : Except Exception ℕ} :
    Seen view elapsed seen r ↔ seen = [] ∧ ∃ a, r = .ok a := by
  rw [elapsed, seen_op_iff]
  constructor
  · rintro ⟨a, rfl, rfl⟩
    exact ⟨rfl, a, rfl⟩
  · rintro ⟨rfl, a, rfl⟩
    exact ⟨a, rfl, rfl⟩

lemma seen_log_iff {g : Generation} {level event : String} {fields : List LogField}
    {r : Except Exception Unit} :
    Seen view (log g level event fields) seen r ↔ seen = [] ∧ ∃ a, r = .ok a := by
  unfold log
  split
  · rw [seen_bind_of_unseen]
    · simp only [seen_pure_iff]
      exact ⟨fun ⟨_, hnil, hok⟩ => ⟨hnil, _, hok⟩, fun ⟨hnil, _, hok⟩ => ⟨true, hnil, hok⟩⟩
    · intro seen r
      rw [seen_op_iff]
      constructor
      · rintro ⟨a, rfl, rfl⟩
        exact ⟨rfl, a, rfl⟩
      · rintro ⟨rfl, a, rfl⟩
        exact ⟨a, rfl, rfl⟩
  · rw [seen_pure_iff]
    exact ⟨fun ⟨hnil, hok⟩ => ⟨hnil, _, hok⟩, fun ⟨hnil, _, hok⟩ => ⟨hnil, hok⟩⟩

variable {β : Type} {r : Except Exception β}

lemma seen_release_bind_iff {bytes : ℕ} {f : Unit → Program β} :
    Seen view (release bytes >>= f) seen r ↔ Seen view (f ()) seen r := by
  rw [seen_bind_of_unseen fun _ _ => seen_release_iff]
  exact ⟨fun ⟨_, hrest⟩ => hrest, fun hrest => ⟨(), hrest⟩⟩

lemma seen_elapsed_bind_iff {f : ℕ → Program β} :
    Seen view (elapsed >>= f) seen r ↔ ∃ ms, Seen view (f ms) seen r :=
  seen_bind_of_unseen fun _ _ => seen_elapsed_iff

lemma seen_log_bind_iff {g : Generation} {level event : String} {fields : List LogField}
    {f : Unit → Program β} :
    Seen view (log g level event fields >>= f) seen r ↔ Seen view (f ()) seen r := by
  rw [seen_bind_of_unseen fun _ _ => seen_log_iff]
  exact ⟨fun ⟨_, hrest⟩ => hrest, fun hrest => ⟨(), hrest⟩⟩

lemma seen_reserve_bind_iff {bytes : ℕ} {f : Bool → Program β} :
    Seen view (reserve bytes >>= f) seen r ↔
      Seen view (f true) seen r ∨ ∃ rest, seen = .refused :: rest ∧ Seen view (f false) rest r := by
  simp only [seen_bind_iff, seen_reserve_iff, reduceCtorEq, and_false, or_self, exists_false, or_false,
    Except.ok.injEq]
  constructor
  · rintro ⟨before, a, after, rfl, (⟨rfl, rfl⟩ | ⟨rfl, rfl⟩), hrest⟩
    · exact .inl hrest
    · exact .inr ⟨after, rfl, hrest⟩
  · rintro (hrest | ⟨rest, rfl, hrest⟩)
    · exact ⟨[], true, seen, rfl, .inl ⟨rfl, rfl⟩, hrest⟩
    · exact ⟨[.refused], false, rest, rfl, .inr ⟨rfl, rfl⟩, hrest⟩

lemma seen_send_bind_iff {part : Part} {f : Bool → Program β} :
    Seen view (send part >>= f) seen r ↔
      ∃ ok rest, seen = .sent part ok :: rest ∧ Seen view (f ok) rest r := by
  simp only [seen_bind_iff, seen_send_iff, reduceCtorEq, and_false, exists_false, or_false,
    Except.ok.injEq]
  constructor
  · rintro ⟨before, a, after, rfl, ⟨_, rfl, rfl⟩, hrest⟩
    exact ⟨a, after, rfl, hrest⟩
  · rintro ⟨ok, rest, rfl, hrest⟩
    exact ⟨[.sent part ok], ok, rest, rfl, ⟨ok, rfl, rfl⟩, hrest⟩

lemma seen_orThrow_bind_iff {o : Option HttpResponse} {f : HttpResponse → Program β} :
    Seen view (orThrow o >>= f) seen r ↔
      (∃ response, o = some response ∧ Seen view (f response) seen r) ∨
      o = none ∧ seen = [] ∧ r = .error (.std dumpError) := by
  cases o with
  | none =>
    simp only [orThrow, seen_bind_iff, seen_throw_iff, reduceCtorEq, and_false, false_and, exists_false,
      false_or, true_and]
    constructor
    · rintro ⟨e, rfl, rfl, he⟩
      cases he
      exact ⟨rfl, rfl⟩
    · rintro ⟨rfl, rfl⟩
      exact ⟨_, rfl, rfl, rfl⟩
  | some response =>
    simp only [orThrow, seen_bind_iff, seen_pure_iff, reduceCtorEq, and_false, exists_false, or_false,
      false_and, Option.some.injEq, exists_eq_left', Except.ok.injEq]
    constructor
    · rintro ⟨before, a, after, rfl, ⟨rfl, rfl⟩, hrest⟩
      exact hrest
    · intro hrest
      exact ⟨[], response, seen, rfl, ⟨rfl, rfl⟩, hrest⟩

end Small

/-! ### Responses -/

/-- A response is handed over, up to a part that is not sent. -/
inductive Delivers (response : HttpResponse) : List Mark → Bool → Prop
  | lost : Delivers response [.sent (.head response true) false] false
  | bare (empty : response.body = []) : Delivers response [.sent (.head response true) true] true
  | full (body : response.body ≠ []) (ok : Bool) :
      Delivers response [.sent (.head response true) true, .sent (.body response) ok] ok

lemma Delivers.prefix {response : HttpResponse} {ms : List Mark} {ok : Bool}
    (h : Delivers response ms ok) : partsOf ms <+: [.head response true, .body response] := by
  cases h with
  | lost => exact ⟨[.body response], rfl⟩
  | bare _ => exact ⟨[.body response], rfl⟩
  | full _ ok => exact List.prefix_refl _

section Responses

variable {seen : List Mark} {r : Except Exception Bool}

lemma seen_reserveHead_iff {response : HttpResponse} {includeContentLength : Bool} {r : Except Exception ℕ} :
    Seen view (reserveHead response includeContentLength true) seen r ↔
      seen = [] ∧ r = .ok (headSize response includeContentLength) ∨
      seen = [.refused] ∧ r = .error .inflightBudgetExceeded := by
  change Seen view (reserve _ >>= fun granted => if granted = true then pure _ else throw _) seen r ↔ _
  rw [seen_reserve_bind_iff, if_pos rfl, if_neg Bool.false_ne_true, seen_pure_iff]
  simp only [seen_throw_iff]
  refine or_congr_right ⟨?_, ?_⟩
  · rintro ⟨rest, rfl, rfl, rfl⟩
    exact ⟨rfl, rfl⟩
  · rintro ⟨rfl, rfl⟩
    exact ⟨[], rfl, rfl, rfl⟩

/-- The memory for a head is there, or it is refused. -/
lemma seen_reserveHead_bind_iff {β : Type} {response : HttpResponse} {includeContentLength : Bool}
    {f : ℕ → Program β} {r : Except Exception β} :
    Seen view (reserveHead response includeContentLength true >>= f) seen r ↔
      Seen view (f (headSize response includeContentLength)) seen r ∨
      seen = [.refused] ∧ r = .error .inflightBudgetExceeded := by
  rw [seen_bind_iff]
  simp only [seen_reserveHead_iff]
  constructor
  · rintro (⟨_, _, after, rfl, (⟨rfl, hsize⟩ | ⟨_, herror⟩), hrest⟩ | ⟨e, rfl, (⟨_, hok⟩ | ⟨rfl, he⟩)⟩)
    · cases hsize
      exact .inl hrest
    · cases herror
    · cases hok
    · cases he
      exact .inr ⟨rfl, rfl⟩
  · rintro (hrest | ⟨rfl, rfl⟩)
    · exact .inl ⟨[], _, seen, rfl, .inl ⟨rfl, rfl⟩, hrest⟩
    · exact .inr ⟨_, rfl, .inr ⟨rfl, rfl⟩⟩

lemma seen_sendBody_iff {response : HttpResponse} {sent : Bool} {memory : ℕ} :
    Seen view (do
      let sent ← if sent && response.body ≠ [] then send (.body response) else pure sent
      release memory
      pure sent) seen r ↔
    if sent && response.body ≠ [] then ∃ ok, seen = [.sent (.body response) ok] ∧ r = .ok ok
    else seen = [] ∧ r = .ok sent := by
  split
  · simp only [seen_send_bind_iff, seen_release_bind_iff, seen_pure_iff]
    constructor
    · rintro ⟨ok, rest, rfl, rfl, rfl⟩
      exact ⟨ok, rfl, rfl⟩
    · rintro ⟨ok, rfl, rfl⟩
      exact ⟨ok, [], rfl, rfl, rfl⟩
  · change Seen view (release memory >>= fun _ => pure sent) seen r ↔ _
    rw [seen_release_bind_iff, seen_pure_iff]

/-- A response without a budget is handed over. -/
lemma seen_sendResponse_iff {response : HttpResponse} {budgeted : Bool} :
    Seen view (sendResponse response budgeted) seen r ↔
      (∃ ok, Delivers response seen ok ∧ r = .ok ok) ∨
      budgeted = true ∧ seen = [.refused] ∧ r = .error .inflightBudgetExceeded := by
  have hdelivers : (∃ ok rest, seen = .sent (.head response true) ok :: rest ∧
      if ok && response.body ≠ [] then ∃ ok', rest = [.sent (.body response) ok'] ∧ r = .ok ok'
      else rest = [] ∧ r = .ok ok) ↔ ∃ ok, Delivers response seen ok ∧ r = .ok ok := by
    constructor
    · rintro ⟨ok, rest, rfl, hrest⟩
      cases ok with
      | false =>
        obtain ⟨rfl, rfl⟩ := hrest
        exact ⟨false, .lost, rfl⟩
      | true =>
        by_cases hbody : response.body = []
        · simp only [hbody, ne_eq, not_true_eq_false, decide_false, Bool.and_false,
            Bool.false_eq_true, if_false] at hrest
          obtain ⟨rfl, rfl⟩ := hrest
          exact ⟨true, .bare hbody, rfl⟩
        · simp only [hbody, ne_eq, not_false_eq_true, decide_true, Bool.and_true, if_true] at hrest
          obtain ⟨ok, rfl, rfl⟩ := hrest
          exact ⟨ok, .full hbody ok, rfl⟩
    · rintro ⟨ok, hdelivers, rfl⟩
      cases hdelivers with
      | lost => exact ⟨false, [], rfl, by simp⟩
      | bare hempty => exact ⟨true, [], rfl, by simp [hempty]⟩
      | full hbody ok => exact ⟨true, _, rfl, by simp [hbody]⟩
  cases budgeted with
  | false =>
    change Seen view (send (.head response true) >>= _) seen r ↔ _
    simp only [seen_send_bind_iff, seen_sendBody_iff, hdelivers, Bool.false_eq_true, false_and, or_false]
  | true =>
    change Seen view (reserveHead response true true >>= fun _ => send (.head response true) >>= _) seen r ↔ _
    simp only [seen_reserveHead_bind_iff, seen_send_bind_iff, seen_sendBody_iff, hdelivers, true_and]

end Responses

/-! ### The pipeline -/

section Pipeline

variable {seen : List Mark} {β : Type} {r : Except Exception β}

lemma seen_allocate {held : ℕ} {as : List Allocation} {r : Except Exception (Bool × ℕ)}
    (h : Seen view (allocate held as) seen r) : ∃ held',
    seen = [] ∧ r = .ok (true, held') ∨ seen = [.refused] ∧ r = .ok (false, held') := by
  induction as generalizing held seen with
  | nil =>
    obtain ⟨rfl, rfl⟩ := seen_pure_iff.mp h
    exact ⟨held, .inl ⟨rfl, rfl⟩⟩
  | cons a as ih =>
    cases a with
    | acquire bytes =>
      rcases seen_reserve_bind_iff.mp h with hgranted | ⟨rest, rfl, hrefused⟩
      · exact ih hgranted
      · obtain ⟨rfl, rfl⟩ := seen_pure_iff.mp hrefused
        exact ⟨held, .inr ⟨rfl, rfl⟩⟩
    | free bytes => exact ih (seen_release_bind_iff.mp h)

/-- All allocations may be granted. -/
lemma exists_seen_allocate (held : ℕ) (as : List Allocation) :
    ∃ held', Seen view (allocate held as) [] (.ok (true, held')) := by
  induction as generalizing held with
  | nil => exact ⟨held, seen_pure_iff.mpr ⟨rfl, rfl⟩⟩
  | cons a as ih =>
    cases a with
    | acquire bytes =>
      obtain ⟨held', hrest⟩ := ih (held + bytes)
      exact ⟨held', seen_reserve_bind_iff.mpr (.inl hrest)⟩
    | free bytes =>
      obtain ⟨held', hrest⟩ := ih (held - min bytes held)
      exact ⟨held', seen_release_bind_iff.mpr hrest⟩

lemma seen_allocate_bind {held : ℕ} {as : List Allocation} {f : Bool × ℕ → Program β}
    (h : Seen view (allocate held as >>= f) seen r) : ∃ held', Seen view (f (true, held')) seen r ∨
      ∃ rest, seen = .refused :: rest ∧ Seen view (f (false, held')) rest r := by
  rcases seen_bind_iff.mp h with ⟨before, a, after, rfl, hfirst, hrest⟩ | ⟨e, rfl, hfirst⟩
  · obtain ⟨held', ⟨rfl, ha⟩ | ⟨rfl, ha⟩⟩ := seen_allocate hfirst
    · cases ha
      exact ⟨held', .inl hrest⟩
    · cases ha
      exact ⟨held', .inr ⟨after, rfl, hrest⟩⟩
  · obtain ⟨held', ⟨_, ha⟩ | ⟨_, ha⟩⟩ := seen_allocate hfirst <;> cases ha

/-- The rules give what they give with all memory, or stop at the one that is refused some. -/
lemma seen_runRulesIn {a : Allocations} {i held : ℕ} {p : Progress} {rules : List CompiledRule}
    {r : Except Exception (Except (RulePipelineError × List RuleTrace) Progress × ℕ)}
    (h : Seen view (runRulesIn a i held p rules) seen r) : ∃ held',
    seen = [] ∧ r = .ok (runRules a.faults i p rules, held') ∨
    ∃ rule traces, seen = [.refused] ∧
      r = .ok (.error (budgetExhausted (some rule), traces), held') := by
  induction rules generalizing i held p seen with
  | nil =>
    obtain ⟨rfl, rfl⟩ := seen_pure_iff.mp h
    exact ⟨held, .inl ⟨rfl, rfl⟩⟩
  | cons rule rules ih =>
    obtain ⟨held', hgranted | ⟨rest, rfl, hrefused⟩⟩ := seen_allocate_bind h
    · simp only [interruption, if_true] at hgranted
      rw [runRules]
      cases hfault : a.faults.rule i with
      | some e =>
        simp only [hfault] at hgranted ⊢
        obtain ⟨rfl, rfl⟩ := seen_pure_iff.mp hgranted
        exact ⟨held', .inl ⟨rfl, rfl⟩⟩
      | none =>
        cases happly : rule.apply p.candidate with
        | mk result candidate =>
          simp only [hfault, happly] at hgranted ⊢
          cases result with
          | ok result => exact ih hgranted
          | error e =>
            obtain ⟨rfl, rfl⟩ := seen_pure_iff.mp hgranted
            exact ⟨held', .inl ⟨rfl, rfl⟩⟩
    · obtain ⟨rfl, rfl⟩ := seen_pure_iff.mp hrefused
      exact ⟨held', .inr ⟨rule, _, rfl, rfl⟩⟩

lemma exists_seen_runRulesIn (a : Allocations) (i held : ℕ) (p : Progress) (rules : List CompiledRule) :
    ∃ held', Seen view (runRulesIn a i held p rules) [] (.ok (runRules a.faults i p rules, held')) := by
  induction rules generalizing i held p with
  | nil => exact ⟨held, seen_pure_iff.mpr ⟨rfl, rfl⟩⟩
  | cons rule rules ih =>
    obtain ⟨granted, hfirst⟩ := exists_seen_allocate held (a.rule i)
    rw [runRules]
    cases hfault : a.faults.rule i with
    | some e =>
      refine ⟨granted, seen_bind_iff.mpr (.inl ⟨[], _, [], rfl, hfirst, ?_⟩)⟩
      simp only [interruption, if_true, hfault]
      exact seen_pure_iff.mpr ⟨rfl, rfl⟩
    | none =>
      cases happly : rule.apply p.candidate with
      | mk result candidate =>
        cases result with
        | ok result =>
          obtain ⟨held', hrest⟩ := ih (i + 1) granted
            ⟨candidate, p.modified || result.modified, p.traces ++ [makeTrace rule result]⟩
          refine ⟨held', seen_bind_iff.mpr (.inl ⟨[], _, [], rfl, hfirst, ?_⟩)⟩
          simp only [interruption, if_true, hfault, happly]
          exact hrest
        | error e =>
          refine ⟨granted, seen_bind_iff.mpr (.inl ⟨[], _, [], rfl, hfirst, ?_⟩)⟩
          simp only [interruption, if_true, hfault, happly]
          exact seen_pure_iff.mpr ⟨rfl, rfl⟩

variable [Library]

/-- What a pipeline reports that has been refused memory. -/
def Exhausted (result : RulePipelineResult) : Prop :=
  result.ok = false ∧ ∃ rule, result.error = some (budgetExhausted rule)

/-- What is written of a document, when there is memory. -/
def serialized (faults : Interruptions) (result : RulePipelineResult) (candidate : Value) :
    RulePipelineResult :=
  match faults.serialize, dump candidate with
  | none, some text =>
    { result with modified := true, rewrittenBody := some text, outputBodySize := text.length }
  | e, _ => { result with ok := false, error := some (serializeFailure e) }

lemma seen_serializeIn {a : Allocations} {held : ℕ} {result : RulePipelineResult} {candidate : Value}
    {r : Except Exception (RulePipelineResult × ℕ)}
    (h : Seen view (serializeIn a held result candidate) seen r) : ∃ held',
    seen = [] ∧ r = .ok (serialized a.faults result candidate, held') ∨
    ∃ result', seen = [.refused] ∧ r = .ok (result', held') ∧ Exhausted result' := by
  obtain ⟨held', hgranted | ⟨rest, rfl, hrefused⟩⟩ := seen_allocate_bind h
  · simp only [interruption, if_true] at hgranted
    rw [serialized]
    cases hfault : a.faults.serialize with
    | some e =>
      simp only [hfault] at hgranted ⊢
      obtain ⟨rfl, rfl⟩ := seen_pure_iff.mp hgranted
      exact ⟨held', .inl ⟨rfl, rfl⟩⟩
    | none =>
      cases hdump : dump candidate with
      | none =>
        simp only [hfault, hdump] at hgranted ⊢
        obtain ⟨rfl, rfl⟩ := seen_pure_iff.mp hgranted
        exact ⟨held', .inl ⟨rfl, rfl⟩⟩
      | some text =>
        simp only [hfault, hdump] at hgranted ⊢
        rcases seen_reserve_bind_iff.mp hgranted with hkept | ⟨rest, rfl, hlost⟩
        · obtain ⟨rfl, rfl⟩ := seen_pure_iff.mp hkept
          exact ⟨held', .inl ⟨rfl, rfl⟩⟩
        · obtain ⟨rfl, rfl⟩ := seen_pure_iff.mp hlost
          exact ⟨held', .inr ⟨_, rfl, rfl, rfl, none, rfl⟩⟩
  · obtain ⟨rfl, rfl⟩ := seen_pure_iff.mp hrefused
    exact ⟨held', .inr ⟨_, rfl, rfl, rfl, none, rfl⟩⟩

lemma exists_seen_serializeIn (a : Allocations) (held : ℕ) (result : RulePipelineResult)
    (candidate : Value) : ∃ held', Seen view (serializeIn a held result candidate) []
      (.ok (serialized a.faults result candidate, held')) := by
  obtain ⟨held', hfirst⟩ := exists_seen_allocate held a.serialize
  refine ⟨held', seen_bind_iff.mpr (.inl ⟨[], _, [], rfl, hfirst, ?_⟩)⟩
  simp only [interruption, if_true, serialized]
  cases hfault : a.faults.serialize with
  | some e => exact seen_pure_iff.mpr ⟨rfl, rfl⟩
  | none =>
    cases hdump : dump candidate with
    | none => exact seen_pure_iff.mpr ⟨rfl, rfl⟩
    | some text => exact seen_reserve_bind_iff.mpr (.inl (seen_pure_iff.mpr ⟨rfl, rfl⟩))

lemma seen_runPipelineIn {rules : List CompiledRule} (hrules : rules.isEmpty = false) {a : Allocations}
    {body : Bytes} {r : Except Exception (RulePipelineResult × ℕ)}
    (h : Seen view (runPipelineIn rules a body) seen r) : ∃ held',
    seen = [] ∧ r = .ok (applyPipeline rules a.faults body, held') ∨
    ∃ result, seen = [.refused] ∧ r = .ok (result, held') ∧ Exhausted result := by
  obtain ⟨held, hgranted | ⟨rest, rfl, hrefused⟩⟩ := seen_allocate_bind h
  · simp only [interruption, if_true] at hgranted
    simp only [applyPipeline, hrules, Bool.false_eq_true, if_false]
    cases hfault : a.faults.parse with
    | some e =>
      simp only [hfault] at hgranted ⊢
      obtain ⟨rfl, rfl⟩ := seen_pure_iff.mp hgranted
      exact ⟨held, .inl ⟨rfl, rfl⟩⟩
    | none =>
      cases hparse : parse body with
      | error e =>
        simp only [hfault, hparse] at hgranted ⊢
        obtain ⟨rfl, rfl⟩ := seen_pure_iff.mp hgranted
        exact ⟨held, .inl ⟨rfl, rfl⟩⟩
      | ok dom =>
        simp only [hfault, hparse] at hgranted ⊢
        rcases seen_bind_iff.mp hgranted with ⟨before, x, after, rfl, hrun, hrest⟩ | ⟨e, rfl, hrun⟩
        · obtain ⟨held', ⟨rfl, hx⟩ | ⟨rule, traces, rfl, hx⟩⟩ := seen_runRulesIn hrun
          · cases hx
            cases hresult : runRules a.faults 0 ⟨dom, false, []⟩ rules with
            | error failure =>
              simp only [hresult] at hrest ⊢
              obtain ⟨rfl, rfl⟩ := seen_pure_iff.mp hrest
              exact ⟨held', .inl ⟨rfl, rfl⟩⟩
            | ok p =>
              simp only [hresult] at hrest ⊢
              cases hmodified : p.modified with
              | false =>
                simp only [hmodified, Bool.not_false, if_true] at hrest ⊢
                obtain ⟨rfl, rfl⟩ := seen_pure_iff.mp hrest
                exact ⟨held', .inl ⟨rfl, rfl⟩⟩
              | true =>
                simp only [hmodified, Bool.not_true, Bool.false_eq_true, if_false] at hrest ⊢
                exact seen_serializeIn hrest
          · cases hx
            obtain ⟨rfl, rfl⟩ := seen_pure_iff.mp hrest
            exact ⟨held', .inr ⟨_, rfl, rfl, rfl, some rule, rfl⟩⟩
        · obtain ⟨_, ⟨_, hx⟩ | ⟨_, _, _, hx⟩⟩ := seen_runRulesIn hrun <;> cases hx
  · obtain ⟨rfl, rfl⟩ := seen_pure_iff.mp hrefused
    exact ⟨held, .inr ⟨_, rfl, rfl, rfl, none, rfl⟩⟩

lemma exists_seen_runPipelineIn {rules : List CompiledRule} (hrules : rules.isEmpty = false)
    (a : Allocations) (body : Bytes) : ∃ held', Seen view (runPipelineIn rules a body) []
      (.ok (applyPipeline rules a.faults body, held')) := by
  obtain ⟨held, hfirst⟩ := exists_seen_allocate 0 a.parse
  simp only [applyPipeline, hrules, Bool.false_eq_true, if_false]
  cases hfault : a.faults.parse with
  | some e =>
    refine ⟨held, seen_bind_iff.mpr (.inl ⟨[], _, [], rfl, hfirst, ?_⟩)⟩
    simp only [interruption, if_true, hfault]
    exact seen_pure_iff.mpr ⟨rfl, rfl⟩
  | none =>
    cases hparse : parse body with
    | error e =>
      refine ⟨held, seen_bind_iff.mpr (.inl ⟨[], _, [], rfl, hfirst, ?_⟩)⟩
      simp only [interruption, if_true, hfault, hparse]
      exact seen_pure_iff.mpr ⟨rfl, rfl⟩
    | ok dom =>
      obtain ⟨ran, hrun⟩ := exists_seen_runRulesIn a 0 held ⟨dom, false, []⟩ rules
      cases hresult : runRules a.faults 0 ⟨dom, false, []⟩ rules with
      | error failure =>
        refine ⟨ran, seen_bind_iff.mpr (.inl ⟨[], _, [], rfl, hfirst, ?_⟩)⟩
        simp only [interruption, if_true, hfault, hparse]
        refine seen_bind_iff.mpr (.inl ⟨[], _, [], rfl, hrun, ?_⟩)
        simp only [hresult]
        exact seen_pure_iff.mpr ⟨rfl, rfl⟩
      | ok p =>
        obtain ⟨written, hwrite⟩ := exists_seen_serializeIn a ran
          { originalBodySize := body.length, outputBodySize := body.length, parseCount := 1,
            traces := p.traces, serializeCount := 1 } p.candidate
        refine ⟨if p.modified then written else ran,
          seen_bind_iff.mpr (.inl ⟨[], _, [], rfl, hfirst, ?_⟩)⟩
        simp only [interruption, if_true, hfault, hparse]
        refine seen_bind_iff.mpr (.inl ⟨[], _, [], rfl, hrun, ?_⟩)
        simp only [hresult]
        cases hmodified : p.modified with
        | false =>
          simp only [Bool.not_false, if_true, Bool.false_eq_true, if_false]
          exact seen_pure_iff.mpr ⟨rfl, rfl⟩
        | true =>
          simp only [Bool.not_true, Bool.false_eq_true, if_false, if_true]
          exact hwrite

/-- The pipeline gives what it gives with all memory, or it reports that there is none. -/
lemma seen_applyPipelineIn {rules : List CompiledRule} {a : Allocations} {body : Bytes}
    {r : Except Exception RulePipelineResult} (h : Seen view (applyPipelineIn rules a body) seen r) :
    seen = [] ∧ r = .ok (applyPipeline rules a.faults body) ∨
    ∃ result, seen = [.refused] ∧ r = .ok result ∧ Exhausted result := by
  unfold applyPipelineIn at h
  split at h
  case isTrue hempty =>
    obtain ⟨rfl, rfl⟩ := seen_pure_iff.mp h
    exact .inl ⟨rfl, by simp only [applyPipeline, hempty, if_true]⟩
  case isFalse hnonempty =>
    rw [Bool.not_eq_true] at hnonempty
    rcases seen_bind_iff.mp h with ⟨before, x, after, rfl, hrun, hrest⟩ | ⟨e, rfl, hrun⟩
    · change Seen view (release x.2 >>= fun _ => pure x.1) after r at hrest
      rw [seen_release_bind_iff, seen_pure_iff] at hrest
      obtain ⟨rfl, rfl⟩ := hrest
      rw [List.append_nil]
      obtain ⟨held, ⟨rfl, hx⟩ | ⟨result, rfl, hx, hexhausted⟩⟩ := seen_runPipelineIn hnonempty hrun
      · cases hx
        exact .inl ⟨rfl, rfl⟩
      · cases hx
        exact .inr ⟨result, rfl, rfl, hexhausted⟩
    · obtain ⟨_, ⟨_, hx⟩ | ⟨_, _, hx, _⟩⟩ := seen_runPipelineIn hnonempty hrun <;> cases hx

lemma exists_seen_applyPipelineIn (rules : List CompiledRule) (a : Allocations) (body : Bytes) :
    Seen view (applyPipelineIn rules a body) [] (.ok (applyPipeline rules a.faults body)) := by
  unfold applyPipelineIn
  split
  case isTrue hempty =>
    exact seen_pure_iff.mpr ⟨rfl, by simp only [applyPipeline, hempty, if_true]⟩
  case isFalse hnonempty =>
    rw [Bool.not_eq_true] at hnonempty
    obtain ⟨held, hrun⟩ := exists_seen_runPipelineIn hnonempty a body
    refine seen_bind_iff.mpr (.inl ⟨[], _, [], rfl, hrun, ?_⟩)
    exact seen_release_bind_iff.mpr (seen_pure_iff.mpr ⟨rfl, rfl⟩)

end Pipeline

end CcsTrans.Server
