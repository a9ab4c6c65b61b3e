import CcsTrans.Runs
import Mathlib.Logic.Function.Basic
import Mathlib.Data.List.Count

/-!
Cancellation.

Calls to register a callback, to cancel, and to drop a registration come from any threads. Every
atomic operation and everything under the lock is one step, and between two steps of one call the
others go on. A callback belongs to who finds it active and clears that: it is claimed then.
-/

namespace CcsTrans.Core.Cancellation

open CcsTrans.Runs

/-! ### Calls -/

/-- Where a call is: of `on_cancel` first, and of `cancel` then. Callbacks are numbered as they are made. -/
inductive Call where
  | unborn
  /-- Before the lock. -/
  | registering (id : ℕ)
  /-- With `invoke_now`, before the exchange and after it. -/
  | late (id : ℕ)
  | invoking (id : ℕ)
  /-- Before the exchange, before the lock, and in the loop. -/
  | cancelling
  | swapping
  | draining (rest : List ℕ)
  | calling (id : ℕ) (rest : List ℕ)
  | returned (result : Option Bool)

inductive Event where
  | claimed (id : ℕ)
  | invoked (id : ℕ)
  | dropped (id : ℕ)
  deriving DecidableEq

/-- A registration, as `on_cancel` has returned it or as someone keeps it. -/
inductive Slot where
  | returned (id : ℕ)
  | kept (name : ℕ)
  deriving DecidableEq

/-- The state of a source, the registrations, the calls, and what has happened. -/
structure System where
  cancelled : Bool := false
  callbacks : List ℕ := []
  active : ℕ → Bool := fun _ => true
  made : ℕ := 0
  slots : Slot → Option ℕ := fun _ => none
  calls : ℕ → Call := fun _ => .unborn
  begun : ℕ := 0
  history : List Event := []

inductive Act where
  | onCancel
  | cancel
  | go (i : ℕ)
  | destroy (slot : Slot)
  /-- By construction or by assignment. -/
  | move (target source : Slot)

namespace System

def setCall (s : System) (i : ℕ) (call : Call) : System := { s with calls := Function.update s.calls i call }

def record (s : System) (event : Event) : System := { s with history := s.history ++ [event] }

/-- `active.store(false)`, and `active.exchange(false)` where it was `true`. -/
def clear (s : System) (id : ℕ) : System := { s with active := Function.update s.active id false }

/-- A call begins. -/
def begin (s : System) (call : Call) : System := { s.setCall s.begun call with begun := s.begun + 1 }

/-- `CancellationRegistration::reset`. -/
def reset (s : System) (slot : Slot) : System :=
  match s.slots slot with
  | none => s
  | some id => { (s.clear id).record (.dropped id) with slots := Function.update s.slots slot none }

/-- A step of `on_cancel` or of `cancel`. -/
def go (s : System) (i : ℕ) : System :=
  match s.calls i with
  | .registering id =>
    if s.cancelled then s.setCall i (.late id)
    else { s.setCall i (.returned none) with
      callbacks := s.callbacks.filter (s.active ·) ++ [id]
      slots := Function.update s.slots (.returned id) (some id) }
  | .late id =>
    if s.active id then ((s.clear id).record (.claimed id)).setCall i (.invoking id)
    else s.setCall i (.returned none)
  | .invoking id => (s.record (.invoked id)).setCall i (.returned none)
  | .cancelling =>
    if s.cancelled then s.setCall i (.returned (some false))
    else { s.setCall i .swapping with cancelled := true }
  | .swapping => { s.setCall i (.draining s.callbacks) with callbacks := [] }
  | .draining [] => s.setCall i (.returned (some true))
  | .draining (id :: rest) =>
    if s.active id then ((s.clear id).record (.claimed id)).setCall i (.calling id rest)
    else s.setCall i (.draining rest)
  | .calling id rest => (s.record (.invoked id)).setCall i (.draining rest)
  | .unborn => s
  | .returned _ => s

def step (s : System) : Act → System
  | .onCancel => { s.begin (.registering s.made) with made := s.made + 1 }
  | .cancel => s.begin .cancelling
  | .go i => s.go i
  | .destroy slot => s.reset slot
  | .move target source =>
    if target = source then s
    else
      let s := s.reset target
      { s with slots := Function.update (Function.update s.slots target (s.slots source)) source none }

end System

def run (acts : List Act) : System := acts.foldl System.step {}

/-! ### What the calls are about -/

/-- The callback that a call has claimed and not invoked. -/
def Call.pending : Call → Option ℕ
  | .invoking id => some id
  | .calling id _ => some id
  | _ => none

/-- Whether a call has set the flag, and then whether it has taken the list. -/
def Call.stage : Call → ℕ
  | .swapping => 1
  | .draining _ => 2
  | .calling _ _ => 2
  | .returned (some true) => 2
  | _ => 0

/-- The callbacks that a call will look at. -/
def Call.covers : Call → List ℕ
  | .registering id => [id]
  | .late id => [id]
  | .draining rest => rest
  | .calling _ rest => rest
  | _ => []

/-- A call of `on_cancel` that has not returned. -/
def Call.Registers : Call → Prop
  | .registering _ => True
  | .late _ => True
  | .invoking _ => True
  | _ => False

/-- What is seen of the calls does not change when it does not change of the one that goes on. -/
lemma view_same {β : Type} (view : Call → β) {calls : ℕ → Call} {i : ℕ} {call : Call}
    (h : view call = view (calls i)) : view ∘ Function.update calls i call = view ∘ calls := by
  rw [Function.comp_update, h]
  exact Function.update_eq_self i (view ∘ calls)

lemma mem_snoc {history : List Event} {event last : Event} (hne : event ≠ last) :
    event ∈ history ++ [last] ↔ event ∈ history := by
  rw [List.mem_append, List.mem_singleton, or_iff_left hne]

lemma count_snoc {history : List Event} (event last : Event) (hne : event ≠ last) :
    (history ++ [last]).count event = history.count event := by
  rw [List.count_append, List.count_singleton, if_neg fun heq => hne (beq_iff_eq.mp heq).symm, Nat.add_zero]

/-! ### Claims -/

/-- Who has claimed a callback invokes it, and nobody else has or does. -/
structure Claims (active : ℕ → Bool) (history : List Event) (pending : ℕ → Option ℕ) : Prop where
  inactive : ∀ id, active id = false ↔ .claimed id ∈ history ∨ .dropped id ∈ history
  first : ∀ before id after, history = before ++ .claimed id :: after →
    .claimed id ∉ before ∧ .dropped id ∉ before
  waits : ∀ i id, pending i = some id → .claimed id ∈ history ∧ .invoked id ∉ history
  alone : ∀ i j id, pending i = some id → pending j = some id → i = j
  done : ∀ id, .claimed id ∈ history → .invoked id ∈ history ∨ ∃ i, pending i = some id
  known : ∀ id, .invoked id ∈ history → .claimed id ∈ history
  once : ∀ id, history.count (.invoked id) ≤ 1

section Claims

variable {active : ℕ → Bool} {history : List Event} {pending : ℕ → Option ℕ}

lemma Claims.drop (h : Claims active history pending) (id : ℕ) :
    Claims (Function.update active id false) (history ++ [.dropped id]) pending where
  inactive id' := by
    by_cases hid : id' = id
    · subst hid
      simp
    · have hne : Event.dropped id' ≠ .dropped id := fun heq => hid (Event.dropped.inj heq)
      rw [Function.update_of_ne hid, h.inactive, mem_snoc hne]
      simp only [List.mem_append, List.mem_singleton, reduceCtorEq, or_false]
  first before id' after heq := by
    rcases snoc_cases heq with ⟨-, hlast, -⟩ | ⟨rest, hhistory, -⟩
    · cases hlast
    · exact h.first before id' rest hhistory
  waits i id' hpending := by
    simp only [List.mem_append, List.mem_singleton, reduceCtorEq, or_false]
    exact h.waits i id' hpending
  alone := h.alone
  done id' hmem := by
    simp only [List.mem_append, List.mem_singleton, reduceCtorEq, or_false] at hmem ⊢
    exact h.done id' hmem
  known id' hmem := by
    simp only [List.mem_append, List.mem_singleton, reduceCtorEq, or_false] at hmem ⊢
    exact h.known id' hmem
  once id' := by
    rw [count_snoc (.invoked id') (.dropped id) nofun]
    exact h.once id'

lemma Claims.claim (h : Claims active history pending) {i id : ℕ} (hactive : active id = true)
    (hpending : pending i = none) :
    Claims (Function.update active id false) (history ++ [.claimed id]) (Function.update pending i (some id)) := by
  have hnot : .claimed id ∉ history ∧ .dropped id ∉ history := by
    rw [← not_or, ← h.inactive, hactive]
    exact Bool.noConfusion
  have hwaiting {j id' : ℕ} (hj : pending j = some id') : j ≠ i := fun heq => by
    rw [heq, hpending] at hj
    cases hj
  refine ⟨fun id' => ?_, fun before id' after heq => ?_, fun j id' hj => ?_, fun j k id' hj hk => ?_,
    fun id' hmem => ?_, fun id' hmem => ?_, fun id' => ?_⟩
  · by_cases hid : id' = id
    · subst hid
      simp
    · have hne : Event.claimed id' ≠ .claimed id := fun heq => hid (Event.claimed.inj heq)
      rw [Function.update_of_ne hid, h.inactive, mem_snoc hne]
      simp only [List.mem_append, List.mem_singleton, reduceCtorEq, or_false]
  · rcases snoc_cases heq with ⟨hhistory, hlast, -⟩ | ⟨rest, hhistory, -⟩
    · rw [← hhistory, ← Event.claimed.inj hlast]
      exact hnot
    · exact h.first before id' rest hhistory
  · simp only [List.mem_append, List.mem_singleton, reduceCtorEq, or_false]
    by_cases hji : j = i
    · subst hji
      rw [Function.update_self] at hj
      obtain rfl := Option.some.inj hj
      exact ⟨.inr rfl, fun hmem => hnot.1 (h.known _ hmem)⟩
    · rw [Function.update_of_ne hji] at hj
      obtain ⟨hclaimed, hinvoked⟩ := h.waits j id' hj
      exact ⟨.inl hclaimed, hinvoked⟩
  · -- nobody else waits to invoke what was not claimed
    have hother {l : ℕ} (hl : pending l ≠ some id) (hli : l ≠ i) (hid : id' = id) :
        Function.update pending i (some id) l ≠ some id' := by
      rw [Function.update_of_ne hli, hid]
      exact hl
    have hnone (l : ℕ) : pending l ≠ some id := fun hl => hnot.1 (h.waits l id hl).1
    by_cases hid : id' = id
    · by_cases hji : j = i
      · by_cases hki : k = i
        · rw [hji, hki]
        · exact absurd hk (hother (hnone k) hki hid)
      · exact absurd hj (hother (hnone j) hji hid)
    · have hold {l : ℕ} (hl : Function.update pending i (some id) l = some id') : pending l = some id' := by
        by_cases hli : l = i
        · rw [hli, Function.update_self] at hl
          exact absurd (Option.some.inj hl).symm hid
        · rwa [Function.update_of_ne hli] at hl
      exact h.alone j k id' (hold hj) (hold hk)
  · by_cases hid : id' = id
    · subst hid
      exact .inr ⟨i, Function.update_self ..⟩
    · rw [mem_snoc fun heq => hid (Event.claimed.inj heq)] at hmem
      rcases h.done id' hmem with hinvoked | ⟨j, hj⟩
      · exact .inl (List.mem_append_left _ hinvoked)
      · exact .inr ⟨j, by rw [Function.update_of_ne (hwaiting hj), hj]⟩
  · simp only [List.mem_append, List.mem_singleton, reduceCtorEq, or_false] at hmem
    exact List.mem_append_left _ (h.known id' hmem)
  · rw [count_snoc (.invoked id') (.claimed id) nofun]
    exact h.once id'

lemma Claims.invoke (h : Claims active history pending) {i id : ℕ} (hpending : pending i = some id) :
    Claims active (history ++ [.invoked id]) (Function.update pending i none) := by
  obtain ⟨hclaimed, hnot⟩ := h.waits i id hpending
  have hold {j id' : ℕ} (hj : Function.update pending i none j = some id') : j ≠ i ∧ pending j = some id' := by
    by_cases hji : j = i
    · rw [hji, Function.update_self] at hj
      cases hj
    · rw [Function.update_of_ne hji] at hj
      exact ⟨hji, hj⟩
  refine ⟨fun id' => ?_, fun before id' after heq => ?_, fun j id' hj => ?_, fun j k id' hj hk => ?_,
    fun id' hmem => ?_, fun id' hmem => ?_, fun id' => ?_⟩
  · simp only [List.mem_append, List.mem_singleton, reduceCtorEq, or_false]
    exact h.inactive id'
  · rcases snoc_cases heq with ⟨-, hlast, -⟩ | ⟨rest, hhistory, -⟩
    · cases hlast
    · exact h.first before id' rest hhistory
  · obtain ⟨hji, hj⟩ := hold hj
    obtain ⟨hclaimed', hnot'⟩ := h.waits j id' hj
    have hid : id' ≠ id := fun heq => hji (h.alone j i id (heq ▸ hj) hpending)
    rw [mem_snoc fun heq => hid (Event.invoked.inj heq)]
    exact ⟨List.mem_append_left _ hclaimed', hnot'⟩
  · exact h.alone j k id' (hold hj).2 (hold hk).2
  · by_cases hid : id' = id
    · subst hid
      exact .inl (List.mem_append_right _ (List.mem_singleton_self _))
    · simp only [List.mem_append, List.mem_singleton, reduceCtorEq, or_false] at hmem
      rcases h.done id' hmem with hinvoked | ⟨j, hj⟩
      · exact .inl (List.mem_append_left _ hinvoked)
      · have hji : j ≠ i := fun heq => by
          rw [heq, hpending] at hj
          exact hid (Option.some.inj hj).symm
        exact .inr ⟨j, by rw [Function.update_of_ne hji, hj]⟩
  · refine List.mem_append_left _ ?_
    by_cases hid : id' = id
    · subst hid
      exact hclaimed
    · rw [mem_snoc fun heq => hid (Event.invoked.inj heq)] at hmem
      exact h.known id' hmem
  · by_cases hid : id' = id
    · subst hid
      refine Nat.le_of_eq ?_
      rw [List.count_append, List.count_singleton_self, List.count_eq_zero.mpr hnot]
    · rw [count_snoc _ _ fun heq => hid (Event.invoked.inj heq)]
      exact h.once id'

end Claims

/-! ### The one that cancels -/

/-- At most one call has set the flag, and once it has taken the list nothing is in it. -/
structure Winner (cancelled : Bool) (callbacks : List ℕ) (stage : ℕ → ℕ) : Prop where
  flag : ∀ i, stage i ≠ 0 → cancelled = true
  unique : ∀ i j, stage i ≠ 0 → stage j ≠ 0 → i = j
  taken : ∀ i, stage i = 2 → callbacks = []

/-- Every callback that is active is in the list, or a call will look at it. -/
def Covered (made : ℕ) (active : ℕ → Bool) (callbacks : List ℕ) (covers : ℕ → List ℕ) : Prop :=
  ∀ id < made, active id = true → id ∈ callbacks ∨ ∃ i, id ∈ covers i

lemma Covered.update {made : ℕ} {active active' : ℕ → Bool} {callbacks callbacks' rest : List ℕ}
    {covers : ℕ → List ℕ} {i : ℕ} (h : Covered made active callbacks covers)
    (hactive : ∀ id, active' id = true → active id = true)
    (hkept : ∀ id, active' id = true → id ∈ callbacks ∨ id ∈ covers i → id ∈ callbacks' ∨ id ∈ rest) :
    Covered made active' callbacks' (Function.update covers i rest) := by
  intro id hmade hid
  have hplace (hmem : id ∈ callbacks ∨ id ∈ covers i) :
      id ∈ callbacks' ∨ ∃ j, id ∈ Function.update covers i rest j :=
    (hkept id hid hmem).imp_right fun hrest => ⟨i, by rwa [Function.update_self]⟩
  rcases h id hmade (hactive id hid) with hmem | ⟨j, hj⟩
  · exact hplace (.inl hmem)
  · by_cases hji : j = i
    · exact hplace (.inr (hji ▸ hj))
    · exact .inr ⟨j, by rwa [Function.update_of_ne hji]⟩

/-! ### Runs -/

structure Sound (s : System) : Prop where
  claims : Claims s.active s.history (Call.pending ∘ s.calls)
  winner : Winner s.cancelled s.callbacks (Call.stage ∘ s.calls)
  covered : Covered s.made s.active s.callbacks (Call.covers ∘ s.calls)
  unborn : ∀ i ≥ s.begun, s.calls i = .unborn

lemma sound_initial : Sound {} := by
  refine ⟨⟨fun id => ?_, fun before id after heq => ?_, nofun, nofun, nofun, nofun, fun id => Nat.zero_le _⟩,
    ⟨fun i hi => absurd rfl hi, fun i j hi => absurd rfl hi, nofun⟩, nofun, fun i _ => rfl⟩
  · exact ⟨nofun, nofun⟩
  · cases before <;> cases heq

lemma unborn_update {calls : ℕ → Call} {begun i : ℕ} (h : ∀ j ≥ begun, calls j = .unborn)
    (hi : calls i ≠ .unborn) (call : Call) : ∀ j ≥ begun, Function.update calls i call j = .unborn := by
  intro j hj
  have hji : j ≠ i := fun heq => hi (heq ▸ h j hj)
  rw [Function.update_of_ne hji]
  exact h j hj

/-- A callback that is cleared is not active, and another is what it was. -/
lemma active_of_clear {active : ℕ → Bool} {id id' : ℕ} (h : Function.update active id false id' = true) :
    id' ≠ id ∧ active id' = true := by
  by_cases hid : id' = id
  · rw [hid, Function.update_self] at h
    cases h
  · rw [Function.update_of_ne hid] at h
    exact ⟨hid, h⟩

lemma Sound.reset {s : System} (h : Sound s) (slot : Slot) : Sound (s.reset slot) := by
  unfold System.reset
  cases s.slots slot with
  | none => exact h
  | some id =>
    exact ⟨h.claims.drop id, h.winner, fun id' hmade hactive => h.covered id' hmade (active_of_clear hactive).2,
      h.unborn⟩

section Go

variable {s : System} (h : Sound s) {i id : ℕ} {old call : Call} (hcall : s.calls i = old)
  (hborn : old ≠ .unborn)
include h hcall hborn

/-- A call goes on that neither claims nor invokes, sets the flag or takes the list. -/
lemma Sound.setCall (hpending : call.pending = old.pending) (hstage : call.stage = old.stage)
    (hcovers : ∀ id, s.active id = true → id ∈ old.covers → id ∈ call.covers) : Sound (s.setCall i call) := by
  subst hcall
  refine ⟨?_, ?_, ?_, unborn_update h.unborn hborn call⟩
  · show Claims s.active s.history (Call.pending ∘ Function.update s.calls i call)
    rw [view_same Call.pending hpending]
    exact h.claims
  · show Winner s.cancelled s.callbacks (Call.stage ∘ Function.update s.calls i call)
    rw [view_same Call.stage hstage]
    exact h.winner
  · show Covered s.made s.active s.callbacks (Call.covers ∘ Function.update s.calls i call)
    rw [Function.comp_update]
    exact h.covered.update (fun id hid => hid) fun id hid hmem => hmem.imp_right (hcovers id hid)

/-- A call claims an active callback. -/
lemma Sound.claim (hactive : s.active id = true) (hnone : old.pending = none)
    (hpending : call.pending = some id) (hstage : call.stage = old.stage)
    (hcovers : ∀ id' ∈ old.covers, id' ≠ id → id' ∈ call.covers) :
    Sound (((s.clear id).record (.claimed id)).setCall i call) := by
  subst hcall
  refine ⟨?_, ?_, ?_, unborn_update h.unborn hborn call⟩
  · show Claims _ (s.history ++ [.claimed id]) (Call.pending ∘ Function.update s.calls i call)
    rw [Function.comp_update, hpending]
    exact h.claims.claim hactive hnone
  · show Winner s.cancelled s.callbacks (Call.stage ∘ Function.update s.calls i call)
    rw [view_same Call.stage hstage]
    exact h.winner
  · show Covered s.made _ s.callbacks (Call.covers ∘ Function.update s.calls i call)
    rw [Function.comp_update]
    refine h.covered.update (fun id' hid => (active_of_clear hid).2) fun id' hid hmem => ?_
    exact hmem.imp_right fun hold => hcovers id' hold (active_of_clear hid).1

/-- A call invokes what it has claimed. -/
lemma Sound.invoke (hsome : old.pending = some id) (hpending : call.pending = none)
    (hstage : call.stage = old.stage) (hcovers : old.covers = call.covers) :
    Sound ((s.record (.invoked id)).setCall i call) := by
  subst hcall
  refine ⟨?_, ?_, ?_, unborn_update h.unborn hborn call⟩
  · show Claims _ (s.history ++ [.invoked id]) (Call.pending ∘ Function.update s.calls i call)
    rw [Function.comp_update, hpending]
    exact h.claims.invoke hsome
  · show Winner s.cancelled s.callbacks (Call.stage ∘ Function.update s.calls i call)
    rw [view_same Call.stage hstage]
    exact h.winner
  · show Covered s.made s.active s.callbacks (Call.covers ∘ Function.update s.calls i call)
    rw [view_same Call.covers hcovers.symm]
    exact h.covered

end Go

section Lock

variable {s : System} (h : Sound s) {i : ℕ}
include h

/-- A callback is registered while there is no cancellation. -/
lemma Sound.register {id : ℕ} (hcall : s.calls i = .registering id) (hcancelled : s.cancelled = false) :
    Sound { s.setCall i (.returned none) with
      callbacks := s.callbacks.filter (s.active ·) ++ [id]
      slots := Function.update s.slots (.returned id) (some id) } := by
  have hstage (j : ℕ) : (s.calls j).stage = 0 := by
    by_contra hne
    rw [h.winner.flag j hne] at hcancelled
    cases hcancelled
  refine ⟨?_, ?_, ?_, unborn_update h.unborn (by rw [hcall]; nofun) _⟩
  · show Claims s.active s.history (Call.pending ∘ Function.update s.calls i (.returned none))
    rw [view_same Call.pending (by rw [hcall]; rfl)]
    exact h.claims
  · show Winner s.cancelled _ (Call.stage ∘ Function.update s.calls i (.returned none))
    rw [view_same Call.stage (by rw [hcall]; rfl)]
    refine ⟨h.winner.flag, h.winner.unique, fun j hj => ?_⟩
    rw [Function.comp_apply, hstage j] at hj
    cases hj
  · show Covered s.made s.active _ (Call.covers ∘ Function.update s.calls i (.returned none))
    rw [Function.comp_update]
    refine h.covered.update (fun id' hid => hid) fun id' hid hmem => .inl ?_
    rw [Function.comp_apply, hcall] at hmem
    rcases hmem with hmem | hmem
    · exact List.mem_append_left _ (List.mem_filter.mpr ⟨hmem, hid⟩)
    · exact List.mem_append_right _ hmem

/-- The flag is set by a call, the only one. -/
lemma Sound.win (hcall : s.calls i = .cancelling) (hcancelled : s.cancelled = false) :
    Sound { s.setCall i .swapping with cancelled := true } := by
  have hstage (j : ℕ) : (s.calls j).stage = 0 := by
    by_contra hne
    rw [h.winner.flag j hne] at hcancelled
    cases hcancelled
  have hother {j : ℕ} (hj : Function.update (Call.stage ∘ s.calls) i 1 j ≠ 0) : j = i := by
    by_contra hne
    rw [Function.update_of_ne hne] at hj
    exact hj (hstage j)
  refine ⟨?_, ?_, ?_, unborn_update h.unborn (by rw [hcall]; nofun) _⟩
  · show Claims s.active s.history (Call.pending ∘ Function.update s.calls i .swapping)
    rw [view_same Call.pending (by rw [hcall]; rfl)]
    exact h.claims
  · show Winner true s.callbacks (Call.stage ∘ Function.update s.calls i .swapping)
    rw [Function.comp_update]
    refine ⟨fun _ _ => rfl, fun j k hj hk => (hother hj).trans (hother hk).symm, fun j hj => ?_⟩
    rw [hother (hj.trans_ne (by decide)), Function.update_self] at hj
    cases hj
  · show Covered s.made s.active s.callbacks (Call.covers ∘ Function.update s.calls i .swapping)
    rw [view_same Call.covers (by rw [hcall]; rfl)]
    exact h.covered

/-- The list is taken by the call that has set the flag. -/
lemma Sound.swap (hcall : s.calls i = .swapping) :
    Sound { s.setCall i (.draining s.callbacks) with callbacks := [] } := by
  have hstage {j : ℕ} (hj : Function.update (Call.stage ∘ s.calls) i 2 j ≠ 0) : (Call.stage ∘ s.calls) j ≠ 0 := by
    by_cases hji : j = i
    · rw [hji, Function.comp_apply, hcall]
      nofun
    · rwa [Function.update_of_ne hji] at hj
  refine ⟨?_, ?_, ?_, unborn_update h.unborn (by rw [hcall]; nofun) _⟩
  · show Claims s.active s.history (Call.pending ∘ Function.update s.calls i (.draining s.callbacks))
    rw [view_same Call.pending (by rw [hcall]; rfl)]
    exact h.claims
  · show Winner s.cancelled [] (Call.stage ∘ Function.update s.calls i (.draining s.callbacks))
    rw [Function.comp_update]
    exact ⟨fun j hj => h.winner.flag j (hstage hj), fun j k hj hk => h.winner.unique j k (hstage hj) (hstage hk),
      fun _ _ => rfl⟩
  · show Covered s.made s.active [] (Call.covers ∘ Function.update s.calls i (.draining s.callbacks))
    rw [Function.comp_update]
    refine h.covered.update (fun id hid => hid) fun id hid hmem => .inr ?_
    rw [Function.comp_apply, hcall] at hmem
    exact hmem.resolve_right List.not_mem_nil

lemma Sound.go (i : ℕ) : Sound (s.go i) := by
  unfold System.go
  cases hcall : s.calls i with
  | unborn => exact h
  | returned result => exact h
  | registering id =>
    dsimp only
    split_ifs with hcancelled
    · exact h.setCall hcall nofun rfl rfl fun _ _ hmem => hmem
    · exact h.register hcall (Bool.not_eq_true _ ▸ hcancelled)
  | late id =>
    dsimp only
    split_ifs with hactive
    · exact h.claim hcall nofun hactive rfl rfl rfl fun id' hmem hne => absurd (List.mem_singleton.mp hmem) hne
    · refine h.setCall hcall nofun rfl rfl fun id' hid' hmem => ?_
      rw [List.mem_singleton.mp hmem] at hid'
      exact absurd hid' hactive
  | invoking id => exact h.invoke hcall nofun rfl rfl rfl rfl
  | cancelling =>
    dsimp only
    split_ifs with hcancelled
    · exact h.setCall hcall nofun rfl rfl fun _ _ hmem => hmem
    · exact h.win hcall (Bool.not_eq_true _ ▸ hcancelled)
  | swapping => exact h.swap hcall
  | draining rest =>
    cases rest with
    | nil => exact h.setCall hcall nofun rfl rfl fun _ _ hmem => hmem
    | cons id rest =>
      dsimp only
      split_ifs with hactive
      · exact h.claim hcall nofun hactive rfl rfl rfl fun id' hmem hne => (List.mem_cons.mp hmem).resolve_left hne
      · refine h.setCall hcall nofun rfl rfl fun id' hid' hmem => ?_
        rcases List.mem_cons.mp hmem with rfl | hmem
        · exact absurd hid' hactive
        · exact hmem
  | calling id rest => exact h.invoke hcall nofun rfl rfl rfl rfl

lemma Sound.step (a : Act) : Sound (s.step a) := by
  have hnew : s.calls s.begun = .unborn := h.unborn s.begun (Nat.le_refl _)
  have hunborn (call : Call) : ∀ j ≥ s.begun + 1, Function.update s.calls s.begun call j = .unborn := by
    intro j hj
    rw [Function.update_of_ne (by omega)]
    exact h.unborn j (by omega)
  cases a with
  | onCancel =>
    refine ⟨?_, ?_, ?_, hunborn _⟩
    · show Claims s.active s.history (Call.pending ∘ Function.update s.calls s.begun (.registering s.made))
      rw [view_same Call.pending (by rw [hnew]; rfl)]
      exact h.claims
    · show Winner s.cancelled s.callbacks (Call.stage ∘ Function.update s.calls s.begun (.registering s.made))
      rw [view_same Call.stage (by rw [hnew]; rfl)]
      exact h.winner
    · show Covered (s.made + 1) s.active s.callbacks
        (Call.covers ∘ Function.update s.calls s.begun (.registering s.made))
      rw [Function.comp_update]
      have hold : Covered s.made s.active s.callbacks
          (Function.update (Call.covers ∘ s.calls) s.begun [s.made]) := by
        refine h.covered.update (fun id hid => hid) fun id hid hmem => hmem.imp_right fun hmem => ?_
        rw [Function.comp_apply, hnew] at hmem
        cases hmem
      intro id hid hactive
      rcases Nat.lt_succ_iff_lt_or_eq.mp hid with hlt | rfl
      · exact hold id hlt hactive
      · exact .inr ⟨s.begun, by rw [Function.update_self]; exact List.mem_singleton_self _⟩
  | cancel =>
    refine ⟨?_, ?_, ?_, hunborn _⟩
    · show Claims s.active s.history (Call.pending ∘ Function.update s.calls s.begun .cancelling)
      rw [view_same Call.pending (by rw [hnew]; rfl)]
      exact h.claims
    · show Winner s.cancelled s.callbacks (Call.stage ∘ Function.update s.calls s.begun .cancelling)
      rw [view_same Call.stage (by rw [hnew]; rfl)]
      exact h.winner
    · show Covered s.made s.active s.callbacks (Call.covers ∘ Function.update s.calls s.begun .cancelling)
      rw [view_same Call.covers (by rw [hnew]; rfl)]
      exact h.covered
  | go i => exact h.go i
  | destroy slot => exact h.reset slot
  | move target source =>
    unfold System.step
    dsimp only
    split_ifs with hsame
    · exact h
    · have hreset := h.reset target
      exact ⟨hreset.claims, hreset.winner, hreset.covered, hreset.unborn⟩

end Lock

lemma sound_run (acts : List Act) : Sound (run acts) := keeps_run (fun _ a h => h.step a) acts sound_initial

/-- What was dropped before it was claimed is never claimed. -/
lemma Claims.not_claimed {active : ℕ → Bool} {history before after : List Event} {pending : ℕ → Option ℕ}
    (h : Claims active history pending) {id : ℕ} (heq : history = before ++ .dropped id :: after)
    (hbefore : .claimed id ∉ before) : .claimed id ∉ history := by
  intro hmem
  rw [heq] at hmem
  rcases List.mem_append.mp hmem with hmem | hmem
  · exact hbefore hmem
  · have hafter : .claimed id ∈ after := by simpa using hmem
    obtain ⟨between, rest, rfl⟩ := List.append_of_mem hafter
    have hfirst := h.first (before ++ .dropped id :: between) id rest
      (by rw [heq, List.append_assoc, List.cons_append])
    exact hfirst.2 (List.mem_append_right _ List.mem_cons_self)

/-- **Cancellation is delivered exactly once.** In every run at most one `cancel` returns `true`, no
callback is invoked twice, and none that was dropped before it was claimed; and when that `cancel`
and every `on_cancel` has returned, every other callback has been invoked. -/
theorem cancellation_delivered_once (acts : List Act) :
    (∀ i j, (run acts).calls i = .returned (some true) → (run acts).calls j = .returned (some true) → i = j) ∧
    (∀ id, (run acts).history.count (.invoked id) ≤ 1) ∧
    (∀ id before after, (run acts).history = before ++ .dropped id :: after → .claimed id ∉ before →
      .invoked id ∉ (run acts).history) ∧
    ∀ i, (run acts).calls i = .returned (some true) → (∀ j, ¬ ((run acts).calls j).Registers) →
      ∀ id < (run acts).made,
        (∀ before after, (run acts).history = before ++ .dropped id :: after → .claimed id ∈ before) →
        .invoked id ∈ (run acts).history := by
  have h := sound_run acts
  have hstage {i : ℕ} (hi : (run acts).calls i = .returned (some true)) :
      (Call.stage ∘ (run acts).calls) i = 2 := by
    rw [Function.comp_apply, hi]
    rfl
  refine ⟨fun i j hi hj => h.winner.unique i j ?_ ?_, h.claims.once,
    fun id before after heq hbefore hmem => h.claims.not_claimed heq hbefore (h.claims.known id hmem),
    fun i hi hreturned id hmade hdropped => ?_⟩
  · rw [hstage hi]
    decide
  · rw [hstage hj]
    decide
  -- nobody else is at work on a callback
  have hother {j : ℕ} (hj : (Call.stage ∘ (run acts).calls) j ≠ 0) : (run acts).calls j = .returned (some true) := by
    rw [h.winner.unique j i hj (by rw [hstage hi]; decide), hi]
  have hclaimed : .claimed id ∈ (run acts).history := by
    cases hactive : (run acts).active id with
    | true =>
      exfalso
      rcases h.covered id hmade hactive with hmem | ⟨j, hj⟩
      · rw [h.winner.taken i (hstage hi)] at hmem
        cases hmem
      · rw [Function.comp_apply] at hj
        have hj' := hother (j := j)
        have hr := hreturned j
        rw [Function.comp_apply] at hj'
        cases hcall : (run acts).calls j with
        | registering | late => rw [hcall] at hr; exact hr trivial
        | draining | calling =>
          rw [hcall] at hj'
          cases hj' (Nat.succ_ne_zero 1)
        | unborn | invoking | cancelling | swapping | returned => rw [hcall] at hj; cases hj
    | false =>
      rcases (h.claims.inactive id).mp hactive with hmem | hmem
      · exact hmem
      · obtain ⟨before, after, heq⟩ := List.append_of_mem hmem
        rw [heq]
        exact List.mem_append_left _ (hdropped before after heq)
  rcases h.claims.done id hclaimed with hinvoked | ⟨j, hj⟩
  · exact hinvoked
  · exfalso
    rw [Function.comp_apply] at hj
    have hj' := hother (j := j)
    have hr := hreturned j
    rw [Function.comp_apply] at hj'
    cases hcall : (run acts).calls j with
    | invoking => rw [hcall] at hr; exact hr trivial
    | calling =>
      rw [hcall] at hj'
      cases hj' (Nat.succ_ne_zero 1)
    | unborn | registering | late | cancelling | swapping | draining | returned => rw [hcall] at hj; cases hj

/-- Two callbacks, of which the second is dropped, and then a cancellation. -/
def twoCallbacks : List Act :=
  [.onCancel, .go 0, .onCancel, .go 1, .destroy (.returned 1), .cancel, .go 2, .go 2, .go 2, .go 2, .go 2, .go 2]

theorem cancellation_delivered_once_two :
    .invoked 0 ∈ (run twoCallbacks).history ∧ .invoked 1 ∉ (run twoCallbacks).history ∧
      (∀ j, (run twoCallbacks).calls j = .returned (some true) → j = 2) := by
  have hhistory : (run twoCallbacks).history = [.dropped 1, .claimed 0, .invoked 0] := rfl
  have hreturned : (run twoCallbacks).calls 2 = .returned (some true) := rfl
  refine ⟨(cancellation_delivered_once twoCallbacks).2.2.2 2 hreturned (fun j => ?_) 0 (by decide)
    (fun before after heq => ?_), (cancellation_delivered_once twoCallbacks).2.2.1 1 [] [.claimed 0, .invoked 0] rfl
    List.not_mem_nil, fun j hj => (cancellation_delivered_once twoCallbacks).1 j 2 hj hreturned⟩
  · match j with
    | 0 => exact id
    | 1 => exact id
    | 2 => exact id
    | j + 3 => exact id
  · have hmem : .dropped 0 ∈ (run twoCallbacks).history := by
      rw [heq]
      exact List.mem_append_right _ List.mem_cons_self
    rw [hhistory] at hmem
    exact absurd hmem (by decide)

end CcsTrans.Core.Cancellation
