import CcsTrans.Core.InflightAccounts

/-!
A call on a lease as one step.

Who holds a lease sees a call on it as a whole. What the call answers depends on what the other
leases hold at one moment: that of the exchange, or of the look at the counter after which it
gives up.
-/

namespace CcsTrans.Core

/-! ### The calls -/

/-- `try_acquire_inflight`, while the leases hold `current` bytes. -/
def tryAcquireInflight (capacity : UInt64) (current : ℕ) (bytes : UInt64) : Bool :=
  bytes = 0 || capacity ≠ 0 && bytes.toNat ≤ capacity.toNat - min capacity.toNat current

namespace Lease

/-- `try_grow`, while the other leases hold `others` bytes. -/
def tryGrow (lease : Lease) (capacity : UInt64) (others : ℕ) (bytes : UInt64) : Option Lease :=
  if !lease.metrics then none
  else if bytes = 0 then some lease
  else if tryAcquireInflight capacity (others + lease.bytes.toNat) bytes then
    some { lease with bytes := lease.bytes + bytes }
  else none

/-- `shrink`. -/
def shrink (lease : Lease) (bytes : UInt64) : Lease :=
  { lease with bytes := lease.bytes - min bytes lease.bytes }

end Lease

/-- The pointer to the lease of a body, which may be null. -/
structure BodyMemory where
  lease : Option Lease := none
  /-- The assertion of `shrink` held in every call. -/
  asserted : Bool := true

namespace BodyMemory

/-- `!memory || memory->try_grow(bytes)`, with the pointer after it. -/
def tryGrow (m : BodyMemory) (capacity : UInt64) (others : ℕ) (bytes : UInt64) : Option BodyMemory :=
  match m.lease with
  | none => some m
  | some lease => (lease.tryGrow capacity others bytes).map fun grown => { m with lease := some grown }

/-- `if (memory) memory->shrink(bytes)`. -/
def shrink (m : BodyMemory) (bytes : UInt64) : BodyMemory :=
  match m.lease with
  | none => m
  | some lease => ⟨some (lease.shrink bytes), m.asserted && bytes ≤ lease.bytes⟩

/-- The bytes that the lease holds. -/
def held (m : BodyMemory) : ℕ := m.lease.elim 0 fun lease => lease.bytes.toNat

/-! ### What a lease holds -/

/-- The lease, if there is one, holds `n` bytes, and no assertion has failed. -/
structure Holds (m : BodyMemory) (n : ℕ) : Prop where
  asserted : m.asserted = true
  bytes : ∀ lease, m.lease = some lease → lease.metrics = true ∧ lease.bytes.toNat = n

variable {m grown : BodyMemory} {capacity bytes : UInt64} {others n : ℕ}

/-- A lease that grows by bytes of the budget does not wrap around. -/
lemma toNat_tryGrow {lease grown : Lease} (h : lease.tryGrow capacity others bytes = some grown) :
    grown.metrics = true ∧ grown.bytes.toNat = lease.bytes.toNat + bytes.toNat := by
  unfold Lease.tryGrow at h
  split_ifs at h with hmetrics hzero hacquired
  · cases h
    rw [hzero]
    exact ⟨by simpa using hmetrics, rfl⟩
  · cases h
    have hpos : bytes.toNat ≠ 0 := fun heq => hzero (UInt64.toNat_inj.mp heq)
    have hlt := capacity.toNat_lt
    simp only [tryAcquireInflight, hzero, decide_false, Bool.false_or, Bool.and_eq_true,
      decide_eq_true_eq] at hacquired
    refine ⟨by simpa using hmetrics, ?_⟩
    rw [UInt64.toNat_add, Nat.mod_eq_of_lt (by omega)]

/-- A call that grows a lease. -/
lemma Holds.tryGrow (h : m.Holds n) (hgrown : m.tryGrow capacity others bytes = some grown) :
    grown.Holds (n + bytes.toNat) ∧ grown.lease.isSome = m.lease.isSome := by
  unfold BodyMemory.tryGrow at hgrown
  cases hlease : m.lease with
  | none =>
    rw [hlease] at hgrown
    cases hgrown
    exact ⟨⟨h.asserted, fun lease heq => by rw [hlease] at heq; cases heq⟩, by rw [hlease]⟩
  | some lease =>
    rw [hlease] at hgrown
    obtain ⟨lease', hlease', rfl⟩ := Option.map_eq_some_iff.mp hgrown
    obtain ⟨hmetrics, hbytes⟩ := toNat_tryGrow hlease'
    refine ⟨⟨h.asserted, fun l heq => ?_⟩, rfl⟩
    cases heq
    exact ⟨hmetrics, by rw [hbytes, (h.bytes lease hlease).2]⟩

/-- A call that shrinks a lease by no more than it holds. -/
lemma Holds.shrink (h : m.Holds n) (bytes : UInt64) (hle : bytes.toNat ≤ n) :
    (m.shrink bytes).Holds (n - bytes.toNat) ∧ (m.shrink bytes).lease.isSome = m.lease.isSome := by
  unfold BodyMemory.shrink
  cases hlease : m.lease with
  | none =>
    exact ⟨⟨h.asserted, fun lease heq => by rw [hlease] at heq; cases heq⟩, by rw [hlease]⟩
  | some lease =>
    obtain ⟨hmetrics, hbytes⟩ := h.bytes lease hlease
    have hfits : bytes ≤ lease.bytes := UInt64.le_iff_toNat_le.mpr (by omega)
    have hmin : min bytes lease.bytes = bytes := by
      rw [← UInt64.toNat_inj, Budget.toNat_min]
      omega
    refine ⟨⟨by simp [h.asserted, hfits], fun l heq => ?_⟩, rfl⟩
    cases heq
    refine ⟨hmetrics, ?_⟩
    rw [Lease.shrink, hmin, UInt64.toNat_sub_of_le _ _ hfits, hbytes]

end BodyMemory

/-! ### The steps behind a call -/

namespace Budget

variable {b : Budget} {i : ℕ} {c : Cell} {bytes seen : UInt64}

/-- What the leases hold, but for one. -/
def others (b : Budget) (c : Cell) : ℕ := (b.cells.map Cell.held).sum - c.held

/-- The answer to a call on a lease is read off the counter. -/
lemma tryAcquire_others (h : b.Balanced) (hc : b.cells[i]? = some c)
    (hheld : c.held = c.lease.bytes.toNat) :
    tryAcquireInflight b.capacity (b.others c + c.lease.bytes.toNat) bytes = b.fits bytes b.current := by
  have hpart := held_le hc
  have htotal := h.total
  have hbound := UInt64.le_iff_toNat_le.mp h.bounded
  rw [Bool.eq_iff_iff, fits_iff b h.bounded, others, ← hheld, Nat.sub_add_cancel hpart, ← htotal,
    tryAcquireInflight, Bool.or_eq_true, Bool.and_eq_true, decide_eq_true_iff, decide_eq_true_iff,
    decide_eq_true_iff, ← UInt64.toNat_inj, ne_eq, ← UInt64.toNat_inj]
  change bytes.toNat = 0 ∨ ¬ b.capacity.toNat = 0 ∧ _ ↔ _
  omega

/-- **A call grows its lease at its exchange**: the step that takes the bytes is made at a moment
at which the call as a whole is granted. -/
lemma tryGrow_exchange (h : b.Balanced) (hc : b.cells[i]? = some c) (halive : c.alive = true)
    (hwork : c.work = .acquiring bytes seen) (hcurrent : b.current = seen) :
    c.lease.tryGrow b.capacity (b.others c) bytes =
      some { c.lease with bytes := c.lease.bytes + bytes } := by
  have hfine := h.fine c (List.mem_of_getElem? hc)
  have hmetrics := hfine.grows (by rw [hwork]; trivial) halive
  have hheld : c.held = c.lease.bytes.toNat := by simp only [Cell.held, hwork]
  have hfits : b.fits bytes b.current = true := by
    rw [hcurrent]
    exact hfine.acquiring bytes seen hwork
  unfold Lease.tryGrow
  rw [tryAcquire_others h hc hheld, if_neg (by simp [hmetrics]), if_pos hfits]
  split_ifs with hzero
  · rw [hzero, UInt64.add_zero]
  · rfl

/-- A call gives up, at its first look or later, at a moment at which the call as a whole is
refused. -/
lemma tryGrow_refused (h : b.Balanced) (hc : b.cells[i]? = some c)
    (hwork : c.work = .idle ∨ c.work = .acquiring bytes seen) (hfull : b.fits bytes b.current = false) :
    c.lease.tryGrow b.capacity (b.others c) bytes = none := by
  have hzero : bytes ≠ 0 := by
    rintro rfl
    have hfits : b.fits 0 b.current = true :=
      (fits_iff b h.bounded).mpr (UInt64.le_iff_toNat_le.mp h.bounded)
    rw [hfits] at hfull
    cases hfull
  have hheld : c.held = c.lease.bytes.toNat := by
    rcases hwork with hwork | hwork <;> simp only [Cell.held, hwork]
  unfold Lease.tryGrow
  rw [tryAcquire_others h hc hheld, if_neg hzero, hfull]
  simp

end Budget

end CcsTrans.Core
