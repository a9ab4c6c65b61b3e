import Mathlib.Algebra.BigOperators.Group.List.Basic
import Mathlib.Algebra.Ring.Nat
import CcsTrans.Core.InflightMemory

/-!
The accounts of the memory in flight are in order.

A lease holds bytes from the exchange that takes them to the exchange that gives them back.
Every step of every call keeps the sum of what the leases hold equal to what is in use. What a
call gives back is held by its own lease, so it is there to be subtracted.
-/

namespace CcsTrans.Core

/-! ### What the leases hold -/

/-- The source of a move assignment that has begun to reset its target. -/
def Work.source : Work → Option ℕ
  | .releasing _ _ (.assign j) => some j
  | .released _ (.assign j) => some j
  | _ => none

/-- The bytes of the budget that a lease holds: a call takes or gives bytes by its exchange,
before `bytes_` shows it. -/
def Cell.held (c : Cell) : ℕ :=
  match c.work with
  | .acquired bytes => c.lease.bytes.toNat + bytes.toNat
  | .released bytes _ => c.lease.bytes.toNat - bytes.toNat
  | _ => c.lease.bytes.toNat

/-- What a lease that exists shows. -/
def Cell.shown (c : Cell) : Option Lease := if c.alive then some c.lease else none

/-- The bytes that a call gives back are those of the lease. -/
structure Cell.Owns (c : Cell) (bytes : UInt64) (next : Afterwards) : Prop where
  alive : c.alive = true
  le : bytes ≤ c.lease.bytes
  all : next ≠ .shrink → bytes = c.lease.bytes

/-- The call acquires bytes. -/
def Work.Acquires : Work → Prop
  | .acquiring _ _ => True
  | .acquired _ => True
  | _ => False

/-- A lease is in order. -/
structure Cell.Fine (capacity : UInt64) (c : Cell) : Prop where
  unset : c.lease.metrics = false → c.lease.bytes = 0
  gone : c.alive = false → c.lease.bytes = 0
  grows : c.work.Acquires → c.alive = true → c.lease.metrics = true
  acquiring : ∀ bytes seen, c.work = .acquiring bytes seen →
    ({ capacity := capacity } : Budget).fits bytes seen = true
  releasing : ∀ bytes seen next, c.work = .releasing bytes seen next → c.Owns bytes next
  released : ∀ bytes next, c.work = .released bytes next → c.Owns bytes next

lemma Cell.fine_idle {capacity : UInt64} {c : Cell} (hunset : c.lease.metrics = false → c.lease.bytes = 0)
    (hgone : c.alive = false → c.lease.bytes = 0) (hwork : c.work = .idle) : c.Fine capacity :=
  ⟨hunset, hgone, by simp [hwork, Work.Acquires], by simp [hwork], by simp [hwork], by simp [hwork]⟩

namespace Budget

/-- **The accounts are in order**: what is in use is what the leases hold, within the capacity,
and nothing was ever taken off that was not there. -/
structure Balanced (b : Budget) : Prop where
  total : b.current.toNat = (b.cells.map Cell.held).sum
  bounded : b.current ≤ b.capacity
  sound : b.underflow = false
  fine : ∀ c ∈ b.cells, c.Fine b.capacity
  lent : ∀ i j (c : Cell), b.cells[i]? = some c → c.work.source = some j →
    ∃ source : Cell, b.cells[j]? = some source ∧ source.work = .lent i

end Budget

lemma sum_set {cells : List Cell} {i : ℕ} {c : Cell} (h : cells[i]? = some c) (c' : Cell) :
    ((cells.set i c').map Cell.held).sum + c.held = (cells.map Cell.held).sum + c'.held := by
  induction cells generalizing i with
  | nil => exact nomatch h
  | cons d cells ih =>
    cases i with
    | zero =>
      cases h
      simp only [List.set_cons_zero, List.map_cons, List.sum_cons]
      omega
    | succ i =>
      have := ih (i := i) (by simpa using h)
      simp only [List.set_cons_succ, List.map_cons, List.sum_cons]
      omega

lemma held_le {cells : List Cell} {i : ℕ} {c : Cell} (h : cells[i]? = some c) :
    c.held ≤ (cells.map Cell.held).sum := by
  have hzero := sum_set h {}
  have : ({} : Cell).held = 0 := rfl
  omega

namespace Budget

variable {b b' : Budget} {i : ℕ} {c c' : Cell}

/-- One lease changes, and with it the bytes in use. -/
lemma Balanced.put (h : b.Balanced) (hc : b.cells[i]? = some c) (hlent : ∀ k, c.work ≠ .lent k)
    (hcells : b'.cells = b.cells.set i c') (hcapacity : b'.capacity = b.capacity)
    (hunderflow : b'.underflow = b.underflow) (hfine : c'.Fine b.capacity)
    (hsource : ∀ j, c'.work.source = some j →
      ∃ source : Cell, b.cells[j]? = some source ∧ source.work = .lent i)
    (htotal : b'.current.toNat + c.held = b.current.toNat + c'.held)
    (hbounded : b'.current ≤ b.capacity) : b'.Balanced := by
  have hlt : i < b.cells.length := (List.getElem?_eq_some_iff.mp hc).1
  constructor
  · have hsum := sum_set hc c'
    have := h.total
    rw [hcells]
    omega
  · rw [hcapacity]
    exact hbounded
  · rw [hunderflow, h.sound]
  · intro d hd
    rw [hcells] at hd
    rw [hcapacity]
    rcases List.mem_or_eq_of_mem_set hd with hold | rfl
    · exact h.fine d hold
    · exact hfine
  · intro k j d hd hj
    -- the source of a move assignment is lent, so it is not the lease that changes
    have hother : ∀ j : ℕ, (∃ source : Cell, b.cells[j]? = some source ∧ source.work = .lent k) →
        ∃ source : Cell, b'.cells[j]? = some source ∧ source.work = .lent k := by
      rintro j ⟨source, hsource, hwork⟩
      have hne : i ≠ j := by
        rintro rfl
        rw [hc] at hsource
        cases hsource
        exact hlent k hwork
      exact ⟨source, by rw [hcells, List.getElem?_set_ne hne, hsource], hwork⟩
    rw [hcells] at hd
    by_cases hik : i = k
    · subst hik
      rw [List.getElem?_set_self hlt] at hd
      cases hd
      exact hother j (hsource j hj)
    · rw [List.getElem?_set_ne hik] at hd
      exact hother j (h.lent k j d hd hj)

/-- A new lease, which holds nothing that is not in use already. -/
lemma Balanced.push (h : b.Balanced) (hfine : c.Fine b.capacity) (hsource : c.work.source = none)
    (hheld : c.held = 0) : (b.push c).Balanced := by
  constructor
  · simp [Budget.push, h.total, hheld]
  · exact h.bounded
  · exact h.sound
  · intro d hd
    rcases List.mem_append.mp hd with hold | hnew
    · exact h.fine d hold
    · rw [List.mem_singleton.mp hnew]
      exact hfine
  · intro k j d hd hj
    have hold : b.cells[k]? = some d := by
      rw [Budget.push, List.getElem?_append] at hd
      split_ifs at hd with hlt
      · exact hd
      · rw [List.getElem?_singleton] at hd
        split_ifs at hd
        cases hd
        rw [hsource] at hj
        exact nomatch hj
    obtain ⟨source, hget, hwork⟩ := h.lent k j d hold hj
    exact ⟨source, by
      rw [Budget.push, List.getElem?_append_left (List.getElem?_eq_some_iff.mp hget).1, hget], hwork⟩

/-- A lease gets all that another one has. -/
lemma Balanced.transfer {j : ℕ} {source : Cell} (h : b.Balanced) (hc : b.cells[i]? = some c)
    (hs : b.cells[j]? = some source) (hne : i ≠ j) (hlent : ∀ k, c.work ≠ .lent k)
    (halive : c.alive = true) (hheld : c.held = 0)
    (hsource : source.work = .idle ∨ source.work = .lent i) :
    ((b.put j { source with lease := {}, work := .idle }).put i
      { c with lease := source.lease, work := .idle }).Balanced := by
  have hi : i < b.cells.length := (List.getElem?_eq_some_iff.mp hc).1
  have hj : j < b.cells.length := (List.getElem?_eq_some_iff.mp hs).1
  have hfine := h.fine source (List.mem_of_getElem? hs)
  constructor
  · have hsource' : source.held = source.lease.bytes.toNat := by
      rcases hsource with hwork | hwork <;> simp only [Cell.held, hwork]
    have h1 := sum_set hs { source with lease := {}, work := .idle }
    have hc' : (b.cells.set j { source with lease := {}, work := .idle })[i]? = some c := by
      rw [List.getElem?_set_ne hne.symm, hc]
    have h2 := sum_set hc' { c with lease := source.lease, work := .idle }
    have htotal := h.total
    simp only [Cell.held, UInt64.toNat_zero, Nat.add_zero] at h1 h2 hsource' hheld htotal ⊢
    simp only [Budget.put]
    omega
  · exact h.bounded
  · exact h.sound
  · intro d hd
    rcases List.mem_or_eq_of_mem_set hd with hd | rfl
    · rcases List.mem_or_eq_of_mem_set hd with hd | rfl
      · exact h.fine d hd
      · exact Cell.fine_idle (fun _ => rfl) (fun _ => rfl) rfl
    · exact Cell.fine_idle hfine.unset (fun hdead => by simp [halive] at hdead) rfl
  · intro k l d hd hl
    have hki : k ≠ i := by
      rintro rfl
      rw [Budget.put, List.getElem?_set_self (by simpa [Budget.put] using hi)] at hd
      cases hd
      exact nomatch hl
    rw [Budget.put, List.getElem?_set_ne hki.symm] at hd
    have hkj : k ≠ j := by
      rintro rfl
      rw [Budget.put, List.getElem?_set_self hj] at hd
      cases hd
      exact nomatch hl
    rw [Budget.put, List.getElem?_set_ne hkj.symm] at hd
    obtain ⟨lender, hget, hwork⟩ := h.lent k l d hd hl
    have hil : i ≠ l := by
      rintro rfl
      rw [hc] at hget
      cases hget
      exact hlent k hwork
    have hjl : j ≠ l := by
      rintro rfl
      rw [hs] at hget
      cases hget
      rcases hsource with hidle | hlent
      · rw [hidle] at hwork
        exact nomatch hwork
      · rw [hlent] at hwork
        cases hwork
        exact hki rfl
    exact ⟨lender, by
      rw [Budget.put, List.getElem?_set_ne hil, Budget.put, List.getElem?_set_ne hjl, hget], hwork⟩

/-- The end of a call that has released some bytes, or had none to release. -/
lemma balanced_complete {bytes : UInt64} {next : Afterwards} (h : b.Balanced)
    (hc : b.cells[i]? = some c) (hlent : ∀ k, c.work ≠ .lent k) (howns : c.Owns bytes next)
    (hheld : c.held = c.lease.bytes.toNat - bytes.toNat)
    (hassign : ∀ j, next = .assign j → i ≠ j ∧ ∃ source : Cell, b.cells[j]? = some source ∧
      (source.work = .idle ∨ source.work = .lent i)) : (b.complete i c bytes next).Balanced := by
  have hfine := h.fine c (List.mem_of_getElem? hc)
  have hle := UInt64.le_iff_toNat_le.mp howns.le
  have hzero (hnext : next ≠ .shrink) : c.held = 0 := by
    rw [hheld, howns.all hnext, Nat.sub_self]
  unfold complete
  cases next with
  | shrink =>
    have hkept : (c.lease.bytes - bytes).toNat = c.lease.bytes.toNat - bytes.toNat :=
      UInt64.toNat_sub_of_le _ _ howns.le
    refine h.put hc hlent rfl rfl rfl (Cell.fine_idle ?_ ?_ rfl) nofun ?_ h.bounded
    · intro hunset
      rw [← UInt64.toNat_inj, hkept, hfine.unset hunset]
      exact Nat.zero_sub _
    · intro hgone
      rw [howns.alive] at hgone
      exact nomatch hgone
    · rw [hheld]
      simp only [Cell.held, hkept]
      rfl
  | reset =>
    refine h.put hc hlent rfl rfl rfl (Cell.fine_idle (fun _ => rfl) (fun _ => rfl) rfl) nofun ?_
      h.bounded
    rw [hzero nofun]
    rfl
  | destroy =>
    refine h.put hc hlent rfl rfl rfl (Cell.fine_idle (fun _ => rfl) (fun _ => rfl) rfl) nofun ?_
      h.bounded
    rw [hzero nofun]
    rfl
  | assign j =>
    obtain ⟨hne, source, hs, hsource⟩ := hassign j rfl
    dsimp only
    rw [hs]
    exact h.transfer hc hs hne hlent howns.alive (hzero nofun) hsource

/-- The bytes that a lease has are there to be released. -/
lemma balanced_startRelease {bytes : UInt64} {next : Afterwards} (h : b.Balanced)
    (hc : b.cells[i]? = some c) (hlent : ∀ k, c.work ≠ .lent k) (howns : c.Owns bytes next)
    (hheld : c.held = c.lease.bytes.toNat)
    (hassign : ∀ j, next = .assign j → ∃ source : Cell, b.cells[j]? = some source ∧
      source.work = .lent i) : (b.startRelease i c bytes next).Balanced := by
  have hfine := h.fine c (List.mem_of_getElem? hc)
  have henough : bytes ≤ b.current := by
    have hpart := held_le hc
    have hle := UInt64.le_iff_toNat_le.mp howns.le
    have htotal := h.total
    rw [UInt64.le_iff_toNat_le]
    omega
  rw [startRelease, if_pos henough]
  refine h.put hc hlent rfl rfl rfl ⟨hfine.unset, hfine.gone, nofun, nofun, ?_, nofun⟩ ?_ ?_
    h.bounded
  · intro bytes' seen' next' hwork
    cases hwork
    exact ⟨howns.alive, howns.le, howns.all⟩
  · intro j hj
    cases next with
    | assign j' =>
      cases hj
      exact hassign j rfl
    | _ => exact nomatch hj
  · rw [hheld]
    rfl

lemma toNat_min (x y : UInt64) : (min x y).toNat = min x.toNat y.toNat := by
  change (if x ≤ y then x else y).toNat = _
  split_ifs with hle
  · rw [UInt64.le_iff_toNat_le] at hle
    omega
  · rw [UInt64.le_iff_toNat_le] at hle
    omega

lemma fits_iff (b : Budget) {bytes seen : UInt64} (hseen : seen ≤ b.capacity) :
    b.fits bytes seen = true ↔ seen.toNat + bytes.toNat ≤ b.capacity.toNat := by
  have hle := UInt64.le_iff_toNat_le.mp hseen
  have hmin : min b.capacity seen = seen := by
    rw [← UInt64.toNat_inj, toNat_min]
    omega
  rw [fits, hmin, decide_eq_true_iff, UInt64.le_iff_toNat_le, UInt64.toNat_sub_of_le _ _ hseen]
  omega

/-- A lease that no call works on. -/
lemma idle_of_idle? (hc : b.idle? i = some c) :
    b.cells[i]? = some c ∧ c.alive = true ∧ c.work = .idle := by
  rw [idle?, Option.filter_eq_some_iff] at hc
  obtain ⟨hget, hidle⟩ := hc
  simp only [Bool.and_eq_true, decide_eq_true_eq] at hidle
  exact ⟨hget, hidle.1, hidle.2⟩

lemma balanced_tryAcquire (h : b.Balanced) (bytes : UInt64) : (b.tryAcquire bytes).Balanced := by
  unfold tryAcquire
  split_ifs with hzero hcapacity hfits
  · exact h.push (Cell.fine_idle nofun nofun rfl) rfl rfl
  · exact ⟨h.total, h.bounded, h.sound, h.fine, h.lent⟩
  · refine h.push ⟨fun _ => rfl, fun _ => rfl, nofun, ?_, nofun, nofun⟩ rfl rfl
    intro bytes' seen' hwork
    cases hwork
    exact hfits
  · exact ⟨h.total, h.bounded, h.sound, h.fine, h.lent⟩

lemma balanced_tryGrow (h : b.Balanced) (hc : b.cells[i]? = some c) (hidle : c.work = .idle)
    (bytes : UInt64) : (b.tryGrow i c bytes).Balanced := by
  have hfine := h.fine c (List.mem_of_getElem? hc)
  unfold tryGrow
  split_ifs with hunset hzero hcapacity hfits
  · exact h
  · exact h
  · exact ⟨h.total, h.bounded, h.sound, h.fine, h.lent⟩
  · refine h.put hc (by simp [hidle]) rfl rfl rfl
      ⟨hfine.unset, hfine.gone, fun _ _ => by simpa using hunset, ?_, nofun, nofun⟩ nofun
      (by simp [Cell.held, hidle, Budget.put]) h.bounded
    intro bytes' seen' hwork
    cases hwork
    exact hfits
  · exact ⟨h.total, h.bounded, h.sound, h.fine, h.lent⟩

lemma balanced_shrink (h : b.Balanced) (hc : b.cells[i]? = some c) (halive : c.alive = true)
    (hidle : c.work = .idle) (bytes : UInt64) : (b.shrink i c bytes).Balanced := by
  have hfine := h.fine c (List.mem_of_getElem? hc)
  have hlent : ∀ k, c.work ≠ .lent k := by simp [hidle]
  have hmin := toNat_min bytes c.lease.bytes
  have howns : c.Owns (min bytes c.lease.bytes) .shrink :=
    ⟨halive, by rw [UInt64.le_iff_toNat_le]; omega, absurd rfl⟩
  unfold shrink
  dsimp only
  split_ifs with hsome
  · exact balanced_startRelease h hc hlent howns (by simp [Cell.held, hidle]) nofun
  · refine balanced_complete h hc hlent howns ?_ nofun
    -- without a budget there are no bytes
    have hnone : min bytes c.lease.bytes = 0 := by
      by_cases hmetrics : c.lease.metrics = true
      · by_contra hne
        exact hsome ⟨hmetrics, hne⟩
      · have hbytes := hfine.unset (by simpa using hmetrics)
        rw [← UInt64.toNat_inj, hmin, hbytes]
        exact Nat.min_zero _
    simp [Cell.held, hidle, hnone]

/-- A lease that has no bytes to release. -/
lemma bytes_eq_zero (h : b.Balanced) (hc : b.cells[i]? = some c)
    (hnone : ¬ (c.lease.metrics = true ∧ c.lease.bytes ≠ 0)) : c.lease.bytes = 0 := by
  have hfine := h.fine c (List.mem_of_getElem? hc)
  by_cases hmetrics : c.lease.metrics = true
  · by_contra hne
    exact hnone ⟨hmetrics, hne⟩
  · exact hfine.unset (by simpa using hmetrics)

lemma balanced_resetThen {next : Afterwards} (h : b.Balanced) (hc : b.cells[i]? = some c)
    (halive : c.alive = true) (hidle : c.work = .idle) (hnext : ∀ j, next ≠ .assign j) :
    (b.resetThen i c next).Balanced := by
  have hlent : ∀ k, c.work ≠ .lent k := by simp [hidle]
  unfold resetThen
  split_ifs with hsome
  · exact balanced_startRelease h hc hlent ⟨halive, UInt64.le_refl _, fun _ => rfl⟩
      (by simp [Cell.held, hidle]) fun j hj => absurd hj (hnext j)
  · have hzero := bytes_eq_zero h hc hsome
    exact balanced_complete h hc hlent ⟨halive, by rw [hzero]; exact UInt64.le_refl _, fun _ => hzero.symm⟩
      (by simp [Cell.held, hidle]) fun j hj => absurd hj (hnext j)

lemma balanced_moveConstruct (h : b.Balanced) (hc : b.cells[i]? = some c)
    (hidle : c.work = .idle) : (b.moveConstruct i c).Balanced := by
  have hi : i < b.cells.length := (List.getElem?_eq_some_iff.mp hc).1
  -- a new empty lease, which then gets what the old one has
  have hnew : (b.push {}).Balanced := h.push (Cell.fine_idle (fun _ => rfl) (fun _ => rfl) rfl) rfl rfl
  have hget : (b.push {}).cells[b.cells.length]? = some {} := by simp [Budget.push]
  have hold : (b.push {}).cells[i]? = some c := by
    rw [Budget.push, List.getElem?_append_left hi, hc]
  have hmoved := hnew.transfer hget hold (Nat.ne_of_gt hi) nofun rfl rfl (.inl hidle)
  have hsame : b.moveConstruct i c = ((b.push {}).put i { c with lease := {}, work := .idle }).put
      b.cells.length { lease := c.lease } := by
    simp only [moveConstruct, Budget.put, Budget.push, List.set_append_left _ _ hi, ← hidle]
    rw [List.set_append_right _ _ (by simp), List.length_set, Nat.sub_self]
    rfl
  rw [hsame]
  exact hmoved

lemma balanced_moveAssign {j : ℕ} {source : Cell} (h : b.Balanced) (hc : b.cells[i]? = some c)
    (hs : b.cells[j]? = some source) (halive : c.alive = true) (hidle : c.work = .idle)
    (hidle' : source.work = .idle) : (b.moveAssign i j c source).Balanced := by
  have hlent : ∀ k, c.work ≠ .lent k := by simp [hidle]
  have hfine := h.fine source (List.mem_of_getElem? hs)
  unfold moveAssign
  split_ifs with hsame hsome
  · exact h
  · have hmarked : (b.put j { source with work := .lent i }).Balanced :=
      h.put hs (by simp [hidle']) rfl rfl rfl
        ⟨hfine.unset, hfine.gone, nofun, nofun, nofun, nofun⟩ nofun
        (by simp [Cell.held, hidle', Budget.put]) h.bounded
    have hc' : (b.put j { source with work := .lent i }).cells[i]? = some c := by
      rw [Budget.put, List.getElem?_set_ne (Ne.symm hsame), hc]
    refine balanced_startRelease hmarked hc' hlent ⟨halive, UInt64.le_refl _, fun _ => rfl⟩
      (by simp [Cell.held, hidle]) ?_
    rintro j' hj'
    cases hj'
    refine ⟨{ source with work := .lent i }, ?_, rfl⟩
    rw [Budget.put, List.getElem?_set_self (List.getElem?_eq_some_iff.mp hs).1]
  · have hzero := bytes_eq_zero h hc hsome
    refine balanced_complete h hc hlent
      ⟨halive, by rw [hzero]; exact UInt64.le_refl _, fun _ => hzero.symm⟩
      (by simp [Cell.held, hidle]) ?_
    rintro j' hj'
    cases hj'
    exact ⟨hsame, source, hs, .inl hidle'⟩

lemma balanced_exchange (h : b.Balanced) (hc : b.cells[i]? = some c) (spurious : Bool) :
    (b.exchange i c spurious).Balanced := by
  have hfine := h.fine c (List.mem_of_getElem? hc)
  unfold exchange
  split
  next bytes seen hwork =>
    have hlent : ∀ k, c.work ≠ .lent k := by simp [hwork]
    have hheld : c.held = c.lease.bytes.toNat := by simp only [Cell.held, hwork]
    have hgrows := hfine.grows (by rw [hwork]; trivial)
    split_ifs with hswap hfits
    · obtain ⟨rfl, -⟩ := hswap
      have hroom := (b.fits_iff h.bounded).mp (hfine.acquiring _ _ hwork)
      have hsum : (b.current + bytes).toNat = b.current.toNat + bytes.toNat := by
        have hcapacity := b.capacity.toNat_lt
        rw [UInt64.toNat_add]
        exact Nat.mod_eq_of_lt (by omega)
      refine h.put hc hlent rfl rfl rfl
        ⟨hfine.unset, hfine.gone, fun _ => hgrows, nofun, nofun, nofun⟩ nofun ?_ ?_
      · rw [hheld]
        simp only [Cell.held, hsum]
        omega
      · change b.current + bytes ≤ b.capacity
        rw [UInt64.le_iff_toNat_le]
        omega
    · refine h.put hc hlent rfl rfl rfl
        ⟨hfine.unset, hfine.gone, fun _ => hgrows, ?_, nofun, nofun⟩ nofun (by rw [hheld]; rfl)
        h.bounded
      intro bytes' seen' hwork'
      cases hwork'
      exact hfits
    · exact h.put hc hlent rfl rfl rfl (Cell.fine_idle hfine.unset hfine.gone rfl) nofun
        (by rw [hheld]; rfl) h.bounded
  next bytes seen next hwork =>
    have hlent : ∀ k, c.work ≠ .lent k := by simp [hwork]
    have hheld : c.held = c.lease.bytes.toNat := by simp only [Cell.held, hwork]
    have howns := hfine.releasing _ _ _ hwork
    split_ifs with hswap
    · obtain ⟨rfl, -⟩ := hswap
      have hpart := held_le hc
      have hle := UInt64.le_iff_toNat_le.mp howns.le
      have htotal := h.total
      have hbounded := UInt64.le_iff_toNat_le.mp h.bounded
      have hless : (b.current - bytes).toNat = b.current.toNat - bytes.toNat :=
        UInt64.toNat_sub_of_le _ _ (by rw [UInt64.le_iff_toNat_le]; omega)
      refine h.put hc hlent rfl rfl rfl ⟨hfine.unset, hfine.gone, nofun, nofun, nofun, ?_⟩ ?_ ?_ ?_
      · intro bytes' next' hwork'
        cases hwork'
        exact ⟨howns.alive, howns.le, howns.all⟩
      · intro j hj
        apply h.lent i j c hc
        rw [hwork]
        cases next <;> exact hj
      · rw [hheld]
        simp only [Cell.held, hless]
        omega
      · change b.current - bytes ≤ b.capacity
        rw [UInt64.le_iff_toNat_le]
        omega
    · refine balanced_startRelease h hc hlent howns hheld ?_
      rintro j rfl
      exact h.lent i j c hc (by rw [hwork]; rfl)
  · exact h

lemma balanced_finish (h : b.Balanced) (hc : b.cells[i]? = some c) : (b.finish i c).Balanced := by
  have hfine := h.fine c (List.mem_of_getElem? hc)
  unfold finish
  split
  next bytes hwork =>
    have hlent : ∀ k, c.work ≠ .lent k := by simp [hwork]
    have hheld : c.held = c.lease.bytes.toNat + bytes.toNat := by simp only [Cell.held, hwork]
    have hsum : (c.lease.bytes + bytes).toNat = c.lease.bytes.toNat + bytes.toNat := by
      have hpart := held_le hc
      have htotal := h.total
      have hcurrent := b.current.toNat_lt
      rw [UInt64.toNat_add]
      exact Nat.mod_eq_of_lt (by omega)
    split_ifs with halive
    · have hmetrics := hfine.grows (by rw [hwork]; trivial) halive
      refine h.put hc hlent rfl rfl rfl (Cell.fine_idle ?_ ?_ rfl) nofun ?_ h.bounded
      · intro hunset
        rw [hmetrics] at hunset
        exact nomatch hunset
      · intro hgone
        rw [halive] at hgone
        exact nomatch hgone
      · rw [hheld]
        simp only [Cell.held, hsum]
        rfl
    · have hbytes := hfine.gone (by simpa using halive)
      refine h.put hc hlent rfl rfl rfl (Cell.fine_idle nofun nofun rfl) nofun ?_ h.bounded
      rw [hheld, hbytes]
      simp [Cell.held, Budget.put]
  next bytes next hwork =>
    have hlent : ∀ k, c.work ≠ .lent k := by simp [hwork]
    refine balanced_complete h hc hlent (hfine.released _ _ hwork) (by simp only [Cell.held, hwork]) ?_
    rintro j rfl
    obtain ⟨source, hs, hsource⟩ := h.lent i j c hc (by rw [hwork]; rfl)
    refine ⟨?_, source, hs, .inr hsource⟩
    rintro rfl
    rw [hc] at hs
    cases hs
    exact hlent i hsource
  · exact h

lemma balanced_elim {o : Option Cell} {f : Cell → Budget} (h : b.Balanced)
    (hf : ∀ c, o = some c → (f c).Balanced) : (o.elim b f).Balanced := by
  cases o with
  | none => exact h
  | some c => exact hf c rfl

lemma balanced_step (h : b.Balanced) (step : Step) : (b.step step).Balanced := by
  cases step with
  | tryAcquire bytes => exact balanced_tryAcquire h bytes
  | tryGrow i bytes =>
    refine balanced_elim h fun c hc => ?_
    obtain ⟨hget, -, hidle⟩ := idle_of_idle? hc
    exact balanced_tryGrow h hget hidle bytes
  | shrink i bytes =>
    refine balanced_elim h fun c hc => ?_
    obtain ⟨hget, halive, hidle⟩ := idle_of_idle? hc
    exact balanced_shrink h hget halive hidle bytes
  | reset i =>
    refine balanced_elim h fun c hc => ?_
    obtain ⟨hget, halive, hidle⟩ := idle_of_idle? hc
    exact balanced_resetThen h hget halive hidle (by simp)
  | destroy i =>
    refine balanced_elim h fun c hc => ?_
    obtain ⟨hget, halive, hidle⟩ := idle_of_idle? hc
    exact balanced_resetThen h hget halive hidle (by simp)
  | moveConstruct i =>
    refine balanced_elim h fun c hc => ?_
    obtain ⟨hget, -, hidle⟩ := idle_of_idle? hc
    exact balanced_moveConstruct h hget hidle
  | moveAssign i j =>
    refine balanced_elim h fun c hc => balanced_elim h fun source hs => ?_
    obtain ⟨hget, halive, hidle⟩ := idle_of_idle? hc
    obtain ⟨hget', -, hidle'⟩ := idle_of_idle? hs
    exact balanced_moveAssign h hget hget' halive hidle hidle'
  | exchange i spurious => exact balanced_elim h fun c hc => balanced_exchange h hc spurious
  | finish i => exact balanced_elim h fun c hc => balanced_finish h hc

/-! ### Refusals -/

/-- The leases that exist. -/
def live (b : Budget) : List Lease := b.cells.filterMap Cell.shown

lemma filterMap_set {cells : List Cell} (h : cells[i]? = some c) (hshown : c'.shown = c.shown) :
    (cells.set i c').filterMap Cell.shown = cells.filterMap Cell.shown := by
  induction cells generalizing i with
  | nil => rfl
  | cons d cells ih =>
    cases i with
    | zero =>
      cases h
      rw [List.set_cons_zero, List.filterMap_cons, List.filterMap_cons, hshown]
    | succ i =>
      rw [List.set_cons_succ, List.filterMap_cons, List.filterMap_cons, ih (by simpa using h)]

/-- The counters of `RuntimeMetrics` that only a request changes. -/
structure Quiet (b b' : Budget) : Prop where
  capacity : b'.capacity = b.capacity
  rejections : b'.rejections = b.rejections

lemma quiet_complete (b : Budget) (i : ℕ) (c : Cell) (bytes : UInt64) (next : Afterwards) :
    Quiet b (b.complete i c bytes next) := by
  unfold complete
  cases next with
  | assign j =>
    dsimp only
    cases b.cells[j]? <;> exact ⟨rfl, rfl⟩
  | _ => exact ⟨rfl, rfl⟩

lemma quiet_startRelease (b : Budget) (i : ℕ) (c : Cell) (bytes : UInt64) (next : Afterwards) :
    Quiet b (b.startRelease i c bytes next) := by
  unfold startRelease
  split_ifs <;> exact ⟨rfl, rfl⟩

lemma quiet_resetThen (b : Budget) (i : ℕ) (c : Cell) (next : Afterwards) :
    Quiet b (b.resetThen i c next) := by
  unfold resetThen
  split_ifs
  · exact quiet_startRelease ..
  · exact quiet_complete ..

/-- What a step does to the counters: it leaves them, or it refuses a request. -/
inductive Counted (b b' : Budget) : Prop
  | quiet (h : Quiet b b')
  | refused (hcapacity : b'.capacity = b.capacity) (hcurrent : b'.current = b.current)
      (hlive : b'.live = b.live)

lemma counted_refuse (b : Budget) : Counted b b.refuse := .refused rfl rfl rfl

lemma counted_elim {o : Option Cell} {f : Cell → Budget} (hf : ∀ c, o = some c → Counted b (f c)) :
    Counted b (o.elim b f) := by
  cases o with
  | none => exact .quiet ⟨rfl, rfl⟩
  | some c => exact hf c rfl

lemma counted_step (b : Budget) (step : Step) : Counted b (b.step step) := by
  cases step with
  | tryAcquire bytes =>
    change Counted b (b.tryAcquire bytes)
    unfold tryAcquire
    split_ifs
    · exact .quiet ⟨rfl, rfl⟩
    · exact counted_refuse b
    · exact .quiet ⟨rfl, rfl⟩
    · exact counted_refuse b
  | tryGrow i bytes =>
    refine counted_elim fun c hc => ?_
    unfold tryGrow
    split_ifs
    · exact .quiet ⟨rfl, rfl⟩
    · exact .quiet ⟨rfl, rfl⟩
    · exact counted_refuse b
    · exact .quiet ⟨rfl, rfl⟩
    · exact counted_refuse b
  | shrink i bytes =>
    refine counted_elim fun c hc => .quiet ?_
    unfold shrink
    dsimp only
    split_ifs
    · exact quiet_startRelease ..
    · exact quiet_complete ..
  | reset i => exact counted_elim fun c hc => .quiet (quiet_resetThen ..)
  | destroy i => exact counted_elim fun c hc => .quiet (quiet_resetThen ..)
  | moveConstruct i => exact counted_elim fun c hc => .quiet ⟨rfl, rfl⟩
  | moveAssign i j =>
    refine counted_elim fun c hc => counted_elim fun source hs => .quiet ?_
    unfold moveAssign
    split_ifs
    · exact ⟨rfl, rfl⟩
    · have hquiet := quiet_startRelease (b.put j { source with work := .lent i }) i c
        c.lease.bytes (.assign j)
      exact ⟨hquiet.capacity, hquiet.rejections⟩
    · exact quiet_complete ..
  | exchange i spurious =>
    refine counted_elim fun c hc => ?_
    unfold exchange
    split
    · split_ifs
      · exact .quiet ⟨rfl, rfl⟩
      · exact .quiet ⟨rfl, rfl⟩
      · exact .refused rfl rfl (filterMap_set hc rfl)
    · split_ifs
      · exact .quiet ⟨rfl, rfl⟩
      · exact .quiet (quiet_startRelease ..)
    · exact .quiet ⟨rfl, rfl⟩
  | finish i =>
    refine counted_elim fun c hc => ?_
    unfold finish
    split
    · split_ifs <;> exact .quiet ⟨rfl, rfl⟩
    · exact .quiet (quiet_complete ..)
    · exact .quiet ⟨rfl, rfl⟩

lemma capacity_run (steps : List Step) (b : Budget) :
    (steps.foldl step b).capacity = b.capacity :=
  Runs.keeps_run (P := fun b' : Budget => b'.capacity = b.capacity) (fun b' a h => by
    cases counted_step b' a with
    | quiet hquiet => rw [hquiet.capacity, h]
    | refused hcapacity => rw [hcapacity, h]) steps rfl

/-! ### Whole runs -/

/-- The steps of all threads, in the order in which they come. -/
def run (capacity : UInt64) (steps : List Step) : Budget := steps.foldl step { capacity := capacity }

lemma balanced_fresh (capacity : UInt64) : ({ capacity := capacity } : Budget).Balanced where
  total := rfl
  bounded := Nat.zero_le _
  sound := rfl
  fine := by simp
  lent := by simp

lemma balanced_run (capacity : UInt64) (steps : List Step) : (run capacity steps).Balanced :=
  Runs.keeps_run (P := Balanced) (fun _ a h => balanced_step h a) steps (balanced_fresh capacity)

/-- While no call is under way, the leases that exist hold everything. -/
lemma sum_live {cells : List Cell} {capacity : UInt64} (hfine : ∀ c ∈ cells, c.Fine capacity)
    (hidle : ∀ c ∈ cells, c.work = .idle) :
    (cells.map Cell.held).sum = ((cells.filterMap Cell.shown).map fun l => l.bytes.toNat).sum := by
  induction cells with
  | nil => rfl
  | cons c cells ih =>
    have hc := hfine c List.mem_cons_self
    have hwork := hidle c List.mem_cons_self
    have hrest := ih (fun d hd => hfine d (List.mem_cons_of_mem _ hd))
      (fun d hd => hidle d (List.mem_cons_of_mem _ hd))
    have hheld : c.held = c.lease.bytes.toNat := by simp only [Cell.held, hwork]
    rw [List.map_cons, List.sum_cons, hrest, hheld, List.filterMap_cons, Cell.shown]
    by_cases halive : c.alive = true
    · rw [if_pos halive, List.map_cons, List.sum_cons]
    · rw [if_neg halive, hc.gone (by simpa using halive)]
      exact Nat.zero_add _

/-- **The accounts are in order at every moment**, whatever calls are under way. -/
theorem inflight_accounts (capacity : UInt64) (steps : List Step) :
    let b := run capacity steps
    b.current.toNat = (b.cells.map Cell.held).sum ∧
    ((∀ c ∈ b.cells, c.work = .idle) →
      b.current.toNat = (b.live.map fun l => l.bytes.toNat).sum) ∧
    b.current ≤ capacity ∧
    (∀ a, (b.step a).rejections ≠ b.rejections →
      (b.step a).current = b.current ∧ (b.step a).live = b.live) ∧
    b.underflow = false ∧
    (∀ c ∈ b.cells, ∀ bytes seen next, c.work = .releasing bytes seen next →
      bytes ≤ b.current ∧ bytes ≤ c.lease.bytes) ∧
    ((∀ c ∈ b.cells, c.alive = false ∧ c.work = .idle) → b.current = 0) := by
  intro b
  have h : b.Balanced := balanced_run capacity steps
  have hcapacity : b.capacity = capacity := capacity_run steps _
  have hidle (hall : ∀ c ∈ b.cells, c.work = .idle) :
      b.current.toNat = (b.live.map fun l => l.bytes.toNat).sum := by
    rw [h.total, sum_live h.fine hall, live]
  refine ⟨h.total, hidle, hcapacity ▸ h.bounded, ?_, h.sound, ?_, ?_⟩
  · intro a hrejected
    cases counted_step b a with
    | quiet hquiet => exact absurd hquiet.rejections hrejected
    | refused _ hcurrent hlive => exact ⟨hcurrent, hlive⟩
  · intro c hc bytes seen next hwork
    obtain ⟨i, hget⟩ := List.mem_iff_getElem?.mp hc
    have howns := (h.fine c hc).releasing _ _ _ hwork
    have hheld : c.held = c.lease.bytes.toNat := by simp only [Cell.held, hwork]
    have hpart := held_le hget
    have htotal := h.total
    have hle := UInt64.le_iff_toNat_le.mp howns.le
    exact ⟨by rw [UInt64.le_iff_toNat_le]; omega, howns.le⟩
  · intro hgone
    have hlive : b.live = [] := by
      rw [live, List.filterMap_eq_nil_iff]
      intro c hc
      rw [Cell.shown, (hgone c hc).1]
      rfl
    rw [← UInt64.toNat_inj, hidle fun c hc => (hgone c hc).2, hlive]
    rfl

end Budget

end CcsTrans.Core
