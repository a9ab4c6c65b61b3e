import CcsTrans.Runs

/-!
The budget of memory for requests in flight.

A lease is an object that holds a number of bytes of the budget. Threads acquire leases, let
them grow and shrink, move them and destroy them. The only thing they share is the number of
bytes in use, which changes by compare-and-swap; a call on a lease is therefore a sequence of
steps, and the steps of other calls may come in between. No two calls work on one lease at the
same time.
-/

namespace CcsTrans.Core

/-! ### Leases and calls on them -/

/-- `InflightMemoryBudget::Lease`: whether `metrics_` is set, and `bytes_`. -/
structure Lease where
  metrics : Bool := false
  bytes : UInt64 := 0

/-- What a call does once the bytes are released. -/
inductive Afterwards where
  | shrink
  | reset
  | destroy
  /-- A move assignment has reset its target, and goes on with its source. -/
  | assign (source : ℕ)
  deriving DecidableEq

/-- How far a call on a lease has come. -/
inductive Work where
  | idle
  /-- In the loop of `try_acquire_inflight`, with the value it has seen. -/
  | acquiring (bytes seen : UInt64)
  /-- The exchange was made, and `bytes_` does not know it yet. -/
  | acquired (bytes : UInt64)
  /-- In the loop of `release_inflight`, with the value it has seen. -/
  | releasing (bytes seen : UInt64) (next : Afterwards)
  | released (bytes : UInt64) (next : Afterwards)
  /-- The lease is the source of a move assignment. -/
  | lent (target : ℕ)
  deriving DecidableEq

/-- An object of type `Lease`, from the call that makes it. -/
structure Cell where
  lease : Lease := {}
  alive : Bool := true
  work : Work := .idle

/-- `InflightMemoryBudget` with the atomic counters of `RuntimeMetrics`, and all its leases. -/
structure Budget where
  /-- `inflight_budget_bytes_`. -/
  capacity : UInt64
  /-- `current_inflight_bytes_`. -/
  current : UInt64 := 0
  /-- `peak_inflight_bytes_`. -/
  peak : UInt64 := 0
  /-- `inflight_budget_rejections_`. -/
  rejections : UInt64 := 0
  /-- `release_inflight` has come to its assertion. -/
  underflow : Bool := false
  cells : List Cell := []

namespace Budget

def put (b : Budget) (i : ℕ) (c : Cell) : Budget := { b with cells := b.cells.set i c }

def push (b : Budget) (c : Cell) : Budget := { b with cells := b.cells ++ [c] }

def refuse (b : Budget) : Budget := { b with rejections := b.rejections + 1 }

/-- The condition of the loop of `try_acquire_inflight`. -/
def fits (b : Budget) (bytes seen : UInt64) : Bool := bytes ≤ b.capacity - min b.capacity seen

/-- What follows on a release of some bytes. -/
def complete (b : Budget) (i : ℕ) (c : Cell) (bytes : UInt64) : Afterwards → Budget
  | .shrink =>
    b.put i { c with lease := { c.lease with bytes := c.lease.bytes - bytes }, work := .idle }
  | .reset => b.put i { c with lease := {}, work := .idle }
  | .destroy => b.put i { lease := {}, alive := false }
  | .assign j =>
    match b.cells[j]? with
    | some source => (b.put j { source with lease := {}, work := .idle }).put i
        { c with lease := source.lease, work := .idle }
    | none => b

/-- The first steps of `release_inflight`, up to the first exchange. -/
def startRelease (b : Budget) (i : ℕ) (c : Cell) (bytes : UInt64) (next : Afterwards) : Budget :=
  if b.current ≥ bytes then b.put i { c with work := .releasing bytes b.current next }
  else { b.put i { c with work := .released bytes next } with underflow := true }

/-- `reset`, as part of a call. -/
def resetThen (b : Budget) (i : ℕ) (c : Cell) (next : Afterwards) : Budget :=
  if c.lease.metrics ∧ c.lease.bytes ≠ 0 then b.startRelease i c c.lease.bytes next
  else b.complete i c 0 next

/-- `try_acquire`, up to the first exchange. -/
def tryAcquire (b : Budget) (bytes : UInt64) : Budget :=
  if bytes = 0 then b.push { lease := ⟨true, 0⟩ }
  else if b.capacity = 0 then b.refuse
  else if b.fits bytes b.current then
    b.push { alive := false, work := .acquiring bytes b.current }
  else b.refuse

/-- `try_grow`, up to the first exchange. -/
def tryGrow (b : Budget) (i : ℕ) (c : Cell) (bytes : UInt64) : Budget :=
  if !c.lease.metrics then b
  else if bytes = 0 then b
  else if b.capacity = 0 then b.refuse
  else if b.fits bytes b.current then b.put i { c with work := .acquiring bytes b.current }
  else b.refuse

/-- `shrink`, up to the first exchange. -/
def shrink (b : Budget) (i : ℕ) (c : Cell) (bytes : UInt64) : Budget :=
  let released := min bytes c.lease.bytes
  if c.lease.metrics ∧ released ≠ 0 then b.startRelease i c released .shrink
  else b.complete i c released .shrink

/-- The move constructor, with the lease it constructs. -/
def moveConstruct (b : Budget) (i : ℕ) (c : Cell) : Budget :=
  (b.put i { c with lease := {} }).push { lease := c.lease }

/-- `operator=`, up to the first exchange. -/
def moveAssign (b : Budget) (i j : ℕ) (c source : Cell) : Budget :=
  if i = j then b
  else if c.lease.metrics ∧ c.lease.bytes ≠ 0 then
    (b.put j { source with work := .lent i }).startRelease i c c.lease.bytes (.assign j)
  else b.complete i c 0 (.assign j)

/-- `compare_exchange_weak` in a loop, which may fail for no reason. The peak is brought up to
date by a loop of its own, which ends with the larger value. -/
def exchange (b : Budget) (i : ℕ) (c : Cell) (spurious : Bool) : Budget :=
  match c.work with
  | .acquiring bytes seen =>
    if b.current = seen ∧ ¬ spurious then
      { b.put i { c with work := .acquired bytes } with
        current := seen + bytes, peak := max b.peak (seen + bytes) }
    else if b.fits bytes b.current then b.put i { c with work := .acquiring bytes b.current }
    else (b.put i { c with work := .idle }).refuse
  | .releasing bytes seen next =>
    if b.current = seen ∧ ¬ spurious then
      { b.put i { c with work := .released bytes next } with current := seen - bytes }
    else b.startRelease i c bytes next
  | _ => b

/-- The rest of a call, after its exchange. -/
def finish (b : Budget) (i : ℕ) (c : Cell) : Budget :=
  match c.work with
  | .acquired bytes =>
    if c.alive then
      b.put i { c with lease := { c.lease with bytes := c.lease.bytes + bytes }, work := .idle }
    else b.put i { lease := ⟨true, bytes⟩ }
  | .released bytes next => b.complete i c bytes next
  | _ => b

end Budget

/-! ### Steps -/

inductive Step where
  | tryAcquire (bytes : UInt64)
  | tryGrow (i : ℕ) (bytes : UInt64)
  | shrink (i : ℕ) (bytes : UInt64)
  | reset (i : ℕ)
  | destroy (i : ℕ)
  | moveConstruct (i : ℕ)
  | moveAssign (i j : ℕ)
  | exchange (i : ℕ) (spurious : Bool)
  | finish (i : ℕ)

namespace Budget

/-- The lease, if it exists and no call works on it. -/
def idle? (b : Budget) (i : ℕ) : Option Cell :=
  b.cells[i]?.filter fun c => c.alive && c.work = .idle

/-- One step. A call on a lease that does not exist, or that a call works on, is not made. -/
def step (b : Budget) : Step → Budget
  | .tryAcquire bytes => b.tryAcquire bytes
  | .tryGrow i bytes => (b.idle? i).elim b fun c => b.tryGrow i c bytes
  | .shrink i bytes => (b.idle? i).elim b fun c => b.shrink i c bytes
  | .reset i => (b.idle? i).elim b fun c => b.resetThen i c .reset
  | .destroy i => (b.idle? i).elim b fun c => b.resetThen i c .destroy
  | .moveConstruct i => (b.idle? i).elim b fun c => b.moveConstruct i c
  | .moveAssign i j => (b.idle? i).elim b fun c => (b.idle? j).elim b fun source =>
      b.moveAssign i j c source
  | .exchange i spurious => b.cells[i]?.elim b fun c => b.exchange i c spurious
  | .finish i => b.cells[i]?.elim b fun c => b.finish i c

end Budget

end CcsTrans.Core
