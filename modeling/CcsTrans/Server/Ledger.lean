import CcsTrans.Server.Connections

/-!
A ledger of sockets.

The system gives out numbers, and the number of a socket that is closed may be given out again. The
ledger tells for each number the socket that it leads to, and keeps for each call that closes a
number whose socket was meant and whose it was.
-/

namespace CcsTrans.Server

/-- A call that closes a number: the socket it is meant for, and the one that it reaches. -/
structure Close where
  meant : ℕ
  reached : Option ℕ

structure Ledger where
  /-- The sockets that are open, by number. -/
  sockets : ℕ → Option ℕ := fun _ => none
  opened : ℕ := 0
  /-- The connections that were accepted. -/
  accepted : List Socket := []
  /-- The sockets that transports have open. -/
  upstream : List Socket := []
  /-- The calls that close a connection. -/
  closes : List Close := []

namespace Ledger

/-- A number is given to a new socket. -/
def opens (l : Ledger) (handle : ℕ) : Ledger :=
  { l with sockets := Function.update l.sockets handle (some l.opened), opened := l.opened + 1 }

/-- The socket that is opened next, under a number. -/
def next (l : Ledger) (handle : ℕ) : Socket := ⟨handle, l.opened⟩

/-- A connection is accepted. -/
def accept (l : Ledger) (handle : ℕ) : Ledger :=
  { l.opens handle with accepted := l.accepted ++ [l.next handle] }

/-- `close_socket`, of a connection. -/
def close (l : Ledger) (socket : Socket) : Ledger :=
  { l with
    sockets := Function.update l.sockets socket.handle none
    closes := l.closes ++ [⟨socket.identity, l.sockets socket.handle⟩] }

def connect (l : Ledger) (handle : ℕ) : Ledger :=
  match l.sockets handle with
  | none => { l.opens handle with upstream := l.upstream ++ [l.next handle] }
  | some _ => l

def disconnect (l : Ledger) (i : ℕ) : Ledger :=
  match l.upstream[i]? with
  | some socket =>
    { l with
      sockets := Function.update l.sockets socket.handle none
      upstream := l.upstream.eraseIdx i }
  | none => l

/-- Every connection is closed once, or is one of those that are still to be closed; these are open,
and so is what the transports hold. -/
structure Holds (l : Ledger) (unclosed : List Socket) : Prop where
  isOpen : ∀ s ∈ unclosed ++ l.upstream, l.sockets s.handle = some s.identity
  below : ∀ s ∈ l.accepted ++ l.upstream, s.identity < l.opened
  distinct : ((l.accepted ++ l.upstream).map (·.identity)).Nodup
  placed : (l.closes.map (·.meant) ++ unclosed.map (·.identity)).Perm
    (l.accepted.map (·.identity))
  own : ∀ e ∈ l.closes, e.reached = some e.meant

variable {l : Ledger} {unclosed : List Socket}

lemma Holds.perm (h : l.Holds unclosed) {others : List Socket} (hp : unclosed.Perm others) :
    l.Holds others where
  isOpen s hs := h.isOpen s ((hp.append_right _).symm.subset hs)
  below := h.below
  distinct := h.distinct
  placed := ((hp.map _).append_left _).symm.trans h.placed
  own := h.own

lemma Holds.accepted_nodup (h : l.Holds unclosed) : (l.accepted.map (·.identity)).Nodup := by
  have hdistinct := h.distinct
  rw [List.map_append, List.nodup_append] at hdistinct
  exact hdistinct.1

/-- A connection that is still to be closed, or that was closed, was accepted. -/
lemma Holds.known (h : l.Holds unclosed) {s : Socket} (hs : s ∈ unclosed) :
    s.identity < l.opened := by
  have hmem : s.identity ∈ l.accepted.map (·.identity) :=
    h.placed.subset (List.mem_append_right _ (List.mem_map_of_mem hs))
  obtain ⟨t, ht, heq⟩ := List.mem_map.mp hmem
  rw [← heq]
  exact h.below t (List.mem_append_left _ ht)

/-- Two open sockets of one number are one. -/
lemma Holds.unique (h : l.Holds unclosed) {s t : Socket} (hs : s ∈ unclosed ++ l.upstream)
    (ht : t ∈ unclosed ++ l.upstream) (heq : s.handle = t.handle) : s = t := by
  have hopen := h.isOpen s hs
  rw [heq, h.isOpen t ht, Option.some.injEq] at hopen
  cases s
  cases t
  cases heq
  cases hopen
  rfl

lemma Holds.opens (h : l.Holds unclosed) {handle : ℕ} (hfree : l.sockets handle = none)
    {s : Socket} (hs : s ∈ unclosed ++ l.upstream) :
    (l.opens handle).sockets s.handle = some s.identity := by
  have hopen := h.isOpen s hs
  have hne : s.handle ≠ handle := by
    intro heq
    rw [heq, hfree] at hopen
    cases hopen
  exact (Function.update_of_ne hne _ _).trans hopen

/-- The next socket has an identity of its own. -/
lemma Holds.fresh (h : l.Holds unclosed) (handle : ℕ) :
    (l.next handle).identity ∉ (l.accepted ++ l.upstream).map (·.identity) := by
  intro hmem
  obtain ⟨s, hs, heq⟩ := List.mem_map.mp hmem
  have hless := h.below s hs
  rw [heq] at hless
  exact absurd hless (Nat.lt_irrefl _)

lemma Holds.accept (h : l.Holds unclosed) {handle : ℕ} (hfree : l.sockets handle = none) :
    (l.accept handle).Holds (l.next handle :: unclosed) := by
  have hperm : (l.accepted ++ [l.next handle] ++ l.upstream).Perm
      (l.next handle :: (l.accepted ++ l.upstream)) := by
    rw [List.append_assoc]
    exact List.perm_middle
  refine ⟨fun s hs => ?_, fun s hs => ?_, ?_, ?_, h.own⟩
  · rcases List.mem_cons.mp hs with rfl | hold
    · exact Function.update_self _ _ _
    · exact h.opens hfree hold
  · rcases List.mem_cons.mp (hperm.subset hs) with rfl | hold
    · exact Nat.lt_succ_self _
    · exact Nat.lt_succ_of_lt (h.below s hold)
  · refine ((hperm.map _).nodup_iff).mpr ?_
    rw [List.map_cons, List.nodup_cons]
    exact ⟨h.fresh handle, h.distinct⟩
  · have hmap : ((l.accept handle).accepted.map (·.identity)) =
        l.accepted.map (·.identity) ++ [(l.next handle).identity] := by
      simp [Ledger.accept]
    rw [hmap, List.map_cons]
    exact List.perm_middle.trans
      ((h.placed.cons _).trans (List.perm_append_singleton _ _).symm)

lemma Holds.connect (h : l.Holds unclosed) (handle : ℕ) : (l.connect handle).Holds unclosed := by
  unfold Ledger.connect
  split
  · next hfree =>
    have hperm : (l.accepted ++ (l.upstream ++ [l.next handle])).Perm
        (l.next handle :: (l.accepted ++ l.upstream)) := by
      rw [← List.append_assoc]
      exact List.perm_append_singleton _ _
    refine ⟨fun s hs => ?_, fun s hs => ?_, ?_, h.placed, h.own⟩
    · rw [← List.append_assoc] at hs
      rcases List.mem_append.mp hs with hold | hnew
      · exact h.opens hfree hold
      · obtain rfl := List.mem_singleton.mp hnew
        exact Function.update_self _ _ _
    · rcases List.mem_cons.mp (hperm.subset hs) with rfl | hold
      · exact Nat.lt_succ_self _
      · exact Nat.lt_succ_of_lt (h.below s hold)
    · refine ((hperm.map _).nodup_iff).mpr ?_
      rw [List.map_cons, List.nodup_cons]
      exact ⟨h.fresh handle, h.distinct⟩
  · exact h

/-- A socket is closed: the others that are open have other numbers. -/
lemma Holds.others (h : l.Holds unclosed) {s t : Socket} (hs : s ∈ unclosed ++ l.upstream)
    (ht : t ∈ unclosed ++ l.upstream) (hne : t.identity ≠ s.identity) :
    Function.update l.sockets s.handle none t.handle = some t.identity := by
  have hhandle : t.handle ≠ s.handle := by
    intro heq
    exact hne (congrArg Socket.identity (h.unique ht hs heq))
  rw [Function.update_of_ne hhandle]
  exact h.isOpen t ht

/-- What is still to be closed and what transports hold are different sockets. -/
lemma Holds.separate (h : l.Holds unclosed) :
    ((unclosed ++ l.upstream).map (·.identity)).Nodup := by
  have hdistinct := h.distinct
  rw [List.map_append, List.nodup_append] at hdistinct ⊢
  obtain ⟨haccepted, hupstream, hapart⟩ := hdistinct
  have hplaced := (h.placed.nodup_iff).mpr haccepted
  rw [List.nodup_append] at hplaced
  refine ⟨hplaced.2.1, hupstream, fun i hi j hj => ?_⟩
  exact hapart i (h.placed.subset (List.mem_append_right _ hi)) j hj

lemma Holds.close {s : Socket} (h : l.Holds (s :: unclosed)) : (l.close s).Holds unclosed := by
  have hdistinct := h.separate
  rw [List.cons_append, List.map_cons, List.nodup_cons] at hdistinct
  refine ⟨fun t ht => ?_, h.below, h.distinct, ?_, fun e he => ?_⟩
  · have hne : t.identity ≠ s.identity := by
      intro heq
      exact hdistinct.1 (heq ▸ List.mem_map_of_mem ht)
    exact h.others List.mem_cons_self (List.mem_cons_of_mem _ ht) hne
  · have hmap : (l.close s).closes.map (·.meant) = l.closes.map (·.meant) ++ [s.identity] := by
      simp [Ledger.close]
    rw [hmap, List.append_assoc]
    exact h.placed
  · rcases List.mem_append.mp he with hold | hnew
    · exact h.own e hold
    · obtain rfl := List.mem_singleton.mp hnew
      exact h.isOpen s List.mem_cons_self

lemma Holds.disconnect (h : l.Holds unclosed) (i : ℕ) : (l.disconnect i).Holds unclosed := by
  unfold Ledger.disconnect
  split
  · next socket hsocket =>
    have hperm : l.upstream.Perm (socket :: l.upstream.eraseIdx i) := by
      obtain ⟨hi, rfl⟩ := List.getElem?_eq_some_iff.mp hsocket
      exact (List.getElem_cons_eraseIdx_perm hi).symm
    have hmem : socket ∈ l.upstream := hperm.symm.subset List.mem_cons_self
    have hseparate := h.separate
    have hnodup : (socket.identity :: (unclosed ++ l.upstream.eraseIdx i).map (·.identity)).Nodup := by
      refine (List.Perm.nodup_iff ?_).mp hseparate
      exact ((hperm.append_left unclosed).trans List.perm_middle).map (·.identity)
    rw [List.nodup_cons] at hnodup
    refine ⟨fun t ht => ?_, fun t ht => ?_, ?_, h.placed, h.own⟩
    · have hne : t.identity ≠ socket.identity := by
        intro heq
        exact hnodup.1 (heq ▸ List.mem_map_of_mem ht)
      refine h.others (List.mem_append_right _ hmem) ?_ hne
      rcases List.mem_append.mp ht with ht | ht
      · exact List.mem_append_left _ ht
      · exact List.mem_append_right _ (List.mem_of_mem_eraseIdx ht)
    · rcases List.mem_append.mp ht with ht | ht
      · exact h.below t (List.mem_append_left _ ht)
      · exact h.below t (List.mem_append_right _ (List.mem_of_mem_eraseIdx ht))
    · have hsublist : List.Sublist (l.accepted ++ l.upstream.eraseIdx i) (l.accepted ++ l.upstream) :=
        (List.Sublist.refl _).append (List.eraseIdx_sublist _ _)
      exact (hsublist.map _).nodup h.distinct
  · exact h

/-- When nothing is left to be closed, every connection was closed, once. -/
lemma Holds.closed (h : l.Holds []) {s : Socket} (hs : s ∈ l.accepted) :
    s.identity ∈ l.closes.map (·.meant) := by
  have hplaced := h.placed
  rw [List.map_nil, List.append_nil] at hplaced
  exact hplaced.symm.subset (List.mem_map_of_mem hs)

lemma Holds.once (h : l.Holds unclosed) : (l.closes.map (·.meant)).Nodup := by
  have hplaced := (h.placed.nodup_iff).mpr h.accepted_nodup
  rw [List.nodup_append] at hplaced
  exact hplaced.1

end Ledger

end CcsTrans.Server
