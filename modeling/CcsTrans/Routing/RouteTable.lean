import CcsTrans.Rules.Rule

/-!
The route table: which profile serves a method and a path.
-/

namespace CcsTrans.Routing

open CcsTrans.Text CcsTrans.Core CcsTrans.Config CcsTrans.Protocols CcsTrans.Rules
open CcsTrans.Fallible

structure RuntimeProfile where
  id : Bytes
  handler : ProtocolDescriptor
  sourceEnabled : Bool
  requestPipeline : List CompiledRule

inductive RouteKind where
  | request
  | usage
  deriving DecidableEq

structure UpstreamTarget where
  baseUrl : Bytes
  path : Bytes

structure RouteEntry where
  profile : RuntimeProfile
  kind : RouteKind
  method : Bytes
  localPath : Bytes
  upstream : UpstreamTarget

structure PathRoutes where
  byMethod : List (Bytes × RouteEntry) := []
  /-- Sorted. -/
  allowedMethods : List Bytes := []

structure RouteTable where
  routesByPath : List (Bytes × PathRoutes) := []
  size : ℕ := 0

inductive RouteLookup where
  | matched (entry : RouteEntry) (canonicalPath : Bytes)
  | methodNotAllowed (allowedMethods : List Bytes) (canonicalPath : Bytes)
  | notFound (canonicalPath : Bytes)
  | invalidPath (error : Bytes)

/-- Give a key a value, whether or not it has one. -/
def upsert {α : Type} (k : Bytes) (v : α) (ms : List (Bytes × α)) : List (Bytes × α) :=
  if Json.contains k ms then Json.replace k v ms else ms ++ [(k, v)]

/-- `RouteTable::add`. -/
def RouteTable.add (t : RouteTable) (entry : RouteEntry) : Except Bytes RouteTable :=
  if !validMethod entry.method then
    .error (str "route method must be an uppercase HTTP token")
  else match canonicalizeHttpPath entry.localPath with
    | .error e => .error (str "invalid local route for profile " ++ entry.profile.id ++
        str ": " ++ e)
    | .ok canonical =>
      if isReserved canonical then
        .error (str "profile " ++ entry.profile.id ++
          str " uses the reserved /_ccs-trans management namespace")
      else if entry.upstream.baseUrl = [] ∨ entry.upstream.path = [] then
        .error (str "route for profile " ++ entry.profile.id ++
          str " has an incomplete upstream target")
      else
        let routes := (Json.find canonical t.routesByPath).getD {}
        match Json.find entry.method routes.byMethod with
        | some existing =>
          .error (str "route collision for " ++ entry.method ++ str " " ++ canonical ++
            str " between profiles " ++ existing.profile.id ++ str " and " ++ entry.profile.id)
        | none =>
          .ok ⟨upsert canonical
            ⟨routes.byMethod ++ [(entry.method, { entry with localPath := canonical })],
              routes.allowedMethods.orderedInsert (· ≤ ·) entry.method⟩ t.routesByPath, t.size + 1⟩

/-- `RouteTable::lookup`. -/
def RouteTable.lookup (t : RouteTable) (method path : Bytes) : RouteLookup :=
  match canonicalizeHttpPath path with
  | .error e => .invalidPath e
  | .ok canonical =>
    match Json.find canonical t.routesByPath with
    | none => .notFound canonical
    | some routes =>
      match Json.find method routes.byMethod with
      | some entry => .matched entry canonical
      | none => .methodNotAllowed routes.allowedMethods canonical

/-! ### Tables as functions -/

section Members

variable {α : Type} {k k' : Bytes} {v : α} {ms : List (Bytes × α)}

lemma find_append_singleton : Json.find k (ms ++ [(k', v)]) =
    (Json.find k ms).or (if k = k' then some v else none) := by
  induction ms with
  | nil => simp [Json.find]
  | cons m ms ih =>
    obtain ⟨l, w⟩ := m
    simp only [List.cons_append, Json.find]
    split <;> simp [ih]

lemma find_upsert : Json.find k (upsert k' v ms) = if k = k' then some v else Json.find k ms := by
  unfold upsert
  split
  · next h => simp [Json.find_replace, h]
  · next h =>
    rw [find_append_singleton]
    by_cases hk : k = k'
    · subst hk
      have : Json.find k ms = none := by simpa [Json.contains] using h
      simp [this]
    · simp [hk]

end Members

/-- The entry of a method and a canonical path. -/
def RouteTable.entryAt (t : RouteTable) (method canonical : Bytes) : Option RouteEntry :=
  (Json.find canonical t.routesByPath).bind fun routes => Json.find method routes.byMethod

/-- What adding an entry does. -/
lemma RouteTable.add_spec {t t' : RouteTable} {e : RouteEntry} (h : t.add e = .ok t') :
    ∃ canonical, canonicalizeHttpPath e.localPath = .ok canonical ∧
      t.entryAt e.method canonical = none ∧
      ∀ m p, t'.entryAt m p = if m = e.method ∧ p = canonical then
        some { e with localPath := canonical } else t.entryAt m p := by
  unfold RouteTable.add at h
  split at h
  · cases h
  cases hc : canonicalizeHttpPath e.localPath with
  | error err => simp [hc] at h
  | ok canonical =>
    simp only [hc] at h
    split_ifs at h
    split at h
    · cases h
    · next hnone =>
      cases h
      refine ⟨canonical, rfl, ?_, fun m p => ?_⟩
      · unfold RouteTable.entryAt
        cases hp : Json.find canonical t.routesByPath with
        | none => rfl
        | some routes => simpa [hp] using hnone
      · unfold RouteTable.entryAt
        dsimp only
        rw [find_upsert]
        by_cases hp : p = canonical
        · subst hp
          rw [if_pos rfl, Option.bind_some]
          dsimp only
          rw [find_append_singleton]
          cases hr : Json.find p t.routesByPath with
          | none => by_cases hm : m = e.method <;> simp [hm, Json.find]
          | some routes =>
            simp only [hr, Option.getD_some] at hnone
            by_cases hm : m = e.method
            · subst hm
              simp [hnone]
            · simp [hm]
        · simp [hp]

/-- A lookup finds the entry of the canonical path. -/
lemma RouteTable.lookup_matched {t : RouteTable} {m p c : Bytes} {e : RouteEntry} :
    t.lookup m p = .matched e c ↔
      canonicalizeHttpPath p = .ok c ∧ t.entryAt m c = some e := by
  unfold RouteTable.lookup RouteTable.entryAt
  cases canonicalizeHttpPath p with
  | error err => simp
  | ok c' =>
    cases hr : Json.find c' t.routesByPath with
    | none =>
      simp only [hr, reduceCtorEq, Except.ok.injEq, false_iff, not_and]
      rintro rfl
      simp [hr]
    | some routes =>
      cases hm : Json.find m routes.byMethod with
      | none =>
        simp only [hr, hm, reduceCtorEq, Except.ok.injEq, false_iff, not_and]
        rintro rfl
        simp [hr, hm]
      | some e' =>
        simp only [hr, hm, RouteLookup.matched.injEq, Except.ok.injEq]
        constructor
        · rintro ⟨rfl, rfl⟩
          simp [hr, hm]
        · rintro ⟨rfl, h⟩
          simpa [hr, hm] using h

end CcsTrans.Routing
