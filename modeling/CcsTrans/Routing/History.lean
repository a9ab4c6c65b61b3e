import CcsTrans.InPlace
import CcsTrans.Routing.RouteTable

/-!
The route table after any history of adding.

An `add` changes the table in three places, one after another, and may fail before and after
it has looked up the path. What the table holds is a finite map all the same: of each method
and canonical path it has the route that was added first.
-/

namespace CcsTrans.Routing

open CcsTrans.Text CcsTrans.Core CcsTrans.Config CcsTrans.Protocols CcsTrans.Rules
open CcsTrans.Fallible CcsTrans.InPlace

/-! ### Adding -/

/-- A runtime profile as a caller may hand it over. -/
structure OfferedProfile where
  id : Bytes
  handler : Option ProtocolDescriptor
  sourceEnabled : Bool
  requestPipeline : List CompiledRule

/-- A route as a caller may hand it over. -/
structure OfferedRoute where
  profile : Option OfferedProfile
  kind : RouteKind
  method : Bytes
  localPath : Bytes
  upstream : UpstreamTarget

/-- The checks of `RouteTable::add` that do not look at the table, and the entry with its
canonical path. -/
def OfferedRoute.checked (o : OfferedRoute) : Except Bytes RouteEntry :=
  match o.profile with
  | none => .error (str "route must reference an immutable runtime profile")
  | some profile =>
    match profile.handler with
    | none => .error (str "runtime profile " ++ profile.id ++ str " has no protocol handler")
    | some handler =>
      if !validMethod o.method then
        .error (str "route method must be an uppercase HTTP token")
      else match canonicalizeHttpPath o.localPath with
        | .error e => .error (str "invalid local route for profile " ++ profile.id ++ str ": " ++ e)
        | .ok canonical =>
          if isReserved canonical then
            .error (str "profile " ++ profile.id ++
              str " uses the reserved /_ccs-trans management namespace")
          else if o.upstream.baseUrl = [] ∨ o.upstream.path = [] then
            .error (str "route for profile " ++ profile.id ++
              str " has an incomplete upstream target")
          else .ok ⟨⟨profile.id, handler, profile.sourceEnabled, profile.requestPipeline⟩, o.kind,
            o.method, canonical, o.upstream⟩

/-- `routes_by_path_[canonical]`: a path that is not there gets an empty entry. -/
def RouteTable.touch (canonical : Bytes) (t : RouteTable) : RouteTable :=
  if Json.contains canonical t.routesByPath then t
  else { t with routesByPath := t.routesByPath ++ [(canonical, {})] }

/-- Change the entry of a path. -/
def RouteTable.change (canonical : Bytes) (f : PathRoutes → PathRoutes) (t : RouteTable) :
    RouteTable :=
  { t with routesByPath :=
      upsert canonical (f ((Json.find canonical t.routesByPath).getD {})) t.routesByPath }

/-- `RouteTable::add`, in place. -/
def addOffered (o : OfferedRoute) : EStateM Bytes RouteTable Unit := do
  let entry ← demand o.checked
  modify (RouteTable.touch entry.localPath)
  let t ← get
  match t.entryAt entry.method entry.localPath with
  | some existing =>
    throw (str "route collision for " ++ entry.method ++ str " " ++ entry.localPath ++
      str " between profiles " ++ existing.profile.id ++ str " and " ++ entry.profile.id)
  | none =>
    modify (RouteTable.change entry.localPath fun routes =>
      { routes with allowedMethods := routes.allowedMethods ++ [entry.method] })
    modify (RouteTable.change entry.localPath fun routes =>
      { routes with allowedMethods := routes.allowedMethods.insertionSort (· ≤ ·) })
    modify (RouteTable.change entry.localPath fun routes =>
      { routes with byMethod := routes.byMethod ++ [(entry.method, entry)] })
    modify fun t => { t with size := t.size + 1 }

/-- The table after a history, and the entries of the calls that succeeded. -/
def addAll : RouteTable → List OfferedRoute → RouteTable × List RouteEntry
  | t, [] => (t, [])
  | t, o :: os =>
    let r := addOffered o t
    let rest := addAll (left r) os
    (rest.1, (if failed r then [] else o.checked.toOption.toList) ++ rest.2)

/-! ### What a table holds -/

/-- The routes of a path, when there are any. -/
def pathRoutes : List RouteEntry → Option PathRoutes
  | [] => none
  | es => some ⟨es.map fun e => (e.method, e), (es.map RouteEntry.method).insertionSort (· ≤ ·)⟩

/-- The entries of a canonical path. -/
def entriesOf (c : Bytes) (es : List RouteEntry) : List RouteEntry :=
  es.filter fun e => e.localPath = c

/-- No two entries have one method and one path. -/
def Apart (e e' : RouteEntry) : Prop := ¬ (e.method = e'.method ∧ e.localPath = e'.localPath)

instance : Std.Symm Apart := ⟨fun _ _ h h' => h ⟨h'.1.symm, h'.2.symm⟩⟩

/-- The table holds the entries `es`, in the order in which they came. -/
structure RouteTable.Holds (t : RouteTable) (es : List RouteEntry) : Prop where
  paths : ∀ c, Json.find c t.routesByPath = pathRoutes (entriesOf c es)
  size : t.size = es.length
  apart : es.Pairwise Apart

lemma holds_nil : RouteTable.Holds {} [] := ⟨fun _ => rfl, rfl, .nil⟩

lemma getD_pathRoutes (es : List RouteEntry) : (pathRoutes es).getD {} =
    ⟨es.map fun e => (e.method, e), (es.map RouteEntry.method).insertionSort (· ≤ ·)⟩ := by
  cases es <;> rfl

lemma pathRoutes_eq_none {es : List RouteEntry} : pathRoutes es = none ↔ es = [] := by
  cases es <;> simp [pathRoutes]

lemma pathRoutes_of_ne_nil {es : List RouteEntry} (h : es ≠ []) : pathRoutes es =
    some ⟨es.map fun e => (e.method, e), (es.map RouteEntry.method).insertionSort (· ≤ ·)⟩ := by
  cases es with
  | nil => exact absurd rfl h
  | cons e es => rfl

/-- Sorting again after another method has come. -/
lemma insertionSort_snoc (ms : List Bytes) (m : Bytes) :
    (ms.insertionSort (· ≤ ·) ++ [m]).insertionSort (· ≤ ·) = (ms ++ [m]).insertionSort (· ≤ ·) := by
  refine List.Perm.eq_of_pairwise' (r := (· ≤ ·)) (List.pairwise_insertionSort _ _)
    (List.pairwise_insertionSort _ _) ?_
  have hinner : (ms.insertionSort (· ≤ ·) ++ [m]).Perm (ms ++ [m]) :=
    (List.perm_insertionSort _ _).append_right _
  exact ((List.perm_insertionSort _ _).trans hinner).trans (List.perm_insertionSort _ _).symm

lemma orderedInsert_insertionSort (ms : List Bytes) (m : Bytes) :
    (ms.insertionSort (· ≤ ·)).orderedInsert (· ≤ ·) m = (ms ++ [m]).insertionSort (· ≤ ·) := by
  refine List.Perm.eq_of_pairwise' (r := (· ≤ ·)) ?_ (List.pairwise_insertionSort _ _) ?_
  · exact (List.pairwise_insertionSort _ ms).orderedInsert m _
  · have hinner : (m :: ms.insertionSort (· ≤ ·)).Perm (ms ++ [m]) :=
      ((List.perm_insertionSort _ _).cons m).trans (List.perm_append_singleton m ms).symm
    exact ((List.perm_orderedInsert _ _ _).trans hinner).trans (List.perm_insertionSort _ _).symm

lemma find_map_method (m : Bytes) (es : List RouteEntry) :
    Json.find m (es.map fun e => (e.method, e)) = es.find? fun e => e.method = m := by
  induction es with
  | nil => rfl
  | cons e es ih =>
    rw [List.map_cons, Json.find, List.find?_cons, ih]
    by_cases h : m = e.method
    · simp [h]
    · simp [h, Ne.symm h]

lemma entriesOf_snoc (c : Bytes) (es : List RouteEntry) (e : RouteEntry) :
    entriesOf c (es ++ [e]) = entriesOf c es ++ if e.localPath = c then [e] else [] := by
  simp only [entriesOf, List.filter_append, List.filter_cons, List.filter_nil, decide_eq_true_eq]

section Held

variable {t t' : RouteTable} {es es' : List RouteEntry}

lemma RouteTable.Holds.entryAt (h : t.Holds es) (m c : Bytes) :
    t.entryAt m c = es.find? fun e => e.localPath = c ∧ e.method = m := by
  have hfind : (entriesOf c es).find? (fun e => e.method = m) =
      es.find? fun e => e.localPath = c ∧ e.method = m := by
    rw [entriesOf, List.find?_filter]
    simp
  rw [RouteTable.entryAt, h.paths, ← hfind]
  by_cases hnil : entriesOf c es = []
  · rw [hnil]
    rfl
  · rw [pathRoutes_of_ne_nil hnil, Option.bind_some, find_map_method]

/-- With no two entries of one method and path, the first is the only one. -/
lemma RouteTable.Holds.entryAt_eq_some (h : t.Holds es) {m c : Bytes} {e : RouteEntry} :
    t.entryAt m c = some e ↔ e ∈ es ∧ e.localPath = c ∧ e.method = m := by
  rw [h.entryAt]
  constructor
  · intro hfind
    have hprop := List.find?_some hfind
    exact ⟨List.mem_of_find?_eq_some hfind, by simpa using hprop⟩
  · rintro ⟨hmem, hpath, hmethod⟩
    cases hfind : es.find? fun e => e.localPath = c ∧ e.method = m with
    | none =>
      have := List.find?_eq_none.mp hfind e hmem
      simp [hpath, hmethod] at this
    | some e' =>
      have hprop : e'.localPath = c ∧ e'.method = m := by simpa using List.find?_some hfind
      by_contra hne
      have hapart := h.apart.forall hmem (List.mem_of_find?_eq_some hfind)
        fun heq => hne (by rw [heq])
      exact hapart ⟨hmethod.trans hprop.2.symm, hpath.trans hprop.1.symm⟩

/-! ### One call -/

lemma find_change (c c' : Bytes) (f : PathRoutes → PathRoutes) (t : RouteTable) :
    Json.find c' (t.change c f).routesByPath =
      if c' = c then some (f ((Json.find c t.routesByPath).getD {}))
      else Json.find c' t.routesByPath := find_upsert

lemma find_touch_of_ne {c c' : Bytes} (hne : c' ≠ c) (t : RouteTable) :
    Json.find c' (t.touch c).routesByPath = Json.find c' t.routesByPath := by
  unfold RouteTable.touch
  split_ifs
  · rfl
  · rw [find_append_singleton, if_neg hne, Option.or_none]

lemma getD_find_touch (c : Bytes) (t : RouteTable) :
    (Json.find c (t.touch c).routesByPath).getD {} = (Json.find c t.routesByPath).getD {} := by
  unfold RouteTable.touch
  split_ifs
  · rfl
  · rw [find_append_singleton, if_pos rfl]
    cases Json.find c t.routesByPath <;> rfl

lemma entryAt_eq_getD (t : RouteTable) (m c : Bytes) :
    t.entryAt m c = Json.find m ((Json.find c t.routesByPath).getD {}).byMethod := by
  rw [RouteTable.entryAt]
  cases Json.find c t.routesByPath <;> rfl

lemma entryAt_touch (t : RouteTable) (m c : Bytes) : (t.touch c).entryAt m c = t.entryAt m c := by
  rw [entryAt_eq_getD, entryAt_eq_getD, getD_find_touch]

/-- A path with a route is there. -/
lemma touch_of_entryAt {m c : Bytes} {e : RouteEntry} (h : t.entryAt m c = some e) :
    t.touch c = t := by
  obtain ⟨routes, hroutes, -⟩ := Option.bind_eq_some_iff.mp h
  unfold RouteTable.touch
  rw [if_pos]
  rw [Json.contains, hroutes]
  rfl

/-- The changes that a call makes when it succeeds. -/
def RouteTable.added (t : RouteTable) (e : RouteEntry) : RouteTable :=
  let t := t.touch e.localPath
  let t := t.change e.localPath fun routes =>
    { routes with allowedMethods := routes.allowedMethods ++ [e.method] }
  let t := t.change e.localPath fun routes =>
    { routes with allowedMethods := routes.allowedMethods.insertionSort (· ≤ ·) }
  let t := t.change e.localPath fun routes =>
    { routes with byMethod := routes.byMethod ++ [(e.method, e)] }
  { t with size := t.size + 1 }

lemma addOffered_refused {o : OfferedRoute} {e : Bytes} (h : o.checked = .error e) (t : RouteTable) :
    addOffered o t = .error e t := by
  unfold addOffered
  rw [h]
  rfl

/-- A call that passes its own checks fails exactly when the method and path are taken. -/
lemma addOffered_checked {o : OfferedRoute} {e : RouteEntry} (h : o.checked = .ok e)
    (t : RouteTable) : addOffered o t =
      match t.entryAt e.method e.localPath with
      | some existing => .error (str "route collision for " ++ e.method ++ str " " ++ e.localPath ++
          str " between profiles " ++ existing.profile.id ++ str " and " ++ e.profile.id) t
      | none => .ok () (t.added e) := by
  have hdemand : demand o.checked t = .ok e t := by rw [h]; rfl
  have htouch : (modify (RouteTable.touch e.localPath) : EStateM Bytes RouteTable PUnit) t =
      .ok ⟨⟩ (t.touch e.localPath) := rfl
  unfold addOffered
  rw [bind_of_ok hdemand, bind_of_ok htouch, bind_of_ok (get_apply _), entryAt_touch]
  cases hentry : t.entryAt e.method e.localPath with
  | some existing =>
    dsimp only
    rw [touch_of_entryAt hentry]
    rfl
  | none => rfl

lemma added_size (t : RouteTable) (e : RouteEntry) : (t.added e).size = t.size + 1 := by
  unfold RouteTable.added RouteTable.touch
  split_ifs <;> rfl

lemma find_added (t : RouteTable) (e : RouteEntry) (c : Bytes) :
    Json.find c (t.added e).routesByPath =
      if c = e.localPath then
        let routes := (Json.find c t.routesByPath).getD {}
        some ⟨routes.byMethod ++ [(e.method, e)],
          (routes.allowedMethods ++ [e.method]).insertionSort (· ≤ ·)⟩
      else Json.find c t.routesByPath := by
  unfold RouteTable.added
  dsimp only
  by_cases hc : c = e.localPath
  · subst hc
    simp only [find_change, if_true, Option.getD_some, getD_find_touch]
  · simp only [find_change, if_neg hc, find_touch_of_ne hc]

/-- One more entry. -/
lemma RouteTable.Holds.added (h : t.Holds es) {e : RouteEntry}
    (hfree : t.entryAt e.method e.localPath = none) : (t.added e).Holds (es ++ [e]) where
  paths c := by
    rw [find_added, entriesOf_snoc]
    by_cases hc : c = e.localPath
    · subst hc
      rw [if_pos rfl, if_pos rfl, h.paths, getD_pathRoutes]
      dsimp only
      rw [insertionSort_snoc, pathRoutes_of_ne_nil (by simp), List.map_append, List.map_append]
      rfl
    · rw [if_neg hc, if_neg (Ne.symm hc), List.append_nil, h.paths]
  size := by rw [added_size, h.size, List.length_append, List.length_singleton]
  apart := by
    refine List.pairwise_append.mpr ⟨h.apart, List.pairwise_singleton _ _, fun e' he' x hx => ?_⟩
    rw [List.mem_singleton.mp hx]
    rintro ⟨hmethod, hpath⟩
    have := h.entryAt_eq_some.mpr ⟨he', hpath, hmethod⟩
    rw [hfree] at this
    cases this

/-- What holds after a call. -/
lemma RouteTable.Holds.step (h : t.Holds es) (o : OfferedRoute) :
    (left (addOffered o t)).Holds
      (es ++ if failed (addOffered o t) then [] else o.checked.toOption.toList) := by
  cases hchecked : o.checked with
  | error e =>
    rw [addOffered_refused hchecked]
    simpa [failed] using h
  | ok e =>
    rw [addOffered_checked hchecked]
    cases hentry : t.entryAt e.method e.localPath with
    | some existing => simpa [failed] using h
    | none => exact h.added hentry

/-- A history keeps what the table holds. -/
lemma RouteTable.Holds.addAll (h : t.Holds es) (os : List OfferedRoute) :
    (addAll t os).1.Holds (es ++ (addAll t os).2) := by
  induction os generalizing t es with
  | nil => simpa [Routing.addAll] using h
  | cons o os ih =>
    have := ih (h.step o)
    rwa [List.append_assoc] at this

/-! ### Lookups -/

/-- The methods of a path, sorted. -/
def methodsOf (c : Bytes) (es : List RouteEntry) : List Bytes :=
  ((entriesOf c es).map RouteEntry.method).insertionSort (· ≤ ·)

lemma mem_methodsOf {c m : Bytes} :
    m ∈ methodsOf c es ↔ ∃ e ∈ es, e.localPath = c ∧ e.method = m := by
  simp only [methodsOf, List.mem_insertionSort, entriesOf, List.mem_map, List.mem_filter,
    decide_eq_true_eq, and_assoc]

/-- The methods of a path are sorted, and none stands twice. -/
lemma RouteTable.Holds.methodsOf_sorted (h : t.Holds es) (c : Bytes) :
    (methodsOf c es).Pairwise (· < ·) := by
  have hnodup : ((entriesOf c es).map RouteEntry.method).Nodup := by
    refine List.pairwise_map.mpr (((h.apart.filter _).imp_of_mem fun {e e'} he he' hapart => ?_))
    have hpath := (List.mem_filter.mp he).2
    have hpath' := (List.mem_filter.mp he').2
    simp only [decide_eq_true_eq] at hpath hpath'
    exact fun hmethod => hapart ⟨hmethod, hpath.trans hpath'.symm⟩
  have hsorted := List.pairwise_insertionSort (· ≤ ·) ((entriesOf c es).map RouteEntry.method)
  have hdistinct : (methodsOf c es).Nodup := (List.perm_insertionSort _ _).nodup_iff.mpr hnodup
  exact (hsorted.and hdistinct).imp fun ⟨hle, hne⟩ => Std.lt_of_le_of_ne hle hne

lemma RouteTable.Holds.lookup (h : t.Holds es) {m p c : Bytes}
    (hc : canonicalizeHttpPath p = .ok c) : t.lookup m p =
      if entriesOf c es = [] then .notFound c
      else match t.entryAt m c with
        | some e => .matched e c
        | none => .methodNotAllowed (methodsOf c es) c := by
  unfold RouteTable.lookup RouteTable.entryAt
  rw [hc]
  dsimp only
  rw [h.paths]
  split_ifs with hnil
  · rw [hnil]
    rfl
  · rw [pathRoutes_of_ne_nil hnil]
    rfl

lemma RouteTable.lookup_invalidPath {m p error : Bytes} :
    t.lookup m p = .invalidPath error ↔ canonicalizeHttpPath p = .error error := by
  unfold RouteTable.lookup
  cases canonicalizeHttpPath p with
  | error e => simp
  | ok c =>
    simp only [reduceCtorEq, iff_false]
    split
    · simp
    · split <;> simp

/-- The path of what a lookup finds, or does not find, is the canonical one. -/
lemma RouteTable.canonical_of_lookup {m p c : Bytes} {r : RouteLookup} (h : t.lookup m p = r)
    (hr : (∃ e, r = .matched e c) ∨ (∃ ms, r = .methodNotAllowed ms c) ∨ r = .notFound c) :
    canonicalizeHttpPath p = .ok c := by
  subst h
  unfold RouteTable.lookup at hr
  cases hc : canonicalizeHttpPath p with
  | error e => simp [hc] at hr
  | ok c' =>
    simp only [hc] at hr
    split at hr
    · simpa [eq_comm] using hr
    · split at hr <;> simpa [eq_comm] using hr

lemma RouteTable.Holds.lookup_notFound (h : t.Holds es) {m p c : Bytes} :
    t.lookup m p = .notFound c ↔
      canonicalizeHttpPath p = .ok c ∧ ∀ e ∈ es, e.localPath ≠ c := by
  have hnone : entriesOf c es = [] ↔ ∀ e ∈ es, e.localPath ≠ c := by simp [entriesOf]
  constructor
  · intro hlookup
    have hc := canonical_of_lookup hlookup (.inr (.inr rfl))
    refine ⟨hc, hnone.mp ?_⟩
    by_contra hne
    rw [h.lookup hc, if_neg hne] at hlookup
    split at hlookup <;> cases hlookup
  · rintro ⟨hc, hall⟩
    rw [h.lookup hc, if_pos (hnone.mpr hall)]

lemma RouteTable.Holds.lookup_methodNotAllowed (h : t.Holds es) {m p c : Bytes} {ms : List Bytes} :
    t.lookup m p = .methodNotAllowed ms c ↔ canonicalizeHttpPath p = .ok c ∧
      (∃ e ∈ es, e.localPath = c) ∧ (∀ e ∈ es, e.localPath = c → e.method ≠ m) ∧
      ms = methodsOf c es := by
  have hsome : entriesOf c es ≠ [] ↔ ∃ e ∈ es, e.localPath = c := by simp [entriesOf]
  have hfree : t.entryAt m c = none ↔ ∀ e ∈ es, e.localPath = c → e.method ≠ m := by
    rw [h.entryAt]
    simp
  constructor
  · intro hlookup
    have hc := canonical_of_lookup hlookup (.inr (.inl ⟨ms, rfl⟩))
    rw [h.lookup hc] at hlookup
    split_ifs at hlookup with hnil
    split at hlookup
    · cases hlookup
    · next hnone =>
      cases hlookup
      exact ⟨hc, hsome.mp hnil, hfree.mp hnone, rfl⟩
  · rintro ⟨hc, hany, hall, rfl⟩
    rw [h.lookup hc, if_neg (hsome.mpr hany), hfree.mpr hall]

/-- Tables with the same entries answer alike. -/
lemma RouteTable.Holds.lookup_congr (h : t.Holds es) (h' : t'.Holds es') (hperm : es.Perm es')
    (m p : Bytes) : t.lookup m p = t'.lookup m p := by
  symm
  cases hlookup : t.lookup m p with
  | invalidPath e => exact lookup_invalidPath.mpr (lookup_invalidPath.mp hlookup)
  | notFound c =>
    obtain ⟨hc, hall⟩ := h.lookup_notFound.mp hlookup
    exact h'.lookup_notFound.mpr ⟨hc, fun e he => hall e (hperm.mem_iff.mpr he)⟩
  | matched e c =>
    obtain ⟨hc, hentry⟩ := lookup_matched.mp hlookup
    obtain ⟨he, hpath, hmethod⟩ := h.entryAt_eq_some.mp hentry
    exact lookup_matched.mpr
      ⟨hc, h'.entryAt_eq_some.mpr ⟨hperm.mem_iff.mp he, hpath, hmethod⟩⟩
  | methodNotAllowed ms c =>
    obtain ⟨hc, ⟨e, he, hpath⟩, hall, rfl⟩ := h.lookup_methodNotAllowed.mp hlookup
    refine h'.lookup_methodNotAllowed.mpr ⟨hc, ⟨e, hperm.mem_iff.mp he, hpath⟩,
      fun e he => hall e (hperm.mem_iff.mpr he), ?_⟩
    have hmethods : ((entriesOf c es).map RouteEntry.method).Perm
        ((entriesOf c es').map RouteEntry.method) := (hperm.filter _).map _
    refine List.Perm.eq_of_pairwise' (r := (· ≤ ·)) (List.pairwise_insertionSort _ _)
      (List.pairwise_insertionSort _ _) ?_
    exact ((List.perm_insertionSort _ _).trans hmethods).trans (List.perm_insertionSort _ _).symm

end Held

/-! ### The calls of the runtime compiler -/

lemma replace_replace (k : Bytes) (v w : PathRoutes) (ms : List (Bytes × PathRoutes)) :
    Json.replace k v (Json.replace k w ms) = Json.replace k v ms := by
  induction ms with
  | nil => rfl
  | cons m ms ih =>
    obtain ⟨l, u⟩ := m
    by_cases h : k = l
    · simp [Json.replace, h]
    · simp [Json.replace, h, ih]

lemma replace_append_singleton {k : Bytes} {v w : PathRoutes} {ms : List (Bytes × PathRoutes)}
    (h : Json.contains k ms = false) : Json.replace k v (ms ++ [(k, w)]) = ms ++ [(k, v)] := by
  induction ms with
  | nil => simp [Json.replace]
  | cons m ms ih =>
    obtain ⟨l, u⟩ := m
    have hne : k ≠ l := by
      rintro rfl
      simp [Json.contains, Json.find] at h
    have hrest : Json.contains k ms = false := by simpa [Json.contains, Json.find, hne] using h
    rw [List.cons_append, Json.replace, if_neg hne, ih hrest, List.cons_append]

lemma upsert_upsert (k : Bytes) (v w : PathRoutes) (ms : List (Bytes × PathRoutes)) :
    upsert k v (upsert k w ms) = upsert k v ms := by
  have hcontains : Json.contains k (upsert k w ms) = true := by
    rw [Json.contains, find_upsert, if_pos rfl]
    rfl
  rw [upsert, if_pos hcontains]
  cases h : Json.contains k ms with
  | true => simp only [upsert, h, if_true, replace_replace]
  | false => simp [upsert, h, replace_append_singleton h]

lemma change_change (c : Bytes) (f g : PathRoutes → PathRoutes) (t : RouteTable) :
    (t.change c f).change c g = t.change c fun routes => g (f routes) := by
  rw [RouteTable.change, find_change, if_pos rfl]
  simp only [RouteTable.change, Option.getD_some, upsert_upsert]

lemma change_touch (c : Bytes) (f : PathRoutes → PathRoutes) (t : RouteTable) :
    (t.touch c).change c f = t.change c f := by
  rw [RouteTable.change, getD_find_touch, RouteTable.change, RouteTable.touch]
  cases h : Json.contains c t.routesByPath with
  | true => rfl
  | false =>
    have htouch : t.routesByPath ++ [(c, ({} : PathRoutes))] = upsert c {} t.routesByPath := by
      rw [upsert, h]
      rfl
    rw [if_neg Bool.false_ne_true, htouch, upsert_upsert]

/-- The entry as it is handed over. -/
def RouteEntry.offered (e : RouteEntry) : OfferedRoute :=
  ⟨some ⟨e.profile.id, some e.profile.handler, e.profile.sourceEnabled, e.profile.requestPipeline⟩,
    e.kind, e.method, e.localPath, e.upstream⟩

lemma add_eq_checked (t : RouteTable) (e : RouteEntry) : t.add e =
    match e.offered.checked with
    | .error error => .error error
    | .ok entry =>
      let routes := (Json.find entry.localPath t.routesByPath).getD {}
      match Json.find entry.method routes.byMethod with
      | some existing => .error (str "route collision for " ++ entry.method ++ str " " ++
          entry.localPath ++ str " between profiles " ++ existing.profile.id ++ str " and " ++
          entry.profile.id)
      | none => .ok ⟨upsert entry.localPath ⟨routes.byMethod ++ [(entry.method, entry)],
          routes.allowedMethods.orderedInsert (· ≤ ·) entry.method⟩ t.routesByPath, t.size + 1⟩ := by
  simp only [RouteTable.add, OfferedRoute.checked, RouteEntry.offered]
  by_cases hmethod : (!validMethod e.method) = true
  · simp only [hmethod, if_true]
  simp only [hmethod, Bool.false_eq_true, if_false]
  cases canonicalizeHttpPath e.localPath with
  | error error => rfl
  | ok canonical =>
    dsimp only
    by_cases hreserved : isReserved canonical = true
    · simp only [hreserved, if_true]
    simp only [hreserved, Bool.false_eq_true, if_false]
    by_cases hupstream : e.upstream.baseUrl = [] ∨ e.upstream.path = []
    · simp only [hupstream, if_true]
    · simp only [hupstream, if_false]
      try rfl

/-- In a table that holds something, adding in place is what the runtime compiler does. -/
theorem RouteTable.Holds.addOffered_eq_add {t : RouteTable} {es : List RouteEntry} (h : t.Holds es)
    (e : RouteEntry) : addOffered e.offered t =
      match t.add e with
      | .ok t' => .ok () t'
      | .error error => .error error t := by
  rw [add_eq_checked]
  cases hchecked : e.offered.checked with
  | error error => rw [addOffered_refused hchecked]
  | ok entry =>
    rw [addOffered_checked hchecked, entryAt_eq_getD]
    dsimp only
    cases Json.find entry.method ((Json.find entry.localPath t.routesByPath).getD {}).byMethod with
    | some existing => rfl
    | none =>
      dsimp only
      rw [RouteTable.added]
      simp only [change_touch, change_change]
      rw [RouteTable.change, h.paths, getD_pathRoutes]
      dsimp only
      rw [insertionSort_snoc, orderedInsert_insertionSort]

/-! ### Orders of calls -/

/-- The checked entry has the method and the canonical path of the call. -/
lemma checked_ok {o : OfferedRoute} {e : RouteEntry} (h : o.checked = .ok e) :
    e.method = o.method ∧ canonicalizeHttpPath o.localPath = .ok e.localPath := by
  unfold OfferedRoute.checked at h
  split at h
  · cases h
  split at h
  · cases h
  cases hcanonical : canonicalizeHttpPath o.localPath with
  | error e =>
    simp only [hcanonical] at h
    split_ifs at h
  | ok canonical =>
    simp only [hcanonical] at h
    split_ifs at h
    cases h
    exact ⟨rfl, rfl⟩

/-- Two calls with another method or another canonical path. -/
def Distinct (o o' : OfferedRoute) : Prop :=
  ∀ c, canonicalizeHttpPath o.localPath = .ok c → canonicalizeHttpPath o'.localPath = .ok c →
    o.method ≠ o'.method

/-- Calls that are distinct succeed when they pass their own checks. -/
lemma entries_of_distinct {t : RouteTable} {es : List RouteEntry} (h : t.Holds es)
    {os : List OfferedRoute} (hos : os.Pairwise Distinct)
    (hfree : ∀ o ∈ os, ∀ e ∈ es, canonicalizeHttpPath o.localPath = .ok e.localPath →
      o.method ≠ e.method) :
    (addAll t os).2 = os.filterMap fun o => o.checked.toOption := by
  induction os generalizing t es with
  | nil => rfl
  | cons o os ih =>
    obtain ⟨hhead, htail⟩ := List.pairwise_cons.mp hos
    have hstep := h.step o
    rw [List.filterMap_cons, addAll]
    cases hchecked : o.checked with
    | error e =>
      rw [addOffered_refused hchecked] at hstep ⊢
      dsimp only
      rw [ih hstep htail]
      · rfl
      · simpa [failed] using fun o' ho' => hfree o' (List.mem_cons_of_mem _ ho')
    | ok e =>
      obtain ⟨hmethod, hpath⟩ := checked_ok hchecked
      have hentry : t.entryAt e.method e.localPath = none := by
        rw [h.entryAt, List.find?_eq_none]
        intro e' he'
        simp only [decide_eq_true_eq, not_and]
        intro hpath' hmethod'
        exact hfree o List.mem_cons_self e' he' (hpath'.symm ▸ hpath)
          (hmethod.symm.trans hmethod'.symm)
      rw [addOffered_checked hchecked, hentry, hchecked] at hstep
      rw [addOffered_checked hchecked, hentry]
      dsimp only
      rw [ih hstep htail]
      · rfl
      · intro o' ho' e' he' hpath'
        rcases List.mem_append.mp he' with he' | he'
        · exact hfree o' (List.mem_cons_of_mem _ ho') e' he' hpath'
        · obtain rfl : e' = e := List.mem_singleton.mp he'
          rw [hmethod]
          exact (hhead o' ho' _ hpath hpath').symm

/-- **The route table is a finite map.** After any sequence of calls, a lookup finds the entry
of the first successful call with its method and canonical path. Where there is none, it lists
the methods of the path, sorted and without repetition, and where there are none of these, it
finds nothing. The size is the number of successful calls, a failed call leaves the table as it
is, and the order of calls that are distinct does not matter. -/
theorem route_table_is_finite_map (os : List OfferedRoute) :
    (∀ m p e c, (addAll {} os).1.lookup m p = .matched e c ↔ canonicalizeHttpPath p = .ok c ∧
      (addAll {} os).2.find? (fun e => e.localPath = c ∧ e.method = m) = some e) ∧
    (∀ m p ms c, (addAll {} os).1.lookup m p = .methodNotAllowed ms c ↔
      canonicalizeHttpPath p = .ok c ∧ (∃ e ∈ (addAll {} os).2, e.localPath = c) ∧
      (∀ e ∈ (addAll {} os).2, e.localPath = c → e.method ≠ m) ∧ ms.Pairwise (· < ·) ∧
      ∀ m', m' ∈ ms ↔ ∃ e ∈ (addAll {} os).2, e.localPath = c ∧ e.method = m') ∧
    (∀ m p c, (addAll {} os).1.lookup m p = .notFound c ↔ canonicalizeHttpPath p = .ok c ∧
      ∀ e ∈ (addAll {} os).2, e.localPath ≠ c) ∧
    (∀ m p error, (addAll {} os).1.lookup m p = .invalidPath error ↔
      canonicalizeHttpPath p = .error error) ∧
    (addAll {} os).1.size = (addAll {} os).2.length ∧
    (∀ o e t', addOffered o (addAll {} os).1 = .error e t' → t' = (addAll {} os).1) ∧
    ∀ os', os.Perm os' → os.Pairwise Distinct → ∀ m p,
      (addAll {} os).1.lookup m p = (addAll {} os').1.lookup m p := by
  have h : (addAll {} os).1.Holds (addAll {} os).2 := holds_nil.addAll os
  refine ⟨fun m p e c => ?_, fun m p ms c => ?_, fun m p c => h.lookup_notFound,
    fun m p e => RouteTable.lookup_invalidPath, h.size, fun o e t' hfail => ?_,
    fun os' hperm hdistinct m p => ?_⟩
  · rw [RouteTable.lookup_matched, h.entryAt]
  · rw [h.lookup_methodNotAllowed]
    refine and_congr_right fun _ => and_congr_right fun _ => and_congr_right fun _ => ?_
    constructor
    · rintro rfl
      exact ⟨h.methodsOf_sorted c, fun m' => mem_methodsOf⟩
    · rintro ⟨hsorted, hmem⟩
      have hmethods := h.methodsOf_sorted c
      have hnodup {l : List Bytes} (hl : l.Pairwise (· < ·)) : l.Nodup :=
        hl.imp Std.ne_of_lt
      refine List.Perm.eq_of_pairwise' (r := (· ≤ ·)) (hsorted.imp Std.le_of_lt)
        (hmethods.imp Std.le_of_lt) ?_
      refine (List.perm_ext_iff_of_nodup (hnodup hsorted) (hnodup hmethods)).mpr fun m' => ?_
      rw [hmem, mem_methodsOf]
  · cases hchecked : o.checked with
    | error e' =>
      rw [addOffered_refused hchecked] at hfail
      cases hfail
      rfl
    | ok entry =>
      rw [addOffered_checked hchecked] at hfail
      split at hfail
      · cases hfail
        rfl
      · cases hfail
  · have h' : (addAll {} os').1.Holds (addAll {} os').2 := holds_nil.addAll os'
    have hsymm : ∀ {o o'}, Distinct o o' → Distinct o' o :=
      fun hd c hc hc' heq => hd c hc' hc heq.symm
    have hdistinct' : os'.Pairwise Distinct := hperm.pairwise hdistinct hsymm
    refine h.lookup_congr h' ?_ m p
    rw [entries_of_distinct holds_nil hdistinct (by simp),
      entries_of_distinct holds_nil hdistinct' (by simp)]
    exact hperm.filterMap _

end CcsTrans.Routing
