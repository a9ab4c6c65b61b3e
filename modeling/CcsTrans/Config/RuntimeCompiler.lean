import CcsTrans.Routing.RouteTable

/-!
The runtime compiler.

The selected profiles of a document become runtime profiles, each with its pipeline and its
routes. A request reaches a profile by the method and the canonical path of one of its
routes, and no two routes share these.
-/

namespace CcsTrans.Config

open CcsTrans.Text CcsTrans.Core CcsTrans.Protocols CcsTrans.Rules CcsTrans.Routing
open CcsTrans.Fallible

structure RuntimeSnapshot where
  application : ApplicationSettings
  logPath : Bytes
  protocols : ProtocolRegistry
  rules : RuleRegistry
  /-- By profile id. -/
  profiles : List (Bytes × RuntimeProfile) := []
  routes : RouteTable := {}

/-- A compiler that was given no registry has none. -/
structure RuntimeCompiler where
  applicationRoot : Bytes
  protocols : Option ProtocolRegistry
  rules : Option RuleRegistry

structure RuntimeCompileOptions where
  selectedProfile : Option Bytes := none

/-- The profiles to run: the one asked for, or those that are enabled. -/
def selectProfiles (d : ConfigDocument) (options : RuntimeCompileOptions) :
    Except Bytes (List (Bytes × ProfileDefinition)) :=
  match options.selectedProfile with
  | some id =>
    match Json.find id d.profiles with
    | none => .error (str "selected profile does not exist: " ++ id)
    | some profile =>
      match validateProfileDefinition id profile true with
      | .error e => .error (str "selected profile is not runnable: " ++ e)
      | .ok _ => .ok [(id, profile)]
  | none => .ok (d.profiles.filter fun (_, p) => p.enabled)

/-- The route of a kind, when the profile has one. A profile that is to run has what the
routes need. -/
def routeOf (kind : RouteKind) (profile : RuntimeProfile) (d : ProfileDefinition) :
    Option RouteEntry :=
  match kind with
  | .request => some
      ⟨profile, .request, profile.handler.requestMethod, d.localRoutes.requestPath.getD [],
        ⟨d.upstream.baseUrl.getD [], d.upstream.requestPath.getD []⟩⟩
  | .usage => d.localRoutes.usagePath.map fun path =>
      ⟨profile, .usage, profile.handler.usageMethod, path,
        ⟨d.upstream.baseUrl.getD [], d.upstream.usagePath.getD []⟩⟩

def addRoute (t : RouteTable) : Option RouteEntry → Except Bytes RouteTable
  | none => .ok t
  | some e => t.add e

/-- The runtime profile of a definition. -/
def compileProfile (protocols : ProtocolRegistry) (rules : RuleRegistry) (id : Bytes)
    (d : ProfileDefinition) : Except Bytes RuntimeProfile :=
  let protocol := d.protocol.getD []
  match protocols.find protocol with
  | none => .error (str "profile " ++ id ++ str " uses unknown protocol: " ++ protocol)
  | some handler =>
    match protocols.validateProfile handler id d with
    | .error e => .error (str "profile " ++ id ++ str ": " ++ e)
    | .ok _ =>
      match rules.compilePipeline d.rules handler with
      | .error e => .error (str "profile " ++ id ++ str ": " ++ e)
      | .ok pipeline => .ok ⟨id, handler, d.enabled, pipeline⟩

/-- The selected profiles one after another. -/
def compileProfiles (protocols : ProtocolRegistry) (rules : RuleRegistry) (s : RuntimeSnapshot) :
    List (Bytes × ProfileDefinition) → Except Bytes RuntimeSnapshot
  | [] => .ok s
  | (id, d) :: ps => do
    let profile ← compileProfile protocols rules id d
    let routes ← addRoute s.routes (routeOf .request profile d)
    let routes ← addRoute routes (routeOf .usage profile d)
    compileProfiles protocols rules
      { s with profiles := s.profiles ++ [(id, profile)], routes := routes } ps

/-- `RuntimeCompiler::compile`. -/
def RuntimeCompiler.compile (c : RuntimeCompiler) (d : ConfigDocument)
    (options : RuntimeCompileOptions) : Except Bytes RuntimeSnapshot :=
  if !Path.isAbsolute c.applicationRoot then
    .error (str "runtime compiler requires an absolute application root")
  else match c.protocols, c.rules with
    | none, _ => .error (str "runtime compiler requires a protocol registry")
    | _, none => .error (str "runtime compiler requires a rule registry")
    | some protocols, some rules => do
      validateConfigDocument d
      let selected ← selectProfiles d options
      if selected = [] then
        throw (str "no enabled profiles; enable a complete profile or use run --profile")
      let logPath ← resolveApplicationLogPath d.application c.applicationRoot
      compileProfiles protocols rules
        { application := d.application, logPath := logPath, protocols := protocols, rules := rules }
        selected

/-! ### Routes of the selected profiles -/

section Routes

variable {protocols : ProtocolRegistry} {rules : RuleRegistry}

/-- The entry `e` is the route of a kind of the profile `p`: it carries the upstream target and
the pipeline of that profile, and its path is canonical. -/
def IsRoute (protocols : ProtocolRegistry) (rules : RuleRegistry) (kind : RouteKind)
    (p : Bytes × ProfileDefinition) (e : RouteEntry) : Prop :=
  ∃ profile raw, compileProfile protocols rules p.1 p.2 = .ok profile ∧
    routeOf kind profile p.2 = some raw ∧
    ∃ canonical, canonicalizeHttpPath raw.localPath = .ok canonical ∧
      e = { raw with localPath := canonical }

/-- What is known of the profile of a route. -/
lemma IsRoute.profile_eq {kind : RouteKind} {p : Bytes × ProfileDefinition} {e : RouteEntry}
    (h : IsRoute protocols rules kind p e) :
    compileProfile protocols rules p.1 p.2 = .ok e.profile := by
  obtain ⟨profile, raw, hp, hraw, canonical, -, rfl⟩ := h
  cases kind with
  | request =>
    cases hraw
    exact hp
  | usage =>
    obtain ⟨path, -, rfl⟩ := Option.map_eq_some_iff.mp hraw
    exact hp

/-- The table has the entries in `R` and no others. -/
def Serves (t : RouteTable) (R : RouteEntry → Prop) : Prop :=
  ∀ m c e, t.entryAt m c = some e ↔ R e ∧ e.method = m ∧ e.localPath = c

/-- Adding the route of a kind adds that route and no other. -/
lemma addRoute_serves {t t' : RouteTable} {R : RouteEntry → Prop} {kind : RouteKind}
    {id : Bytes} {d : ProfileDefinition} {profile : RuntimeProfile}
    (hp : compileProfile protocols rules id d = .ok profile)
    (ht : Serves t R) (h : addRoute t (routeOf kind profile d) = .ok t') :
    Serves t' (fun e => R e ∨ IsRoute protocols rules kind (id, d) e) ∧
      ∀ raw, routeOf kind profile d = some raw →
        ∃ canonical, canonicalizeHttpPath raw.localPath = .ok canonical := by
  cases hr : routeOf kind profile d with
  | none =>
    rw [hr] at h
    cases h
    refine ⟨fun m c e => ?_, nofun⟩
    have : ¬ IsRoute protocols rules kind (id, d) e := by
      rintro ⟨profile', raw, hp', hraw, -⟩
      rw [hp] at hp'
      cases hp'
      rw [hr] at hraw
      cases hraw
    simp [ht m c e, this]
  | some raw =>
    rw [hr] at h
    obtain ⟨canonical, hc, hfree, hat⟩ := RouteTable.add_spec h
    have hroute : ∀ e, IsRoute protocols rules kind (id, d) e ↔
        e = { raw with localPath := canonical } := by
      intro e
      constructor
      · rintro ⟨profile', raw', hp', hraw', canonical', hc', rfl⟩
        rw [hp] at hp'
        cases hp'
        rw [hr] at hraw'
        cases hraw'
        rw [hc] at hc'
        cases hc'
        rfl
      · rintro rfl
        exact ⟨profile, raw, hp, hr, canonical, hc, rfl⟩
    refine ⟨fun m c e => ?_, ?_⟩
    · rw [hat]
      split_ifs with hk
      · obtain ⟨rfl, rfl⟩ := hk
        constructor
        · rintro h
          cases h
          exact ⟨Or.inr ((hroute _).mpr rfl), rfl, rfl⟩
        · rintro ⟨hR | hi, hm, hl⟩
          · have := (ht _ _ e).mpr ⟨hR, hm, hl⟩
            rw [hfree] at this
            cases this
          · rw [(hroute e).mp hi]
      · rw [ht]
        constructor
        · rintro ⟨hR, hm, hl⟩
          exact ⟨Or.inl hR, hm, hl⟩
        · rintro ⟨hR | hi, hm, hl⟩
          · exact ⟨hR, hm, hl⟩
          · rw [hroute] at hi
            subst hi
            exact absurd ⟨hm.symm, hl.symm⟩ hk
    · rintro _ ⟨⟩
      exact ⟨canonical, hc⟩

/-- **The table has the routes of the selected profiles**, and each of them its own. -/
lemma compileProfiles_serves {s s' : RuntimeSnapshot} {R : RouteEntry → Prop}
    {ps : List (Bytes × ProfileDefinition)} (hs : Serves s.routes R)
    (h : compileProfiles protocols rules s ps = .ok s') :
    Serves s'.routes (fun e => R e ∨ ∃ p ∈ ps, ∃ kind, IsRoute protocols rules kind p e) ∧
      ∀ p ∈ ps, ∃ profile, compileProfile protocols rules p.1 p.2 = .ok profile ∧
        ∀ kind raw, routeOf kind profile p.2 = some raw →
          ∃ canonical, canonicalizeHttpPath raw.localPath = .ok canonical := by
  induction ps generalizing s R with
  | nil =>
    cases h
    refine ⟨fun m c e => ?_, by simp⟩
    simpa using hs m c e
  | cons p ps ih =>
    obtain ⟨id, d⟩ := p
    obtain ⟨profile, hp, h⟩ := bind_eq_ok.mp h
    obtain ⟨t₁, h₁, h⟩ := bind_eq_ok.mp h
    obtain ⟨t₂, h₂, h⟩ := bind_eq_ok.mp h
    obtain ⟨hs₁, hc₁⟩ := addRoute_serves hp hs h₁
    obtain ⟨hs₂, hc₂⟩ := addRoute_serves hp hs₁ h₂
    obtain ⟨hserves, hrest⟩ := ih hs₂ h
    refine ⟨fun m c e => ?_, ?_⟩
    · rw [hserves]
      refine and_congr_left fun _ => ?_
      have hkind : (∃ kind, IsRoute protocols rules kind (id, d) e) ↔
          IsRoute protocols rules .request (id, d) e ∨ IsRoute protocols rules .usage (id, d) e := by
        constructor
        · rintro ⟨_ | _, h⟩
          · exact Or.inl h
          · exact Or.inr h
        · rintro (h | h)
          · exact ⟨_, h⟩
          · exact ⟨_, h⟩
      simp only [List.mem_cons, exists_eq_or_imp, hkind, or_assoc]
    · intro q hq
      rcases List.mem_cons.mp hq with rfl | hq
      · refine ⟨profile, hp, fun kind raw hraw => ?_⟩
        cases kind with
        | request => exact hc₁ raw hraw
        | usage => exact hc₂ raw hraw
      · exact hrest q hq

end Routes

/-! ### What the definitions say -/

/-- The local path of a kind of route. -/
def localPath (kind : RouteKind) (d : ProfileDefinition) : Option Bytes :=
  match kind with
  | .request => d.localRoutes.requestPath
  | .usage => d.localRoutes.usagePath

/-- Where the requests of a kind of route go. -/
def upstreamTarget (kind : RouteKind) (d : ProfileDefinition) : UpstreamTarget :=
  ⟨d.upstream.baseUrl.getD [], match kind with
    | .request => d.upstream.requestPath.getD []
    | .usage => d.upstream.usagePath.getD []⟩

def routeMethod (kind : RouteKind) (handler : ProtocolDescriptor) : Bytes :=
  match kind with
  | .request => handler.requestMethod
  | .usage => handler.usageMethod

/-- The method and the canonical path of the route of a kind, as the definition gives them. -/
def routeKey (protocols : ProtocolRegistry) (kind : RouteKind) (d : ProfileDefinition) :
    Option (Bytes × Bytes) := do
  let handler ← protocols.find (← d.protocol)
  let canonical ← (canonicalizeHttpPath (← localPath kind d)).toOption
  return (routeMethod kind handler, canonical)

section Definitions

variable {protocols : ProtocolRegistry} {rules : RuleRegistry}

/-- A profile that is compiled has a protocol and a path for requests. -/
lemma compileProfile_complete {id : Bytes} {d : ProfileDefinition} {profile : RuntimeProfile}
    (h : compileProfile protocols rules id d = .ok profile) :
    profile.id = id ∧ d.protocol = some profile.handler.id ∧
      protocols.find profile.handler.id = some profile.handler ∧
      rules.compilePipeline d.rules profile.handler = .ok profile.requestPipeline ∧
      d.localRoutes.requestPath.isSome = true := by
  unfold compileProfile at h
  dsimp only at h
  split at h
  · cases h
  · next handler hf =>
    split at h
    · cases h
    · next hv =>
      split at h
      · cases h
      · next pipeline hp =>
        cases h
        obtain ⟨hfind, hv⟩ := ProtocolRegistry.validateProfile_ok hv
        obtain ⟨hproto, hreq⟩ := ProtocolDescriptor.validateProfile_ok hv
        exact ⟨rfl, hproto, hfind, hp, hreq⟩

/-- A route is there when the definition has a path for it. -/
lemma routeOf_eq {kind : RouteKind} {d : ProfileDefinition} {profile : RuntimeProfile}
    {path : Bytes} (h : localPath kind d = some path) :
    routeOf kind profile d = some ⟨profile, kind, routeMethod kind profile.handler, path,
      upstreamTarget kind d⟩ := by
  cases kind with
  | request =>
    have h : d.localRoutes.requestPath = some path := h
    simp [routeOf, routeMethod, upstreamTarget, h]
  | usage =>
    have h : d.localRoutes.usagePath = some path := h
    simp [routeOf, routeMethod, upstreamTarget, h]

lemma routeKey_eq_some {kind : RouteKind} {d : ProfileDefinition} {key : Bytes × Bytes} :
    routeKey protocols kind d = some key ↔ ∃ protocol handler path, d.protocol = some protocol ∧
      protocols.find protocol = some handler ∧ localPath kind d = some path ∧
      canonicalizeHttpPath path = .ok key.2 ∧ routeMethod kind handler = key.1 := by
  obtain ⟨m, c⟩ := key
  simp only [routeKey, Option.bind_eq_bind, Option.bind_eq_some_iff, Option.pure_def,
    Option.some.injEq, Prod.mk.injEq, toOption_eq_some]
  constructor
  · rintro ⟨protocol, hp, handler, hh, path, hpath, canonical, hc, rfl, rfl⟩
    exact ⟨protocol, handler, path, hp, hh, hpath, hc, rfl⟩
  · rintro ⟨protocol, handler, path, hp, hh, hpath, hc, rfl⟩
    exact ⟨protocol, hp, handler, hh, path, hpath, c, hc, rfl, rfl⟩

/-- The routes of a compiled profile, by what its definition says. -/
lemma isRoute_iff {kind : RouteKind} {id : Bytes} {d : ProfileDefinition}
    {profile : RuntimeProfile} (hp : compileProfile protocols rules id d = .ok profile)
    {e : RouteEntry} : IsRoute protocols rules kind (id, d) e ↔
      routeKey protocols kind d = some (e.method, e.localPath) ∧ e.profile = profile ∧
        e.kind = kind ∧ e.upstream = upstreamTarget kind d := by
  obtain ⟨-, hproto, hfind, -, hreq⟩ := compileProfile_complete hp
  constructor
  · rintro ⟨profile', raw, hp', hraw, canonical, hc, rfl⟩
    rw [hp] at hp'
    cases hp'
    obtain ⟨path, hpath⟩ : ∃ path, localPath kind d = some path := by
      cases kind with
      | request => exact Option.isSome_iff_exists.mp hreq
      | usage =>
        obtain ⟨path, hpath, -⟩ := Option.map_eq_some_iff.mp hraw
        exact ⟨path, hpath⟩
    rw [routeOf_eq hpath] at hraw
    cases hraw
    exact ⟨routeKey_eq_some.mpr ⟨_, _, path, hproto, hfind, hpath, hc, rfl⟩, rfl, rfl, rfl⟩
  · rintro ⟨hkey, hprofile, hkind, hup⟩
    obtain ⟨protocol, handler, path, hproto', hfind', hpath, hc, hm⟩ := routeKey_eq_some.mp hkey
    rw [hproto] at hproto'
    cases hproto'
    rw [hfind] at hfind'
    cases hfind'
    refine ⟨profile, _, hp, routeOf_eq hpath, e.localPath, hc, ?_⟩
    obtain ⟨profile', kind', method', path', upstream'⟩ := e
    simp only at hprofile hkind hup hm
    subst hprofile hkind hup hm
    rfl

end Definitions

/-- **What a table does for the selected profiles.** -/
structure Routes (protocols : ProtocolRegistry) (rules : RuleRegistry)
    (selected : List (Bytes × ProfileDefinition)) (t : RouteTable) : Prop where
  /-- A request reaches the route of a profile when the profile is selected and the method and
  the canonical path are those of its route. -/
  reaches : ∀ id kind m p, (∃ e c, t.lookup m p = .matched e c ∧ e.profile.id = id ∧ e.kind = kind) ↔
    ∃ d c, (id, d) ∈ selected ∧ canonicalizeHttpPath p = .ok c ∧
      routeKey protocols kind d = some (m, c)
  /-- It finds the upstream target and the pipeline of that profile. -/
  carries : ∀ m p e c, t.lookup m p = .matched e c → ∃ d, (e.profile.id, d) ∈ selected ∧
    routeKey protocols e.kind d = some (m, c) ∧ e.upstream = upstreamTarget e.kind d ∧
    d.protocol = some e.profile.handler.id ∧
    rules.compilePipeline d.rules e.profile.handler = .ok e.profile.requestPipeline
  /-- Every profile has a route for requests, and each of its routes is reached by its path. -/
  request : ∀ s ∈ selected, (localPath .request s.2).isSome = true
  reachable : ∀ s ∈ selected, ∀ kind path, localPath kind s.2 = some path →
    ∃ m e c, t.lookup m path = .matched e c ∧ e.profile.id = s.1 ∧ e.kind = kind

lemma compileProfiles_routes {protocols : ProtocolRegistry} {rules : RuleRegistry}
    {s s' : RuntimeSnapshot} (hs : s.routes = {}) {selected : List (Bytes × ProfileDefinition)}
    (h : compileProfiles protocols rules s selected = .ok s') :
    Routes protocols rules selected s'.routes := by
  have hempty : Serves s.routes (fun _ => False) := by
    intro m c e
    simp [hs, RouteTable.entryAt, Json.find]
  obtain ⟨hserves, hprofiles⟩ := compileProfiles_serves hempty h
  simp only [false_or] at hserves
  have hreaches : ∀ id kind m p,
      (∃ e c, s'.routes.lookup m p = .matched e c ∧ e.profile.id = id ∧ e.kind = kind) ↔
        ∃ d c, (id, d) ∈ selected ∧ canonicalizeHttpPath p = .ok c ∧
          routeKey protocols kind d = some (m, c) := by
    intro id kind m p
    constructor
    · rintro ⟨e, c, hl, rfl, rfl⟩
      obtain ⟨hc, he⟩ := RouteTable.lookup_matched.mp hl
      obtain ⟨⟨⟨id, d⟩, hsel, kind, hroute⟩, rfl, rfl⟩ := (hserves _ _ _).mp he
      have hp := hroute.profile_eq
      obtain ⟨hkey, -, rfl, -⟩ := (isRoute_iff hp).mp hroute
      exact ⟨d, e.localPath, (compileProfile_complete hp).1 ▸ hsel, hc, hkey⟩
    · rintro ⟨d, c, hsel, hc, hkey⟩
      obtain ⟨profile, hp, -⟩ := hprofiles _ hsel
      refine ⟨⟨profile, kind, m, c, upstreamTarget kind d⟩, c, RouteTable.lookup_matched.mpr
        ⟨hc, (hserves _ _ _).mpr ⟨⟨(id, d), hsel, kind, ?_⟩, rfl, rfl⟩⟩,
        (compileProfile_complete hp).1, rfl⟩
      exact (isRoute_iff hp).mpr ⟨hkey, rfl, rfl, rfl⟩
  refine ⟨hreaches, ?_, ?_, ?_⟩
  · intro m p e c hl
    obtain ⟨-, he⟩ := RouteTable.lookup_matched.mp hl
    obtain ⟨⟨⟨id, d⟩, hsel, kind, hroute⟩, rfl, rfl⟩ := (hserves _ _ _).mp he
    have hp := hroute.profile_eq
    obtain ⟨hkey, -, rfl, hup⟩ := (isRoute_iff hp).mp hroute
    obtain ⟨hid, hproto, -, hpipe, -⟩ := compileProfile_complete hp
    exact ⟨d, hid ▸ hsel, hkey, hup, hproto, hpipe⟩
  · intro s hsel
    obtain ⟨profile, hp, -⟩ := hprofiles s hsel
    exact (compileProfile_complete hp).2.2.2.2
  · intro s hsel kind path hpath
    obtain ⟨profile, hp, hcan⟩ := hprofiles s hsel
    obtain ⟨c, hc⟩ := hcan kind _ (routeOf_eq hpath)
    obtain ⟨-, hproto, hfind, -⟩ := compileProfile_complete hp
    obtain ⟨e, c', hl, hid, hk⟩ := (hreaches s.1 kind (routeMethod kind profile.handler) path).mpr
      ⟨s.2, c, hsel, hc, routeKey_eq_some.mpr ⟨_, _, path, hproto, hfind, hpath, hc, rfl⟩⟩
    exact ⟨_, e, c', hl, hid, hk⟩

/-- The steps of a compilation that succeeds. -/
lemma RuntimeCompiler.compile_ok {c : RuntimeCompiler} {d : ConfigDocument}
    {options : RuntimeCompileOptions} {snapshot : RuntimeSnapshot}
    (h : c.compile d options = .ok snapshot) :
    ∃ protocols rules selected s, c.protocols = some protocols ∧ c.rules = some rules ∧
      selectProfiles d options = .ok selected ∧ s.routes = {} ∧
      compileProfiles protocols rules s selected = .ok snapshot := by
  unfold RuntimeCompiler.compile at h
  split at h
  · cases h
  · split at h
    · cases h
    · cases h
    · next protocols rules hp hr =>
      obtain ⟨-, -, h⟩ := bind_eq_ok.mp h
      obtain ⟨selected, hs, h⟩ := bind_eq_ok.mp h
      split at h
      · cases h
      · obtain ⟨logPath, -, h⟩ := bind_eq_ok.mp h
        exact ⟨protocols, rules, selected, _, hp, hr, hs, rfl, h⟩

/-- **Routing isolation.** A runtime that was compiled routes every request to the selected
profile whose route it names, and to no other; and when two routes of the selected profiles
have the same method and canonical path, there is no such runtime. -/
theorem routing_isolation (c : RuntimeCompiler) (d : ConfigDocument)
    (options : RuntimeCompileOptions) :
    (∀ snapshot, c.compile d options = .ok snapshot →
      ∃ protocols rules selected, c.protocols = some protocols ∧ c.rules = some rules ∧
        selectProfiles d options = .ok selected ∧
        Routes protocols rules selected snapshot.routes) ∧
    (∀ protocols selected, c.protocols = some protocols → selectProfiles d options = .ok selected →
      (∃ s ∈ selected, ∃ s' ∈ selected, ∃ kind kind' key, (s.1 ≠ s'.1 ∨ kind ≠ kind') ∧
        routeKey protocols kind s.2 = some key ∧ routeKey protocols kind' s'.2 = some key) →
      ∃ error, c.compile d options = .error error) := by
  have hok : ∀ snapshot, c.compile d options = .ok snapshot →
      ∃ protocols rules selected, c.protocols = some protocols ∧ c.rules = some rules ∧
        selectProfiles d options = .ok selected ∧
        Routes protocols rules selected snapshot.routes := by
    intro snapshot h
    obtain ⟨protocols, rules, selected, s, hp, hr, hs, hempty, h⟩ := RuntimeCompiler.compile_ok h
    exact ⟨protocols, rules, selected, hp, hr, hs, compileProfiles_routes hempty h⟩
  refine ⟨hok, ?_⟩
  rintro protocols selected hp hs ⟨s, hmem, s', hmem', kind, kind', ⟨m, can⟩, hne, hkey, hkey'⟩
  cases h : c.compile d options with
  | error error => exact ⟨error, rfl⟩
  | ok snapshot =>
    -- both routes would be found under the path that one of them has
    exfalso
    obtain ⟨protocols', rules, selected', hp', -, hs', hroutes⟩ := hok snapshot h
    rw [hp] at hp'
    cases hp'
    rw [hs] at hs'
    cases hs'
    obtain ⟨_, _, path, -, -, -, hc, -⟩ := routeKey_eq_some.mp hkey
    obtain ⟨e, _, hl, hid, hk⟩ := (hroutes.reaches s.1 kind m path).mpr ⟨s.2, can, hmem, hc, hkey⟩
    obtain ⟨e', _, hl', hid', hk'⟩ :=
      (hroutes.reaches s'.1 kind' m path).mpr ⟨s'.2, can, hmem', hc, hkey'⟩
    rw [hl] at hl'
    cases hl'
    rcases hne with hne | hne
    · exact hne (hid ▸ hid')
    · exact hne (hk ▸ hk')

/-- An enabled profile of the responses protocol. -/
def sampleProfile (path : Bytes) : ProfileDefinition where
  enabled := true
  protocol := some (str "responses")
  localRoutes := { requestPath := some path }
  upstream := { baseUrl := some (str "https://example.com"), requestPath := some (str "/v1") }

/-- Two profiles with paths of their own are routed apart; with one path they are refused. -/
theorem routing_isolation_two_profiles :
    let _ : Json.Library := Json.bitLibrary
    let c : RuntimeCompiler :=
      ⟨str "/opt/ccs-trans", builtinProtocolRegistry.toOption, builtinRuleRegistry.toOption⟩
    let apart : ConfigDocument :=
      { profiles := [(str "a", sampleProfile (str "/a")), (str "b", sampleProfile (str "/b/"))] }
    let together : ConfigDocument :=
      { profiles := [(str "a", sampleProfile (str "/a")), (str "b", sampleProfile (str "/%61"))] }
    (∃ snapshot protocols rules selected, c.compile apart {} = .ok snapshot ∧
      selectProfiles apart {} = .ok selected ∧ selected.length = 2 ∧
      Routes protocols rules selected snapshot.routes) ∧
    ∃ error, c.compile together {} = .error error := by
  intro _ c apart together
  have hrun : (c.compile apart {}).toOption.isSome = true := by decide +kernel
  obtain ⟨snapshot, hs⟩ := Option.isSome_iff_exists.mp hrun
  have hs := toOption_eq_some.mp hs
  obtain ⟨protocols, rules, selected, -, -, hsel, hroutes⟩ :=
    (routing_isolation c apart {}).1 snapshot hs
  refine ⟨⟨snapshot, protocols, rules, selected, hs, hsel, ?_, hroutes⟩, ?_⟩
  · cases hsel
    rfl
  · have hp : c.protocols.isSome = true := by decide +kernel
    obtain ⟨protocols, hp⟩ := Option.isSome_iff_exists.mp hp
    have hkeys : c.protocols.map (fun r => (routeKey r .request (sampleProfile (str "/a")),
        routeKey r .request (sampleProfile (str "/%61")))) =
          some (some (str "POST", str "/a"), some (str "POST", str "/a")) := by decide +kernel
    rw [hp, Option.map_some, Option.some.injEq, Prod.mk.injEq] at hkeys
    refine (routing_isolation c together {}).2 protocols _ hp rfl
      ⟨(str "a", _), List.mem_cons_self, (str "b", _), List.mem_cons_of_mem _ List.mem_cons_self,
        .request, .request, (str "POST", str "/a"), Or.inl (by decide), hkeys.1, hkeys.2⟩

end CcsTrans.Config
