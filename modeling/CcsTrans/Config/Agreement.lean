import CcsTrans.Config.Candidate

/-!
Candidates and the compiler agree.

The checks of a candidate go through the profiles by themselves, with a table of routes of
their own. Whatever passes them is compiled; and when no profile that is disabled has an
enabled rule, whatever is compiled passes them.
-/

namespace CcsTrans.Config

open CcsTrans.Text CcsTrans.Core CcsTrans.Json CcsTrans.Protocols CcsTrans.Rules CcsTrans.Routing
open CcsTrans.Fallible

/-! ### What a complete profile has -/

lemma checkOptional_ok {value : Option Bytes} {validate : Bytes → Except Bytes Unit} {field v : Bytes}
    (h : checkOptional value validate field = .ok ()) (hv : value = some v) :
    validate v = .ok () := by
  subst hv
  unfold checkOptional at h
  dsimp only at h
  split at h
  next heq => exact heq
  · cases h

lemma validateRoutePath_ok {value label : Bytes} {isLocal : Bool}
    (h : validateRoutePath value isLocal label = .ok ()) :
    ∃ canonical, canonicalizeHttpPath value = .ok canonical ∧
      (isLocal = true → isReserved canonical = false) := by
  unfold validateRoutePath at h
  split at h
  · cases h
  next canonical hc =>
  split_ifs at h with hres
  refine ⟨canonical, hc, fun hl => ?_⟩
  simpa [hl] using hres

lemma checkRoute_ok {value : Option Bytes} {isLocal : Bool} {label field v : Bytes}
    (h : checkOptional value (fun v => validateRoutePath v isLocal label) field = .ok ())
    (hv : value = some v) : ∃ canonical, canonicalizeHttpPath v = .ok canonical ∧
      (isLocal = true → isReserved canonical = false) := by
  have hroute := checkOptional_ok h hv
  exact validateRoutePath_ok hroute

lemma ne_nil_of_canonical {value canonical : Bytes} (h : canonicalizeHttpPath value = .ok canonical) :
    value ≠ [] := by
  rintro rfl
  cases h

lemma ne_nil_of_validateBaseUrl {value label : Bytes} (h : validateBaseUrl value label = .ok ()) :
    value ≠ [] := by
  rintro rfl
  simp [validateBaseUrl] at h

/-- A route can be added for each local path. -/
def Servable (d : ProfileDefinition) : Prop :=
  ∀ kind path, localPath kind d = some path →
    (∃ canonical, canonicalizeHttpPath path = .ok canonical ∧ isReserved canonical = false) ∧
    ¬ ((upstreamTarget kind d).baseUrl = [] ∨ (upstreamTarget kind d).path = [])

lemma requireComplete_ok {label : Bytes} {p : ProfileDefinition}
    (h : requireComplete label p = .ok ()) :
    (∃ url, p.upstream.baseUrl = some url) ∧ (∃ path, p.upstream.requestPath = some path) ∧
      (p.localRoutes.usagePath.isSome = true → ∃ path, p.upstream.usagePath = some path) := by
  obtain ⟨_, -, h⟩ := bind_eq_ok.mp h
  obtain ⟨_, -, h⟩ := bind_eq_ok.mp h
  obtain ⟨_, hurl, h⟩ := bind_eq_ok.mp h
  obtain ⟨_, hrequest, h⟩ := bind_eq_ok.mp h
  obtain ⟨_, husage, -⟩ := bind_eq_ok.mp h
  refine ⟨Option.isSome_iff_exists.mp (check_eq_ok.mp hurl),
    Option.isSome_iff_exists.mp (check_eq_ok.mp hrequest), fun hlocal => ?_⟩
  have hpair := check_eq_ok.mp husage
  rw [hlocal] at hpair
  exact Option.isSome_iff_exists.mp (by simpa using hpair)

lemma servable_of_complete {id : Bytes} {p : ProfileDefinition}
    (h : validateProfileDefinition id p true = .ok ()) : Servable p := by
  unfold validateProfileDefinition at h
  split at h
  next hv =>
    unfold validateProfileImpl at hv
    obtain ⟨_, -, hv⟩ := bind_eq_ok.mp hv
    obtain ⟨_, -, hv⟩ := bind_eq_ok.mp hv
    obtain ⟨_, hlocalRequest, hv⟩ := bind_eq_ok.mp hv
    obtain ⟨_, hlocalUsage, hv⟩ := bind_eq_ok.mp hv
    obtain ⟨_, hbase, hv⟩ := bind_eq_ok.mp hv
    obtain ⟨_, hrequest, hv⟩ := bind_eq_ok.mp hv
    obtain ⟨_, husage, hv⟩ := bind_eq_ok.mp hv
    obtain ⟨_, -, hv⟩ := bind_eq_ok.mp hv
    obtain ⟨_, -, hv⟩ := bind_eq_ok.mp hv
    obtain ⟨⟨url, hurl⟩, ⟨request, hreq⟩, hpaired⟩ := requireComplete_ok hv
    have hbase' := checkOptional_ok hbase hurl
    have hurl' : url ≠ [] := ne_nil_of_validateBaseUrl hbase'
    intro kind path hpath
    cases kind with
    | request =>
      obtain ⟨c, hc, hres⟩ := checkRoute_ok hlocalRequest hpath
      obtain ⟨c', hc', -⟩ := checkRoute_ok hrequest hreq
      refine ⟨⟨c, hc, hres rfl⟩, ?_⟩
      have hne := ne_nil_of_canonical hc'
      simp [upstreamTarget, hurl, hreq, hurl', hne]
    | usage =>
      obtain ⟨usage, hup⟩ := hpaired (Option.isSome_iff_exists.mpr ⟨path, hpath⟩)
      obtain ⟨c, hc, hres⟩ := checkRoute_ok hlocalUsage hpath
      obtain ⟨c', hc', -⟩ := checkRoute_ok husage hup
      refine ⟨⟨c, hc, hres rfl⟩, ?_⟩
      have hne := ne_nil_of_canonical hc'
      simp [upstreamTarget, hurl, hup, hurl', hne]
  · cases h

/-! ### Methods -/

/-- The methods of the protocols are in order. -/
def ProtocolRegistry.MethodsValid (r : ProtocolRegistry) : Prop :=
  ∀ id handler, r.find id = some handler → validMethod handler.requestMethod = true ∧
    (handler.supportsUsage = true → validMethod handler.usageMethod = true)

lemma builtin_methodsValid {protocols : ProtocolRegistry}
    (h : builtinProtocolRegistry = .ok protocols) : ProtocolRegistry.MethodsValid protocols := by
  have hbuiltin : builtinProtocolRegistry.toOption.map ProtocolRegistry.handlers =
      some [(str "responses", responsesHandler), (str "chat", chatHandler),
        (str "messages", messagesHandler)] := by decide
  rw [h] at hbuiltin
  have hhandlers := Option.some.inj hbuiltin
  intro id handler hfind
  rw [ProtocolRegistry.find, hhandlers] at hfind
  have hmem := List.mem_map_of_mem (f := Prod.snd) (mem_of_find hfind)
  simp only [List.map_cons, List.map_nil, List.mem_cons, List.not_mem_nil, or_false] at hmem
  rcases hmem with rfl | rfl | rfl
  · exact ⟨by decide, fun _ => by decide⟩
  · exact ⟨by decide, fun _ => by decide⟩
  · exact ⟨by decide, fun _ => by decide⟩

/-! ### Routes -/

lemma addCandidateRoute_eq_ok {routes routes' : CandidateRoutes} {method path id field canonical : Bytes}
    (hc : canonicalizeHttpPath path = .ok canonical) :
    addCandidateRoute routes method path id field = .ok routes' ↔
      (routes.find? fun r => r.1 == (method, canonical)) = none ∧
        routes' = ((method, canonical), id) :: routes := by
  simp only [addCandidateRoute, hc]
  split
  next r hr => simp [hr]
  next hr =>
    rw [hr, Except.ok.injEq, eq_comm]
    simp

/-- An entry that is in order is added to a table without one at its place. -/
lemma RouteTable.add_of_free {t : RouteTable} {e : RouteEntry} {canonical : Bytes}
    (hmethod : validMethod e.method = true) (hc : canonicalizeHttpPath e.localPath = .ok canonical)
    (hres : isReserved canonical = false) (hup : ¬ (e.upstream.baseUrl = [] ∨ e.upstream.path = []))
    (hfree : t.entryAt e.method canonical = none) : ∃ t', t.add e = .ok t' := by
  have hnone : Json.find e.method ((Json.find canonical t.routesByPath).getD {}).byMethod = none := by
    unfold RouteTable.entryAt at hfree
    cases hp : Json.find canonical t.routesByPath with
    | none => rfl
    | some routes => simpa [hp] using hfree
  simp [RouteTable.add, hmethod, hc, hres, hup, hnone]

/-- The routes of a candidate and the table of the compiler have the same places taken. -/
def Matches (routes : CandidateRoutes) (t : RouteTable) : Prop :=
  ∀ m c, (routes.find? fun r => r.1 == (m, c)) = none ↔ t.entryAt m c = none

lemma Matches.cons {routes : CandidateRoutes} {t t' : RouteTable} (h : Matches routes t)
    {e : RouteEntry} {canonical id : Bytes} (hc : canonicalizeHttpPath e.localPath = .ok canonical)
    (hadd : t.add e = .ok t') : Matches (((e.method, canonical), id) :: routes) t' := by
  obtain ⟨c, hc', -, hat⟩ := RouteTable.add_spec hadd
  rw [hc] at hc'
  cases hc'
  intro m p
  rw [hat, List.find?_cons]
  by_cases hk : m = e.method ∧ p = canonical
  · obtain ⟨rfl, rfl⟩ := hk
    simp
  · have hne : ((e.method, canonical) == (m, p)) = false := by
      rw [beq_eq_false_iff_ne]
      rintro ⟨⟩
      exact hk ⟨rfl, rfl⟩
    rw [if_neg hk, hne]
    exact h m p

/-- A route is added on both sides or on neither. -/
lemma Matches.add {routes : CandidateRoutes} {t : RouteTable} (h : Matches routes t)
    {e : RouteEntry} (hmethod : validMethod e.method = true)
    (hc : ∃ canonical, canonicalizeHttpPath e.localPath = .ok canonical ∧ isReserved canonical = false)
    (hup : ¬ (e.upstream.baseUrl = [] ∨ e.upstream.path = [])) (id field : Bytes) :
    (∀ routes', addCandidateRoute routes e.method e.localPath id field = .ok routes' →
      ∃ t', t.add e = .ok t' ∧ Matches routes' t') ∧
    ∀ t', t.add e = .ok t' →
      ∃ routes', addCandidateRoute routes e.method e.localPath id field = .ok routes' ∧
        Matches routes' t' := by
  obtain ⟨canonical, hc, hres⟩ := hc
  constructor
  · intro routes' hadd
    obtain ⟨hnone, rfl⟩ := (addCandidateRoute_eq_ok hc).mp hadd
    obtain ⟨t', ht'⟩ := RouteTable.add_of_free hmethod hc hres hup ((h _ _).mp hnone)
    exact ⟨t', ht', h.cons hc ht'⟩
  · intro t' ht'
    obtain ⟨c, hc', hfree, -⟩ := RouteTable.add_spec ht'
    rw [hc] at hc'
    cases hc'
    exact ⟨_, (addCandidateRoute_eq_ok hc).mpr ⟨(h _ _).mpr hfree, rfl⟩, h.cons hc ht'⟩

section Agreement

variable {protocols : ProtocolRegistry} {rules : RuleRegistry}

/-! ### Profiles -/

/-- A route of a candidate, when the profile has a path for it. -/
def addCandidateKind (routes : CandidateRoutes) (kind : RouteKind) (profile : RuntimeProfile)
    (d : ProfileDefinition) (id field : Bytes) : Except ConfigValidationFailure CandidateRoutes :=
  match localPath kind d with
  | none => .ok routes
  | some path => addCandidateRoute routes (routeMethod kind profile.handler) path id field

/-- What the checks of a candidate do with a profile that is enabled. -/
lemma checkCandidateProfile_enabled {routes routes' : CandidateRoutes} {id : Bytes}
    {d : ProfileDefinition} (hd : d.enabled = true) :
    checkCandidateProfile protocols rules routes id d = .ok routes' ↔
      ∃ profile, compileProfile protocols rules id d = .ok profile ∧ ∃ routes₁,
        addCandidateKind routes .request profile d id (str "local.request-path") = .ok routes₁ ∧
        addCandidateKind routes₁ .usage profile d id (str "local.usage-path") = .ok routes' := by
  have hroutes : ∀ {handler : ProtocolDescriptor} {pipeline : List CompiledRule} {path : Bytes},
      d.localRoutes.requestPath = some path →
      ((do
        let routes ← addCandidateRoute routes handler.requestMethod
          (d.localRoutes.requestPath.getD []) id (str "local.request-path")
        match d.localRoutes.usagePath with
        | none => return routes
        | some path => addCandidateRoute routes handler.usageMethod path id (str "local.usage-path") :
        Except ConfigValidationFailure CandidateRoutes) = .ok routes' ↔ ∃ routes₁,
        addCandidateKind routes .request ⟨id, handler, d.enabled, pipeline⟩ d id
          (str "local.request-path") = .ok routes₁ ∧
        addCandidateKind routes₁ .usage ⟨id, handler, d.enabled, pipeline⟩ d id
          (str "local.usage-path") = .ok routes') := by
    intro handler pipeline path hpath
    rw [bind_eq_ok]
    simp only [addCandidateKind, localPath, routeMethod, hpath, Option.getD_some]
    rfl
  constructor
  · intro h
    unfold checkCandidateProfile at h
    simp only [hd, Bool.not_true, Bool.false_and, Bool.false_eq_true, if_false, if_true] at h
    split at h
    · cases h
    next protocol hprotocol =>
    split at h
    · cases h
    next handler hfind =>
    split at h
    · cases h
    next hvalid =>
    split at h
    · cases h
    next pipeline hpipeline =>
    have hcompile : compileProfile protocols rules id d =
        .ok ⟨id, handler, d.enabled, pipeline⟩ := by
      simp only [compileProfile, hprotocol, Option.getD_some, hfind, hvalid, hpipeline]
    obtain ⟨-, -, -, -, hrequest⟩ := compileProfile_complete hcompile
    obtain ⟨path, hpath⟩ := Option.isSome_iff_exists.mp hrequest
    exact ⟨_, hcompile, (hroutes hpath).mp h⟩
  · rintro ⟨profile, hcompile, hadded⟩
    obtain ⟨hid, hprotocol, hfind, hpipeline, hrequest⟩ := compileProfile_complete hcompile
    obtain ⟨path, hpath⟩ := Option.isSome_iff_exists.mp hrequest
    have hvalid : protocols.validateProfile profile.handler id d = .ok () := by
      simp only [compileProfile, hprotocol, Option.getD_some, hfind] at hcompile
      split at hcompile
      · cases hcompile
      next hv => exact hv
    have hprofile : profile = ⟨id, profile.handler, d.enabled, profile.requestPipeline⟩ := by
      simp only [compileProfile, hprotocol, Option.getD_some, hfind, hvalid, hpipeline] at hcompile
      exact (Except.ok.inj hcompile).symm
    rw [hprofile] at hadded
    unfold checkCandidateProfile
    simp only [hd, Bool.not_true, Bool.false_and, Bool.false_eq_true, if_false, if_true, hprotocol,
      hfind, hvalid, hpipeline, pure_eq_ok]
    exact (hroutes hpath).mpr hadded

lemma checkCandidateProfile_disabled {routes : CandidateRoutes} {id : Bytes}
    {d : ProfileDefinition} (hd : d.enabled = false) {routes' : CandidateRoutes}
    (h : checkCandidateProfile protocols rules routes id d = .ok routes') : routes' = routes := by
  unfold checkCandidateProfile at h
  simp only [hd, Bool.not_false, Bool.true_and, Bool.false_eq_true, if_false] at h
  split_ifs at h
  · cases h
    rfl
  split at h
  · cases h
  split at h
  · cases h
  split at h
  · cases h
  · cases h
    rfl

/-- A profile that compiles has routes that can be added. -/
lemma compileProfile_servable (hmethods : ProtocolRegistry.MethodsValid protocols) {id : Bytes}
    {d : ProfileDefinition} {profile : RuntimeProfile}
    (h : compileProfile protocols rules id d = .ok profile) : Servable d ∧
      ∀ kind path, localPath kind d = some path →
        validMethod (routeMethod kind profile.handler) = true := by
  obtain ⟨-, hprotocol, hfind, -, -⟩ := compileProfile_complete h
  have hvalid : protocols.validateProfile profile.handler id d = .ok () := by
    simp only [compileProfile, hprotocol, Option.getD_some, hfind] at h
    split at h
    · cases h
    next hv => exact hv
  obtain ⟨-, hhandler⟩ := ProtocolRegistry.validateProfile_ok hvalid
  obtain ⟨hrequest, husage⟩ := hmethods _ _ hfind
  obtain ⟨_, hdef, hhandler⟩ := bind_eq_ok.mp hhandler
  refine ⟨servable_of_complete hdef, fun kind path hpath => ?_⟩
  cases kind with
  | request => exact hrequest
  | usage =>
    refine husage ?_
    have hsome : d.localRoutes.usagePath = some path := hpath
    by_contra hno
    simp [hprotocol, hsome, hno] at hhandler

/-- A kind of route is added on both sides or on neither. -/
lemma Matches.addKind {routes : CandidateRoutes} {t : RouteTable} (h : Matches routes t)
    {kind : RouteKind} {profile : RuntimeProfile} {d : ProfileDefinition} (hd : Servable d)
    (hmethod : ∀ kind path, localPath kind d = some path →
      validMethod (routeMethod kind profile.handler) = true)
    (hrequest : d.localRoutes.requestPath.isSome = true) (id field : Bytes) :
    (∀ routes', addCandidateKind routes kind profile d id field = .ok routes' →
      ∃ t', addRoute t (routeOf kind profile d) = .ok t' ∧ Matches routes' t') ∧
    ∀ t', addRoute t (routeOf kind profile d) = .ok t' →
      ∃ routes', addCandidateKind routes kind profile d id field = .ok routes' ∧
        Matches routes' t' := by
  cases hpath : localPath kind d with
  | none =>
    have hroute : routeOf kind profile d = none := by
      cases kind with
      | request =>
        rw [show d.localRoutes.requestPath = none from hpath] at hrequest
        cases hrequest
      | usage => simp [routeOf, show d.localRoutes.usagePath = none from hpath]
    simp only [addCandidateKind, hpath, hroute, addRoute, Except.ok.injEq]
    exact ⟨fun _ hr => ⟨t, rfl, hr ▸ h⟩, fun _ ht => ⟨routes, rfl, ht ▸ h⟩⟩
  | some path =>
    obtain ⟨hcanonical, hup⟩ := hd kind path hpath
    simp only [addCandidateKind, hpath, routeOf_eq hpath, addRoute]
    exact h.add (e := ⟨profile, kind, routeMethod kind profile.handler, path, upstreamTarget kind d⟩)
      (hmethod kind path hpath) hcanonical hup id field

/-- What passes the checks of a candidate is compiled. -/
lemma compileProfiles_of_checked (hmethods : ProtocolRegistry.MethodsValid protocols)
    {ps : List (Bytes × ProfileDefinition)} {routes : CandidateRoutes} {s : RuntimeSnapshot}
    (hm : Matches routes s.routes) (h : checkCandidateProfiles protocols rules routes ps = .ok ()) :
    ∃ s', compileProfiles protocols rules s (ps.filter fun p => p.2.enabled) = .ok s' := by
  induction ps generalizing routes s with
  | nil => exact ⟨s, rfl⟩
  | cons p ps ih =>
    obtain ⟨id, d⟩ := p
    obtain ⟨routes', hcheck, h⟩ := bind_eq_ok.mp h
    cases hd : d.enabled with
    | false =>
      rw [checkCandidateProfile_disabled hd hcheck] at h
      simpa [hd] using ih hm h
    | true =>
      obtain ⟨profile, hcompile, routes₁, hrequest, husage⟩ :=
        (checkCandidateProfile_enabled hd).mp hcheck
      obtain ⟨hserve, hmethod⟩ := compileProfile_servable hmethods hcompile
      obtain ⟨-, -, -, -, hsome⟩ := compileProfile_complete hcompile
      obtain ⟨t₁, ht₁, hm₁⟩ := (hm.addKind hserve hmethod hsome id _).1 routes₁ hrequest
      obtain ⟨t₂, ht₂, hm₂⟩ := (hm₁.addKind hserve hmethod hsome id _).1 routes' husage
      obtain ⟨s', hs'⟩ := ih (s := { s with profiles := s.profiles ++ [(id, profile)], routes := t₂ })
        hm₂ h
      refine ⟨s', ?_⟩
      simp only [List.filter_cons, hd, if_true, compileProfiles, hcompile, ht₁, ht₂, ok_bind]
      exact hs'

/-- What is compiled passes the checks of a candidate, when the other profiles have no enabled rule. -/
lemma checked_of_compileProfiles (hmethods : ProtocolRegistry.MethodsValid protocols)
    {ps : List (Bytes × ProfileDefinition)} {routes : CandidateRoutes} {s s' : RuntimeSnapshot}
    (hidle : ∀ p ∈ ps, p.2.enabled = false → p.2.rules.any RuleDefinition.enabled = false)
    (hm : Matches routes s.routes)
    (h : compileProfiles protocols rules s (ps.filter fun p => p.2.enabled) = .ok s') :
    checkCandidateProfiles protocols rules routes ps = .ok () := by
  induction ps generalizing routes s with
  | nil => rfl
  | cons p ps ih =>
    obtain ⟨id, d⟩ := p
    have hrest := fun p hp => hidle p (List.mem_cons_of_mem _ hp)
    cases hd : d.enabled with
    | false =>
      have hnone := hidle (id, d) (by simp) hd
      simp only [List.filter_cons, hd, Bool.false_eq_true, if_false] at h
      rw [checkCandidateProfiles, checkCandidateProfile, hd, hnone]
      exact ih hrest hm h
    | true =>
      simp only [List.filter_cons, hd, if_true] at h
      obtain ⟨profile, hcompile, h⟩ := bind_eq_ok.mp h
      obtain ⟨t₁, ht₁, h⟩ := bind_eq_ok.mp h
      obtain ⟨t₂, ht₂, h⟩ := bind_eq_ok.mp h
      obtain ⟨hserve, hmethod⟩ := compileProfile_servable hmethods hcompile
      obtain ⟨-, -, -, -, hsome⟩ := compileProfile_complete hcompile
      obtain ⟨routes₁, hrequest, hm₁⟩ :=
        (hm.addKind hserve hmethod hsome id (str "local.request-path")).2 t₁ ht₁
      obtain ⟨routes₂, husage, hm₂⟩ :=
        (hm₁.addKind hserve hmethod hsome id (str "local.usage-path")).2 t₂ ht₂
      rw [checkCandidateProfiles, (checkCandidateProfile_enabled hd).mpr
        ⟨profile, hcompile, routes₁, hrequest, husage⟩, ok_bind]
      exact ih hrest hm₂ h

/-! ### Documents -/

lemma addCandidateRoute_error {routes : CandidateRoutes} {method path id field : Bytes}
    {f : ConfigValidationFailure} (h : addCandidateRoute routes method path id field = .error f) :
    f.error ≠ .runtimeCompileFailed := by
  unfold addCandidateRoute at h
  split at h
  · cases h
    simp
  split at h
  · cases h
    simp
  · cases h

/-- The checks of the profiles fail for reasons of their own. -/
lemma checkCandidateProfile_error {routes : CandidateRoutes} {id : Bytes} {d : ProfileDefinition}
    {f : ConfigValidationFailure}
    (h : checkCandidateProfile protocols rules routes id d = .error f) :
    f.error ≠ .runtimeCompileFailed := by
  unfold checkCandidateProfile at h
  split at h
  · cases h
  split at h
  · cases h
    simp
  split at h
  · cases h
    simp
  next handler hfind =>
  cases hen : d.enabled with
  | false =>
    simp only [hen, Bool.false_eq_true, if_false] at h
    split at h
    · cases h
      simp
    · cases h
  | true =>
    simp only [hen, if_true] at h
    split at h
    · cases h
      simp
    split at h
    · cases h
      simp
    cases hrequest : addCandidateRoute routes handler.requestMethod
      (d.localRoutes.requestPath.getD []) id (str "local.request-path") with
    | error e =>
      rw [hrequest] at h
      cases h
      exact addCandidateRoute_error hrequest
    | ok routes₁ =>
      rw [hrequest, ok_bind] at h
      split at h
      · cases h
      · exact addCandidateRoute_error h

lemma checkCandidateProfiles_error {ps : List (Bytes × ProfileDefinition)} {routes : CandidateRoutes}
    {f : ConfigValidationFailure} (h : checkCandidateProfiles protocols rules routes ps = .error f) :
    f.error ≠ .runtimeCompileFailed := by
  induction ps generalizing routes with
  | nil => cases h
  | cons p ps ih =>
    obtain ⟨id, d⟩ := p
    rw [checkCandidateProfiles] at h
    cases hp : checkCandidateProfile protocols rules routes id d with
    | error e =>
      rw [hp] at h
      cases h
      exact checkCandidateProfile_error hp
    | ok routes' =>
      rw [hp] at h
      exact ih h

/-- The document, protocol, rule, collision and log path checks of a candidate. -/
structure PassesChecks (protocols : ProtocolRegistry) (rules : RuleRegistry) (d : ConfigDocument)
    (root : Bytes) : Prop where
  document : validateDocument d = .ok ()
  profiles : checkCandidateProfiles protocols rules [] d.profiles = .ok ()
  logPath : ∃ path, resolveApplicationLogPath d.application root = .ok path

lemma compile_of_passes (hmethods : ProtocolRegistry.MethodsValid protocols) {d : ConfigDocument}
    {root : Bytes} (hroot : Path.isAbsolute root = true) (h : PassesChecks protocols rules d root)
    (hd : d.profiles.any (fun p => p.2.enabled) = true) :
    ∃ s, RuntimeCompiler.compile ⟨root, some protocols, some rules⟩ d {} = .ok s := by
  obtain ⟨path, hpath⟩ := h.logPath
  have hdocument : validateConfigDocument d = .ok () := by rw [validateConfigDocument, h.document]
  have hselected : (d.profiles.filter fun p => p.2.enabled) ≠ [] := by
    obtain ⟨p, hp, hen⟩ := List.any_eq_true.mp hd
    exact List.ne_nil_of_mem (List.mem_filter.mpr ⟨hp, hen⟩)
  have hempty : Matches [] ({} : RouteTable) := fun m c => by simp [RouteTable.entryAt, Json.find]
  obtain ⟨s, hs⟩ := compileProfiles_of_checked hmethods
    (s := { application := d.application, logPath := path, protocols := protocols, rules := rules })
    hempty h.profiles
  refine ⟨s, ?_⟩
  simp only [RuntimeCompiler.compile, hroot, Bool.not_true, Bool.false_eq_true, if_false, hdocument,
    ok_bind, selectProfiles, hselected, hpath]
  exact hs

lemma passes_of_compile (hmethods : ProtocolRegistry.MethodsValid protocols) {d : ConfigDocument}
    {root : Bytes} {s : RuntimeSnapshot}
    (hidle : ∀ p ∈ d.profiles, p.2.enabled = false → p.2.rules.any RuleDefinition.enabled = false)
    (h : RuntimeCompiler.compile ⟨root, some protocols, some rules⟩ d {} = .ok s) :
    PassesChecks protocols rules d root := by
  unfold RuntimeCompiler.compile at h
  split at h
  · cases h
  obtain ⟨_, hdocument, h⟩ := bind_eq_ok.mp h
  obtain ⟨selected, hselected, h⟩ := bind_eq_ok.mp h
  cases hselected
  split at h
  · cases h
  obtain ⟨path, hpath, h⟩ := bind_eq_ok.mp h
  refine ⟨?_, checked_of_compileProfiles hmethods hidle ?_ h, path, hpath⟩
  · unfold validateConfigDocument at hdocument
    split at hdocument
    next hv => exact hv
    · cases hdocument
  · intro m c
    simp [RouteTable.entryAt, Json.find]

/-- **Candidates and the compiler agree.** With the protocols that are built in, any rules, any
document and any absolute root: what passes the checks of a candidate and has an enabled profile
is compiled, so that no candidate fails because the compiler refuses it; and when no disabled
profile has an enabled rule, what the compiler accepts passes the checks. -/
theorem candidate_agrees (hp : builtinProtocolRegistry = .ok protocols) (rules : RuleRegistry)
    (d : ConfigDocument) {root : Bytes} (hroot : Path.isAbsolute root = true) :
    (PassesChecks protocols rules d root → d.profiles.any (fun p => p.2.enabled) = true →
      ∃ s, RuntimeCompiler.compile ⟨root, some protocols, some rules⟩ d {} = .ok s) ∧
    (∀ f, validateCandidate protocols rules d root = .error f → f.error ≠ .runtimeCompileFailed) ∧
    ((∀ p ∈ d.profiles, p.2.enabled = false → p.2.rules.any RuleDefinition.enabled = false) →
      ∀ s, RuntimeCompiler.compile ⟨root, some protocols, some rules⟩ d {} = .ok s →
        PassesChecks protocols rules d root) := by
  have hmethods := builtin_methodsValid hp
  refine ⟨compile_of_passes hmethods hroot, fun f hf => ?_, fun hidle s hs =>
    passes_of_compile hmethods hidle hs⟩
  unfold validateCandidate at hf
  cases hdocument : validateDocument d with
  | error e =>
    rw [hdocument] at hf
    cases hf
    simp
  | ok _ =>
  cases hprofiles : checkCandidateProfiles protocols rules [] d.profiles with
  | error e =>
    rw [hdocument] at hf
    simp only [hprofiles, error_bind, Except.error.injEq] at hf
    rw [← hf]
    exact checkCandidateProfiles_error hprofiles
  | ok _ =>
  cases hpath : resolveApplicationLogPath d.application root with
  | error e =>
    simp only [hdocument, hprofiles, ok_bind, hpath] at hf
    cases hf
    simp
  | ok path =>
    simp only [hdocument, hprofiles, ok_bind, hpath] at hf
    split_ifs at hf with hany
    · obtain ⟨s, hs⟩ := compile_of_passes hmethods hroot ⟨hdocument, hprofiles, path, hpath⟩ hany
      rw [hs] at hf
      cases hf
    · cases hf

/-- One enabled profile of the responses protocol. -/
theorem candidate_agrees_one_profile :
    let _ : Json.Library := Json.bitLibrary
    let d : ConfigDocument := { profiles := [(str "a", sampleProfile (str "/a"))] }
    ∃ protocols rules s, builtinProtocolRegistry = .ok protocols ∧ builtinRuleRegistry = .ok rules ∧
      RuntimeCompiler.compile ⟨str "/app", some protocols, some rules⟩ d {} = .ok s ∧
      PassesChecks protocols rules d (str "/app") := by
  intro _ d
  have hprotocols : builtinProtocolRegistry.toOption.isSome = true := by decide
  have hrules : builtinRuleRegistry.toOption.isSome = true := by decide
  have hcompile : (RuntimeCompiler.compile ⟨str "/app", builtinProtocolRegistry.toOption,
      builtinRuleRegistry.toOption⟩ d {}).toOption.isSome = true := by decide
  obtain ⟨protocols, hp⟩ := Option.isSome_iff_exists.mp hprotocols
  obtain ⟨rules, hr⟩ := Option.isSome_iff_exists.mp hrules
  rw [hp, hr] at hcompile
  obtain ⟨s, hs⟩ := Option.isSome_iff_exists.mp hcompile
  have hs := toOption_eq_some.mp hs
  have hagrees := candidate_agrees (toOption_eq_some.mp hp) rules d
    (show Path.isAbsolute (str "/app") = true by decide)
  refine ⟨protocols, rules, s, toOption_eq_some.mp hp, toOption_eq_some.mp hr, hs,
    hagrees.2.2 (fun p hp hdis => ?_) s hs⟩
  rw [List.mem_singleton.mp hp] at hdis
  cases hdis

end Agreement

end CcsTrans.Config
