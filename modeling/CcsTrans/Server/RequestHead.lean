import CcsTrans.Core.UrlNormal
import CcsTrans.Routing.History
import CcsTrans.Transport.HeaderFilter

/-!
What of a request head goes upstream.

A head is split at CRLF only, so a bare CR, a bare LF or a NUL may stand in any of its parts. Names
and values of headers are checked where they are read, the method and the path where the route
is looked up. Nothing looks at the query.
-/

namespace CcsTrans.Server

open CcsTrans.Text CcsTrans.Core CcsTrans.Protocols CcsTrans.Routing CcsTrans.Transport
open CcsTrans.Fallible CcsTrans.InPlace

/-! ### Parts of a message -/

/-- No byte of these ends a line or a string. -/
def Inert (s : Bytes) : Prop := 13 ∉ s ∧ 10 ∉ s ∧ 0 ∉ s

instance (s : Bytes) : Decidable (Inert s) := inferInstanceAs (Decidable (_ ∧ _ ∧ _))

lemma inert_append {s t : Bytes} : Inert (s ++ t) ↔ Inert s ∧ Inert t := by
  simp only [Inert, List.mem_append, not_or]
  tauto

lemma inert_nil : Inert [] := by simp [Inert]

lemma inert_cons {b : UInt8} {t : Bytes} (hb : Inert [b]) : Inert (b :: t) ↔ Inert t := by
  rw [← List.singleton_append, inert_append]
  exact and_iff_right hb

/-- Bytes are inert that all pass a test which refuses the three. -/
lemma inert_of_all {p : UInt8 → Bool} {s : Bytes} (hcr : p 13 = false) (hlf : p 10 = false)
    (hnul : p 0 = false) (h : ∀ b ∈ s, p b = true) : Inert s := by
  refine ⟨fun hmem => ?_, fun hmem => ?_, fun hmem => ?_⟩
  · have := h _ hmem
    rw [hcr] at this
    cases this
  · have := h _ hmem
    rw [hlf] at this
    cases this
  · have := h _ hmem
    rw [hnul] at this
    cases this

/-- `join_url_path`: the target of a request upstream. -/
def joinUrlPath (basePath routePath query : Bytes) : Bytes :=
  let path := if basePath = [] then str "/" else basePath
  let path :=
    if path.getLast? = some (ch '/') ∧ routePath.head? = some (ch '/') then path.dropLast
    else if path.getLast? ≠ some (ch '/') ∧ routePath.head? ≠ some (ch '/') then path ++ [ch '/']
    else path
  let path := path ++ routePath
  if query = [] then path else path ++ ch '?' :: query

/-- What is forwarded of a request, the path being the canonical one. -/
structure CleanHead (request : HttpRequest) (canonicalPath : Bytes) : Prop where
  method : Inert request.method
  path : Inert request.path ∧ ch '?' ∉ request.path ∧ ch '#' ∉ request.path
  canonical : Inert canonicalPath ∧ ch '?' ∉ canonicalPath ∧ ch '#' ∉ canonicalPath
  query : Inert request.query
  headers : ∀ header ∈ filterRequestHeaders request.headers, Inert header.1 ∧ Inert header.2

/-- The request line: the head up to the first CRLF. -/
def requestLine (rawHead : Bytes) : Bytes :=
  match cut (str "\r\n") rawHead with
  | none => rawHead
  | some (line, _) => line

/-! ### The lines of a head -/

lemma startsWith_crlf (b c : UInt8) (t : Bytes) :
    startsWith (str "\r\n") (b :: c :: t) = true ↔ b = 13 ∧ c = 10 := by
  rw [show str "\r\n" = [13, 10] by decide, startsWith]
  simp only [List.isPrefixOf, Bool.and_true, Bool.and_eq_true, beq_iff_eq]
  rw [eq_comm, @eq_comm _ c]

lemma cut_crlf_cons {b c : UInt8} {t : Bytes} (h : ¬ (b = 13 ∧ c = 10)) :
    cut (str "\r\n") (b :: c :: t) =
      (cut (str "\r\n") (c :: t)).map fun (x, y) => (b :: x, y) := by
  rw [cut, if_neg (mt (startsWith_crlf b c t).mp h)]

/-- The first line that is read is the request line. -/
lemma headLines_head (rawHead : Bytes) :
    ∃ lines, headLines rawHead = requestLine rawHead :: lines := by
  fun_induction headLines rawHead with
  | case1 => exact ⟨[], rfl⟩
  | case2 b =>
    have hcut : cut (str "\r\n") [b] = none := by
      simp only [show str "\r\n" = [13, 10] by decide, cut, startsWith]
      simp
    exact ⟨[], by rw [requestLine, hcut]⟩
  | case3 b c t h ih =>
    refine ⟨headLines t, ?_⟩
    rw [requestLine, cut, if_pos ((startsWith_crlf b c t).mpr h)]
  | case4 b c t h hnil ih =>
    obtain ⟨lines, hlines⟩ := ih
    rw [hlines] at hnil
    cases hnil
  | case5 b c t h line lines hlines ih =>
    obtain ⟨lines', hlines'⟩ := ih
    rw [hlines] at hlines'
    obtain ⟨rfl, rfl⟩ := List.cons.inj hlines'
    refine ⟨lines, ?_⟩
    rw [requestLine, requestLine, cut_crlf_cons h]
    cases cut (str "\r\n") (c :: t) with
    | none => rfl
    | some r => rfl

/-! ### What is read -/

/-- The names and values of headers that are read. -/
lemma inert_of_parseHeaders {lines : List Bytes} {headers : Headers}
    (h : parseHeaders lines = .ok headers) : ∀ header ∈ headers, Inert header.1 ∧ Inert header.2 := by
  induction lines generalizing headers with
  | nil =>
    cases h
    simp
  | cons line lines ih =>
    unfold parseHeaders at h
    split_ifs at h with hline
    · cases h
      simp
    · split at h
      · cases h
      next name rest hcut =>
        dsimp only at h
        split_ifs at h with hbad
        obtain ⟨headers', hrest, rfl⟩ := map_eq_ok.mp h
        simp only [not_or, Bool.not_eq_true', Bool.not_eq_true, Bool.not_eq_false] at hbad
        obtain ⟨-, hname, hvalue⟩ := hbad
        rintro header (_ | ⟨_, hmem⟩)
        · refine ⟨inert_of_all (by decide) (by decide) (by decide) (List.all_eq_true.mp hname),
            inert_of_all (p := fun b => !((b < 32 && b != 9) || b == 127)) (by decide) (by decide)
              (by decide) fun b hb => ?_⟩
          rw [Bool.not_eq_true', Bool.eq_false_iff]
          exact List.any_eq_false.mp hvalue b hb
        · exact ih hrest header hmem

/-- A head that is read: the three parts of its request line, and headers. -/
structure ReadHead (rawHead : Bytes) (request : HttpRequest) : Prop where
  line : requestLine rawHead = request.method ++ 32 :: (request.target ++ 32 :: request.version)
  version : request.version = str "HTTP/1.1" ∨ request.version = str "HTTP/1.0"
  target : (request.target = request.path ∧ request.query = []) ∨
    request.target = request.path ++ ch '?' :: request.query
  headers : ∀ header ∈ request.headers, Inert header.1 ∧ Inert header.2

lemma splitTarget_target (request : HttpRequest) :
    ((splitTarget request).target = (splitTarget request).path ∧ (splitTarget request).query = []) ∨
      (splitTarget request).target =
        (splitTarget request).path ++ ch '?' :: (splitTarget request).query := by
  unfold splitTarget
  split
  · exact .inl ⟨rfl, rfl⟩
  next path query hcut =>
    right
    dsimp only
    rw [cut_eq hcut, List.append_assoc]
    rfl

lemma splitTarget_keeps (request : HttpRequest) :
    (splitTarget request).method = request.method ∧ (splitTarget request).target = request.target ∧
      (splitTarget request).version = request.version ∧
      (splitTarget request).headers = request.headers := by
  unfold splitTarget
  split
  · exact ⟨rfl, rfl, rfl, rfl⟩
  · exact ⟨rfl, rfl, rfl, rfl⟩

lemma readHead_of_parse {rawHead clientIp : Bytes} {request : HttpRequest}
    (h : parseRequestHead rawHead clientIp = .ok request) : ReadHead rawHead request := by
  obtain ⟨lines, hlines⟩ := headLines_head rawHead
  unfold parseRequestHead at h
  dsimp only at h
  rw [hlines] at h
  dsimp only at h
  split at h
  next method target version hsplit =>
    split_ifs at h with hempty hversion
    obtain ⟨headers, hheaders, rfl⟩ := map_eq_ok.mp h
    obtain ⟨hmethod', htarget', hversion', hheaders'⟩ :=
      splitTarget_keeps { method, target, version, headers, clientIp }
    have hjoin := flatMap_splitOn 32 (requestLine rawHead)
    rw [hsplit] at hjoin
    refine ⟨?_, ?_, splitTarget_target _, ?_⟩
    · rw [hmethod', htarget', hversion']
      simpa using (List.cons.inj hjoin).2.symm
    · rw [hversion']
      by_contra hne
      rw [not_or] at hne
      exact hversion hne
    · rw [hheaders']
      exact inert_of_parseHeaders hheaders
  · cases h

/-! ### What is looked up -/

/-- A byte of a path that is canonicalized. -/
lemma clean_of_allowed {s : Bytes} (h : ∀ b ∈ s, allowed b = true) :
    Inert s ∧ ch '?' ∉ s ∧ ch '#' ∉ s := by
  refine ⟨inert_of_all (by decide) (by decide) (by decide) h, fun hmem => ?_, fun hmem => ?_⟩
  · exact absurd (h _ hmem) (by decide)
  · exact absurd (h _ hmem) (by decide)

lemma allowed_of_hex {b : UInt8} : isHex b = true → allowed b = true := by
  refine byte_induction (P := fun b => isHex b = true → allowed b = true) ?_ b
  decide +kernel

/-- Every byte of a path and of its canonical form is allowed. -/
lemma allowed_of_canonical {p c : Bytes} (h : Canonical p c) :
    (∀ b ∈ p, allowed b = true) ∧ ∀ b ∈ c, allowed b = true := by
  have hpercent : allowed (ch '%') = true := by decide
  induction h with
  | nil => simp
  | byte hb _ _ ih =>
    exact ⟨List.forall_mem_cons.mpr ⟨hb, ih.1⟩, List.forall_mem_cons.mpr ⟨hb, ih.2⟩⟩
  | decoded hh hl _ hu _ ih =>
    refine ⟨?_, List.forall_mem_cons.mpr ⟨(unreserved_facts _ hu).1, ih.2⟩⟩
    simp only [List.forall_mem_cons]
    exact ⟨hpercent, allowed_of_hex hh, allowed_of_hex hl, ih.1⟩
  | kept hh hl _ _ _ ih =>
    have hupper {b : UInt8} (hb : isHex b = true) : allowed (toUpper b) = true :=
      allowed_of_hex (hex_facts b hb).2.1
    simp only [List.forall_mem_cons]
    exact ⟨⟨hpercent, allowed_of_hex hh, allowed_of_hex hl, ih.1⟩, hpercent, hupper hh, hupper hl, ih.2⟩

lemma clean_of_canonicalize {path canonical : Bytes} (h : canonicalizeHttpPath path = .ok canonical) :
    (Inert path ∧ ch '?' ∉ path ∧ ch '#' ∉ path) ∧
      Inert canonical ∧ ch '?' ∉ canonical ∧ ch '#' ∉ canonical := by
  obtain ⟨n, hn, rfl⟩ := canonicalizeHttpPath_ok_iff.mp h
  obtain ⟨hpath, hcanonical⟩ := allowed_of_canonical hn.canonical
  refine ⟨clean_of_allowed hpath, clean_of_allowed fun b hb => hcanonical b ?_⟩
  unfold closed at hb
  split_ifs at hb
  · exact List.dropLast_subset _ hb
  · exact hb

lemma inert_of_validMethod {method : Bytes} (h : validMethod method = true) : Inert method := by
  simp only [validMethod, Bool.and_eq_true] at h
  exact inert_of_all (by decide) (by decide) (by decide) (List.all_eq_true.mp h.2)

lemma validMethod_of_checked {o : OfferedRoute} {e : RouteEntry} (h : o.checked = .ok e) :
    validMethod e.method = true := by
  rw [(checked_ok h).1]
  unfold OfferedRoute.checked at h
  split at h
  · cases h
  split at h
  · cases h
  by_contra hmethod
  rw [if_pos (by simpa using hmethod)] at h
  cases h

/-- The entries of a history are calls that passed their checks. -/
lemma checked_of_mem_addAll {t : RouteTable} {os : List OfferedRoute} {e : RouteEntry}
    (h : e ∈ (addAll t os).2) : ∃ o ∈ os, o.checked = .ok e := by
  induction os generalizing t with
  | nil => cases h
  | cons o os ih =>
    rw [addAll] at h
    rcases List.mem_append.mp h with hmem | hmem
    · split_ifs at hmem
      · cases hmem
      · exact ⟨o, List.mem_cons_self, toOption_eq_some.mp (by simpa using hmem)⟩
    · obtain ⟨o', ho', hchecked⟩ := ih hmem
      exact ⟨o', List.mem_cons_of_mem _ ho', hchecked⟩

lemma inert_of_matched {os : List OfferedRoute} {method path canonical : Bytes} {entry : RouteEntry}
    (h : (addAll {} os).1.lookup method path = .matched entry canonical) : Inert method := by
  have holds : (addAll {} os).1.Holds (addAll {} os).2 := holds_nil.addAll os
  obtain ⟨-, hentry⟩ := RouteTable.lookup_matched.mp h
  obtain ⟨hmem, -, rfl⟩ := holds.entryAt_eq_some.mp hentry
  obtain ⟨o, -, hchecked⟩ := checked_of_mem_addAll hmem
  exact inert_of_validMethod (validMethod_of_checked hchecked)

/-! ### What goes upstream -/

/-- The target upstream has a CR, a LF or a NUL that is not configured exactly when the query has. -/
lemma inert_joinUrlPath {basePath routePath query : Bytes} (hbase : Inert basePath)
    (hroute : Inert routePath) : Inert (joinUrlPath basePath routePath query) ↔ Inert query := by
  have hslash : Inert (str "/") := by decide
  have hmark : Inert [ch '?'] := by decide
  have hstart : Inert (if basePath = [] then str "/" else basePath) := by
    split_ifs
    · exact hslash
    · exact hbase
  unfold joinUrlPath
  generalize (if basePath = [] then str "/" else basePath) = path at hstart
  have hlast : Inert path.dropLast := by
    obtain ⟨hcr, hlf, hnul⟩ := hstart
    exact ⟨fun h => hcr (List.dropLast_subset _ h), fun h => hlf (List.dropLast_subset _ h),
      fun h => hnul (List.dropLast_subset _ h)⟩
  have hjoined : Inert ((if path.getLast? = some (ch '/') ∧ routePath.head? = some (ch '/') then
      path.dropLast
    else if path.getLast? ≠ some (ch '/') ∧ routePath.head? ≠ some (ch '/') then path ++ [ch '/']
    else path) ++ routePath) := by
    refine inert_append.mpr ⟨?_, hroute⟩
    split_ifs
    · exact hlast
    · exact inert_append.mpr ⟨hstart, by decide⟩
    · exact hstart
  by_cases hquery : query = []
  · subst hquery
    exact iff_of_true (by simpa using hjoined) inert_nil
  · dsimp only
    rw [if_neg hquery, inert_append, inert_cons hmark]
    exact and_iff_right hjoined

/-- **What a request head can inject.** For every head that is read and every history of the route
table in which its method and path are found, what is forwarded has no CR, no LF and no NUL, and
the path no `?` or `#`, if and only if the request line has no CR, no LF and no NUL. -/
theorem forwarded_head_clean_iff {rawHead clientIp : Bytes} {request : HttpRequest}
    {os : List OfferedRoute} {entry : RouteEntry} {canonical : Bytes}
    (hparse : parseRequestHead rawHead clientIp = .ok request)
    (hlookup : (addAll {} os).1.lookup request.method request.path = .matched entry canonical) :
    CleanHead request canonical ↔ Inert (requestLine rawHead) := by
  obtain ⟨hline, hversion, htarget, hheaders⟩ := readHead_of_parse hparse
  have hmethod := inert_of_matched hlookup
  obtain ⟨hpath, hcanonical⟩ := clean_of_canonicalize (RouteTable.lookup_matched.mp hlookup).1
  have hversion' : Inert request.version := by
    rcases hversion with h | h
    · rw [h]
      decide
    · rw [h]
      decide
  have htarget' : Inert request.target ↔ Inert request.query := by
    rcases htarget with ⟨h, hquery⟩ | h
    · rw [h, hquery]
      exact iff_of_true hpath.1 inert_nil
    · rw [h, inert_append, inert_cons (by decide)]
      exact and_iff_right hpath.1
  have hspace : Inert [32] := by decide
  calc CleanHead request canonical
    _ ↔ Inert request.query :=
      ⟨CleanHead.query, fun hquery => ⟨hmethod, hpath, hcanonical, hquery, fun header hmem =>
        hheaders header (mem_filterHeaders.mp hmem).1⟩⟩
    _ ↔ Inert request.target := htarget'.symm
    _ ↔ Inert (requestLine rawHead) := by
      rw [hline, inert_append, inert_cons hspace, inert_append, inert_cons hspace]
      exact ⟨fun h => ⟨hmethod, h, hversion'⟩, fun h => h.2.1⟩

section Examples

/-- The route of `POST /v1`. -/
def offeredRoute : OfferedRoute where
  profile := some ⟨str "main", some responsesHandler, true, []⟩
  kind := .request
  method := str "POST"
  localPath := str "/v1"
  upstream := ⟨str "https://example.com", str "/v1"⟩

def offeredEntry : RouteEntry where
  profile := ⟨str "main", responsesHandler, true, []⟩
  kind := .request
  method := str "POST"
  localPath := str "/v1"
  upstream := ⟨str "https://example.com", str "/v1"⟩

lemma lookup_offeredRoute : (addAll {} [offeredRoute]).1.lookup (str "POST") (str "/v1") =
    .matched offeredEntry (str "/v1") := rfl

/-- A request for it, with a query. -/
def queryHead (query : Bytes) : Bytes := str "POST /v1?" ++ query ++ str " HTTP/1.1\r\nAccept: *"

def queryRequest (query : Bytes) : HttpRequest where
  method := str "POST"
  target := str "/v1?" ++ query
  path := str "/v1"
  query := query
  version := str "HTTP/1.1"
  headers := [(str "Accept", str "*")]

theorem forwarded_head_clean_query :
    parseRequestHead (queryHead (str "a=1")) [] = .ok (queryRequest (str "a=1")) ∧
    (CleanHead (queryRequest (str "a=1")) (str "/v1") ↔ Inert (requestLine (queryHead (str "a=1")))) := by
  have hparse : parseRequestHead (queryHead (str "a=1")) [] = .ok (queryRequest (str "a=1")) :=
    toOption_eq_some.mp (by decide)
  exact ⟨hparse, forwarded_head_clean_iff hparse lookup_offeredRoute⟩

/-- A query with a line feed is forwarded. -/
theorem forwarded_head_unclean :
    parseRequestHead (queryHead (str "a\nb")) [] = .ok (queryRequest (str "a\nb")) ∧
    (addAll {} [offeredRoute]).1.lookup (queryRequest (str "a\nb")).method
      (queryRequest (str "a\nb")).path = .matched offeredEntry (str "/v1") ∧
    ¬ CleanHead (queryRequest (str "a\nb")) (str "/v1") := by
  refine ⟨toOption_eq_some.mp (by decide), lookup_offeredRoute, fun h => ?_⟩
  exact absurd h.query (by decide)

end Examples

end CcsTrans.Server
