import CommandBridge.Config.Basic
import CommandBridge.Gateway.Endpoint
import CommandBridge.Proofs.Url.Segment

/-! The URLs that requests to a gateway go to. An endpoint without a query and a fragment has its
sessions below its own path, each with its identifier as one segment, if that can be one. -/
namespace CommandBridge

open Url (IsWeb isOneSegment endsVisibly encode pathSet)

namespace Http

/-- A request to a URL. Its user name and its password go into a header. -/
def Request.addressed (method : Method) (u : Url) (authorization : Option String)
    (body : Option Json) : Request :=
  ⟨method, (takeUserinfo u).2, (takeUserinfo u).1.toList ++ authorization.toList, body⟩

section
variable {method : Method} {address : String} {authorization : Option String} {body : Option Json}
  {u : Url} {r : Request}

theorem scheme_takeUserinfo (u : Url) : (takeUserinfo u).2.scheme = u.scheme := by
  unfold takeUserinfo
  split
  · rfl
  · split
    · rfl
    · dsimp only
      split <;> rfl

theorem path_takeUserinfo (u : Url) : (takeUserinfo u).2.path = u.path := by
  unfold takeUserinfo
  split
  · rfl
  · split
    · rfl
    · dsimp only
      split <;> rfl

/-- A request to an address on the web is built unless a header value or the URL is not fit for
it. -/
theorem build_eq_ok_iff (hread : Url.read address = .ok u) (hhost : hasHost u = true)
    (hscheme : Url.isWebScheme u.scheme) :
    Request.build method address authorization body = .ok r ↔
      authorization.all isHeaderValue = true ∧ r = .addressed method u authorization body ∧
        isRequestUri r.url = true := by
  have hheader : authorization.any (!isHeaderValue ·) = !authorization.all isHeaderValue := by
    cases authorization <;> rfl
  have hweb := scheme_takeUserinfo u
  unfold Request.build Request.addressed
  rw [hread]
  dsimp only
  rw [hhost, hheader, Bool.not_true, if_neg Bool.false_ne_true]
  cases htaken : takeUserinfo u with
  | mk own w =>
    rw [htaken] at hweb
    dsimp only at hweb ⊢
    have hallowed :
        (decide (w.scheme ≠ "http".toList) && decide (w.scheme ≠ "https".toList)) = false := by
      rw [hweb]
      rcases hscheme with h | h <;> rw [h] <;> decide
    rw [hallowed, if_neg Bool.false_ne_true]
    cases authorization.all isHeaderValue with
    | false => simp
    | true =>
      cases huri : isRequestUri w with
      | false =>
        simp only [Bool.not_true, Bool.false_eq_true, if_false, Bool.not_false, if_true,
          reduceCtorEq, true_and, false_iff, not_and]
        rintro rfl
        exact Bool.eq_false_iff.mp huri
      | true =>
        simp only [Bool.not_true, Bool.false_eq_true, if_false, Except.ok.injEq, true_and]
        constructor
        · rintro rfl
          exact ⟨rfl, huri⟩
        · exact fun h => h.1.symm

end

end Http

namespace Gateway

/-- Where sessions at a target are opened. -/
def sessionsUrl (t : Target) : Url := t.endpoint.below ["sessions".toList]

def sessionUrl (c : Connection) : Url :=
  c.target.endpoint.below ["sessions".toList, encode pathSet c.id.toList]

def pipelinesUrl (c : Connection) : Url :=
  c.target.endpoint.below ["sessions".toList, encode pathSet c.id.toList, "pipelines".toList]

section
variable {t : Target} {c : Connection}

theorem read_base (t : Target) (s : String) :
    Url.read (base t ++ s) = Url.readChars (t.endpoint.trimmed ++ s.toList) := by
  rw [Url.read, String.toList_append, base, String.toList_ofList]
  rfl

theorem isSegment_sessions : Url.IsSegment "sessions".toList :=
  ⟨List.all_eq_true.mp (by decide), List.all_iff_forall_prop.mp (by decide), by decide, by decide⟩

theorem isSegment_pipelines : Url.IsSegment "pipelines".toList :=
  ⟨List.all_eq_true.mp (by decide), List.all_iff_forall_prop.mp (by decide), by decide, by decide⟩

theorem encode_sessions : encode pathSet "sessions".toList = "sessions".toList :=
  Url.encode_of_isClear isSegment_sessions.clear

theorem hasHost_of_isWeb {u : Url} (hu : IsWeb u) : Http.hasHost u = true := by
  obtain ⟨host, hhost, hh⟩ := hu.host
  simp [Http.hasHost, hhost, hh.ne_nil]

theorem isWeb_below {u : Url} (hu : IsWeb u) {segments : List (List Char)}
    (hsegments : ∀ s ∈ segments, Url.IsSegment s) (hne : segments ≠ []) :
    IsWeb (u.below segments) where
  scheme := hu.scheme
  username := hu.username
  password := hu.password
  host := hu.host
  port := hu.port
  path := ⟨_, rfl, by simp [hne], Url.isSegment_of_mem_append hu hsegments⟩
  query _ h := nomatch h
  fragment _ h := nomatch h

theorem read_sessionsAddress_iff (hu : IsWeb t.endpoint) :
    Url.read (sessionsAddress t) = .ok (sessionsUrl t) ↔ t.endpoint.Extensible := by
  have hnone : ∀ s ∈ ([] : List (List Char)), Url.IsSegment s := by simp
  have hends : isOneSegment "sessions".toList = true ∧ endsVisibly "sessions".toList = true := by
    decide +kernel
  rw [sessionsAddress, read_base]
  constructor
  · intro h
    obtain ⟨hquery, hfragment⟩ := Url.of_readChars_trimmed hu h
    obtain ⟨host, hhost, -⟩ := hu.host
    have hiff := Url.readChars_last_iff hu hquery hfragment hhost hnone "sessions".toList
    rw [encode_sessions] at hiff
    exact ⟨hquery, hfragment, host, hhost, (hiff.mp h).1⟩
  · intro h
    obtain ⟨host, hhost, hstable⟩ := h.host
    have hiff := Url.readChars_last_iff hu h.query h.fragment hhost hnone "sessions".toList
    rw [encode_sessions] at hiff
    exact hiff.mpr ⟨hstable, hends⟩

theorem read_sessionAddress (c : Connection) : Url.read (sessionAddress c) =
    Url.readChars (c.target.endpoint.trimmed ++
      (Url.pathText (.segments ["sessions".toList]) ++ '/' :: c.id.toList)) := by
  rw [sessionAddress, sessionsAddress, String.append_assoc, String.append_assoc, read_base]
  simp [Url.pathText]

theorem read_sessionAddress_iff (hu : IsWeb c.target.endpoint)
    (he : c.target.endpoint.Extensible) :
    Url.read (sessionAddress c) = .ok (sessionUrl c) ↔
      isOneSegment c.id.toList = true ∧ endsVisibly c.id.toList = true := by
  obtain ⟨host, hhost, hstable⟩ := he.host
  have hsessions : ∀ s ∈ ["sessions".toList], Url.IsSegment s := by
    simpa using isSegment_sessions
  have hiff := Url.readChars_last_iff hu he.query he.fragment hhost hsessions c.id.toList
  rw [read_sessionAddress]
  exact hiff.trans (and_iff_right hstable)

theorem read_pipelinesAddress_iff (hu : IsWeb c.target.endpoint)
    (he : c.target.endpoint.Extensible) :
    Url.read (sessionAddress c ++ "/pipelines") = .ok (pipelinesUrl c) ↔
      isOneSegment c.id.toList = true := by
  obtain ⟨host, hhost, hstable⟩ := he.host
  have hsessions : ∀ s ∈ ["sessions".toList], Url.IsSegment s := by
    simpa using isSegment_sessions
  have hiff := Url.readChars_before_iff hu he.query he.fragment hhost hsessions
    isSegment_pipelines c.id.toList
  have htext : sessionAddress c ++ "/pipelines" =
      base c.target ++ ("/sessions" ++ ("/" ++ (c.id ++ "/pipelines"))) := by
    simp only [sessionAddress, sessionsAddress, String.append_assoc]
  have haddress : ("/sessions" ++ ("/" ++ (c.id ++ "/pipelines"))).toList =
      Url.pathText (.segments ["sessions".toList]) ++
        '/' :: (c.id.toList ++ '/' :: "pipelines".toList) := by
    simp [Url.pathText]
  rw [htext, read_base, haddress]
  exact hiff.trans (and_iff_right hstable)

end

/-! ### Requests -/

/-- A request to a session with an identifier that can be a segment. -/
inductive IsSentTo (t : Target) (id : String) (r : Http.Request) : Prop where
  | running (hid : isOneSegment id.toList = true) (i : Invocation)
      (h : pipelineRequest ⟨id, t⟩ i = .ok r)
  | closing (hid : isOneSegment id.toList = true) (hends : endsVisibly id.toList = true)
      (h : closeRequest ⟨id, t⟩ = .ok r)

/-- Requests go to the URLs of a target and its sessions, if the sessions have identifiers that can
be segments. -/
structure Reaches (t : Target) : Prop where
  opening (k : Credential) (r : Http.Request) : openRequest t k = .ok r ↔
    ∃ a, authorization t.mechanism k = .ok a ∧ Http.isHeaderValue a = true ∧
      r = .addressed .post (sessionsUrl t) (some a) (some (openBody t)) ∧
      Http.isRequestUri r.url = true
  pipelinesAddress (id : String) :
    Url.read (sessionAddress ⟨id, t⟩ ++ "/pipelines") = .ok (pipelinesUrl ⟨id, t⟩) ↔
      isOneSegment id.toList = true
  address (id : String) : Url.read (sessionAddress ⟨id, t⟩) = .ok (sessionUrl ⟨id, t⟩) ↔
    isOneSegment id.toList = true ∧ endsVisibly id.toList = true
  running (id : String) (h : isOneSegment id.toList = true) (i : Invocation) (r : Http.Request) :
    pipelineRequest ⟨id, t⟩ i = .ok r ↔
      r = .addressed .post (pipelinesUrl ⟨id, t⟩) none (some (pipelineBody i)) ∧
        Http.isRequestUri r.url = true
  closing (id : String) (h : isOneSegment id.toList = true) (hends : endsVisibly id.toList = true)
    (r : Http.Request) : closeRequest ⟨id, t⟩ = .ok r ↔
      r = .addressed .delete (sessionUrl ⟨id, t⟩) none none ∧ Http.isRequestUri r.url = true
  apart (id id' : String) (r r' : Http.Request) (hr : IsSentTo t id r) (hr' : IsSentTo t id' r')
    (hurl : r.url = r'.url) :
    encode pathSet id.toList = encode pathSet id'.toList ∧
      ('%' ∉ id.toList → '%' ∉ id'.toList → id = id')

/-- Whatever is put behind the address of a target, its path is that of the endpoint. -/
structure Swallows (t : Target) : Prop where
  fragment (h : t.endpoint.fragment.isSome = true) (s : String) :
    ∃ f, Url.read (base t ++ s) = .ok { t.endpoint with fragment := some f }
  query (h : t.endpoint.query.isSome = true) (hfragment : t.endpoint.fragment = none)
    (s : String) :
    ∃ q f, Url.read (base t ++ s) = .ok { t.endpoint with query := some q, fragment := f }

section
variable {t : Target} {c : Connection} {r : Http.Request}

theorem build_ok_iff {method : Http.Method} {address : String} {authorization : Option String}
    {body : Option Json} {u : Url} (hread : Url.read address = .ok u) (hu : IsWeb u) :
    build method address authorization body = .ok r ↔
      authorization.all Http.isHeaderValue = true ∧
        r = .addressed method u authorization body ∧ Http.isRequestUri r.url = true := by
  rw [← Http.build_eq_ok_iff hread (hasHost_of_isWeb hu) hu.scheme, build]
  cases Http.Request.build method address authorization body <;> simp [Except.mapError]

theorem isWeb_sessionsUrl (hu : IsWeb t.endpoint) : IsWeb (sessionsUrl t) :=
  isWeb_below hu (by simpa using isSegment_sessions) (List.cons_ne_nil _ _)

theorem encode_isSegment {s : List Char} (h : isOneSegment s = true) :
    Url.IsSegment (encode pathSet s) := by
  obtain ⟨hchar, hup, hhere⟩ := Url.isOneSegment_iff.mp h
  refine ⟨fun c => Url.isClear_pathSet_of_mem_encode, ?_, hup, hhere⟩
  intro c hc
  rcases Url.mem_encode hc with hc | hc
  · exact (hchar c hc.1).1
  · exact Url.isSlash_of_mem_escapeChars c hc

theorem isWeb_sessionUrl (hu : IsWeb c.target.endpoint) (h : isOneSegment c.id.toList = true) :
    IsWeb (sessionUrl c) := by
  refine isWeb_below hu ?_ (List.cons_ne_nil _ _)
  simpa using ⟨isSegment_sessions, encode_isSegment h⟩

theorem isWeb_pipelinesUrl (hu : IsWeb c.target.endpoint) (h : isOneSegment c.id.toList = true) :
    IsWeb (pipelinesUrl c) := by
  refine isWeb_below hu ?_ (List.cons_ne_nil _ _)
  simpa using ⟨isSegment_sessions, encode_isSegment h, isSegment_pipelines⟩

theorem openRequest_ok_iff (hu : IsWeb t.endpoint) (he : t.endpoint.Extensible) (k : Credential) :
    openRequest t k = .ok r ↔ ∃ a, authorization t.mechanism k = .ok a ∧
      Http.isHeaderValue a = true ∧
      r = .addressed .post (sessionsUrl t) (some a) (some (openBody t)) ∧
      Http.isRequestUri r.url = true := by
  have hread := (read_sessionsAddress_iff hu).mpr he
  unfold openRequest
  cases authorization t.mechanism k with
  | error e => simp [bind, Except.bind]
  | ok a =>
    simp only [bind, Except.bind, Except.ok.injEq, exists_eq_left']
    rw [build_ok_iff hread (isWeb_sessionsUrl hu), Option.all_some]

theorem pipelineRequest_ok_iff (hu : IsWeb c.target.endpoint) (he : c.target.endpoint.Extensible)
    (h : isOneSegment c.id.toList = true) (i : Invocation) :
    pipelineRequest c i = .ok r ↔
      r = .addressed .post (pipelinesUrl c) none (some (pipelineBody i)) ∧
        Http.isRequestUri r.url = true := by
  have hread := (read_pipelinesAddress_iff hu he).mpr h
  rw [pipelineRequest, build_ok_iff hread (isWeb_pipelinesUrl hu h)]
  exact and_iff_right rfl

theorem closeRequest_ok_iff (hu : IsWeb c.target.endpoint) (he : c.target.endpoint.Extensible)
    (h : isOneSegment c.id.toList = true) (hends : endsVisibly c.id.toList = true) :
    closeRequest c = .ok r ↔
      r = .addressed .delete (sessionUrl c) none none ∧ Http.isRequestUri r.url = true := by
  have hread := (read_sessionAddress_iff hu he).mpr ⟨h, hends⟩
  rw [closeRequest, build_ok_iff hread (isWeb_sessionUrl hu h)]
  exact and_iff_right rfl

/-- The path of a request to a session says which session it is. -/
theorem IsSentTo.exists_path {id : String} (hu : IsWeb t.endpoint) (he : t.endpoint.Extensible)
    (hr : IsSentTo t id r) :
    ∃ rest, r.url.path = .segments
      (t.endpoint.ownSegments ++ "sessions".toList :: encode pathSet id.toList :: rest) := by
  cases hr with
  | running hid i h =>
    have hsent := ((pipelineRequest_ok_iff (c := ⟨id, t⟩) hu he hid i).mp h).1
    rw [hsent]
    exact ⟨["pipelines".toList], Http.path_takeUserinfo _⟩
  | closing hid hends h =>
    have hsent := ((closeRequest_ok_iff (c := ⟨id, t⟩) hu he hid hends).mp h).1
    rw [hsent]
    exact ⟨[], Http.path_takeUserinfo _⟩

theorem reaches (hu : IsWeb t.endpoint) (he : t.endpoint.Extensible) : Reaches t where
  opening k _ := openRequest_ok_iff hu he k
  pipelinesAddress _ := read_pipelinesAddress_iff hu he
  address _ := read_sessionAddress_iff hu he
  running id h i _ := pipelineRequest_ok_iff (c := ⟨id, t⟩) hu he h i
  closing id h hends _ := closeRequest_ok_iff (c := ⟨id, t⟩) hu he h hends
  apart id id' r r' hr hr' hurl := by
    obtain ⟨rest, hpath⟩ := hr.exists_path hu he
    obtain ⟨rest', hpath'⟩ := hr'.exists_path hu he
    rw [hurl, hpath', UrlPath.segments.injEq, List.append_cancel_left_eq, List.cons.injEq,
      List.cons.injEq] at hpath
    have hencoded := hpath.2.1.symm
    refine ⟨hencoded, ?_⟩
    intro hid hid'
    exact String.toList_inj.mp (Url.encode_injective hid hid' hencoded)

theorem swallows (hu : IsWeb t.endpoint) (hkeeps : t.endpoint.KeepsHost) : Swallows t := by
  obtain ⟨host, hhost, hstable⟩ := hkeeps
  constructor
  · intro h s
    obtain ⟨f, hf⟩ := Option.isSome_iff_exists.mp h
    obtain ⟨f', hread⟩ := Url.readChars_trimmed_fragment hu hhost hf s.toList
    exact ⟨f', by simp only [read_base, hread, hstable, Except.map, hhost]⟩
  · intro h hfragment s
    obtain ⟨q, hq⟩ := Option.isSome_iff_exists.mp h
    obtain ⟨q', f', hread⟩ := Url.readChars_trimmed_query hu hhost hq hfragment s.toList
    exact ⟨q', f', by simp only [read_base, hread, hstable, Except.map, hhost]⟩

/-- An endpoint that has been accepted is a URL of the web. -/
theorem exists_target_of_validate {config : Config} (h : config.validate = .ok ()) :
    ∃ t, config.target = .ok t ∧ IsWeb t.endpoint := by
  unfold Config.validate at h
  unfold Config.target
  cases hread : Url.read config.remote.endpoint with
  | error e =>
    rw [hread] at h
    cases h
  | ok u =>
    rw [hread] at h
    refine ⟨⟨u, config.remote.scope, config.remote.mechanism⟩, rfl,
      Url.isWeb_of_readChars hread ?_⟩
    by_contra hscheme
    obtain ⟨hhttp, hhttps⟩ := not_or.mp hscheme
    have hother :
        (decide (u.scheme ≠ "http".toList) && decide (u.scheme ≠ "https".toList)) = true := by
      rw [decide_eq_true hhttp, decide_eq_true hhttps]
      rfl
    dsimp only at h
    rw [if_pos hother] at h
    cases h

/-- Requests go to the sessions that they are meant for, unless the endpoint has a query or a
fragment, which take in what is put behind its address. -/
theorem requests_addressed (config : Config) (h : config.validate = .ok ()) :
    ∃ t, config.target = .ok t ∧
      (∀ host, t.endpoint.host = some host → Url.isPlainHost host = true →
        t.endpoint.KeepsHost) ∧
      (Url.read (sessionsAddress t) = .ok (sessionsUrl t) ↔ t.endpoint.Extensible) ∧
      (t.endpoint.Extensible → Reaches t) ∧ (t.endpoint.KeepsHost → Swallows t) := by
  obtain ⟨t, ht, hu⟩ := exists_target_of_validate h
  exact ⟨t, ht, fun _ => Url.keepsHost_of_isPlainHost hu, read_sessionsAddress_iff hu,
    reaches hu, swallows hu⟩

end

theorem requests_addressed_spaced :
    let config := { Config.development with remote := ⟨"http://h/gw//", "all", .kerberos⟩ }
    config.validate = .ok () ∧ ∃ t, config.target = .ok t ∧ Reaches t ∧
      Url.read (sessionAddress ⟨"a b", t⟩ ++ "/pipelines") = .ok (pipelinesUrl ⟨"a b", t⟩) ∧
      (pipelinesUrl ⟨"a b", t⟩).text = "http://h/gw/sessions/a%20b/pipelines" := by
  intro config
  have hvalid : config.validate = .ok () := by decide +kernel
  obtain ⟨t, ht, hkeeps, -, hreaches, -⟩ := requests_addressed config hvalid
  have htarget : config.target = .ok ⟨⟨"http".toList, [], [], some ['h'], none,
      .segments ["gw".toList, [], []], none, none⟩, "all", .kerberos⟩ := by decide +kernel
  cases ht.symm.trans htarget
  have hreach := hreaches ⟨rfl, rfl, hkeeps ['h'] rfl (by decide +kernel)⟩
  exact ⟨hvalid, _, ht, hreach, (hreach.pipelinesAddress "a b").mpr (by decide +kernel),
    by decide +kernel⟩

/-- Sessions at an endpoint with a fragment are opened at the endpoint itself, and two sessions can
share the URL of their pipelines. -/
theorem not_addressed_apart :
    (∃ (config : Config) (t : Target), config.remote.endpoint = "http://h/gw#f" ∧
      config.validate = .ok () ∧ config.target = .ok t ∧
      (openRequest t (.token ⟨"k"⟩)).map (fun r => (r.url.path, r.url.fragment)) =
        .ok (.segments ["gw".toList], some "f/sessions".toList)) ∧
    (∃ (config : Config) (t : Target), config.remote.endpoint = "http://h/gw" ∧
      config.validate = .ok () ∧ config.target = .ok t ∧
      Url.read (sessionAddress ⟨"a b", t⟩ ++ "/pipelines") =
        Url.read (sessionAddress ⟨"a%20b", t⟩ ++ "/pipelines")) := by
  let u : Url := ⟨"http".toList, [], [], some ['h'], none, .segments ["gw".toList], none, none⟩
  constructor
  · refine ⟨{ Config.development with remote := ⟨"http://h/gw#f", "all", .kerberos⟩ },
      ⟨{ u with fragment := some ['f'] }, "all", .kerberos⟩, rfl, ?_⟩
    decide +kernel
  · refine ⟨{ Config.development with remote := ⟨"http://h/gw", "all", .kerberos⟩ },
      ⟨u, "all", .kerberos⟩, rfl, ?_⟩
    decide +kernel

end Gateway

end CommandBridge
