import Rpackit.Transport.Proxy.Handler

/-! # What the upstream sees of a request

Whatever fields a client sends and nominates, the request that goes upstream
names the fixed upstream, carries its secret exactly once and none of the
client-facing credentials, and leaves the application's own fields alone.
-/

namespace Rpackit.Transport

open Text Fallible

variable {Incoming Url : Type}

/-! ## The fixed values -/

theorem mem_toBytes {socket : SocketAddr} {b : UInt8} (hb : b ∈ socket.toBytes) :
    isVisibleAscii b = true := by
  have hfixed : ∀ b ∈ asBytes "127.0.0.1" ++ asBytes ":", isVisibleAscii b = true :=
    List.all_eq_true.mp (by decide)
  rcases List.mem_append.mp hb with hstatic | hport
  · exact hfixed b hstatic
  · exact isVisibleAscii_of_isAsciiDigit (isAsciiDigit_of_mem_decimal hport)

theorem upstreamHost_isSome (state : ProxyState) :
    ∃ host, HeaderValue.fromBytes? state.upstream.toBytes = some host ∧
      host.bytes = state.upstream.toBytes :=
  HeaderValue.fromBytes?_isSome_of_visible fun _ hb => mem_toBytes hb

theorem upstreamOrigin_isSome (state : ProxyState) :
    ∃ origin, HeaderValue.fromBytes? (upstreamOrigin state) = some origin ∧
      origin.bytes = upstreamOrigin state := by
  refine HeaderValue.fromBytes?_isSome_of_visible fun b hb => ?_
  have hfixed : ∀ b ∈ asBytes "http://", isVisibleAscii b = true := List.all_eq_true.mp (by decide)
  rcases List.mem_append.mp hb with hscheme | haddress
  · exact hfixed b hscheme
  · exact mem_toBytes haddress

theorem upstreamSecret_isSome (state : ProxyState) :
    ∃ secret, HeaderValue.fromBytes? state.secrets.upstream.value = some secret ∧
      secret.bytes = state.secrets.upstream.value :=
  HeaderValue.fromBytes?_isSome_of_visible fun _ hb => Secret.isVisibleAscii_of_mem_value hb

/-! ## Stripping and rewriting -/

theorem stripRequestHeaders_getAll (headers : HeaderMap) (connectionTokens : List Bytes)
    (name : HeaderName) :
    (stripRequestHeaders headers connectionTokens).getAll name =
      if name ∈ strippedRequestHeaders ∨ name ∈ connectionTokens ∨ isForwardingHeader name = true
      then [] else headers.getAll name := by
  rw [stripRequestHeaders, Multimap.getAll_removeMany_filter_keys]
  by_cases hforwarding : isForwardingHeader name = true
  · rw [if_pos hforwarding, if_pos (.inr (.inr hforwarding))]
  rw [if_neg hforwarding]
  by_cases htoken : name ∈ connectionTokens
  · rw [Multimap.getAll_removeMany_of_mem _ htoken, if_pos (.inr (.inl htoken))]
  rw [Multimap.getAll_removeMany_of_notMem _ htoken]
  by_cases hstripped : name ∈ strippedRequestHeaders
  · rw [Multimap.getAll_removeMany_of_mem _ hstripped, if_pos (.inl hstripped)]
  · rw [Multimap.getAll_removeMany_of_notMem _ hstripped, if_neg]
    rintro (h | h | h)
    · exact hstripped h
    · exact htoken h
    · exact hforwarding h

theorem rewriteOrigin_getAll_of_ne (headers : HeaderMap) (state : ProxyState) {name : HeaderName}
    (hname : name ≠ Header.origin) : (rewriteOrigin headers state).getAll name =
      headers.getAll name := by
  obtain ⟨origin, horigin, -⟩ := upstreamOrigin_isSome state
  rw [rewriteOrigin, horigin]
  split
  · exact Multimap.getAll_insert_of_ne _ _ hname
  · rfl

theorem rewriteOrigin_origin (headers : HeaderMap) (state : ProxyState) :
    ∀ value ∈ (rewriteOrigin headers state).getAll Header.origin,
      value.bytes = upstreamOrigin state := by
  obtain ⟨origin, horigin, hbytes⟩ := upstreamOrigin_isSome state
  rw [rewriteOrigin, horigin]
  split
  · rw [Multimap.getAll_insert_self]
    intro value hvalue
    rw [List.mem_singleton.mp hvalue, hbytes]
  next habsent =>
    rw [Bool.not_eq_true, Multimap.containsKey_eq_false_iff] at habsent
    rw [habsent]
    simp

/-- The request that a successful normalization builds. -/
theorem normalizeHttpRequest_eq_ok {crates : Crates Url} {request : Request Incoming}
    {raw : RawAdmission} {state : ProxyState} {upstream : Request (ProxyBody Incoming)}
    (hok : normalizeHttpRequest crates request raw state = .ok upstream) :
    ∃ host secret : HeaderValue, host.bytes = state.upstream.toBytes ∧
      secret.bytes = state.secrets.upstream.value ∧
      originFormUri crates request.uri = .ok upstream.uri ∧
      upstream.headers = ((rewriteOrigin (stripRequestHeaders request.headers
        raw.connectionTokens) state).insert Header.host host).insert protectedHeader secret := by
  simp only [normalizeHttpRequest, bind_eq_ok_iff, okOr_eq_ok_iff,
    HeaderValue.fromBytes?_eq_some_iff, pure_eq_ok_iff] at hok
  obtain ⟨uri, huri, host, hhost, secret, hsecret, -, -, rfl⟩ := hok
  exact ⟨host, secret, hhost, hsecret, huri, rfl⟩

/-! ## What holds of the header map sent upstream -/

/-- Fields that are about one connection only. -/
def hopByHopHeaders : List HeaderName :=
  [asBytes "connection", asBytes "proxy-connection", asBytes "keep-alive",
    asBytes "transfer-encoding", asBytes "te", asBytes "trailer", asBytes "upgrade",
    asBytes "proxy-authorization", asBytes "proxy-authenticate"]

/-- `forwarded`, `x-real-ip`, `x-forwarded-*` and `x-original-*`. -/
def IsForwardingName (name : HeaderName) : Prop :=
  name = asBytes "forwarded" ∨ name = asBytes "x-real-ip" ∨
    asBytes "x-forwarded-" <+: name ∨ asBytes "x-original-" <+: name

theorem isForwardingHeader_iff {name : HeaderName} :
    isForwardingHeader name = true ↔ IsForwardingName name := by
  simp only [isForwardingHeader, isForwardingPrefixed, IsForwardingName, Bool.or_eq_true,
    beq_iff_eq, List.isPrefixOf_iff_prefix, or_assoc]

/-- The security properties both kinds of upstream requests share. -/
structure UpstreamHeadersSafe (state : ProxyState) (headers : HeaderMap) : Prop where
  secret : ∃ value, headers.getAll (asBytes "shiny-shared-secret") = [value] ∧
    value.bytes = state.secrets.upstream.value
  host : ∃ value, headers.getAll (asBytes "host") = [value] ∧
    value.bytes = state.upstream.toBytes
  bootstrap : headers.getAll (asBytes "x-rpackit-bootstrap") = []
  cookies : ∀ value ∈ headers.getAll (asBytes "cookie"),
    ∀ segment ∈ value.bytes.splitOn semicolon, ∃ name cookieValue,
      splitOnce equals (trim segment) = some (name, cookieValue) ∧ isReservedName name = false
  forwarding : ∀ name, IsForwardingName name → headers.getAll name = []
  hopByHop : ∀ name ∈ hopByHopHeaders, name ≠ asBytes "connection" → name ≠ asBytes "upgrade" →
    headers.getAll name = []
  origin : ∀ value ∈ headers.getAll (asBytes "origin"),
    value.bytes = asBytes "http://" ++ state.upstream.toBytes

theorem not_isForwardingHeader_of_mem {name : HeaderName}
    (hname : name ∈ [Header.host, protectedHeader, Header.cookie, Header.origin,
      bootstrapHeaderName]) : isForwardingHeader name = false := by
  have hall : ∀ name ∈ [Header.host, protectedHeader, Header.cookie, Header.origin,
      bootstrapHeaderName], isForwardingHeader name = false := by decide
  exact hall name hname

/-- A name that no later insertion touches comes from the stripped map. -/
theorem normalized_getAll {headers : HeaderMap} {state : ProxyState} {host secret : HeaderValue}
    {name : HeaderName} (hhost : name ≠ Header.host) (hsecret : name ≠ protectedHeader)
    (horigin : name ≠ Header.origin) (connectionTokens : List Bytes) :
    (((rewriteOrigin (stripRequestHeaders headers connectionTokens) state).insert Header.host
      host).insert protectedHeader secret).getAll name =
      if name ∈ strippedRequestHeaders ∨ name ∈ connectionTokens ∨ isForwardingHeader name = true
      then [] else headers.getAll name := by
  rw [Multimap.getAll_insert_of_ne _ _ hsecret, Multimap.getAll_insert_of_ne _ _ hhost,
    rewriteOrigin_getAll_of_ne _ _ horigin, stripRequestHeaders_getAll]

theorem normalized_getAll_hopByHop {headers : HeaderMap} {state : ProxyState}
    {host secret : HeaderValue} {name : HeaderName} (hname : name ∈ hopByHopHeaders)
    (connectionTokens : List Bytes) :
    (((rewriteOrigin (stripRequestHeaders headers connectionTokens) state).insert Header.host
      host).insert protectedHeader secret).getAll name = [] := by
  have hall : ∀ name ∈ hopByHopHeaders, name ∈ strippedRequestHeaders ∧ name ≠ Header.host ∧
      name ≠ protectedHeader ∧ name ≠ Header.origin := by decide
  obtain ⟨hstripped, hnotHost, hnotSecret, hnotOrigin⟩ := hall name hname
  rw [normalized_getAll hnotHost hnotSecret hnotOrigin, if_pos (.inl hstripped)]

/-- The names the HTTP path sets or removes for security, apart from those the
client nominates. -/
def IsRewritten (name : HeaderName) : Prop :=
  name ∈ [asBytes "shiny-shared-secret", asBytes "host", asBytes "x-rpackit-bootstrap",
    asBytes "cookie", asBytes "origin"] ∨
  IsForwardingName name ∨ name ∈ hopByHopHeaders

theorem isRewritten_of_stripped {name : HeaderName} (hname : name ∈ strippedRequestHeaders)
    (hlength : name ≠ asBytes "content-length") : IsRewritten name := by
  have hall : ∀ name ∈ strippedRequestHeaders, name ≠ asBytes "content-length" →
      name ∈ [asBytes "shiny-shared-secret", asBytes "host", asBytes "x-rpackit-bootstrap",
        asBytes "cookie", asBytes "origin"] ∨ name ∈ hopByHopHeaders := by
    decide
  exact (hall name hname hlength).imp_right Or.inr

section HttpPath

variable {crates : Crates Url} {request : Request Incoming} {raw : RawAdmission}
  {state : ProxyState} {upstream : Request (ProxyBody Incoming)}

theorem normalizeHttpRequest_safe
    (htokens : ∀ token ∈ raw.connectionTokens, isProtectedConnectionTarget token = false)
    (hauthenticated : (authenticateAndStrip request.headers state.secrets.session).1 = .ok ())
    (hok : normalizeHttpRequest crates (authenticatedRequest request state) raw state =
      .ok upstream) :
    UpstreamHeadersSafe state upstream.headers := by
  obtain ⟨host, secret, hhost, hsecret, -, hheaders⟩ := normalizeHttpRequest_eq_ok hok
  -- admission has refused a client that nominates a protected name
  have hkept : ∀ name, isProtectedConnectionTarget name = true → name ∉ raw.connectionTokens :=
    fun name hprotected hmem => by simp [htokens name hmem] at hprotected
  rw [hheaders]
  constructor
  case secret => exact ⟨secret, Multimap.getAll_insert_self _ _ _, hsecret⟩
  case host =>
    refine ⟨host, ?_, hhost⟩
    change (Multimap.insert _ protectedHeader secret).getAll Header.host = [host]
    rw [Multimap.getAll_insert_of_ne _ _ (by decide), Multimap.getAll_insert_self]
  case bootstrap =>
    change (Multimap.insert _ protectedHeader secret).getAll bootstrapHeaderName = []
    rw [normalized_getAll (by decide) (by decide) (by decide), if_pos (.inl (by decide))]
  case cookies =>
    change ∀ value ∈ (Multimap.insert _ protectedHeader secret).getAll Header.cookie, _
    rw [normalized_getAll (by decide) (by decide) (by decide), if_neg]
    · exact authenticateAndStrip_cookie hauthenticated
    · rintro (hstripped | htoken | hforwarding)
      · exact absurd hstripped (by decide)
      · exact hkept _ (by decide) htoken
      · exact absurd hforwarding (by decide)
  case forwarding =>
    intro name hname
    have hforwarding := isForwardingHeader_iff.mpr hname
    have hne : ∀ other ∈ [Header.host, protectedHeader, Header.cookie, Header.origin,
        bootstrapHeaderName], name ≠ other := by
      rintro other hother rfl
      rw [not_isForwardingHeader_of_mem hother] at hforwarding
      cases hforwarding
    rw [normalized_getAll (hne _ (by decide)) (hne _ (by decide)) (hne _ (by decide)),
      if_pos (.inr (.inr hforwarding))]
  case hopByHop =>
    intro name hname _ _
    exact normalized_getAll_hopByHop hname _
  case origin =>
    change ∀ value ∈ (Multimap.insert _ protectedHeader secret).getAll Header.origin, _
    rw [Multimap.getAll_insert_of_ne _ _ (by decide), Multimap.getAll_insert_of_ne _ _ (by decide)]
    exact rewriteOrigin_origin _ _

/-- Beyond the shared properties, the HTTP path removes the connection fields,
everything the client nominated and the length, since the body is framed anew,
and nothing else. -/
structure HttpHeadersExact (request : Request Incoming) (raw : RawAdmission)
    (headers : HeaderMap) : Prop where
  hopByHop : ∀ name ∈ hopByHopHeaders, headers.getAll name = []
  nominated : ∀ token ∈ raw.connectionTokens, headers.getAll token = []
  contentLength : headers.getAll (asBytes "content-length") = []
  others : ∀ name, ¬IsRewritten name → name ≠ asBytes "content-length" →
    name ∉ raw.connectionTokens → headers.getAll name = request.headers.getAll name

theorem normalizeHttpRequest_exact
    (htokens : ∀ token ∈ raw.connectionTokens, isProtectedConnectionTarget token = false)
    (hauthenticated : (authenticateAndStrip request.headers state.secrets.session).1 = .ok ())
    (hok : normalizeHttpRequest crates (authenticatedRequest request state) raw state =
      .ok upstream) :
    HttpHeadersExact request raw upstream.headers := by
  obtain ⟨host, secret, -, -, -, hheaders⟩ := normalizeHttpRequest_eq_ok hok
  rw [hheaders]
  constructor
  case hopByHop =>
    intro name hname
    exact normalized_getAll_hopByHop hname _
  case nominated =>
    intro token htoken
    -- none of the names that are inserted later can be nominated
    have hne : ∀ other, isProtectedConnectionTarget other = true → token ≠ other := by
      rintro other hprotected rfl
      simp [htokens token htoken] at hprotected
    rw [normalized_getAll (hne _ (by decide)) (hne _ (by decide)) (hne _ (by decide)),
      if_pos (.inr (.inl htoken))]
  case contentLength =>
    change (Multimap.insert _ protectedHeader secret).getAll Header.contentLength = []
    rw [normalized_getAll (by decide) (by decide) (by decide), if_pos (.inl (by decide))]
  case others =>
    intro name hrewritten hlength hnominated
    have hne : ∀ other ∈ [asBytes "shiny-shared-secret", asBytes "host",
        asBytes "x-rpackit-bootstrap", asBytes "cookie", asBytes "origin"], name ≠ other := by
      rintro other hother rfl
      exact hrewritten (.inl hother)
    rw [normalized_getAll (hne _ (by decide)) (hne _ (by decide)) (hne _ (by decide)), if_neg]
    · exact authenticateAndStrip_getAll_of_ne (hne _ (by decide)) hauthenticated
    · rintro (hstripped | htoken | hforwarding)
      · exact hrewritten (isRewritten_of_stripped hstripped hlength)
      · exact hnominated htoken
      · exact hrewritten (.inr (.inl (isForwardingHeader_iff.mp hforwarding)))

end HttpPath

/-! ## The WebSocket path -/

theorem fixedUpgradeHeaders_getAll_of_notMem {host key origin : HeaderValue} {name : HeaderName}
    (hname : name ∉ [Header.host, Header.connection, Header.upgrade, Header.secWebsocketVersion,
      Header.secWebsocketKey, Header.origin]) :
    (fixedUpgradeHeaders host key origin).getAll name = [] := by
  simp only [List.mem_cons, List.not_mem_nil, or_false, not_or] at hname
  obtain ⟨hhost, hconnection, hupgrade, hversion, hkey, horigin⟩ := hname
  simp only [fixedUpgradeHeaders, Multimap.getAll_insert_of_ne _ _ horigin,
    Multimap.getAll_insert_of_ne _ _ hkey, Multimap.getAll_insert_of_ne _ _ hversion,
    Multimap.getAll_insert_of_ne _ _ hupgrade, Multimap.getAll_insert_of_ne _ _ hconnection,
    Multimap.getAll_insert_of_ne _ _ hhost, Multimap.getAll_empty]

/-- The fixed pair that asks for the upgrade. -/
structure CarriesUpgradePair (headers : HeaderMap) : Prop where
  connection : (headers.getAll (asBytes "connection")).map HeaderValue.bytes = [asBytes "Upgrade"]
  upgrade : (headers.getAll (asBytes "upgrade")).map HeaderValue.bytes = [asBytes "websocket"]

theorem buildUpstreamWebsocketRequest_safe {crates : Crates Url} {request : Request Incoming}
    {state : ProxyState} {expectedOrigin : Bytes} {offer : WebSocketOffer}
    {upstream : Request (ProxyBody Incoming)}
    (hauthenticated : (authenticateAndStrip request.headers state.secrets.session).1 = .ok ())
    (hoffer : validateWebsocketRequest crates (authenticatedRequest request state) expectedOrigin =
      .ok offer)
    (hok : buildUpstreamWebsocketRequest offer state = .ok upstream) :
    UpstreamHeadersSafe state upstream.headers ∧ CarriesUpgradePair upstream.headers := by
  obtain ⟨host, origin, secret, hhost, horigin, hsecret, -, hsecrets, hcookies, hothers⟩ :=
    buildUpstreamWebsocketRequest_getAll hok
  obtain ⟨-, hcookie⟩ := validateWebsocketRequest_offer hoffer
  -- every other name is that of no header of the upgrade request
  have hfixed : ∀ name, name ∉ [protectedHeader, Header.cookie, Header.secWebsocketProtocol] →
      name ∉ [Header.host, Header.connection, Header.upgrade, Header.secWebsocketVersion,
        Header.secWebsocketKey, Header.origin] → upstream.headers.getAll name = [] :=
    fun name hnot hname => by rw [hothers name hnot, fixedUpgradeHeaders_getAll_of_notMem hname]
  refine ⟨?_, ?_, ?_⟩
  · constructor
    case secret => exact ⟨secret, hsecrets, hsecret⟩
    case host =>
      refine ⟨host, ?_, hhost⟩
      change upstream.headers.getAll Header.host = [host]
      rw [hothers _ (by decide)]
      simp (disch := decide) only [fixedUpgradeHeaders, Multimap.getAll_insert_of_ne,
        Multimap.getAll_insert_self]
    case bootstrap => exact hfixed bootstrapHeaderName (by decide) (by decide)
    case cookies =>
      intro value hvalue
      apply authenticateAndStrip_cookie hauthenticated value
      change value ∈ upstream.headers.getAll Header.cookie at hvalue
      rw [hcookies, hcookie, Option.mem_toList] at hvalue
      exact List.mem_of_head? hvalue
    case forwarding =>
      intro name hname
      have hforwarding := isForwardingHeader_iff.mpr hname
      have hall : ∀ other ∈ [protectedHeader, Header.cookie, Header.secWebsocketProtocol] ++
          [Header.host, Header.connection, Header.upgrade, Header.secWebsocketVersion,
            Header.secWebsocketKey, Header.origin], isForwardingHeader other = false := by decide
      have hnot : ∀ other, isForwardingHeader other = false → name ≠ other := by
        rintro other hother rfl
        rw [hother] at hforwarding
        cases hforwarding
      refine hfixed name (fun hmem => ?_) fun hmem => ?_
      · exact hnot name (hall name (List.mem_append_left _ hmem)) rfl
      · exact hnot name (hall name (List.mem_append_right _ hmem)) rfl
    case hopByHop =>
      intro name hname hconnection hupgrade
      have hall : ∀ name ∈ hopByHopHeaders, name ≠ asBytes "connection" →
          name ≠ asBytes "upgrade" →
          name ∉ [protectedHeader, Header.cookie, Header.secWebsocketProtocol] ∧
          name ∉ [Header.host, Header.connection, Header.upgrade, Header.secWebsocketVersion,
            Header.secWebsocketKey, Header.origin] := by decide
      obtain ⟨hnot, hnotFixed⟩ := hall name hname hconnection hupgrade
      exact hfixed name hnot hnotFixed
    case origin =>
      change ∀ value ∈ upstream.headers.getAll Header.origin, _
      rw [hothers _ (by decide)]
      simp only [fixedUpgradeHeaders, Multimap.getAll_insert_self, List.mem_singleton]
      rintro value rfl
      exact horigin
  · change (upstream.headers.getAll Header.connection).map _ = _
    rw [hothers _ (by decide)]
    simp (disch := decide) only [fixedUpgradeHeaders, Multimap.getAll_insert_of_ne,
      Multimap.getAll_insert_self]
    rfl
  · change (upstream.headers.getAll Header.upgrade).map _ = _
    rw [hothers _ (by decide)]
    simp (disch := decide) only [fixedUpgradeHeaders, Multimap.getAll_insert_of_ne,
      Multimap.getAll_insert_self]
    rfl

/-! ## Path and query -/

/-- What the `http` crate documents of `Uri`: a text that starts with a slash is
an origin form, and the text of an origin form parses back to it. -/
structure UriRoundTrips (crates : Crates Url) : Prop where
  originForm : ∀ text uri, text.head? = some slash → crates.uriFromStr text = some uri →
    uri.authority = none → ∃ target, uri.pathAndQuery = some target
  roundTrip : ∀ text uri target, crates.uriFromStr text = some uri → uri.authority = none →
    uri.pathAndQuery = some target → crates.uriFromStr target.asStr = some uri

/-- The request has the target that was read from the admitted head. -/
def HasAdmittedTarget (crates : Crates Url) (bytes : Bytes) (limits : TransportLimits)
    (request : Request Incoming) : Prop :=
  ∀ stop head target, headerEnd bytes = some stop →
    crates.parseRequest (bytes.take stop) limits.maxHeaders = some (.complete head) →
    head.path = some target → crates.uriFromStr target = some request.uri

theorem originFormUri_admitted {crates : Crates Url} {bytes expectedAuthority : Bytes}
    {limits : TransportLimits} {raw : RawAdmission} {request : Request Incoming}
    (hcrate : UriRoundTrips crates)
    (hadmitted : validate crates bytes expectedAuthority limits = .ok raw)
    (htarget : HasAdmittedTarget crates bytes limits request) :
    originFormUri crates request.uri = .ok request.uri := by
  obtain ⟨stop, head, target, hstop, hparse, hpath, hvalid⟩ := validate_target crates hadmitted
  have huri : crates.uriFromStr target = some request.uri := htarget stop head target hstop hparse
    hpath
  simp only [validateTarget, bind_eq_ok_iff, rejectIf_eq_ok_iff, okOr_eq_ok_iff,
    Bool.or_eq_false_iff, bne_eq_false_iff_eq, huri] at hvalid
  obtain ⟨-, ⟨⟨hslash, -⟩, -⟩, uri, hsame, hauthority⟩ := hvalid
  cases hsame
  rw [Option.isSome_eq_false_iff, Option.isNone_iff_eq_none] at hauthority
  obtain ⟨pathAndQuery, hsome⟩ := hcrate.originForm target _ hslash huri hauthority
  simp only [originFormUri, hsome]
  rw [hcrate.roundTrip target _ pathAndQuery huri hauthority hsome]
  rfl

theorem normalizeHttpRequest_isOk {crates : Crates Url} {request : Request Incoming} {uri : Uri}
    (raw : RawAdmission) (state : ProxyState)
    (huri : originFormUri crates request.uri = .ok uri) :
    ∃ upstream, normalizeHttpRequest crates request raw state = .ok upstream ∧
      upstream.uri = uri := by
  obtain ⟨host, hhost, -⟩ := upstreamHost_isSome state
  obtain ⟨secret, hsecret, -⟩ := upstreamSecret_isSome state
  simp only [normalizeHttpRequest, huri, hhost, hsecret, ok_bind, okOr_some,
    Multimap.getAll_insert_self, List.length_singleton, bne_self_eq_false, rejectIf_false]
  exact ⟨_, rfl, rfl⟩

/-- For every admitted and authenticated request, whatever its header map and its
nominations, the header map sent upstream is safe, and on the HTTP path exact. -/
theorem upstream_request_safe {crates : Crates Url} {bytes : Bytes} {state : ProxyState}
    {raw : RawAdmission} {request : Request Incoming} (hcrate : UriRoundTrips crates)
    (hadmitted : validate crates bytes state.expectedAuthority state.limits = .ok raw)
    (htarget : HasAdmittedTarget crates bytes state.limits request)
    (hauthenticated : (authenticateAndStrip request.headers state.secrets.session).1 = .ok ()) :
    (∃ upstream,
      normalizeHttpRequest crates (authenticatedRequest request state) raw state = .ok upstream ∧
        UpstreamHeadersSafe state upstream.headers ∧
        HttpHeadersExact request raw upstream.headers ∧
        upstream.uri.path = request.uri.path ∧ upstream.uri.query = request.uri.query) ∧
    ∀ offer, ∀ upstream : Request (ProxyBody Incoming),
      validateWebsocketRequest crates (authenticatedRequest request state) state.expectedOrigin =
        .ok offer →
      buildUpstreamWebsocketRequest offer state = .ok upstream →
        UpstreamHeadersSafe state upstream.headers ∧ CarriesUpgradePair upstream.headers := by
  constructor
  · have huri := originFormUri_admitted hcrate hadmitted htarget
    have htokens := validate_tokens_unprotected crates hadmitted
    have hstripped : originFormUri crates (authenticatedRequest request state).uri =
        .ok request.uri := huri
    obtain ⟨upstream, hok, hsame⟩ := normalizeHttpRequest_isOk raw state hstripped
    exact ⟨upstream, hok, normalizeHttpRequest_safe htokens hauthenticated hok,
      normalizeHttpRequest_exact htokens hauthenticated hok, by rw [hsame], by rw [hsame]⟩
  · intro offer upstream hoffer hok
    exact buildUpstreamWebsocketRequest_safe hauthenticated hoffer hok

/-! ## An upload -/

section Upload

def uploadState : ProxyState := .fixture 17 49152 49153

def uploadHeaders : List (Bytes × Bytes) :=
  [(asBytes "Host", uploadState.expectedAuthority),
    (asBytes "Origin", uploadState.expectedOrigin),
    (asBytes "Cookie", sessionPair uploadState.secrets.session ++ asBytes "; theme=dark"),
    (asBytes "Content-Length", asBytes "2")]

/-- The head of an authenticated upload of two bytes. -/
def uploadHead : Bytes :=
  asBytes "POST /upload?kind=csv HTTP/1.1" ++ crlf ++
    (uploadHeaders.flatMap fun header => header.1 ++ asBytes ": " ++ header.2 ++ crlf) ++ crlf

/-- The parsers on the upload: the parsed head as a table, the origin form as the
text around the first question mark. -/
def uploadCrates : Crates Unit :=
  { Crates.unavailable with
    parseRequest := fun text _ =>
      if text = uploadHead then
        some (.complete ⟨text.length, some 1, some (asBytes "POST"),
          some (asBytes "/upload?kind=csv"), uploadHeaders⟩)
      else none
    headerNameFromBytes := fun name => some (lowercase name)
    uriFromStr := fun text =>
      if text.head? = some slash then
        match splitOnce 0x3F text with
        | none => some ⟨none, some ⟨text, none⟩⟩
        | some (path, query) => some ⟨none, some ⟨path, some query⟩⟩
      else none }

def uploadRequest : Request Unit where
  method := asBytes "POST"
  uri := ⟨none, some ⟨asBytes "/upload", some (asBytes "kind=csv")⟩⟩
  version := .http11
  headers := ⟨[(Header.host, ⟨uploadState.expectedAuthority, by decide⟩),
    (Header.origin, ⟨uploadState.expectedOrigin, by decide⟩),
    (Header.cookie, ⟨sessionPair uploadState.secrets.session ++ asBytes "; theme=dark",
      by decide⟩),
    (Header.contentLength, .fromStatic "2" (by decide))]⟩
  body := ()

theorem uploadCrates_uriRoundTrips : UriRoundTrips uploadCrates := by
  have hparse : ∀ text uri, uploadCrates.uriFromStr text = some uri →
      text.head? = some slash ∧ ((splitOnce 0x3F text = none ∧ uri = ⟨none, some ⟨text, none⟩⟩) ∨
        ∃ path query, splitOnce 0x3F text = some (path, query) ∧
          uri = ⟨none, some ⟨path, some query⟩⟩) := by
    intro text uri huri
    change (if text.head? = some slash then _ else none) = some uri at huri
    split at huri
    next hslash =>
      refine ⟨hslash, ?_⟩
      split at huri
      next hnone =>
        cases huri
        exact .inl ⟨hnone, rfl⟩
      next path query hsome =>
        cases huri
        exact .inr ⟨path, query, hsome, rfl⟩
    · cases huri
  constructor
  case originForm =>
    intro text uri _ huri _
    obtain ⟨-, ⟨-, rfl⟩ | ⟨path, query, -, rfl⟩⟩ := hparse text uri huri
    · exact ⟨_, rfl⟩
    · exact ⟨_, rfl⟩
  case roundTrip =>
    intro text uri target huri _ htarget
    obtain ⟨hslash, hshape⟩ := hparse text uri huri
    have hnonempty : text ≠ [] := by
      rintro rfl
      cases hslash
    -- the text of the parsed target is the text itself
    have hsame : target.asStr = text := by
      rcases hshape with ⟨-, rfl⟩ | ⟨path, query, hsplit, rfl⟩
      · cases htarget
        exact if_neg hnonempty
      · cases htarget
        obtain ⟨rfl, -⟩ := splitOnce_eq_some_iff.mp hsplit
        exact if_neg hnonempty
    rw [hsame, huri]

theorem uploadHead_admitted :
    validate uploadCrates uploadHead uploadState.expectedAuthority uploadState.limits =
      .ok ⟨[], false⟩ := by
  decide +kernel

theorem uploadHead_target : HasAdmittedTarget uploadCrates uploadHead uploadState.limits
    uploadRequest := by
  intro stop head target _ hparse hpath
  change (if uploadHead.take stop = uploadHead then _ else none) = _ at hparse
  split at hparse
  · cases hparse
    cases hpath
    decide
  · cases hparse

theorem uploadRequest_authenticated :
    (authenticateAndStrip uploadRequest.headers uploadState.secrets.session).1 = .ok () := by
  decide +kernel

/-- The upload goes upstream safely, with the application cookie and without the
session cookie. -/
theorem upstream_request_safe_upload :
    ∃ upstream, normalizeHttpRequest uploadCrates (authenticatedRequest uploadRequest uploadState)
        ⟨[], false⟩ uploadState = .ok upstream ∧
      UpstreamHeadersSafe uploadState upstream.headers ∧
      HttpHeadersExact uploadRequest ⟨[], false⟩ upstream.headers ∧
      upstream.uri.path = uploadRequest.uri.path ∧
      upstream.uri.query = uploadRequest.uri.query :=
  (upstream_request_safe uploadCrates_uriRoundTrips uploadHead_admitted uploadHead_target
    uploadRequest_authenticated).1

/-- The length of the upload is removed although nothing above names it. -/
theorem upload_content_length_not_kept :
    validate uploadCrates uploadHead uploadState.expectedAuthority uploadState.limits =
      .ok ⟨[], false⟩ ∧
    HasAdmittedTarget uploadCrates uploadHead uploadState.limits uploadRequest ∧
    (authenticateAndStrip uploadRequest.headers uploadState.secrets.session).1 = .ok () ∧
    ∃ upstream, normalizeHttpRequest uploadCrates (authenticatedRequest uploadRequest uploadState)
        ⟨[], false⟩ uploadState = .ok upstream ∧
      ¬∀ name, ¬IsRewritten name → name ∉ (⟨[], false⟩ : RawAdmission).connectionTokens →
        upstream.headers.getAll name = uploadRequest.headers.getAll name := by
  refine ⟨uploadHead_admitted, uploadHead_target, uploadRequest_authenticated, ?_⟩
  have huri : originFormUri uploadCrates (authenticatedRequest uploadRequest uploadState).uri =
      .ok uploadRequest.uri :=
    originFormUri_admitted uploadCrates_uriRoundTrips uploadHead_admitted uploadHead_target
  obtain ⟨upstream, hok, -⟩ := normalizeHttpRequest_isOk ⟨[], false⟩ uploadState huri
  have hexact := normalizeHttpRequest_exact (by simp) uploadRequest_authenticated hok
  refine ⟨upstream, hok, fun hkept => ?_⟩
  have hrewritten : ¬IsRewritten (asBytes "content-length") := by
    rw [IsRewritten, IsForwardingName]
    decide
  have hlength := hkept (asBytes "content-length") hrewritten (by simp)
  rw [hexact.contentLength] at hlength
  exact absurd hlength (by decide)

end Upload

end Rpackit.Transport
