import Rpackit.Transport.Proxy.Response

/-! # What a normalized head may carry

Whatever the upstream sends, the head that goes downstream has lost the secrets, the
hop-by-hop and nominated fields and every cookie or redirect that leaves the proxy
origin. A decoded body takes the fields of its encoded form with it. Nothing else
is touched.
-/

namespace Rpackit.Transport

open Text Fallible

variable {Incoming Url : Type}

/-! ## Fields of the upstream head -/

/-- The `Connection` field names the other one. -/
def Nominates (headers : HeaderMap) (name : HeaderName) : Prop :=
  ∃ value ∈ headers.getAll Header.connection,
    ∃ token ∈ value.bytes.splitOn comma, lowercase (trim token) = name

/-- Every content coding is `identity`. -/
def IdentityOnly (headers : HeaderMap) : Prop :=
  ∀ value ∈ headers.getAll Header.contentEncoding,
    ∀ token ∈ value.bytes.splitOn comma, lowercase (trim token) = asBytes "identity"

/-- Fields of a response that are about one connection only. -/
def hopByHopResponseHeaders : List HeaderName :=
  [Header.connection, asBytes "proxy-connection", asBytes "keep-alive", Header.transferEncoding,
    asBytes "te", Header.trailer, Header.upgrade, asBytes "proxy-authenticate"]

/-- A `Set-Cookie` text as a browser reads it: its name is not reserved and it has no
domain attribute. -/
def SafeSetCookie (text : Bytes) : Prop :=
  ∃ name value parts, (text.splitOn semicolon).map trim = (name ++ equals :: value) :: parts ∧
    equals ∉ name ∧ isReservedName name = false ∧ ∀ part ∈ parts, isDomainAttribute part = false

theorem mem_nominated_iff {headers : HeaderMap} {nominated : List HeaderName} {name : HeaderName}
    (hok : nominatedResponseHeaders headers = .ok nominated) :
    name ∈ nominated ↔ Nominates headers name := by
  unfold nominatedResponseHeaders at hok
  split at hok
  next hnone =>
    cases hok
    simp [Nominates, hnone]
  next value hvalue =>
    simp only [okOr_bind_eq_ok_iff, HeaderValue.toStr?_eq_some_iff] at hok
    obtain ⟨text, ⟨rfl, -⟩, htokens⟩ := hok
    have hlower : ∀ token name, nominatedToken token = .ok name →
      name = lowercase (trim token) := by
      intro token name htoken
      simp only [nominatedToken, rejectIf_bind_eq_ok_iff, pure_eq_ok_iff] at htoken
      exact htoken.2
    simp only [Nominates, hvalue, List.mem_singleton, exists_eq_left]
    constructor
    · intro hname
      obtain ⟨token, hmem, htoken⟩ := exists_of_mem_mapM htokens hname
      exact ⟨token, hmem, (hlower token name htoken).symm⟩
    · rintro ⟨token, hmem, rfl⟩
      obtain ⟨nominee, hnominee, htoken⟩ := exists_mem_of_mem_mapM htokens hmem
      rwa [← hlower token nominee htoken]
  · cases hok

/-- Only the listed and the nominated fields are stripped. -/
theorem stripResponseHeaders_getAll_of_ne {headers stripped : HeaderMap} {name : HeaderName}
    (hlisted : name ∉ strippedResponseHeaders) (hnominated : ¬Nominates headers name)
    (hok : stripResponseHeaders headers = .ok stripped) :
    stripped.getAll name = headers.getAll name := by
  simp only [stripResponseHeaders, bind_eq_ok_iff, pure_eq_ok_iff] at hok
  obtain ⟨nominated, hnominees, rfl⟩ := hok
  rw [← mem_nominated_iff hnominees] at hnominated
  rw [Multimap.getAll_removeMany_of_notMem _ hnominated,
    Multimap.getAll_removeMany_of_notMem _ hlisted]

theorem stripResponseHeaders_getAll_eq_nil {headers stripped : HeaderMap} {name : HeaderName}
    (hremoved : name ∈ strippedResponseHeaders ∨ Nominates headers name)
    (hok : stripResponseHeaders headers = .ok stripped) : stripped.getAll name = [] := by
  simp only [stripResponseHeaders, bind_eq_ok_iff, pure_eq_ok_iff] at hok
  obtain ⟨nominated, hnominees, rfl⟩ := hok
  rcases hremoved with hlisted | hnominated
  · exact Multimap.getAll_removeMany_of_nil _ _ (Multimap.getAll_removeMany_of_mem _ hlisted)
  · exact Multimap.getAll_removeMany_of_mem _ ((mem_nominated_iff hnominees).mpr hnominated)

/-! ## Cookies and redirects -/

theorem safeSetCookie_of_ok {value normalized : HeaderValue} {upstreamHost : Bytes}
    (hok : normalizeSetCookie value upstreamHost = .ok normalized) :
    SafeSetCookie normalized.bytes := by
  obtain ⟨accepted, hdomain⟩ := exists_acceptedSetCookie hok
  refine ⟨accepted.name, accepted.value, accepted.attributes, ?_,
    not_mem_of_isTokenByte accepted.nameToken (by decide), accepted.unreserved, hdomain⟩
  have htrimmed : ∀ part ∈ (accepted.name ++ equals :: accepted.value) :: accepted.attributes,
      trim part = part :=
    List.forall_mem_cons.mpr ⟨accepted.pairTrimmed, accepted.attributesTrimmed⟩
  have hparts := map_trim_splitOn_cookies (List.cons_ne_nil _ _) accepted.noSemicolon
  rw [← accepted.rebuilt] at hparts
  exact hparts.trans ((List.map_congr_left htrimmed).trans (List.map_id _))

theorem safe_of_normalizeSetCookieHeaders {headers normalized : HeaderMap} {upstreamHost : Bytes}
    (hok : normalizeSetCookieHeaders headers upstreamHost = .ok normalized) :
    ∀ value ∈ normalized.getAll Header.setCookie, SafeSetCookie value.bytes := by
  intro value hvalue
  obtain ⟨source, -, hsource⟩ := exists_of_mem_mapM (normalizeSetCookieHeaders_getAll hok) hvalue
  exact safeSetCookie_of_ok hsource

/-- No field appears that was absent. -/
theorem normalizeSetCookieHeaders_getAll_eq_nil {headers normalized : HeaderMap}
    {upstreamHost : Bytes} {name : HeaderName} (hnone : headers.getAll name = [])
    (hok : normalizeSetCookieHeaders headers upstreamHost = .ok normalized) :
    normalized.getAll name = [] := by
  by_cases hname : name = Header.setCookie
  · subst hname
    have hvalues := normalizeSetCookieHeaders_getAll hok
    rw [hnone] at hvalues
    exact pure_eq_ok_iff.mp hvalues
  · rwa [normalizeSetCookieHeaders_getAll_of_ne hname hok]

/-- A redirect is kept or replaced by one. -/
theorem rewriteLocation_getAll_location {crates : Crates Url} {headers located : HeaderMap}
    {state : ProxyState} (hok : rewriteLocation crates headers state = .ok located) :
    (located.getAll Header.location).length = (headers.getAll Header.location).length ∧
      (headers.getAll Header.location).length ≤ 1 := by
  unfold rewriteLocation at hok
  split at hok
  next hnone =>
    cases hok
    simp [hnone]
  next value hvalue =>
    simp only [okOr_bind_eq_ok_iff] at hok
    obtain ⟨text, -, hok⟩ := hok
    split at hok
    · obtain ⟨-, rfl⟩ := rejectIf_bind_eq_ok_iff.mp hok |>.imp_right pure_eq_ok_iff.mp
      simp [hvalue]
    · split at hok
      · simp only [okOr_bind_eq_ok_iff, pure_eq_ok_iff] at hok
        obtain ⟨hosted, -, ported, -, rewritten, -, rfl⟩ := hok
        simp [hvalue]
      · cases hok
        simp [hvalue]
  · cases hok

theorem rewriteLocation_getAll_eq_nil {crates : Crates Url} {headers located : HeaderMap}
    {state : ProxyState} {name : HeaderName} (hnone : headers.getAll name = [])
    (hok : rewriteLocation crates headers state = .ok located) : located.getAll name = [] := by
  by_cases hname : name = Header.location
  · subst hname
    have hlength := (rewriteLocation_getAll_location hok).1
    rw [hnone] at hlength
    exact List.length_eq_zero_iff.mp hlength
  · rwa [rewriteLocation_getAll_of_ne hname hok]

/-! ## Content codings -/

theorem pushContentCoding_eq_nil {maxLayers : Nat} {codings : List ContentCoding} {token : Bytes}
    (hok : pushContentCoding maxLayers codings token = .ok []) :
    codings = [] ∧ lowercase (trim token) = asBytes "identity" := by
  simp only [pushContentCoding, rejectIf_bind_eq_ok_iff] at hok
  obtain ⟨-, hok⟩ := hok
  split at hok
  next hidentity => exact ⟨(pure_eq_ok_iff.mp hok).symm, hidentity⟩
  · simp only [okOr_bind_eq_ok_iff, rejectIf_bind_eq_ok_iff, pure_eq_ok_iff] at hok
    obtain ⟨coding, -, -, hpushed⟩ := hok
    exact absurd hpushed.symm (by simp)

theorem identityOnly_of_parse {headers : HeaderMap} {maxLayers : Nat}
    (hok : parseContentCodings headers maxLayers = .ok []) : IdentityOnly headers := by
  refine (foldlM_eq_ok_nil ?_ hok).2
  intro codings value hvalue
  simp only [okOr_bind_eq_ok_iff, HeaderValue.toStr?_eq_some_iff] at hvalue
  obtain ⟨text, ⟨rfl, -⟩, htokens⟩ := hvalue
  refine foldlM_eq_ok_nil ?_ htokens
  intro codings token
  exact pushContentCoding_eq_nil

/-- A response whose body may be decoded is whole and may be transformed. -/
theorem transformable_of_ok {status : Nat} {headers : HeaderMap}
    (hok : validateDecodedResponseTransform status headers = .ok ()) :
    status ≠ Status.partialContent ∧ headers.getAll Header.contentRange = [] ∧
      ∀ value ∈ headers.getAll Header.cacheControl, forbidsTransform value.bytes = false := by
  simp only [validateDecodedResponseTransform, rejectIf_bind_eq_ok_iff, Bool.or_eq_false_iff,
    beq_eq_false_iff_ne, Multimap.containsKey_eq_false_iff] at hok
  obtain ⟨⟨hstatus, hrange⟩, hcache⟩ := hok
  refine ⟨hstatus, hrange, fun value hvalue => ?_⟩
  have hchecked := forM_eq_ok_iff.mp hcache value hvalue
  simp only [okOr_bind_eq_ok_iff, rejectIf_eq_ok_iff, HeaderValue.toStr?_eq_some_iff] at hchecked
  obtain ⟨text, ⟨rfl, -⟩, hallowed⟩ := hchecked
  exact hallowed

/-! ## The downstream head -/

/-- The body goes downstream without its content codings. -/
def ProxyBody.isDecoded : ProxyBody Incoming → Bool
  | .decoded _ _ _ => true
  | _ => false

/-- A field that normalization has no reason to touch. -/
structure Untouched (upstream : HeaderMap) (isDecoded : Bool) (name : HeaderName) : Prop where
  notStripped : name ∉ strippedResponseHeaders
  notNominated : ¬Nominates upstream name
  notSetCookie : name ≠ Header.setCookie
  notLocation : name ≠ Header.location
  notDecoded : isDecoded = true → name ∉ decodedRepresentationHeaders
  notIdentity : name = Header.contentEncoding → ¬IdentityOnly upstream

structure NormalizedHead (upstream : Response Incoming)
    (downstream : Response (ProxyBody Incoming)) : Prop where
  noSecret : downstream.headers.getAll protectedHeader = []
  noBootstrap : downstream.headers.getAll bootstrapHeaderName = []
  close : downstream.headers.getAll Header.connection = [connectionClose]
  hopByHop : ∀ name ∈ hopByHopResponseHeaders, name ≠ Header.connection →
    downstream.headers.getAll name = []
  nominated : ∀ name, Nominates upstream.headers name → name ≠ Header.connection →
    downstream.headers.getAll name = []
  setCookie : ∀ value ∈ downstream.headers.getAll Header.setCookie, SafeSetCookie value.bytes
  location : (downstream.headers.getAll Header.location).length ≤ 1
  decoded : downstream.body.isDecoded = true →
    (∀ name ∈ decodedRepresentationHeaders, downstream.headers.getAll name = []) ∧
      upstream.status ≠ Status.partialContent ∧
      upstream.headers.getAll Header.contentRange = [] ∧
      ∀ value ∈ upstream.headers.getAll Header.cacheControl, forbidsTransform value.bytes = false
  kept : ∀ name, Untouched upstream.headers downstream.body.isDecoded name →
    downstream.headers.getAll name = upstream.headers.getAll name

section Steps

variable {crates : Crates Url} {response : Response Incoming} {requestMethod : Method}
  {state : ProxyState} {downstream : Response (ProxyBody Incoming)}

theorem attachBody_getAll_eq_nil {body : Incoming} {policy : ResponseBodyPolicy}
    {codings : List ContentCoding} {headers : HeaderMap} {limits : TransportLimits}
    {name : HeaderName} (hnone : headers.getAll name = []) :
    (attachBody body policy codings headers limits).1.getAll name = [] := by
  unfold attachBody
  split
  · split
    · exact Multimap.getAll_removeMany_of_nil headers [Header.contentEncoding] hnone
    · exact Multimap.getAll_removeMany_of_nil headers _ hnone
  · exact hnone

/-- The body is decoded if it streams with a coding. -/
theorem attachBody_isDecoded_iff {body : Incoming} {policy : ResponseBodyPolicy}
    {codings : List ContentCoding} {headers : HeaderMap} {limits : TransportLimits} :
    (attachBody body policy codings headers limits).2.isDecoded = true ↔
      isStreaming policy = true ∧ codings ≠ [] := by
  cases policy with
  | streaming declaredLength =>
      by_cases hcodings : codings = []
      · simp [attachBody, hcodings, ProxyBody.isDecoded]
      · simp [attachBody, hcodings, ProxyBody.isDecoded, isStreaming]
  | forbidden advertisedLength => simp [attachBody, ProxyBody.isDecoded, isStreaming]

theorem attachBody_getAll_decoded {body : Incoming} {policy : ResponseBodyPolicy}
    {codings : List ContentCoding} {headers : HeaderMap} {limits : TransportLimits}
    {name : HeaderName}
    (hdecoded : (attachBody body policy codings headers limits).2.isDecoded = true)
    (hname : name ∈ decodedRepresentationHeaders) :
    (attachBody body policy codings headers limits).1.getAll name = [] := by
  obtain ⟨hstreaming, hcodings⟩ := attachBody_isDecoded_iff.mp hdecoded
  cases policy with
  | streaming declaredLength =>
      simp only [attachBody, if_neg hcodings]
      exact Multimap.getAll_removeMany_of_mem _ hname
  | forbidden advertisedLength => cases hstreaming

/-- A body that is not decoded loses at most an identity coding. -/
theorem attachBody_getAll_of_ne {body : Incoming} {policy : ResponseBodyPolicy}
    {codings : List ContentCoding} {headers : HeaderMap} {limits : TransportLimits}
    {name : HeaderName} (hname : name = Header.contentEncoding → codings ≠ [])
    (hdecoded : (attachBody body policy codings headers limits).2.isDecoded = true →
      name ∉ decodedRepresentationHeaders) :
    (attachBody body policy codings headers limits).1.getAll name = headers.getAll name := by
  cases policy with
  | streaming declaredLength =>
      by_cases hcodings : codings = []
      · simp only [attachBody, if_pos hcodings]
        exact Multimap.getAll_remove_of_ne _ fun heq => hname heq hcodings
      · exact attachBody_getAll (hdecoded (attachBody_isDecoded_iff.mpr ⟨rfl, hcodings⟩))
  | forbidden advertisedLength => rfl

/-- A field that was stripped stays away. -/
theorem ResponseSteps.getAll_eq_nil
    (steps : ResponseSteps crates response requestMethod state downstream) {name : HeaderName}
    (hname : name ≠ Header.connection)
    (hremoved : name ∈ strippedResponseHeaders ∨ Nominates response.headers name) :
    downstream.headers.getAll name = [] := by
  have hclosing : (steps.stripped.insert Header.connection connectionClose).getAll name = [] := by
    rw [Multimap.getAll_insert_of_ne _ _ hname]
    exact stripResponseHeaders_getAll_eq_nil hremoved steps.strip
  have hcookies := normalizeSetCookieHeaders_getAll_eq_nil hclosing steps.cookie
  have hlocated := rewriteLocation_getAll_eq_nil hcookies steps.locate
  have hheaders := congrArg Response.headers steps.result
  rw [hheaders]
  exact attachBody_getAll_eq_nil hlocated

/-- Whatever the upstream sends, a response that is accepted has a normalized head. -/
theorem normalized_head_safe (crates : Crates Url) (response : Response Incoming)
    (requestMethod : Method) (state : ProxyState) (downstream : Response (ProxyBody Incoming))
    (hok : normalizeHttpResponse crates response requestMethod state = .ok downstream) :
    NormalizedHead response downstream := by
  obtain ⟨steps⟩ := normalizeHttpResponse_steps hok
  have hlistedNames : ∀ name ∈ hopByHopResponseHeaders, name ∈ strippedResponseHeaders := by decide
  have hheaders : downstream.headers = (attachBody response.body steps.policy steps.codings
      steps.located state.limits).1 := congrArg Response.headers steps.result
  have hbody : downstream.body = (attachBody response.body steps.policy steps.codings
      steps.located state.limits).2 := congrArg Response.body steps.result
  refine ⟨?_, ?_, normalizeHttpResponse_connection hok, ?_, ?_, ?_, ?_, ?_, ?_⟩
  · exact steps.getAll_eq_nil (by decide) (.inl (by decide))
  · exact steps.getAll_eq_nil (by decide) (.inl (by decide))
  · exact fun name hmem hname => steps.getAll_eq_nil hname (.inl (hlistedNames name hmem))
  · exact fun name hnominated hname => steps.getAll_eq_nil hname (.inr hnominated)
  · intro value hvalue
    rw [hheaders, attachBody_getAll (by decide),
      rewriteLocation_getAll_of_ne (by decide) steps.locate]
      at hvalue
    exact safe_of_normalizeSetCookieHeaders steps.cookie value hvalue
  · rw [hheaders, attachBody_getAll (by decide), (rewriteLocation_getAll_location steps.locate).1]
    exact (rewriteLocation_getAll_location steps.locate).2
  · intro hdecoded
    rw [hbody] at hdecoded
    obtain ⟨hstreaming, hcodings⟩ := attachBody_isDecoded_iff.mp hdecoded
    refine ⟨fun name hname => ?_, transformable_of_ok (steps.transform hstreaming hcodings)⟩
    rw [hheaders]
    exact attachBody_getAll_decoded hdecoded hname
  · intro name huntouched
    have hconnection : name ≠ Header.connection := by
      rintro rfl
      exact huntouched.notStripped (by decide)
    -- an identity coding is the only one that is taken off without a decoder
    have hidentity : name = Header.contentEncoding → steps.codings ≠ [] := by
      intro hname hnone
      have hparsed := steps.parsed
      rw [hnone] at hparsed
      exact huntouched.notIdentity hname (identityOnly_of_parse hparsed)
    have hdecoded := huntouched.notDecoded
    rw [hbody] at hdecoded
    rw [hheaders, attachBody_getAll_of_ne hidentity hdecoded,
      rewriteLocation_getAll_of_ne huntouched.notLocation steps.locate,
      normalizeSetCookieHeaders_getAll_of_ne huntouched.notSetCookie steps.cookie,
      Multimap.getAll_insert_of_ne _ _ hconnection,
      stripResponseHeaders_getAll_of_ne huntouched.notStripped huntouched.notNominated steps.strip]

end Steps

section Fixture

/-- A compressed page with a nominated field, a redirect and a cookie for the upstream host. -/
def gzipResponse : Response Unit where
  status := Status.ok
  version := .http11
  headers := ⟨[(Header.connection, .fromStatic "keep-alive, X-Trace" (by decide)),
    (asBytes "x-trace", .fromStatic "1" (by decide)),
    (Header.contentEncoding, .fromStatic "gzip" (by decide)),
    (Header.etag, .fromStatic "\"a\"" (by decide)),
    (Header.contentType, .fromStatic "text/html" (by decide)),
    (Header.location, .fromStatic "/next" (by decide)),
    (Header.setCookie, .fromStatic "app=v; Domain=127.0.0.1; HttpOnly" (by decide))]⟩
  body := ()

/-- The page goes downstream with its type, its redirect and a cookie without a domain. -/
theorem normalized_head_safe_gzip :
    ∃ downstream, normalizeHttpResponse Crates.unavailable gzipResponse Method.get
        (ProxyState.fixture 7 8080 8081) = .ok downstream ∧
      downstream.headers = ⟨[(Header.contentType, .fromStatic "text/html" (by decide)),
        (Header.location, .fromStatic "/next" (by decide)),
        (Header.connection, connectionClose),
        (Header.setCookie, .fromStatic "app=v; HttpOnly" (by decide))]⟩ ∧
      downstream.body.isDecoded = true ∧ NormalizedHead gzipResponse downstream := by
  have hok : normalizeHttpResponse Crates.unavailable gzipResponse Method.get
      (ProxyState.fixture 7 8080 8081) = .ok
        { status := Status.ok
          version := .http11
          headers := ⟨[(Header.contentType, .fromStatic "text/html" (by decide)),
            (Header.location, .fromStatic "/next" (by decide)),
            (Header.connection, connectionClose),
            (Header.setCookie, .fromStatic "app=v; HttpOnly" (by decide))]⟩
          body := .decoded (.streaming () none (encodedBodyLimit [.gzip] defaultLimits)
            defaultLimits) [.gzip] defaultLimits.maxDecodedResponseBodyBytes } := by rfl
  exact ⟨_, hok, rfl, rfl, normalized_head_safe _ _ _ _ _ hok⟩

end Fixture

end Rpackit.Transport
