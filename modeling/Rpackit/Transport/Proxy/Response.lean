import Rpackit.Transport.Proxy.Request

/-! # Responses on their way downstream

The upstream head decides the body policy: whether a body may follow, which
length it declares and which codings are undone. The head that goes downstream
carries `Connection: close`, no hop-by-hop field and only cookies and redirects
that stay on the proxy origin.
-/

namespace Rpackit.Transport

open Text Fallible

variable {Incoming Url : Type}

/-! ## Content codings -/

def supportedCoding (lower : Bytes) : Option ContentCoding :=
  if lower = asBytes "gzip" ∨ lower = asBytes "x-gzip" then some .gzip
  else if lower = asBytes "deflate" then some .deflate
  else if lower = asBytes "br" then some .brotli
  else if lower = asBytes "zstd" then some .zstd
  else none

def pushContentCoding (maxLayers : Nat) (codings : List ContentCoding) (token : Bytes) :
    Except BoxError (List ContentCoding) := do
  let trimmed := trim token
  rejectIf (trimmed == [] || !trimmed.all isTokenByte)
    (.other "upstream content encoding was invalid")
  let lower := lowercase trimmed
  if lower = asBytes "identity" then return codings
  let coding ← okOr (supportedCoding lower) (.other "upstream content encoding was unsupported")
  let pushed := codings ++ [coding]
  rejectIf (pushed.length > maxLayers) (.other "upstream content encoding layers exceeded limit")
  return pushed

def parseContentCodings (headers : HeaderMap) (maxLayers : Nat) :
    Except BoxError (List ContentCoding) :=
  (headers.getAll Header.contentEncoding).foldlM (fun codings value => do
    let text ← okOr value.toStr? (.other "upstream content encoding was invalid")
    (text.splitOn comma).foldlM (pushContentCoding maxLayers) codings) []

/-! ## Body policy -/

inductive ResponseBodyPolicy where
  | streaming (declaredLength : Option Nat)
  | forbidden (advertisedLength : Option Nat)
  deriving DecidableEq, Repr

namespace Status

def switchingProtocols : Nat := 101
def ok : Nat := 200
def noContent : Nat := 204
def resetContent : Nat := 205
def partialContent : Nat := 206
def notModified : Nat := 304
def badRequest : Nat := 400
def unauthorized : Nat := 401
def forbidden : Nat := 403
def badGateway : Nat := 502

end Status

def declaredResponseLength (headers : HeaderMap) : Except BoxError (Option Nat) :=
  match headers.getAll Header.contentLength with
  | [] => .ok none
  | [value] => do
      let text ← okOr value.toStr? .toStr
      let length ← okOr (parseU64 text) (.other "invalid upstream response length")
      return some length
  | _ => .error (.other "ambiguous upstream response length")

def validateResponseBodyHead (requestMethod : Method) (status : Nat) (headers : HeaderMap)
    (maxResponseBodyBytes : Nat) : Except BoxError ResponseBodyPolicy := do
  rejectIf (headers.containsKey Header.trailer)
    (.other "upstream response trailers are unsupported")
  let declaredLength ← declaredResponseLength headers
  rejectIf (status == Status.noContent
      && (declaredLength.isSome || headers.containsKey Header.transferEncoding))
    (.other "upstream no-content response used forbidden framing")
  rejectIf (status == Status.resetContent
      && (declaredLength.any (· != 0) || headers.containsKey Header.transferEncoding))
    (.other "upstream reset-content response used forbidden framing")
  if requestMethod = Method.head ∨ status = Status.noContent ∨ status = Status.resetContent
      ∨ status = Status.notModified then
    return .forbidden declaredLength
  rejectIf (declaredLength.any fun declared => declared > maxResponseBodyBytes)
    (.other "upstream response length exceeded limit")
  return .streaming declaredLength

/-- A `no-transform` directive in one `Cache-Control` value. -/
def forbidsTransform (value : Bytes) : Bool :=
  (value.splitOn comma).any fun directive =>
    eqIgnoreAsciiCase (trim directive) (asBytes "no-transform")

def validateDecodedResponseTransform (status : Nat) (headers : HeaderMap) :
    Except BoxError Unit := do
  rejectIf (status == Status.partialContent || headers.containsKey Header.contentRange)
    (.other "encoded partial upstream responses are unsupported")
  (headers.getAll Header.cacheControl).forM fun value => do
    let text ← okOr value.toStr? (.other "upstream cache control was invalid")
    rejectIf (forbidsTransform text) (.other "upstream response forbade required content decoding")

def decodedRepresentationHeaders : List HeaderName :=
  [Header.contentEncoding, Header.contentLength, Header.acceptRanges, Header.contentRange,
    Header.etag, asBytes "content-md5", asBytes "digest", asBytes "content-digest",
    asBytes "repr-digest"]

def stripDecodedRepresentationHeaders (headers : HeaderMap) : HeaderMap :=
  headers.removeMany decodedRepresentationHeaders

/-! ## Header normalization -/

def strippedResponseHeaders : List HeaderName :=
  [Header.connection, asBytes "proxy-connection", asBytes "keep-alive", Header.transferEncoding,
    asBytes "te", Header.trailer, Header.upgrade, asBytes "proxy-authenticate", protectedHeader,
    bootstrapHeaderName]

def nominatedToken (token : Bytes) : Except BoxError Bytes := do
  let lower := lowercase (trim token)
  rejectIf (lower == [] || !lower.all isTokenByte || isProtectedConnectionTarget lower)
    (.other "invalid upstream connection header")
  return lower

def nominatedResponseHeaders (headers : HeaderMap) : Except BoxError (List HeaderName) :=
  match headers.getAll Header.connection with
  | [] => .ok []
  | [value] => do
      let text ← okOr value.toStr? .toStr
      (text.splitOn comma).mapM nominatedToken
  | _ => .error (.other "ambiguous upstream connection header")

def stripResponseHeaders (headers : HeaderMap) : Except BoxError HeaderMap := do
  let nominated ← nominatedResponseHeaders headers
  return (headers.removeMany strippedResponseHeaders).removeMany nominated

def rewriteLocation (crates : Crates Url) (headers : HeaderMap) (state : ProxyState) :
    Except BoxError HeaderMap :=
  match headers.getAll Header.location with
  | [] => .ok headers
  | [value] => do
      let text ← okOr value.toStr? .toStr
      match crates.urlParse text with
      | none =>
          rejectIf (!(text.head? == some slash && !(asBytes "//").isPrefixOf text))
            (.other "invalid upstream redirect")
          return headers
      | some location =>
          if crates.urlScheme location = asBytes "http"
              ∧ crates.urlHostStr location = some state.upstream.ip
              ∧ crates.urlPortOrKnownDefault location = some state.upstream.port.toNat then
            let hosted ← okOr (crates.urlSetHost location state.address.hostname)
              (.other "redirect rewrite failed")
            let ported ← okOr (crates.urlSetPort hosted state.address.port.toNat)
              (.other "redirect rewrite failed")
            let rewritten ← okOr (HeaderValue.fromBytes? (crates.urlAsStr ported))
              .invalidHeaderValue
            return headers.insert Header.location rewritten
          else return headers
  | _ => .error (.other "ambiguous upstream redirect")

def connectionClose : HeaderValue := .fromStatic "close" (by decide)

def isInformational (status : Nat) : Bool := 100 ≤ status && status < 200

/-- The limit on the encoded body: for identity content both limits bind. -/
def encodedBodyLimit (codings : List ContentCoding) (limits : TransportLimits) : Nat :=
  if codings = [] then min limits.maxResponseBodyBytes limits.maxDecodedResponseBodyBytes
  else limits.maxResponseBodyBytes

/-- The downstream head and body once the policy is known. -/
def attachBody (body : Incoming) (policy : ResponseBodyPolicy) (codings : List ContentCoding)
    (headers : HeaderMap) (limits : TransportLimits) : HeaderMap × ProxyBody Incoming :=
  match policy with
  | .streaming declaredLength =>
      let guard := ResponseBodyGuard.streaming body declaredLength
        (encodedBodyLimit codings limits) limits
      if codings = [] then (headers.remove Header.contentEncoding, .identity guard)
      else (stripDecodedRepresentationHeaders headers,
        .decoded guard codings limits.maxDecodedResponseBodyBytes)
  | .forbidden advertisedLength =>
      (headers, .identity (ResponseBodyGuard.forbidden body advertisedLength))

def isStreaming : ResponseBodyPolicy → Bool
  | .streaming _ => true
  | .forbidden _ => false

def normalizeHttpResponse (crates : Crates Url) (response : Response Incoming)
    (requestMethod : Method) (state : ProxyState) :
    Except BoxError (Response (ProxyBody Incoming)) := do
  rejectIf (isInformational response.status)
    (.other "unexpected informational upstream response")
  let codings ← parseContentCodings response.headers state.limits.maxResponseContentEncodings
  let policy ← validateResponseBodyHead requestMethod response.status response.headers
    (encodedBodyLimit codings state.limits)
  if isStreaming policy && codings != [] then
    validateDecodedResponseTransform response.status response.headers
  let stripped ← stripResponseHeaders response.headers
  let closing := stripped.insert Header.connection connectionClose
  let cookies ← (normalizeSetCookieHeaders closing state.upstream.ip).mapError .cookie
  let headers ← rewriteLocation crates cookies state
  let (headers, body) := attachBody response.body policy codings headers state.limits
  return {
    status := response.status
    version := .http11
    headers := headers
    body := body }

/-! ## What a normalized response is -/

theorem nominatedResponseHeaders_unprotected {headers : HeaderMap} {nominated : List HeaderName}
    (hok : nominatedResponseHeaders headers = .ok nominated) :
    ∀ name ∈ nominated, isProtectedConnectionTarget name = false := by
  unfold nominatedResponseHeaders at hok
  split at hok
  · cases hok
    simp
  · obtain ⟨text, -, htokens⟩ := okOr_bind_eq_ok_iff.mp hok
    intro name hname
    obtain ⟨token, -, htoken⟩ := exists_of_mem_mapM htokens hname
    simp only [nominatedToken, rejectIf_bind_eq_ok_iff, pure_eq_ok_iff, Bool.or_eq_false_iff]
      at htoken
    obtain ⟨⟨-, hunprotected⟩, rfl⟩ := htoken
    exact hunprotected
  · cases hok

/-- A field that may not be nominated and is not stripped survives. -/
theorem stripResponseHeaders_getAll {headers stripped : HeaderMap} {name : HeaderName}
    (hprotected : isProtectedConnectionTarget name = true) (hname : name ∉ strippedResponseHeaders)
    (hok : stripResponseHeaders headers = .ok stripped) :
    stripped.getAll name = headers.getAll name := by
  simp only [stripResponseHeaders, bind_eq_ok_iff, pure_eq_ok_iff] at hok
  obtain ⟨nominated, hnominated, rfl⟩ := hok
  have hnot : name ∉ nominated := fun hmem => by
    simp [nominatedResponseHeaders_unprotected hnominated name hmem] at hprotected
  rw [Multimap.getAll_removeMany_of_notMem _ hnot, Multimap.getAll_removeMany_of_notMem _ hname]

theorem rewriteLocation_getAll_of_ne {crates : Crates Url} {headers located : HeaderMap}
    {state : ProxyState} {name : HeaderName} (hname : name ≠ Header.location)
    (hok : rewriteLocation crates headers state = .ok located) :
    located.getAll name = headers.getAll name := by
  unfold rewriteLocation at hok
  split at hok
  · cases hok
    rfl
  · simp only [okOr_bind_eq_ok_iff] at hok
    obtain ⟨text, -, hok⟩ := hok
    split at hok
    · obtain ⟨-, rfl⟩ := rejectIf_bind_eq_ok_iff.mp hok |>.imp_right pure_eq_ok_iff.mp
      rfl
    · split at hok
      · simp only [okOr_bind_eq_ok_iff, pure_eq_ok_iff] at hok
        obtain ⟨hosted, -, ported, -, rewritten, -, rfl⟩ := hok
        exact Multimap.getAll_insert_of_ne _ _ hname
      · cases hok
        rfl
  · cases hok

theorem attachBody_getAll {body : Incoming} {policy : ResponseBodyPolicy}
    {codings : List ContentCoding} {headers : HeaderMap} {limits : TransportLimits}
    {name : HeaderName} (hname : name ∉ decodedRepresentationHeaders) :
    (attachBody body policy codings headers limits).1.getAll name = headers.getAll name := by
  have hencoding : name ≠ Header.contentEncoding := by
    rintro rfl
    exact hname List.mem_cons_self
  unfold attachBody
  split
  · split
    · exact Multimap.getAll_remove_of_ne _ hencoding
    · exact Multimap.getAll_removeMany_of_notMem _ hname
  · rfl

/-- The steps of a successful normalization. -/
structure ResponseSteps (crates : Crates Url) (response : Response Incoming)
    (requestMethod : Method) (state : ProxyState)
    (downstream : Response (ProxyBody Incoming)) where
  codings : List ContentCoding
  policy : ResponseBodyPolicy
  stripped : HeaderMap
  cookies : HeaderMap
  located : HeaderMap
  final : isInformational response.status = false
  parsed : parseContentCodings response.headers state.limits.maxResponseContentEncodings =
    .ok codings
  validated : validateResponseBodyHead requestMethod response.status response.headers
    (encodedBodyLimit codings state.limits) = .ok policy
  transform : isStreaming policy = true → codings ≠ [] →
    validateDecodedResponseTransform response.status response.headers = .ok ()
  strip : stripResponseHeaders response.headers = .ok stripped
  cookie : normalizeSetCookieHeaders (stripped.insert Header.connection connectionClose)
    state.upstream.ip = .ok cookies
  locate : rewriteLocation crates cookies state = .ok located
  result : downstream =
    { status := response.status
      version := .http11
      headers := (attachBody response.body policy codings located state.limits).1
      body := (attachBody response.body policy codings located state.limits).2 }

theorem normalizeHttpResponse_steps {crates : Crates Url} {response : Response Incoming}
    {requestMethod : Method} {state : ProxyState} {downstream : Response (ProxyBody Incoming)}
    (hok : normalizeHttpResponse crates response requestMethod state = .ok downstream) :
    Nonempty (ResponseSteps crates response requestMethod state downstream) := by
  simp only [normalizeHttpResponse, bind_eq_ok_iff, rejectIf_eq_ok_iff] at hok
  obtain ⟨-, hfinal, codings, hparsed, policy, hvalidated, hok⟩ := hok
  have hrest : (isStreaming policy = true → codings ≠ [] →
        validateDecodedResponseTransform response.status response.headers = .ok ()) ∧
      ∃ stripped, stripResponseHeaders response.headers = .ok stripped ∧
      ∃ cookies, normalizeSetCookieHeaders (stripped.insert Header.connection connectionClose)
        state.upstream.ip = .ok cookies ∧
      ∃ located, rewriteLocation crates cookies state = .ok located ∧ downstream =
        { status := response.status
          version := .http11
          headers := (attachBody response.body policy codings located state.limits).1
          body := (attachBody response.body policy codings located state.limits).2 } := by
    split at hok
    · simp only [bind_eq_ok_iff, mapError_eq_ok_iff, pure_eq_ok_iff] at hok
      obtain ⟨u, htransform, hrest⟩ := hok
      exact ⟨fun _ _ => htransform, hrest⟩
    next hplain =>
      simp only [bind_eq_ok_iff, mapError_eq_ok_iff, pure_eq_ok_iff] at hok
      exact ⟨fun hstreaming hcodings => absurd (by simp [hstreaming, hcodings]) hplain, hok⟩
  obtain ⟨htransform, stripped, hstrip, cookies, hcookie, located, hlocate, hresult⟩ := hrest
  exact ⟨⟨codings, policy, stripped, cookies, located, hfinal, hparsed, hvalidated, htransform,
    hstrip, hcookie, hlocate, hresult⟩⟩

/-- A forwarded response carries exactly one `Connection` field, equal to `close`. -/
theorem normalizeHttpResponse_connection {crates : Crates Url} {response : Response Incoming}
    {requestMethod : Method} {state : ProxyState} {downstream : Response (ProxyBody Incoming)}
    (hok : normalizeHttpResponse crates response requestMethod state = .ok downstream) :
    downstream.headers.getAll Header.connection = [connectionClose] := by
  obtain ⟨steps⟩ := normalizeHttpResponse_steps hok
  rw [steps.result]
  change (attachBody _ _ _ _ _).1.getAll Header.connection = _
  rw [attachBody_getAll (by decide), rewriteLocation_getAll_of_ne (by decide) steps.locate,
    normalizeSetCookieHeaders_getAll_of_ne (by decide) steps.cookie, Multimap.getAll_insert_self]

end Rpackit.Transport
