import Rpackit.Transport.Proxy.Response

/-! # WebSocket upgrades

The proxy rebuilds the upgrade request from a validated offer, and accepts the
upstream answer only when it completes that offer.
-/

namespace Rpackit.Transport

open Text Fallible

variable {Incoming Url : Type}

/-- Exactly one value of the field, equal to the expected one. -/
def requireSingleExact (headers : HeaderMap) (name : HeaderName) (expected : Bytes)
    (caseInsensitive : Bool) : Except BoxError Unit :=
  match headers.getAll name with
  | [value] =>
      let isMatch := if caseInsensitive then eqIgnoreAsciiCase value.bytes expected
        else value.bytes == expected
      rejectIf (!isMatch) (.other "required WebSocket header invalid")
  | _ => .error (.other "required WebSocket header missing")

/-! ## The offer of a client -/

structure WebSocketOffer where
  path : Uri
  key : HeaderValue
  expectedAccept : HeaderValue
  protocols : List Bytes
  applicationCookie : Option HeaderValue
  deriving DecidableEq

def pushProtocol (protocols : List Bytes) (item : Bytes) : Except BoxError (List Bytes) := do
  let protocol := trim item
  rejectIf (protocol == [] || !protocol.all isTokenByte || protocols.contains protocol)
    (.other "invalid WebSocket protocol")
  return protocols ++ [protocol]

def parseProtocols (headers : HeaderMap) : Except BoxError (List Bytes) :=
  match headers.getAll Header.secWebsocketProtocol with
  | [] => .ok []
  | [value] => do
      let text ← okOr value.toStr? .toStr
      (text.splitOn comma).foldlM pushProtocol []
  | _ => .error (.other "ambiguous WebSocket protocols")

/-- A token, or a quoted string without escapes. -/
def validExtensionValue (value : Bytes) : Bool :=
  value.all isTokenByte
    || (value.length ≥ 2 && value.head? == some quote && value.getLast? == some quote
      && value.tail.dropLast.all fun byte =>
        byte == tab || (byte ≥ 0x20 && byte != quote && byte != backslash))

/-- Check one `name[=value]` parameter against the names already seen. -/
def scanParameter (parameters : List Bytes) (rawParameter : Bytes) :
    Except BoxError (List Bytes) := do
  let parameter := splitParameter (trim rawParameter)
  rejectIf (parameter.1 == [] || !parameter.1.all isTokenByte
      || parameters.contains (lowercase parameter.1))
    (.other "invalid WebSocket extension parameter")
  rejectIf (parameter.2.any fun value => !validExtensionValue value)
    (.other "invalid WebSocket extension parameter")
  return parameters ++ [lowercase parameter.1]

def scanExtension (extensionNames : List Bytes) (extension : Bytes) :
    Except BoxError (List Bytes) := do
  let parts := extension.splitOn semicolon
  let name := trim (parts.headD [])
  rejectIf (name == [] || !name.all isTokenByte || extensionNames.contains (lowercase name))
    (.other "invalid WebSocket extension")
  let _ ← parts.tail.foldlM scanParameter []
  return extensionNames ++ [lowercase name]

def validateExtensions (headers : HeaderMap) : Except BoxError Unit :=
  match headers.getAll Header.secWebsocketExtensions with
  | [] => .ok ()
  | [value] => do
      let text ← okOr value.toStr? .toStr
      let _ ← (text.splitOn comma).foldlM scanExtension []
      return ()
  | _ => .error (.other "ambiguous WebSocket extensions")

def websocketGuid : Bytes := asBytes "258EAFA5-E914-47DA-95CA-C5AB0DC85B11"

def deriveWebsocketAccept (crates : Crates Url) (key : HeaderValue) :
    Except BoxError HeaderValue :=
  okOr (HeaderValue.fromBytes? (crates.base64Encode (crates.sha1 (key.bytes ++ websocketGuid))))
    .invalidHeaderValue

def websocketKey (crates : Crates Url) (headers : HeaderMap) : Except BoxError HeaderValue :=
  match headers.getAll Header.secWebsocketKey with
  | [key] => do
      let decoded ← okOr (crates.base64Decode key.bytes) (.other "invalid WebSocket key")
      rejectIf (decoded.length != 16) (.other "invalid WebSocket key")
      return key
  | _ => .error (.other "invalid WebSocket key")

def validateWebsocketRequest (crates : Crates Url) (request : Request Incoming)
    (expectedOrigin : Bytes) : Except BoxError WebSocketOffer := do
  rejectIf (request.method != Method.get || request.version != .http11
      || request.headers.containsKey Header.contentLength
      || request.headers.containsKey Header.transferEncoding
      || request.headers.containsKey Header.trailer)
    (.other "invalid WebSocket request shape")
  requireSingleExact request.headers Header.upgrade (asBytes "websocket") true
  requireSingleExact request.headers Header.secWebsocketVersion (asBytes "13") false
  requireSingleExact request.headers Header.origin expectedOrigin false
  let key ← websocketKey crates request.headers
  let protocols ← parseProtocols request.headers
  validateExtensions request.headers
  let expectedAccept ← deriveWebsocketAccept crates key
  let path ← originFormUri crates request.uri
  return ⟨path, key, expectedAccept, protocols, request.headers.get? Header.cookie⟩

/-! ## The request sent upstream -/

def fixedUpgradeHeaders (host key origin : HeaderValue) : HeaderMap :=
  (((((Multimap.empty.insert Header.host host).insert Header.connection
    (.fromStatic "Upgrade" (by decide))).insert Header.upgrade
    (.fromStatic "websocket" (by decide))).insert Header.secWebsocketVersion
    (.fromStatic "13" (by decide))).insert Header.secWebsocketKey key).insert Header.origin origin

def offeredProtocolHeaders (fixed : HeaderMap) (protocols : List Bytes) :
    Except BoxError HeaderMap :=
  if protocols = [] then .ok fixed
  else do
    let value ← okOr (HeaderValue.fromBytes? ([comma, space].intercalate protocols))
      .invalidHeaderValue
    return fixed.insert Header.secWebsocketProtocol value

def buildUpstreamWebsocketRequest (offer : WebSocketOffer) (state : ProxyState) :
    Except BoxError (Request (ProxyBody Incoming)) := do
  let host ← okOr (HeaderValue.fromBytes? state.upstream.toBytes) .invalidHeaderValue
  let origin ← okOr (HeaderValue.fromBytes? (upstreamOrigin state)) .invalidHeaderValue
  let offered ← offeredProtocolHeaders (fixedUpgradeHeaders host offer.key origin) offer.protocols
  let authenticated := match offer.applicationCookie with
    | none => offered
    | some cookie => offered.insert Header.cookie cookie
  let secret ← okOr (HeaderValue.fromBytes? state.secrets.upstream.value) .invalidHeaderValue
  return {
    method := Method.get
    uri := offer.path
    version := .http11
    headers := authenticated.insert protectedHeader secret
    body := .empty }

/-! ## The answer of the upstream -/

/-- The subprotocol the upstream selected. -/
def selectedProtocol (headers : HeaderMap) (offer : WebSocketOffer) :
    Except BoxError (Option Bytes) :=
  match headers.getAll Header.secWebsocketProtocol with
  | [] => .ok none
  | [value] => do
      let protocol ← okOr value.toStr? .toStr
      rejectIf (!offer.protocols.contains protocol) (.other "unoffered upstream WebSocket protocol")
      return some protocol
  | _ => .error (.other "invalid upstream WebSocket protocol")

def validateWebsocketResponse {B : Type} (response : Response B) (offer : WebSocketOffer) :
    Except BoxError (Option Bytes) := do
  rejectIf (response.status != Status.switchingProtocols || response.version != .http11
      || response.headers.containsKey Header.contentLength
      || response.headers.containsKey Header.transferEncoding
      || response.headers.containsKey Header.secWebsocketExtensions)
    (.other "invalid upstream WebSocket response")
  requireSingleExact response.headers Header.connection (asBytes "upgrade") true
  requireSingleExact response.headers Header.upgrade (asBytes "websocket") true
  requireSingleExact response.headers Header.secWebsocketAccept offer.expectedAccept.bytes false
  selectedProtocol response.headers offer

def selectedProtocolHeaders (fixed : HeaderMap) (selected : Option Bytes) :
    Except BoxError HeaderMap :=
  match selected with
  | none => .ok fixed
  | some protocol => do
      let value ← okOr (HeaderValue.fromBytes? protocol) .invalidHeaderValue
      return fixed.insert Header.secWebsocketProtocol value

def downstreamWebsocketResponse (offer : WebSocketOffer) (selected : Option Bytes) :
    Except BoxError (Response (ProxyBody Incoming)) := do
  let fixed := ((Multimap.empty.insert Header.connection
    (.fromStatic "Upgrade" (by decide))).insert Header.upgrade
    (.fromStatic "websocket" (by decide))).insert Header.secWebsocketAccept offer.expectedAccept
  let headers ← selectedProtocolHeaders fixed selected
  return {
    status := Status.switchingProtocols
    version := .http11
    headers := headers
    body := .empty }

/-! ## What an offer carries upstream -/

theorem validateWebsocketRequest_offer {crates : Crates Url} {request : Request Incoming}
    {expectedOrigin : Bytes} {offer : WebSocketOffer}
    (hok : validateWebsocketRequest crates request expectedOrigin = .ok offer) :
    originFormUri crates request.uri = .ok offer.path ∧
      offer.applicationCookie = request.headers.get? Header.cookie := by
  simp only [validateWebsocketRequest, bind_eq_ok_iff, pure_eq_ok_iff] at hok
  obtain ⟨-, -, -, -, -, -, -, -, key, -, protocols, -, -, -, accept, -, path, hpath, rfl⟩ := hok
  exact ⟨hpath, rfl⟩

theorem offeredProtocolHeaders_getAll_of_ne {fixed offered : HeaderMap} {protocols : List Bytes}
    {name : HeaderName} (hname : name ≠ Header.secWebsocketProtocol)
    (hok : offeredProtocolHeaders fixed protocols = .ok offered) :
    offered.getAll name = fixed.getAll name := by
  unfold offeredProtocolHeaders at hok
  split at hok
  · cases hok
    rfl
  · obtain ⟨value, -, hinsert⟩ := okOr_bind_eq_ok_iff.mp hok
    rw [pure_eq_ok_iff.mp hinsert, Multimap.getAll_insert_of_ne _ _ hname]

/-- Apart from the subprotocols, the upstream upgrade request carries the fixed
fields, the application cookie and the upstream secret. -/
theorem buildUpstreamWebsocketRequest_getAll {offer : WebSocketOffer} {state : ProxyState}
    {upstream : Request (ProxyBody Incoming)}
    (hok : buildUpstreamWebsocketRequest offer state = .ok upstream) :
    ∃ host origin secret : HeaderValue, host.bytes = state.upstream.toBytes ∧
      origin.bytes = upstreamOrigin state ∧ secret.bytes = state.secrets.upstream.value ∧
      upstream.uri = offer.path ∧
      upstream.headers.getAll protectedHeader = [secret] ∧
      upstream.headers.getAll Header.cookie = offer.applicationCookie.toList ∧
      ∀ name, name ∉ [protectedHeader, Header.cookie, Header.secWebsocketProtocol] →
        upstream.headers.getAll name = (fixedUpgradeHeaders host offer.key origin).getAll name := by
  simp only [buildUpstreamWebsocketRequest, bind_eq_ok_iff, okOr_eq_ok_iff,
    HeaderValue.fromBytes?_eq_some_iff, pure_eq_ok_iff] at hok
  obtain ⟨host, hhost, origin, horigin, offered, hoffered, secret, hsecret, rfl⟩ := hok
  refine ⟨host, origin, secret, hhost, horigin, hsecret, rfl, Multimap.getAll_insert_self _ _ _,
    ?_, fun name hname => ?_⟩
  · change (Multimap.insert _ protectedHeader secret).getAll Header.cookie = _
    rw [Multimap.getAll_insert_of_ne _ _ (by decide)]
    cases offer.applicationCookie with
    | none =>
        rw [offeredProtocolHeaders_getAll_of_ne (by decide) hoffered]
        simp (disch := decide) only [fixedUpgradeHeaders, Multimap.getAll_insert_of_ne,
          Multimap.getAll_empty, Option.toList_none]
    | some cookie => exact Multimap.getAll_insert_self _ _ _
  · simp only [List.mem_cons, List.not_mem_nil, or_false, not_or] at hname
    obtain ⟨hnotSecret, hnotCookie, hnotProtocol⟩ := hname
    change (Multimap.insert _ protectedHeader secret).getAll name = _
    rw [Multimap.getAll_insert_of_ne _ _ hnotSecret,
      ← offeredProtocolHeaders_getAll_of_ne hnotProtocol hoffered]
    cases offer.applicationCookie with
    | none => rfl
    | some cookie => exact Multimap.getAll_insert_of_ne _ _ hnotCookie

end Rpackit.Transport
