import Rpackit.Transport.Cookie
import Rpackit.Transport.ResponseBody

/-! # Requests on their way upstream

The checks a request passes before it is forwarded, and the header map that is
sent upstream: hop-by-hop, forwarding and nominated fields are stripped, the
authority and the origin are fixed, and the upstream secret is injected last.
-/

namespace Rpackit.Transport

open Text Fallible

/-- Failures of the forwarding functions; `handle_request` answers each of them
with the same fixed response. -/
inductive BoxError where
  | other (message : String)
  | invalidHeaderValue
  | toStr
  | invalidUri
  | elapsed
  | network
  | protocol
  | cookie (error : CookieError)
  deriving DecidableEq, Repr

inductive ContentCoding where
  | gzip
  | deflate
  | brotli
  | zstd
  deriving DecidableEq, Repr

inductive ProxyBody (Incoming : Type) where
  | full (bytes : Bytes)
  | empty
  | upload (guard : RequestBodyGuard Incoming)
  | identity (guard : ResponseBodyGuard Incoming)
  | decoded (guard : ResponseBodyGuard Incoming) (codings : List ContentCoding)
      (maxDecodedBodyBytes : Nat)
  deriving DecidableEq

variable {Incoming Url : Type}

/-! ## Route and origin checks -/

def isBootstrap (request : Request Incoming) : Bool :=
  (request.method == Method.get || request.method == Method.head)
    && request.uri.path == bootstrapPath
    && request.uri.query.isNone
    && !request.headers.containsKey Header.contentLength
    && !request.headers.containsKey Header.transferEncoding

/-- The bootstrap path without its leading slash. -/
def bootstrapSegment : List Char := "__rpackit_bootstrap".toList

def referencesBootstrapRoute (uri : Uri) : Bool :=
  ((decodeUtf8Lossy (percentDecode uri.path)).splitOn '/').any (· == bootstrapSegment)

def validateOrigin (request : Request Incoming) (expectedOrigin : Bytes) (websocket : Bool) :
    Except Unit Unit :=
  let unsafeMethod := !(request.method == Method.get || request.method == Method.head
    || request.method == Method.options)
  let origins := (request.headers.getAll Header.origin).map HeaderValue.bytes
  if websocket || unsafeMethod then rejectIf (origins != [expectedOrigin]) ()
  else rejectIf (origins != [] && origins != [expectedOrigin]) ()

/-! ## Header normalization -/

def originFormUri (crates : Crates Url) (uri : Uri) : Except BoxError Uri :=
  let path := match uri.pathAndQuery with
    | none => [slash]
    | some target => target.asStr
  okOr (crates.uriFromStr path) .invalidUri

/-- The fixed names `strip_request_headers` removes. -/
def strippedRequestHeaders : List HeaderName :=
  [Header.connection, asBytes "proxy-connection", asBytes "keep-alive", Header.transferEncoding,
    asBytes "te", Header.trailer, Header.upgrade, Header.contentLength,
    asBytes "proxy-authorization", asBytes "proxy-authenticate", protectedHeader,
    bootstrapHeaderName]

def isForwardingHeader (name : HeaderName) : Bool :=
  name == asBytes "forwarded" || name == asBytes "x-real-ip" || isForwardingPrefixed name

def stripRequestHeaders (headers : HeaderMap) (connectionTokens : List Bytes) : HeaderMap :=
  let hopByHop := headers.removeMany strippedRequestHeaders
  let nominated := hopByHop.removeMany connectionTokens
  nominated.removeMany (nominated.keys.filter isForwardingHeader)

/-- `http://` and the fixed upstream address. -/
def upstreamOrigin (state : ProxyState) : Bytes := asBytes "http://" ++ state.upstream.toBytes

def rewriteOrigin (headers : HeaderMap) (state : ProxyState) : HeaderMap :=
  if headers.containsKey Header.origin then
    match HeaderValue.fromBytes? (upstreamOrigin state) with
    | none => headers
    | some origin => headers.insert Header.origin origin
  else headers

def normalizeHttpRequest (crates : Crates Url) (request : Request Incoming) (raw : RawAdmission)
    (state : ProxyState) : Except BoxError (Request (ProxyBody Incoming)) := do
  let uri ← originFormUri crates request.uri
  let stripped := stripRequestHeaders request.headers raw.connectionTokens
  let rewritten := rewriteOrigin stripped state
  let host ← okOr (HeaderValue.fromBytes? state.upstream.toBytes) .invalidHeaderValue
  let secret ← okOr (HeaderValue.fromBytes? state.secrets.upstream.value) .invalidHeaderValue
  let headers := (rewritten.insert Header.host host).insert protectedHeader secret
  rejectIf ((headers.getAll protectedHeader).length != 1)
    (.other "protected upstream header invariant failed")
  return {
    method := request.method
    uri := uri
    version := .http11
    headers := headers
    body := .upload (RequestBodyGuard.new request.body state.limits) }

end Rpackit.Transport
