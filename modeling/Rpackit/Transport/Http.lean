import Rpackit.Library.Multimap
import Rpackit.Library.Text

/-! # HTTP messages as the proxy sees them

Header names are kept in the lower case in which the `http` crate stores them,
header values are byte strings without control bytes, and a header map is an
ordered multimap. What the `http`, `httparse`, `url`, `sha1` and `base64` crates
compute beyond that is a parameter.
-/

namespace Rpackit.Transport

open Text

abbrev HeaderName := Bytes

/-- The bytes `HeaderValue::from_bytes` and `from_str` admit. -/
def isHeaderValueByte (b : UInt8) : Bool := (0x20 ≤ b && b != 0x7F) || b == tab

structure HeaderValue where
  bytes : Bytes
  valid : bytes.all isHeaderValueByte = true
  deriving DecidableEq

namespace HeaderValue

def fromBytes? (bytes : Bytes) : Option HeaderValue :=
  if valid : bytes.all isHeaderValueByte = true then some ⟨bytes, valid⟩ else none

/-- `HeaderValue::to_str`: the text of a value of visible ASCII bytes. -/
def toStr? (value : HeaderValue) : Option Bytes :=
  if value.bytes.all isVisibleAscii = true then some value.bytes else none

/-- `HeaderValue::from_static`. -/
def fromStatic (text : String) (valid : (asBytes text).all isHeaderValueByte = true) :
    HeaderValue := ⟨asBytes text, valid⟩

theorem isHeaderValueByte_of_isVisibleAscii {b : UInt8} (hb : isVisibleAscii b = true) :
    isHeaderValueByte b = true := by
  simp only [isVisibleAscii, isHeaderValueByte, Bool.or_eq_true, Bool.and_eq_true,
    decide_eq_true_eq, bne_iff_ne] at hb ⊢
  refine hb.imp_left fun hrange => ⟨hrange.1, ?_⟩
  rintro rfl
  exact absurd hrange.2 (by decide)

theorem fromBytes?_eq_some_iff {bytes : Bytes} {value : HeaderValue} :
    fromBytes? bytes = some value ↔ value.bytes = bytes := by
  unfold fromBytes?
  split
  · rw [Option.some.injEq]
    constructor
    · rintro rfl
      rfl
    · rintro rfl
      rfl
  next hinvalid =>
    constructor
    · rintro ⟨⟩
    · rintro rfl
      exact absurd value.valid hinvalid

theorem fromBytes?_isSome_of_visible {bytes : Bytes} (hvisible : ∀ b ∈ bytes, isVisibleAscii b) :
    ∃ value, fromBytes? bytes = some value ∧ value.bytes = bytes := by
  have hvalid : bytes.all isHeaderValueByte = true :=
    List.all_eq_true.mpr fun b hb => isHeaderValueByte_of_isVisibleAscii (hvisible b hb)
  exact ⟨⟨bytes, hvalid⟩, dif_pos hvalid, rfl⟩

theorem toStr?_eq_some_iff {value : HeaderValue} {text : Bytes} :
    value.toStr? = some text ↔ text = value.bytes ∧ ∀ b ∈ value.bytes, isVisibleAscii b = true := by
  unfold toStr?
  split
  next hall =>
    rw [Option.some.injEq]
    exact ⟨fun heq => ⟨heq.symm, List.all_eq_true.mp hall⟩, fun h => h.1.symm⟩
  next hnot =>
    rw [List.all_eq_true] at hnot
    exact ⟨fun h => (by cases h), fun h => absurd h.2 hnot⟩

end HeaderValue

abbrev HeaderMap := Multimap HeaderName HeaderValue

/-! ## Field names -/

namespace Header

def acceptRanges : HeaderName := asBytes "accept-ranges"
def cacheControl : HeaderName := asBytes "cache-control"
def connection : HeaderName := asBytes "connection"
def contentEncoding : HeaderName := asBytes "content-encoding"
def contentLength : HeaderName := asBytes "content-length"
def contentRange : HeaderName := asBytes "content-range"
def contentSecurityPolicy : HeaderName := asBytes "content-security-policy"
def contentType : HeaderName := asBytes "content-type"
def cookie : HeaderName := asBytes "cookie"
def etag : HeaderName := asBytes "etag"
def host : HeaderName := asBytes "host"
def location : HeaderName := asBytes "location"
def origin : HeaderName := asBytes "origin"
def referrerPolicy : HeaderName := asBytes "referrer-policy"
def secWebsocketAccept : HeaderName := asBytes "sec-websocket-accept"
def secWebsocketExtensions : HeaderName := asBytes "sec-websocket-extensions"
def secWebsocketKey : HeaderName := asBytes "sec-websocket-key"
def secWebsocketProtocol : HeaderName := asBytes "sec-websocket-protocol"
def secWebsocketVersion : HeaderName := asBytes "sec-websocket-version"
def setCookie : HeaderName := asBytes "set-cookie"
def trailer : HeaderName := asBytes "trailer"
def transferEncoding : HeaderName := asBytes "transfer-encoding"
def upgrade : HeaderName := asBytes "upgrade"
def xContentTypeOptions : HeaderName := asBytes "x-content-type-options"

end Header

/-- Native session cookie name. -/
def sessionCookieName : Bytes := asBytes "rpackit_proxy_v1"

/-- One-time native bootstrap request header. -/
def bootstrapHeaderName : HeaderName := asBytes "x-rpackit-bootstrap"

def bootstrapPath : Bytes := asBytes "/__rpackit_bootstrap"

def protectedHeader : HeaderName := asBytes "shiny-shared-secret"

/-! ## Messages -/

abbrev Method := Bytes

namespace Method

def get : Method := asBytes "GET"
def head : Method := asBytes "HEAD"
def options : Method := asBytes "OPTIONS"

end Method

inductive Version where
  | http09 | http10 | http11 | http2 | http3
  deriving DecidableEq, Repr

structure PathAndQuery where
  path : Bytes
  query : Option Bytes
  deriving DecidableEq, Repr

namespace PathAndQuery

def asStr (target : PathAndQuery) : Bytes :=
  let data := match target.query with
    | none => target.path
    | some query => target.path ++ 0x3F :: query
  if data = [] then [slash] else data

end PathAndQuery

/-- A request target: `authority` is the scheme and authority of an absolute
form, absent in the origin form. -/
structure Uri where
  authority : Option Bytes
  pathAndQuery : Option PathAndQuery
  deriving DecidableEq, Repr

namespace Uri

def path (uri : Uri) : Bytes :=
  match uri.pathAndQuery with
  | none => []
  | some target => if target.path = [] then [slash] else target.path

def query (uri : Uri) : Option Bytes := uri.pathAndQuery.bind PathAndQuery.query

end Uri

structure Request (Body : Type) where
  method : Method
  uri : Uri
  version : Version
  headers : HeaderMap
  body : Body
  deriving DecidableEq

structure Response (Body : Type) where
  status : Nat
  version : Version
  headers : HeaderMap
  body : Body
  deriving DecidableEq

/-! ## Third-party functions -/

/-- What `httparse` reports for a complete request head. -/
structure ParsedRequestHead where
  consumed : Nat
  version : Option Nat
  method : Option Bytes
  path : Option Bytes
  headers : List (Bytes × Bytes)
  deriving DecidableEq, Repr

/-- What `httparse` reports for a complete response head. -/
structure ParsedResponseHead where
  consumed : Nat
  version : Option Nat
  code : Option Nat
  headers : List (Bytes × Bytes)
  deriving DecidableEq, Repr

inductive ParseStatus (Head : Type) where
  | complete (head : Head)
  | incomplete
  deriving DecidableEq, Repr

/-- The functions of third-party crates the transport calls. -/
structure Crates (Url : Type) where
  /-- `httparse::Request::parse` with room for the given number of headers. -/
  parseRequest : Bytes → Nat → Option (ParseStatus ParsedRequestHead)
  /-- `httparse::Response::parse` with room for the given number of headers. -/
  parseResponse : Bytes → Nat → Option (ParseStatus ParsedResponseHead)
  headerNameFromBytes : Bytes → Option HeaderName
  uriFromStr : Bytes → Option Uri
  sha1 : Bytes → Bytes
  base64Encode : Bytes → Bytes
  base64Decode : Bytes → Option Bytes
  urlParse : Bytes → Option Url
  urlScheme : Url → Bytes
  urlHostStr : Url → Option Bytes
  urlPortOrKnownDefault : Url → Option Nat
  urlSetHost : Url → Bytes → Option Url
  urlSetPort : Url → Nat → Option Url
  urlAsStr : Url → Bytes

/-- Crates whose functions all fail, for runs that call none of them. -/
def Crates.unavailable : Crates Unit where
  parseRequest _ _ := none
  parseResponse _ _ := none
  headerNameFromBytes _ := none
  uriFromStr _ := none
  sha1 _ := []
  base64Encode _ := []
  base64Decode _ := none
  urlParse _ := none
  urlScheme _ := []
  urlHostStr _ := none
  urlPortOrKnownDefault _ := none
  urlSetHost _ _ := none
  urlSetPort _ _ := none
  urlAsStr _ := []

end Rpackit.Transport
