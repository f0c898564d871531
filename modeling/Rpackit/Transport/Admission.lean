import Rpackit.Library.Fallible
import Rpackit.Transport.State

/-! # Raw request admission

The first request head of a connection is checked on its raw bytes before Hyper
can normalize it. What is kept of it are the `Connection` tokens, in lower case,
and whether the request asks for a WebSocket upgrade.
-/

namespace Rpackit.Transport

open Text Fallible

inductive AdmissionError where
  | incomplete
  | headerLimit
  | requestLineLimit
  | malformed
  | target
  | method
  | authority
  | framing
  | upgrade
  | protectedConnectionToken
  | ambiguousSecurityHeader
  | bodyLimit
  deriving DecidableEq, Repr

structure RawAdmission where
  connectionTokens : List Bytes
  websocketUpgrade : Bool
  deriving DecidableEq, Repr

/-- Field name to trimmed values, in order of appearance. -/
abbrev RawHeaders := Multimap HeaderName Bytes

def crlf : Bytes := [carriageReturn, lineFeed]

/-- Length of the head that ends with the first empty line. -/
def headerEnd (bytes : Bytes) : Option Nat := (windowPosition (crlf ++ crlf) bytes).map (· + 4)

def isTokenByte (b : UInt8) : Bool :=
  isAsciiAlphanumeric b || (asBytes "!#$%&'*+-.^_`|~").contains b

theorem not_mem_of_isTokenByte {name : Bytes} {b : UInt8}
    (htoken : ∀ c ∈ name, isTokenByte c = true) (hb : isTokenByte b = false) : b ∉ name :=
  fun hmem => by simp [htoken b hmem] at hb

/-- What holds of the token bytes in the table of all bytes holds of every token byte. -/
theorem of_isTokenByte {p : UInt8 → Bool} {b : UInt8}
    (hall : ∀ n : Fin 256, isTokenByte (UInt8.ofNat n.val) = true → p (UInt8.ofNat n.val) = true)
    (htoken : isTokenByte b = true) : p b = true := by
  have hbyte : ∀ b, isTokenByte b = true → p b = true := forall_byte hall
  exact hbyte b htoken

theorem isVisibleAscii_of_isTokenByte {b : UInt8} (htoken : isTokenByte b = true) :
    isVisibleAscii b = true := of_isTokenByte (by decide +kernel) htoken

theorem not_isAsciiWhiteSpace_of_isTokenByte {b : UInt8} (htoken : isTokenByte b = true) :
    isAsciiWhiteSpace b = false := by
  have hnot : (!isAsciiWhiteSpace b) = true :=
    @of_isTokenByte (fun c => !isAsciiWhiteSpace c) b (by decide +kernel) htoken
  rwa [Bool.not_eq_true'] at hnot

theorem trim_token {name : Bytes} (htoken : ∀ b ∈ name, isTokenByte b = true) :
    trim name = name :=
  trim_eq_self
    (fun _ hb => not_isAsciiWhiteSpace_of_isTokenByte (htoken _ (List.mem_of_head? hb)))
    fun _ hb => not_isAsciiWhiteSpace_of_isTokenByte (htoken _ (List.mem_of_getLast? hb))

/-- A line feed without a preceding carriage return, or a carriage return
without a following line feed; `previous` is the byte before the text. -/
def bareLineEnding (previous : Option UInt8) : Bytes → Bool
  | [] => false
  | b :: rest =>
      (b == lineFeed && previous != some carriageReturn)
        || (b == carriageReturn && rest.head? != some lineFeed)
        || bareLineEnding (some b) rest

/-- A header line before the first empty one that starts with a blank. -/
def foldedLine : List Bytes → Bool
  | [] => false
  | line :: rest =>
      let content := if line.getLast? = some carriageReturn then line.dropLast else line
      match content with
      | [] => false
      | first :: _ => first == space || first == tab || foldedLine rest

def validateLineEndings (bytes : Bytes) : Except AdmissionError Unit := do
  rejectIf (bytes.contains 0) .malformed
  rejectIf (bareLineEnding none bytes) .malformed
  rejectIf (foldedLine (bytes.splitOn lineFeed).tail) .malformed

def validateMethod (method : Bytes) : Except AdmissionError Unit := do
  rejectIf (!method.all isTokenByte) .malformed
  rejectIf (eqIgnoreAsciiCase method (asBytes "CONNECT")
    || eqIgnoreAsciiCase method (asBytes "TRACE")) .method

def validateTarget {Url : Type} (crates : Crates Url) (target : Bytes) :
    Except AdmissionError Unit := do
  rejectIf (target.head? != some slash || (asBytes "//").isPrefixOf target
    || target.contains 0x23) .target
  let uri ← okOr (crates.uriFromStr target) .target
  rejectIf uri.authority.isSome .target

/-- Blanks around a raw field value. -/
def isOws (b : UInt8) : Bool := b == space || b == tab

def trimOws (value : Bytes) : Bytes := (value.dropWhile isOws).rdropWhile isOws

def collectHeaders {Url : Type} (crates : Crates Url) (values : RawHeaders) :
    List (Bytes × Bytes) → Except AdmissionError RawHeaders
  | [] => .ok values
  | header :: rest => do
      let name ← okOr (crates.headerNameFromBytes header.1) .malformed
      let _ ← okOr (HeaderValue.fromBytes? header.2) .malformed
      collectHeaders crates (values.append name (trimOws header.2)) rest

def requireExactAuthority (values : RawHeaders) (expected : Bytes) : Except AdmissionError Unit :=
  rejectIf (values.getAll Header.host != [expected]) .authority

/-- Security fields that may appear at most once. -/
def singularHeaders : List HeaderName :=
  [Header.cookie, Header.origin, protectedHeader, bootstrapHeaderName, Header.connection,
    Header.upgrade]

def rejectAmbiguousSecurityHeaders (values : RawHeaders) : Except AdmissionError Unit :=
  rejectIf (singularHeaders.any fun name => (values.getAll name).length > 1)
    .ambiguousSecurityHeader

def validateContentLength (limits : TransportLimits) (entry : Bytes) :
    Except AdmissionError Unit := do
  let _ ← okOr (decodeUtf8 entry) .framing
  rejectIf (entry == [] || !entry.all isAsciiDigit) .bodyLimit
  let length ← okOr (parseU64 entry) .framing
  rejectIf (length > limits.maxRequestBodyBytes) .bodyLimit

def validateTransferEncoding (entry : Bytes) : Except AdmissionError Unit := do
  let _ ← okOr (decodeUtf8 entry) .framing
  rejectIf (!eqIgnoreAsciiCase entry (asBytes "chunked")) .framing

def validateFraming (values : RawHeaders) (limits : TransportLimits) :
    Except AdmissionError Unit := do
  let contentLengths := values.getAll Header.contentLength
  let transferEncodings := values.getAll Header.transferEncoding
  rejectIf (contentLengths.length > 1 || transferEncodings.length > 1
    || (contentLengths != [] && transferEncodings != [])) .framing
  contentLengths.forM (validateContentLength limits)
  transferEncodings.forM validateTransferEncoding

/-- Append the lower-cased tokens of a comma-separated list. -/
def collectConnectionTokens (tokens : List Bytes) :
    List (List Char) → Except AdmissionError (List Bytes)
  | [] => .ok tokens
  | value :: rest => do
      let token := encodeUtf8 (trimScalars value)
      rejectIf (token == [] || !token.all isTokenByte) .malformed
      let lower := lowercase token
      rejectIf (tokens.contains lower) .malformed
      collectConnectionTokens (tokens ++ [lower]) rest

def parseConnectionTokens (values : RawHeaders) : Except AdmissionError (List Bytes) :=
  match values.get? Header.connection with
  | none => .ok []
  | some entry => do
      let text ← okOr (decodeUtf8 entry) .malformed
      collectConnectionTokens [] (text.splitOn ',')

def validateUpgrade (values : RawHeaders) (connectionTokens : List Bytes) :
    Except AdmissionError Bool := do
  rejectIf (values.containsKey (asBytes "http2-settings")) .upgrade
  let connectionUpgrade := connectionTokens.contains Header.upgrade
  match values.get? Header.upgrade with
  | none =>
      rejectIf connectionUpgrade .upgrade
      return false
  | some entry =>
      let _ ← okOr (decodeUtf8 entry) .upgrade
      rejectIf (!connectionUpgrade || !eqIgnoreAsciiCase entry (asBytes "websocket")) .upgrade
      return true

/-- `forwarded` fields by prefix. -/
def isForwardingPrefixed (name : HeaderName) : Bool :=
  (asBytes "x-forwarded-").isPrefixOf name || (asBytes "x-original-").isPrefixOf name

def isProtectedConnectionTarget (name : Bytes) : Bool :=
  [Header.host, Header.cookie, Header.origin, Header.contentLength, Header.transferEncoding,
    asBytes "shiny-shared-secret", asBytes "x-rpackit-bootstrap", asBytes "forwarded",
    asBytes "x-real-ip"].contains name
    || isForwardingPrefixed name

/-- The checks on the fields of a parsed head. -/
def validateHeaders (values : RawHeaders) (expectedAuthority : Bytes) (limits : TransportLimits) :
    Except AdmissionError RawAdmission := do
  requireExactAuthority values expectedAuthority
  rejectAmbiguousSecurityHeaders values
  validateFraming values limits
  let connectionTokens ← parseConnectionTokens values
  rejectIf (connectionTokens.any isProtectedConnectionTarget) .protectedConnectionToken
  let websocketUpgrade ← validateUpgrade values connectionTokens
  return ⟨connectionTokens, websocketUpgrade⟩

variable {Url : Type} (crates : Crates Url)

def validate (bytes expectedAuthority : Bytes) (limits : TransportLimits) :
    Except AdmissionError RawAdmission := do
  let stop ← okOr (headerEnd bytes) .incomplete
  rejectIf (stop > limits.maxHeaderBytes) .headerLimit
  let head := bytes.take stop
  validateLineEndings head
  let firstLineEnd ← okOr (windowPosition crlf head) .malformed
  rejectIf (firstLineEnd > limits.maxRequestLineBytes) .requestLineLimit
  let parsed ← okOr (crates.parseRequest head limits.maxHeaders) .malformed
  match parsed with
  | .incomplete => throw .incomplete
  | .complete request =>
      rejectIf (request.consumed != stop || request.version != some 1) .malformed
      let method ← okOr request.method .malformed
      let target ← okOr request.path .malformed
      validateMethod method
      validateTarget crates target
      let values ← collectHeaders crates Multimap.empty request.headers
      validateHeaders values expectedAuthority limits

theorem validateHeaders_tokens_unprotected {values : RawHeaders} {expectedAuthority : Bytes}
    {limits : TransportLimits} {raw : RawAdmission}
    (hok : validateHeaders values expectedAuthority limits = .ok raw) :
    ∀ token ∈ raw.connectionTokens, isProtectedConnectionTarget token = false := by
  simp only [validateHeaders, bind_eq_ok_iff, rejectIf_eq_ok_iff] at hok
  obtain ⟨-, -, -, -, -, -, tokens, -, -, hunprotected, upgrade, -, hraw⟩ := hok
  cases hraw
  simpa using hunprotected

/-- No field the proxy protects can be nominated by an admitted `Connection` field. -/
theorem validate_tokens_unprotected {bytes expectedAuthority : Bytes} {limits : TransportLimits}
    {raw : RawAdmission} (hok : validate crates bytes expectedAuthority limits = .ok raw) :
    ∀ token ∈ raw.connectionTokens, isProtectedConnectionTarget token = false := by
  simp only [validate, bind_eq_ok_iff] at hok
  obtain ⟨stop, -, -, -, -, -, firstLineEnd, -, -, -, parsed, -, hparsed⟩ := hok
  cases parsed with
  | incomplete => cases hparsed
  | complete request =>
      simp only [bind_eq_ok_iff] at hparsed
      obtain ⟨-, -, method, -, target, -, -, -, -, -, values, -, hheaders⟩ := hparsed
      exact validateHeaders_tokens_unprotected hheaders

/-- An admitted head has a parsed target that passed its checks. -/
theorem validate_target {bytes expectedAuthority : Bytes} {limits : TransportLimits}
    {raw : RawAdmission} (hok : validate crates bytes expectedAuthority limits = .ok raw) :
    ∃ stop head target, headerEnd bytes = some stop ∧
      crates.parseRequest (bytes.take stop) limits.maxHeaders = some (.complete head) ∧
      head.path = some target ∧ validateTarget crates target = .ok () := by
  simp only [validate, bind_eq_ok_iff, okOr_eq_ok_iff] at hok
  obtain ⟨stop, hstop, -, -, -, -, firstLineEnd, -, -, -, parsed, hparse, hparsed⟩ := hok
  cases parsed with
  | incomplete => cases hparsed
  | complete head =>
      simp only [bind_eq_ok_iff, okOr_eq_ok_iff] at hparsed
      obtain ⟨-, -, method, -, target, htarget, -, -, checked, hvalid, -⟩ := hparsed
      exact ⟨stop, head, target, hstop, hparse, htarget, hvalid⟩

/-! ## Where the head ends -/

/-- The first empty line stays where it is when bytes are appended. -/
theorem headerEnd_append {bytes : Bytes} {stop : Nat} (suffix : Bytes)
    (hend : headerEnd bytes = some stop) : headerEnd (bytes ++ suffix) = some stop := by
  obtain ⟨position, hposition, rfl⟩ := Option.map_eq_some_iff.mp hend
  simp [headerEnd, windowPosition_append suffix hposition]

theorem headerEnd_le {bytes : Bytes} {stop : Nat} (hend : headerEnd bytes = some stop) :
    stop ≤ bytes.length := by
  obtain ⟨position, hposition, rfl⟩ := Option.map_eq_some_iff.mp hend
  have := windowPosition_le hposition
  simpa [crlf] using this

theorem headerEnd_of_append {bytes suffix : Bytes} {stop : Nat}
    (hend : headerEnd (bytes ++ suffix) = some stop) (hle : stop ≤ bytes.length) :
    headerEnd bytes = some stop := by
  obtain ⟨position, hposition, rfl⟩ := Option.map_eq_some_iff.mp hend
  rw [headerEnd, windowPosition_of_append hposition (by simpa [crlf] using hle) (by decide)]
  rfl

theorem headerEnd_take {bytes : Bytes} {stop : Nat} (hend : headerEnd bytes = some stop) :
    headerEnd (bytes.take stop) = some stop := by
  have happend : headerEnd (bytes.take stop ++ bytes.drop stop) = some stop := by
    rwa [List.take_append_drop]
  apply headerEnd_of_append happend
  rw [List.length_take_of_le (headerEnd_le hend)]

theorem validate_headerEnd {bytes expectedAuthority : Bytes} {limits : TransportLimits}
    {raw : RawAdmission} (hok : validate crates bytes expectedAuthority limits = .ok raw) :
    ∃ stop, headerEnd bytes = some stop := by
  simp only [validate, okOr_bind_eq_ok_iff] at hok
  exact hok.imp fun _ h => h.1

/-- Admission looks at the head only: its verdict is that on the bytes up to the
first empty line, whatever follows them. -/
theorem validate_take {bytes : Bytes} {stop : Nat} (hend : headerEnd bytes = some stop)
    (expectedAuthority : Bytes) (limits : TransportLimits) :
    validate crates (bytes.take stop) expectedAuthority limits =
      validate crates bytes expectedAuthority limits := by
  simp only [validate, headerEnd_take hend, hend, okOr_some, ok_bind, List.take_take, min_self]

end Rpackit.Transport
