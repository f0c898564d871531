import Rpackit.Transport.Admitted
import Rpackit.Transport.ResponseStream
import Rpackit.Transport.ResponseGuardIo

/-! # Accepted response heads

The framing of a response is read twice: by the guard on the upstream connection
from the bytes of the head, and by the proxy from its header map. On a head that
the guard accepts the two readings agree.
-/

namespace Rpackit.Transport

open Text Fallible

/-! ## The grammar of a head -/

/-- The line ends that `httparse` takes. -/
def IsLineEnd (ending : Bytes) : Prop := ending = [lineFeed] ∨ ending = crlf

def IsCrlf (ending : Bytes) : Prop := ending = crlf

/-- A status line without its line end. The reason comes with the blank before it,
and both may be missing. -/
inductive StatusLine (version code : Nat) : Bytes → Prop
  | line {minor : UInt8} {digits reason : Bytes} (hversion : digitsValue 0 [minor] = some version)
      (hlength : digits.length = 3) (hcode : digitsValue 0 digits = some code)
      (hblank : reason = [] ∨ reason.head? = some space)
      (hreason : ∀ b ∈ reason, isHeaderValueByte b = true) :
      StatusLine version code (asBytes "HTTP/1." ++ [minor, space] ++ digits ++ reason)

/-- Field lines up to the empty line, with the names and values they hold. -/
inductive FieldLines (IsEnd : Bytes → Prop) : List (Bytes × Bytes) → Bytes → Prop
  | stop {ending : Bytes} (hending : IsEnd ending) : FieldLines IsEnd [] ending
  | field {name before value after ending rest : Bytes} {fields : List (Bytes × Bytes)}
      (hne : name ≠ []) (hname : ∀ b ∈ name, isTokenByte b = true)
      (hblanks : ∀ b ∈ before ++ after, isOws b = true)
      (hvalue : ∀ b ∈ value, isHeaderValueByte b = true) (hending : IsEnd ending)
      (hrest : FieldLines IsEnd fields rest) :
      FieldLines IsEnd ((name, value) :: fields)
        (name ++ asBytes ":" ++ before ++ value ++ after ++ (ending ++ rest))

/-- A response head; empty lines may come before it. -/
inductive ResponseHeadText (IsEnd : Bytes → Prop) (version code : Nat)
    (fields : List (Bytes × Bytes)) : Bytes → Prop
  | status {line ending rest : Bytes} (hline : StatusLine version code line)
      (hending : IsEnd ending) (hfields : FieldLines IsEnd fields rest) :
      ResponseHeadText IsEnd version code fields (line ++ (ending ++ rest))
  | blank {ending rest : Bytes} (hending : IsEnd ending)
      (hrest : ResponseHeadText IsEnd version code fields rest) :
      ResponseHeadText IsEnd version code fields (ending ++ rest)

variable {Url : Type}

/-- What a complete parse of `httparse` says of the bytes. -/
structure ParsedText (bytes : Bytes) (maxHeaders : Nat) (response : ParsedResponseHead)
    (version code : Nat) : Prop where
  text : ResponseHeadText IsLineEnd version code response.headers (bytes.take response.consumed)
  within : response.consumed ≤ bytes.length
  room : response.headers.length ≤ maxHeaders
  version : response.version = some version
  code : response.code = some code

/-- `httparse` follows the grammar. -/
def ParsesResponseHeads (crates : Crates Url) : Prop :=
  ∀ bytes maxHeaders response, crates.parseResponse bytes maxHeaders = some (.complete response) →
    ∃ version code, ParsedText bytes maxHeaders response version code

/-- The header map of parsed fields: names in lower case, values in order and
without the blanks around them. -/
def IsHeaderMapOf (fields : List (Bytes × Bytes)) (headers : HeaderMap) : Prop :=
  ∀ name, (headers.getAll name).map HeaderValue.bytes =
    (fields.filter fun field => lowercase field.1 = name).map fun field => trimOws field.2

/-! ## Strict line ends -/

theorem ne_carriageReturn_of_isHeaderValueByte {b : UInt8} (hb : isHeaderValueByte b = true) :
    b ≠ carriageReturn := by
  rintro rfl
  exact absurd hb (by decide)

theorem ne_carriageReturn_of_isOws {b : UInt8} (hb : isOws b = true) : b ≠ carriageReturn := by
  rintro rfl
  exact absurd hb (by decide)

/-- After anything but a carriage return a strict line end is CR LF. -/
theorem isCrlf_of_strict {previous : Option UInt8} {ending rest : Bytes}
    (hprevious : previous ≠ some carriageReturn) (hending : IsLineEnd ending)
    (hstrict : bareLineEnding previous (ending ++ rest) = false) : IsCrlf ending := by
  rcases hending with rfl | hcrlf
  · simp [bareLineEnding, hprevious] at hstrict
  · exact hcrlf

/-- The scan after a piece that does not end in a carriage return. -/
theorem strict_append {previous : Option UInt8} {piece rest : Bytes}
    (hpiece : piece.getLast?.or previous ≠ some carriageReturn)
    (hstrict : bareLineEnding previous (piece ++ rest) = false) :
    ∃ last, last ≠ some carriageReturn ∧ bareLineEnding last rest = false :=
  ⟨_, hpiece, bareLineEnding_append hstrict⟩

theorem strict_after_lineEnd {previous : Option UInt8} {ending rest : Bytes}
    (hending : IsLineEnd ending) (hstrict : bareLineEnding previous (ending ++ rest) = false) :
    ∃ last, last ≠ some carriageReturn ∧ bareLineEnding last rest = false := by
  refine strict_append ?_ hstrict
  rcases hending with rfl | rfl
  · simp [lineFeed, carriageReturn]
  · simp [crlf, lineFeed, carriageReturn]

/-- A line without a carriage return leaves none before its line end. -/
theorem strict_after_line {previous : Option UInt8} {line rest : Bytes} (hne : line ≠ [])
    (hline : carriageReturn ∉ line) (hstrict : bareLineEnding previous (line ++ rest) = false) :
    ∃ last, last ≠ some carriageReturn ∧ bareLineEnding last rest = false := by
  refine strict_append ?_ hstrict
  rw [List.getLast?_eq_some_getLast hne, Option.some_or, ne_eq, Option.some.injEq]
  intro hlast
  exact hline (hlast ▸ List.getLast_mem hne)

theorem isAsciiDigit_of_digitsValue {text : Bytes} {value result : Nat}
    (hvalue : digitsValue value text = some result) : ∀ b ∈ text, isAsciiDigit b = true := by
  induction text generalizing value with
  | nil => simp
  | cons b rest ih =>
      rw [digitsValue] at hvalue
      split at hvalue
      next hb => exact List.forall_mem_cons.mpr ⟨hb, ih hvalue⟩
      next => cases hvalue

theorem StatusLine.notMem_carriageReturn {version code : Nat} {line : Bytes}
    (hline : StatusLine version code line) : carriageReturn ∉ line := by
  obtain @⟨minor, digits, reason, hversion, -, hcode, -, hreason⟩ := hline
  have hdigit : ∀ b, isAsciiDigit b = true → carriageReturn ≠ b := by
    rintro b hb rfl
    exact absurd hb (by decide)
  simp only [List.mem_append, not_or]
  refine ⟨⟨⟨by decide, ?_⟩, ?_⟩, ?_⟩
  · have hminor := isAsciiDigit_of_digitsValue hversion minor List.mem_cons_self
    simpa using ⟨hdigit minor hminor, by decide⟩
  · intro hmem
    exact hdigit _ (isAsciiDigit_of_digitsValue hcode _ hmem) rfl
  · intro hmem
    exact ne_carriageReturn_of_isHeaderValueByte (hreason _ hmem) rfl

theorem FieldLines.strict {fields : List (Bytes × Bytes)} {text : Bytes}
    (hlines : FieldLines IsLineEnd fields text) {previous : Option UInt8}
    (hprevious : previous ≠ some carriageReturn) (hstrict : bareLineEnding previous text = false) :
    FieldLines IsCrlf fields text := by
  induction hlines generalizing previous with
  | @stop ending hending =>
      rw [← List.append_nil ending] at hstrict
      exact .stop (isCrlf_of_strict hprevious hending hstrict)
  | @field name before value after ending rest fields hne hname hblanks hvalue hending _ ih =>
      have hline : carriageReturn ∉ name ++ asBytes ":" ++ before ++ value ++ after := by
        simp only [List.mem_append, not_or]
        refine ⟨⟨⟨⟨?_, by decide⟩, ?_⟩, ?_⟩, ?_⟩
        · exact not_mem_of_isTokenByte hname (by decide)
        · exact fun hmem => ne_carriageReturn_of_isOws
            (hblanks _ (List.mem_append_left _ hmem)) rfl
        · exact fun hmem => ne_carriageReturn_of_isHeaderValueByte (hvalue _ hmem) rfl
        · exact fun hmem => ne_carriageReturn_of_isOws
            (hblanks _ (List.mem_append_right _ hmem)) rfl
      obtain ⟨last, hlast, hstrict⟩ := strict_after_line (by simp [hne]) hline hstrict
      obtain ⟨feed, hfeed, hafter⟩ := strict_after_lineEnd hending hstrict
      exact .field hne hname hblanks hvalue (isCrlf_of_strict hlast hending hstrict)
        (ih hfeed hafter)

/-- On a strict head every line ends in CR LF. -/
theorem ResponseHeadText.strict {version code : Nat} {fields : List (Bytes × Bytes)} {text : Bytes}
    (hhead : ResponseHeadText IsLineEnd version code fields text) {previous : Option UInt8}
    (hprevious : previous ≠ some carriageReturn) (hstrict : bareLineEnding previous text = false) :
    ResponseHeadText IsCrlf version code fields text := by
  induction hhead generalizing previous with
  | @status line ending rest hline hending hfields =>
      obtain ⟨last, hlast, hstrict⟩ :=
        strict_after_line (by cases hline; simp) hline.notMem_carriageReturn hstrict
      obtain ⟨feed, hfeed, hafter⟩ := strict_after_lineEnd hending hstrict
      exact .status hline (isCrlf_of_strict hlast hending hstrict) (hfields.strict hfeed hafter)
  | @blank ending rest hending _ ih =>
      obtain ⟨feed, hfeed, hafter⟩ := strict_after_lineEnd hending hstrict
      exact .blank (isCrlf_of_strict hprevious hending hstrict) (ih hfeed hafter)

theorem FieldLines.values {IsEnd : Bytes → Prop} {fields : List (Bytes × Bytes)} {text : Bytes}
    (hlines : FieldLines IsEnd fields text) :
    ∀ field ∈ fields, ∀ b ∈ field.2, isHeaderValueByte b = true := by
  induction hlines with
  | stop => simp
  | field _ _ _ hvalue _ _ ih => exact List.forall_mem_cons.mpr ⟨hvalue, ih⟩

theorem ResponseHeadText.values {IsEnd : Bytes → Prop} {version code : Nat}
    {fields : List (Bytes × Bytes)} {text : Bytes}
    (hhead : ResponseHeadText IsEnd version code fields text) :
    ∀ field ∈ fields, ∀ b ∈ field.2, isHeaderValueByte b = true := by
  induction hhead with
  | status _ _ hfields => exact hfields.values
  | blank _ _ ih => exact ih

/-! ## One trimming -/

theorem dropWhile_congr {p q : UInt8 → Bool} {value : Bytes} (hsame : ∀ b ∈ value, p b = q b) :
    value.dropWhile p = value.dropWhile q := by
  induction value with
  | nil => rfl
  | cons b rest ih =>
      rw [List.dropWhile_cons, List.dropWhile_cons, hsame b List.mem_cons_self,
        ih fun other hother => hsame other (List.mem_cons_of_mem _ hother)]

theorem isTrimAsciiByte_eq_isOws {b : UInt8} (hb : isHeaderValueByte b = true) :
    isTrimAsciiByte b = isOws b := by
  have hne : ∀ control, isHeaderValueByte control = false → (b == control) = false := by
    intro control hcontrol
    rw [beq_eq_false_iff_ne]
    rintro rfl
    rw [hb] at hcontrol
    cases hcontrol
  rw [isTrimAsciiByte, isOws, hne lineFeed (by decide), hne 0x0C (by decide),
    hne carriageReturn (by decide), Bool.or_false, Bool.or_false, Bool.or_false]

/-- In a field value only blanks are ASCII white space. -/
theorem trimAscii_eq_trimOws {value : Bytes} (hvalue : ∀ b ∈ value, isHeaderValueByte b = true) :
    trimAscii value = trimOws value := by
  have hsame : ∀ b ∈ value, isTrimAsciiByte b = isOws b :=
    fun b hb => isTrimAsciiByte_eq_isOws (hvalue b hb)
  rw [trimAscii, trimOws, dropWhile_congr hsame, List.rdropWhile, List.rdropWhile,
    dropWhile_congr (q := isOws)]
  intro b hb
  rw [List.mem_reverse] at hb
  exact hsame b (List.dropWhile_subset isOws hb)

/-! ## Framing -/

/-- At most one framing field: a length of digits or the chunked coding. The last
argument is the length that is declared. -/
inductive ResponseFraming (contentLengths transferEncodings : List Bytes) : Option Nat → Prop
  | unframed (hlengths : contentLengths = []) (hencodings : transferEncodings = []) :
      ResponseFraming contentLengths transferEncodings none
  | length {value : Bytes} {length : Nat} (hlengths : contentLengths = [value])
      (hencodings : transferEncodings = []) (hne : trimOws value ≠ [])
      (hdigits : ∀ b ∈ trimOws value, isAsciiDigit b = true)
      (hlength : digitsValue 0 (trimOws value) = some length) (hbound : length < 2 ^ 64) :
      ResponseFraming contentLengths transferEncodings (some length)
  | chunked {value : Bytes} (hlengths : contentLengths = [])
      (hencodings : transferEncodings = [value])
      (hchunked : lowercase (trimOws value) = asBytes "chunked") :
      ResponseFraming contentLengths transferEncodings none

/-- On digits the integer parser meets no plus sign. -/
theorem parseU64_digits {text : Bytes} (hne : text ≠ [])
    (hdigits : ∀ b ∈ text, isAsciiDigit b = true) :
    parseU64 text = (digitsValue 0 text).filter (· < 2 ^ 64) := by
  have hplus : text.head? ≠ some plus := by
    intro hhead
    exact absurd (hdigits plus (List.mem_of_head? hhead)) (by decide)
  rw [parseU64, if_neg hplus, if_neg hne]

theorem headerValues_valid {fields : List (Bytes × Bytes)}
    (hfields : ∀ field ∈ fields, ∀ b ∈ field.2, isHeaderValueByte b = true) {name value : Bytes}
    (hvalue : value ∈ headerValues fields name) : ∀ b ∈ value, isHeaderValueByte b = true := by
  obtain ⟨field, hfield, rfl⟩ := List.mem_map.mp hvalue
  exact hfields field (List.mem_of_mem_filter hfield)

theorem validateResponseFraming_ok {fields : List (Bytes × Bytes)}
    (hfields : ∀ field ∈ fields, ∀ b ∈ field.2, isHeaderValueByte b = true)
    (hok : validateResponseFraming fields = .ok ()) :
    ∃ declared, ResponseFraming (headerValues fields Header.contentLength)
      (headerValues fields Header.transferEncoding) declared := by
  have htrim : ∀ {name value}, headerValues fields name = [value] →
      trimAscii value = trimOws value :=
    fun hvalues => trimAscii_eq_trimOws
      (headerValues_valid hfields (by rw [hvalues]; exact List.mem_singleton_self _))
  simp only [validateResponseFraming, rejectIf_bind_eq_ok_iff, rejectIf_eq_ok_iff,
    Bool.or_eq_false_iff, decide_eq_false_iff_not, Bool.and_eq_false_iff, bne_eq_false_iff_eq]
    at hok
  obtain ⟨⟨⟨hlengths, hencodings⟩, heither⟩, hlength, hencoding⟩ := hok
  rcases eq_nil_or_singleton hlengths with hlengths | ⟨value, hlengths⟩
  · rcases eq_nil_or_singleton hencodings with hencodings | ⟨value, hencodings⟩
    · exact ⟨none, .unframed hlengths hencodings⟩
    · simp only [hencodings, List.head?_cons, Option.any_some, Bool.not_eq_false',
        htrim hencodings, eqIgnoreAsciiCase_iff] at hencoding
      exact ⟨none, .chunked hlengths hencodings hencoding⟩
  · have hnone := heither.resolve_left (by rw [hlengths]; exact List.cons_ne_nil _ _)
    simp only [hlengths, List.head?_cons, Option.any_some, htrim hlengths, Bool.or_eq_false_iff,
      beq_eq_false_iff_ne, Bool.not_eq_false', List.all_eq_true, Option.isNone_eq_false_iff,
      Option.isSome_iff_exists] at hlength
    obtain ⟨⟨hne, hdigits⟩, length, hparse⟩ := hlength
    rw [parseU64_digits hne hdigits, Option.filter_eq_some_iff, decide_eq_true_eq] at hparse
    exact ⟨some length, .length hlengths hnone hne hdigits hparse.1 hparse.2⟩

/-! ## The second reading -/

/-- The values of a field in the header map are the trimmed values in the head. -/
theorem IsHeaderMapOf.getAll {fields : List (Bytes × Bytes)} {headers : HeaderMap}
    (hmap : IsHeaderMapOf fields headers) {name : HeaderName} (hname : lowercase name = name) :
    (headers.getAll name).map HeaderValue.bytes = (headerValues fields name).map trimOws := by
  rw [hmap name, headerValues, List.map_map]
  congr 1
  apply List.filter_congr
  intro field _
  rw [eqIgnoreAsciiCase, hname, beq_eq_decide]

/-- The header map declares the length that the bytes declare. -/
theorem declaredResponseLength_of_framing {fields : List (Bytes × Bytes)} {headers : HeaderMap}
    (hmap : IsHeaderMapOf fields headers) {declared : Option Nat}
    (hframing : ResponseFraming (headerValues fields Header.contentLength)
      (headerValues fields Header.transferEncoding) declared) :
    declaredResponseLength headers = .ok declared := by
  have hvalues := hmap.getAll (show lowercase Header.contentLength = _ by decide)
  have hnone : headerValues fields Header.contentLength = [] →
      declaredResponseLength headers = .ok none := by
    intro hlengths
    rw [hlengths, List.map_nil, List.map_eq_nil_iff] at hvalues
    rw [declaredResponseLength, hvalues]
  cases hframing with
  | unframed hlengths _ => exact hnone hlengths
  | chunked hlengths _ _ => exact hnone hlengths
  | @length value length hlengths _ hne hdigits hlength hbound =>
      rw [hlengths, List.map_singleton, List.map_eq_singleton_iff] at hvalues
      obtain ⟨header, hheader, hbytes⟩ := hvalues
      have htext : header.toStr? = some (trimOws value) := by
        rw [HeaderValue.toStr?_eq_some_iff, hbytes]
        exact ⟨rfl, fun b hb => isVisibleAscii_of_isAsciiDigit (hdigits b hb)⟩
      have hparse : parseU64 (trimOws value) = some length := by
        rw [parseU64_digits hne hdigits, hlength, Option.filter_some,
          if_pos (by simpa using hbound)]
      rw [declaredResponseLength, hheader]
      simp only [htext, hparse, okOr_some, ok_bind]
      rfl

/-- Why the second check may still refuse a head, and the error of each reason. -/
inductive RefusedHead (requestMethod : Method) (status : Nat) (headers : HeaderMap)
    (declared : Option Nat) (limit : Nat) : BoxError → Prop
  | trailer (htrailer : headers.containsKey Header.trailer = true) :
      RefusedHead requestMethod status headers declared limit
        (.other "upstream response trailers are unsupported")
  | noContent (hstatus : status = Status.noContent)
      (hframed : (∃ length, declared = some length) ∨
        headers.containsKey Header.transferEncoding = true) :
      RefusedHead requestMethod status headers declared limit
        (.other "upstream no-content response used forbidden framing")
  | resetContent (hstatus : status = Status.resetContent)
      (hframed : (∃ length, declared = some length ∧ length ≠ 0) ∨
        headers.containsKey Header.transferEncoding = true) :
      RefusedHead requestMethod status headers declared limit
        (.other "upstream reset-content response used forbidden framing")
  | length {length : Nat} (hallows : ¬ForbidsBody requestMethod status)
      (hdeclared : declared = some length) (hlimit : limit < length) :
      RefusedHead requestMethod status headers declared limit
        (.other "upstream response length exceeded limit")

theorem validateResponseBodyHead_refused {requestMethod : Method} {status limit : Nat}
    {headers : HeaderMap} {declared : Option Nat} {error : BoxError}
    (hdeclared : declaredResponseLength headers = .ok declared)
    (herror : validateResponseBodyHead requestMethod status headers limit = .error error) :
    RefusedHead requestMethod status headers declared limit error := by
  rw [validateResponseBodyHead, hdeclared] at herror
  simp only [bind_eq_error_iff, rejectIf_eq_error_iff, rejectIf_eq_ok_iff, ok_bind] at herror
  rcases herror with ⟨htrailer, rfl⟩ | ⟨-, -, ⟨hframing, rfl⟩ | ⟨-, -, ⟨hframing, rfl⟩ | hrest⟩⟩
  · exact .trailer htrailer
  · simp only [Bool.and_eq_true, beq_iff_eq, Bool.or_eq_true, Option.isSome_iff_exists] at hframing
    exact .noContent hframing.1 hframing.2
  · simp only [Bool.and_eq_true, beq_iff_eq, Bool.or_eq_true, Option.any_eq_true,
      bne_iff_ne] at hframing
    exact .resetContent hframing.1 hframing.2
  · obtain ⟨-, -, hrest⟩ := hrest
    split at hrest
    · exact absurd hrest pure_ne_error
    next hallows =>
      simp only [bind_eq_error_iff, rejectIf_eq_error_iff, pure_ne_error, and_false, exists_false,
        or_false, Option.any_eq_true, decide_eq_true_eq] at hrest
      obtain ⟨⟨length, hlength, hlimit⟩, rfl⟩ := hrest
      exact .length hallows hlength hlimit

/-! ## Agreement -/

/-- What a head that the guard accepts is. -/
structure AcceptedHead (crates : Crates Url) (bytes : Bytes) (maxHeaders : Nat)
    (allowSwitchingProtocols : Bool) (code : Nat) (fields : List (Bytes × Bytes))
    (declared : Option Nat) : Prop where
  /-- The parser takes all of the head, and reads these fields. -/
  parsed : crates.parseResponse bytes maxHeaders =
    some (.complete ⟨bytes.length, some 1, some code, fields⟩)
  text : ResponseHeadText IsCrlf 1 code fields bytes
  carriageReturns : ∀ before after, bytes = before ++ carriageReturn :: after →
    after.head? = some lineFeed
  lineFeeds : ∀ before after, bytes = before ++ lineFeed :: after →
    before.getLast? = some carriageReturn
  status : (200 ≤ code ∧ code ≤ 599) ∨ (code = 101 ∧ allowSwitchingProtocols = true)
  framing : ResponseFraming (headerValues fields Header.contentLength)
    (headerValues fields Header.transferEncoding) declared

/-- What the second check makes of the header map of such a head. -/
structure SecondReading (code : Nat) (headers : HeaderMap) (declared : Option Nat) : Prop where
  length : declaredResponseLength headers = .ok declared
  accepted : ∀ requestMethod limit policy,
    validateResponseBodyHead requestMethod code headers limit = .ok policy →
    policy = .streaming declared ∨ policy = .forbidden declared
  refused : ∀ requestMethod limit error,
    validateResponseBodyHead requestMethod code headers limit = .error error →
    RefusedHead requestMethod code headers declared limit error

theorem secondReading_of_framing {code : Nat} {fields : List (Bytes × Bytes)} {headers : HeaderMap}
    (hmap : IsHeaderMapOf fields headers) {declared : Option Nat}
    (hframing : ResponseFraming (headerValues fields Header.contentLength)
      (headerValues fields Header.transferEncoding) declared) :
    SecondReading code headers declared := by
  have hlength := declaredResponseLength_of_framing hmap hframing
  refine ⟨hlength, ?_, fun _ _ _ => validateResponseBodyHead_refused hlength⟩
  intro requestMethod limit policy hok
  obtain ⟨other, hother, hpolicy⟩ := validateResponseBodyHead_ok hok
  rw [hlength, Except.ok.injEq] at hother
  subst hother
  rcases hpolicy with ⟨-, hforbidden⟩ | ⟨-, hstreaming⟩
  · exact .inr hforbidden
  · exact .inl hstreaming

theorem statusAllowed_iff {code : Nat} {allowSwitchingProtocols : Bool} :
    statusAllowed (some code) allowSwitchingProtocols = true ↔
      (200 ≤ code ∧ code ≤ 599) ∨ (code = 101 ∧ allowSwitchingProtocols = true) := by
  simp [statusAllowed]

/-- Every head that the guard accepts is a strict and unambiguously framed HTTP/1.1
head, and the proxy reads the same length from its header map. -/
theorem validateResponseHead_agrees {crates : Crates Url} (hparser : ParsesResponseHeads crates)
    {bytes : Bytes} {maxHeaders : Nat} {allowSwitchingProtocols : Bool}
    (hok : validateResponseHead crates bytes maxHeaders allowSwitchingProtocols = .ok ()) :
    ∃ code fields declared,
      AcceptedHead crates bytes maxHeaders allowSwitchingProtocols code fields declared ∧
      ∀ headers, IsHeaderMapOf fields headers → SecondReading code headers declared := by
  simp only [validateResponseHead, rejectIf_bind_eq_ok_iff, okOr_bind_eq_ok_iff] at hok
  obtain ⟨hstrict, parsed, hparse, hok⟩ := hok
  cases parsed with
  | incomplete => cases hok
  | complete response =>
      simp only [rejectIf_bind_eq_ok_iff, Bool.or_eq_false_iff, bne_eq_false_iff_eq,
        Bool.not_eq_false'] at hok
      obtain ⟨⟨⟨hconsumed, hversion⟩, hstatus⟩, -, hframing⟩ := hok
      obtain ⟨version, code, htext, -, -, hparsedVersion, hcode⟩ := hparser _ _ _ hparse
      obtain ⟨consumed, responseVersion, responseCode, fields⟩ := response
      simp only at hconsumed hversion hstatus hframing htext hparsedVersion hcode
      subst hconsumed hversion hcode
      rw [Option.some.injEq] at hparsedVersion
      subst hparsedVersion
      rw [List.take_length] at htext
      obtain ⟨declared, hdeclared⟩ := validateResponseFraming_ok htext.values hframing
      refine ⟨code, fields, declared, ⟨hparse, htext.strict (by simp) hstrict, ?_, ?_,
        statusAllowed_iff.mp hstatus, hdeclared⟩,
        fun headers hmap => secondReading_of_framing hmap hdeclared⟩
      · exact fun _ _ => head?_of_carriageReturn hstrict
      · exact fun _ _ => getLast?_of_lineFeed hstrict

/-! ## A head with a length -/

def threeByteHead : Bytes := asBytes "HTTP/1.1 200 OK\r\nContent-Length: 3 \r\n\r\n"

def threeByteFields : List (Bytes × Bytes) := [(asBytes "Content-Length", asBytes "3")]

/-- The response parser on one head, as a table. -/
def threeByteCrates : Crates Unit :=
  { Crates.unavailable with
    parseResponse := fun text maxHeaders =>
      if text = threeByteHead ∧ 1 ≤ maxHeaders then
        some (.complete ⟨threeByteHead.length, some 1, some 200, threeByteFields⟩)
      else none }

theorem threeByteCrates_parses : ParsesResponseHeads threeByteCrates := by
  intro bytes maxHeaders response hparse
  obtain ⟨⟨rfl, hroom⟩, hresponse⟩ : (bytes = threeByteHead ∧ 1 ≤ maxHeaders) ∧
      response = ⟨threeByteHead.length, some 1, some 200, threeByteFields⟩ := by
    simp only [threeByteCrates] at hparse
    split at hparse
    next hhead =>
      rw [Option.some.injEq, ParseStatus.complete.injEq] at hparse
      exact ⟨hhead, hparse.symm⟩
    next => cases hparse
  subst hresponse
  refine ⟨1, 200, ?_, le_rfl, hroom, rfl, rfl⟩
  rw [List.take_length]
  have hline : StatusLine 1 200 (asBytes "HTTP/1.1 200 OK") :=
    @StatusLine.line 1 200 0x31 (asBytes "200") (asBytes " OK")
      rfl rfl rfl (.inr rfl) (by decide +kernel)
  have hfields : FieldLines IsLineEnd threeByteFields (asBytes "Content-Length: 3 \r\n\r\n") :=
    @FieldLines.field IsLineEnd (asBytes "Content-Length") (asBytes " ") (asBytes "3")
      (asBytes " ") crlf crlf [] (by decide +kernel) (by decide +kernel) (by decide +kernel)
      (by decide +kernel)
      (.inr rfl) (.stop (.inr rfl))
  exact .status hline (.inr rfl) hfields

/-- The head is accepted, and its header map declares three bytes. -/
theorem validateResponseHead_agrees_threeBytes :
    ∃ code fields declared,
      AcceptedHead threeByteCrates threeByteHead 1 false code fields declared ∧
      declaredResponseLength (Multimap.empty.append Header.contentLength
        (.fromStatic "3" (by decide))) = .ok (some 3) ∧
      SecondReading code (Multimap.empty.append Header.contentLength
        (.fromStatic "3" (by decide))) declared := by
  obtain ⟨code, fields, declared, haccepted, hsecond⟩ :=
    validateResponseHead_agrees threeByteCrates_parses
      (show validateResponseHead threeByteCrates threeByteHead 1 false = .ok () by decide +kernel)
  have hfields : fields = threeByteFields := by
    have hparsed := haccepted.parsed
    rw [show threeByteCrates.parseResponse threeByteHead 1 = some (.complete
      ⟨threeByteHead.length, some 1, some 200, threeByteFields⟩) by decide +kernel,
      Option.some.injEq, ParseStatus.complete.injEq, ParsedResponseHead.mk.injEq] at hparsed
    exact hparsed.2.2.2.symm
  refine ⟨code, fields, declared, haccepted, by decide +kernel, hsecond _ ?_⟩
  intro name
  rw [hfields]
  by_cases hname : name = Header.contentLength
  · subst hname
    decide +kernel
  · have hlower : lowercase (asBytes "Content-Length") ≠ name := fun heq =>
      hname (heq.symm.trans (by decide))
    rw [Multimap.getAll_append_of_ne _ _ (Ne.symm (Ne.symm hname))]
    simp [threeByteFields, hlower]

end Rpackit.Transport
