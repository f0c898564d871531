import Rpackit.Transport.Admitted

/-! # Which heads are admitted

Much is known of a head that passes admission. Admission asks for nothing else: a head with
strict lines within its limits, whose request is one of HTTP/1.1 for a local path and whose
fields are unambiguous, is admitted, and what is reported on it follows from its fields.
-/

namespace Rpackit.Transport

open Text Fallible

/-! ## Raw lines -/

theorem bareLineEnding_eq_false {previous : Option UInt8} {text : Bytes}
    (hreturns : ∀ before after, text = before ++ carriageReturn :: after →
      after.head? = some lineFeed)
    (hfeeds : ∀ before after, text = before ++ lineFeed :: after →
      before.getLast?.or previous = some carriageReturn) :
    bareLineEnding previous text = false := by
  induction text generalizing previous with
  | nil => rfl
  | cons b rest ih =>
      rw [bareLineEnding, Bool.or_eq_false_iff, Bool.or_eq_false_iff]
      refine ⟨⟨?_, ?_⟩, ih ?_ ?_⟩
      · by_cases hb : b = lineFeed
        · subst hb
          have hprevious : previous = some carriageReturn := hfeeds [] rest rfl
          simp [hprevious]
        · simp [hb]
      · by_cases hb : b = carriageReturn
        · subst hb
          simp [hreturns [] rest rfl]
        · simp [hb]
      · intro before after hrest
        exact hreturns (b :: before) after (congrArg (b :: ·) hrest)
      · intro before after hrest
        have hlast := hfeeds (b :: before) after (congrArg (b :: ·) hrest)
        rw [List.getLast?_cons, Option.some_or] at hlast
        cases hbefore : before.getLast? with
        | none => rwa [hbefore] at hlast
        | some last => rwa [hbefore] at hlast

/-- A scan that finds a folded line has seen one that begins with a blank. -/
theorem exists_folded {lines : List Bytes} (hfolded : foldedLine lines = true) :
    ∃ first rest, first :: rest ∈ lines ∧ (first = space ∨ first = tab) := by
  induction lines with
  | nil => cases hfolded
  | cons line lines ih =>
      rw [foldedLine] at hfolded
      split at hfolded
      next => cases hfolded
      next first content hcontent =>
        have hfirst : ∃ rest, line = first :: rest := by
          split at hcontent
          · cases line with
            | nil => cases hcontent
            | cons head rest =>
                cases rest with
                | nil => cases hcontent
                | cons second rest =>
                    obtain ⟨rfl, -⟩ := List.cons.inj hcontent
                    exact ⟨_, rfl⟩
          · exact ⟨content, hcontent⟩
        obtain ⟨rest, rfl⟩ := hfirst
        simp only [Bool.or_eq_true, beq_iff_eq] at hfolded
        obtain hblank | hlater := hfolded
        · exact ⟨first, rest, List.mem_cons_self, hblank⟩
        · obtain ⟨other, others, hmem, hblank⟩ := ih hlater
          exact ⟨other, others, List.mem_cons_of_mem _ hmem, hblank⟩

theorem StrictLines.unfoldedLines {head : Bytes} (hstrict : StrictLines head) :
    foldedLine (head.splitOn lineFeed).tail = false := by
  obtain ⟨top, lines, hlines⟩ :=
    List.exists_cons_of_ne_nil (List.splitOn_ne_nil lineFeed head)
  rw [hlines, List.tail_cons, Bool.eq_false_iff]
  intro hfolded
  obtain ⟨first, rest, hmem, hblank⟩ := exists_folded hfolded
  obtain ⟨before, after, hplace⟩ := (splitOn_parts hlines).2 _ hmem
  -- the separator behind the text is not the one before the line
  have hhead : ∃ after, head = before ++ lineFeed :: first :: after := by
    have hprefix : before ++ [lineFeed, first] <+: head ++ [lineFeed] :=
      ⟨rest ++ lineFeed :: after, by simp [hplace]⟩
    obtain hsame | hinside := List.prefix_concat_iff.mp hprefix
    · have hfirst : first = lineFeed := by
        have hlast := congrArg List.getLast? hsame
        simpa using hlast
      subst hfirst
      exact absurd hblank (by decide)
    · obtain ⟨tail, htail⟩ := hinside
      exact ⟨tail, by simp [← htail]⟩
  obtain ⟨tail, rfl⟩ := hhead
  obtain ⟨start, rfl⟩ := List.getLast?_eq_some_iff.mp (hstrict.lineFeeds before _ rfl)
  obtain ⟨hspace, htab⟩ := hstrict.unfolded start first tail (by simp [crlf])
  exact hblank.elim hspace htab

theorem StrictLines.valid {head : Bytes} (hstrict : StrictLines head) :
    validateLineEndings head = .ok () := by
  simp only [validateLineEndings, rejectIf_bind_eq_ok_iff, rejectIf_eq_ok_iff]
  refine ⟨by simpa using hstrict.noNul, ?_, hstrict.unfoldedLines⟩
  refine bareLineEnding_eq_false hstrict.carriageReturns fun before after hhead => ?_
  rw [hstrict.lineFeeds before after hhead, Option.some_or]

/-! ## Method, target and fields -/

section Parts

variable {Url : Type} {crates : Crates Url}

theorem validateMethod_eq_ok_iff {method : Bytes} :
    validateMethod method = .ok () ↔ (∀ b ∈ method, isTokenByte b = true) ∧
      lowercase method ≠ asBytes "connect" ∧ lowercase method ≠ asBytes "trace" := by
  refine ⟨validateMethod_eq_ok, ?_⟩
  rintro ⟨htoken, hconnect, htrace⟩
  simp only [validateMethod, rejectIf_bind_eq_ok_iff, rejectIf_eq_ok_iff, Bool.not_eq_false',
    List.all_eq_true, Bool.or_eq_false_iff, eqIgnoreAsciiCase, beq_eq_false_iff_ne]
  exact ⟨htoken, hconnect, htrace⟩

theorem validateTarget_eq_ok_iff {target : Bytes} :
    validateTarget crates target = .ok () ↔ OriginForm crates target := by
  refine ⟨validateTarget_originForm, fun horigin => ?_⟩
  obtain ⟨uri, huri, hnone⟩ := horigin.parsed
  simp only [validateTarget, rejectIf_bind_eq_ok_iff, okOr_bind_eq_ok_iff, rejectIf_eq_ok_iff,
    Bool.or_eq_false_iff, bne_eq_false_iff_eq]
  refine ⟨⟨⟨horigin.slash, ?_⟩, by simpa using horigin.noFragment⟩, uri, huri, by simp [hnone]⟩
  rw [Bool.eq_false_iff, ne_eq, List.isPrefixOf_iff_prefix]
  exact horigin.notAuthority

/-- Every line with a field name and a valid value is taken. -/
theorem exists_collectHeaders (values : RawHeaders) {headers : List (Bytes × Bytes)}
    (hfields : ∀ header ∈ headers, (∃ name, crates.headerNameFromBytes header.1 = some name) ∧
      ∀ b ∈ header.2, isHeaderValueByte b = true) :
    ∃ result, collectHeaders crates values headers = .ok result := by
  induction headers generalizing values with
  | nil => exact ⟨values, rfl⟩
  | cons header rest ih =>
      obtain ⟨⟨⟨name, hname⟩, hvalue⟩, hrest⟩ := List.forall_mem_cons.mp hfields
      obtain ⟨result, hresult⟩ := ih (values.append name (trimOws header.2)) hrest
      refine ⟨result, ?_⟩
      simp only [collectHeaders, okOr_bind_eq_ok_iff]
      refine ⟨name, hname, ⟨header.2, List.all_eq_true.mpr hvalue⟩, ?_, hresult⟩
      exact HeaderValue.fromBytes?_eq_some_iff.mpr rfl

/-! ## Texts that are ASCII -/

theorem exists_decodeUtf8 {entry : Bytes} (hascii : IsAscii entry) :
    ∃ text, decodeUtf8 entry = some text := by
  refine ⟨asciiScalars entry, ?_⟩
  rw [decodeUtf8_eq_some_iff]
  exact (encodeUtf8_asciiScalars hascii).symm

theorem isAscii_asBytes_chunked : IsAscii (asBytes "chunked") := by
  unfold IsAscii
  decide +kernel

theorem isAscii_asBytes_websocket : IsAscii (asBytes "websocket") := by
  unfold IsAscii
  decide +kernel

theorem isAscii_of_digits {entry : Bytes} (hdigits : ∀ b ∈ entry, isAsciiDigit b = true) :
    IsAscii entry := by
  have hbyte : ∀ b, isAsciiDigit b = true → b.toNat < 0x80 := forall_byte (by decide +kernel)
  exact fun b hb => hbyte b (hdigits b hb)

/-- A text is ASCII if its lower-case form is. -/
theorem isAscii_of_lowercase {entry word : Bytes} (hword : IsAscii word)
    (hlower : lowercase entry = word) : IsAscii entry := by
  have hbyte : ∀ b, (toAsciiLowercase b).toNat < 0x80 → b.toNat < 0x80 :=
    forall_byte (by decide +kernel)
  intro b hb
  apply hbyte
  apply hword
  rw [← hlower]
  exact List.mem_map_of_mem hb

/-! ## Framing, tokens and upgrade -/

variable {values : RawHeaders} {limits : TransportLimits}

theorem validateContentLength_of {entry : Bytes} {length : Nat} (hne : entry ≠ [])
    (hdigits : ∀ b ∈ entry, isAsciiDigit b = true) (hparse : parseU64 entry = some length)
    (hbound : length ≤ limits.maxRequestBodyBytes) :
    validateContentLength limits entry = .ok () := by
  obtain ⟨text, htext⟩ := exists_decodeUtf8 (isAscii_of_digits hdigits)
  simp only [validateContentLength, okOr_bind_eq_ok_iff, rejectIf_bind_eq_ok_iff,
    rejectIf_eq_ok_iff, Bool.or_eq_false_iff, beq_eq_false_iff_ne, Bool.not_eq_false',
    List.all_eq_true, decide_eq_false_iff_not, not_lt]
  exact ⟨text, htext, ⟨hne, hdigits⟩, length, hparse, hbound⟩

theorem validateTransferEncoding_of {entry : Bytes}
    (hchunked : lowercase entry = asBytes "chunked") :
    validateTransferEncoding entry = .ok () := by
  obtain ⟨text, htext⟩ := exists_decodeUtf8 (isAscii_of_lowercase isAscii_asBytes_chunked hchunked)
  simp only [validateTransferEncoding, okOr_bind_eq_ok_iff, rejectIf_eq_ok_iff,
    Bool.not_eq_false', eqIgnoreAsciiCase_iff]
  exact ⟨text, htext, hchunked⟩

theorem validateFraming_eq_ok_iff : validateFraming values limits = .ok () ↔
    UnambiguousFraming limits (values.getAll Header.contentLength)
      (values.getAll Header.transferEncoding) := by
  refine ⟨validateFraming_unambiguous, fun hframing => ?_⟩
  have hnone : ∀ {check : Bytes → Except AdmissionError Unit}, [].forM check = .ok () :=
    forM_eq_ok_iff.mpr (List.forall_mem_nil _)
  simp only [validateFraming, rejectIf_bind_eq_ok_iff]
  simp only [bind_eq_ok_iff]
  obtain ⟨hlengths, hencodings⟩ | ⟨entry, length, hlengths, hencodings, hne, hdigits, hparse,
    hbound⟩ | ⟨entry, hlengths, hencodings, hchunked⟩ := hframing
  · rw [hlengths, hencodings]
    exact ⟨rfl, (), hnone, hnone⟩
  · rw [hlengths, hencodings]
    have hentry := validateContentLength_of hne hdigits hparse hbound
    exact ⟨rfl, (), forM_eq_ok_iff.mpr (List.forall_mem_singleton.mpr hentry), hnone⟩
  · rw [hlengths, hencodings]
    have hentry := validateTransferEncoding_of hchunked
    exact ⟨rfl, (), hnone, forM_eq_ok_iff.mpr (List.forall_mem_singleton.mpr hentry)⟩

/-- The tokens that a `Connection` field lists, in lower case. -/
def ListsTokens (entries tokens : List Bytes) : Prop :=
  (entries = [] ∧ tokens = []) ∨ ∃ entry listed, entries = [entry] ∧
    TokenList WhiteSpaceText entry listed ∧ tokens = listed.map lowercase

theorem parseConnectionTokens_eq_ok_listed {tokens : List Bytes}
    (hsingle : (values.getAll Header.connection).length ≤ 1) :
    parseConnectionTokens values = .ok tokens ↔
      ListsTokens (values.getAll Header.connection) tokens := by
  obtain hnone | ⟨entry, hentry⟩ := eq_nil_or_singleton (Nat.not_lt.mpr hsingle)
  · simp [parseConnectionTokens, Multimap.get?, ListsTokens, hnone, eq_comm]
  · have hget : values.get? Header.connection = some entry := by rw [Multimap.get?, hentry]; rfl
    rw [parseConnectionTokens_eq_ok_iff hget]
    simp [ListsTokens, hentry]

/-- An upgrade is asked for by both fields, or by none. -/
def AsksUpgrade (entries tokens : List Bytes) (upgrade : Bool) : Prop :=
  (upgrade = false ∧ entries = [] ∧ Header.upgrade ∉ tokens) ∨
    (upgrade = true ∧ Header.upgrade ∈ tokens ∧
      ∃ entry, entries = [entry] ∧ lowercase entry = asBytes "websocket")

theorem validateUpgrade_eq_ok_iff {tokens : List Bytes} {upgrade : Bool}
    (hsingle : (values.getAll Header.upgrade).length ≤ 1) :
    validateUpgrade values tokens = .ok upgrade ↔
      values.getAll (asBytes "http2-settings") = [] ∧
        AsksUpgrade (values.getAll Header.upgrade) tokens upgrade := by
  simp only [validateUpgrade, rejectIf_bind_eq_ok_iff, Multimap.containsKey_eq_false_iff]
  refine and_congr_right fun _ => ?_
  obtain hnone | ⟨entry, hentry⟩ := eq_nil_or_singleton (Nat.not_lt.mpr hsingle)
  · rw [Multimap.get?, hnone]
    simp only [List.head?_nil, rejectIf_bind_eq_ok_iff, pure_eq_ok_iff]
    simp [AsksUpgrade, and_comm]
  · rw [Multimap.get?, hentry]
    simp only [List.head?_cons, okOr_bind_eq_ok_iff, rejectIf_bind_eq_ok_iff, pure_eq_ok_iff,
      Bool.or_eq_false_iff, Bool.not_eq_false', eqIgnoreAsciiCase_iff, AsksUpgrade]
    constructor
    · rintro ⟨text, -, ⟨htoken, hwebsocket⟩, rfl⟩
      exact .inr ⟨rfl, List.contains_iff_mem.mp htoken, entry, rfl, hwebsocket⟩
    · rintro (⟨-, hnone, -⟩ | ⟨rfl, htoken, other, hother, hwebsocket⟩)
      · cases hnone
      · obtain rfl := List.singleton_inj.mp hother
        obtain ⟨text, htext⟩ :=
          exists_decodeUtf8 (isAscii_of_lowercase isAscii_asBytes_websocket hwebsocket)
        exact ⟨text, htext, ⟨List.contains_iff_mem.mpr htoken, hwebsocket⟩, rfl⟩

end Parts

/-! ## The whole verdict -/

/-- All that is asked of a request, and what is reported on it. -/
structure ExactRequest {Url : Type} (crates : Crates Url) (expectedAuthority : Bytes)
    (limits : TransportLimits) (request : ParsedRequestHead) (raw : RawAdmission) : Prop where
  version : request.version = some 1
  method : ∃ method, request.method = some method ∧ (∀ b ∈ method, isTokenByte b = true) ∧
    lowercase method ≠ asBytes "connect" ∧ lowercase method ≠ asBytes "trace"
  target : ∃ target, request.path = some target ∧ OriginForm crates target
  fields : ∀ header ∈ request.headers, (∃ name, crates.headerNameFromBytes header.1 = some name) ∧
    ∀ b ∈ header.2, isHeaderValueByte b = true
  host : fieldValues crates request.headers (asBytes "host") = [expectedAuthority]
  singular : ∀ name ∈ singularHeaders, (fieldValues crates request.headers name).length ≤ 1
  framing : UnambiguousFraming limits
    (fieldValues crates request.headers (asBytes "content-length"))
    (fieldValues crates request.headers (asBytes "transfer-encoding"))
  notHttp2 : fieldValues crates request.headers (asBytes "http2-settings") = []
  tokens : ListsTokens (fieldValues crates request.headers (asBytes "connection"))
    raw.connectionTokens
  unprotected : ∀ token ∈ raw.connectionTokens, isProtectedConnectionTarget token = false
  upgrade : AsksUpgrade (fieldValues crates request.headers (asBytes "upgrade"))
    raw.connectionTokens raw.websocketUpgrade

section Verdict

variable {Url : Type} {crates : Crates Url} {expectedAuthority : Bytes} {limits : TransportLimits}
  {request : ParsedRequestHead} {raw : RawAdmission} {values : RawHeaders}

theorem validateHeaders_eq_ok_iff : validateHeaders values expectedAuthority limits = .ok raw ↔
    values.getAll Header.host = [expectedAuthority] ∧
    (∀ name ∈ singularHeaders, (values.getAll name).length ≤ 1) ∧
    UnambiguousFraming limits (values.getAll Header.contentLength)
      (values.getAll Header.transferEncoding) ∧
    values.getAll (asBytes "http2-settings") = [] ∧
    ListsTokens (values.getAll Header.connection) raw.connectionTokens ∧
    (∀ token ∈ raw.connectionTokens, isProtectedConnectionTarget token = false) ∧
    AsksUpgrade (values.getAll Header.upgrade) raw.connectionTokens raw.websocketUpgrade := by
  have hsingular : (singularHeaders.any fun name => (values.getAll name).length > 1) = false ↔
      ∀ name ∈ singularHeaders, (values.getAll name).length ≤ 1 := by
    simp
  simp only [validateHeaders, requireExactAuthority, rejectAmbiguousSecurityHeaders,
    rejectIf_bind_eq_ok_iff, bne_eq_false_iff_eq, hsingular]
  simp only [bind_eq_ok_iff, rejectIf_eq_ok_iff, pure_eq_ok_iff]
  constructor
  · rintro ⟨hhost, hsingle, _, hframing, tokens, htokens, _, hunprotected, upgrade, hupgrade, rfl⟩
    rw [parseConnectionTokens_eq_ok_listed (hsingle _ (by decide))] at htokens
    rw [validateUpgrade_eq_ok_iff (hsingle _ (by decide))] at hupgrade
    refine ⟨hhost, hsingle, validateFraming_eq_ok_iff.mp hframing, hupgrade.1, htokens, ?_,
      hupgrade.2⟩
    simpa using hunprotected
  · rintro ⟨hhost, hsingle, hframing, hsettings, htokens, hunprotected, hupgrade⟩
    refine ⟨hhost, hsingle, (), validateFraming_eq_ok_iff.mpr hframing, raw.connectionTokens, ?_,
      (), by simpa using hunprotected, raw.websocketUpgrade, ?_, rfl⟩
    · exact (parseConnectionTokens_eq_ok_listed (hsingle _ (by decide))).mpr htokens
    · exact (validateUpgrade_eq_ok_iff (hsingle _ (by decide))).mpr ⟨hsettings, hupgrade⟩

theorem exactRequest_of_admitted {method target : Bytes} (hversion : request.version = some 1)
    (hmethod : request.method = some method) (htarget : request.path = some target)
    (hcheckedMethod : validateMethod method = .ok ())
    (hcheckedTarget : validateTarget crates target = .ok ())
    (hvalues : collectHeaders crates Multimap.empty request.headers = .ok values)
    (hok : validateHeaders values expectedAuthority limits = .ok raw) :
    ExactRequest crates expectedAuthority limits request raw := by
  have hfield : ∀ name, values.getAll name = fieldValues crates request.headers name := by
    intro name
    rw [collectHeaders_getAll hvalues, Multimap.getAll_empty, List.nil_append]
  simp only [validateHeaders_eq_ok_iff, hfield] at hok
  obtain ⟨hhost, hsingle, hframing, hsettings, htokens, hunprotected, hupgrade⟩ := hok
  exact {
    version := hversion
    method := ⟨method, hmethod, validateMethod_eq_ok_iff.mp hcheckedMethod⟩
    target := ⟨target, htarget, validateTarget_eq_ok_iff.mp hcheckedTarget⟩
    fields := collectHeaders_valid hvalues
    host := hhost
    singular := hsingle
    framing := hframing
    notHttp2 := hsettings
    tokens := htokens
    unprotected := hunprotected
    upgrade := hupgrade }

/-- The checks on the fields pass for a request of which all this holds. -/
theorem ExactRequest.validates (hrequest : ExactRequest crates expectedAuthority limits request raw)
    (hvalues : collectHeaders crates Multimap.empty request.headers = .ok values) :
    validateHeaders values expectedAuthority limits = .ok raw := by
  have hfield : ∀ name, values.getAll name = fieldValues crates request.headers name := by
    intro name
    rw [collectHeaders_getAll hvalues, Multimap.getAll_empty, List.nil_append]
  simp only [validateHeaders_eq_ok_iff, hfield]
  exact ⟨hrequest.host, hrequest.singular, hrequest.framing, hrequest.notHttp2, hrequest.tokens,
    hrequest.unprotected, hrequest.upgrade⟩

/-- Admission accepts a text and reports `raw` exactly if the text begins with a head within
the limits whose lines are strict, which the parser takes as a whole, and whose request has
all that is asked of it and says `raw` of itself. -/
theorem validate_eq_ok_iff (crates : Crates Url) (bytes expectedAuthority : Bytes)
    (limits : TransportLimits) (raw : RawAdmission) :
    validate crates bytes expectedAuthority limits = .ok raw ↔
      ∃ stop firstLineEnd request, headerEnd bytes = some stop ∧ stop ≤ limits.maxHeaderBytes ∧
        StrictLines (bytes.take stop) ∧
        windowPosition crlf (bytes.take stop) = some firstLineEnd ∧
        firstLineEnd ≤ limits.maxRequestLineBytes ∧
        crates.parseRequest (bytes.take stop) limits.maxHeaders = some (.complete request) ∧
        request.consumed = stop ∧
        ExactRequest crates expectedAuthority limits request raw := by
  constructor
  · intro hok
    simp only [validate, bind_eq_ok_iff, okOr_eq_ok_iff, rejectIf_eq_ok_iff] at hok
    obtain ⟨stop, hend, -, hbound, _, hlines, firstLineEnd, hfirst, -, hfirstBound, parsed, hparse,
      hparsed⟩ := hok
    cases parsed with
    | incomplete => cases hparsed
    | complete request =>
        simp only [bind_eq_ok_iff, okOr_eq_ok_iff, rejectIf_eq_ok_iff] at hparsed
        obtain ⟨-, hshape, method, hmethod, target, htarget, _, hcheckedMethod, _, hcheckedTarget,
          values, hvalues, hheaders⟩ := hparsed
        have hlength : (bytes.take stop).length = stop := List.length_take_of_le (headerEnd_le hend)
        rw [Bool.or_eq_false_iff, bne_eq_false_iff_eq, bne_eq_false_iff_eq] at hshape
        refine ⟨stop, firstLineEnd, request, hend, by simpa using hbound, ?_, hfirst,
          by simpa using hfirstBound, hparse, hshape.1, ?_⟩
        · exact strictLines_of_validateLineEndings (by rw [headerEnd_take hend, hlength]) hlines
        · exact exactRequest_of_admitted hshape.2 hmethod htarget hcheckedMethod hcheckedTarget
            hvalues hheaders
  · rintro ⟨stop, firstLineEnd, request, hend, hbound, hlines, hfirst, hfirstBound, hparse,
      hconsumed, hrequest⟩
    obtain ⟨method, hmethod, hcheckedMethod⟩ := hrequest.method
    obtain ⟨target, htarget, hcheckedTarget⟩ := hrequest.target
    obtain ⟨values, hvalues⟩ := exists_collectHeaders .empty hrequest.fields
    have hshape : (request.consumed != stop || request.version != some 1) = false := by
      rw [hconsumed, hrequest.version]
      simp
    have hmethodChecked : validateMethod method = .ok () :=
      validateMethod_eq_ok_iff.mpr hcheckedMethod
    have htargetChecked : validateTarget crates target = .ok () :=
      validateTarget_eq_ok_iff.mpr hcheckedTarget
    have hhead : decide (stop > limits.maxHeaderBytes) = false := by simpa using hbound
    have hline : decide (firstLineEnd > limits.maxRequestLineBytes) = false := by
      simpa using hfirstBound
    simp only [validate, hend, hhead, hlines.valid, hfirst, hline, hparse, hshape, hmethod, htarget,
      hmethodChecked, htargetChecked, hvalues, okOr_some, ok_bind, rejectIf_false]
    exact hrequest.validates hvalues

end Verdict

end Rpackit.Transport
