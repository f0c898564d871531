import Rpackit.Transport.ConnectionTokens

/-! # What an admitted head is

Admission scans the raw bytes, parses them and judges the fields. Of a head it
lets through, all of this holds together: the lines end as they should, the parsed
request is one of HTTP/1.1 for a local path, the fields are unambiguous, and what
admission reports is what the fields say.
-/

namespace Rpackit.Transport

open Text Fallible

/-! ## Raw lines -/

/-- A head without zero bytes whose lines all end with both bytes of a line ending,
and none of which, after the first, begins with a blank. -/
structure StrictLines (head : Bytes) : Prop where
  noNul : 0 ∉ head
  carriageReturns : ∀ before after, head = before ++ carriageReturn :: after →
    after.head? = some lineFeed
  lineFeeds : ∀ before after, head = before ++ lineFeed :: after →
    before.getLast? = some carriageReturn
  unfolded : ∀ before first after, head = before ++ crlf ++ first :: after →
    first ≠ space ∧ first ≠ tab

/-- The scan of a rest goes on from the last byte before it. -/
theorem bareLineEnding_append {previous : Option UInt8} {before rest : Bytes}
    (hstrict : bareLineEnding previous (before ++ rest) = false) :
    bareLineEnding (before.getLast?.or previous) rest = false := by
  induction before generalizing previous with
  | nil => exact hstrict
  | cons b before ih =>
      rw [List.cons_append, bareLineEnding, Bool.or_eq_false_iff] at hstrict
      have hrest := ih hstrict.2
      rw [List.getLast?_cons, Option.some_or]
      cases hlast : before.getLast? with
      | none => rwa [hlast] at hrest
      | some last => rwa [hlast] at hrest

theorem head?_of_carriageReturn {head before after : Bytes}
    (hstrict : bareLineEnding none head = false)
    (hhead : head = before ++ carriageReturn :: after) : after.head? = some lineFeed := by
  rw [hhead] at hstrict
  have hrest := bareLineEnding_append hstrict
  rw [bareLineEnding, Bool.or_eq_false_iff, Bool.or_eq_false_iff] at hrest
  simpa using hrest.1.2

theorem getLast?_of_lineFeed {head before after : Bytes}
    (hstrict : bareLineEnding none head = false)
    (hhead : head = before ++ lineFeed :: after) : before.getLast? = some carriageReturn := by
  rw [hhead] at hstrict
  have hrest := bareLineEnding_append hstrict
  rw [bareLineEnding, Bool.or_eq_false_iff, Bool.or_eq_false_iff] at hrest
  simpa using hrest.1.1

/-- A line without content ends the scan for folded lines; other lines are passed. -/
theorem foldedLine_append {lines rest : List Bytes} (hunfolded : foldedLine (lines ++ rest) = false)
    (hlines : ∀ line ∈ lines, line ≠ [] ∧ line ≠ [carriageReturn]) : foldedLine rest = false := by
  induction lines with
  | nil => exact hunfolded
  | cons line lines ih =>
      obtain ⟨⟨hne, hblank⟩, hlines⟩ := List.forall_mem_cons.mp hlines
      apply ih _ hlines
      rw [List.cons_append, foldedLine] at hunfolded
      split at hunfolded
      next hcontent =>
        exfalso
        split at hcontent
        next hlast =>
          obtain ⟨start, rfl⟩ := List.getLast?_eq_some_iff.mp hlast
          rw [List.dropLast_concat] at hcontent
          exact hblank (by rw [hcontent]; rfl)
        · exact hne hcontent
      · rw [Bool.or_eq_false_iff] at hunfolded
        exact hunfolded.2

/-- A line that is not folded does not begin with a blank. -/
theorem foldedLine_cons_cons {first : UInt8} {line : Bytes} {rest : List Bytes}
    (hunfolded : foldedLine ((first :: line) :: rest) = false) : first ≠ space ∧ first ≠ tab := by
  rw [foldedLine] at hunfolded
  split at hunfolded
  next hcontent =>
    split at hcontent
    next hlast =>
      cases line with
      | nil =>
          rw [List.getLast?_singleton, Option.some.injEq] at hlast
          subst hlast
          decide
      | cons second line => cases hcontent
    · cases hcontent
  next byte content hcontent =>
    have hfirst : byte = first := by
      split at hcontent
      next hlast =>
        cases line with
        | nil => cases hcontent
        | cons second line =>
            cases hcontent
            rfl
      · cases hcontent
        rfl
    subst hfirst
    simp only [Bool.or_eq_false_iff, beq_eq_false_iff_ne] at hunfolded
    exact hunfolded.1

/-- In a head that ends at its first empty line no line after the first begins with a
blank: the scan for folded lines passes every line up to there. -/
theorem not_blank_of_unfolded {head before after : Bytes} {first : UInt8}
    (hend : headerEnd head = some head.length) (hstrict : bareLineEnding none head = false)
    (hunfolded : foldedLine (head.splitOn lineFeed).tail = false)
    (hhead : head = before ++ crlf ++ first :: after) : first ≠ space ∧ first ≠ tab := by
  obtain ⟨position, hposition, hlength⟩ := Option.map_eq_some_iff.mp hend
  have hearlier := ((windowPosition_eq_some_iff (by decide)).mp hposition).2
  obtain ⟨top, lines, htop⟩ := List.exists_cons_of_ne_nil
    (List.splitOn_ne_nil lineFeed (before ++ [carriageReturn]))
  -- an earlier line that is empty, or only a carriage return, would end the head before its end
  have hlines : ∀ line ∈ lines, line ≠ [] ∧ line ≠ [carriageReturn] := by
    intro line hline
    obtain ⟨left, right, hsplit⟩ := (splitOn_parts htop).2 line hline
    have hwhole : head = left ++ lineFeed :: (line ++ lineFeed :: (right ++ first :: after)) := by
      have hleading : before ++ crlf = before ++ [carriageReturn] ++ [lineFeed] := by simp [crlf]
      rw [hhead, hleading, hsplit]
      simp
    constructor
    · rintro rfl
      have hagain : head = (left ++ [lineFeed]) ++ lineFeed :: (right ++ first :: after) := by
        simp [hwhole]
      have hlast := getLast?_of_lineFeed hstrict hagain
      rw [List.getLast?_concat] at hlast
      exact absurd hlast (by decide)
    · rintro rfl
      obtain ⟨start, rfl⟩ := List.getLast?_eq_some_iff.mp (getLast?_of_lineFeed hstrict hwhole)
      have hfound : head.drop start.length = crlf ++ crlf ++ (right ++ first :: after) := by
        rw [hwhole, List.append_assoc, List.drop_left]
        rfl
      refine hearlier start.length ?_ (hfound ▸ List.prefix_append _ _)
      rw [hwhole] at hlength
      simp only [List.length_append, List.length_cons, List.length_nil] at hlength
      omega
  -- so the scan gets to the line that begins with `first`
  have hsplit : head.splitOn lineFeed =
      (before ++ [carriageReturn]).splitOn lineFeed ++ (first :: after).splitOn lineFeed := by
    rw [← List.splitOn_append_cons_self, hhead]
    simp [crlf]
  rw [hsplit, htop, List.cons_append, List.tail_cons] at hunfolded
  have hrest := foldedLine_append hunfolded hlines
  rw [List.splitOn_cons_eq_if_modifyHead] at hrest
  split at hrest
  next heq =>
    obtain rfl := eq_of_beq heq
    decide
  next =>
    obtain ⟨line, others, hothers⟩ := List.exists_cons_of_ne_nil
      (List.splitOn_ne_nil lineFeed after)
    rw [hothers, List.modifyHead_cons] at hrest
    exact foldedLine_cons_cons hrest

theorem strictLines_of_validateLineEndings {head : Bytes} {u : Unit}
    (hend : headerEnd head = some head.length) (hok : validateLineEndings head = .ok u) :
    StrictLines head := by
  simp only [validateLineEndings, rejectIf_bind_eq_ok_iff, rejectIf_eq_ok_iff] at hok
  obtain ⟨hnul, hstrict, hunfolded⟩ := hok
  exact {
    noNul := by simpa using hnul
    carriageReturns := fun _ _ => head?_of_carriageReturn hstrict
    lineFeeds := fun _ _ => getLast?_of_lineFeed hstrict
    unfolded := fun _ _ _ => not_blank_of_unfolded hend hstrict hunfolded }

/-! ## Fields -/

variable {Url : Type} (crates : Crates Url)

/-- The values of one field among the parsed header lines, without the blanks around them. -/
def fieldValues (headers : List (Bytes × Bytes)) (name : HeaderName) : List Bytes :=
  headers.filterMap fun header =>
    if crates.headerNameFromBytes header.1 = some name then some (trimOws header.2) else none

variable {crates}

@[simp] theorem fieldValues_nil (name : HeaderName) : fieldValues crates [] name = [] := rfl

theorem fieldValues_cons {header : Bytes × Bytes} {parsed : HeaderName}
    (hparsed : crates.headerNameFromBytes header.1 = some parsed) (rest : List (Bytes × Bytes))
    (name : HeaderName) : fieldValues crates (header :: rest) name =
      if parsed = name then trimOws header.2 :: fieldValues crates rest name
      else fieldValues crates rest name := by
  simp only [fieldValues, List.filterMap_cons, hparsed, Option.some.injEq]
  split <;> simp_all

theorem collectHeaders_getAll {values result : RawHeaders} {headers : List (Bytes × Bytes)}
    (hok : collectHeaders crates values headers = .ok result) (name : HeaderName) :
    result.getAll name = values.getAll name ++ fieldValues crates headers name := by
  induction headers generalizing values with
  | nil =>
      cases hok
      rw [fieldValues_nil, List.append_nil]
  | cons header rest ih =>
      simp only [collectHeaders, okOr_bind_eq_ok_iff] at hok
      obtain ⟨parsed, hparsed, -, -, hrest⟩ := hok
      rw [ih hrest, fieldValues_cons hparsed]
      by_cases heq : parsed = name
      · subst heq
        rw [Multimap.getAll_append_self, if_pos rfl, List.append_assoc, List.singleton_append]
      · rw [Multimap.getAll_append_of_ne _ _ (Ne.symm heq), if_neg heq]

theorem collectHeaders_valid {values result : RawHeaders} {headers : List (Bytes × Bytes)}
    (hok : collectHeaders crates values headers = .ok result) :
    ∀ header ∈ headers, (∃ name, crates.headerNameFromBytes header.1 = some name) ∧
      ∀ b ∈ header.2, isHeaderValueByte b = true := by
  induction headers generalizing values with
  | nil => exact nofun
  | cons header rest ih =>
      simp only [collectHeaders, okOr_bind_eq_ok_iff] at hok
      obtain ⟨parsed, hparsed, value, hvalue, hrest⟩ := hok
      rw [List.forall_mem_cons]
      refine ⟨⟨⟨parsed, hparsed⟩, ?_⟩, ih hrest⟩
      rw [← HeaderValue.fromBytes?_eq_some_iff.mp hvalue]
      exact List.all_eq_true.mp value.valid

/-- No framing field, one admissible length, or one chunked coding. -/
def UnambiguousFraming (limits : TransportLimits) (contentLengths transferEncodings : List Bytes) :
    Prop :=
  (contentLengths = [] ∧ transferEncodings = []) ∨
  (∃ entry length, contentLengths = [entry] ∧ transferEncodings = [] ∧ entry ≠ [] ∧
    (∀ b ∈ entry, isAsciiDigit b = true) ∧ parseU64 entry = some length ∧
    length ≤ limits.maxRequestBodyBytes) ∨
  (∃ entry, contentLengths = [] ∧ transferEncodings = [entry] ∧
    lowercase entry = asBytes "chunked")

theorem eq_nil_or_singleton {entries : List Bytes} (hlength : ¬entries.length > 1) :
    entries = [] ∨ ∃ entry, entries = [entry] := by
  cases entries with
  | nil => exact .inl rfl
  | cons entry rest =>
      cases rest with
      | nil => exact .inr ⟨entry, rfl⟩
      | cons second rest => simp at hlength

theorem validateFraming_unambiguous {values : RawHeaders} {limits : TransportLimits} {u : Unit}
    (hok : validateFraming values limits = .ok u) :
    UnambiguousFraming limits (values.getAll Header.contentLength)
      (values.getAll Header.transferEncoding) := by
  simp only [validateFraming, bind_eq_ok_iff, rejectIf_eq_ok_iff] at hok
  obtain ⟨-, hshape, _, hlength, hencoding⟩ := hok
  simp only [Bool.or_eq_false_iff, decide_eq_false_iff_not, Bool.and_eq_false_iff,
    bne_eq_false_iff_eq] at hshape
  rw [forM_eq_ok_iff] at hlength hencoding
  obtain ⟨⟨hlengths, hencodings⟩, heither⟩ := hshape
  rcases eq_nil_or_singleton hlengths with hlengths | ⟨entry, hlengths⟩
  · rcases eq_nil_or_singleton hencodings with hencodings | ⟨entry, hencodings⟩
    · exact .inl ⟨hlengths, hencodings⟩
    · refine .inr (.inr ⟨entry, hlengths, hencodings, ?_⟩)
      have hentry := hencoding entry (by rw [hencodings]; exact List.mem_singleton_self entry)
      simp only [validateTransferEncoding, bind_eq_ok_iff, rejectIf_eq_ok_iff,
        Bool.not_eq_false', eqIgnoreAsciiCase_iff] at hentry
      obtain ⟨-, -, hchunked⟩ := hentry
      exact hchunked
  · have hnone : values.getAll Header.transferEncoding = [] :=
      heither.resolve_left (by rw [hlengths]; exact List.cons_ne_nil _ _)
    refine .inr (.inl ?_)
    have hentry := hlength entry (by rw [hlengths]; exact List.mem_singleton_self entry)
    simp only [validateContentLength, bind_eq_ok_iff, rejectIf_eq_ok_iff, okOr_eq_ok_iff,
      Bool.or_eq_false_iff, beq_eq_false_iff_ne, Bool.not_eq_false', List.all_eq_true,
      decide_eq_false_iff_not] at hentry
    obtain ⟨-, -, -, ⟨hne, hdigits⟩, length, hparse, hbound⟩ := hentry
    exact ⟨entry, length, hlengths, hnone, hne, hdigits, hparse, by omega⟩

/-- What the `Upgrade` and `Connection` fields say of an admitted upgrade. -/
theorem validateUpgrade_eq_ok {values : RawHeaders} {tokens : List Bytes} {upgrade : Bool}
    (hsingle : ¬(values.getAll Header.upgrade).length > 1)
    (hok : validateUpgrade values tokens = .ok upgrade) :
    (upgrade = true ↔ ∃ entry ∈ values.getAll Header.upgrade,
      lowercase entry = asBytes "websocket") ∧
    (upgrade = true ↔ Header.upgrade ∈ tokens) := by
  simp only [validateUpgrade, rejectIf_bind_eq_ok_iff] at hok
  obtain ⟨-, hok⟩ := hok
  rcases eq_nil_or_singleton hsingle with hnone | ⟨entry, hentry⟩
  · rw [Multimap.get?, hnone] at hok
    simp only [List.head?_nil, rejectIf_bind_eq_ok_iff, pure_eq_ok_iff] at hok
    obtain ⟨htoken, rfl⟩ := hok
    rw [hnone]
    simpa using htoken
  · rw [Multimap.get?, hentry] at hok
    simp only [List.head?_cons, okOr_bind_eq_ok_iff, rejectIf_bind_eq_ok_iff, pure_eq_ok_iff,
      Bool.or_eq_false_iff, Bool.not_eq_false', eqIgnoreAsciiCase_iff] at hok
    obtain ⟨-, -, ⟨htoken, hwebsocket⟩, rfl⟩ := hok
    rw [hentry]
    refine ⟨⟨fun _ => ⟨entry, List.mem_singleton_self entry, hwebsocket⟩, fun _ => rfl⟩, ?_⟩
    exact ⟨fun _ => List.contains_iff_mem.mp htoken, fun _ => rfl⟩

/-- The reported tokens are lower-cased and distinct. -/
theorem parseConnectionTokens_distinct {values : RawHeaders} {tokens : List Bytes}
    (hok : parseConnectionTokens values = .ok tokens) :
    tokens.Nodup ∧ ∀ token ∈ tokens, lowercase token = token := by
  cases hentry : values.get? Header.connection with
  | none =>
      simp only [parseConnectionTokens, hentry] at hok
      cases hok
      exact ⟨List.nodup_nil, fun _ hmem => absurd hmem List.not_mem_nil⟩
  | some entry =>
      obtain ⟨listed, hlist, rfl⟩ := (parseConnectionTokens_eq_ok_iff hentry tokens).mp hok
      refine ⟨hlist.distinct, fun token htoken => ?_⟩
      obtain ⟨source, -, rfl⟩ := List.mem_map.mp htoken
      exact lowercase_lowercase source

/-! ## The whole verdict -/

/-- A path of this host, in the form that names no scheme and no authority. -/
structure OriginForm (crates : Crates Url) (target : Bytes) : Prop where
  slash : target.head? = some slash
  notAuthority : ¬asBytes "//" <+: target
  noFragment : 0x23 ∉ target
  parsed : ∃ uri, crates.uriFromStr target = some uri ∧ uri.authority = none

/-- What is promised of an admitted request and of the report on it. -/
structure AdmittedRequest (crates : Crates Url) (expectedAuthority : Bytes)
    (limits : TransportLimits) (request : ParsedRequestHead) (raw : RawAdmission) : Prop where
  version : request.version = some 1
  method : ∃ method, request.method = some method ∧ (∀ b ∈ method, isTokenByte b = true) ∧
    lowercase method ≠ asBytes "connect" ∧ lowercase method ≠ asBytes "trace"
  target : ∃ target, request.path = some target ∧ OriginForm crates target
  fields : ∀ header ∈ request.headers, (∃ name, crates.headerNameFromBytes header.1 = some name) ∧
    ∀ b ∈ header.2, isHeaderValueByte b = true
  host : fieldValues crates request.headers (asBytes "host") = [expectedAuthority]
  singular : ∀ name ∈ [asBytes "cookie", asBytes "origin", asBytes "shiny-shared-secret",
      asBytes "x-rpackit-bootstrap", asBytes "connection", asBytes "upgrade"],
    (fieldValues crates request.headers name).length ≤ 1
  framing : UnambiguousFraming limits
    (fieldValues crates request.headers (asBytes "content-length"))
    (fieldValues crates request.headers (asBytes "transfer-encoding"))
  tokensDistinct : raw.connectionTokens.Nodup
  tokensLower : ∀ token ∈ raw.connectionTokens, lowercase token = token
  tokensUnprotected : ∀ token ∈ raw.connectionTokens, isProtectedConnectionTarget token = false
  upgradeField : raw.websocketUpgrade = true ↔
    ∃ entry ∈ fieldValues crates request.headers (asBytes "upgrade"),
      lowercase entry = asBytes "websocket"
  upgradeToken : raw.websocketUpgrade = true ↔ asBytes "upgrade" ∈ raw.connectionTokens

theorem validateMethod_eq_ok {method : Bytes} {u : Unit} (hok : validateMethod method = .ok u) :
    (∀ b ∈ method, isTokenByte b = true) ∧
      lowercase method ≠ asBytes "connect" ∧ lowercase method ≠ asBytes "trace" := by
  simp only [validateMethod, rejectIf_bind_eq_ok_iff, rejectIf_eq_ok_iff, Bool.not_eq_false',
    List.all_eq_true, Bool.or_eq_false_iff, eqIgnoreAsciiCase, beq_eq_false_iff_ne] at hok
  exact hok

theorem validateTarget_originForm {target : Bytes} {u : Unit}
    (hok : validateTarget crates target = .ok u) : OriginForm crates target := by
  simp only [validateTarget, rejectIf_bind_eq_ok_iff, okOr_bind_eq_ok_iff, rejectIf_eq_ok_iff,
    Bool.or_eq_false_iff, bne_eq_false_iff_eq] at hok
  obtain ⟨⟨⟨hslash, hauthority⟩, hfragment⟩, uri, huri, hnone⟩ := hok
  refine ⟨hslash, ?_, by simpa using hfragment, uri, huri, by simpa using hnone⟩
  rw [← List.isPrefixOf_iff_prefix, hauthority]
  decide

theorem validateHeaders_admitted {request : ParsedRequestHead} {values : RawHeaders}
    {expectedAuthority method target : Bytes} {limits : TransportLimits} {raw : RawAdmission}
    (hversion : request.version = some 1) (hmethod : request.method = some method)
    (htarget : request.path = some target) (hcheckedMethod : validateMethod method = .ok ())
    (hcheckedTarget : validateTarget crates target = .ok ())
    (hvalues : collectHeaders crates Multimap.empty request.headers = .ok values)
    (hok : validateHeaders values expectedAuthority limits = .ok raw) :
    AdmittedRequest crates expectedAuthority limits request raw := by
  have hunprotected := validateHeaders_tokens_unprotected hok
  have hfield : ∀ name, values.getAll name = fieldValues crates request.headers name := by
    intro name
    rw [collectHeaders_getAll hvalues, Multimap.getAll_empty, List.nil_append]
  simp only [validateHeaders, bind_eq_ok_iff, requireExactAuthority, rejectIf_eq_ok_iff,
    rejectAmbiguousSecurityHeaders, pure_eq_ok_iff] at hok
  obtain ⟨-, hhost, -, hsingular, _, hframing, tokens, htokens, -, -, upgrade, hupgrade, rfl⟩ := hok
  have hsingle : ∀ name ∈ singularHeaders, ¬(values.getAll name).length > 1 := by
    simpa using hsingular
  obtain ⟨hdistinct, hlower⟩ := parseConnectionTokens_distinct htokens
  obtain ⟨hupgradeField, hupgradeToken⟩ :=
    validateUpgrade_eq_ok (hsingle Header.upgrade (by decide)) hupgrade
  exact {
    version := hversion
    method := ⟨method, hmethod, validateMethod_eq_ok hcheckedMethod⟩
    target := ⟨target, htarget, validateTarget_originForm hcheckedTarget⟩
    fields := collectHeaders_valid hvalues
    host := by
      rw [← hfield]
      exact bne_eq_false_iff_eq.mp hhost
    singular := fun name hname => by
      rw [← hfield]
      exact Nat.le_of_not_lt (hsingle name hname)
    framing := by
      rw [← hfield, ← hfield]
      exact validateFraming_unambiguous hframing
    tokensDistinct := hdistinct
    tokensLower := hlower
    tokensUnprotected := hunprotected
    upgradeField := by
      rw [← hfield]
      exact hupgradeField
    upgradeToken := hupgradeToken }

/-- The verdict is that on the head: it stays the same for any bytes behind it. -/
theorem validate_append {bytes : Bytes} {stop : Nat} (hend : headerEnd bytes = some stop)
    (expectedAuthority : Bytes) (limits : TransportLimits) (rest : Bytes) :
    validate crates (bytes.take stop ++ rest) expectedAuthority limits =
      validate crates bytes expectedAuthority limits := by
  have hsame := headerEnd_append rest (headerEnd_take hend)
  have hlength : (bytes.take stop).length = stop := List.length_take_of_le (headerEnd_le hend)
  have htake : (bytes.take stop ++ rest).take stop = bytes.take stop := by
    rw [List.take_append_of_le_length hlength.ge, List.take_take, Nat.min_self]
  rw [← validate_take crates hsame, htake, validate_take crates hend]

/-- What one successful run of admission has found out. -/
theorem validate_steps {bytes expectedAuthority : Bytes} {limits : TransportLimits}
    {raw : RawAdmission} (hok : validate crates bytes expectedAuthority limits = .ok raw) :
    ∃ stop firstLineEnd request, headerEnd bytes = some stop ∧ stop ≤ limits.maxHeaderBytes ∧
      StrictLines (bytes.take stop) ∧
      windowPosition crlf (bytes.take stop) = some firstLineEnd ∧
      firstLineEnd ≤ limits.maxRequestLineBytes ∧
      crates.parseRequest (bytes.take stop) limits.maxHeaders = some (.complete request) ∧
      request.consumed = stop ∧ AdmittedRequest crates expectedAuthority limits request raw := by
  simp only [validate, bind_eq_ok_iff, okOr_eq_ok_iff, rejectIf_eq_ok_iff] at hok
  obtain ⟨stop, hend, -, hbound, _, hlines, firstLineEnd, hfirst, -, hfirstBound, parsed, hparse,
    hparsed⟩ := hok
  cases parsed with
  | incomplete => cases hparsed
  | complete request =>
      simp only [bind_eq_ok_iff, okOr_eq_ok_iff, rejectIf_eq_ok_iff] at hparsed
      obtain ⟨-, hshape, method, hmethod, target, htarget, _, hcheckedMethod, _, hcheckedTarget,
        values, hvalues, hheaders⟩ := hparsed
      have hlength : (bytes.take stop).length = stop := List.length_take_of_le (headerEnd_le hend)
      rw [Bool.or_eq_false_iff, bne_eq_false_iff_eq, bne_eq_false_iff_eq] at hshape
      refine ⟨stop, firstLineEnd, request, hend, ?_, ?_, hfirst, ?_, hparse, hshape.1, ?_⟩
      · simpa using hbound
      · exact strictLines_of_validateLineEndings (by rw [headerEnd_take hend, hlength]) hlines
      · simpa using hfirstBound
      · exact validateHeaders_admitted hshape.2 hmethod htarget hcheckedMethod hcheckedTarget
          hvalues hheaders

/-- An admitted head is within its limit, its lines are strict, the parser takes all
of it, and the request it yields is as promised. The verdict on any bytes is that on
the head they begin with. -/
theorem validate_admits (crates : Crates Url) (bytes expectedAuthority : Bytes)
    (limits : TransportLimits) :
    (∀ raw, validate crates bytes expectedAuthority limits = .ok raw →
      ∃ stop request, headerEnd bytes = some stop ∧ stop ≤ limits.maxHeaderBytes ∧
        StrictLines (bytes.take stop) ∧
        crates.parseRequest (bytes.take stop) limits.maxHeaders = some (.complete request) ∧
        request.consumed = stop ∧
        AdmittedRequest crates expectedAuthority limits request raw) ∧
    ∀ stop, headerEnd bytes = some stop → ∀ rest,
      validate crates (bytes.take stop ++ rest) expectedAuthority limits =
        validate crates bytes expectedAuthority limits := by
  constructor
  · intro raw hok
    obtain ⟨stop, _, request, hend, hbound, hlines, -, -, hparse, hconsumed, hadmitted⟩ :=
      validate_steps hok
    exact ⟨stop, request, hend, hbound, hlines, hparse, hconsumed, hadmitted⟩
  · intro stop hend rest
    exact validate_append hend expectedAuthority limits rest

/-! ## An admitted upgrade -/

section Fixture

def requestLine (method target : Bytes) : Bytes :=
  method ++ [space] ++ target ++ [space] ++ asBytes "HTTP/1.1"

def headText (method target : Bytes) (fields : List (Bytes × Bytes)) : Bytes :=
  requestLine method target ++ crlf ++
    ((fields.flatMap fun field => field.1 ++ asBytes ": " ++ field.2 ++ crlf) ++ crlf)

/-- The parsers on one request head, as a table. -/
def Crates.ofHead (head method target : Bytes) (fields : List (Bytes × Bytes)) : Crates Unit :=
  { Crates.unavailable with
    parseRequest := fun text _ =>
      if text = head then
        some (.complete ⟨head.length, some 1, some method, some target, fields⟩)
      else none
    headerNameFromBytes := fun name => some (lowercase name)
    uriFromStr := fun text =>
      if text = target then some ⟨none, some ⟨target, none⟩⟩ else none }

def tunnelAuthority : Bytes := asBytes "rpackit-a.localhost:1234"

def tunnelFields : List (Bytes × Bytes) :=
  [(asBytes "Host", tunnelAuthority), (asBytes "Connection", asBytes "keep-alive, Upgrade"),
    (asBytes "Upgrade", asBytes "WebSocket"), (asBytes "Cookie", asBytes "theme=dark")]

def tunnelHead : Bytes := headText (asBytes "GET") (asBytes "/ws") tunnelFields

def tunnelCrates : Crates Unit :=
  .ofHead tunnelHead (asBytes "GET") (asBytes "/ws") tunnelFields

def tunnelAdmission : RawAdmission := ⟨[asBytes "keep-alive", asBytes "upgrade"], true⟩

/-- The upgrade is admitted, and so is what opens with it when a first frame follows. -/
theorem validate_admits_tunnel :
    (∃ request, AdmittedRequest tunnelCrates tunnelAuthority defaultLimits request
      tunnelAdmission) ∧
    validate tunnelCrates (tunnelHead.take 125 ++ [0x81, 0x00]) tunnelAuthority defaultLimits =
      .ok tunnelAdmission := by
  have hadmitted : headerEnd tunnelHead = some 125 ∧
      validate tunnelCrates tunnelHead tunnelAuthority defaultLimits = .ok tunnelAdmission := by
    decide +kernel
  obtain ⟨hend, hok⟩ := hadmitted
  obtain ⟨hadmits, hsame⟩ := validate_admits tunnelCrates tunnelHead tunnelAuthority defaultLimits
  obtain ⟨stop, request, -, -, -, -, -, hrequest⟩ := hadmits _ hok
  exact ⟨⟨request, hrequest⟩, by rw [hsame 125 hend, hok]⟩

end Fixture

end Rpackit.Transport
