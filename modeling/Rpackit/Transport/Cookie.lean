import Rpackit.Transport.Admission

/-! # Session authentication and upstream cookies

A request authenticates with exactly one reserved cookie; the reserved segment
is removed and the application segments are forwarded. A cookie the upstream
sets must not be reserved and must stay on the proxy origin.
-/

namespace Rpackit.Transport

open Text Fallible

inductive CookieError where
  | authentication
  | ambiguous
  | unsafeUpstreamCookie
  deriving DecidableEq, Repr

/-- The session name in any ASCII case, plain or percent-encoded. -/
def isReservedName (name : Bytes) : Bool :=
  eqIgnoreAsciiCase name sessionCookieName
    || ((decodeUtf8 (percentDecode name)).isSome
      && eqIgnoreAsciiCase (percentDecode name) sessionCookieName)

/-- The separator of a rebuilt cookie list. -/
def cookieSeparator : Bytes := [semicolon, space]

/-! ## Request cookies -/

/-- A trimmed `name=value` segment of a `Cookie` field. -/
structure CookieSegment where
  text : Bytes
  name : Bytes
  value : Bytes
  deriving DecidableEq, Repr

def parseSegment (segment : Bytes) : Except CookieError CookieSegment := do
  let trimmed := trim segment
  let (name, value) ← okOr (splitOnce equals trimmed) .ambiguous
  rejectIf (name == [] || !name.all isTokenByte || value.any isAsciiControl) .ambiguous
  return ⟨trimmed, name, value⟩

/-- What the segment loop of `authenticate_and_strip` carries. -/
structure CookieScan where
  sessionSeen : Bool
  validSession : Bool
  application : List Bytes
  applicationNames : List Bytes
  deriving DecidableEq, Repr

def CookieScan.start : CookieScan := ⟨false, false, [], []⟩

def acceptSegment (session : Secret) (scan : CookieScan) (segment : CookieSegment) :
    Except CookieError CookieScan :=
  if isReservedName segment.name then do
    rejectIf scan.sessionSeen .ambiguous
    return { scan with
      sessionSeen := true
      validSession := session.matchesCandidate segment.value }
  else do
    rejectIf (scan.applicationNames.contains segment.name) .ambiguous
    return { scan with
      application := scan.application ++ [segment.text]
      applicationNames := scan.applicationNames ++ [segment.name] }

def scanSegment (session : Secret) (scan : CookieScan) (segment : Bytes) :
    Except CookieError CookieScan := do
  let parsed ← parseSegment segment
  acceptSegment session scan parsed

/-- The application segments of an authenticated header map. -/
def authenticate (headers : HeaderMap) (session : Secret) : Except CookieError (List Bytes) :=
  match headers.getAll Header.cookie with
  | [value] => do
      let text ← okOr value.toStr? .authentication
      let scan ← (text.splitOn semicolon).foldlM (scanSegment session) CookieScan.start
      rejectIf (!scan.sessionSeen || !scan.validSession) .authentication
      return scan.application
  | _ => .error .authentication

/-- The verdict and the header map it leaves behind. -/
def authenticateAndStrip (headers : HeaderMap) (session : Secret) :
    Except CookieError Unit × HeaderMap :=
  match authenticate headers session with
  | .error error => (.error error, headers)
  | .ok application =>
      let stripped := headers.remove Header.cookie
      if application = [] then (.ok (), stripped)
      else
        match HeaderValue.fromBytes? (cookieSeparator.intercalate application) with
        | none => (.error .ambiguous, stripped)
        | some rebuilt => (.ok (), stripped.insert Header.cookie rebuilt)

/-! ## Upstream cookies -/

/-- What the attribute loop of `normalize_set_cookie` carries. -/
structure AttributeScan where
  attributes : List Bytes
  rebuilt : List Bytes
  deriving DecidableEq, Repr

def scanAttribute (upstreamHost : Bytes) (scan : AttributeScan) (rawAttribute : Bytes) :
    Except CookieError AttributeScan := do
  let trimmed := trim rawAttribute
  rejectIf (trimmed == []) .unsafeUpstreamCookie
  let parameter := splitParameter trimmed
  rejectIf (parameter.1 == [] || !parameter.1.all isTokenByte) .unsafeUpstreamCookie
  let lower := lowercase parameter.1
  rejectIf (scan.attributes.contains lower) .unsafeUpstreamCookie
  let attributes := scan.attributes ++ [lower]
  if lower == asBytes "domain" then
    let domain ← okOr parameter.2 .unsafeUpstreamCookie
    rejectIf (!eqIgnoreAsciiCase (domain.dropWhile (· == dot)) upstreamHost) .unsafeUpstreamCookie
    return { scan with attributes }
  else
    return ⟨attributes, scan.rebuilt ++ [trimmed]⟩

def normalizeSetCookie (value : HeaderValue) (upstreamHost : Bytes) :
    Except CookieError HeaderValue := do
  let text ← okOr value.toStr? .unsafeUpstreamCookie
  match text.splitOn semicolon with
  | [] => throw .unsafeUpstreamCookie
  | part :: parts =>
      let first := trim part
      let (name, _cookieValue) ← okOr (splitOnce equals first) .unsafeUpstreamCookie
      rejectIf (name == [] || !name.all isTokenByte || isReservedName name) .unsafeUpstreamCookie
      let scan ← parts.foldlM (scanAttribute upstreamHost) ⟨[], [first]⟩
      okOr (HeaderValue.fromBytes? (cookieSeparator.intercalate scan.rebuilt))
        .unsafeUpstreamCookie

def normalizeSetCookieHeaders (headers : HeaderMap) (upstreamHost : Bytes) :
    Except CookieError HeaderMap := do
  let values := headers.getAll Header.setCookie
  if values = [] then return headers
  let normalized ← values.mapM (normalizeSetCookie · upstreamHost)
  return (headers.remove Header.setCookie).appendMany Header.setCookie normalized

theorem normalizeSetCookieHeaders_eq_ok_iff {headers normalized : HeaderMap}
    {upstreamHost : Bytes} :
    normalizeSetCookieHeaders headers upstreamHost = .ok normalized ↔
      ∃ values, (headers.getAll Header.setCookie).mapM (normalizeSetCookie · upstreamHost) =
          .ok values ∧
        normalized = if headers.getAll Header.setCookie = [] then headers
          else (headers.remove Header.setCookie).appendMany Header.setCookie values := by
  unfold normalizeSetCookieHeaders
  by_cases hnone : headers.getAll Header.setCookie = []
  · simp [hnone, pure_eq_ok_iff]
  · simp only [if_neg hnone, bind_eq_ok_iff, pure_eq_ok_iff]

theorem normalizeSetCookieHeaders_getAll {headers normalized : HeaderMap} {upstreamHost : Bytes}
    (hok : normalizeSetCookieHeaders headers upstreamHost = .ok normalized) :
    (headers.getAll Header.setCookie).mapM (normalizeSetCookie · upstreamHost) =
      .ok (normalized.getAll Header.setCookie) := by
  obtain ⟨values, hvalues, rfl⟩ := normalizeSetCookieHeaders_eq_ok_iff.mp hok
  split
  next hnone =>
    rw [hnone] at hvalues ⊢
    rfl
  · rw [hvalues, Multimap.getAll_appendMany_self, Multimap.getAll_remove_self, List.nil_append]

theorem normalizeSetCookieHeaders_getAll_of_ne {headers normalized : HeaderMap}
    {upstreamHost : Bytes} {name : HeaderName} (hname : name ≠ Header.setCookie)
    (hok : normalizeSetCookieHeaders headers upstreamHost = .ok normalized) :
    normalized.getAll name = headers.getAll name := by
  obtain ⟨values, -, rfl⟩ := normalizeSetCookieHeaders_eq_ok_iff.mp hok
  split
  · rfl
  · rw [Multimap.getAll_appendMany_of_ne _ _ hname, Multimap.getAll_remove_of_ne _ hname]

/-! ## What an accepted upstream cookie is -/

def isDomainAttribute (part : Bytes) : Bool :=
  lowercase (splitParameter part).1 == asBytes "domain"

/-- The attribute loop keeps the texts it accepts, in order, except for a domain. -/
theorem foldlM_scanAttribute_rebuilt {upstreamHost : Bytes} {scan next : AttributeScan}
    {parts : List Bytes} (hok : parts.foldlM (scanAttribute upstreamHost) scan = .ok next) :
    ∃ kept, kept.Sublist (parts.map trim) ∧ next.rebuilt = scan.rebuilt ++ kept ∧
      ∀ part ∈ kept, isDomainAttribute part = false := by
  induction parts generalizing scan with
  | nil =>
      rw [List.foldlM_nil, pure_eq_ok_iff] at hok
      exact ⟨[], List.Sublist.refl _, by rw [hok, List.append_nil], nofun⟩
  | cons part rest ih =>
      rw [List.foldlM_cons, bind_eq_ok_iff] at hok
      obtain ⟨middle, hpart, hrest⟩ := hok
      obtain ⟨kept, hsublist, hrebuilt, hdomain⟩ := ih hrest
      have hstep : middle.rebuilt = scan.rebuilt ∨
          middle.rebuilt = scan.rebuilt ++ [trim part] ∧ isDomainAttribute (trim part) = false := by
        simp only [scanAttribute, rejectIf_bind_eq_ok_iff] at hpart
        obtain ⟨-, -, -, hpart⟩ := hpart
        split at hpart
        · simp only [okOr_bind_eq_ok_iff, rejectIf_bind_eq_ok_iff, pure_eq_ok_iff] at hpart
          obtain ⟨domain, -, -, rfl⟩ := hpart
          exact .inl rfl
        next hother =>
          rw [pure_eq_ok_iff.mp hpart]
          exact .inr ⟨rfl, Bool.eq_false_iff.mpr hother⟩
      rcases hstep with hsame | ⟨hpushed, hkept⟩
      · exact ⟨kept, hsublist.cons _, by rw [hrebuilt, hsame], hdomain⟩
      · refine ⟨trim part :: kept, hsublist.cons_cons _, ?_,
          List.forall_mem_cons.mpr ⟨hkept, hdomain⟩⟩
        rw [hrebuilt, hpushed, List.append_assoc, List.singleton_append]

/-- The pair and the attributes of a rebuilt `Set-Cookie` text. -/
structure AcceptedSetCookie (normalized : Bytes) where
  name : Bytes
  value : Bytes
  attributes : List Bytes
  nameToken : ∀ b ∈ name, isTokenByte b = true
  nameNonempty : name ≠ []
  unreserved : isReservedName name = false
  pairTrimmed : trim (name ++ equals :: value) = name ++ equals :: value
  rebuilt : normalized = cookieSeparator.intercalate ((name ++ equals :: value) :: attributes)
  noSemicolon : ∀ part ∈ (name ++ equals :: value) :: attributes, semicolon ∉ part
  attributesTrimmed : ∀ part ∈ attributes, trim part = part
  visible : ∀ b ∈ normalized, isVisibleAscii b = true

/-- An accepted upstream cookie has no domain attribute left. -/
theorem exists_acceptedSetCookie {value normalized : HeaderValue} {upstreamHost : Bytes}
    (hok : normalizeSetCookie value upstreamHost = .ok normalized) :
    ∃ accepted : AcceptedSetCookie normalized.bytes,
      ∀ part ∈ accepted.attributes, isDomainAttribute part = false := by
  simp only [normalizeSetCookie, okOr_bind_eq_ok_iff, HeaderValue.toStr?_eq_some_iff] at hok
  obtain ⟨text, ⟨rfl, hvisible⟩, hok⟩ := hok
  split at hok
  · cases hok
  next part parts hsplit =>
    simp only [bind_eq_ok_iff, okOr_eq_ok_iff, rejectIf_eq_ok_iff,
      HeaderValue.fromBytes?_eq_some_iff, Prod.exists, Bool.or_eq_false_iff,
      beq_eq_false_iff_ne, Bool.not_eq_false', List.all_eq_true] at hok
    obtain ⟨name, cookieValue, hpair, -, ⟨⟨hname, htoken⟩, hunreserved⟩, scan, hscan, hbytes⟩ :=
      hok
    obtain ⟨hfirst, -⟩ := splitOnce_eq_some_iff.mp hpair
    obtain ⟨kept, hkept, hrebuilt, hdomain⟩ := foldlM_scanAttribute_rebuilt hscan
    rw [List.singleton_append, hfirst] at hrebuilt
    rw [hrebuilt] at hbytes
    -- every part of the rebuilt text is a trimmed part of the original one
    have hpart : ∀ p ∈ (name ++ equals :: cookieValue) :: kept,
        ∃ q ∈ value.bytes.splitOn semicolon, p = trim q := by
      intro p hp
      rw [hsplit]
      rcases List.mem_cons.mp hp with rfl | htail
      · exact ⟨part, List.mem_cons_self, hfirst.symm⟩
      · obtain ⟨q, hq, rfl⟩ := List.mem_map.mp (hkept.subset htail)
        exact ⟨q, List.mem_cons_of_mem _ hq, rfl⟩
    refine ⟨⟨name, cookieValue, kept, htoken, hname, hunreserved, ?_, hbytes, ?_, ?_, ?_⟩, hdomain⟩
    · rw [← hfirst, trim_trim]
    · intro p hp hmem
      obtain ⟨q, hq, rfl⟩ := hpart p hp
      exact not_mem_of_mem_splitOn hq (mem_of_mem_trim hmem)
    · intro p hp
      obtain ⟨q, -, rfl⟩ := hpart p (List.mem_cons_of_mem _ hp)
      exact trim_trim q
    · intro b hb
      rw [hbytes] at hb
      rcases mem_of_mem_intercalate hb with hseparator | ⟨p, hp, hmem⟩
      · have hall : ∀ b ∈ cookieSeparator, isVisibleAscii b = true :=
          List.all_eq_true.mp (by decide)
        exact hall b hseparator
      · obtain ⟨q, hq, rfl⟩ := hpart p hp
        exact hvisible b (mem_of_mem_splitOn hq (mem_of_mem_trim hmem))

theorem normalizeSetCookie_accepted {value normalized : HeaderValue} {upstreamHost : Bytes}
    (hok : normalizeSetCookie value upstreamHost = .ok normalized) :
    Nonempty (AcceptedSetCookie normalized.bytes) := by
  obtain ⟨accepted, -⟩ := exists_acceptedSetCookie hok
  exact ⟨accepted⟩

theorem isReservedName_sessionCookieName : isReservedName sessionCookieName = true := by
  simp [isReservedName, eqIgnoreAsciiCase]

/-- An accepted upstream cookie does not set the session name. -/
theorem AcceptedSetCookie.not_session {normalized : Bytes}
    (accepted : AcceptedSetCookie normalized) :
    ¬(sessionCookieName ++ [equals]) <+: normalized := by
  intro hsession
  have hpair : (accepted.name ++ [equals]) <+: normalized := by
    have hfirst := prefix_intercalate_cons cookieSeparator
      (accepted.name ++ equals :: accepted.value) accepted.attributes
    rw [← accepted.rebuilt] at hfirst
    refine List.IsPrefix.trans ⟨accepted.value, ?_⟩ hfirst
    rw [List.append_assoc, List.singleton_append]
  have hname : equals ∉ accepted.name := not_mem_of_isTokenByte accepted.nameToken (by decide)
  -- both names end at the first equals sign of the same text
  obtain ⟨sessionRest, hleft⟩ := hsession
  obtain ⟨nameRest, hright⟩ := hpair
  rw [List.append_assoc, List.singleton_append] at hleft hright
  have hsame : splitOnce equals normalized = some (sessionCookieName, sessionRest) :=
    splitOnce_eq_some_iff.mpr ⟨hleft.symm, by decide⟩
  rw [splitOnce_eq_some_iff.mpr ⟨hright.symm, hname⟩] at hsame
  have heq : accepted.name = sessionCookieName := congrArg Prod.fst (Option.some.inj hsame)
  have := accepted.unreserved
  rw [heq, isReservedName_sessionCookieName] at this
  cases this

/-! ## What a parsed segment is -/

theorem parseSegment_eq_ok_iff {segment : Bytes} {parsed : CookieSegment} :
    parseSegment segment = .ok parsed ↔
      parsed.text = trim segment ∧
        splitOnce equals parsed.text = some (parsed.name, parsed.value) ∧ parsed.name ≠ [] ∧
        (∀ b ∈ parsed.name, isTokenByte b = true) ∧
        ∀ b ∈ parsed.value, isAsciiControl b = false := by
  simp only [parseSegment, okOr_bind_eq_ok_iff, rejectIf_bind_eq_ok_iff, pure_eq_ok_iff,
    Prod.exists, Bool.or_eq_false_iff, beq_eq_false_iff_ne, Bool.not_eq_false', List.all_eq_true,
    List.any_eq_false, Bool.not_eq_true]
  constructor
  · rintro ⟨name, value, hsplit, ⟨⟨hname, htoken⟩, hvalue⟩, rfl⟩
    exact ⟨rfl, hsplit, hname, htoken, hvalue⟩
  · rintro ⟨htext, hsplit, hname, htoken, hvalue⟩
    cases parsed
    cases htext
    exact ⟨_, _, hsplit, ⟨⟨hname, htoken⟩, hvalue⟩, rfl⟩

def CookieSegment.isReserved (segment : CookieSegment) : Bool := isReservedName segment.name

/-- The segments that are forwarded. -/
def applicationSegments (parsed : List CookieSegment) : List CookieSegment :=
  parsed.filter fun segment => !segment.isReserved

def reservedSegments (parsed : List CookieSegment) : List CookieSegment :=
  parsed.filter CookieSegment.isReserved

/-- The segments a scan may still take. -/
structure CookieScan.Admits (scan : CookieScan) (parsed : List CookieSegment) : Prop where
  sessionOnce : (reservedSegments parsed).length + scan.sessionSeen.toNat ≤ 1
  namesNodup : ((applicationSegments parsed).map CookieSegment.name).Nodup
  namesFresh : ∀ segment ∈ applicationSegments parsed, segment.name ∉ scan.applicationNames

def CookieScan.after (session : Secret) (scan : CookieScan) (parsed : List CookieSegment) :
    CookieScan where
  sessionSeen := scan.sessionSeen || !(reservedSegments parsed).isEmpty
  validSession :=
    match (reservedSegments parsed).head? with
    | none => scan.validSession
    | some segment => session.matchesCandidate segment.value
  application := scan.application ++ (applicationSegments parsed).map CookieSegment.text
  applicationNames := scan.applicationNames ++
    (applicationSegments parsed).map CookieSegment.name

theorem acceptSegment_reserved {session : Secret} {scan next : CookieScan}
    {segment : CookieSegment} (hreserved : segment.isReserved = true) :
    acceptSegment session scan segment = .ok next ↔ scan.sessionSeen = false ∧
      next = { scan with
        sessionSeen := true
        validSession := session.matchesCandidate segment.value } := by
  have hname : isReservedName segment.name = true := hreserved
  rw [acceptSegment, if_pos hname, rejectIf_bind_eq_ok_iff, pure_eq_ok_iff]

theorem acceptSegment_application {session : Secret} {scan next : CookieScan}
    {segment : CookieSegment} (happlication : segment.isReserved = false) :
    acceptSegment session scan segment = .ok next ↔ segment.name ∉ scan.applicationNames ∧
      next = { scan with
        application := scan.application ++ [segment.text]
        applicationNames := scan.applicationNames ++ [segment.name] } := by
  have hname : ¬isReservedName segment.name = true := Bool.eq_false_iff.mp happlication
  rw [acceptSegment, if_neg hname, rejectIf_bind_eq_ok_iff, pure_eq_ok_iff,
    List.contains_eq_mem, decide_eq_false_iff_not]

theorem admits_cons_reserved {scan : CookieScan} {segment : CookieSegment}
    {rest : List CookieSegment} (hreserved : segment.isReserved = true) (valid : Bool) :
    scan.Admits (segment :: rest) ↔ scan.sessionSeen = false ∧
      CookieScan.Admits { scan with sessionSeen := true, validSession := valid } rest := by
  have hfilter : reservedSegments (segment :: rest) = segment :: reservedSegments rest := by
    simp [reservedSegments, hreserved]
  have happlication : applicationSegments (segment :: rest) = applicationSegments rest := by
    simp [applicationSegments, hreserved]
  constructor
  · rintro ⟨honce, hnodup, hfresh⟩
    rw [hfilter, List.length_cons] at honce
    rw [happlication] at hnodup hfresh
    cases hseen : scan.sessionSeen with
    | true => simp [hseen] at honce
    | false => exact ⟨rfl, by simpa [hseen] using honce, hnodup, hfresh⟩
  · rintro ⟨hseen, honce, hnodup, hfresh⟩
    refine ⟨?_, by rwa [happlication], by rwa [happlication]⟩
    rw [hfilter, hseen]
    simpa using honce

theorem admits_cons_application {scan : CookieScan} {segment : CookieSegment}
    {rest : List CookieSegment} (happlication : segment.isReserved = false) :
    scan.Admits (segment :: rest) ↔ segment.name ∉ scan.applicationNames ∧
      CookieScan.Admits { scan with
        application := scan.application ++ [segment.text]
        applicationNames := scan.applicationNames ++ [segment.name] } rest := by
  have hfilter : reservedSegments (segment :: rest) = reservedSegments rest := by
    simp [reservedSegments, happlication]
  have hcons : applicationSegments (segment :: rest) = segment :: applicationSegments rest := by
    simp [applicationSegments, happlication]
  constructor
  · rintro ⟨honce, hnodup, hfresh⟩
    rw [hfilter] at honce
    rw [hcons, List.map_cons, List.nodup_cons] at hnodup
    rw [hcons] at hfresh
    refine ⟨hfresh segment List.mem_cons_self, honce, hnodup.2, ?_⟩
    intro other hother hmem
    rcases List.mem_append.mp hmem with hold | hnew
    · exact hfresh other (List.mem_cons_of_mem _ hother) hold
    · exact hnodup.1 (List.mem_singleton.mp hnew ▸ List.mem_map_of_mem hother)
  · rintro ⟨hnew, honce, hnodup, hfresh⟩
    refine ⟨by rwa [hfilter], ?_, ?_⟩
    · rw [hcons, List.map_cons, List.nodup_cons]
      refine ⟨?_, hnodup⟩
      intro hmem
      obtain ⟨other, hother, hname⟩ := List.mem_map.mp hmem
      exact hfresh other hother (by simp [hname])
    · rw [hcons]
      intro other hother
      rcases List.mem_cons.mp hother with rfl | hrest
      · exact hnew
      · exact fun hmem => hfresh other hrest (List.mem_append_left _ hmem)

/-- The segment loop succeeds exactly on admissible segments, and its result is
the reserved and the application segments apart. -/
theorem foldlM_acceptSegment_eq_ok_iff {session : Secret} {scan next : CookieScan}
    {parsed : List CookieSegment} :
    parsed.foldlM (acceptSegment session) scan = .ok next ↔
      scan.Admits parsed ∧ next = scan.after session parsed := by
  induction parsed generalizing scan with
  | nil =>
      have hadmits : scan.Admits [] :=
        ⟨by simpa [reservedSegments] using Bool.toNat_le _, List.nodup_nil, by
          simp [applicationSegments]⟩
      have hafter : scan.after session [] = scan := by
        simp [CookieScan.after, reservedSegments, applicationSegments]
      rw [List.foldlM_nil, pure_eq_ok_iff, hafter]
      exact (and_iff_right hadmits).symm
  | cons segment rest ih =>
      rw [List.foldlM_cons, bind_eq_ok_iff]
      simp only [ih]
      cases hreserved : segment.isReserved with
      | true =>
          simp only [acceptSegment_reserved hreserved, and_assoc, exists_and_left, exists_eq_left,
            admits_cons_reserved hreserved (session.matchesCandidate segment.value)]
          refine and_congr_right fun hseen => and_congr_right fun hadmits => ?_
          -- one reserved segment is the limit, so the rest holds none
          have hnone : reservedSegments rest = [] := by
            simpa using hadmits.sessionOnce
          simp only [reservedSegments] at hnone
          simp [CookieScan.after, reservedSegments, applicationSegments, hreserved, hnone]
      | false =>
          simp only [acceptSegment_application hreserved, and_assoc, exists_and_left,
            exists_eq_left, admits_cons_application hreserved]
          refine and_congr_right fun _ => and_congr_right fun _ => ?_
          simp [CookieScan.after, reservedSegments, applicationSegments, hreserved]

theorem scanSegment_eq (session : Secret) : scanSegment session =
    fun scan segment => parseSegment segment >>= acceptSegment session scan := rfl

/-! ## What authentication means -/

/-- Exactly one segment is reserved, and it carries the session value. -/
structure CarriesSession (session : Secret) (parsed : List CookieSegment) : Prop where
  reserved : ∃ segment, reservedSegments parsed = [segment] ∧ segment.value = session.value
  namesNodup : ((applicationSegments parsed).map CookieSegment.name).Nodup

theorem authenticate_eq_ok_iff {headers : HeaderMap} {session : Secret}
    {application : List Bytes} :
    authenticate headers session = .ok application ↔
      ∃ value parsed, headers.getAll Header.cookie = [value] ∧
        (∀ b ∈ value.bytes, isVisibleAscii b = true) ∧
        List.Forall₂ (fun segment p => parseSegment segment = .ok p)
          (value.bytes.splitOn semicolon) parsed ∧
        CarriesSession session parsed ∧
        application = (applicationSegments parsed).map CookieSegment.text := by
  have hscan : ∀ scan : CookieScan, (!scan.sessionSeen || !scan.validSession) = false ↔
      scan.sessionSeen = true ∧ scan.validSession = true := by
    simp
  unfold authenticate
  split
  next value hvalues =>
    simp only [scanSegment_eq, bind_eq_ok_iff, okOr_eq_ok_iff, HeaderValue.toStr?_eq_some_iff,
      foldlM_bind_eq_ok_iff, foldlM_acceptSegment_eq_ok_iff, rejectIf_eq_ok_iff, hscan, hvalues,
      List.cons.injEq, and_true, pure_eq_ok_iff]
    constructor
    · rintro ⟨text, ⟨rfl, hvisible⟩, scan, ⟨parsed, hparsed, hadmits, rfl⟩, -, hseen, rfl⟩
      -- a reserved cookie was seen, and a second one is refused
      have hone : (reservedSegments parsed).length = 1 := by
        have hle := hadmits.sessionOnce
        have hne : reservedSegments parsed ≠ [] := by
          simpa [CookieScan.after, CookieScan.start] using hseen.1
        have hpos := List.length_pos_of_ne_nil hne
        simp only [CookieScan.start, Bool.toNat_false] at hle
        omega
      obtain ⟨segment, hsegment⟩ := List.length_eq_one_iff.mp hone
      have hvalid := hseen.2
      simp only [CookieScan.after, hsegment, List.head?_cons] at hvalid
      exact ⟨value, parsed, rfl, hvisible, hparsed,
        ⟨⟨segment, hsegment, Secret.matchesCandidate_iff.mp hvalid⟩, hadmits.namesNodup⟩,
        by simp [CookieScan.after, CookieScan.start]⟩
    · rintro ⟨_, parsed, rfl, hvisible, hparsed, ⟨⟨segment, hsegment, hvalue⟩, hnodup⟩, rfl⟩
      refine ⟨_, ⟨rfl, hvisible⟩, _, ⟨parsed, hparsed, ⟨?_, hnodup, ?_⟩, rfl⟩, (), ⟨?_, ?_⟩, ?_⟩
      · simp [hsegment, CookieScan.start]
      · simp [CookieScan.start]
      · simp [CookieScan.after, hsegment]
      · simp [CookieScan.after, hsegment, Secret.matchesCandidate_iff.mpr hvalue]
      · simp [CookieScan.after, CookieScan.start]
  next hnot =>
    constructor
    · rintro ⟨⟩
    · rintro ⟨value, parsed, hvalues, -⟩
      exact absurd hvalues (hnot value)

/-! ## The shape of forwarded segments -/

theorem semicolon_not_mem_text {text segment : Bytes} {parsed : CookieSegment}
    (hsegment : segment ∈ text.splitOn semicolon) (hparsed : parseSegment segment = .ok parsed) :
    semicolon ∉ parsed.text := by
  rw [(parseSegment_eq_ok_iff.mp hparsed).1]
  exact fun hmem => not_mem_of_mem_splitOn hsegment (mem_of_mem_trim hmem)

/-- Splitting a rebuilt cookie list gives its segments back. -/
theorem map_trim_splitOn_cookies {parts : List Bytes} (hparts : parts ≠ [])
    (hsemicolon : ∀ part ∈ parts, semicolon ∉ part) :
    ((cookieSeparator.intercalate parts).splitOn semicolon).map trim = parts.map trim :=
  map_trim_splitOn_intercalate (by decide) (by decide) hparts hsemicolon

/-! ## What stripping leaves -/

theorem authenticateAndStrip_ok {headers : HeaderMap} {session : Secret}
    (hok : (authenticateAndStrip headers session).1 = .ok ()) :
    ∃ application, authenticate headers session = .ok application ∧
      ((application = [] ∧
          (authenticateAndStrip headers session).2 = headers.remove Header.cookie) ∨
        (application ≠ [] ∧ ∃ rebuilt : HeaderValue,
          rebuilt.bytes = cookieSeparator.intercalate application ∧
          (authenticateAndStrip headers session).2 =
            (headers.remove Header.cookie).insert Header.cookie rebuilt)) := by
  unfold authenticateAndStrip at hok ⊢
  cases hauthenticated : authenticate headers session with
  | error error =>
      rw [hauthenticated] at hok
      cases hok
  | ok application =>
      refine ⟨application, rfl, ?_⟩
      simp only [hauthenticated] at hok ⊢
      split at hok
      next hempty =>
        rw [if_pos hempty]
        exact .inl ⟨hempty, rfl⟩
      next hnonempty =>
        rw [if_neg hnonempty]
        split at hok
        · cases hok
        next rebuilt hrebuilt =>
          exact .inr ⟨hnonempty, rebuilt, HeaderValue.fromBytes?_eq_some_iff.mp hrebuilt, rfl⟩

/-- Rebuilding the application segments never fails. -/
theorem authenticateAndStrip_isOk_iff {headers : HeaderMap} {session : Secret} :
    (authenticateAndStrip headers session).1 = .ok () ↔
      ∃ application, authenticate headers session = .ok application := by
  refine ⟨fun hok => (authenticateAndStrip_ok hok).imp fun _ h => h.1, ?_⟩
  rintro ⟨application, happlication⟩
  obtain ⟨value, parsed, -, hvisible, hparsed, -, htexts⟩ :=
    authenticate_eq_ok_iff.mp happlication
  have hbytes : ∀ b ∈ cookieSeparator.intercalate application, isVisibleAscii b = true := by
    intro b hb
    rcases mem_of_mem_intercalate hb with hseparator | ⟨text, htext, hmem⟩
    · have hall : ∀ b ∈ cookieSeparator, isVisibleAscii b = true :=
        List.all_eq_true.mp (by decide)
      exact hall b hseparator
    · rw [htexts] at htext
      obtain ⟨segment, hsegment, rfl⟩ := List.mem_map.mp htext
      obtain ⟨source, hsource, hparse⟩ :=
        exists_of_mem_forall₂ hparsed (List.mem_filter.mp hsegment).1
      rw [(parseSegment_eq_ok_iff.mp hparse).1] at hmem
      exact hvisible b (mem_of_mem_splitOn hsource (mem_of_mem_trim hmem))
  obtain ⟨rebuilt, hrebuilt, -⟩ := HeaderValue.fromBytes?_isSome_of_visible hbytes
  simp only [authenticateAndStrip, happlication, hrebuilt]
  split <;> rfl

theorem authenticateAndStrip_getAll_of_ne {headers : HeaderMap} {session : Secret}
    {name : HeaderName} (hname : name ≠ Header.cookie)
    (hok : (authenticateAndStrip headers session).1 = .ok ()) :
    (authenticateAndStrip headers session).2.getAll name = headers.getAll name := by
  obtain ⟨application, -, ⟨-, hstripped⟩ | ⟨-, rebuilt, -, hstripped⟩⟩ :=
    authenticateAndStrip_ok hok
  · rw [hstripped, Multimap.getAll_remove_of_ne _ hname]
  · rw [hstripped, Multimap.getAll_insert_of_ne _ _ hname, Multimap.getAll_remove_of_ne _ hname]

/-- Every segment that is forwarded is a pair with a name that is not reserved. -/
theorem authenticateAndStrip_cookie {headers : HeaderMap} {session : Secret}
    (hok : (authenticateAndStrip headers session).1 = .ok ()) :
    ∀ value ∈ (authenticateAndStrip headers session).2.getAll Header.cookie,
      ∀ segment ∈ value.bytes.splitOn semicolon, ∃ name cookieValue,
        splitOnce equals (trim segment) = some (name, cookieValue) ∧
          isReservedName name = false := by
  obtain ⟨application, happlication, ⟨-, hstripped⟩ | ⟨hne, rebuilt, hrebuilt, hstripped⟩⟩ :=
    authenticateAndStrip_ok hok
  · rw [hstripped, Multimap.getAll_remove_self]
    simp
  · obtain ⟨original, parsed, -, -, hparsed, -, happlied⟩ :=
      authenticate_eq_ok_iff.mp happlication
    intro value hvalue segment hsegment
    rw [hstripped, Multimap.getAll_insert_self, List.mem_singleton] at hvalue
    rw [hvalue, hrebuilt] at hsegment
    have hsource : ∀ p ∈ applicationSegments parsed, ∃ source ∈
        original.bytes.splitOn semicolon, parseSegment source = .ok p := by
      intro p hp
      obtain ⟨source, hmem, hparse⟩ := exists_of_mem_forall₂ hparsed (List.mem_filter.mp hp).1
      exact ⟨source, hmem, hparse⟩
    have hsemicolon : ∀ part ∈ application, semicolon ∉ part := by
      intro part hpart
      rw [happlied] at hpart
      obtain ⟨p, hp, rfl⟩ := List.mem_map.mp hpart
      obtain ⟨source, hsource, hparse⟩ := hsource p hp
      exact semicolon_not_mem_text hsource hparse
    -- splitting the rebuilt list gives the texts of the application segments back
    have hmem : trim segment ∈ application.map trim := by
      rw [← map_trim_splitOn_cookies hne hsemicolon]
      exact List.mem_map_of_mem hsegment
    rw [happlied, List.map_map] at hmem
    obtain ⟨p, hp, htrim⟩ := List.mem_map.mp hmem
    obtain ⟨source, -, hparse⟩ := hsource p hp
    obtain ⟨htext, hsplit, -⟩ := parseSegment_eq_ok_iff.mp hparse
    have hsame : trim segment = p.text := by
      rw [← htrim, Function.comp_apply, htext, trim_trim]
    refine ⟨p.name, p.value, by rw [hsame, hsplit], ?_⟩
    simpa [CookieSegment.isReserved] using (List.mem_filter.mp hp).2

end Rpackit.Transport
