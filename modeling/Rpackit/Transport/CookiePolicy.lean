import Rpackit.Transport.Cookie

/-! # The cookie policy

Which `Cookie` fields authenticate and what is forwarded of them; which `Set-Cookie`
fields are accepted and what is left of them.
-/

namespace Rpackit.Transport

open Text Fallible

/-! ## Cookie fields -/

/-- The trimmed segment is a nonempty token, an equals sign and a value without
control bytes. -/
structure CookieSegment.Reads (parsed : CookieSegment) (segment : Bytes) : Prop where
  text : parsed.text = trim segment
  pair : parsed.text = parsed.name ++ equals :: parsed.value
  nonempty : parsed.name ≠ []
  token : ∀ b ∈ parsed.name, isTokenByte b = true
  printable : ∀ b ∈ parsed.value, isAsciiControl b = false

theorem CookieSegment.Reads.splitOnce_text {parsed : CookieSegment} {segment : Bytes}
    (hreads : parsed.Reads segment) :
    splitOnce equals parsed.text = some (parsed.name, parsed.value) :=
  splitOnce_eq_some_iff.mpr
    ⟨hreads.pair, not_mem_of_isTokenByte hreads.token (by decide)⟩

theorem parseSegment_eq_ok_iff_reads {segment : Bytes} {parsed : CookieSegment} :
    parseSegment segment = .ok parsed ↔ parsed.Reads segment := by
  rw [parseSegment_eq_ok_iff]
  constructor
  · intro hok
    obtain ⟨htext, hsplit, hname, htoken, hvalue⟩ := hok
    exact ⟨htext, (splitOnce_eq_some_iff.mp hsplit).1, hname, htoken, hvalue⟩
  · intro hreads
    exact ⟨hreads.text, hreads.splitOnce_text, hreads.nonempty, hreads.token, hreads.printable⟩

/-- One visible `Cookie` field with these segments; exactly one of them is reserved and
carries the session secret, and no two others share a name. -/
structure Authenticates (headers : HeaderMap) (session : Secret)
    (parsed : List CookieSegment) : Prop where
  field : ∃ value, headers.getAll Header.cookie = [value] ∧
    (∀ b ∈ value.bytes, isVisibleAscii b = true) ∧
    List.Forall₂ (fun segment p => p.Reads segment) (value.bytes.splitOn semicolon) parsed
  session : ∃ segment, reservedSegments parsed = [segment] ∧ segment.value = session.value
  names : ((applicationSegments parsed).map CookieSegment.name).Nodup

theorem authenticate_eq_ok_iff_authenticates {headers : HeaderMap} {session : Secret}
    {application : List Bytes} :
    authenticate headers session = .ok application ↔
      ∃ parsed, Authenticates headers session parsed ∧
        application = (applicationSegments parsed).map CookieSegment.text := by
  rw [authenticate_eq_ok_iff]
  simp only [parseSegment_eq_ok_iff_reads]
  constructor
  · intro hok
    obtain ⟨value, parsed, hvalue, hvisible, hreads, hsession, happlication⟩ := hok
    exact ⟨parsed, ⟨⟨value, hvalue, hvisible, hreads⟩, hsession.reserved, hsession.namesNodup⟩,
      happlication⟩
  · intro hok
    obtain ⟨parsed, ⟨⟨value, hvalue, hvisible, hreads⟩, hreserved, hnames⟩, happlication⟩ := hok
    exact ⟨value, parsed, hvalue, hvisible, hreads, ⟨hreserved, hnames⟩, happlication⟩

/-- A rejected request keeps its headers. -/
theorem authenticateAndStrip_error {headers : HeaderMap} {session : Secret} {error : CookieError}
    (herror : (authenticateAndStrip headers session).1 = .error error) :
    (authenticateAndStrip headers session).2 = headers := by
  cases hauthenticated : authenticate headers session with
  | error other => simp only [authenticateAndStrip, hauthenticated]
  | ok application =>
      have hok := authenticateAndStrip_isOk_iff.mpr ⟨application, hauthenticated⟩
      rw [hok] at herror
      cases herror

/-- What is left of the `Cookie` field. -/
theorem authenticateAndStrip_cookie_bytes {headers : HeaderMap} {session : Secret}
    {application : List Bytes} (happlication : authenticate headers session = .ok application) :
    ((authenticateAndStrip headers session).2.getAll Header.cookie).map HeaderValue.bytes =
      if application = [] then [] else [cookieSeparator.intercalate application] := by
  have hok := authenticateAndStrip_isOk_iff.mpr ⟨application, happlication⟩
  obtain ⟨other, hother, hleft⟩ := authenticateAndStrip_ok hok
  obtain rfl := Except.ok.inj (happlication.symm.trans hother)
  obtain ⟨hempty, hstripped⟩ | ⟨hne, rebuilt, hrebuilt, hstripped⟩ := hleft
  · rw [hstripped, if_pos hempty, Multimap.getAll_remove_self, List.map_nil]
  · rw [hstripped, if_neg hne, Multimap.getAll_insert_self, List.map_singleton, hrebuilt]

/-- Read again, the forwarded field has exactly the application segments. -/
theorem forwarded_reads {parts : List Bytes} {parsed : List CookieSegment}
    (hreads : List.Forall₂ (fun segment p => CookieSegment.Reads p segment) parts parsed)
    (hsemicolon : ∀ part ∈ parts, semicolon ∉ part) (hne : applicationSegments parsed ≠ []) :
    List.Forall₂ (fun segment p => CookieSegment.Reads p segment)
      ((cookieSeparator.intercalate
        ((applicationSegments parsed).map CookieSegment.text)).splitOn semicolon)
      (applicationSegments parsed) := by
  have hsource : ∀ p ∈ applicationSegments parsed, ∃ source ∈ parts, p.Reads source :=
    fun p hp => exists_of_mem_forall₂ hreads (List.mem_filter.mp hp).1
  have htexts : ∀ text ∈ (applicationSegments parsed).map CookieSegment.text,
      semicolon ∉ text := by
    intro text htext hmem
    obtain ⟨p, hp, rfl⟩ := List.mem_map.mp htext
    obtain ⟨source, hmember, hread⟩ := hsource p hp
    rw [hread.text] at hmem
    exact hsemicolon source hmember (mem_of_mem_trim hmem)
  have hsplit := map_trim_splitOn_cookies (by simpa using hne) htexts
  rw [← List.forall₂_eq_eq_eq, List.map_map, List.forall₂_map_left_iff,
    List.forall₂_map_right_iff] at hsplit
  -- A trimmed text does not change when it is trimmed again.
  have hboth := (List.forall₂_and_left (p := fun p => ∃ source ∈ parts, p.Reads source) _ _).mpr
    ⟨hsource, hsplit.flip⟩
  refine List.Forall₂.flip (hboth.imp fun p segment h => ?_)
  obtain ⟨⟨source, -, hread⟩, htrim⟩ := h
  have htext : p.text = trim segment := by
    rw [htrim, Function.comp_apply, hread.text, trim_trim]
  exact ⟨htext, hread.pair, hread.nonempty, hread.token, hread.printable⟩

/-- A segment is read in one way only. -/
theorem CookieSegment.Reads.name_eq {first second : CookieSegment} {segment : Bytes}
    (hfirst : first.Reads segment) (hsecond : second.Reads segment) : first.name = second.name := by
  have hsplit := hfirst.splitOnce_text
  rw [hfirst.text, ← hsecond.text, hsecond.splitOnce_text] at hsplit
  exact (congrArg Prod.fst (Option.some.inj hsplit)).symm

/-- A request authenticates exactly when its one `Cookie` field consists of well-formed
segments, one of them reserved with the session secret, the others of different names.
Then the other segments are forwarded in order, each as it was read, and no segment of a
forwarded field has a reserved name; every other header keeps its values. A rejected
request keeps all its headers. -/
theorem authenticateAndStrip_iff (headers : HeaderMap) (session : Secret) :
    ((authenticateAndStrip headers session).1 = .ok () ↔
      ∃ parsed, Authenticates headers session parsed) ∧
    (∀ parsed, Authenticates headers session parsed →
      ((authenticateAndStrip headers session).2.getAll Header.cookie).map HeaderValue.bytes =
        (if applicationSegments parsed = [] then []
          else [cookieSeparator.intercalate
            ((applicationSegments parsed).map CookieSegment.text)]) ∧
      (∀ value ∈ (authenticateAndStrip headers session).2.getAll Header.cookie,
        List.Forall₂ (fun segment p => CookieSegment.Reads p segment)
          (value.bytes.splitOn semicolon) (applicationSegments parsed) ∧
        ∀ segment ∈ value.bytes.splitOn semicolon, ∀ forwarded : CookieSegment,
          forwarded.Reads segment → isReservedName forwarded.name = false) ∧
      ∀ name ≠ Header.cookie,
        (authenticateAndStrip headers session).2.getAll name = headers.getAll name) ∧
    ∀ error, (authenticateAndStrip headers session).1 = .error error →
      (authenticateAndStrip headers session).2 = headers := by
  refine ⟨?_, fun parsed hauthentic => ?_, fun error => authenticateAndStrip_error⟩
  · rw [authenticateAndStrip_isOk_iff]
    simp only [authenticate_eq_ok_iff_authenticates]
    constructor
    · intro hok
      obtain ⟨_, parsed, hauthentic, -⟩ := hok
      exact ⟨parsed, hauthentic⟩
    · intro hok
      obtain ⟨parsed, hauthentic⟩ := hok
      exact ⟨_, parsed, hauthentic, rfl⟩
  · have happlication := authenticate_eq_ok_iff_authenticates.mpr ⟨parsed, hauthentic, rfl⟩
    have hok := authenticateAndStrip_isOk_iff.mpr ⟨_, happlication⟩
    have hbytes := authenticateAndStrip_cookie_bytes happlication
    simp only [List.map_eq_nil_iff] at hbytes
    refine ⟨hbytes, fun value hvalue => ?_, fun name hname =>
      authenticateAndStrip_getAll_of_ne hname hok⟩
    have hmem := List.mem_map_of_mem (f := HeaderValue.bytes) hvalue
    rw [hbytes] at hmem
    split at hmem
    · cases hmem
    next hne =>
      obtain ⟨field, -, -, hreads⟩ := hauthentic.field
      have hforwarded := forwarded_reads hreads (fun _ => not_mem_of_mem_splitOn) hne
      rw [← List.mem_singleton.mp hmem] at hforwarded
      refine ⟨hforwarded, fun segment hsegment forwarded hread => ?_⟩
      obtain ⟨p, hp, hreadP⟩ := exists_mem_of_mem_forall₂ hforwarded hsegment
      rw [hread.name_eq hreadP]
      simpa [CookieSegment.isReserved] using (List.mem_filter.mp hp).2

/-! ## Set-Cookie fields -/

/-- The trimmed parts of a `Set-Cookie` field: the pair and its attributes. -/
def setCookieParts (value : Bytes) : List Bytes := (value.splitOn semicolon).map trim

def setCookiePair (value : Bytes) : Bytes := (setCookieParts value).headD []

def setCookieAttributes (value : Bytes) : List Bytes := (setCookieParts value).tail

def attributeName (part : Bytes) : Bytes := (splitParameter part).1

/-- The value of a domain attribute is the upstream host, after leading dots. -/
def NamesHost (upstreamHost part : Bytes) : Prop :=
  ∃ domain, (splitParameter part).2 = some domain ∧
    eqIgnoreAsciiCase (domain.dropWhile (· == dot)) upstreamHost = true

/-- Why a `Set-Cookie` field is refused. -/
inductive SetCookieDefect (upstreamHost value : Bytes) : Prop
  | invisible {b : UInt8} (hmem : b ∈ value) (hb : isVisibleAscii b = false)
  | noEquals (hpair : equals ∉ setCookiePair value)
  | emptyName {cookieValue : Bytes} (hpair : setCookiePair value = equals :: cookieValue)
  | badName {name cookieValue : Bytes} {b : UInt8}
      (hpair : splitOnce equals (setCookiePair value) = some (name, cookieValue))
      (hmem : b ∈ name) (hb : isTokenByte b = false)
  | reservedName {name cookieValue : Bytes}
      (hpair : splitOnce equals (setCookiePair value) = some (name, cookieValue))
      (hreserved : isReservedName name = true)
  | emptyAttribute {part : Bytes} (hmem : part ∈ setCookieAttributes value)
      (hname : attributeName part = [])
  | badAttribute {part : Bytes} {b : UInt8} (hmem : part ∈ setCookieAttributes value)
      (hname : b ∈ attributeName part) (hb : isTokenByte b = false)
  | repeatedAttribute
      (hrepeated : ¬ ((setCookieAttributes value).map (lowercase ∘ attributeName)).Nodup)
  | otherDomain {part : Bytes} (hmem : part ∈ setCookieAttributes value)
      (hdomain : isDomainAttribute part = true) (hhost : ¬ NamesHost upstreamHost part)

/-- What is left of an accepted field: all parts but the domain. -/
def withoutDomain (value : Bytes) : Bytes :=
  cookieSeparator.intercalate (setCookiePair value ::
    (setCookieAttributes value).filter fun part => !isDomainAttribute part)

/-- An attribute that the loop lets through. -/
structure AttributeOk (upstreamHost part : Bytes) : Prop where
  nonempty : attributeName part ≠ []
  token : ∀ b ∈ attributeName part, isTokenByte b = true
  domain : isDomainAttribute part = true → NamesHost upstreamHost part

theorem scanAttribute_eq_ok_iff {upstreamHost part : Bytes} {scan next : AttributeScan} :
    scanAttribute upstreamHost scan part = .ok next ↔
      AttributeOk upstreamHost (trim part) ∧
        lowercase (attributeName (trim part)) ∉ scan.attributes ∧
        next = ⟨scan.attributes ++ [lowercase (attributeName (trim part))],
          scan.rebuilt ++ [trim part].filter fun part => !isDomainAttribute part⟩ := by
  -- a part with a name is not empty, so the first check adds nothing
  have hempty : attributeName (trim part) ≠ [] → trim part ≠ [] := by
    intro hname htrim
    rw [htrim] at hname
    exact hname rfl
  simp only [scanAttribute, rejectIf_bind_eq_ok_iff, Bool.or_eq_false_iff, beq_eq_false_iff_ne,
    Bool.not_eq_false', List.all_eq_true, List.contains_eq_mem, decide_eq_false_iff_not]
  by_cases hdomain : isDomainAttribute (trim part) = true
  · have hlower : lowercase (splitParameter (trim part)).1 == asBytes "domain" := hdomain
    simp only [hlower, if_true, okOr_bind_eq_ok_iff, rejectIf_bind_eq_ok_iff, Bool.not_eq_false',
      pure_eq_ok_iff, hdomain, List.filter_cons, Bool.not_true, Bool.false_eq_true, if_false,
      List.filter_nil, List.append_nil]
    constructor
    · intro hok
      obtain ⟨-, ⟨hname, htoken⟩, hnew, domain, hvalue, hhost, hnext⟩ := hok
      exact ⟨⟨hname, htoken, fun _ => ⟨domain, hvalue, hhost⟩⟩, hnew, hnext⟩
    · intro hok
      obtain ⟨⟨hname, htoken, hhost⟩, hnew, hnext⟩ := hok
      obtain ⟨domain, hvalue, hhost⟩ := hhost hdomain
      exact ⟨hempty hname, ⟨hname, htoken⟩, hnew, domain, hvalue, hhost, hnext⟩
  · have hlower : ¬ (lowercase (splitParameter (trim part)).1 == asBytes "domain") = true := hdomain
    simp only [if_neg hlower, pure_eq_ok_iff, hdomain, List.filter_cons, Bool.not_false, if_true,
      List.filter_nil]
    constructor
    · intro hok
      obtain ⟨-, ⟨hname, htoken⟩, hnew, hnext⟩ := hok
      exact ⟨⟨hname, htoken, fun h => absurd h hdomain⟩, hnew, hnext⟩
    · intro hok
      obtain ⟨⟨hname, htoken, -⟩, hnew, hnext⟩ := hok
      exact ⟨hempty hname, ⟨hname, htoken⟩, hnew, hnext⟩

/-- The attribute loop lets a list through exactly when it lets each attribute through
and no name repeats; it keeps all of them but the domain. -/
theorem foldlM_scanAttribute_eq_ok_iff {upstreamHost : Bytes} {parts : List Bytes}
    {scan next : AttributeScan} :
    parts.foldlM (scanAttribute upstreamHost) scan = .ok next ↔
      (∀ part ∈ parts.map trim, AttributeOk upstreamHost part) ∧
        ((parts.map trim).map (lowercase ∘ attributeName)).Nodup ∧
        (∀ name ∈ (parts.map trim).map (lowercase ∘ attributeName), name ∉ scan.attributes) ∧
        next = ⟨scan.attributes ++ (parts.map trim).map (lowercase ∘ attributeName),
          scan.rebuilt ++ (parts.map trim).filter fun part =>
            !isDomainAttribute part⟩ := by
  induction parts generalizing scan with
  | nil => simp [pure_eq_ok_iff]
  | cons part rest ih =>
      have hfilter : (trim part :: rest.map trim).filter (fun part => !isDomainAttribute part) =
          [trim part].filter (fun part => !isDomainAttribute part) ++
            (rest.map trim).filter fun part => !isDomainAttribute part :=
        List.filter_append [trim part] _
      simp only [List.foldlM_cons, bind_eq_ok_iff, scanAttribute_eq_ok_iff, ih]
      constructor
      · intro hok
        obtain ⟨_, ⟨hpart, hnew, rfl⟩, hrest, hnodup, hfresh, hnext⟩ := hok
        simp only [List.mem_append, List.mem_singleton, not_or] at hfresh
        refine ⟨?_, ?_, ?_, ?_⟩
        · rw [List.map_cons, List.forall_mem_cons]
          exact ⟨hpart, hrest⟩
        · rw [List.map_cons, List.map_cons, List.nodup_cons]
          exact ⟨fun hmem => (hfresh _ hmem).2 rfl, hnodup⟩
        · rw [List.map_cons, List.map_cons, List.forall_mem_cons]
          exact ⟨hnew, fun name hname => (hfresh name hname).1⟩
        · rw [hnext, List.map_cons, hfilter]
          simp
      · intro hok
        obtain ⟨hall, hnodup, hfresh, hnext⟩ := hok
        rw [List.map_cons, List.forall_mem_cons] at hall
        rw [List.map_cons, List.map_cons, List.nodup_cons] at hnodup
        rw [List.map_cons, List.map_cons, List.forall_mem_cons] at hfresh
        refine ⟨_, ⟨hall.1, hfresh.1, rfl⟩, hall.2, hnodup.2, fun name hname => ?_, ?_⟩
        · simp only [List.mem_append, List.mem_singleton, not_or]
          exact ⟨hfresh.2 name hname, fun h => hnodup.1 (by rwa [Function.comp_apply, ← h])⟩
        · rw [hnext, List.map_cons, hfilter]
          simp

theorem setCookieParts_eq (value : Bytes) :
    setCookieParts value = setCookiePair value :: setCookieAttributes value := by
  unfold setCookiePair setCookieAttributes
  cases hparts : setCookieParts value with
  | nil => exact absurd (List.map_eq_nil_iff.mp hparts) (List.splitOn_ne_nil _ _)
  | cons pair rest => rfl

/-- A field without a defect has a pair with an acceptable name, and acceptable
attributes of different names. -/
theorem not_setCookieDefect_iff {upstreamHost value : Bytes} :
    ¬ SetCookieDefect upstreamHost value ↔
      (∀ b ∈ value, isVisibleAscii b = true) ∧
      (∃ name cookieValue, splitOnce equals (setCookiePair value) = some (name, cookieValue) ∧
        name ≠ [] ∧ (∀ b ∈ name, isTokenByte b = true) ∧ isReservedName name = false) ∧
      (∀ part ∈ setCookieAttributes value, AttributeOk upstreamHost part) ∧
      ((setCookieAttributes value).map (lowercase ∘ attributeName)).Nodup := by
  constructor
  · intro hgood
    refine ⟨fun b hb => ?_, ?_, fun part hpart => ⟨?_, fun b hb => ?_, fun hdomain => ?_⟩, ?_⟩
    · by_contra hinvisible
      exact hgood (.invisible hb (Bool.eq_false_iff.mpr hinvisible))
    · have hequals : equals ∈ setCookiePair value := by
        by_contra hnone
        exact hgood (.noEquals hnone)
      obtain ⟨name, cookieValue, hpair⟩ := exists_splitOnce_of_mem hequals
      refine ⟨name, cookieValue, hpair, ?_, fun b hb => ?_, ?_⟩
      · rintro rfl
        exact hgood (.emptyName (splitOnce_eq_some_iff.mp hpair).1)
      · by_contra hbad
        exact hgood (.badName hpair hb (Bool.eq_false_iff.mpr hbad))
      · by_contra hreserved
        exact hgood (.reservedName hpair (Bool.not_eq_false _ ▸ hreserved))
    · intro hempty
      exact hgood (.emptyAttribute hpart hempty)
    · by_contra hbad
      exact hgood (.badAttribute hpart hb (Bool.eq_false_iff.mpr hbad))
    · by_contra hhost
      exact hgood (.otherDomain hpart hdomain hhost)
    · by_contra hrepeated
      exact hgood (.repeatedAttribute hrepeated)
  · intro hgood hdefect
    obtain ⟨hvisible, ⟨name, cookieValue, hpair, hname, htoken, hunreserved⟩, hattributes,
      hnodup⟩ :=
      hgood
    -- each defect contradicts the condition of its own check
    cases hdefect with
    | invisible hmem hb => simp [hvisible _ hmem] at hb
    | noEquals hnone =>
        rw [(splitOnce_eq_some_iff.mp hpair).1] at hnone
        exact hnone (by simp)
    | emptyName hempty =>
        have hsplit : splitOnce equals (setCookiePair value) = some ([], _) :=
          splitOnce_eq_some_iff.mpr ⟨hempty, List.not_mem_nil⟩
        rw [hpair, Option.some.injEq, Prod.mk.injEq] at hsplit
        exact hname hsplit.1
    | badName hother hmem hb =>
        obtain ⟨rfl, -⟩ := Prod.mk.inj (Option.some.inj (hpair.symm.trans hother))
        simp [htoken _ hmem] at hb
    | reservedName hother hreserved =>
        obtain ⟨rfl, -⟩ := Prod.mk.inj (Option.some.inj (hpair.symm.trans hother))
        simp [hunreserved] at hreserved
    | emptyAttribute hmem hempty => exact (hattributes _ hmem).nonempty hempty
    | badAttribute hmem hbyte hb => simp [(hattributes _ hmem).token _ hbyte] at hb
    | repeatedAttribute hrepeated => exact hrepeated hnodup
    | otherDomain hmem hdomain hhost => exact hhost ((hattributes _ hmem).domain hdomain)

theorem mem_value_of_mem_setCookieParts {value part : Bytes} {b : UInt8}
    (hpart : part ∈ setCookieParts value) (hb : b ∈ part) : b ∈ value := by
  obtain ⟨source, hsource, rfl⟩ := List.mem_map.mp hpart
  exact mem_of_mem_splitOn hsource (mem_of_mem_trim hb)

/-- The parts that are kept of a field. -/
theorem kept_subset (value : Bytes) :
    (setCookiePair value :: (setCookieAttributes value).filter
      fun part => !isDomainAttribute part) ⊆ setCookieParts value := by
  rw [setCookieParts_eq]
  exact List.cons_subset_cons _ (List.filter_subset_self _)

theorem withoutDomain_visible {value : Bytes} (hvisible : ∀ b ∈ value, isVisibleAscii b = true) :
    ∀ b ∈ withoutDomain value, isVisibleAscii b = true := by
  intro b hb
  obtain hseparator | ⟨part, hpart, hmem⟩ := mem_of_mem_intercalate hb
  · have hall : ∀ b ∈ cookieSeparator, isVisibleAscii b = true := List.all_eq_true.mp (by decide)
    exact hall b hseparator
  · exact hvisible b (mem_value_of_mem_setCookieParts (kept_subset value hpart) hmem)

/-- A field is accepted exactly when it has no defect, and loses its domain. -/
theorem normalizeSetCookie_eq_ok_iff {value normalized : HeaderValue} {upstreamHost : Bytes} :
    normalizeSetCookie value upstreamHost = .ok normalized ↔
      ¬ SetCookieDefect upstreamHost value.bytes ∧
        normalized.bytes = withoutDomain value.bytes := by
  rw [not_setCookieDefect_iff]
  simp only [normalizeSetCookie, okOr_bind_eq_ok_iff, HeaderValue.toStr?_eq_some_iff]
  cases hsplit : value.bytes.splitOn semicolon with
  | nil => exact absurd hsplit (List.splitOn_ne_nil _ _)
  | cons part parts =>
      have hpair : setCookiePair value.bytes = trim part := by
        rw [setCookiePair, setCookieParts, hsplit]
        rfl
      have hattributes : setCookieAttributes value.bytes = parts.map trim := by
        rw [setCookieAttributes, setCookieParts, hsplit]
        rfl
      -- what is joined again is the pair and the attributes that were kept
      have hkept : withoutDomain value.bytes = cookieSeparator.intercalate ([trim part] ++
          (parts.map trim).filter fun part => !isDomainAttribute part) := by
        rw [withoutDomain, hpair, hattributes]
        rfl
      rw [hpair, hattributes, hkept]
      constructor
      · intro hok
        obtain ⟨text, ⟨rfl, hvisible⟩, hok⟩ := hok
        simp only [hsplit, bind_eq_ok_iff, okOr_eq_ok_iff, rejectIf_eq_ok_iff,
          foldlM_scanAttribute_eq_ok_iff, HeaderValue.fromBytes?_eq_some_iff, Prod.exists,
          Bool.or_eq_false_iff, beq_eq_false_iff_ne, Bool.not_eq_false', List.all_eq_true] at hok
        obtain ⟨name, cookieValue, hname, -, ⟨⟨hne, htoken⟩, hunreserved⟩, scan,
          ⟨hall, hnodup, -, rfl⟩, hbytes⟩ := hok
        exact ⟨⟨hvisible, ⟨name, cookieValue, hname, hne, htoken, hunreserved⟩, hall, hnodup⟩,
          hbytes⟩
      · intro hok
        obtain ⟨⟨hvisible, ⟨name, cookieValue, hname, hne, htoken, hunreserved⟩, hall, hnodup⟩,
          hbytes⟩ := hok
        refine ⟨value.bytes, ⟨rfl, hvisible⟩, ?_⟩
        simp only [hsplit, bind_eq_ok_iff, okOr_eq_ok_iff, rejectIf_eq_ok_iff,
          foldlM_scanAttribute_eq_ok_iff, HeaderValue.fromBytes?_eq_some_iff, Prod.exists,
          Bool.or_eq_false_iff, beq_eq_false_iff_ne, Bool.not_eq_false', List.all_eq_true]
        exact ⟨name, cookieValue, hname, (), ⟨⟨hne, htoken⟩, hunreserved⟩, _,
          ⟨hall, hnodup, fun _ _ => List.not_mem_nil, rfl⟩, hbytes⟩

/-! ## Normalized fields -/

/-- The parts of a normalized field are the parts that were kept. -/
theorem setCookieParts_withoutDomain (value : Bytes) :
    setCookieParts (withoutDomain value) = setCookiePair value ::
      (setCookieAttributes value).filter fun part => !isDomainAttribute part := by
  have hsource : ∀ part ∈ setCookiePair value :: (setCookieAttributes value).filter
      (fun part => !isDomainAttribute part),
      ∃ source ∈ value.splitOn semicolon, part = trim source := by
    intro part hpart
    obtain ⟨source, hmem, htrim⟩ := List.mem_map.mp (kept_subset value hpart)
    exact ⟨source, hmem, htrim.symm⟩
  have hsplit := map_trim_splitOn_cookies (List.cons_ne_nil _ _) fun part hpart hmem => by
    obtain ⟨source, hmember, rfl⟩ := hsource part hpart
    exact not_mem_of_mem_splitOn hmember (mem_of_mem_trim hmem)
  rw [setCookieParts, withoutDomain, hsplit]
  refine (List.map_congr_left fun part hpart => ?_).trans (List.map_id _)
  obtain ⟨source, -, rfl⟩ := hsource part hpart
  exact trim_trim source

theorem setCookiePair_withoutDomain (value : Bytes) :
    setCookiePair (withoutDomain value) = setCookiePair value := by
  have hparts := setCookieParts_withoutDomain value
  rw [setCookieParts_eq] at hparts
  exact (List.cons.inj hparts).1

theorem setCookieAttributes_withoutDomain (value : Bytes) :
    setCookieAttributes (withoutDomain value) =
      (setCookieAttributes value).filter fun part => !isDomainAttribute part := by
  have hparts := setCookieParts_withoutDomain value
  rw [setCookieParts_eq] at hparts
  exact (List.cons.inj hparts).2

theorem withoutDomain_withoutDomain (value : Bytes) :
    withoutDomain (withoutDomain value) = withoutDomain value := by
  rw [withoutDomain, setCookiePair_withoutDomain, setCookieAttributes_withoutDomain,
    List.filter_filter]
  simp only [Bool.and_self]
  rfl

/-- Losing the domain brings no defect. -/
theorem not_setCookieDefect_withoutDomain {upstreamHost value : Bytes}
    (hgood : ¬ SetCookieDefect upstreamHost value) :
    ¬ SetCookieDefect upstreamHost (withoutDomain value) := by
  rw [not_setCookieDefect_iff] at hgood ⊢
  obtain ⟨hvisible, hpair, hattributes, hnodup⟩ := hgood
  rw [setCookiePair_withoutDomain, setCookieAttributes_withoutDomain]
  refine ⟨withoutDomain_visible hvisible, hpair, fun part hpart => ?_, ?_⟩
  · exact hattributes part (List.mem_filter.mp hpart).1
  · exact hnodup.sublist (List.filter_sublist.map _)

/-- A normalized field is normalized to itself. -/
theorem normalizeSetCookie_normalized {value normalized : HeaderValue} {upstreamHost : Bytes}
    (hok : normalizeSetCookie value upstreamHost = .ok normalized) :
    normalizeSetCookie normalized upstreamHost = .ok normalized := by
  obtain ⟨hgood, hbytes⟩ := normalizeSetCookie_eq_ok_iff.mp hok
  rw [normalizeSetCookie_eq_ok_iff, hbytes, withoutDomain_withoutDomain]
  exact ⟨not_setCookieDefect_withoutDomain hgood, rfl⟩

/-- Rebuilding a field without a defect never fails. -/
theorem exists_normalizeSetCookie_iff {value : HeaderValue} {upstreamHost : Bytes} :
    (∃ normalized, normalizeSetCookie value upstreamHost = .ok normalized) ↔
      ¬ SetCookieDefect upstreamHost value.bytes := by
  simp only [normalizeSetCookie_eq_ok_iff, exists_and_left]
  apply and_iff_left_of_imp
  intro hgood
  obtain ⟨normalized, -, hbytes⟩ := HeaderValue.fromBytes?_isSome_of_visible
    (withoutDomain_visible (not_setCookieDefect_iff.mp hgood).1)
  exact ⟨normalized, hbytes⟩

theorem exists_normalizeSetCookieHeaders_iff {headers : HeaderMap} {upstreamHost : Bytes} :
    (∃ normalized, normalizeSetCookieHeaders headers upstreamHost = .ok normalized) ↔
      ∀ value ∈ headers.getAll Header.setCookie, ¬ SetCookieDefect upstreamHost value.bytes := by
  simp only [← exists_normalizeSetCookie_iff, ← exists_mapM_eq_ok_iff,
    normalizeSetCookieHeaders_eq_ok_iff]
  constructor
  · intro hok
    obtain ⟨_, values, hvalues, -⟩ := hok
    exact ⟨values, hvalues⟩
  · intro hok
    obtain ⟨values, hvalues⟩ := hok
    exact ⟨_, values, hvalues, rfl⟩

/-- Normalized headers are normalized to themselves. -/
theorem normalizeSetCookieHeaders_normalized {headers normalized : HeaderMap}
    {upstreamHost : Bytes} (hok : normalizeSetCookieHeaders headers upstreamHost = .ok normalized) :
    normalizeSetCookieHeaders normalized upstreamHost = .ok normalized := by
  have hvalues := mapM_eq_ok_iff.mp (normalizeSetCookieHeaders_getAll hok)
  rw [normalizeSetCookieHeaders_eq_ok_iff]
  refine ⟨normalized.getAll Header.setCookie, mapM_eq_ok_iff.mpr ?_, ?_⟩
  · rw [List.forall₂_same]
    intro value hvalue
    obtain ⟨source, -, hsource⟩ := exists_of_mem_forall₂ hvalues hvalue
    exact normalizeSetCookie_normalized hsource
  · split
    · rfl
    next hsome =>
      -- The fields are already the last entries, in this order.
      obtain ⟨values, -, rfl⟩ := normalizeSetCookieHeaders_eq_ok_iff.mp hok
      split
      next hnone => rw [if_pos hnone, hnone] at hsome; exact absurd rfl hsome
      next hne =>
        rw [if_neg hne] at hsome
        rw [Multimap.getAll_appendMany_self, Multimap.getAll_remove_self, List.nil_append,
          Multimap.remove_appendMany_self, Multimap.remove_remove]

/-- An accepted header map keeps its `Set-Cookie` fields in number and order, each with its
pair and all attributes but the domain in order, none with a reserved name; other headers
keep their values, and normalizing again changes nothing. A map is refused exactly when
some field has a defect. -/
theorem normalizeSetCookieHeaders_iff (headers : HeaderMap) (upstreamHost : Bytes) :
    (∀ normalized, normalizeSetCookieHeaders headers upstreamHost = .ok normalized →
      List.Forall₂ (fun before after : HeaderValue =>
          after.bytes = withoutDomain before.bytes ∧
          setCookiePair after.bytes = setCookiePair before.bytes ∧
          setCookieAttributes after.bytes =
            (setCookieAttributes before.bytes).filter fun part => !isDomainAttribute part)
        (headers.getAll Header.setCookie) (normalized.getAll Header.setCookie) ∧
      (∀ value ∈ normalized.getAll Header.setCookie,
        (∀ part ∈ setCookieAttributes value.bytes, isDomainAttribute part = false) ∧
        ∃ name cookieValue, splitOnce equals (setCookiePair value.bytes) =
          some (name, cookieValue) ∧ isReservedName name = false) ∧
      (∀ name ≠ Header.setCookie, normalized.getAll name = headers.getAll name) ∧
      normalizeSetCookieHeaders normalized upstreamHost = .ok normalized) ∧
    ((∃ error, normalizeSetCookieHeaders headers upstreamHost = .error error) ↔
      ∃ value ∈ headers.getAll Header.setCookie, SetCookieDefect upstreamHost value.bytes) := by
  refine ⟨fun normalized hok => ?_, ?_⟩
  · have hvalues := mapM_eq_ok_iff.mp (normalizeSetCookieHeaders_getAll hok)
    refine ⟨hvalues.imp fun before after h => ?_, fun value hvalue => ?_,
      fun name hname => normalizeSetCookieHeaders_getAll_of_ne hname hok,
      normalizeSetCookieHeaders_normalized hok⟩
    · have hbytes := (normalizeSetCookie_eq_ok_iff.mp h).2
      rw [hbytes]
      exact ⟨rfl, setCookiePair_withoutDomain _, setCookieAttributes_withoutDomain _⟩
    · obtain ⟨source, -, hsource⟩ := exists_of_mem_forall₂ hvalues hvalue
      obtain ⟨hgood, hbytes⟩ := normalizeSetCookie_eq_ok_iff.mp hsource
      obtain ⟨-, ⟨name, cookieValue, hpair, -, -, hunreserved⟩, -, -⟩ :=
        not_setCookieDefect_iff.mp hgood
      rw [hbytes, setCookieAttributes_withoutDomain, setCookiePair_withoutDomain]
      refine ⟨fun part hpart => ?_, name, cookieValue, hpair, hunreserved⟩
      simpa using (List.mem_filter.mp hpart).2
  · rw [exists_error_iff, exists_normalizeSetCookieHeaders_iff]
    simp

end Rpackit.Transport
