import Rpackit.Library.CookieJar
import Rpackit.Transport.Proxy.Handler

/-! # The browser that holds the session cookie

A cookie store that took the session cookie from the bootstrap response takes the
cookies of upstream responses as the proxy passes them on. Later requests come
back with the cookies whose paths match, and the request side judges them.
-/

namespace Rpackit.Transport

open Text Fallible

def sessionCookie (session : Secret) : Cookie :=
  ⟨sessionCookieName, session.value, [slash]⟩

/-- The store after the bootstrap response. -/
def sessionJar (session : Secret) : CookieJar :=
  CookieJar.empty.receive bootstrapPath (sessionCookieText session)

inductive BrowserEvent where
  /-- The upstream answers a request for `requestPath`. -/
  | respond (requestPath : Bytes) (upstream : HeaderMap)
  /-- A cookie expires or is evicted. -/
  | discard (name path : Bytes)

/-- A rejected response reaches the browser as a fixed one without cookies. The
session cookie has no lifetime of its own and stays. -/
def browserStep (upstreamHost : Bytes) (jar : CookieJar) : BrowserEvent → CookieJar
  | .respond requestPath upstream =>
      match normalizeSetCookieHeaders upstream upstreamHost with
      | .error _ => jar
      | .ok normalized => (normalized.getAll Header.setCookie).foldl
          (fun jar value => jar.receive requestPath value.bytes) jar
  | .discard name path => if name = sessionCookieName then jar else jar.discard name path

/-- The store after a history of responses and expiries. -/
def browse (upstreamHost : Bytes) (session : Secret) (events : List BrowserEvent) : CookieJar :=
  events.foldl (browserStep upstreamHost) (sessionJar session)

/-! ## Cookies that can be sent -/

/-- What the response side guarantees of a stored cookie. -/
structure Sendable (cookie : Cookie) : Prop where
  nameToken : ∀ b ∈ cookie.name, isTokenByte b = true
  nameNonempty : cookie.name ≠ []
  noSemicolon : semicolon ∉ cookie.value
  visible : ∀ b ∈ cookie.value, isVisibleAscii b = true
  trimmed : trim cookie.pair = cookie.pair

theorem not_isWsp_of_isTokenByte {b : UInt8} (htoken : isTokenByte b = true) :
    isWsp b = false := by
  apply Bool.eq_false_iff.mpr
  intro hwsp
  rw [isWsp, Bool.or_eq_true, beq_iff_eq, beq_iff_eq] at hwsp
  rcases hwsp with rfl | rfl
  · exact absurd htoken (by decide)
  · exact absurd htoken (by decide)

/-- A pair of a token and a value without white space at its end is trimmed. -/
theorem trim_pair {cookie : Cookie} (htoken : ∀ b ∈ cookie.name, isTokenByte b = true)
    (hname : cookie.name ≠ [])
    (hlast : ∀ b, cookie.value.getLast? = some b → isAsciiWhiteSpace b = false) :
    trim cookie.pair = cookie.pair := by
  refine trim_eq_self ?_ ?_
  · intro b hb
    obtain ⟨head, tail, hcons⟩ := List.exists_cons_of_ne_nil hname
    rw [Cookie.pair, hcons, List.cons_append, List.head?_cons, Option.some.injEq] at hb
    subst hb
    have hmem : head ∈ cookie.name := hcons ▸ List.mem_cons_self
    exact not_isAsciiWhiteSpace_of_not_isWsp (isVisibleAscii_of_isTokenByte (htoken _ hmem))
      (not_isWsp_of_isTokenByte (htoken _ hmem))
  · intro b hb
    rw [Cookie.pair, List.getLast?_append_cons] at hb
    cases hvalue : cookie.value with
    | nil =>
        rw [hvalue, List.getLast?_singleton, Option.some.injEq] at hb
        subst hb
        decide
    | cons first rest =>
        rw [hvalue, List.getLast?_cons_cons, ← hvalue] at hb
        exact hlast b hb

/-- The cookie a browser stores from an accepted upstream cookie. -/
theorem parse?_accepted (requestPath : Bytes) {normalized : Bytes}
    (accepted : AcceptedSetCookie normalized) :
    ∃ path, Cookie.parse? requestPath normalized =
      some ⟨accepted.name, trimWsp accepted.value, path⟩ := by
  have hequals : equals ∉ accepted.name := not_mem_of_isTokenByte accepted.nameToken (by decide)
  have hwsp : ∀ b ∈ accepted.name, isWsp b = false :=
    fun b hb => not_isWsp_of_isTokenByte (accepted.nameToken b hb)
  have hparse := Cookie.parse?_intercalate requestPath accepted.noSemicolon
  rw [Cookie.parsePair_pair _ hequals hwsp accepted.nameNonempty] at hparse
  refine ⟨Cookie.storedPath requestPath (accepted.attributes.map (space :: ·)), ?_⟩
  conv_lhs => rw [accepted.rebuilt]
  exact hparse

theorem AcceptedSetCookie.sendable {normalized : Bytes} (accepted : AcceptedSetCookie normalized)
    (path : Bytes) : Sendable ⟨accepted.name, trimWsp accepted.value, path⟩ := by
  have hpair : accepted.name ++ equals :: accepted.value ∈
      (accepted.name ++ equals :: accepted.value) :: accepted.attributes := List.mem_cons_self
  have hvalue : ∀ b ∈ trimWsp accepted.value,
      b ∈ accepted.name ++ equals :: accepted.value := fun b hb =>
    List.mem_append_right _ (List.mem_cons_of_mem _ ((trimWsp_infix_text _).subset hb))
  have hvisible : ∀ b ∈ trimWsp accepted.value, isVisibleAscii b = true := by
    intro b hb
    apply accepted.visible b
    rw [accepted.rebuilt]
    exact mem_intercalate_of_mem hpair (hvalue b hb)
  refine ⟨accepted.nameToken, accepted.nameNonempty, ?_, hvisible, ?_⟩
  · exact fun hmem => accepted.noSemicolon _ hpair (hvalue _ hmem)
  · apply trim_pair accepted.nameToken accepted.nameNonempty
    intro b hb
    exact not_isAsciiWhiteSpace_of_not_isWsp (hvisible b (List.mem_of_getLast? hb))
      (not_isWsp_of_getLast?_trimWsp hb)

theorem isTokenByte_sessionCookieName : ∀ b ∈ sessionCookieName, isTokenByte b = true :=
  List.all_eq_true.mp (by decide)

theorem sessionCookieName_ne_nil : sessionCookieName ≠ [] := by decide

theorem isTokenByte_of_mem_value {session : Secret} {b : UInt8} (hmem : b ∈ session.value) :
    isTokenByte b = true := by
  rw [isTokenByte, isAsciiAlphanumeric, Bool.or_eq_true, Bool.or_eq_true, Bool.or_eq_true]
  rcases Secret.mem_value hmem with hdigit | hlower | rfl
  · exact .inl (.inl (.inl hdigit))
  · exact .inl (.inr hlower)
  · exact .inr (by decide)

theorem sessionCookie_sendable (session : Secret) : Sendable (sessionCookie session) := by
  refine ⟨isTokenByte_sessionCookieName, sessionCookieName_ne_nil, ?_,
    fun b => Secret.isVisibleAscii_of_mem_value, ?_⟩
  · exact not_mem_of_isTokenByte (fun b => isTokenByte_of_mem_value) (by decide)
  · apply trim_pair isTokenByte_sessionCookieName sessionCookieName_ne_nil
    intro b hb
    have htoken := isTokenByte_of_mem_value (List.mem_of_getLast? hb)
    exact not_isAsciiWhiteSpace_of_not_isWsp (isVisibleAscii_of_isTokenByte htoken)
      (not_isWsp_of_isTokenByte htoken)

theorem sessionJar_cookies (session : Secret) :
    (sessionJar session).cookies = [sessionCookie session] := by
  have htext : sessionCookieText session = [semicolon, space].intercalate
      [sessionPair session, asBytes "Path=/", asBytes "HttpOnly", asBytes "SameSite=Strict"] := by
    have htail : asBytes "; Path=/; HttpOnly; SameSite=Strict" = [semicolon, space] ++
        [semicolon, space].intercalate
          [asBytes "Path=/", asBytes "HttpOnly", asBytes "SameSite=Strict"] := by decide
    rw [sessionCookieText, htail]
    conv_rhs => rw [List.intercalate_cons_cons, List.append_assoc]
  have hpair : semicolon ∉ sessionPair session := by
    rw [sessionPair, List.mem_append, List.mem_cons, not_or, not_or]
    exact ⟨by decide, by decide, (sessionCookie_sendable session).noSemicolon⟩
  have hsemicolon : ∀ part ∈ [sessionPair session, asBytes "Path=/", asBytes "HttpOnly",
      asBytes "SameSite=Strict"], semicolon ∉ part := by
    intro part hpart
    rcases List.mem_cons.mp hpart with rfl | hrest
    · exact hpair
    · have hall : ∀ part ∈ [asBytes "Path=/", asBytes "HttpOnly", asBytes "SameSite=Strict"],
        semicolon ∉ part := by decide
      exact hall part hrest
  -- neither the name nor the value begins or ends with a blank
  have hwsp : ∀ b ∈ session.value, isWsp b = false :=
    fun b hb => not_isWsp_of_isTokenByte (isTokenByte_of_mem_value hb)
  have hname : ∀ b ∈ sessionCookieName, isWsp b = false :=
    fun b hb => not_isWsp_of_isTokenByte (isTokenByte_sessionCookieName b hb)
  have hparse : Cookie.parse? bootstrapPath (sessionCookieText session) =
      some (sessionCookie session) := by
    rw [htext, Cookie.parse?_intercalate _ hsemicolon, sessionPair,
      Cookie.parsePair_pair _ (by decide) hname sessionCookieName_ne_nil,
      trimWsp_eq_self hwsp]
    rfl
  rw [sessionJar, CookieJar.receive, hparse]
  rfl

/-! ## What the store always holds -/

/-- The session cookie is the only one with a reserved name, and every cookie can be sent. -/
structure HoldsSession (session : Secret) (jar : CookieJar) : Prop where
  reserved : jar.cookies.filter (fun cookie => isReservedName cookie.name) =
    [sessionCookie session]
  sendable : ∀ cookie ∈ jar.cookies, Sendable cookie

theorem sessionJar_holdsSession (session : Secret) : HoldsSession session (sessionJar session) := by
  constructor
  · rw [sessionJar_cookies, List.filter_eq_self]
    intro cookie hcookie
    rw [List.mem_singleton.mp hcookie]
    exact isReservedName_sessionCookieName
  · rw [sessionJar_cookies]
    intro cookie hcookie
    rw [List.mem_singleton.mp hcookie]
    exact sessionCookie_sendable session

theorem HoldsSession.receive {session : Secret} {jar : CookieJar} (hjar : HoldsSession session jar)
    (requestPath : Bytes) {normalized : Bytes} (accepted : AcceptedSetCookie normalized) :
    HoldsSession session (jar.receive requestPath normalized) := by
  obtain ⟨path, hparse⟩ := parse?_accepted requestPath accepted
  rw [CookieJar.receive, hparse]
  constructor
  · exact (CookieJar.filter_store jar accepted.unreserved).trans hjar.reserved
  · intro cookie hcookie
    rcases CookieJar.mem_store hcookie with rfl | hold
    · exact accepted.sendable path
    · exact hjar.sendable cookie hold

theorem HoldsSession.discard {session : Secret} {jar : CookieJar} (hjar : HoldsSession session jar)
    {name : Bytes} (path : Bytes) (hname : name ≠ sessionCookieName) :
    HoldsSession session (jar.discard name path) := by
  constructor
  · have hkey : (sessionCookie session).key ≠ (name, path) :=
      fun heq => hname (congrArg Prod.fst heq).symm
    rw [CookieJar.discard, List.filter_comm, hjar.reserved]
    simp [hkey]
  · exact fun cookie hcookie => hjar.sendable cookie (List.mem_filter.mp hcookie).1

theorem HoldsSession.receiveMany {session : Secret} {jar : CookieJar}
    (hjar : HoldsSession session jar) (requestPath : Bytes) {values : List HeaderValue}
    (haccepted : ∀ value ∈ values, Nonempty (AcceptedSetCookie value.bytes)) :
    HoldsSession session
      (values.foldl (fun jar value => jar.receive requestPath value.bytes) jar) := by
  induction values generalizing jar with
  | nil => exact hjar
  | cons value rest ih =>
      obtain ⟨accepted⟩ := haccepted value List.mem_cons_self
      exact ih (hjar.receive requestPath accepted) fun other hother =>
        haccepted other (List.mem_cons_of_mem _ hother)

theorem browserStep_holdsSession {upstreamHost : Bytes} {session : Secret} {jar : CookieJar}
    (hjar : HoldsSession session jar) (event : BrowserEvent) :
    HoldsSession session (browserStep upstreamHost jar event) := by
  cases event with
  | respond requestPath upstream =>
      rw [browserStep]
      split
      · exact hjar
      next normalized hnormalized =>
        apply hjar.receiveMany requestPath
        intro value hvalue
        obtain ⟨source, -, hsource⟩ :=
          exists_of_mem_mapM (normalizeSetCookieHeaders_getAll hnormalized) hvalue
        exact normalizeSetCookie_accepted hsource
  | discard name path =>
      rw [browserStep]
      split
      · exact hjar
      next hname => exact hjar.discard path hname

theorem browse_holdsSession (upstreamHost : Bytes) (session : Secret)
    (events : List BrowserEvent) : HoldsSession session (browse upstreamHost session events) :=
  List.foldlRecOn events _ (sessionJar_holdsSession session) fun _ hjar event _ =>
    browserStep_holdsSession hjar event

/-! ## What the request side makes of the cookies -/

def segmentOf (cookie : Cookie) : CookieSegment := ⟨cookie.pair, cookie.name, cookie.value⟩

theorem parseSegment_trim (segment : Bytes) :
    parseSegment (trim segment) = parseSegment segment := by
  simp only [parseSegment, trim_trim]

/-- A stored cookie is read back exactly when its value has no tab. -/
theorem parseSegment_pair_eq_ok_iff {cookie : Cookie} (hsendable : Sendable cookie)
    {parsed : CookieSegment} :
    parseSegment cookie.pair = .ok parsed ↔ tab ∉ cookie.value ∧ parsed = segmentOf cookie := by
  have hequals : equals ∉ cookie.name := not_mem_of_isTokenByte hsendable.nameToken (by decide)
  have hsplit : splitOnce equals cookie.pair = some (cookie.name, cookie.value) :=
    splitOnce_eq_some_iff.mpr ⟨rfl, hequals⟩
  have hcontrol : (∀ b ∈ cookie.value, isAsciiControl b = false) ↔ tab ∉ cookie.value := by
    constructor
    · exact fun hall hmem => absurd (hall _ hmem) (by decide)
    · exact fun htab b hb => not_isAsciiControl_of_isVisibleAscii (hsendable.visible b hb)
        fun heq => htab (heq ▸ hb)
  rw [parseSegment_eq_ok_iff, hsendable.trimmed]
  constructor
  · rintro ⟨htext, hparts, -, -, hvalue⟩
    rw [htext, hsplit, Option.some.injEq, Prod.mk.injEq] at hparts
    refine ⟨hcontrol.mp (hparts.2 ▸ hvalue), ?_⟩
    cases parsed
    simp only [segmentOf, CookieSegment.mk.injEq]
    exact ⟨htext, hparts.1.symm, hparts.2.symm⟩
  · rintro ⟨htab, rfl⟩
    exact ⟨rfl, hsplit, hsendable.nameNonempty, hsendable.nameToken, hcontrol.mpr htab⟩

/-- The segments of a cookie list are read back exactly when no value has a tab. -/
theorem parseSegments_eq_ok_iff {sent : List Cookie} (hsent : sent ≠ [])
    (hsendable : ∀ cookie ∈ sent, Sendable cookie) {parsed : List CookieSegment} :
    List.Forall₂ (fun segment p => parseSegment segment = .ok p)
        ((Cookie.header sent).splitOn semicolon) parsed ↔
      (∀ cookie ∈ sent, tab ∉ cookie.value) ∧ parsed = sent.map segmentOf := by
  -- the joined cookies are split again at their separators
  have hparts : ((Cookie.header sent).splitOn semicolon).map trim = sent.map Cookie.pair := by
    have hsemicolon : ∀ part ∈ sent.map Cookie.pair, semicolon ∉ part := by
      intro part hpart
      obtain ⟨cookie, hcookie, rfl⟩ := List.mem_map.mp hpart
      have hname := not_mem_of_isTokenByte (hsendable cookie hcookie).nameToken
        (show isTokenByte semicolon = false by decide)
      rw [Cookie.pair, List.mem_append, List.mem_cons, not_or, not_or]
      exact ⟨hname, by decide, (hsendable cookie hcookie).noSemicolon⟩
    rw [Cookie.header, ← cookieSeparator,
      map_trim_splitOn_cookies (by simpa using hsent) hsemicolon, List.map_map]
    exact List.map_congr_left fun cookie hcookie => (hsendable cookie hcookie).trimmed
  have htrim : List.Forall₂ (fun segment p => parseSegment segment = .ok p)
        (((Cookie.header sent).splitOn semicolon).map trim) parsed ↔
      List.Forall₂ (fun segment p => parseSegment segment = .ok p)
        ((Cookie.header sent).splitOn semicolon) parsed := by
    rw [List.forall₂_map_left_iff]
    simp only [parseSegment_trim]
  rw [← htrim, hparts, List.forall₂_map_left_iff]
  clear htrim hparts hsent
  induction sent generalizing parsed with
  | nil => simp
  | cons cookie rest ih =>
      rw [List.forall₂_cons_left_iff]
      simp only [parseSegment_pair_eq_ok_iff (hsendable cookie List.mem_cons_self),
        ih fun other hother => hsendable other (List.mem_cons_of_mem _ hother)]
      constructor
      · rintro ⟨_, _, ⟨htab, rfl⟩, ⟨hrest, rfl⟩, rfl⟩
        exact ⟨List.forall_mem_cons.mpr ⟨htab, hrest⟩, rfl⟩
      · rintro ⟨htabs, rfl⟩
        obtain ⟨htab, hrest⟩ := List.forall_mem_cons.mp htabs
        exact ⟨_, _, ⟨htab, rfl⟩, ⟨hrest, rfl⟩, rfl⟩

theorem reservedSegments_map (sent : List Cookie) : reservedSegments (sent.map segmentOf) =
    (sent.filter fun cookie => isReservedName cookie.name).map segmentOf := List.filter_map ..

theorem applicationSegments_map (sent : List Cookie) : applicationSegments (sent.map segmentOf) =
    (sent.filter fun cookie => !isReservedName cookie.name).map segmentOf := List.filter_map ..

/-- With the session cookie as the only reserved one, the names of all cookies are
distinct when those of the others are. -/
theorem nodup_names_iff {session : Secret} {sent : List Cookie}
    (hreserved : sent.filter (fun cookie => isReservedName cookie.name) =
      [sessionCookie session]) :
    ((sent.filter fun cookie => !isReservedName cookie.name).map Cookie.name).Nodup ↔
      (sent.map Cookie.name).Nodup := by
  have hperm := (List.filter_append_perm (fun cookie => isReservedName cookie.name) sent).map
    Cookie.name
  rw [hreserved, List.singleton_append, List.map_cons] at hperm
  rw [← hperm.nodup_iff, List.nodup_cons, and_iff_right]
  intro hmem
  obtain ⟨cookie, hcookie, hname⟩ := List.mem_map.mp hmem
  have hplain := (List.mem_filter.mp hcookie).2
  rw [hname] at hplain
  simp [sessionCookie, isReservedName_sessionCookieName] at hplain

theorem HoldsSession.sent_reserved {session : Secret} {jar : CookieJar}
    (hjar : HoldsSession session jar) {requestPath : Bytes}
    (hrooted : requestPath.head? = some slash) {sent : List Cookie}
    (hsent : sent.Perm (jar.matching requestPath)) :
    sent.filter (fun cookie => isReservedName cookie.name) = [sessionCookie session] := by
  have hperm := hsent.filter fun cookie => isReservedName cookie.name
  have hroot : (sessionCookie session).matchesPath requestPath = true :=
    Cookie.matchesPath_root rfl hrooted
  have hmatching : [sessionCookie session].filter (·.matchesPath requestPath) =
      [sessionCookie session] := by simp [hroot]
  rw [CookieJar.matching, List.filter_comm, hjar.reserved, hmatching] at hperm
  exact List.perm_singleton.mp hperm

/-- The bytes of the `Cookie` field the browser sends are visible. -/
theorem isVisibleAscii_of_mem_header {sent : List Cookie}
    (hsendable : ∀ cookie ∈ sent, Sendable cookie) {b : UInt8} (hb : b ∈ Cookie.header sent) :
    isVisibleAscii b = true := by
  rcases mem_of_mem_intercalate hb with hseparator | ⟨part, hpart, hmem⟩
  · have hall : ∀ b ∈ [semicolon, space], isVisibleAscii b = true :=
      List.all_eq_true.mp (by decide)
    exact hall b hseparator
  · obtain ⟨cookie, hcookie, rfl⟩ := List.mem_map.mp hpart
    rcases List.mem_append.mp hmem with hname | htail
    · exact isVisibleAscii_of_isTokenByte ((hsendable cookie hcookie).nameToken b hname)
    · rcases List.mem_cons.mp htail with rfl | hvalue
      · decide
      · exact (hsendable cookie hcookie).visible b hvalue

/-- A request path: it starts at the root. -/
structure RequestPath where
  bytes : Bytes
  rooted : bytes.head? = some slash

/-- Whatever the upstream set before, the browser's cookies for a path authenticate
exactly when their names are distinct and no value has a tab. -/
theorem browser_cookies_authenticate_iff (upstreamHost : Bytes) (session : Secret)
    (events : List BrowserEvent) (path : RequestPath) (sent : List Cookie)
    (hsent : sent.Perm ((browse upstreamHost session events).matching path.bytes)) :
    ∃ value : HeaderValue, value.bytes = Cookie.header sent ∧ ∀ headers : HeaderMap,
      ((authenticateAndStrip (headers.insert Header.cookie value) session).1 = .ok () ↔
        (sent.map Cookie.name).Nodup ∧ ∀ cookie ∈ sent, tab ∉ cookie.value) := by
  have hjar := browse_holdsSession upstreamHost session events
  have hsendable : ∀ cookie ∈ sent, Sendable cookie := fun cookie hcookie =>
    hjar.sendable cookie ((CookieJar.matching_sublist _ _).subset (hsent.mem_iff.mp hcookie))
  have hreserved := hjar.sent_reserved path.rooted hsent
  have hne : sent ≠ [] := by
    rintro rfl
    cases hreserved
  have hvisible : ∀ b ∈ Cookie.header sent, isVisibleAscii b = true :=
    fun b => isVisibleAscii_of_mem_header hsendable
  obtain ⟨value, -, hvalue⟩ := HeaderValue.fromBytes?_isSome_of_visible hvisible
  refine ⟨value, hvalue, fun headers => ?_⟩
  -- the jar sends one reserved cookie, so only repeated names are left to refuse
  have hcarries : CarriesSession session (sent.map segmentOf) ↔ (sent.map Cookie.name).Nodup := by
    rw [← nodup_names_iff hreserved]
    constructor
    · rintro ⟨-, hnodup⟩
      rwa [applicationSegments_map, List.map_map] at hnodup
    · intro hnodup
      refine ⟨⟨segmentOf (sessionCookie session), ?_, rfl⟩, ?_⟩
      · rw [reservedSegments_map, hreserved, List.map_singleton]
      · rwa [applicationSegments_map, List.map_map]
  rw [authenticateAndStrip_isOk_iff]
  simp only [authenticate_eq_ok_iff, Multimap.getAll_insert_self, List.cons.injEq, and_true]
  constructor
  · rintro ⟨_, _, parsed, rfl, -, hparsed, hsession, -⟩
    rw [hvalue, parseSegments_eq_ok_iff hne hsendable] at hparsed
    obtain ⟨htabs, rfl⟩ := hparsed
    exact ⟨hcarries.mp hsession, htabs⟩
  · rintro ⟨hnodup, htabs⟩
    refine ⟨_, value, sent.map segmentOf, rfl, hvalue ▸ hvisible, ?_, hcarries.mpr hnodup, rfl⟩
    rw [hvalue]
    exact (parseSegments_eq_ok_iff hne hsendable).mpr ⟨htabs, rfl⟩

/-- A session and two responses for the root path whose cookies share a name and
differ in their paths. -/
def sameNameEvents : List BrowserEvent :=
  [.respond (asBytes "/") (Multimap.empty.append Header.setCookie
    (.fromStatic "a=1; Path=/; Domain=127.0.0.1" (by decide))),
   .respond (asBytes "/") (Multimap.empty.append Header.setCookie
    (.fromStatic "a=2; Path=/x" (by decide)))]

/-- One response whose cookie has a tab inside its value. -/
def tabEvents : List BrowserEvent :=
  [.respond (asBytes "/") (Multimap.empty.append Header.setCookie
    (.fromStatic "a=1\t2" (by decide)))]

theorem length_fixtureSeed : (List.replicate 32 (7 : UInt8)).length = 32 := List.length_replicate

def fixtureSecret : Secret := ⟨List.replicate 32 7, length_fixtureSeed⟩

/-- Outside the narrower path one cookie of the name is sent, and it authenticates. -/
theorem browser_cookies_authenticate_at_root :
    ∃ value : HeaderValue,
      value.bytes = Cookie.header ((browse (asBytes "127.0.0.1") fixtureSecret
        sameNameEvents).matching (asBytes "/")) ∧
      ∀ headers : HeaderMap, (authenticateAndStrip (headers.insert Header.cookie value)
        fixtureSecret).1 = .ok () := by
  obtain ⟨value, hvalue, hiff⟩ := browser_cookies_authenticate_iff (asBytes "127.0.0.1")
    fixtureSecret sameNameEvents ⟨asBytes "/", by decide⟩ _ (List.Perm.refl _)
  exact ⟨value, hvalue, fun headers => (hiff headers).mpr (by decide +kernel)⟩

/-- Below the narrower path the browser sends both cookies of the name, and the
request side refuses them, as it refuses a single value with a tab. -/
theorem browser_cookies_refused :
    ((browse (asBytes "127.0.0.1") fixtureSecret sameNameEvents).matching (asBytes "/x") =
        [sessionCookie fixtureSecret, ⟨asBytes "a", asBytes "1", asBytes "/"⟩,
          ⟨asBytes "a", asBytes "2", asBytes "/x"⟩] ∧
      ∃ value : HeaderValue, value.bytes = Cookie.header ((browse (asBytes "127.0.0.1")
          fixtureSecret sameNameEvents).matching (asBytes "/x")) ∧
        (authenticateAndStrip (Multimap.empty.insert Header.cookie value) fixtureSecret).1 =
          .error .ambiguous) ∧
    ((browse (asBytes "127.0.0.1") fixtureSecret tabEvents).matching (asBytes "/") =
        [sessionCookie fixtureSecret, ⟨asBytes "a", asBytes "1\t2", asBytes "/"⟩] ∧
      ∃ value : HeaderValue, value.bytes = Cookie.header ((browse (asBytes "127.0.0.1")
          fixtureSecret tabEvents).matching (asBytes "/")) ∧
        (authenticateAndStrip (Multimap.empty.insert Header.cookie value) fixtureSecret).1 =
          .error .ambiguous) := by
  refine ⟨⟨by decide +kernel, ⟨_, ?_⟩, rfl, ?_⟩, by decide +kernel, ⟨_, ?_⟩, rfl, ?_⟩
  · decide +kernel
  · decide +kernel
  · decide +kernel
  · decide +kernel

end Rpackit.Transport
