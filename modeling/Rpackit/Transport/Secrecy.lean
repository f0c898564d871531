import Rpackit.Transport.UpstreamRequest
import Rpackit.Transport.Bootstrap

/-! # What shows of the secrets

Two proxies that differ in their secrets are asked the same things, each with its own
credentials where a request carries credentials. What they send upstream and what they answer
is the same, but for the two places where a secret is meant to stand: the protected field of a
forwarded request and the session cookie of the one bootstrap response.
-/

namespace Rpackit.Transport

open Text Fallible

variable {Incoming Url : Type}

/-! ## Requests with credentials left open -/

/-- What stands between two semicolons of a `Cookie` field: a text, or the session credential
under a reserved name. -/
inductive SegmentTemplate where
  | text (bytes : Bytes)
  | credential (before name after : Bytes)

namespace SegmentTemplate

def fill (session : Secret) : SegmentTemplate → Bytes
  | .text bytes => bytes
  | .credential before name after => before ++ (name ++ equals :: session.value) ++ after

/-- It may stand in a field, and between two semicolons. -/
def Fits : SegmentTemplate → Prop
  | .text bytes => ∀ b ∈ bytes, isHeaderValueByte b = true ∧ b ≠ semicolon
  | .credential before name after =>
      (∀ b ∈ before, b = space ∨ b = tab) ∧ (∀ b ∈ after, b = space ∨ b = tab) ∧
        (∀ b ∈ name, isTokenByte b = true) ∧ isReservedName name = true

/-- It does not spell the credential out. -/
def Blind (session : Secret) : SegmentTemplate → Prop
  | .text bytes => ¬session.value <:+: bytes
  | .credential _ _ _ => True

end SegmentTemplate

structure CookieTemplate where
  segments : List SegmentTemplate
  nonempty : segments ≠ []
  fits : ∀ segment ∈ segments, segment.Fits

theorem SegmentTemplate.Fits.fill {segment : SegmentTemplate} (hfits : segment.Fits)
    (session : Secret) :
    ∀ b ∈ segment.fill session, isHeaderValueByte b = true ∧ b ≠ semicolon := by
  cases segment with
  | text bytes => exact hfits
  | credential before name after =>
      obtain ⟨hbefore, hafter, hname, -⟩ := hfits
      have hblank : ∀ b, b = space ∨ b = tab → isHeaderValueByte b = true ∧ b ≠ semicolon := by
        rintro b (rfl | rfl) <;> decide
      have htoken : ∀ b, isTokenByte b = true → isHeaderValueByte b = true ∧ b ≠ semicolon :=
        forall_byte (by decide +kernel)
      have hsecret : ∀ b, isAsciiDigit b = true ∨ isAsciiLowercase b = true ∨ b = 0x2D →
          isHeaderValueByte b = true ∧ b ≠ semicolon := forall_byte (by decide +kernel)
      intro b hb
      simp only [SegmentTemplate.fill, List.mem_append, List.mem_cons] at hb
      obtain (hb | hb | rfl | hb) | hb := hb
      · exact hblank b (hbefore b hb)
      · exact htoken b (hname b hb)
      · decide
      · exact hsecret b (Secret.mem_value hb)
      · exact hblank b (hafter b hb)

namespace CookieTemplate

def fill (session : Secret) (template : CookieTemplate) : HeaderValue where
  bytes := [semicolon].intercalate (template.segments.map (·.fill session))
  valid := by
    rw [List.all_eq_true]
    intro b hb
    obtain hb | ⟨part, hpart, hb⟩ := mem_of_mem_intercalate hb
    · obtain rfl := List.mem_singleton.mp hb
      decide
    · obtain ⟨segment, hsegment, rfl⟩ := List.mem_map.mp hpart
      exact ((template.fits segment hsegment).fill session b hb).1

/-- The parts of a filled field are the filled parts. -/
theorem splitOn_fill (session : Secret) (template : CookieTemplate) :
    (template.fill session).bytes.splitOn semicolon = template.segments.map (·.fill session) := by
  apply List.splitOn_intercalate
  · intro part hpart hmem
    obtain ⟨segment, hsegment, rfl⟩ := List.mem_map.mp hpart
    exact ((template.fits segment hsegment).fill session semicolon hmem).2 rfl
  · simpa using template.nonempty

end CookieTemplate

/-- A field of a request, with credentials left open. -/
inductive FieldTemplate where
  | plain (name : HeaderName) (value : HeaderValue)
  | cookie (template : CookieTemplate)
  | bootstrap

/-- A secret as the value of a field. -/
def Secret.headerValue (secret : Secret) : HeaderValue where
  bytes := secret.value
  valid := List.all_eq_true.mpr fun _ hb =>
    HeaderValue.isHeaderValueByte_of_isVisibleAscii (Secret.isVisibleAscii_of_mem_value hb)

namespace FieldTemplate

def fill (secrets : TransportSecrets) : FieldTemplate → HeaderName × HeaderValue
  | .plain name value => (name, value)
  | .cookie template => (Header.cookie, template.fill secrets.session)
  | .bootstrap => (bootstrapHeaderName, secrets.bootstrap.headerValue)

/-- Where a credential is checked, the field is none that was guessed. -/
def Blind (secrets : TransportSecrets) : FieldTemplate → Prop
  | .plain name value =>
      (name = Header.cookie → ¬secrets.session.value <:+: value.bytes) ∧
        (name = bootstrapHeaderName → value.bytes ≠ secrets.bootstrap.value)
  | .cookie template => ∀ segment ∈ template.segments, segment.Blind secrets.session
  | .bootstrap => True

end FieldTemplate

structure RequestTemplate (Incoming : Type) where
  method : Method
  uri : Uri
  version : Version
  fields : List FieldTemplate
  body : Incoming

namespace RequestTemplate

def fillHeaders (secrets : TransportSecrets) (fields : List FieldTemplate) : HeaderMap :=
  ⟨fields.map (·.fill secrets)⟩

def fill (secrets : TransportSecrets) (template : RequestTemplate Incoming) : Request Incoming where
  method := template.method
  uri := template.uri
  version := template.version
  headers := fillHeaders secrets template.fields
  body := template.body

def Blind (secrets : TransportSecrets) (template : RequestTemplate Incoming) : Prop :=
  ∀ field ∈ template.fields, field.Blind secrets

end RequestTemplate

/-! ## Session authentication -/

/-- Two segments that differ at most in the credentials that two sessions expect. -/
structure SegmentsAlike (first second : Secret) (segment twin : CookieSegment) : Prop where
  name : segment.name = twin.name
  value : segment.value = first.value ↔ twin.value = second.value
  application : segment.isReserved = false → segment.text = twin.text

section Authentication

variable {first second : Secret}

/-- Two texts that parse to alike segments, or not at all. -/
def PartsAlike (first second : Secret) (part twin : Bytes) : Prop :=
  ∀ parsed, parseSegment part = .ok parsed →
    ∃ other, parseSegment twin = .ok other ∧ SegmentsAlike first second parsed other

theorem partsAlike_text {bytes : Bytes} (hfirst : ¬first.value <:+: bytes)
    (hsecond : ¬second.value <:+: bytes) : PartsAlike first second bytes bytes := by
  intro parsed hparsed
  obtain ⟨htext, hsplit, -⟩ := parseSegment_eq_ok_iff.mp hparsed
  have hvalue : parsed.value <:+: bytes := by
    have hparts := (splitOnce_eq_some_iff.mp hsplit).1
    have hsuffix : parsed.value <:+ trim bytes :=
      ⟨parsed.name ++ [equals], by rw [← htext, hparts]; simp⟩
    exact hsuffix.isInfix.trans (trim_infix_text bytes)
  refine ⟨parsed, hparsed, rfl, ?_, fun _ => rfl⟩
  constructor
  · intro heq
    exact absurd (heq ▸ hvalue) hfirst
  · intro heq
    exact absurd (heq ▸ hvalue) hsecond

/-- What a filled credential is parsed to. -/
theorem parseSegment_credential {before name after : Bytes}
    (hfits : (SegmentTemplate.credential before name after).Fits) (session : Secret) :
    parseSegment ((SegmentTemplate.credential before name after).fill session) =
      .ok ⟨name ++ equals :: session.value, name, session.value⟩ := by
  obtain ⟨hbefore, hafter, hname, hreserved⟩ := hfits
  have hblank : ∀ b, b = space ∨ b = tab → isAsciiWhiteSpace b = true := by
    rintro b (rfl | rfl) <;> decide
  have htoken : ∀ b, isTokenByte b = true → isAsciiWhiteSpace b = false :=
    forall_byte (by decide +kernel)
  have hsecret : ∀ b, isAsciiDigit b = true ∨ isAsciiLowercase b = true ∨ b = 0x2D →
      isAsciiWhiteSpace b = false ∧ isAsciiControl b = false := forall_byte (by decide +kernel)
  rw [parseSegment_eq_ok_iff]
  refine ⟨?_, ?_, ?_, hname, fun b hb => (hsecret b (Secret.mem_value hb)).2⟩
  · symm
    apply trimmed_append
    · exact fun b hb => hblank b (hbefore b hb)
    · exact fun b hb => hblank b (hafter b hb)
    · intro b hb
      rcases List.mem_append.mp hb with hb | hb
      · exact htoken b (hname b hb)
      · rcases List.mem_cons.mp hb with rfl | hb
        · decide
        · exact (hsecret b (Secret.mem_value hb)).1
    · simp
  · exact splitOnce_eq_some_iff.mpr ⟨rfl, not_mem_of_isTokenByte hname (by decide)⟩
  · rintro rfl
    exact absurd hreserved (by decide)

theorem partsAlike_fill {segment : SegmentTemplate} (hfits : segment.Fits)
    (hfirst : segment.Blind first) (hsecond : segment.Blind second) :
    PartsAlike first second (segment.fill first) (segment.fill second) := by
  cases segment with
  | text bytes => exact partsAlike_text hfirst hsecond
  | credential before name after =>
      intro parsed hparsed
      rw [parseSegment_credential hfits] at hparsed
      cases hparsed
      refine ⟨_, parseSegment_credential hfits second, rfl, by simp, ?_⟩
      intro hopen
      rw [CookieSegment.isReserved, hfits.2.2.2] at hopen
      cases hopen

/-- Two field values that authenticate alike. -/
structure ValuesAlike (first second : Secret) (value twin : HeaderValue) : Prop where
  visible : (∀ b ∈ value.bytes, isVisibleAscii b = true) →
    ∀ b ∈ twin.bytes, isVisibleAscii b = true
  parts : List.Forall₂ (PartsAlike first second) (value.bytes.splitOn semicolon)
    (twin.bytes.splitOn semicolon)

theorem forall₂_parsed {parts twins : List Bytes} {parsed : List CookieSegment}
    (halike : List.Forall₂ (PartsAlike first second) parts twins)
    (hparsed : List.Forall₂ (fun part p => parseSegment part = .ok p) parts parsed) :
    ∃ others, List.Forall₂ (fun part p => parseSegment part = .ok p) twins others ∧
      List.Forall₂ (SegmentsAlike first second) parsed others := by
  induction halike generalizing parsed with
  | nil =>
      cases hparsed
      exact ⟨[], .nil, .nil⟩
  | cons hpart _ ih =>
      cases hparsed with
      | cons hfirst hrest =>
          obtain ⟨other, hother, hsame⟩ := hpart _ hfirst
          obtain ⟨others, hothers, hrests⟩ := ih hrest
          exact ⟨other :: others, .cons hother hothers, .cons hsame hrests⟩

theorem SegmentsAlike.isReserved {segment twin : CookieSegment}
    (halike : SegmentsAlike first second segment twin) :
    segment.isReserved = twin.isReserved := by
  rw [CookieSegment.isReserved, CookieSegment.isReserved, halike.name]

section Parsed

variable {parsed others : List CookieSegment}

theorem forall₂_applicationSegments
    (halike : List.Forall₂ (SegmentsAlike first second) parsed others) :
    (applicationSegments parsed).map CookieSegment.text =
        (applicationSegments others).map CookieSegment.text ∧
      (applicationSegments parsed).map CookieSegment.name =
        (applicationSegments others).map CookieSegment.name := by
  induction halike with
  | nil => exact ⟨rfl, rfl⟩
  | @cons segment twin _ _ hsegment _ ih =>
      have hkind := hsegment.isReserved
      cases hreserved : segment.isReserved with
      | true =>
          have htwin : twin.isReserved = true := hkind ▸ hreserved
          simpa [applicationSegments, hreserved, htwin] using ih
      | false =>
          have htwin : twin.isReserved = false := hkind ▸ hreserved
          simpa [applicationSegments, hreserved, htwin, hsegment.name,
            hsegment.application hreserved] using ih

theorem CarriesSession.alike (hcarries : CarriesSession first parsed)
    (halike : List.Forall₂ (SegmentsAlike first second) parsed others) :
    CarriesSession second others := by
  have hreserved : List.Forall₂ (SegmentsAlike first second) (reservedSegments parsed)
      (reservedSegments others) :=
    List.rel_filter (fun _ _ hsegment => Bool.eq_iff_iff.mp hsegment.isReserved) halike
  obtain ⟨segment, hsegment, hvalue⟩ := hcarries.reserved
  rw [hsegment] at hreserved
  obtain ⟨twin, rest, htwin, hrest, hothers⟩ := List.forall₂_cons_left_iff.mp hreserved
  cases hrest
  refine ⟨⟨twin, hothers, htwin.value.mp hvalue⟩, ?_⟩
  rw [← (forall₂_applicationSegments halike).2]
  exact hcarries.namesNodup

end Parsed

theorem authenticate_alike {headers twins : HeaderMap} {application : List Bytes}
    (halike : List.Forall₂ (ValuesAlike first second) (headers.getAll Header.cookie)
      (twins.getAll Header.cookie))
    (hok : authenticate headers first = .ok application) :
    authenticate twins second = .ok application := by
  obtain ⟨value, parsed, hvalue, hvisible, hparsed, hcarries, rfl⟩ :=
    authenticate_eq_ok_iff.mp hok
  rw [hvalue] at halike
  obtain ⟨twin, rest, htwin, hrest, htwins⟩ := List.forall₂_cons_left_iff.mp halike
  cases hrest
  obtain ⟨others, hothers, hsame⟩ := forall₂_parsed htwin.parts hparsed
  rw [authenticate_eq_ok_iff]
  exact ⟨twin, others, htwins, htwin.visible hvisible, hothers, hcarries.alike hsame,
    (forall₂_applicationSegments hsame).1⟩

end Authentication

/-! ## Filled header maps -/

section Filled

open RequestTemplate

variable {first second : TransportSecrets} {fields : List FieldTemplate}

theorem FieldTemplate.fill_fst (first second : TransportSecrets) (field : FieldTemplate) :
    (field.fill first).1 = (field.fill second).1 := by
  cases field <;> rfl

theorem fillHeaders_getAll_cons (secrets : TransportSecrets) (field : FieldTemplate)
    (name : HeaderName) : (fillHeaders secrets (field :: fields)).getAll name =
      (if (field.fill secrets).1 = name then [(field.fill secrets).2] else []) ++
        (fillHeaders secrets fields).getAll name := by
  unfold fillHeaders Multimap.getAll
  rw [List.map_cons, List.filterMap_cons]
  split
  next hnone =>
    split at hnone
    · cases hnone
    next hname => rw [if_neg hname, List.nil_append]
  next value hsome =>
    split at hsome
    next hname =>
      cases hsome
      rw [if_pos hname, List.singleton_append]
    · cases hsome

/-- What holds of each field of a name in both fillings holds of its values in turn. -/
theorem forall₂_fillHeaders {R : HeaderValue → HeaderValue → Prop} {name : HeaderName}
    (hfield : ∀ field ∈ fields, (field.fill first).1 = name →
      R (field.fill first).2 (field.fill second).2) :
    List.Forall₂ R ((fillHeaders first fields).getAll name)
      ((fillHeaders second fields).getAll name) := by
  induction fields with
  | nil => exact .nil
  | cons field rest ih =>
      obtain ⟨hhead, hrest⟩ := List.forall_mem_cons.mp hfield
      rw [fillHeaders_getAll_cons, fillHeaders_getAll_cons,
        ← FieldTemplate.fill_fst first second]
      split
      next hname => exact .cons (hhead hname) (ih hrest)
      · exact ih hrest

theorem fillHeaders_containsKey (first second : TransportSecrets) (name : HeaderName) :
    (fillHeaders first fields).containsKey name = (fillHeaders second fields).containsKey name := by
  have hvalues : List.Forall₂ (fun _ _ => True) ((fillHeaders first fields).getAll name)
      ((fillHeaders second fields).getAll name) := forall₂_fillHeaders fun _ _ _ => trivial
  rw [Multimap.containsKey, Multimap.containsKey, Bool.eq_iff_iff, Bool.not_eq_true',
    Bool.not_eq_true', ← Bool.not_eq_true, ← Bool.not_eq_true, List.isEmpty_iff_length_eq_zero,
    List.isEmpty_iff_length_eq_zero, hvalues.length_eq]

/-- A field that holds no credential is the same in both. -/
theorem fillHeaders_getAll {name : HeaderName} (hcookie : name ≠ Header.cookie)
    (hbootstrap : name ≠ bootstrapHeaderName) :
    (fillHeaders first fields).getAll name = (fillHeaders second fields).getAll name := by
  rw [← List.forall₂_eq_eq_eq]
  apply forall₂_fillHeaders
  intro field _ hname
  cases field with
  | plain other value => rfl
  | cookie template => exact absurd hname.symm hcookie
  | bootstrap => exact absurd hname.symm hbootstrap

theorem forall₂_bootstrapFields (hfirst : ∀ field ∈ fields, field.Blind first)
    (hsecond : ∀ field ∈ fields, field.Blind second) :
    List.Forall₂ (fun value twin : HeaderValue =>
        value.bytes = first.bootstrap.value ↔ twin.bytes = second.bootstrap.value)
      ((fillHeaders first fields).getAll bootstrapHeaderName)
      ((fillHeaders second fields).getAll bootstrapHeaderName) := by
  apply forall₂_fillHeaders
  intro field hfield hname
  cases field with
  | plain other value =>
      exact iff_of_false ((hfirst _ hfield).2 hname) ((hsecond _ hfield).2 hname)
  | cookie template =>
      have hother : Header.cookie ≠ bootstrapHeaderName := by decide
      exact absurd hname hother
  | bootstrap => exact iff_of_true rfl rfl

theorem CookieTemplate.visible_iff {template : CookieTemplate} {session : Secret} :
    (∀ b ∈ (template.fill session).bytes, isVisibleAscii b = true) ↔
      ∀ segment ∈ template.segments, ∀ b ∈ segment.fill session, isVisibleAscii b = true := by
  rw [← @forall_splitOn_iff semicolon _ (fun b => isVisibleAscii b = true) (by decide),
    template.splitOn_fill, List.forall_mem_map]

theorem SegmentTemplate.visible_fill {segment : SegmentTemplate} {session : Secret}
    (hvisible : ∀ b ∈ segment.fill session, isVisibleAscii b = true) (other : Secret) :
    ∀ b ∈ segment.fill other, isVisibleAscii b = true := by
  cases segment with
  | text bytes => exact hvisible
  | credential before name after =>
      intro b hb
      simp only [SegmentTemplate.fill, List.mem_append, List.mem_cons] at hb hvisible
      obtain (hb | hb | rfl | hb) | hb := hb
      · exact hvisible b (.inl (.inl hb))
      · exact hvisible b (.inl (.inr (.inl hb)))
      · decide
      · exact Secret.isVisibleAscii_of_mem_value hb
      · exact hvisible b (.inr hb)

theorem valuesAlike_fill {template : CookieTemplate}
    (hfirst : ∀ segment ∈ template.segments, segment.Blind first.session)
    (hsecond : ∀ segment ∈ template.segments, segment.Blind second.session) :
    ValuesAlike first.session second.session (template.fill first.session)
      (template.fill second.session) := by
  constructor
  · rw [CookieTemplate.visible_iff, CookieTemplate.visible_iff]
    exact fun hvisible segment hsegment =>
      SegmentTemplate.visible_fill (hvisible segment hsegment) _
  · rw [CookieTemplate.splitOn_fill, CookieTemplate.splitOn_fill, List.forall₂_map_left_iff,
      List.forall₂_map_right_iff, List.forall₂_same]
    exact fun segment hsegment => partsAlike_fill (template.fits segment hsegment)
      (hfirst segment hsegment) (hsecond segment hsegment)

theorem forall₂_cookieFields (hfirst : ∀ field ∈ fields, field.Blind first)
    (hsecond : ∀ field ∈ fields, field.Blind second) :
    List.Forall₂ (ValuesAlike first.session second.session)
      ((fillHeaders first fields).getAll Header.cookie)
      ((fillHeaders second fields).getAll Header.cookie) := by
  apply forall₂_fillHeaders
  intro field hfield hname
  cases field with
  | plain other value =>
      have hnone := (hfirst _ hfield).1 hname
      have hnoneTwin := (hsecond _ hfield).1 hname
      refine ⟨id, List.forall₂_same.mpr fun part hpart => ?_⟩
      have hinfix := infix_of_mem_splitOn hpart
      exact partsAlike_text (fun h => hnone (h.trans hinfix)) fun h => hnoneTwin (h.trans hinfix)
  | cookie template => exact valuesAlike_fill (hfirst _ hfield) (hsecond _ hfield)
  | bootstrap =>
      have hother : bootstrapHeaderName ≠ Header.cookie := by decide
      exact absurd hname hother

/-- Without its cookies a request that presents no bootstrap secret holds no credential. -/
theorem fillHeaders_remove
    (hnone : (fillHeaders first fields).containsKey bootstrapHeaderName = false) :
    (fillHeaders first fields).remove Header.cookie =
      (fillHeaders second fields).remove Header.cookie := by
  rw [Multimap.containsKey_eq_false_iff] at hnone
  unfold Multimap.remove fillHeaders
  rw [Multimap.mk.injEq]
  induction fields with
  | nil => rfl
  | cons field rest ih =>
      rw [fillHeaders_getAll_cons, List.append_eq_nil_iff] at hnone
      simp only [List.map_cons, List.filter_cons, ih hnone.2]
      cases field with
      | plain name value => rfl
      | cookie template => simp [FieldTemplate.fill]
      | bootstrap => simp [FieldTemplate.fill] at hnone

end Filled

/-! ## What is shown -/

/-- An effect without the upstream secret. -/
def Effect.conceal : Effect Incoming → Effect Incoming
  | .connect upstream => .connect upstream
  | .sendRequest request =>
      .sendRequest { request with headers := request.headers.remove protectedHeader }
  | .spawnTunnel => .spawnTunnel

/-- A field that sets the session cookie. -/
def setsSession (entry : HeaderName × HeaderValue) : Bool :=
  entry.1 == Header.setCookie && (sessionCookieName ++ [equals]).isPrefixOf entry.2.bytes

/-- A response without the session cookie. -/
def Response.conceal {Body : Type} (response : Response Body) : Response Body :=
  { response with headers := ⟨response.headers.entries.filter fun entry => !setsSession entry⟩ }

theorem bootstrapResponse_conceal (headOnly : Bool) (first second : Secret) :
    (bootstrapResponse headOnly first : Response (ProxyBody Incoming)).conceal =
      (bootstrapResponse headOnly second).conceal := by
  have hconceal : ∀ session : Secret,
      (bootstrapResponse headOnly session : Response (ProxyBody Incoming)).conceal.headers =
        ⟨(bootstrapHeaders.remove Header.setCookie).entries.filter fun entry =>
          !setsSession entry⟩ := by
    intro session
    obtain ⟨cookie, hcookie, hbytes⟩ := sessionCookieText_isSome session
    have hsets : setsSession (Header.setCookie, cookie) = true := by
      rw [setsSession, Bool.and_eq_true, List.isPrefixOf_iff_prefix, hbytes]
      refine ⟨by simp, session.value ++ asBytes "; Path=/; HttpOnly; SameSite=Strict", ?_⟩
      simp [sessionCookieText, sessionPair]
    simp only [Response.conceal, bootstrapResponse, hcookie, Multimap.insert, Multimap.append]
    simp [hsets]
  rw [Response.mk.injEq]
  exact ⟨rfl, rfl, (hconceal first).trans (hconceal second).symm, rfl⟩

/-! ## One request -/

/-- A proxy with other secrets. -/
def ProxyState.withSecrets (state : ProxyState) (secrets : TransportSecrets) : ProxyState :=
  { state with secrets }

section Handler

variable {crates : Crates Url} {state : ProxyState} {first second : TransportSecrets}
  {template : RequestTemplate Incoming} {raw : RawAdmission}

theorem isBootstrap_fill :
    isBootstrap (template.fill first) = isBootstrap (template.fill second) := by
  unfold isBootstrap
  simp only [RequestTemplate.fill, fillHeaders_containsKey first second]

theorem validateOrigin_fill {websocket : Bool} :
    validateOrigin (template.fill first) state.expectedOrigin websocket =
      validateOrigin (template.fill second) state.expectedOrigin websocket := by
  unfold validateOrigin
  have horigins : (template.fill first).headers.getAll Header.origin =
      (template.fill second).headers.getAll Header.origin :=
    fillHeaders_getAll (by decide) (by decide)
  rw [horigins]
  rfl

theorem presentsBootstrap_fill (hfirst : template.Blind first) (hsecond : template.Blind second) :
    presentsBootstrap (template.fill first) (state.withSecrets first) =
      presentsBootstrap (template.fill second) (state.withSecrets second) := by
  have hvalues := forall₂_bootstrapFields hfirst hsecond
  unfold presentsBootstrap
  simp only [RequestTemplate.fill, ProxyState.withSecrets]
  revert hvalues
  generalize (RequestTemplate.fillHeaders first template.fields).getAll bootstrapHeaderName = values
  generalize (RequestTemplate.fillHeaders second template.fields).getAll bootstrapHeaderName = twins
  intro hvalues
  cases hvalues with
  | nil => rfl
  | cons hvalue hrest =>
      cases hrest with
      | nil =>
          rw [Bool.eq_iff_iff, Secret.matchesCandidate_iff, Secret.matchesCandidate_iff]
          exact hvalue
      | cons => rfl

/-- Authentication accepts both requests or none, and leaves the same request behind. -/
theorem authenticated_fill (hfirst : template.Blind first) (hsecond : template.Blind second)
    (hnone : (template.fill first).headers.containsKey bootstrapHeaderName = false)
    (hok : (authenticateAndStrip (template.fill first).headers first.session).1 = .ok ()) :
    authenticateAndStrip (template.fill first).headers first.session =
      authenticateAndStrip (template.fill second).headers second.session := by
  obtain ⟨application, happlication⟩ := authenticateAndStrip_isOk_iff.mp hok
  have hother : authenticate (template.fill second).headers second.session = .ok application :=
    authenticate_alike (forall₂_cookieFields hfirst hsecond) happlication
  have hremoved : (template.fill first).headers.remove Header.cookie =
      (template.fill second).headers.remove Header.cookie := fillHeaders_remove hnone
  simp only [authenticateAndStrip, happlication, hother, hremoved]

/-! ## Forwarding -/

/-- The same error, or two requests that differ in the upstream secret alone. -/
inductive RequestsAlike : Except BoxError (Request (ProxyBody Incoming)) →
    Except BoxError (Request (ProxyBody Incoming)) → Prop
  | error (error : BoxError) : RequestsAlike (.error error) (.error error)
  | ok {request twin : Request (ProxyBody Incoming)} (hmethod : request.method = twin.method)
      (hconceal : Effect.conceal (.sendRequest request) = .conceal (.sendRequest twin)) :
      RequestsAlike (.ok request) (.ok twin)

theorem normalizeHttpRequest_alike (crates : Crates Url) (request : Request Incoming)
    (raw : RawAdmission) (state : ProxyState) (first second : TransportSecrets) :
    RequestsAlike (normalizeHttpRequest crates request raw (state.withSecrets first))
      (normalizeHttpRequest crates request raw (state.withSecrets second)) := by
  obtain ⟨secret, hsecret, -⟩ := upstreamSecret_isSome (state.withSecrets first)
  obtain ⟨twin, htwin, -⟩ := upstreamSecret_isSome (state.withSecrets second)
  obtain ⟨host, hhost, -⟩ := upstreamHost_isSome state
  have hfirstHost : HeaderValue.fromBytes? (state.withSecrets first).upstream.toBytes = some host :=
    hhost
  have hsecondHost :
      HeaderValue.fromBytes? (state.withSecrets second).upstream.toBytes = some host := hhost
  unfold normalizeHttpRequest
  cases originFormUri crates request.uri with
  | error error => exact .error error
  | ok uri =>
      simp only [hsecret, htwin, hfirstHost, hsecondHost, okOr_some, ok_bind,
        Multimap.getAll_insert_self, List.length_singleton, bne_self_eq_false, rejectIf_false]
      refine .ok rfl ?_
      simp only [Effect.conceal, Multimap.remove_insert_self]
      rfl

theorem buildUpstreamWebsocketRequest_alike (offer : WebSocketOffer) (state : ProxyState)
    (first second : TransportSecrets) :
    RequestsAlike
      (buildUpstreamWebsocketRequest offer (state.withSecrets first) :
        Except BoxError (Request (ProxyBody Incoming)))
      (buildUpstreamWebsocketRequest offer (state.withSecrets second)) := by
  obtain ⟨secret, hsecret, -⟩ := upstreamSecret_isSome (state.withSecrets first)
  obtain ⟨twin, htwin, -⟩ := upstreamSecret_isSome (state.withSecrets second)
  obtain ⟨host, hhost, -⟩ := upstreamHost_isSome state
  obtain ⟨origin, horigin, -⟩ := upstreamOrigin_isSome state
  unfold buildUpstreamWebsocketRequest
  simp only [ProxyState.withSecrets, upstreamOrigin] at hsecret htwin horigin ⊢
  simp only [hsecret, htwin, hhost, horigin, okOr_some, ok_bind]
  cases offeredProtocolHeaders (fixedUpgradeHeaders host offer.key origin) offer.protocols with
  | error error => exact .error error
  | ok offered =>
      refine .ok rfl ?_
      simp only [Effect.conceal, Multimap.remove_insert_self]

theorem exchange_alike {request twin : Request (ProxyBody Incoming)} (state : ProxyState)
    (first second : TransportSecrets) (upstream : UpstreamRun Incoming)
    (hconceal : Effect.conceal (.sendRequest request) = .conceal (.sendRequest twin)) :
    (exchange (state.withSecrets first) request upstream).1.map Effect.conceal =
        (exchange (state.withSecrets second) twin upstream).1.map Effect.conceal ∧
      (exchange (state.withSecrets first) request upstream).2 =
        (exchange (state.withSecrets second) twin upstream).2 := by
  unfold exchange
  cases startClient upstream with
  | error error => exact ⟨rfl, rfl⟩
  | ok =>
      refine ⟨?_, rfl⟩
      simp only [List.map_cons, hconceal]
      rfl

/-- Two forwarded requests with the same answer, and the same effects but for the upstream
secret. -/
structure ForwardsAlike
    (left right : List (Effect Incoming) × Except BoxError (Response (ProxyBody Incoming))) :
    Prop where
  effects : left.1.map Effect.conceal = right.1.map Effect.conceal
  answer : left.2 = right.2

theorem forwardHttp_alike (crates : Crates Url) (request : Request Incoming) (raw : RawAdmission)
    (state : ProxyState) (first second : TransportSecrets) (upstream : UpstreamRun Incoming) :
    ForwardsAlike (forwardHttp crates request raw (state.withSecrets first) upstream)
      (forwardHttp crates request raw (state.withSecrets second) upstream) := by
  have hnormalized := normalizeHttpRequest_alike crates request raw state first second
  unfold forwardHttp
  revert hnormalized
  generalize normalizeHttpRequest crates request raw (state.withSecrets first) = sent
  generalize normalizeHttpRequest crates request raw (state.withSecrets second) = twin
  intro hnormalized
  cases hnormalized with
  | error error => exact ⟨rfl, rfl⟩
  | ok hmethod hconceal =>
      obtain ⟨heffects, hanswer⟩ := exchange_alike state first second upstream hconceal
      refine ⟨heffects, ?_⟩
      simp only [hanswer, hmethod]
      rfl

theorem forwardWebsocket_alike (crates : Crates Url) (request : Request Incoming)
    (state : ProxyState) (first second : TransportSecrets) (upstream : UpstreamRun Incoming) :
    ForwardsAlike (forwardWebsocket crates request (state.withSecrets first) upstream)
      (forwardWebsocket crates request (state.withSecrets second) upstream) := by
  unfold forwardWebsocket
  simp only [show (state.withSecrets first).expectedOrigin = state.expectedOrigin from rfl,
    show (state.withSecrets second).expectedOrigin = state.expectedOrigin from rfl]
  cases validateWebsocketRequest crates request state.expectedOrigin with
  | error error => exact ⟨rfl, rfl⟩
  | ok offer =>
      have hbuilt := @buildUpstreamWebsocketRequest_alike Incoming offer state first second
      simp only
      revert hbuilt
      generalize buildUpstreamWebsocketRequest offer (state.withSecrets first) = sent
      generalize buildUpstreamWebsocketRequest offer (state.withSecrets second) = twin
      intro hbuilt
      cases hbuilt with
      | error error => exact ⟨rfl, rfl⟩
      | ok hmethod hconceal =>
          obtain ⟨heffects, hanswer⟩ := exchange_alike state first second upstream hconceal
          simp only [hanswer]
          split
          · exact ⟨heffects, rfl⟩
          · split
            · refine ⟨?_, rfl⟩
              rw [List.map_append, List.map_append, heffects]
            · exact ⟨heffects, rfl⟩

theorem forward_alike (crates : Crates Url) (request : Request Incoming) (raw : RawAdmission)
    (state : ProxyState) (first second : TransportSecrets) (upstream : UpstreamRun Incoming) :
    ForwardsAlike (forward crates request raw (state.withSecrets first) upstream)
      (forward crates request raw (state.withSecrets second) upstream) := by
  unfold forward
  split
  · exact forwardWebsocket_alike crates request state first second upstream
  · exact forwardHttp_alike crates request raw state first second upstream

/-- The same answer with the same flag, and the same effects but for the upstream secret. -/
structure HandledAlike (left right : Handled Incoming) : Prop where
  consumed : left.consumed = right.consumed
  effects : left.effects.map Effect.conceal = right.effects.map Effect.conceal
  response : left.response = right.response

/-- The last part of `handleRequest`: what follows the verdict of authentication. -/
def handleAuthenticated (crates : Crates Url) (request : Request Incoming) (raw : RawAdmission)
    (state : ProxyState) (consumed : Bool) (upstream : UpstreamRun Incoming) :
    Except CookieError Unit × HeaderMap → Handled Incoming
  | (.error _, _) => ⟨consumed, [], unauthorized⟩
  | (.ok (), stripped) =>
      let (effects, answer) :=
        forward crates { request with headers := stripped } raw state upstream
      match answer with
      | .error _ => ⟨consumed, effects, badGateway⟩
      | .ok response => ⟨consumed, effects, response⟩

theorem handleAuthenticated_forwards (request twin : Request Incoming) (stripped : HeaderMap)
    (hsame : { request with headers := stripped } = { twin with headers := stripped })
    (consumed : Bool) (upstream : UpstreamRun Incoming) :
    HandledAlike
      (handleAuthenticated crates request raw (state.withSecrets first) consumed upstream
        (.ok (), stripped))
      (handleAuthenticated crates twin raw (state.withSecrets second) consumed upstream
        (.ok (), stripped)) := by
  obtain ⟨heffects, hanswer⟩ := forward_alike crates { request with headers := stripped } raw state
    first second upstream
  simp only [handleAuthenticated, ← hsame, hanswer]
  split
  · exact ⟨rfl, heffects, rfl⟩
  · exact ⟨rfl, heffects, rfl⟩

theorem handleAuthenticated_alike {consumed : Bool} {upstream : UpstreamRun Incoming}
    (hfirst : template.Blind first) (hsecond : template.Blind second)
    (hnone : (template.fill first).headers.containsKey bootstrapHeaderName = false) :
    HandledAlike
      (handleAuthenticated crates (template.fill first) raw (state.withSecrets first) consumed
        upstream (authenticateAndStrip (template.fill first).headers first.session))
      (handleAuthenticated crates (template.fill second) raw (state.withSecrets second) consumed
        upstream (authenticateAndStrip (template.fill second).headers second.session)) := by
  cases hverdict : authenticateAndStrip (template.fill first).headers first.session with
  | mk verdict stripped =>
      cases verdict with
      | ok =>
          rw [← authenticated_fill hfirst hsecond hnone (by rw [hverdict]), hverdict]
          exact handleAuthenticated_forwards _ _ stripped rfl consumed upstream
      | error error =>
          cases htwin : authenticateAndStrip (template.fill second).headers second.session with
          | mk twin others =>
              cases twin with
              | error => exact ⟨rfl, rfl, rfl⟩
              | ok =>
                  -- the other request would authenticate too
                  have hother := authenticated_fill hsecond hfirst
                    ((fillHeaders_containsKey _ _ _).trans hnone) (by rw [htwin])
                  rw [htwin, hverdict] at hother
                  cases hother

theorem isBootstrapAttempt_fill (hfirst : template.Blind first) (hsecond : template.Blind second) :
    isBootstrapAttempt (template.fill first) (state.withSecrets first) =
      isBootstrapAttempt (template.fill second) (state.withSecrets second) := by
  rw [isBootstrapAttempt, isBootstrapAttempt, isBootstrap_fill,
    presentsBootstrap_fill hfirst hsecond]

/-- A request that does not present the bootstrap secret is answered alike: the flag, the answer
and what goes upstream do not depend on the secrets, but for the upstream secret itself. -/
theorem handleRequest_alike (crates : Crates Url) (raw : RawAdmission) (state : ProxyState)
    (consumed : Bool) (upstream : UpstreamRun Incoming) (hfirst : template.Blind first)
    (hsecond : template.Blind second)
    (hplain : isBootstrapAttempt (template.fill first) (state.withSecrets first) = false) :
    HandledAlike
      (handleRequest crates (template.fill first) raw (state.withSecrets first) consumed upstream)
      (handleRequest crates (template.fill second) raw (state.withSecrets second) consumed
        upstream) := by
  have hroute : isBootstrap (template.fill first) = isBootstrap (template.fill second) :=
    isBootstrap_fill
  have hpresents : presentsBootstrap (template.fill first) (state.withSecrets first) =
      presentsBootstrap (template.fill second) (state.withSecrets second) :=
    presentsBootstrap_fill hfirst hsecond
  have hheader : (template.fill first).headers.containsKey bootstrapHeaderName =
      (template.fill second).headers.containsKey bootstrapHeaderName :=
    fillHeaders_containsKey _ _ _
  have horigin : validateOrigin (template.fill first) (state.withSecrets first).expectedOrigin
        raw.websocketUpgrade =
      validateOrigin (template.fill second) (state.withSecrets second).expectedOrigin
        raw.websocketUpgrade := validateOrigin_fill
  have huri : (template.fill first).uri = (template.fill second).uri := rfl
  rw [isBootstrapAttempt, hroute, hpresents] at hplain
  unfold handleRequest
  rw [hroute, authenticateBootstrap, authenticateBootstrap, hpresents, huri, hheader, horigin]
  split
  next hbootstrap =>
    -- a wrong, doubled or missing value is refused by both
    rw [hbootstrap, Bool.true_and] at hplain
    rw [hplain]
    exact ⟨rfl, rfl, rfl⟩
  · split
    · exact ⟨rfl, rfl, rfl⟩
    · split
      · exact ⟨rfl, rfl, rfl⟩
      next hnone =>
        rw [Bool.not_eq_true] at hnone
        split
        · exact ⟨rfl, rfl, rfl⟩
        · exact handleAuthenticated_alike hfirst hsecond (hheader.trans hnone)

end Handler

/-! ## Interleaved requests -/

/-- A step of a proxy on requests with credentials left open. -/
inductive EventTemplate (Incoming : Type) where
  | arrive (id : Nat) (template : RequestTemplate Incoming) (raw : RawAdmission)
  | check (id : Nat)
  | exchange (id : Nat)
  | respond (id : Nat)
  | handle (id : Nat) (upstream : UpstreamRun Incoming)
  | cancel (id : Nat)

namespace EventTemplate

def fill (secrets : TransportSecrets) : EventTemplate Incoming → LifetimeEvent Incoming
  | .arrive id template raw => .arrive id (template.fill secrets) raw
  | .check id => .check id
  | .exchange id => .exchange id
  | .respond id => .respond id
  | .handle id upstream => .handle id upstream
  | .cancel id => .cancel id

def id : EventTemplate Incoming → Nat
  | .arrive id _ _ | .check id | .exchange id | .respond id | .handle id _ | .cancel id => id

def Blind (secrets : TransportSecrets) : EventTemplate Incoming → Prop
  | .arrive _ template _ => template.Blind secrets
  | _ => True

end EventTemplate

/-- What one step shows to the upstream and to the client. -/
structure Shown (Incoming : Type) where
  effects : List (Effect Incoming)
  response : Option (Response (ProxyBody Incoming))

/-- What goes upstream when a request is handled. -/
def sentBy (crates : Crates Url) (state : ProxyState) (lifetime : Lifetime Incoming) :
    EventTemplate Incoming → List (Effect Incoming)
  | .handle id upstream =>
      match lifetime.tasks id with
      | none => []
      | some task =>
          (handleRequest crates task.request task.raw state lifetime.consumed upstream).effects
  | _ => []

def Phase.answer : Phase Incoming → Option (Response (ProxyBody Incoming))
  | .answered response => some response
  | _ => none

/-- The compare-exchange of the request cleared the way for it, and its answer is due. -/
def Phase.won : Phase Incoming → Bool
  | .responding won => won
  | _ => false

namespace Lifetime

/-- The answer to a request, once it has one. -/
def answer (lifetime : Lifetime Incoming) (id : Nat) : Option (Response (ProxyBody Incoming)) :=
  (lifetime.tasks id).bind (·.phase.answer)

/-- The next answer to this request is the one that hands out the session cookie. -/
def issues (lifetime : Lifetime Incoming) (id : Nat) : Bool :=
  (lifetime.tasks id).any (·.phase.won)

@[simp] theorem answer_setTask (lifetime : Lifetime Incoming) (id : Nat)
    (task : RequestTask Incoming) : (lifetime.setTask id task).answer id = task.phase.answer := by
  rw [answer, setTask_tasks_self, Option.bind_some]

@[simp] theorem answer_setConsumed (lifetime : Lifetime Incoming) (consumed : Bool) (id : Nat) :
    (lifetime.setConsumed consumed).answer id = lifetime.answer id := rfl

theorem issues_of_tasks {lifetime : Lifetime Incoming} {id : Nat} {task : RequestTask Incoming}
    (htask : lifetime.tasks id = some task) : lifetime.issues id = task.phase.won := by
  rw [issues, htask, Option.any_some]

end Lifetime

/-- What a step shows: what it sends without the upstream secret, and the answer it gives. From
the answer to the attempt that won, and from no other, the session cookie is left out. -/
def shownBy (crates : Crates Url) (state : ProxyState) (lifetime next : Lifetime Incoming)
    (event : EventTemplate Incoming) : Shown Incoming where
  effects := (sentBy crates state lifetime event).map Effect.conceal
  response := (next.answer event.id).map fun response =>
    if lifetime.issues event.id then response.conceal else response

/-- A step of the proxy with these secrets, each request with its own credentials filled in,
and what the step shows. -/
def ShownStep (crates : Crates Url) (state : ProxyState) (secrets : TransportSecrets)
    (lifetime : Lifetime Incoming) (label : EventTemplate Incoming × Shown Incoming)
    (next : Lifetime Incoming) : Prop :=
  LifetimeStep crates (state.withSecrets secrets) lifetime (label.1.fill secrets) next ∧
    label.2 = shownBy crates (state.withSecrets secrets) lifetime next label.1

/-! ## Alike lifetimes -/

/-- The same phase, or the bootstrap response with the session of each proxy. -/
inductive PhasesAlike (first second : Secret) : Phase Incoming → Phase Incoming → Prop
  | same (phase : Phase Incoming) : PhasesAlike first second phase phase
  | issued (headOnly : Bool) :
      PhasesAlike first second (.answered (bootstrapResponse headOnly first))
        (.answered (bootstrapResponse headOnly second))

/-- Two tasks for one request, each with its own credentials. -/
structure TasksAlike (first second : TransportSecrets) (task twin : RequestTask Incoming) :
    Prop where
  request : ∃ template : RequestTemplate Incoming, template.Blind first ∧ template.Blind second ∧
    task.request = template.fill first ∧ twin.request = template.fill second
  raw : task.raw = twin.raw
  phase : PhasesAlike first.session second.session task.phase twin.phase

structure LifetimesAlike (first second : TransportSecrets) (lifetime twin : Lifetime Incoming) :
    Prop where
  consumed : lifetime.consumed = twin.consumed
  tasks : ∀ id, Option.Rel (TasksAlike first second) (lifetime.tasks id) (twin.tasks id)

/-- Alike lifetimes of which the first satisfies the invariant of its runs. -/
structure InLockstep (state : ProxyState) (first second : TransportSecrets)
    (lifetime twin : Lifetime Incoming) : Prop where
  inv : LifetimeInv (state.withSecrets first) lifetime
  alike : LifetimesAlike first second lifetime twin

section Lockstep

variable {crates : Crates Url} {state : ProxyState} {first second : TransportSecrets}
  {lifetime twin : Lifetime Incoming} {id : Nat} {task other : RequestTask Incoming}

theorem LifetimesAlike.some (halike : LifetimesAlike first second lifetime twin)
    (htask : lifetime.tasks id = some task) :
    ∃ other, twin.tasks id = some other ∧ TasksAlike first second task other := by
  have hsame := halike.tasks id
  rw [htask] at hsame
  cases htwin : twin.tasks id with
  | none =>
      rw [htwin] at hsame
      cases hsame
  | some other =>
      rw [htwin] at hsame
      cases hsame with
      | some hother => exact ⟨other, rfl, hother⟩

theorem LifetimesAlike.none (halike : LifetimesAlike first second lifetime twin)
    (htask : lifetime.tasks id = none) : twin.tasks id = none := by
  have hsame := halike.tasks id
  rw [htask] at hsame
  cases htwin : twin.tasks id with
  | none => rfl
  | some other =>
      rw [htwin] at hsame
      cases hsame

theorem LifetimesAlike.setTask (halike : LifetimesAlike first second lifetime twin)
    (htask : TasksAlike first second task other) :
    LifetimesAlike first second (lifetime.setTask id task) (twin.setTask id other) := by
  refine ⟨halike.consumed, fun place => ?_⟩
  by_cases hplace : place = id
  · subst hplace
    rw [Lifetime.setTask_tasks_self, Lifetime.setTask_tasks_self]
    exact .some htask
  · rw [Lifetime.setTask_tasks_of_ne _ _ hplace, Lifetime.setTask_tasks_of_ne _ _ hplace]
    exact halike.tasks place

theorem LifetimesAlike.setConsumed (halike : LifetimesAlike first second lifetime twin)
    (consumed : Bool) :
    LifetimesAlike first second (lifetime.setConsumed consumed) (twin.setConsumed consumed) :=
  ⟨rfl, halike.tasks⟩

theorem TasksAlike.setPhase (halike : TasksAlike first second task other)
    (phase : Phase Incoming) :
    TasksAlike first second { task with phase } { other with phase } :=
  ⟨halike.request, halike.raw, .same phase⟩

theorem TasksAlike.attempt (halike : TasksAlike first second task other) (state : ProxyState) :
    isBootstrapAttempt task.request (state.withSecrets first) =
      isBootstrapAttempt other.request (state.withSecrets second) := by
  obtain ⟨template, hfirst, hsecond, htask, hother⟩ := halike.request
  rw [htask, hother]
  exact isBootstrapAttempt_fill hfirst hsecond

/-- The winner is handed the cookie of its own proxy, a loser the same refusal by both. -/
theorem TasksAlike.attemptResponse (halike : TasksAlike first second task other) (won : Bool)
    (state : ProxyState) :
    PhasesAlike first.session second.session
      (.answered (attemptResponse won task.request (state.withSecrets first)))
      (.answered (attemptResponse won other.request (state.withSecrets second))) := by
  obtain ⟨template, -, -, htask, hother⟩ := halike.request
  rw [htask, hother]
  cases won with
  | false => exact .same _
  | true => exact .issued _

/-- Phases other than an answer are the same in both. -/
theorem TasksAlike.samePhase {phase : Phase Incoming} (halike : TasksAlike first second task other)
    (hphase : task.phase = phase) (hopen : phase.answer = none) : other.phase = phase := by
  have hsame := halike.phase
  rw [hphase] at hsame
  generalize other.phase = twinPhase at hsame
  cases hsame with
  | same => rfl
  | issued headOnly => cases hopen

theorem TasksAlike.handled (halike : TasksAlike first second task other) (crates : Crates Url)
    {state : ProxyState} (consumed : Bool) (upstream : UpstreamRun Incoming)
    (hplain : isBootstrapAttempt task.request (state.withSecrets first) = false) :
    HandledAlike
      (handleRequest crates task.request task.raw (state.withSecrets first) consumed upstream)
      (handleRequest crates other.request other.raw (state.withSecrets second) consumed
        upstream) := by
  obtain ⟨template, hfirst, hsecond, htask, hother⟩ := halike.request
  rw [htask] at hplain
  rw [htask, hother, halike.raw]
  exact handleRequest_alike crates _ state consumed upstream hfirst hsecond hplain

/-- A step that sends nothing and answers no request shows the same in both. -/
theorem shownBy_silent {next after : Lifetime Incoming} {event : EventTemplate Incoming}
    (hsent : ∀ state (lifetime : Lifetime Incoming), sentBy crates state lifetime event = [])
    (hnext : next.answer event.id = none) (hafter : after.answer event.id = none) :
    shownBy crates (state.withSecrets first) lifetime next event =
      shownBy crates (state.withSecrets second) twin after event := by
  rw [shownBy, shownBy, hsent, hsent, hnext, hafter]
  rfl

/-- The answer to an attempt shows the same in both, won or lost. -/
theorem shownBy_respond (halike : TasksAlike first second task other) {won : Bool}
    (htask : lifetime.tasks id = some task) (hphase : task.phase = .responding won)
    (hother : twin.tasks id = some other) (hotherPhase : other.phase = .responding won) :
    let answered := Phase.answered (attemptResponse won task.request (state.withSecrets first))
    let twinAnswered :=
      Phase.answered (attemptResponse won other.request (state.withSecrets second))
    shownBy crates (state.withSecrets first) lifetime
        (lifetime.setTask id { task with phase := answered }) (.respond id) =
      shownBy crates (state.withSecrets second) twin
        (twin.setTask id { other with phase := twinAnswered }) (.respond id) := by
  obtain ⟨template, -, -, hrequest, hotherRequest⟩ := halike.request
  simp only [shownBy, sentBy, EventTemplate.id, Lifetime.answer_setTask, Phase.answer,
    Lifetime.issues_of_tasks htask, Lifetime.issues_of_tasks hother, hphase, hotherPhase,
    Phase.won, hrequest, hotherRequest]
  cases won with
  | false => rfl
  | true => exact congrArg (Shown.mk [] ∘ some) (bootstrapResponse_conceal _ _ _)

/-- What a handled request shows is the same in both, the answer as it stands. -/
theorem shownBy_handle {upstream : UpstreamRun Incoming} {left right : Handled Incoming}
    (hleft : left = handleRequest crates task.request task.raw (state.withSecrets first)
      lifetime.consumed upstream)
    (hright : right = handleRequest crates other.request other.raw (state.withSecrets second)
      twin.consumed upstream)
    (halike : HandledAlike left right) (htask : lifetime.tasks id = some task)
    (hphase : task.phase = .handling) (hother : twin.tasks id = some other)
    (hotherPhase : other.phase = .handling) :
    shownBy crates (state.withSecrets first) lifetime
        ((lifetime.setTask id { task with phase := .answered left.response }).setConsumed
          left.consumed) (.handle id upstream) =
      shownBy crates (state.withSecrets second) twin
        ((twin.setTask id { other with phase := .answered right.response }).setConsumed
          right.consumed) (.handle id upstream) := by
  simp only [shownBy, sentBy, EventTemplate.id, htask, hother, ← hleft, ← hright, halike.effects,
    Lifetime.answer_setConsumed, Lifetime.answer_setTask, halike.response,
    Lifetime.issues_of_tasks htask, Lifetime.issues_of_tasks hother, hphase, hotherPhase]

/-- Each step of one proxy is one of the other, and shows the same. -/
theorem shownStep_lockstep {next : Lifetime Incoming}
    {label : EventTemplate Incoming × Shown Incoming}
    (hblind : label.1.Blind first ∧ label.1.Blind second)
    (hboth : InLockstep state first second lifetime twin)
    (hstep : ShownStep crates state first lifetime label next) :
    ∃ after, ShownStep crates state second twin label after ∧
      InLockstep state first second next after := by
  obtain ⟨event, shown⟩ := label
  obtain ⟨hmove, hshown⟩ := hstep
  obtain ⟨hinv, halike⟩ := hboth
  suffices hmoved : ∃ after,
      LifetimeStep crates (state.withSecrets second) twin (event.fill second) after ∧
        LifetimesAlike first second next after ∧
        shownBy crates (state.withSecrets first) lifetime next event =
          shownBy crates (state.withSecrets second) twin after event by
    obtain ⟨after, hafter, hsame, hboth⟩ := hmoved
    exact ⟨after, ⟨hafter, hshown.trans hboth⟩, lifetimeInv_step hinv hmove, hsame⟩
  cases event with
  | arrive id template raw =>
      cases hmove with
      | arrive hfresh =>
          refine ⟨_, .arrive (halike.none hfresh), halike.setTask ⟨?_, rfl, .same _⟩, ?_⟩
          · exact ⟨template, hblind.1, hblind.2, rfl, rfl⟩
          · exact shownBy_silent (fun _ _ => rfl) (Lifetime.answer_setTask ..)
              (Lifetime.answer_setTask ..)
  | check id =>
      cases hmove with
      | present htask hphase hattempt =>
          obtain ⟨other, hother, hsame⟩ := halike.some htask
          have hotherPhase := hsame.samePhase hphase rfl
          rw [hsame.attempt] at hattempt
          refine ⟨_, .present hother hotherPhase hattempt, halike.setTask (hsame.setPhase _), ?_⟩
          exact shownBy_silent (fun _ _ => rfl) (Lifetime.answer_setTask ..)
            (Lifetime.answer_setTask ..)
      | pass htask hphase hattempt =>
          obtain ⟨other, hother, hsame⟩ := halike.some htask
          have hotherPhase := hsame.samePhase hphase rfl
          rw [hsame.attempt] at hattempt
          refine ⟨_, .pass hother hotherPhase hattempt, halike.setTask (hsame.setPhase _), ?_⟩
          exact shownBy_silent (fun _ _ => rfl) (Lifetime.answer_setTask ..)
            (Lifetime.answer_setTask ..)
  | exchange id =>
      cases hmove with
      | exchange htask hphase =>
          obtain ⟨other, hother, hsame⟩ := halike.some htask
          refine ⟨_, .exchange hother (hsame.samePhase hphase rfl), ?_, ?_⟩
          · rw [halike.consumed]
            exact (halike.setTask (hsame.setPhase _)).setConsumed _
          · exact shownBy_silent (fun _ _ => rfl) (Lifetime.answer_setTask ..)
              (Lifetime.answer_setTask ..)
  | respond id =>
      cases hmove with
      | respond htask hphase =>
          obtain ⟨other, hother, hsame⟩ := halike.some htask
          have hotherPhase := hsame.samePhase hphase rfl
          refine ⟨_, .respond hother hotherPhase, halike.setTask ⟨hsame.request, hsame.raw, ?_⟩, ?_⟩
          · exact hsame.attemptResponse _ state
          · exact shownBy_respond hsame htask hphase hother hotherPhase
  | handle id upstream =>
      cases hmove with
      | handle htask hphase =>
          obtain ⟨other, hother, hsame⟩ := halike.some htask
          have hotherPhase := hsame.samePhase hphase rfl
          have hplain := hinv.sound htask
          rw [RequestTask.Sound, hphase] at hplain
          have hhandled := hsame.handled crates lifetime.consumed upstream hplain
          have hsent := shownBy_handle rfl (by rw [halike.consumed]) hhandled htask hphase hother
            hotherPhase
          refine ⟨_, .handle hother hotherPhase, ?_, ?_⟩
          · rw [← halike.consumed]
            simp only [hhandled.consumed, hhandled.response]
            exact (halike.setTask (hsame.setPhase _)).setConsumed _
          · rw [hsent, halike.consumed]
  | cancel id =>
      cases hmove with
      | cancel htask hphase =>
          obtain ⟨other, hother, hsame⟩ := halike.some htask
          refine ⟨_, .cancel hother ?_, halike.setTask (hsame.setPhase _), ?_⟩
          · exact hphase.imp (fun h => hsame.samePhase h rfl) fun h => hsame.samePhase h rfl
          · exact shownBy_silent (fun _ _ => rfl) (Lifetime.answer_setTask ..)
              (Lifetime.answer_setTask ..)

theorem lifetimesAlike_start :
    LifetimesAlike first second (Lifetime.start : Lifetime Incoming) Lifetime.start :=
  ⟨rfl, fun _ => .none⟩

end Lockstep

/-- Whatever the clients and the upstream do, in any interleaving: what a proxy shows does not
depend on its secrets, as long as nobody guesses one, but for the upstream secret in the
protected field and the session cookie of the bootstrap response. -/
theorem secrets_confined (crates : Crates Url) (state : ProxyState)
    (first second : TransportSecrets) (trace : List (EventTemplate Incoming × Shown Incoming))
    (hblind : ∀ label ∈ trace, label.1.Blind first ∧ label.1.Blind second) :
    (∃ last, Run (ShownStep crates state first) Lifetime.start trace last) ↔
      ∃ last, Run (ShownStep crates state second) Lifetime.start trace last := by
  have hhalf : ∀ one other : TransportSecrets,
      (∀ label ∈ trace, label.1.Blind one ∧ label.1.Blind other) →
      (∃ last, Run (ShownStep crates state one) Lifetime.start trace last) →
      ∃ last, Run (ShownStep crates state other) Lifetime.start trace last := by
    rintro one other hboth ⟨last, hrun⟩
    have hstart : InLockstep state one other (.start : Lifetime Incoming) .start :=
      ⟨lifetimeInv_start _, lifetimesAlike_start⟩
    obtain ⟨final, hfinal, -⟩ := hrun.lockstep hboth hstart fun _ _ _ _ => shownStep_lockstep
    exact ⟨final, hfinal⟩
  constructor
  · exact hhalf first second hblind
  · exact hhalf second first fun label hlabel => (hblind label hlabel).symm

/-- A client with the bootstrap secret, as the native host sends it. -/
def bootstrapTemplate : RequestTemplate Unit where
  method := Method.get
  uri := ⟨none, some ⟨bootstrapPath, none⟩⟩
  version := .http11
  fields := [.bootstrap]
  body := ()

/-- A client that sends the session cookie back. -/
def sessionTemplate : RequestTemplate Unit where
  method := Method.get
  uri := ⟨none, some ⟨[slash], none⟩⟩
  version := .http11
  fields := [.cookie {
    segments := [.credential [] sessionCookieName []]
    nonempty := List.cons_ne_nil _ _
    fits := by
      simp only [List.mem_singleton, forall_eq, SegmentTemplate.Fits]
      exact ⟨by simp, by simp, List.all_eq_true.mp (by decide), isReservedName_sessionCookieName⟩ }]
  body := ()

/-- What a proxy with the first secrets shows in a bootstrap and one more request is shown by a
proxy with other secrets. -/
theorem secrets_confined_bootstrapped :
    let state := ProxyState.fixture 1 80 81
    let first := state.secrets
    let second := (ProxyState.fixture 7 80 81).secrets
    let answered := handleRequest Crates.unavailable (sessionTemplate.fill first) ⟨[], false⟩
      (state.withSecrets first) true .refused
    let silent : Shown Unit := ⟨[], none⟩
    ∃ last, Run (ShownStep Crates.unavailable state second) Lifetime.start
      [(.arrive 0 bootstrapTemplate ⟨[], false⟩, silent),
        (.arrive 1 sessionTemplate ⟨[], false⟩, silent),
        (.check 0, silent), (.check 1, silent), (.exchange 0, silent),
        (.respond 0, ⟨[], some (bootstrapResponse false first.session).conceal⟩),
        (.handle 1 .refused,
          ⟨answered.effects.map Effect.conceal, some answered.response⟩)] last := by
  intro state first second answered silent
  refine (secrets_confined Crates.unavailable state first second _ ?_).mp ?_
  · simp [EventTemplate.Blind, RequestTemplate.Blind, bootstrapTemplate, sessionTemplate,
      FieldTemplate.Blind, SegmentTemplate.Blind]
  · refine ⟨_, .cons ⟨.arrive rfl, rfl⟩ (.cons ⟨.arrive rfl, rfl⟩
      (.cons ⟨.present rfl rfl (by decide +kernel), rfl⟩
        (.cons ⟨.pass rfl rfl (by decide +kernel), rfl⟩
          (.cons ⟨.exchange rfl rfl, rfl⟩ (.cons ⟨.respond rfl rfl, rfl⟩
            (.cons ⟨.handle rfl rfl, rfl⟩ (.nil _)))))))⟩

end Rpackit.Transport
