import Rpackit.Library.WebUrl
import Rpackit.Transport.Hostname
import Rpackit.Transport.Proxy.Normalized

/-! # Redirects stay on the proxy

An upstream redirect that is an absolute URL of the upstream is moved to the proxy
address. One that the URL parser does not accept must begin with one slash, and the
test reads the raw characters: a browser drops tabs and takes a backslash for a
slash, so it may read two slashes, and what follows names another host.
-/

namespace Rpackit.Transport

open Text Fallible WebUrl

/-- What the `url` crate documents of the functions the proxy calls; `view` gives the
parts of a parsed URL. -/
structure UrlCrate {Url : Type} (crates : Crates Url) (view : Url → UrlRecord) : Prop where
  scheme (url : Url) : crates.urlScheme url = (view url).scheme
  hostStr (url : Url) : crates.urlHostStr url = (view url).host
  portOrKnownDefault (url : Url) :
    crates.urlPortOrKnownDefault url = (view url).portOrKnownDefault
  asStr {url : Url} (hhost : (view url).host.isSome = true) :
    crates.urlAsStr url = (view url).serialize
  /-- A domain name becomes the host in lower case; nothing else changes. -/
  setHost {url hosted : Url} {name : Bytes} (hscheme : (view url).scheme = asBytes "http")
    (hname : isPlainDomain name = true) (hset : crates.urlSetHost url name = some hosted) :
    view hosted = (view url).setHost (lowercase name)
  setPort {url ported : Url} {port : Nat} (hset : crates.urlSetPort url port = some ported) :
    view ported = (view url).setPort port
  /-- There is no base URL, so a text that begins with a slash is no URL. -/
  relative {text : Bytes} (hslash : text.head? = some slash) : crates.urlParse text = none

/-- An absolute `http` URL of the upstream. -/
def PointsUpstream (url : UrlRecord) (upstream : SocketAddr) : Prop :=
  url.scheme = asBytes "http" ∧ url.host = some upstream.ip ∧
    url.portOrKnownDefault = some upstream.port.toNat

/-- The URL with the host and the port of the proxy. -/
def movedTo (url : UrlRecord) (address : ProxyAddress) : UrlRecord :=
  (url.setHost (lowercase address.hostname)).setPort address.port.toNat

/-- What the headers after `rewrite_location` must be. -/
structure SafeRedirect {Url : Type} (crates : Crates Url) (view : Url → UrlRecord)
    (state : ProxyState) (headers located : HeaderMap) : Prop where
  single : (located.getAll Header.location).length ≤ 1
  /-- A relative form is kept, and a browser reads one slash and keeps the origin. -/
  relative : ∀ value ∈ headers.getAll Header.location, crates.urlParse value.bytes = none →
    located = headers ∧ startsWithOneSlash (browserReading value.bytes) = true ∧
      ∃ path, navigate value.bytes = .sameOrigin path
  upstream : ∀ value ∈ headers.getAll Header.location, ∀ url,
    crates.urlParse value.bytes = some url → PointsUpstream (view url) state.upstream →
      ∃ rewritten : HeaderValue, located.getAll Header.location = [rewritten] ∧
        rewritten.bytes = (movedTo (view url) state.address).serialize
  other : ∀ value ∈ headers.getAll Header.location, ∀ url,
    crates.urlParse value.bytes = some url → ¬PointsUpstream (view url) state.upstream →
      located = headers

/-- A relative form with one raw slash behind which, any tabs left out, a browser reads
another: a backslash, or a slash after a tab. -/
def hidesSlash : Bytes → Bool
  | [] => false
  | first :: rest =>
      first == slash && rest.head? != some slash &&
        ((rest.dropWhile (· == tab)).head? == some slash ||
          (rest.dropWhile (· == tab)).head? == some backslash)

/-! ## The reading of a header value -/

theorem dropWhile_tab {text : Bytes} (hvisible : ∀ b ∈ text, isVisibleAscii b = true) :
    text.dropWhile isTabOrNewline = text.dropWhile (· == tab) := by
  have hbyte : ∀ b, isVisibleAscii b = true → isTabOrNewline b = (b == tab) :=
    forall_byte (by decide +kernel)
  induction text with
  | nil => rfl
  | cons b rest ih =>
      obtain ⟨hb, hrest⟩ := List.forall_mem_cons.mp hvisible
      rw [List.dropWhile_cons, List.dropWhile_cons, hbyte b hb, ih hrest]

theorem isPrefixOf_doubleSlash (rest : Bytes) :
    (asBytes "//").isPrefixOf (slash :: rest) = (rest.head? == some slash) := by
  cases rest with
  | nil => rfl
  | cons second rest =>
      change (slash == slash && (slash == second && true)) = (some second == some slash)
      rw [beq_self_eq_true, Bool.true_and, Bool.and_true, Bool.eq_iff_iff]
      simp only [beq_iff_eq, Option.some.injEq]
      exact eq_comm

/-- What hides a slash passes the test on the raw characters. -/
theorem startsWithSlash_of_hidesSlash {text : Bytes} (hhides : hidesSlash text = true) :
    text.head? = some slash ∧ (asBytes "//").isPrefixOf text = false := by
  cases text with
  | nil => cases hhides
  | cons first rest =>
      simp only [hidesSlash, Bool.and_eq_true, beq_iff_eq, bne_iff_ne] at hhides
      obtain ⟨⟨rfl, hsecond⟩, -⟩ := hhides
      rw [isPrefixOf_doubleSlash, beq_eq_false_iff_ne]
      exact ⟨rfl, hsecond⟩

/-- The test on the raw characters and the reading of a browser differ exactly on the
values that hide a slash. -/
theorem startsWithOneSlash_browserReading {text : Bytes} (hslash : text.head? = some slash)
    (hnot : (asBytes "//").isPrefixOf text = false)
    (hvisible : ∀ b ∈ text, isVisibleAscii b = true) :
    startsWithOneSlash (browserReading text) = !hidesSlash text := by
  obtain ⟨rest, rfl⟩ := List.head?_eq_some_iff.mp hslash
  rw [isPrefixOf_doubleSlash, beq_eq_false_iff_ne] at hnot
  rw [startsWithOneSlash_slash_cons, readsSlash, hidesSlash,
    dropWhile_tab fun b hb => hvisible b (List.mem_cons_of_mem _ hb)]
  simp [hnot]

/-! ## The cases of `rewrite_location` -/

section Cases

variable {Url : Type} {crates : Crates Url} {view : Url → UrlRecord} {state : ProxyState}
  {headers located : HeaderMap} {value : HeaderValue}

/-- A relative form is let through exactly if it begins with one raw slash. -/
theorem rewriteLocation_relative (hvalue : headers.getAll Header.location = [value])
    (hparse : crates.urlParse value.bytes = none) :
    rewriteLocation crates headers state = .ok located ↔
      (∀ b ∈ value.bytes, isVisibleAscii b = true) ∧ value.bytes.head? = some slash ∧
        (asBytes "//").isPrefixOf value.bytes = false ∧ located = headers := by
  unfold rewriteLocation
  simp only [hvalue, okOr_bind_eq_ok_iff, HeaderValue.toStr?_eq_some_iff]
  constructor
  · intro hok
    obtain ⟨text, ⟨rfl, hvisible⟩, hok⟩ := hok
    rw [hparse] at hok
    simp only [rejectIf_bind_eq_ok_iff, pure_eq_ok_iff, Bool.not_eq_false', Bool.and_eq_true,
      beq_iff_eq, Bool.not_eq_true'] at hok
    exact ⟨hvisible, hok.1.1, hok.1.2, hok.2⟩
  · intro hgood
    obtain ⟨hvisible, hslash, hnot, rfl⟩ := hgood
    refine ⟨value.bytes, ⟨rfl, hvisible⟩, ?_⟩
    rw [hparse]
    simp only [hslash, hnot, beq_self_eq_true]
    rfl

/-- An absolute URL of the upstream is moved, and any other is kept. -/
theorem rewriteLocation_absolute (hcrate : UrlCrate crates view)
    (hname : validGeneratedHostname state.address.hostname = true)
    (hvalue : headers.getAll Header.location = [value]) {url : Url}
    (hparse : crates.urlParse value.bytes = some url)
    (hok : rewriteLocation crates headers state = .ok located) :
    (PointsUpstream (view url) state.upstream → ∃ rewritten : HeaderValue,
      located.getAll Header.location = [rewritten] ∧
        rewritten.bytes = (movedTo (view url) state.address).serialize) ∧
      (¬PointsUpstream (view url) state.upstream → located = headers) := by
  unfold rewriteLocation at hok
  simp only [hvalue, okOr_bind_eq_ok_iff, HeaderValue.toStr?_eq_some_iff] at hok
  obtain ⟨text, ⟨rfl, -⟩, hok⟩ := hok
  rw [hparse] at hok
  simp only [hcrate.scheme, hcrate.hostStr, hcrate.portOrKnownDefault] at hok
  split at hok
  next hpoints =>
    simp only [okOr_bind_eq_ok_iff, pure_eq_ok_iff] at hok
    obtain ⟨hosted, hhost, ported, hport, rewritten, hrewritten, rfl⟩ := hok
    refine ⟨fun _ => ⟨rewritten, Multimap.getAll_insert_self _ _ _, ?_⟩,
      fun hother => absurd hpoints hother⟩
    have hmoved : view ported = movedTo (view url) state.address := by
      rw [hcrate.setPort hport, hcrate.setHost hpoints.1 (isPlainDomain_of_valid hname) hhost]
      rfl
    have hhosted : (view ported).host.isSome = true := by
      rw [hmoved]
      rfl
    have hserialized := hcrate.asStr hhosted
    rw [HeaderValue.fromBytes?_eq_some_iff.mp hrewritten, hserialized, hmoved]
  next hother =>
    exact ⟨fun hpoints => absurd hpoints hother, fun _ => pure_eq_ok_iff.mp hok⟩

end Cases

/-- Whatever `rewrite_location` lets through is safe exactly if the redirect does not
hide a slash. -/
theorem rewriteLocation_safe_iff {Url : Type} {crates : Crates Url} {view : Url → UrlRecord}
    (hcrate : UrlCrate crates view) {state : ProxyState}
    (hname : validGeneratedHostname state.address.hostname = true) (headers : HeaderMap) :
    (∀ located, rewriteLocation crates headers state = .ok located →
      SafeRedirect crates view state headers located) ↔
      ∀ value text, headers.getAll Header.location = [value] → value.toStr? = some text →
        hidesSlash text = false := by
  constructor
  · intro hsafe value text hvalue htext
    obtain ⟨rfl, hvisible⟩ := HeaderValue.toStr?_eq_some_iff.mp htext
    by_contra hhides
    rw [Bool.not_eq_false] at hhides
    obtain ⟨hslash, hnot⟩ := startsWithSlash_of_hidesSlash hhides
    have hparse := hcrate.relative hslash
    have hlocated : rewriteLocation crates headers state = .ok headers :=
      (rewriteLocation_relative hvalue hparse).mpr ⟨hvisible, hslash, hnot, rfl⟩
    have hone := ((hsafe headers hlocated).relative value (by simp [hvalue]) hparse).2.1
    rw [startsWithOneSlash_browserReading hslash hnot hvisible, hhides] at hone
    cases hone
  · intro hplain located hok
    obtain ⟨hlength, hsingle⟩ := rewriteLocation_getAll_location hok
    have hvalues : ∀ value ∈ headers.getAll Header.location,
        headers.getAll Header.location = [value] := by
      intro value hmem
      obtain ⟨only, honly⟩ := List.length_eq_one_iff.mp
        (Nat.le_antisymm hsingle (List.length_pos_of_mem hmem))
      rw [honly] at hmem ⊢
      rw [List.mem_singleton.mp hmem]
    constructor
    · rw [hlength]
      exact hsingle
    · intro value hmem hparse
      obtain ⟨hvisible, hslash, hnot, hsame⟩ :=
        (rewriteLocation_relative (hvalues value hmem) hparse).mp hok
      have hhides := hplain value value.bytes (hvalues value hmem)
        (HeaderValue.toStr?_eq_some_iff.mpr ⟨rfl, hvisible⟩)
      have hone : startsWithOneSlash (browserReading value.bytes) = true := by
        rw [startsWithOneSlash_browserReading hslash hnot hvisible, hhides]
        rfl
      refine ⟨hsame, hone, (exists_navigate_sameOrigin_iff ?_).mpr hone⟩
      obtain ⟨rest, hbytes⟩ := List.head?_eq_some_iff.mp hslash
      rw [hbytes]
      rfl
    · intro value hmem url hparse hpoints
      exact (rewriteLocation_absolute hcrate hname (hvalues value hmem) hparse hok).1 hpoints
    · intro value hmem url hparse hother
      exact (rewriteLocation_absolute hcrate hname (hvalues value hmem) hparse hok).2 hother

/-! ## A hidden slash -/

/-- The functions of the `url` crate on plain `http` URLs. -/
def plainCrates : Crates UrlRecord where
  parseRequest _ _ := none
  parseResponse _ _ := none
  headerNameFromBytes _ := none
  uriFromStr _ := none
  sha1 _ := []
  base64Encode _ := []
  base64Decode _ := none
  urlParse := parsePlainHttp
  urlScheme := UrlRecord.scheme
  urlHostStr := UrlRecord.host
  urlPortOrKnownDefault := UrlRecord.portOrKnownDefault
  urlSetHost url name := some (url.setHost (lowercase name))
  urlSetPort url port := some (url.setPort port)
  urlAsStr := UrlRecord.serialize

theorem plainCrates_urlCrate : UrlCrate plainCrates id where
  scheme _ := rfl
  hostStr _ := rfl
  portOrKnownDefault _ := rfl
  asStr _ := rfl
  setHost _ _ hset := (Option.some.inj hset).symm
  setPort hset := (Option.some.inj hset).symm
  relative := by
    intro text hslash
    obtain ⟨rest, rfl⟩ := List.head?_eq_some_iff.mp hslash
    rfl

def hiddenSlashRedirect : HeaderValue := .fromStatic "/\\evil.example" (by decide)

def hiddenSlashHeaders : HeaderMap := Multimap.empty.append Header.location hiddenSlashRedirect

theorem rewriteLocation_hiddenSlash_safe_iff :
    (∀ located, rewriteLocation plainCrates hiddenSlashHeaders (.fixture 1 49153 49152) =
        .ok located →
      SafeRedirect plainCrates id (.fixture 1 49153 49152) hiddenSlashHeaders located) ↔
      ∀ value text, hiddenSlashHeaders.getAll Header.location = [value] →
        value.toStr? = some text → hidesSlash text = false :=
  rewriteLocation_safe_iff plainCrates_urlCrate (by decide) hiddenSlashHeaders

/-- A backslash behind the slash is let through, and a browser leaves the proxy for the
host that follows. -/
theorem exists_unsafe_redirect : ¬∀ {Url : Type} (crates : Crates Url) (view : Url → UrlRecord),
    UrlCrate crates view → ∀ state : ProxyState,
      validGeneratedHostname state.address.hostname = true → ∀ headers located : HeaderMap,
        rewriteLocation crates headers state = .ok located →
          SafeRedirect crates view state headers located := by
  intro hsafe
  have hok : rewriteLocation plainCrates hiddenSlashHeaders (.fixture 1 49153 49152) =
      .ok hiddenSlashHeaders := by decide +kernel
  have hlocated := hsafe plainCrates id plainCrates_urlCrate (.fixture 1 49153 49152)
    (by decide) _ _ hok
  obtain ⟨-, -, path, hpath⟩ := hlocated.relative hiddenSlashRedirect
    List.mem_cons_self (by decide +kernel)
  have helsewhere : navigate hiddenSlashRedirect.bytes =
      .otherAuthority (asBytes "evil.example") := by decide +kernel
  rw [helsewhere] at hpath
  cases hpath

end Rpackit.Transport
