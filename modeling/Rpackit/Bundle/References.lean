import Rpackit.Bundle.Manifest

/-! # What an accepted source reference denotes

A URL parser and Windows drop leading spaces and take a backslash for a slash before
they decide whether a text is a URL, a network share or a local path. The manifest
checks the raw text, so a share or a URL behind a space, or a share that begins with
one separator of each kind, is accepted as a local path.
-/

namespace Rpackit.Bundle

open Text Fallible

/-! ## How a reference is read -/

/-- The text of a reference without its leading spaces. -/
def reading (value : String) : Bytes := (asBytes value).dropWhile (· == space)

def isSeparator (b : UInt8) : Bool := b == slash || b == backslash

/-- A share begins with two separators in any mix. -/
def startsWithTwoSeparators : Bytes → Bool
  | first :: second :: _ => isSeparator first && isSeparator second
  | _ => false

def isSchemeByte (b : UInt8) : Bool :=
  isAsciiAlphanumeric b || b == plus || b == dot || b == 0x2D

/-- The scheme of a URL: a letter and scheme bytes up to the first colon. -/
def urlScheme (text : Bytes) : Option Bytes :=
  match splitOnce colon text with
  | none => none
  | some (scheme, _) =>
      if scheme.head?.any isAsciiAlphabetic && scheme.all isSchemeByte then some scheme else none

/-- A scheme of one letter is a drive. -/
def hasLongScheme (text : Bytes) : Bool := (urlScheme text).any fun scheme => 1 < scheme.length

/-- An https URL with a host and neither credentials nor a query nor a fragment. -/
def IsHttpsUrl (crates : Crates) (value : String) : Prop :=
  ∃ url, crates.url value = some url ∧ url.scheme = "https" ∧ url.hasHost = true ∧
    url.username = "" ∧ url.hasPassword = false ∧ url.hasQuery = false ∧ url.hasFragment = false

/-- A reference that is read as a local path. -/
structure LocalPath (value : String) : Prop where
  noScheme : ∀ scheme, urlScheme (reading value) = some scheme → scheme.length = 1
  noShare : startsWithTwoSeparators (reading value) = false
  noQuery : ∀ b ∈ asBytes value, b ≠ 0x3F ∧ b ≠ 0x23

/-- A share or a URL that the checks of the raw text do not see. -/
def isDisguised (value : String) : Bool :=
  [slash, backslash].isPrefixOf (asBytes value) || [backslash, slash].isPrefixOf (asBytes value)
    || ((asBytes value).head? == some space
      && (startsWithTwoSeparators (reading value) || hasLongScheme (reading value)))

/-! ## The raw text and its reading -/

variable {crates : Crates} {value : String}

theorem reading_eq_asBytes (hspace : (asBytes value).head? ≠ some space) :
    reading value = asBytes value := by
  unfold reading
  cases hbytes : asBytes value with
  | nil => rfl
  | cons first rest =>
      rw [hbytes, List.head?_cons, ne_eq, Option.some.injEq] at hspace
      apply List.dropWhile_cons_of_neg
      simpa using hspace

theorem startsWithTwoSeparators_iff {text : Bytes} : startsWithTwoSeparators text = true ↔
    ([slash, slash].isPrefixOf text = true ∨ [backslash, backslash].isPrefixOf text = true) ∨
      [slash, backslash].isPrefixOf text = true ∨ [backslash, slash].isPrefixOf text = true := by
  match text with
  | [] => simp [startsWithTwoSeparators]
  | [_] => simp [startsWithTwoSeparators, List.isPrefixOf]
  | first :: second :: rest =>
      simp only [startsWithTwoSeparators, isSeparator, List.isPrefixOf, Bool.and_eq_true,
        Bool.or_eq_true, beq_iff_eq, and_true]
      simp only [eq_comm (a := slash), eq_comm (a := backslash)]
      tauto

theorem urlScheme_eq_some_iff {text scheme : Bytes} : urlScheme text = some scheme ↔
    (∃ rest, splitOnce colon text = some (scheme, rest)) ∧
      scheme.head?.any isAsciiAlphabetic = true ∧ scheme.all isSchemeByte = true := by
  unfold urlScheme
  cases hsplit : splitOnce colon text with
  | none => simp
  | some parts =>
      obtain ⟨before, after⟩ := parts
      simp only [Option.ite_none_right_eq_some, Option.some.injEq, Bool.and_eq_true,
        Prod.mk.injEq]
      constructor
      · rintro ⟨hscheme, rfl⟩
        exact ⟨⟨after, rfl, rfl⟩, hscheme⟩
      · rintro ⟨⟨_, rfl, -⟩, hscheme⟩
        exact ⟨hscheme, rfl⟩

theorem hasLongScheme_eq_false_iff {text : Bytes} : hasLongScheme text = false ↔
    ∀ scheme, urlScheme text = some scheme → scheme.length = 1 := by
  unfold hasLongScheme
  cases hscheme : urlScheme text with
  | none => simp
  | some scheme =>
      have hne : scheme ≠ [] := by
        rintro rfl
        exact Bool.false_ne_true (urlScheme_eq_some_iff.mp hscheme).2.1
      have hpos := List.length_pos_of_ne_nil hne
      simp only [Option.any_some, decide_eq_false_iff_not, Option.some.injEq, forall_eq']
      omega

/-- The check of schemes passes a text whose scheme is a drive. -/
theorem hasLongScheme_of_hasNonFileUrlScheme (hcheck : hasNonFileUrlScheme value = false) :
    hasLongScheme (asBytes value) = false := by
  refine hasLongScheme_eq_false_iff.mpr fun scheme hscheme => ?_
  obtain ⟨⟨rest, hsplit⟩, hfirst, hall⟩ := urlScheme_eq_some_iff.mp hscheme
  unfold isSchemeByte at hall
  simp only [hasNonFileUrlScheme, hsplit, hfirst, hall, Bool.and_true, Bool.not_eq_false',
    Bool.and_eq_true, beq_iff_eq] at hcheck
  exact hcheck.1.1

/-! ## What the checks admit -/

theorem validSourceReference_https (hvalid : validSourceReference crates value = true)
    (hhttps : isHttpsReference value = true) : IsHttpsUrl crates value := by
  simp only [validSourceReference, hhttps, if_true, validHttpsUrl, Bool.and_eq_true,
    Option.any_eq_true] at hvalid
  obtain ⟨-, -, url, hurl, hparts⟩ := hvalid
  refine ⟨url, hurl, ?_⟩
  simpa [and_assoc] using hparts

/-- The checks of a reference that does not begin with `https://`. -/
structure RawChecks (value : String) : Prop where
  noShare : [slash, slash].isPrefixOf (asBytes value) = false ∧
    [backslash, backslash].isPrefixOf (asBytes value) = false
  noQuery : ∀ b ∈ asBytes value, b ≠ 0x3F ∧ b ≠ 0x23
  noScheme : hasNonFileUrlScheme value = false

theorem validSourceReference_raw (hvalid : validSourceReference crates value = true)
    (hraw : isHttpsReference value = false) : RawChecks value := by
  simp only [validSourceReference, hraw, Bool.false_eq_true, if_false, Bool.and_eq_true,
    Bool.not_eq_true', Bool.or_eq_false_iff] at hvalid
  obtain ⟨-, ⟨⟨hbackslashes, hslashes⟩, hquery⟩, hscheme⟩ := hvalid
  refine ⟨⟨hslashes, hbackslashes⟩, ?_, hscheme⟩
  simpa using hquery

/-- What the raw checks pass is read as a local path exactly when it is not disguised. -/
theorem RawChecks.localPath_iff (hchecks : RawChecks value) :
    LocalPath value ↔ isDisguised value = false := by
  have hread : LocalPath value ↔ startsWithTwoSeparators (reading value) = false ∧
      hasLongScheme (reading value) = false := by
    rw [hasLongScheme_eq_false_iff]
    constructor
    · intro hlocal
      exact ⟨hlocal.noShare, hlocal.noScheme⟩
    · rintro ⟨hshare, hscheme⟩
      exact ⟨hscheme, hshare, hchecks.noQuery⟩
  rw [hread]
  by_cases hspace : (asBytes value).head? = some space
  · -- nothing of the raw text behind a space was checked
    have hmixed : [slash, backslash].isPrefixOf (asBytes value) = false ∧
        [backslash, slash].isPrefixOf (asBytes value) = false := by
      obtain ⟨rest, hbytes⟩ := List.head?_eq_some_iff.mp hspace
      rw [hbytes]
      exact ⟨rfl, rfl⟩
    simp only [isDisguised, hmixed, hspace, beq_self_eq_true, Bool.true_and, Bool.false_or,
      Bool.or_eq_false_iff]
  · have hshare := @startsWithTwoSeparators_iff (asBytes value)
    have hscheme := hasLongScheme_of_hasNonFileUrlScheme hchecks.noScheme
    rw [reading_eq_asBytes hspace, hscheme, isDisguised, beq_eq_false_iff_ne.mpr hspace]
    simp only [hchecks.noShare, Bool.false_eq_true, or_self, false_or] at hshare
    simp only [Bool.false_and, Bool.or_false, and_true, ← Bool.not_eq_true, hshare,
      Bool.or_eq_true]

/-! ## Accepted references and provenances -/

theorem validateProvenance_references {provenance : RuntimeProvenance}
    (hvalid : validateProvenance crates provenance = .ok ()) :
    (validSourceReference crates provenance.registry = true ∧
      validSourceReference crates provenance.metadataSource = true ∧
      validSourceReference crates provenance.artifactUrl = true) ∧
    (isHttpsReference provenance.registry = true →
      isHttpsReference provenance.metadataSource = true ∧
        isHttpsReference provenance.artifactUrl = true) := by
  simp only [validateProvenance, rejectIf_eq_ok_iff, Bool.or_eq_false_iff,
    Bool.not_eq_false', Bool.and_eq_false_imp] at hvalid
  obtain ⟨⟨⟨⟨-, hregistry⟩, hmetadata⟩, hartifact⟩, hhttps⟩ := hvalid
  exact ⟨⟨hregistry, hmetadata, hartifact⟩, hhttps⟩

/-- An accepted reference denotes an https URL or a local path exactly when it is not disguised,
or is such a URL. An accepted provenance of a remote registry refers to https URLs only exactly
when its registry is not disguised, or it does so anyway. -/
theorem accepted_references_denote_iff (crates : Crates) :
    (∀ value, validSourceReference crates value = true →
      (IsHttpsUrl crates value ∨ LocalPath value ↔
        isDisguised value = false ∨ IsHttpsUrl crates value)) ∧
    ∀ provenance, validateProvenance crates provenance = .ok () →
      ((¬LocalPath provenance.registry →
          IsHttpsUrl crates provenance.metadataSource ∧ IsHttpsUrl crates provenance.artifactUrl) ↔
        isDisguised provenance.registry = false ∨
          IsHttpsUrl crates provenance.metadataSource ∧
            IsHttpsUrl crates provenance.artifactUrl) := by
  constructor
  · intro value hvalid
    cases hhttps : isHttpsReference value with
    | true =>
        have hurl := validSourceReference_https hvalid hhttps
        exact iff_of_true (.inl hurl) (.inr hurl)
    | false =>
        rw [(validSourceReference_raw hvalid hhttps).localPath_iff]
        exact or_comm
  · intro provenance hvalid
    obtain ⟨⟨hregistry, hmetadata, hartifact⟩, hremote⟩ := validateProvenance_references hvalid
    cases hhttps : isHttpsReference provenance.registry with
    | true =>
        have hurls := And.intro (validSourceReference_https hmetadata (hremote hhttps).1)
          (validSourceReference_https hartifact (hremote hhttps).2)
        exact iff_of_true (fun _ => hurls) (.inr hurls)
    | false =>
        rw [(validSourceReference_raw hregistry hhttps).localPath_iff]
        exact Decidable.imp_iff_not_or.trans (by rw [not_not])

/-- A registry on this machine with an artifact beside it. -/
def localProvenance : RuntimeProvenance where
  registry := "C:/runtime/versions.json"
  metadataSource := "C:/runtime/metadata/windows.json"
  artifactUrl := "C:/runtime/artifacts/runtime.zip"
  sha256 := "0123456789abcdef0123456789abcdef0123456789abcdef0123456789abcdef"
  archiveFormat := "zip"
  cacheHit := false

/-- A share, a URL and a share again, none of which the raw text shows. -/
def disguisedProvenance : RuntimeProvenance :=
  { localProvenance with
    registry := "/\\server\\share\\versions.json"
    metadataSource := " http://example.invalid/windows.json"
    artifactUrl := " \\\\server\\share\\runtime.zip" }

/-- The URL parser on the references of both provenances: a drive is a scheme to it, a text
without a scheme is no absolute URL. -/
def referenceCrates : Crates where
  manifest := fun _ => none
  url := fun value =>
    [(disguisedProvenance.metadataSource, ⟨"http", true, "", false, false, false⟩),
      (localProvenance.registry, ⟨"c", false, "", false, false, false⟩),
      (localProvenance.metadataSource, ⟨"c", false, "", false, false, false⟩),
      (localProvenance.artifactUrl, ⟨"c", false, "", false, false, false⟩)].lookup value

theorem accepted_references_denote_local :
    (IsHttpsUrl referenceCrates localProvenance.registry ∨ LocalPath localProvenance.registry) ∧
      (¬LocalPath localProvenance.registry →
        IsHttpsUrl referenceCrates localProvenance.metadataSource ∧
          IsHttpsUrl referenceCrates localProvenance.artifactUrl) := by
  obtain ⟨hreference, hprovenance⟩ := accepted_references_denote_iff referenceCrates
  constructor
  · exact (hreference localProvenance.registry (by decide +kernel)).mpr (.inl (by decide +kernel))
  · exact (hprovenance localProvenance (by decide +kernel)).mpr (.inl (by decide +kernel))

/-- Each disguised reference is accepted although it is a share or a plain URL, and so is a
provenance that has all of them. -/
theorem disguised_references_accepted :
    (validSourceReference referenceCrates disguisedProvenance.registry = true ∧
      ¬(IsHttpsUrl referenceCrates disguisedProvenance.registry ∨
        LocalPath disguisedProvenance.registry)) ∧
    (validSourceReference referenceCrates disguisedProvenance.metadataSource = true ∧
      ¬(IsHttpsUrl referenceCrates disguisedProvenance.metadataSource ∨
        LocalPath disguisedProvenance.metadataSource)) ∧
    (validSourceReference referenceCrates disguisedProvenance.artifactUrl = true ∧
      ¬(IsHttpsUrl referenceCrates disguisedProvenance.artifactUrl ∨
        LocalPath disguisedProvenance.artifactUrl)) ∧
    validateProvenance referenceCrates disguisedProvenance = .ok () ∧
      ¬(¬LocalPath disguisedProvenance.registry →
        IsHttpsUrl referenceCrates disguisedProvenance.metadataSource ∧
          IsHttpsUrl referenceCrates disguisedProvenance.artifactUrl) := by
  have hregistry : ¬LocalPath disguisedProvenance.registry := by
    intro hlocal
    exact absurd hlocal.noShare (by decide +kernel)
  have hmetadata : ¬LocalPath disguisedProvenance.metadataSource := by
    intro hlocal
    exact absurd (hasLongScheme_eq_false_iff.mpr hlocal.noScheme) (by decide +kernel)
  have hartifact : ¬LocalPath disguisedProvenance.artifactUrl := by
    intro hlocal
    exact absurd hlocal.noShare (by decide +kernel)
  have hnoUrl : ∀ value, referenceCrates.url value = none → ¬IsHttpsUrl referenceCrates value := by
    rintro value hnone ⟨url, hurl, -⟩
    rw [hnone] at hurl
    cases hurl
  have hplain : ¬IsHttpsUrl referenceCrates disguisedProvenance.metadataSource := by
    rintro ⟨url, hurl, hscheme, -⟩
    rw [show referenceCrates.url disguisedProvenance.metadataSource =
      some ⟨"http", true, "", false, false, false⟩ by decide +kernel] at hurl
    obtain rfl := Option.some.inj hurl
    exact absurd hscheme (by decide +kernel)
  refine ⟨⟨by decide +kernel, ?_⟩, ⟨by decide +kernel, ?_⟩, ⟨by decide +kernel, ?_⟩,
    by decide +kernel, ?_⟩
  · exact not_or.mpr ⟨hnoUrl _ (by decide +kernel), hregistry⟩
  · exact not_or.mpr ⟨hplain, hmetadata⟩
  · exact not_or.mpr ⟨hnoUrl _ (by decide +kernel), hartifact⟩
  · intro hsafe
    exact hplain (hsafe hregistry).1

end Rpackit.Bundle
