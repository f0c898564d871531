import Rpackit.Transport.Proxy.Normalized

/-! # The list of content codings

The fields of a head are read as one list of tokens: identity tokens drop out, the
others stand for their codings, in order. How the tokens are spread over the fields
does not matter.
-/

namespace Rpackit.Transport

open Text Fallible

/-- The tokens of all fields, in order. -/
def contentTokens (headers : HeaderMap) : List Bytes :=
  (headers.getAll Header.contentEncoding).flatMap fun value => value.bytes.splitOn comma

def isIdentityToken (token : Bytes) : Bool := lowercase (trim token) == asBytes "identity"

/-- The coding of a token; identity has none. -/
def tokenCoding (token : Bytes) : Option ContentCoding := supportedCoding (lowercase (trim token))

/-- A token of visible text that is identity or a supported coding. -/
structure AcceptedToken (token : Bytes) : Prop where
  visible : ∀ b ∈ token, isVisibleAscii b = true
  nonempty : trim token ≠ []
  wellFormed : ∀ b ∈ trim token, isTokenByte b = true
  known : isIdentityToken token = true ∨ (tokenCoding token).isSome = true

theorem tokenCoding_of_identity {token : Bytes} (hidentity : isIdentityToken token = true) :
    tokenCoding token = none := by
  rw [isIdentityToken, beq_iff_eq] at hidentity
  rw [tokenCoding, hidentity]
  decide

theorem pushContentCoding_eq_ok_iff {maxLayers : Nat} {codings next : List ContentCoding}
    {token : Bytes} (hlength : codings.length ≤ maxLayers) :
    pushContentCoding maxLayers codings token = .ok next ↔
      (trim token ≠ [] ∧ (∀ b ∈ trim token, isTokenByte b = true) ∧
        (isIdentityToken token = true ∨ (tokenCoding token).isSome = true)) ∧
      next = codings ++ (tokenCoding token).toList ∧ next.length ≤ maxLayers := by
  have hvalid : (trim token == [] || !(trim token).all isTokenByte) = false ↔
      trim token ≠ [] ∧ ∀ b ∈ trim token, isTokenByte b = true := by
    simp
  rw [pushContentCoding, rejectIf_bind_eq_ok_iff, hvalid]
  by_cases hidentity : lowercase (trim token) = asBytes "identity"
  · have htoken : isIdentityToken token = true := beq_iff_eq.mpr hidentity
    rw [if_pos hidentity, pure_eq_ok_iff, tokenCoding_of_identity htoken, htoken]
    constructor
    · rintro ⟨⟨hne, hbytes⟩, rfl⟩
      exact ⟨⟨hne, hbytes, .inl rfl⟩, (List.append_nil _).symm, hlength⟩
    · rintro ⟨⟨hne, hbytes, -⟩, hnext, -⟩
      exact ⟨⟨hne, hbytes⟩, hnext.trans (List.append_nil _)⟩
  · have htoken : isIdentityToken token = false := by simp [isIdentityToken, hidentity]
    rw [if_neg hidentity, okOr_bind_eq_ok_iff, htoken]
    simp only [rejectIf_bind_eq_ok_iff, pure_eq_ok_iff, decide_eq_false_iff_not]
    rw [show supportedCoding (lowercase (trim token)) = tokenCoding token from rfl]
    constructor
    · rintro ⟨⟨hne, hbytes⟩, coding, hcoding, hlimit, rfl⟩
      rw [hcoding]
      exact ⟨⟨hne, hbytes, .inr rfl⟩, rfl, Nat.le_of_not_gt hlimit⟩
    · rintro ⟨⟨hne, hbytes, hknown⟩, rfl, hlimit⟩
      obtain ⟨coding, hcoding⟩ :=
        Option.isSome_iff_exists.mp (hknown.resolve_left Bool.false_ne_true)
      rw [hcoding] at hlimit
      exact ⟨⟨hne, hbytes⟩, coding, hcoding, Nat.not_lt_of_ge hlimit, by rw [hcoding]; rfl⟩

/-- What the tokens of one field add to the list. -/
theorem pushTokens_eq_ok_iff {maxLayers : Nat} {tokens : List Bytes}
    {codings next : List ContentCoding} (hlength : codings.length ≤ maxLayers) :
    tokens.foldlM (pushContentCoding maxLayers) codings = .ok next ↔
      (∀ token ∈ tokens, trim token ≠ [] ∧ (∀ b ∈ trim token, isTokenByte b = true) ∧
        (isIdentityToken token = true ∨ (tokenCoding token).isSome = true)) ∧
      next = codings ++ tokens.filterMap tokenCoding ∧ next.length ≤ maxLayers := by
  have hpush : ∀ start next token, start.length ≤ maxLayers →
      (pushContentCoding maxLayers start token = .ok next ↔
        (trim token ≠ [] ∧ (∀ b ∈ trim token, isTokenByte b = true) ∧
          (isIdentityToken token = true ∨ (tokenCoding token).isSome = true)) ∧
        next = start ++ (tokenCoding token).toList ∧ next.length ≤ maxLayers) :=
    fun _ _ _ => pushContentCoding_eq_ok_iff
  rw [foldlM_append_eq_ok_iff hpush hlength, List.filterMap_eq_flatMap_toList]

theorem parseContentCodings_eq_ok_iff {headers : HeaderMap} {maxLayers : Nat}
    {codings : List ContentCoding} :
    parseContentCodings headers maxLayers = .ok codings ↔
      (∀ token ∈ contentTokens headers, AcceptedToken token) ∧
        codings = (contentTokens headers).filterMap tokenCoding ∧ codings.length ≤ maxLayers := by
  have hfield : ∀ (start next : List ContentCoding) (value : HeaderValue),
      start.length ≤ maxLayers →
      ((okOr value.toStr? (BoxError.other "upstream content encoding was invalid") >>= fun text =>
          (text.splitOn comma).foldlM (pushContentCoding maxLayers) start) = .ok next ↔
        (∀ token ∈ value.bytes.splitOn comma, AcceptedToken token) ∧
          next = start ++ (value.bytes.splitOn comma).filterMap tokenCoding ∧
          next.length ≤ maxLayers) := by
    intro start next value hstart
    simp only [okOr_bind_eq_ok_iff, HeaderValue.toStr?_eq_some_iff]
    rw [← @forall_splitOn_iff comma _ _ (by decide)]
    constructor
    · rintro ⟨_, ⟨rfl, hvisible⟩, hfold⟩
      obtain ⟨htokens, hnext⟩ := (pushTokens_eq_ok_iff hstart).mp hfold
      refine ⟨fun token htoken => ?_, hnext⟩
      obtain ⟨hne, hbytes, hknown⟩ := htokens token htoken
      exact ⟨hvisible token htoken, hne, hbytes, hknown⟩
    · rintro ⟨htokens, hnext⟩
      refine ⟨_, ⟨rfl, fun token htoken => (htokens token htoken).visible⟩, ?_⟩
      refine (pushTokens_eq_ok_iff hstart).mpr ⟨fun token htoken => ?_, hnext⟩
      obtain ⟨-, hne, hbytes, hknown⟩ := htokens token htoken
      exact ⟨hne, hbytes, hknown⟩
  rw [parseContentCodings, foldlM_append_eq_ok_iff hfield (Nat.zero_le _), List.nil_append,
    contentTokens, List.filterMap_flatMap]
  simp only [List.mem_flatMap, forall_exists_index, and_imp]
  exact and_congr_left fun _ => ⟨fun hall token value hvalue htoken =>
    hall value hvalue token htoken, fun hall value hvalue token htoken =>
    hall token value hvalue htoken⟩

/-- The list of a head is its tokens without identity, in order, however they are spread. -/
structure OneCodingList (headers : HeaderMap) (maxLayers : Nat) (codings : List ContentCoding) :
    Prop where
  parsed : parseContentCodings headers maxLayers = .ok codings
  ordered : codings = (contentTokens headers).filterMap tokenCoding
  bounded : codings.length ≤ maxLayers
  split : ∀ other, contentTokens other = contentTokens headers →
    parseContentCodings other maxLayers = .ok codings
  identity : ∀ other, (∀ token ∈ contentTokens other, isIdentityToken token = true →
      ∀ b ∈ token, isVisibleAscii b = true) →
    (contentTokens other).filter (!isIdentityToken ·) =
      (contentTokens headers).filter (!isIdentityToken ·) →
    parseContentCodings other maxLayers = .ok codings

/-- An identity token is accepted when its blanks are. -/
theorem acceptedToken_of_identity {token : Bytes} (hidentity : isIdentityToken token = true)
    (hvisible : ∀ b ∈ token, isVisibleAscii b = true) : AcceptedToken token := by
  have hname := hidentity
  rw [isIdentityToken, beq_iff_eq] at hname
  refine ⟨hvisible, ?_, ?_, .inl hidentity⟩
  · intro hnil
    rw [hnil] at hname
    exact absurd hname (by decide)
  · intro b hb
    have hlower : toAsciiLowercase b ∈ asBytes "identity" := hname ▸ List.mem_map_of_mem hb
    have hletter : ∀ b, toAsciiLowercase b ∈ asBytes "identity" → isTokenByte b = true :=
      forall_byte (by decide +kernel)
    exact hletter b hlower

theorem filterMap_tokenCoding (tokens : List Bytes) :
    (tokens.filter (!isIdentityToken ·)).filterMap tokenCoding = tokens.filterMap tokenCoding := by
  rw [List.filterMap_filter]
  apply List.filterMap_congr
  intro token _
  cases hidentity : isIdentityToken token with
  | true => simp [tokenCoding_of_identity hidentity]
  | false => simp

theorem oneCodingList_of_parse {headers : HeaderMap} {maxLayers : Nat}
    {codings : List ContentCoding} (hok : parseContentCodings headers maxLayers = .ok codings) :
    OneCodingList headers maxLayers codings := by
  obtain ⟨haccepted, hordered, hbounded⟩ := parseContentCodings_eq_ok_iff.mp hok
  refine ⟨hok, hordered, hbounded, ?_, ?_⟩
  · intro other hsame
    rw [parseContentCodings_eq_ok_iff, hsame]
    exact ⟨haccepted, hordered, hbounded⟩
  · intro other hvisible hsame
    rw [parseContentCodings_eq_ok_iff]
    refine ⟨?_, ?_, hbounded⟩
    · intro token htoken
      by_cases hidentity : isIdentityToken token = true
      · exact acceptedToken_of_identity hidentity (hvisible token htoken hidentity)
      · have hfiltered : token ∈ (contentTokens other).filter (!isIdentityToken ·) :=
          List.mem_filter.mpr ⟨htoken, by simpa using hidentity⟩
        exact haccepted token (List.mem_of_mem_filter (hsame ▸ hfiltered))
    · rw [hordered, ← filterMap_tokenCoding, ← hsame, filterMap_tokenCoding]

end Rpackit.Transport
