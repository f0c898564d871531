import Rpackit.Library.Utf8
import Rpackit.Transport.Admission

/-! # The tokens of a `Connection` field

A `Connection` field lists tokens between commas, and blanks may stand around
each of them. What the proxy accepts is such a list for a wide notion of blank:
any text of Unicode white space, where the field grammar knows space and tab only.
-/

namespace Rpackit.Transport

open Text Fallible

/-! ## Lists of tokens -/

/-- A nonempty text of token bytes. -/
structure IsToken (text : Bytes) : Prop where
  nonempty : text ≠ []
  bytes : ∀ b ∈ text, isTokenByte b = true

/-- A text between two blanks. -/
def Surrounded (Blank : Bytes → Prop) (piece text : Bytes) : Prop :=
  ∃ before after, piece = before ++ text ++ after ∧ Blank before ∧ Blank after

/-- A comma-separated list of these tokens, each between blanks, no two of which
are the same up to ASCII case. -/
structure TokenList (Blank : Bytes → Prop) (entry : Bytes) (tokens : List Bytes) : Prop where
  listed : ∃ pieces, pieces ≠ [] ∧ entry = [comma].intercalate pieces ∧
    List.Forall₂ (Surrounded Blank) pieces tokens
  each : ∀ token ∈ tokens, IsToken token
  distinct : (tokens.map lowercase).Nodup

/-- Optional spaces and tabs. -/
def OptionalBlank (text : Bytes) : Prop := ∀ b ∈ text, isOws b = true

/-- The UTF-8 text of any number of white-space scalars. -/
def WhiteSpaceText (text : Bytes) : Prop :=
  ∃ scalars, text = encodeUtf8 scalars ∧ ∀ c ∈ scalars, isWhiteSpace c = true

/-- A list stays one when its blanks are blanks of another kind. -/
theorem TokenList.imp {Blank Other : Bytes → Prop} {entry : Bytes} {tokens : List Bytes}
    (hlist : TokenList Blank entry tokens)
    (himp : ∀ text, (∀ b ∈ text, b ∈ entry) → Blank text → Other text) :
    TokenList Other entry tokens := by
  obtain ⟨pieces, hne, hentry, hpieces⟩ := hlist.listed
  have hmem : ∀ piece ∈ pieces, ∀ b ∈ piece, b ∈ entry := by
    intro piece hpiece b hb
    rw [hentry]
    exact mem_intercalate_of_mem hpiece hb
  refine ⟨⟨pieces, hne, hentry, ?_⟩, hlist.each, hlist.distinct⟩
  apply ((List.forall₂_and_left pieces tokens).mpr ⟨hmem, hpieces⟩).imp
  rintro piece text ⟨hbytes, before, after, rfl, hbefore, hafter⟩
  refine ⟨before, after, rfl, himp before (fun b hb => hbytes b ?_) hbefore,
    himp after (fun b hb => hbytes b ?_) hafter⟩
  · simp [hb]
  · simp [hb]

theorem toNat_lt_of_isTokenByte {b : UInt8} (htoken : isTokenByte b = true) : b.toNat < 0x80 := by
  have hlt : decide (b.toNat < 0x80) = true :=
    @of_isTokenByte (fun c => decide (c.toNat < 0x80)) b (by decide +kernel) htoken
  exact of_decide_eq_true hlt

theorem isOws_iff {b : UInt8} : isOws b = true ↔ b = space ∨ b = tab := by
  simp [isOws]

theorem toNat_lt_of_isOws {b : UInt8} (hows : isOws b = true) : b.toNat < 0x80 := by
  rcases isOws_iff.mp hows with rfl | rfl <;> decide

/-- A list whose blanks are spaces and tabs is ASCII. -/
theorem TokenList.isAscii {entry : Bytes} {tokens : List Bytes}
    (hlist : TokenList OptionalBlank entry tokens) : IsAscii entry := by
  obtain ⟨pieces, -, rfl, hpieces⟩ := hlist.listed
  intro b hb
  rcases mem_of_mem_intercalate hb with hcomma | ⟨piece, hpiece, hbyte⟩
  · obtain rfl := List.mem_singleton.mp hcomma
    decide
  · obtain ⟨token, htoken, before, after, rfl, hbefore, hafter⟩ :=
      exists_mem_of_mem_forall₂ hpieces hpiece
    simp only [List.mem_append] at hbyte
    rcases hbyte with (hleft | hmiddle) | hright
    · exact toNat_lt_of_isOws (hbefore b hleft)
    · exact toNat_lt_of_isTokenByte ((hlist.each token htoken).bytes b hmiddle)
    · exact toNat_lt_of_isOws (hafter b hright)

theorem whiteSpaceText_of_optionalBlank {text : Bytes} (hblank : OptionalBlank text) :
    WhiteSpaceText text := by
  refine ⟨asciiScalars text, ?_, ?_⟩
  · exact (encodeUtf8_asciiScalars fun b hb => toNat_lt_of_isOws (hblank b hb)).symm
  · intro c hc
    obtain ⟨b, hb, rfl⟩ := List.mem_map.mp hc
    rcases isOws_iff.mp (hblank b hb) with rfl | rfl <;> decide

/-- The ASCII white space a field value may hold is spaces and tabs. -/
theorem optionalBlank_of_whiteSpaceText {text : Bytes} (hascii : IsAscii text)
    (hvalid : ∀ b ∈ text, isHeaderValueByte b = true) (hblank : WhiteSpaceText text) :
    OptionalBlank text := by
  obtain ⟨scalars, rfl, hscalars⟩ := hblank
  intro b hb
  obtain ⟨c, hc, hbyte⟩ := List.mem_flatMap.mp hb
  have hmem : ∀ d ∈ String.utf8EncodeChar c, d ∈ encodeUtf8 scalars := by
    intro d hd
    exact List.mem_flatMap.mpr ⟨c, hc, hd⟩
  obtain ⟨single, hsingle, hnat⟩ := utf8EncodeChar_of_isAscii fun d hd => hascii d (hmem d hd)
  obtain rfl : b = single := by simpa [hsingle] using hbyte
  have htable : ∀ n : Fin 128, isHeaderValueByte (UInt8.ofNat n.val) = true →
      isWhiteSpace (Char.ofNat n.val) = true → isOws (UInt8.ofNat n.val) = true := by
    decide +kernel
  have hb' := htable ⟨b.toNat, hascii b hb⟩
  simp only [UInt8.ofNat_toNat] at hb'
  apply hb' (hvalid b hb)
  rw [← hnat, Char.ofNat_toNat]
  exact hscalars c hc

/-! ## What the code accepts -/

theorem isToken_iff {text : Bytes} :
    IsToken text ↔ (text == [] || !text.all isTokenByte) = false := by
  simp only [Bool.or_eq_false_iff, beq_eq_false_iff_ne, Bool.not_eq_false', List.all_eq_true]
  exact ⟨fun h => ⟨h.nonempty, h.bytes⟩, fun h => ⟨h.1, h.2⟩⟩

/-- The lower-cased token of a piece between commas. -/
def lowerToken (piece : List Char) : Bytes := lowercase (encodeUtf8 (trimScalars piece))

/-- The collected tokens are those of the pieces in order, and all tokens stay distinct. -/
theorem collectConnectionTokens_eq_ok_iff {tokens result : List Bytes} {pieces : List (List Char)}
    (htokens : tokens.Nodup) :
    collectConnectionTokens tokens pieces = .ok result ↔
      (∀ piece ∈ pieces, IsToken (encodeUtf8 (trimScalars piece))) ∧
        result = tokens ++ pieces.map lowerToken ∧ result.Nodup := by
  -- the loop keeps the tokens that were collected distinct
  induction pieces generalizing tokens with
  | nil =>
      simp only [collectConnectionTokens, Except.ok.injEq, List.not_mem_nil, false_imp_iff,
        implies_true, List.map_nil, List.append_nil, true_and]
      constructor
      · rintro rfl
        exact ⟨rfl, htokens⟩
      · rintro ⟨rfl, -⟩
        rfl
  | cons piece rest ih =>
      simp only [collectConnectionTokens, rejectIf_bind_eq_ok_iff, ← isToken_iff,
        List.forall_mem_cons, List.map_cons]
      change (_ ∧ tokens.contains (lowerToken piece) = false ∧
        collectConnectionTokens (tokens ++ [lowerToken piece]) rest = .ok result) ↔ _
      rw [← Bool.not_eq_true, List.contains_iff_mem]
      constructor
      · rintro ⟨htoken, hnew, hrest⟩
        have hnodup : (tokens ++ [lowerToken piece]).Nodup := by
          rw [← List.concat_eq_append]
          exact htokens.concat hnew
        obtain ⟨hall, hresult, hdistinct⟩ := (ih hnodup).mp hrest
        exact ⟨⟨htoken, hall⟩, by rw [hresult, List.append_assoc, List.singleton_append],
          hdistinct⟩
      · rintro ⟨⟨htoken, hall⟩, hresult, hdistinct⟩
        rw [← List.singleton_append, ← List.append_assoc] at hresult
        have hnodup : (tokens ++ [lowerToken piece]).Nodup :=
          (List.nodup_append.mp (hresult ▸ hdistinct)).1
        refine ⟨htoken, ?_, (ih hnodup).mpr ⟨hall, hresult, hdistinct⟩⟩
        intro hold
        exact (List.nodup_append.mp hnodup).2.2 _ hold _ (List.mem_singleton_self _) rfl

theorem not_isWhiteSpace_of_isTokenByte {b : UInt8} (htoken : isTokenByte b = true) :
    isWhiteSpace (Char.ofNat b.toNat) = false := by
  have hnot : (!isWhiteSpace (Char.ofNat b.toNat)) = true :=
    @of_isTokenByte (fun c => !isWhiteSpace (Char.ofNat c.toNat)) b (by decide +kernel) htoken
  rwa [Bool.not_eq_true'] at hnot

theorem ne_comma_of_isTokenByte {b : UInt8} (htoken : isTokenByte b = true) :
    Char.ofNat b.toNat ≠ ',' := by
  have hne : decide (Char.ofNat b.toNat ≠ ',') = true :=
    @of_isTokenByte (fun c => decide (Char.ofNat c.toNat ≠ ',')) b (by decide +kernel) htoken
  exact of_decide_eq_true hne

/-- A token between white space is the text of a piece without commas that is trimmed to it. -/
theorem exists_piece_of_surrounded {piece token : Bytes} (htoken : IsToken token)
    (hpiece : Surrounded WhiteSpaceText piece token) :
    ∃ scalars, piece = encodeUtf8 scalars ∧ ',' ∉ scalars ∧
      encodeUtf8 (trimScalars scalars) = token := by
  obtain ⟨_, _, rfl, ⟨before, rfl, hbefore⟩, after, rfl, hafter⟩ := hpiece
  have hencode : encodeUtf8 (asciiScalars token) = token :=
    encodeUtf8_asciiScalars fun b hb => toNat_lt_of_isTokenByte (htoken.bytes b hb)
  have hscalars : ∀ c ∈ asciiScalars token, isWhiteSpace c = false ∧ c ≠ ',' := by
    intro c hc
    obtain ⟨b, hb, rfl⟩ := List.mem_map.mp hc
    exact ⟨not_isWhiteSpace_of_isTokenByte (htoken.bytes b hb),
      ne_comma_of_isTokenByte (htoken.bytes b hb)⟩
  refine ⟨before ++ asciiScalars token ++ after, ?_, ?_, ?_⟩
  · rw [encodeUtf8_append, encodeUtf8_append, hencode]
  · have hcomma : isWhiteSpace ',' = false := by decide
    simp only [List.mem_append, not_or]
    refine ⟨⟨fun hmem => ?_, fun hmem => (hscalars _ hmem).2 rfl⟩, fun hmem => ?_⟩
    · simp [hbefore _ hmem] at hcomma
    · simp [hafter _ hmem] at hcomma
  · have hne : asciiScalars token ≠ [] := by
      simpa [asciiScalars] using htoken.nonempty
    rw [trimScalars, trimmed_append hbefore hafter (fun c hc => (hscalars c hc).1) hne, hencode]

theorem exists_pieces_of_surrounded {pieces tokens : List Bytes}
    (htokens : ∀ token ∈ tokens, IsToken token)
    (hpieces : List.Forall₂ (Surrounded WhiteSpaceText) pieces tokens) :
    ∃ scalars : List (List Char), pieces = scalars.map encodeUtf8 ∧
      (∀ piece ∈ scalars, ',' ∉ piece) ∧
      scalars.map (fun piece => encodeUtf8 (trimScalars piece)) = tokens := by
  induction hpieces with
  | nil => exact ⟨[], rfl, nofun, rfl⟩
  | @cons piece token pieces tokens hpiece _ ih =>
      obtain ⟨htoken, hrest⟩ := List.forall_mem_cons.mp htokens
      obtain ⟨scalars, rfl, hcomma, rfl⟩ := ih hrest
      obtain ⟨first, rfl, hfirst, rfl⟩ := exists_piece_of_surrounded htoken hpiece
      exact ⟨first :: scalars, rfl, List.forall_mem_cons.mpr ⟨hfirst, hcomma⟩, rfl⟩

theorem surrounded_trimScalars (piece : List Char) :
    Surrounded WhiteSpaceText (encodeUtf8 piece) (encodeUtf8 (trimScalars piece)) := by
  obtain ⟨before, after, hpiece, hbefore, hafter⟩ := exists_trimmed isWhiteSpace piece
  refine ⟨encodeUtf8 before, encodeUtf8 after, ?_, ⟨before, rfl, hbefore⟩, after, rfl, hafter⟩
  rw [trimScalars, ← encodeUtf8_append, ← encodeUtf8_append, ← hpiece]

/-- The text of pieces without commas is split into these pieces. -/
theorem decode_splitOn {scalars : List (List Char)} (hne : scalars ≠ [])
    (hcomma : ∀ piece ∈ scalars, ',' ∉ piece) :
    (decodeUtf8 ([comma].intercalate (scalars.map encodeUtf8))).map (·.splitOn ',') =
      some scalars := by
  have hjoin : [comma].intercalate (scalars.map encodeUtf8) =
      encodeUtf8 ([','].intercalate scalars) := (encodeUtf8_intercalate [','] scalars).symm
  rw [hjoin, decodeUtf8_encodeUtf8, Option.map_some, List.splitOn_intercalate ',' hcomma hne]

/-- The code accepts the lists whose blanks are Unicode white space, and returns
their tokens in lower case. -/
theorem parseConnectionTokens_eq_ok_iff {values : RawHeaders} {entry : Bytes}
    (hentry : values.get? Header.connection = some entry) (result : List Bytes) :
    parseConnectionTokens values = .ok result ↔
      ∃ tokens, TokenList WhiteSpaceText entry tokens ∧ result = tokens.map lowercase := by
  simp only [parseConnectionTokens, hentry, okOr_bind_eq_ok_iff,
    collectConnectionTokens_eq_ok_iff List.nodup_nil, List.nil_append]
  constructor
  · rintro ⟨text, htext, htokens, rfl, hdistinct⟩
    have hlower : (text.splitOn ',').map lowerToken =
        ((text.splitOn ',').map fun piece => encodeUtf8 (trimScalars piece)).map lowercase := by
      rw [List.map_map]
      rfl
    refine ⟨_, ⟨⟨(text.splitOn ',').map encodeUtf8, ?_, ?_, ?_⟩, ?_, hlower ▸ hdistinct⟩, hlower⟩
    · simp
    -- the field is its pieces joined by commas, also as bytes
    · have hjoin : [','].intercalate (text.splitOn ',') = text := List.intercalate_splitOn ','
      have hbytes := encodeUtf8_intercalate [','] (text.splitOn ',')
      rw [hjoin] at hbytes
      rw [decodeUtf8_eq_some_iff.mp htext, hbytes]
      rfl
    · rw [List.forall₂_map_left_iff, List.forall₂_map_right_iff, List.forall₂_same]
      exact fun piece _ => surrounded_trimScalars piece
    · intro token htoken
      obtain ⟨piece, hpiece, rfl⟩ := List.mem_map.mp htoken
      exact htokens piece hpiece
  · rintro ⟨tokens, ⟨⟨pieces, hne, rfl, hpieces⟩, htokens, hdistinct⟩, rfl⟩
    -- a list of tokens is ASCII but for its blanks, so its bytes are split as its scalars are
    obtain ⟨scalars, rfl, hcomma, rfl⟩ := exists_pieces_of_surrounded htokens hpieces
    obtain ⟨text, htext, hsplit⟩ := Option.map_eq_some_iff.mp
      (decode_splitOn (by simpa using hne) hcomma)
    refine ⟨text, htext, ?_, ?_, hdistinct⟩
    · rw [hsplit]
      intro piece hpiece
      exact htokens _ (List.mem_map.mpr ⟨piece, hpiece, rfl⟩)
    · rw [hsplit, List.map_map]
      rfl

/-! ## Where the two notions of blank agree -/

/-- The code accepts exactly the token lists of the field grammar, and returns their
tokens in lower case, unless white space beyond ASCII stands around a token of a
list that is otherwise one. -/
theorem parseConnectionTokens_exact_iff {values : RawHeaders} {entry : Bytes}
    (hentry : values.get? Header.connection = some entry)
    (hvalid : ∀ b ∈ entry, isHeaderValueByte b = true) :
    (∀ result, parseConnectionTokens values = .ok result ↔
      ∃ tokens, TokenList OptionalBlank entry tokens ∧ result = tokens.map lowercase) ↔
    IsAscii entry ∨ ¬∃ tokens, TokenList WhiteSpaceText entry tokens := by
  have hwiden : ∀ tokens, TokenList OptionalBlank entry tokens →
      TokenList WhiteSpaceText entry tokens := fun tokens hlist =>
    hlist.imp fun _ _ hblank => whiteSpaceText_of_optionalBlank hblank
  simp only [parseConnectionTokens_eq_ok_iff hentry]
  constructor
  · intro hexact
    by_cases hsome : ∃ tokens, TokenList WhiteSpaceText entry tokens
    · left
      obtain ⟨tokens, hlist⟩ := hsome
      obtain ⟨narrow, hnarrow, -⟩ := (hexact _).mp ⟨tokens, hlist, rfl⟩
      exact hnarrow.isAscii
    · exact .inr hsome
  · intro hcondition result
    constructor
    · rintro ⟨tokens, hlist, rfl⟩
      have hascii : IsAscii entry := hcondition.resolve_right fun hnone => hnone ⟨tokens, hlist⟩
      refine ⟨tokens, hlist.imp fun text hmem hblank => ?_, rfl⟩
      exact optionalBlank_of_whiteSpaceText (fun b hb => hascii b (hmem b hb))
        (fun b hb => hvalid b (hmem b hb)) hblank
    · rintro ⟨tokens, hlist, rfl⟩
      exact ⟨tokens, hwiden tokens hlist, rfl⟩

/-- The two tokens of a usual upgrade request, read exactly. -/
theorem parseConnectionTokens_exact_iff_upgrade :
    let entry := asBytes "keep-alive,\t Upgrade"
    ∀ result, parseConnectionTokens ⟨[(Header.connection, entry)]⟩ = .ok result ↔
      ∃ tokens, TokenList OptionalBlank entry tokens ∧ result = tokens.map lowercase :=
  (parseConnectionTokens_exact_iff (by decide) (by decide +kernel)).mpr
    (.inl (by unfold IsAscii; decide +kernel))

/-- One token behind an ideographic space. -/
def ideographicClose : Bytes := [0xE3, 0x80, 0x80] ++ asBytes "close"

/-- The ideographic space is trimmed away although no list of the field grammar holds it. -/
theorem ideographicClose_accepted :
    (∀ b ∈ ideographicClose, isHeaderValueByte b = true) ∧
      parseConnectionTokens ⟨[(Header.connection, ideographicClose)]⟩ = .ok [asBytes "close"] ∧
      ¬∃ tokens, TokenList OptionalBlank ideographicClose tokens := by
  refine ⟨by decide +kernel, by decide +kernel, ?_⟩
  rintro ⟨tokens, hlist⟩
  have hfirst : (0xE3 : UInt8).toNat < 0x80 := hlist.isAscii 0xE3 (by decide)
  exact absurd hfirst (by decide)

end Rpackit.Transport
