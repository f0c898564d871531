import Mathlib.Data.List.Forall2
import Rpackit.Library.Text

/-! # UTF-8 in both directions

The well-formed sequences of one scalar are stated by their value. Every encoding
is well formed, a well-formed sequence is the encoding of its value, and the
decoder takes exactly the well-formed ones; so decoding and encoding are inverse.
-/

namespace Text

/-! ## The sequences of one scalar -/

/-- A continuation byte. -/
def IsContinuation (b : UInt8) : Prop := 0x80 ≤ b.toNat ∧ b.toNat ≤ 0xBF

/-- A leading byte and its continuation, with the scalar value they stand for: the
shortest sequence of the value, which is not a surrogate. -/
inductive Utf8Sequence : Nat → UInt8 → Bytes → Prop
  | one {n : Nat} {lead : UInt8} (hlead : lead.toNat < 0x80) (hn : n = lead.toNat) :
      Utf8Sequence n lead []
  | two {n : Nat} {lead b : UInt8} (hlead : 0xC2 ≤ lead.toNat ∧ lead.toNat ≤ 0xDF)
      (hb : IsContinuation b) (hn : n = lead.toNat % 32 * 64 + b.toNat % 64) :
      Utf8Sequence n lead [b]
  | three {n : Nat} {lead b c : UInt8} (hlead : 0xE0 ≤ lead.toNat ∧ lead.toNat ≤ 0xEF)
      (hb : IsContinuation b) (hc : IsContinuation c)
      (hn : n = (lead.toNat % 16 * 64 + b.toNat % 64) * 64 + c.toNat % 64)
      (hscalar : 0x800 ≤ n ∧ (n < 0xD800 ∨ 0xDFFF < n)) :
      Utf8Sequence n lead [b, c]
  | four {n : Nat} {lead b c d : UInt8} (hlead : 0xF0 ≤ lead.toNat ∧ lead.toNat ≤ 0xF4)
      (hb : IsContinuation b) (hc : IsContinuation c) (hd : IsContinuation d)
      (hn : n = ((lead.toNat % 8 * 64 + b.toNat % 64) * 64 + c.toNat % 64) * 64 + d.toNat % 64)
      (hscalar : 0x10000 ≤ n ∧ n < 0x110000) :
      Utf8Sequence n lead [b, c, d]

theorem toNat_ofNat_of_scalar {n : Nat} (hscalar : n < 0xD800 ∨ (0xDFFF < n ∧ n < 0x110000)) :
    (Char.ofNat n).val.toNat = n := by
  have hvalid : n.isValidChar := hscalar
  rw [Char.ofNat, dif_pos hvalid]
  rfl

theorem byte_eq_of_toNat {b : UInt8} {n : Nat} (hsame : n = b.toNat) : UInt8.ofNat n = b := by
  rw [hsame, UInt8.ofNat_toNat]

theorem toNat_ofNat_of_lt {n : Nat} (hn : n < 256) : (UInt8.ofNat n).toNat = n := by
  rw [UInt8.toNat_ofNat', Nat.mod_eq_of_lt hn]

theorem isContinuation_ofNat (n : Nat) : IsContinuation (UInt8.ofNat (n % 64 + 128)) := by
  rw [IsContinuation, toNat_ofNat_of_lt (by omega)]
  omega

/-- A well-formed sequence is the encoding of its value. -/
theorem Utf8Sequence.encode {n : Nat} {lead : UInt8} {continuation : Bytes}
    (hsequence : Utf8Sequence n lead continuation) :
    String.utf8EncodeChar (Char.ofNat n) = lead :: continuation := by
  unfold String.utf8EncodeChar
  cases hsequence with
  | one hlead hn =>
      rw [toNat_ofNat_of_scalar (by omega), if_pos (by omega)]
      exact congrArg (fun b => [b]) (byte_eq_of_toNat hn)
  | two hlead hb hn =>
      obtain ⟨hlow, hhigh⟩ := hb
      rw [toNat_ofNat_of_scalar (by omega), if_neg (by omega), if_pos (by omega)]
      simp only [List.cons.injEq, and_true]
      exact ⟨byte_eq_of_toNat (by omega), byte_eq_of_toNat (by omega)⟩
  | three hlead hb hc hn hscalar =>
      obtain ⟨⟨hlow, hhigh⟩, hlow', hhigh'⟩ := And.intro hb hc
      rw [toNat_ofNat_of_scalar (by omega), if_neg (by omega), if_neg (by omega),
        if_pos (by omega)]
      simp only [List.cons.injEq, and_true]
      exact ⟨byte_eq_of_toNat (by omega), byte_eq_of_toNat (by omega),
        byte_eq_of_toNat (by omega)⟩
  | four hlead hb hc hd hn hscalar =>
      obtain ⟨⟨hlow, hhigh⟩, ⟨hlow', hhigh'⟩, hlow'', hhigh''⟩ := And.intro hb (And.intro hc hd)
      rw [toNat_ofNat_of_scalar (by omega), if_neg (by omega), if_neg (by omega),
        if_neg (by omega)]
      simp only [List.cons.injEq, and_true]
      exact ⟨byte_eq_of_toNat (by omega), byte_eq_of_toNat (by omega),
        byte_eq_of_toNat (by omega), byte_eq_of_toNat (by omega)⟩

/-- Every scalar has a well-formed sequence. -/
theorem exists_utf8Sequence (c : Char) :
    ∃ lead continuation, Utf8Sequence c.toNat lead continuation := by
  have hvalid : c.toNat < 0xD800 ∨ (0xDFFF < c.toNat ∧ c.toNat < 0x110000) := c.valid
  generalize c.toNat = n at hvalid
  by_cases hone : n < 0x80
  · have hlead := toNat_ofNat_of_lt (show n < 256 by omega)
    exact ⟨_, _, .one (by rwa [hlead]) hlead.symm⟩
  have hb := toNat_ofNat_of_lt (show n % 64 + 128 < 256 by omega)
  by_cases htwo : n < 0x800
  · have hlead := toNat_ofNat_of_lt (show n / 64 + 192 < 256 by omega)
    exact ⟨.ofNat (n / 64 + 192), [.ofNat (n % 64 + 128)],
      .two (by omega) (isContinuation_ofNat n) (by omega)⟩
  have hc := toNat_ofNat_of_lt (show n / 64 % 64 + 128 < 256 by omega)
  by_cases hthree : n < 0x10000
  · have hlead := toNat_ofNat_of_lt (show n / 4096 + 224 < 256 by omega)
    exact ⟨.ofNat (n / 4096 + 224), [.ofNat (n / 64 % 64 + 128), .ofNat (n % 64 + 128)],
      .three (by omega) (isContinuation_ofNat (n / 64)) (isContinuation_ofNat n) (by omega)
        (by omega)⟩
  have hd := toNat_ofNat_of_lt (show n / 4096 % 64 + 128 < 256 by omega)
  have hlead := toNat_ofNat_of_lt (show n / 262144 + 240 < 256 by omega)
  exact ⟨.ofNat (n / 262144 + 240),
    [.ofNat (n / 4096 % 64 + 128), .ofNat (n / 64 % 64 + 128), .ofNat (n % 64 + 128)],
    .four (by omega) (isContinuation_ofNat (n / 4096)) (isContinuation_ofNat (n / 64))
      (isContinuation_ofNat n) (by omega) (by omega)⟩

theorem exists_utf8EncodeChar (c : Char) : ∃ lead continuation,
    String.utf8EncodeChar c = lead :: continuation ∧ Utf8Sequence c.toNat lead continuation := by
  obtain ⟨lead, continuation, hsequence⟩ := exists_utf8Sequence c
  have hencode := hsequence.encode
  rw [Char.ofNat_toNat] at hencode
  exact ⟨lead, continuation, hencode, hsequence⟩

/-! ## What the decoder takes -/

/-- The value bits of a leading byte, continued by the bytes after it. -/
def utf8Value (bits : Nat) (continuation : Bytes) : Nat :=
  continuation.foldl (fun value b => value * 64 + b.toNat % 64) bits

@[simp] theorem utf8Value_nil (bits : Nat) : utf8Value bits [] = bits := rfl

@[simp] theorem utf8Value_cons (bits : Nat) (b : UInt8) (rest : Bytes) :
    utf8Value bits (b :: rest) = utf8Value (bits * 64 + b.toNat % 64) rest := rfl

/-- The continuation bytes lie in the ranges that are expected. -/
abbrev Continues : List (UInt8 × UInt8) → Bytes → Prop :=
  List.Forall₂ fun range b => range.1 ≤ b ∧ b ≤ range.2

theorem utf8Lead_toNat (b : UInt8) :
    utf8Lead b =
      if b.toNat < 0x80 then some (b.toNat, [])
      else if 0xC2 ≤ b.toNat ∧ b.toNat ≤ 0xDF then some (b.toNat % 32, [(0x80, 0xBF)])
      else if b.toNat = 0xE0 then some (b.toNat % 16, [(0xA0, 0xBF), (0x80, 0xBF)])
      else if b.toNat = 0xED then some (b.toNat % 16, [(0x80, 0x9F), (0x80, 0xBF)])
      else if 0xE1 ≤ b.toNat ∧ b.toNat ≤ 0xEF then
        some (b.toNat % 16, [(0x80, 0xBF), (0x80, 0xBF)])
      else if b.toNat = 0xF0 then some (b.toNat % 8, [(0x90, 0xBF), (0x80, 0xBF), (0x80, 0xBF)])
      else if 0xF1 ≤ b.toNat ∧ b.toNat ≤ 0xF3 then
        some (b.toNat % 8, [(0x80, 0xBF), (0x80, 0xBF), (0x80, 0xBF)])
      else if b.toNat = 0xF4 then some (b.toNat % 8, [(0x80, 0x8F), (0x80, 0xBF), (0x80, 0xBF)])
      else none := by
  simp only [utf8Lead, UInt8.lt_iff_toNat_lt, UInt8.le_iff_toNat_le, ← UInt8.toNat_inj,
    Bool.and_eq_true, decide_eq_true_eq, beq_iff_eq, UInt8.reduceToNat]

/-- A leading byte with the continuation it asks for is a well-formed sequence. -/
theorem utf8Sequence_of_lead {lead : UInt8} {bits : Nat} {expected : List (UInt8 × UInt8)}
    {continuation : Bytes} (hlead : utf8Lead lead = some (bits, expected))
    (hcontinues : Continues expected continuation) :
    Utf8Sequence (utf8Value bits continuation) lead continuation := by
  rw [utf8Lead_toNat] at hlead
  -- one case for each row of the table of leading bytes
  split_ifs at hlead with h1 h2 h3 h4 h5 h6 h7 h8
  all_goals
    cases hlead
    simp only [Continues, List.forall₂_cons_left_iff, List.forall₂_nil_left_iff,
      UInt8.le_iff_toNat_le, UInt8.reduceToNat] at hcontinues
  · subst hcontinues
    exact .one h1 rfl
  · obtain ⟨b, _, hb, rfl, rfl⟩ := hcontinues
    exact .two h2 hb rfl
  · obtain ⟨b, _, hb, ⟨c, _, hc, rfl, rfl⟩, rfl⟩ := hcontinues
    simp only [utf8Value_cons, utf8Value_nil]
    exact .three ⟨by omega, by omega⟩ ⟨by omega, hb.2⟩ hc rfl (by omega)
  · obtain ⟨b, _, hb, ⟨c, _, hc, rfl, rfl⟩, rfl⟩ := hcontinues
    simp only [utf8Value_cons, utf8Value_nil]
    exact .three ⟨by omega, by omega⟩ ⟨hb.1, by omega⟩ hc rfl (by omega)
  · obtain ⟨b, _, hb, ⟨c, _, hc, rfl, rfl⟩, rfl⟩ := hcontinues
    simp only [utf8Value_cons, utf8Value_nil]
    exact .three ⟨by omega, by omega⟩ hb hc rfl (by omega)
  · obtain ⟨b, _, hb, ⟨c, _, hc, ⟨d, _, hd, rfl, rfl⟩, rfl⟩, rfl⟩ := hcontinues
    simp only [utf8Value_cons, utf8Value_nil]
    exact .four ⟨by omega, by omega⟩ ⟨by omega, hb.2⟩ hc hd rfl (by omega)
  · obtain ⟨b, _, hb, ⟨c, _, hc, ⟨d, _, hd, rfl, rfl⟩, rfl⟩, rfl⟩ := hcontinues
    simp only [utf8Value_cons, utf8Value_nil]
    exact .four ⟨by omega, by omega⟩ hb hc hd rfl (by omega)
  · obtain ⟨b, _, hb, ⟨c, _, hc, ⟨d, _, hd, rfl, rfl⟩, rfl⟩, rfl⟩ := hcontinues
    simp only [utf8Value_cons, utf8Value_nil]
    exact .four ⟨by omega, by omega⟩ ⟨hb.1, by omega⟩ hc hd rfl (by omega)

/-- The leading byte of a well-formed sequence asks for what follows it. -/
theorem Utf8Sequence.lead {n : Nat} {lead : UInt8} {continuation : Bytes}
    (hsequence : Utf8Sequence n lead continuation) :
    ∃ bits expected, utf8Lead lead = some (bits, expected) ∧ Continues expected continuation ∧
      n = utf8Value bits continuation := by
  rw [utf8Lead_toNat]
  cases hsequence with
  | one hlead hn =>
      rw [if_pos hlead]
      exact ⟨_, _, rfl, .nil, hn⟩
  | two hlead hb hn =>
      rw [if_neg (by omega), if_pos hlead]
      exact ⟨_, _, rfl, .cons hb .nil, hn⟩
  | @three b c hlead hb hc hn hscalar =>
      rw [if_neg (by omega), if_neg (by omega)]
      obtain ⟨⟨hlow, hhigh⟩, hlow', hhigh'⟩ := And.intro hb hc
      -- a first byte that could begin an overlong or a surrogate form narrows the second
      by_cases hfirst : lead.toNat = 0xE0
      · rw [if_pos hfirst]
        have hshortest : 0xA0 ≤ b.toNat := by omega
        exact ⟨_, _, rfl, .cons ⟨hshortest, hhigh⟩ (.cons hc .nil), hn⟩
      rw [if_neg hfirst]
      by_cases hsurrogate : lead.toNat = 0xED
      · rw [if_pos hsurrogate]
        have hbelow : b.toNat ≤ 0x9F := by omega
        exact ⟨_, _, rfl, .cons ⟨hlow, hbelow⟩ (.cons hc .nil), hn⟩
      rw [if_neg hsurrogate, if_pos ⟨by omega, hlead.2⟩]
      exact ⟨_, _, rfl, .cons hb (.cons hc .nil), hn⟩
  | @four b c d hlead hb hc hd hn hscalar =>
      rw [if_neg (by omega), if_neg (by omega), if_neg (by omega), if_neg (by omega),
        if_neg (by omega)]
      obtain ⟨⟨hlow, hhigh⟩, ⟨hlow', hhigh'⟩, hlow'', hhigh''⟩ := And.intro hb (And.intro hc hd)
      by_cases hfirst : lead.toNat = 0xF0
      · rw [if_pos hfirst]
        have hshortest : 0x90 ≤ b.toNat := by omega
        exact ⟨_, _, rfl, .cons ⟨hshortest, hhigh⟩ (.cons hc (.cons hd .nil)), hn⟩
      rw [if_neg hfirst]
      by_cases hlast : lead.toNat = 0xF4
      · rw [if_neg (by omega), if_pos hlast]
        have hbelow : b.toNat ≤ 0x8F := by omega
        exact ⟨_, _, rfl, .cons ⟨hlow, hbelow⟩ (.cons hc (.cons hd .nil)), hn⟩
      rw [if_pos ⟨by omega, by omega⟩]
      exact ⟨_, _, rfl, .cons hb (.cons hc (.cons hd .nil)), hn⟩

/-- A pending sequence whose continuation follows yields its scalar. -/
theorem decodeUtf8From_append {expected : List (UInt8 × UInt8)} {continuation : Bytes}
    (hcontinues : Continues expected continuation) (hpending : expected ≠ []) (value : Nat)
    (rest : Bytes) : decodeUtf8From value expected (continuation ++ rest) =
      (decodeUtf8 rest).map (Char.ofNat (utf8Value value continuation) :: ·) := by
  induction hcontinues generalizing value with
  | nil => exact absurd rfl hpending
  | @cons range b ranges bytes hb hrest ih =>
      obtain ⟨low, high⟩ := range
      have hrange : (decide (low ≤ b) && decide (b ≤ high)) = true := by
        simpa using hb
      rw [List.cons_append, decodeUtf8From, if_pos hrange]
      cases hrest with
      | nil => rfl
      | cons hnext htail => exact ih (List.cons_ne_nil _ _) _

/-- A pending sequence that is decoded is followed by its continuation. -/
theorem decodeUtf8From_eq_some {expected : List (UInt8 × UInt8)} {value : Nat} {bytes : Bytes}
    {text : List Char} (hpending : expected ≠ [])
    (hdecode : decodeUtf8From value expected bytes = some text) :
    ∃ continuation rest chars, bytes = continuation ++ rest ∧ Continues expected continuation ∧
      decodeUtf8 rest = some chars ∧
      text = Char.ofNat (utf8Value value continuation) :: chars := by
  induction expected generalizing value bytes with
  | nil => exact absurd rfl hpending
  | cons range ranges ih =>
      obtain ⟨low, high⟩ := range
      cases bytes with
      | nil => cases hdecode
      | cons b rest =>
          rw [decodeUtf8From] at hdecode
          split at hdecode
          next hrange =>
            have hb : low ≤ b ∧ b ≤ high := by simpa using hrange
            cases ranges with
            | nil =>
                obtain ⟨chars, hchars, rfl⟩ := Option.map_eq_some_iff.mp hdecode
                exact ⟨[b], rest, chars, rfl, .cons hb .nil, hchars, rfl⟩
            | cons next others =>
                obtain ⟨continuation, after, chars, rfl, hcontinues, hchars, rfl⟩ :=
                  ih (List.cons_ne_nil _ _) hdecode
                exact ⟨b :: continuation, after, chars, rfl, .cons hb hcontinues, hchars, rfl⟩
          · cases hdecode

/-- The decoder takes a well-formed sequence and yields its scalar. -/
theorem decodeUtf8_sequence {n : Nat} {lead : UInt8} {continuation : Bytes}
    (hsequence : Utf8Sequence n lead continuation) (rest : Bytes) :
    decodeUtf8 (lead :: continuation ++ rest) = (decodeUtf8 rest).map (Char.ofNat n :: ·) := by
  obtain ⟨bits, expected, hlead, hcontinues, rfl⟩ := hsequence.lead
  rw [List.cons_append, decodeUtf8, decodeUtf8From, hlead]
  cases hcontinues with
  | nil => rfl
  | cons hb htail => exact decodeUtf8From_append (.cons hb htail) (List.cons_ne_nil _ _) bits rest

theorem decodeUtf8_cons_eq_some {lead : UInt8} {bytes : Bytes} {text : List Char}
    (hdecode : decodeUtf8 (lead :: bytes) = some text) :
    ∃ n continuation rest chars, bytes = continuation ++ rest ∧
      Utf8Sequence n lead continuation ∧ decodeUtf8 rest = some chars ∧
      text = Char.ofNat n :: chars := by
  rw [decodeUtf8, decodeUtf8From] at hdecode
  split at hdecode
  · cases hdecode
  next bits hlead =>
    obtain ⟨chars, hchars, rfl⟩ := Option.map_eq_some_iff.mp hdecode
    exact ⟨bits, [], bytes, chars, rfl, utf8Sequence_of_lead hlead .nil, hchars, rfl⟩
  next bits expected hpending hlead =>
    obtain ⟨continuation, rest, chars, rfl, hcontinues, hchars, rfl⟩ :=
      decodeUtf8From_eq_some hpending hdecode
    exact ⟨_, continuation, rest, chars, rfl, utf8Sequence_of_lead hlead hcontinues, hchars, rfl⟩

/-! ## Decoding and encoding -/

@[simp] theorem encodeUtf8_nil : encodeUtf8 [] = [] := rfl

@[simp] theorem encodeUtf8_cons (c : Char) (text : List Char) :
    encodeUtf8 (c :: text) = String.utf8EncodeChar c ++ encodeUtf8 text := rfl

@[simp] theorem encodeUtf8_append (left right : List Char) :
    encodeUtf8 (left ++ right) = encodeUtf8 left ++ encodeUtf8 right := List.flatMap_append

theorem decodeUtf8_encodeUtf8 (text : List Char) : decodeUtf8 (encodeUtf8 text) = some text := by
  induction text with
  | nil => rfl
  | cons c rest ih =>
      obtain ⟨lead, continuation, hencode, hsequence⟩ := exists_utf8EncodeChar c
      rw [encodeUtf8_cons, hencode, decodeUtf8_sequence hsequence, ih, Option.map_some,
        Char.ofNat_toNat]

theorem encodeUtf8_of_decodeUtf8 {bytes : Bytes} {text : List Char}
    (hdecode : decodeUtf8 bytes = some text) : encodeUtf8 text = bytes := by
  induction hlength : bytes.length using Nat.strong_induction_on generalizing bytes text with
  | _ length ih =>
      cases bytes with
      | nil =>
          cases hdecode
          rfl
      | cons lead bytes =>
          obtain ⟨n, continuation, rest, chars, rfl, hsequence, hchars, rfl⟩ :=
            decodeUtf8_cons_eq_some hdecode
          have hshorter : rest.length < length := by
            rw [← hlength, List.length_cons, List.length_append]
            omega
          rw [encodeUtf8_cons, hsequence.encode, ih _ hshorter hchars rfl, List.cons_append]

/-- The decoder succeeds on the encodings and returns what was encoded. -/
theorem decodeUtf8_eq_some_iff {bytes : Bytes} {text : List Char} :
    decodeUtf8 bytes = some text ↔ bytes = encodeUtf8 text := by
  constructor
  · intro hdecode
    exact (encodeUtf8_of_decodeUtf8 hdecode).symm
  · rintro rfl
    exact decodeUtf8_encodeUtf8 text

theorem encodeUtf8_intercalate (separator : List Char) (pieces : List (List Char)) :
    encodeUtf8 (separator.intercalate pieces) =
      (encodeUtf8 separator).intercalate (pieces.map encodeUtf8) := by
  induction pieces with
  | nil => rfl
  | cons first others ih =>
      cases others with
      | nil => simp
      | cons second rest =>
          simp only [List.map_cons, List.intercalate_cons_cons, encodeUtf8_append] at ih ⊢
          rw [ih]

/-! ## ASCII text -/

def IsAscii (bytes : Bytes) : Prop := ∀ b ∈ bytes, b.toNat < 0x80

/-- The scalars of an ASCII text. -/
def asciiScalars (bytes : Bytes) : List Char := bytes.map fun b => Char.ofNat b.toNat

theorem encodeUtf8_asciiScalars {bytes : Bytes} (hascii : IsAscii bytes) :
    encodeUtf8 (asciiScalars bytes) = bytes := by
  induction bytes with
  | nil => rfl
  | cons b rest ih =>
      have hb : String.utf8EncodeChar (Char.ofNat b.toNat) = [b] :=
        (Utf8Sequence.one (hascii b List.mem_cons_self) rfl).encode
      change String.utf8EncodeChar (Char.ofNat b.toNat) ++ encodeUtf8 (asciiScalars rest) = _
      rw [hb, ih fun c hc => hascii c (List.mem_cons_of_mem _ hc)]
      rfl

/-- A scalar whose encoding is ASCII is one byte. -/
theorem utf8EncodeChar_of_isAscii {c : Char} (hascii : IsAscii (String.utf8EncodeChar c)) :
    ∃ b : UInt8, String.utf8EncodeChar c = [b] ∧ c.toNat = b.toNat := by
  obtain ⟨lead, continuation, hencode, hsequence⟩ := exists_utf8EncodeChar c
  have hlead : lead.toNat < 0x80 := hascii lead (by rw [hencode]; exact List.mem_cons_self)
  cases hsequence with
  | one _ hn => exact ⟨lead, hencode, hn⟩
  | two hrange => omega
  | three hrange => omega
  | four hrange => omega

end Text
