import Rpackit.Library.CodeOrder
import Rpackit.Library.Utf8
import Rpackit.Library.WindowsPath

/-! # UTF-16 in both directions, and the two orders of Unicode texts

A name of the system is any sequence of code units; it is a text when every surrogate
in it has its partner. UTF-8 bytes order texts by their scalars. UTF-16 code units do
not: they put the scalars from U+10000 on before those from U+E000 to U+FFFF.
-/

namespace Utf16

open CodeOrder Text

/-! ## Code units -/

def isHighSurrogate (unit : UInt16) : Bool := 0xD800 ≤ unit && unit ≤ 0xDBFF

def isLowSurrogate (unit : UInt16) : Bool := 0xDC00 ≤ unit && unit ≤ 0xDFFF

/-- The scalar of a unit that stands alone. -/
def scalarOf (unit : UInt16) : Option Char :=
  if isHighSurrogate unit || isLowSurrogate unit then none else some (Char.ofNat unit.toNat)

/-- The scalar of a high and a low surrogate. -/
def scalarOfPair (high low : UInt16) : Char :=
  Char.ofNat (0x10000 + (high.toNat - 0xD800) * 0x400 + (low.toNat - 0xDC00))

/-- `char::decode_utf16`; a surrogate without its partner has no scalar. -/
def decodeUtf16 : OsString → List (Option Char)
  | [] => []
  | [unit] => [scalarOf unit]
  | unit :: next :: rest =>
      if isHighSurrogate unit && isLowSurrogate next then
        some (scalarOfPair unit next) :: decodeUtf16 rest
      else scalarOf unit :: decodeUtf16 (next :: rest)

/-- `OsStr::to_str`. -/
def toStr (name : OsString) : Option (List Char) :=
  (decodeUtf16 name).foldr (fun scalar text => scalar.bind fun c => text.map (c :: ·)) (some [])

/-- The text with U+FFFD for every surrogate without its partner. -/
def toStringLossy (name : OsString) : List Char :=
  (decodeUtf16 name).map (·.getD (Char.ofNat 0xFFFD))

theorem isHighSurrogate_iff {unit : UInt16} :
    isHighSurrogate unit = true ↔ 0xD800 ≤ unit.toNat ∧ unit.toNat ≤ 0xDBFF := by
  simp only [isHighSurrogate, Bool.and_eq_true, decide_eq_true_eq, UInt16.le_iff_toNat_le,
    UInt16.reduceToNat]

theorem isLowSurrogate_iff {unit : UInt16} :
    isLowSurrogate unit = true ↔ 0xDC00 ≤ unit.toNat ∧ unit.toNat ≤ 0xDFFF := by
  simp only [isLowSurrogate, Bool.and_eq_true, decide_eq_true_eq, UInt16.le_iff_toNat_le,
    UInt16.reduceToNat]

theorem unit_eq_of_toNat {unit : UInt16} {n : Nat} (hsame : n = unit.toNat) :
    n.toUInt16 = unit := by
  rw [hsame]
  exact UInt16.ofNat_toNat

theorem toNat_unit_of_lt {n : Nat} (hn : n < 0x10000) : n.toUInt16.toNat = n := by
  rw [Nat.toUInt16_eq, UInt16.toNat_ofNat', Nat.mod_eq_of_lt hn]

theorem char_valid (c : Char) :
    c.toNat < 0xD800 ∨ (0xDFFF < c.toNat ∧ c.toNat < 0x110000) := c.valid

/-! ## Encoding and decoding -/

/-- What a unit that stands alone encodes. -/
theorem encodeUtf16_scalarOf {unit : UInt16} {c : Char} (hscalar : scalarOf unit = some c) :
    encodeUtf16 c = [unit] := by
  unfold scalarOf at hscalar
  split at hscalar
  next => cases hscalar
  next hsurrogate =>
    obtain rfl := Option.some.inj hscalar
    simp only [Bool.or_eq_true, isHighSurrogate_iff, isLowSurrogate_iff] at hsurrogate
    have hunit := unit.toNat_lt
    have hnat : (Char.ofNat unit.toNat).toNat = unit.toNat := toNat_ofNat_of_scalar (by omega)
    rw [encodeUtf16, hnat, if_pos (by omega), unit_eq_of_toNat rfl]

theorem encodeUtf16_scalarOfPair {high low : UInt16} (hhigh : isHighSurrogate high = true)
    (hlow : isLowSurrogate low = true) : encodeUtf16 (scalarOfPair high low) = [high, low] := by
  rw [isHighSurrogate_iff] at hhigh
  rw [isLowSurrogate_iff] at hlow
  have hnat : (scalarOfPair high low).toNat =
      0x10000 + (high.toNat - 0xD800) * 0x400 + (low.toNat - 0xDC00) :=
    toNat_ofNat_of_scalar (by omega)
  rw [encodeUtf16, hnat, if_neg (by omega), @unit_eq_of_toNat high _ (by omega),
    @unit_eq_of_toNat low _ (by omega)]

/-- Every scalar is one unit that is no surrogate, or a pair. -/
theorem exists_encodeUtf16 (c : Char) :
    (∃ unit, encodeUtf16 c = [unit] ∧ unit.toNat = c.toNat ∧ scalarOf unit = some c) ∨
      ∃ high low, encodeUtf16 c = [high, low] ∧ isHighSurrogate high = true ∧
        isLowSurrogate low = true ∧ scalarOfPair high low = c ∧
        c.toNat = 0x10000 + (high.toNat - 0xD800) * 0x400 + (low.toNat - 0xDC00) := by
  have hvalid := char_valid c
  by_cases hone : c.toNat < 0x10000
  · have hunit := toNat_unit_of_lt hone
    refine .inl ⟨_, if_pos hone, hunit, ?_⟩
    rw [scalarOf, if_neg, hunit, Char.ofNat_toNat]
    simp only [Bool.or_eq_true, isHighSurrogate_iff, isLowSurrogate_iff, hunit]
    omega
  · have hhigh := toNat_unit_of_lt (show 0xD800 + (c.toNat - 0x10000) / 0x400 < 0x10000 by omega)
    have hlow := toNat_unit_of_lt (show 0xDC00 + (c.toNat - 0x10000) % 0x400 < 0x10000 by omega)
    refine .inr ⟨_, _, if_neg hone, ?_, ?_, ?_, ?_⟩
    · rw [isHighSurrogate_iff, hhigh]
      omega
    · rw [isLowSurrogate_iff, hlow]
      omega
    · rw [scalarOfPair, hhigh, hlow]
      have hnat : 0x10000 + (0xD800 + (c.toNat - 0x10000) / 0x400 - 0xD800) * 0x400 +
          (0xDC00 + (c.toNat - 0x10000) % 0x400 - 0xDC00) = c.toNat := by omega
      rw [hnat, Char.ofNat_toNat]
    · rw [hhigh, hlow]
      omega

theorem decodeUtf16_encodeUtf16_append (c : Char) (rest : OsString) :
    decodeUtf16 (encodeUtf16 c ++ rest) = some c :: decodeUtf16 rest := by
  obtain ⟨unit, hencode, -, hscalar⟩ | ⟨high, low, hencode, hhigh, hlow, hpair, -⟩ :=
    exists_encodeUtf16 c
  · rw [hencode, List.singleton_append, ← hscalar]
    have hnothigh : isHighSurrogate unit = false := by
      unfold scalarOf at hscalar
      split at hscalar
      next => cases hscalar
      next hsurrogate => exact (Bool.or_eq_false_iff.mp (Bool.eq_false_iff.mpr hsurrogate)).1
    cases rest with
    | nil => rfl
    | cons next rest => rw [decodeUtf16, hnothigh, Bool.false_and, if_neg Bool.false_ne_true]
  · rw [hencode, List.cons_append, List.singleton_append, decodeUtf16, hhigh, hlow, ← hpair]
    rfl

theorem decodeUtf16_flatMap (text : List Char) :
    decodeUtf16 (text.flatMap encodeUtf16) = text.map some := by
  induction text with
  | nil => rfl
  | cons c rest ih =>
      rw [List.flatMap_cons, decodeUtf16_encodeUtf16_append, ih, List.map_cons]

/-- A sequence of units in which every unit decodes is the encoding of what it decodes to. -/
theorem flatMap_of_decodeUtf16 {name : OsString} {text : List Char}
    (hdecode : decodeUtf16 name = text.map some) : text.flatMap encodeUtf16 = name := by
  induction name using decodeUtf16.induct generalizing text with
  | case1 =>
      obtain rfl := List.map_eq_nil_iff.mp hdecode.symm
      rfl
  | case2 unit =>
      cases text with
      | nil => cases hdecode
      | cons c rest =>
          obtain ⟨hscalar, hrest⟩ := List.cons.inj hdecode
          obtain rfl := List.map_eq_nil_iff.mp hrest.symm
          rw [List.flatMap_cons, encodeUtf16_scalarOf hscalar]
          rfl
  | case3 unit next rest hpair ih =>
      rw [decodeUtf16, if_pos hpair] at hdecode
      cases text with
      | nil => cases hdecode
      | cons c others =>
          obtain ⟨hscalar, hrest⟩ := List.cons.inj hdecode
          obtain rfl := Option.some.inj hscalar
          obtain ⟨hhigh, hlow⟩ := Bool.and_eq_true_iff.mp hpair
          rw [List.flatMap_cons, encodeUtf16_scalarOfPair hhigh hlow, ih hrest]
          rfl
  | case4 unit next rest hpair ih =>
      rw [decodeUtf16, if_neg hpair] at hdecode
      cases text with
      | nil => cases hdecode
      | cons c others =>
          obtain ⟨hscalar, hrest⟩ := List.cons.inj hdecode
          rw [List.flatMap_cons, encodeUtf16_scalarOf hscalar, ih hrest]
          rfl

theorem foldr_bind_eq_some_iff {scalars : List (Option Char)} {text : List Char} :
    scalars.foldr (fun scalar text => scalar.bind fun c => text.map (c :: ·)) (some []) =
      some text ↔ scalars = text.map some := by
  induction scalars generalizing text with
  | nil => cases text <;> simp
  | cons scalar rest ih =>
      cases scalar with
      | none => cases text <;> simp
      | some c => cases text <;> simp [ih, and_comm]

/-- A name is a text exactly when it is the encoding of one. -/
theorem toStr_eq_some_iff {name : OsString} {text : List Char} :
    toStr name = some text ↔ text.flatMap encodeUtf16 = name := by
  rw [toStr, foldr_bind_eq_some_iff]
  refine ⟨flatMap_of_decodeUtf16, ?_⟩
  rintro rfl
  exact decodeUtf16_flatMap text

theorem toStringLossy_flatMap (text : List Char) :
    toStringLossy (text.flatMap encodeUtf16) = text := by
  simp [toStringLossy, decodeUtf16_flatMap]

end Utf16
