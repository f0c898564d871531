import Mathlib.Algebra.Group.Nat.Defs
import Mathlib.Data.List.Basic
import Mathlib.Data.List.DropRight
import Mathlib.Data.List.Infix

/-! # Byte strings and the ASCII text in them

Protocol code handles text as bytes: it trims, splits, folds ASCII case and
searches for fixed windows. The functions here follow the documented behaviour
of the usual byte-string operations; the lemmas say how splitting, trimming and
joining compose, and how a window search behaves when bytes are appended.
-/

namespace Text

abbrev Bytes := List UInt8

/-- The UTF-8 bytes of a string. -/
def asBytes (text : String) : Bytes := text.toUTF8.data.toList

/-- A property of all bytes, checked value by value. -/
theorem forall_byte {p : UInt8 → Prop} (hall : ∀ value : Fin 256, p (UInt8.ofNat value.val))
    (b : UInt8) : p b := by
  have hb := hall ⟨b.toNat, b.toNat_lt⟩
  rwa [UInt8.ofNat_toNat] at hb

def tab : UInt8 := 0x09
def lineFeed : UInt8 := 0x0A
def carriageReturn : UInt8 := 0x0D
def space : UInt8 := 0x20
def quote : UInt8 := 0x22
def percent : UInt8 := 0x25
def plus : UInt8 := 0x2B
def comma : UInt8 := 0x2C
def dot : UInt8 := 0x2E
def slash : UInt8 := 0x2F
def semicolon : UInt8 := 0x3B
def equals : UInt8 := 0x3D
def backslash : UInt8 := 0x5C

/-! ## Byte classes -/

def isAsciiDigit (b : UInt8) : Bool := 0x30 ≤ b && b ≤ 0x39

def isAsciiUppercase (b : UInt8) : Bool := 0x41 ≤ b && b ≤ 0x5A

def isAsciiLowercase (b : UInt8) : Bool := 0x61 ≤ b && b ≤ 0x7A

def isAsciiAlphanumeric (b : UInt8) : Bool :=
  isAsciiDigit b || isAsciiUppercase b || isAsciiLowercase b

def isAsciiControl (b : UInt8) : Bool := b < 0x20 || b == 0x7F

/-- The Unicode white-space scalars below 0x80. -/
def isAsciiWhiteSpace (b : UInt8) : Bool := b == space || (0x09 ≤ b && b ≤ 0x0D)

/-- Printable ASCII including the blank, plus the horizontal tab. -/
def isVisibleAscii (b : UInt8) : Bool := (0x20 ≤ b && b < 0x7F) || b == tab

theorem not_isAsciiControl_of_isVisibleAscii {b : UInt8} (hvisible : isVisibleAscii b = true)
    (htab : b ≠ tab) : isAsciiControl b = false := by
  simp only [isVisibleAscii, tab, Bool.or_eq_true, Bool.and_eq_true, decide_eq_true_eq,
    beq_iff_eq] at hvisible htab
  obtain ⟨hlow, hhigh⟩ := hvisible.resolve_right htab
  simp only [isAsciiControl, Bool.or_eq_false_iff, decide_eq_false_iff_not, beq_eq_false_iff_ne]
  constructor
  · exact UInt8.not_lt.mpr hlow
  · rintro rfl
    exact absurd hhigh (by decide)

theorem isVisibleAscii_of_isAsciiDigit {b : UInt8} (hdigit : isAsciiDigit b = true) :
    isVisibleAscii b = true := by
  simp only [isAsciiDigit, isVisibleAscii, Bool.or_eq_true, Bool.and_eq_true,
    decide_eq_true_eq] at hdigit ⊢
  exact .inl ⟨UInt8.le_trans (by decide) hdigit.1, UInt8.lt_of_le_of_lt hdigit.2 (by decide)⟩

theorem isVisibleAscii_of_isAsciiLowercase {b : UInt8} (hlower : isAsciiLowercase b = true) :
    isVisibleAscii b = true := by
  simp only [isAsciiLowercase, isVisibleAscii, Bool.or_eq_true, Bool.and_eq_true,
    decide_eq_true_eq] at hlower ⊢
  exact .inl ⟨UInt8.le_trans (by decide) hlower.1, UInt8.lt_of_le_of_lt hlower.2 (by decide)⟩

/-! ## ASCII case -/

def toAsciiLowercase (b : UInt8) : UInt8 := if isAsciiUppercase b then b + 0x20 else b

def lowercase (text : Bytes) : Bytes := text.map toAsciiLowercase

def eqIgnoreAsciiCase (left right : Bytes) : Bool := lowercase left == lowercase right

theorem eqIgnoreAsciiCase_iff {left right : Bytes} :
    eqIgnoreAsciiCase left right = true ↔ lowercase left = lowercase right := by
  simp [eqIgnoreAsciiCase]

theorem lowercase_lowercase (text : Bytes) : lowercase (lowercase text) = lowercase text := by
  rw [lowercase, lowercase, List.map_map]
  apply List.map_congr_left
  intro b _
  have hbyte : ∀ b, toAsciiLowercase (toAsciiLowercase b) = toAsciiLowercase b :=
    forall_byte (by decide +kernel)
  exact hbyte b

theorem lowercase_eq_self_iff {text : Bytes} :
    lowercase text = text ↔ ∀ b ∈ text, isAsciiUppercase b = false := by
  have hbyte : ∀ b, toAsciiLowercase b = b ↔ isAsciiUppercase b = false :=
    forall_byte (by decide +kernel)
  induction text with
  | nil => simp [lowercase]
  | cons b rest ih =>
      have hcons : lowercase (b :: rest) = b :: rest ↔
          toAsciiLowercase b = b ∧ lowercase rest = rest := by simp [lowercase]
      rw [hcons, List.forall_mem_cons]
      exact and_congr (hbyte b) ih

/-! ## Trimming -/

/-- What trimming a class of elements removes at both ends is of this class. -/
theorem exists_trimmed {α : Type} (p : α → Bool) (text : List α) :
    ∃ before after, text = before ++ (text.dropWhile p).rdropWhile p ++ after ∧
      (∀ a ∈ before, p a = true) ∧ ∀ a ∈ after, p a = true := by
  refine ⟨text.takeWhile p, (text.dropWhile p).rtakeWhile p, ?_, ?_, ?_⟩
  · have hsplit : (text.dropWhile p).rdropWhile p ++ (text.dropWhile p).rtakeWhile p =
        text.dropWhile p := by
      rw [List.rdropWhile, List.rtakeWhile, ← List.reverse_append, List.takeWhile_append_dropWhile,
        List.reverse_reverse]
    rw [List.append_assoc, hsplit, List.takeWhile_append_dropWhile]
  · intro a ha
    exact List.mem_takeWhile_imp ha
  · intro a ha
    exact List.mem_rtakeWhile_imp ha

/-- Trimming removes what is of the class at both ends, up to elements outside it. -/
theorem trimmed_append {α : Type} {p : α → Bool} {before text after : List α}
    (hbefore : ∀ a ∈ before, p a = true) (hafter : ∀ a ∈ after, p a = true)
    (htext : ∀ a ∈ text, p a = false) (hne : text ≠ []) :
    ((before ++ text ++ after).dropWhile p).rdropWhile p = text := by
  have hleft : (before ++ text ++ after).dropWhile p = text ++ after := by
    rw [List.append_assoc, List.dropWhile_append_of_pos hbefore]
    cases text with
    | nil => exact absurd rfl hne
    | cons first rest =>
        exact List.dropWhile_cons_of_neg (by simp [htext first List.mem_cons_self])
  have hright : text.reverse.dropWhile p = text.reverse := by
    rw [List.dropWhile_eq_self_iff]
    intro hlength
    simp [htext]
  rw [hleft, List.rdropWhile, List.reverse_append,
    List.dropWhile_append_of_pos (by simpa using hafter), hright, List.reverse_reverse]

section Trimmed

variable {α : Type} {p : α → Bool} {text : List α} {a : α}

theorem head?_trimmed (hhead : ((text.dropWhile p).rdropWhile p).head? = some a) : p a = false := by
  obtain ⟨rest, hrest⟩ := List.rdropWhile_prefix p (text.dropWhile p)
  have hdropped : (text.dropWhile p).head? = some a := by
    rw [← hrest, List.head?_append, hhead]
    rfl
  have hnot := List.head?_dropWhile_not p text
  rw [hdropped] at hnot
  exact hnot

theorem getLast?_trimmed (hlast : ((text.dropWhile p).rdropWhile p).getLast? = some a) :
    p a = false := by
  rw [List.rdropWhile, List.getLast?_reverse] at hlast
  have hnot := List.head?_dropWhile_not p (text.dropWhile p).reverse
  rw [hlast] at hnot
  exact hnot

/-- A text whose ends are not of the class is trimmed. -/
theorem trimmed_eq_self (hhead : ∀ a, text.head? = some a → p a = false)
    (hlast : ∀ a, text.getLast? = some a → p a = false) :
    (text.dropWhile p).rdropWhile p = text := by
  cases text with
  | nil => rfl
  | cons head tail =>
      have hdrop : (head :: tail).dropWhile p = head :: tail :=
        List.dropWhile_cons_of_neg (by simp [hhead head rfl])
      rw [hdrop, List.rdropWhile_eq_self_iff]
      intro hne
      simp [hlast _ (List.getLast?_eq_some_getLast hne)]

end Trimmed

/-- `str::trim` of an ASCII text. -/
def trim (text : Bytes) : Bytes := (text.dropWhile isAsciiWhiteSpace).rdropWhile isAsciiWhiteSpace

theorem trim_infix_text (text : Bytes) : trim text <:+: text :=
  ((List.rdropWhile_prefix _ _).isInfix).trans (List.dropWhile_suffix _).isInfix

theorem mem_of_mem_trim {b : UInt8} {text : Bytes} (hmem : b ∈ trim text) : b ∈ text :=
  (trim_infix_text text).subset hmem

theorem trim_cons_of_whiteSpace {b : UInt8} (hb : isAsciiWhiteSpace b = true) (text : Bytes) :
    trim (b :: text) = trim text := by
  simp [trim, hb]

theorem trim_trim (text : Bytes) : trim (trim text) = trim text :=
  trimmed_eq_self (fun _ hhead => head?_trimmed hhead) fun _ hlast => getLast?_trimmed hlast

/-- A text that neither begins nor ends with white space is trimmed. -/
theorem trim_eq_self {text : Bytes}
    (hhead : ∀ b, text.head? = some b → isAsciiWhiteSpace b = false)
    (hlast : ∀ b, text.getLast? = some b → isAsciiWhiteSpace b = false) : trim text = text :=
  trimmed_eq_self hhead hlast

/-! ## Splitting and joining -/

/-- `str::split_once`: the text before and after the first separator. -/
def splitOnce (separator : UInt8) : Bytes → Option (Bytes × Bytes)
  | [] => none
  | b :: rest =>
      if b = separator then some ([], rest)
      else (splitOnce separator rest).map fun parts => (b :: parts.1, parts.2)

theorem splitOnce_eq_some_iff {separator : UInt8} {text before after : Bytes} :
    splitOnce separator text = some (before, after) ↔
      text = before ++ separator :: after ∧ separator ∉ before := by
  induction text generalizing before with
  | nil => simp [splitOnce]
  | cons b rest ih =>
      unfold splitOnce
      split
      next heq =>
        subst heq
        constructor
        · rintro ⟨⟩
          exact ⟨rfl, List.not_mem_nil⟩
        · rintro ⟨hcons, hmem⟩
          cases before with
          | nil => cases hcons; rfl
          | cons head tail =>
              cases hcons
              exact absurd List.mem_cons_self hmem
      next hne =>
        simp only [Option.map_eq_some_iff, Prod.mk.injEq, Prod.exists]
        constructor
        · rintro ⟨left, right, hsplit, rfl, rfl⟩
          obtain ⟨rfl, hmem⟩ := ih.mp hsplit
          exact ⟨rfl, by simp [hmem, Ne.symm hne]⟩
        · rintro ⟨hcons, hmem⟩
          cases before with
          | nil =>
              cases hcons
              exact absurd rfl hne
          | cons head tail =>
              cases hcons
              exact ⟨tail, after, ih.mpr ⟨rfl, fun h => hmem (List.mem_cons_of_mem _ h)⟩, rfl, rfl⟩

theorem exists_splitOnce_of_mem {separator : UInt8} {text : Bytes} (hmem : separator ∈ text) :
    ∃ before after, splitOnce separator text = some (before, after) := by
  obtain ⟨before, after, htext, hbefore⟩ := List.eq_append_cons_of_mem hmem
  exact ⟨before, after, splitOnce_eq_some_iff.mpr ⟨htext, hbefore⟩⟩

/-- A name with an optional value after the first equals sign, both trimmed; a
text without an equals sign is a name as it stands. -/
def splitParameter (text : Bytes) : Bytes × Option Bytes :=
  match splitOnce equals text with
  | none => (text, none)
  | some (name, value) => (trim name, some (trim value))

/-- Splitting a list joined with a two-byte separator at the first byte of the
separator leaves the second byte at the front of every part but the first. -/
theorem splitOn_intercalate_blank {separator blank : UInt8} (hne : separator ≠ blank)
    {head : Bytes} {tail : List Bytes} (hseparator : ∀ part ∈ head :: tail, separator ∉ part) :
    ([separator, blank].intercalate (head :: tail)).splitOn separator =
      head :: tail.map (blank :: ·) := by
  have hjoin : [separator, blank].intercalate (head :: tail) =
      [separator].intercalate (head :: tail.map (blank :: ·)) := by
    clear hseparator
    induction tail generalizing head with
    | nil => simp
    | cons next rest ih => simpa [List.intercalate_cons_cons] using @ih next
  rw [hjoin, List.splitOn_intercalate]
  · intro part hpart
    rcases List.mem_cons.mp hpart with rfl | htail
    · exact hseparator _ List.mem_cons_self
    · obtain ⟨original, horiginal, rfl⟩ := List.mem_map.mp htail
      simp [hne, hseparator original (List.mem_cons_of_mem _ horiginal)]
  · simp

/-- `slice::join` with a two-byte separator whose second byte is white space:
splitting at the first byte and trimming gives the trimmed parts back. -/
theorem map_trim_splitOn_intercalate {separator blank : UInt8}
    (hblank : isAsciiWhiteSpace blank = true) (hne : separator ≠ blank) {parts : List Bytes}
    (hparts : parts ≠ []) (hseparator : ∀ part ∈ parts, separator ∉ part) :
    (([separator, blank].intercalate parts).splitOn separator).map trim = parts.map trim := by
  cases parts with
  | nil => exact absurd rfl hparts
  | cons head tail =>
      rw [splitOn_intercalate_blank hne hseparator]
      simp [Function.comp_def, trim_cons_of_whiteSpace hblank]

theorem not_mem_of_mem_splitOn {separator : UInt8} {text part : Bytes}
    (hpart : part ∈ text.splitOn separator) : separator ∉ part := by
  induction text generalizing part with
  | nil => simp_all
  | cons b rest ih =>
      rw [List.splitOn_cons_eq_if_modifyHead] at hpart
      split at hpart
      · rcases List.mem_cons.mp hpart with rfl | htail
        · exact List.not_mem_nil
        · exact ih htail
      next hne =>
        cases hrest : rest.splitOn separator with
        | nil => exact absurd hrest (List.splitOn_ne_nil _ _)
        | cons first others =>
            rw [hrest, List.modifyHead_cons] at hpart
            rcases List.mem_cons.mp hpart with rfl | htail
            · have hfirst : separator ∉ first := ih (by rw [hrest]; exact List.mem_cons_self)
              have hb : separator ≠ b := fun heq => hne (by simp [heq])
              exact List.not_mem_cons_of_ne_of_not_mem hb hfirst
            · exact ih (by rw [hrest]; exact List.mem_cons_of_mem _ htail)

theorem mem_intercalate_of_mem {separator part : Bytes} {parts : List Bytes} {b : UInt8}
    (hpart : part ∈ parts) (hb : b ∈ part) : b ∈ separator.intercalate parts := by
  induction parts with
  | nil => simp at hpart
  | cons first others ih =>
      cases others with
      | nil =>
          obtain rfl := List.mem_singleton.mp hpart
          simpa using hb
      | cons second rest =>
          rw [List.intercalate_cons_cons]
          rcases List.mem_cons.mp hpart with rfl | htail
          · exact List.mem_append_left _ (List.mem_append_left _ hb)
          · exact List.mem_append_right _ (ih htail)

theorem mem_of_mem_intercalate {separator : Bytes} {parts : List Bytes} {b : UInt8}
    (hb : b ∈ separator.intercalate parts) : b ∈ separator ∨ ∃ part ∈ parts, b ∈ part := by
  induction parts with
  | nil => simp at hb
  | cons first others ih =>
      cases others with
      | nil => exact .inr ⟨first, List.mem_cons_self, by simpa using hb⟩
      | cons second rest =>
          rw [List.intercalate_cons_cons, List.mem_append, List.mem_append] at hb
          rcases hb with (hfirst | hseparator) | hrest
          · exact .inr ⟨first, List.mem_cons_self, hfirst⟩
          · exact .inl hseparator
          · exact (ih hrest).imp_right fun ⟨part, hpart, hmem⟩ =>
              ⟨part, List.mem_cons_of_mem _ hpart, hmem⟩

theorem prefix_intercalate_cons (separator part : Bytes) (rest : List Bytes) :
    part <+: separator.intercalate (part :: rest) := by
  cases rest with
  | nil => simp
  | cons second others =>
      rw [List.intercalate_cons_cons, List.append_assoc]
      exact List.prefix_append _ _

theorem infix_intercalate_of_mem {separator part : Bytes} {parts : List Bytes}
    (hpart : part ∈ parts) : part <:+: separator.intercalate parts := by
  induction parts with
  | nil => simp at hpart
  | cons first others ih =>
      rcases List.mem_cons.mp hpart with rfl | htail
      · exact (prefix_intercalate_cons _ _ _).isInfix
      · cases others with
        | nil => simp at htail
        | cons second rest =>
            rw [List.intercalate_cons_cons]
            exact (ih htail).trans (List.suffix_append _ _).isInfix

theorem infix_of_mem_splitOn {separator : UInt8} {text part : Bytes}
    (hpart : part ∈ text.splitOn separator) : part <:+: text := by
  have hjoin : [separator].intercalate (text.splitOn separator) = text :=
    List.intercalate_splitOn separator
  exact hjoin ▸ infix_intercalate_of_mem hpart

theorem mem_of_mem_splitOn {separator b : UInt8} {text part : Bytes}
    (hpart : part ∈ text.splitOn separator) (hb : b ∈ part) : b ∈ text := by
  have hjoin : [separator].intercalate (text.splitOn separator) = text :=
    List.intercalate_splitOn separator
  exact hjoin ▸ mem_intercalate_of_mem hpart hb

theorem forall_splitOn_iff {separator : UInt8} {text : Bytes} {p : UInt8 → Prop}
    (hseparator : p separator) :
    (∀ part ∈ text.splitOn separator, ∀ b ∈ part, p b) ↔ ∀ b ∈ text, p b := by
  constructor
  · intro hparts b hb
    have hjoin : [separator].intercalate (text.splitOn separator) = text :=
      List.intercalate_splitOn separator
    rw [← hjoin] at hb
    obtain hb | ⟨part, hpart, hmem⟩ := mem_of_mem_intercalate hb
    · exact List.mem_singleton.mp hb ▸ hseparator
    · exact hparts part hpart b hmem
  · intro htext part hpart b hb
    exact htext b (mem_of_mem_splitOn hpart hb)

/-- Where the parts stand: the first at the front, every other between two separators,
when one more separator is put behind the text. -/
theorem splitOn_parts {separator : UInt8} {text first : Bytes} {others : List Bytes}
    (hsplit : text.splitOn separator = first :: others) :
    (∃ after, text ++ [separator] = first ++ separator :: after) ∧
      ∀ part ∈ others, ∃ before after,
        text ++ [separator] = before ++ separator :: (part ++ separator :: after) := by
  induction text generalizing first others with
  | nil =>
      cases hsplit
      exact ⟨⟨[], rfl⟩, nofun⟩
  | cons b rest ih =>
      obtain ⟨next, tail, hrest⟩ := List.exists_cons_of_ne_nil (List.splitOn_ne_nil separator rest)
      obtain ⟨⟨after, hfirst⟩, hothers⟩ := ih hrest
      rw [List.splitOn_cons_eq_if_modifyHead, hrest] at hsplit
      split at hsplit
      next heq =>
        obtain rfl := eq_of_beq heq
        cases hsplit
        refine ⟨⟨rest ++ [b], rfl⟩, fun part hpart => ?_⟩
        rcases List.mem_cons.mp hpart with rfl | htail
        · exact ⟨[], after, by rw [List.cons_append, hfirst, List.nil_append]⟩
        · obtain ⟨before, after, hpart⟩ := hothers part htail
          exact ⟨b :: before, after, by rw [List.cons_append, hpart, List.cons_append]⟩
      next =>
        cases hsplit
        refine ⟨⟨after, by rw [List.cons_append, hfirst, List.cons_append]⟩, fun part hpart => ?_⟩
        obtain ⟨before, after, hpart⟩ := hothers part hpart
        exact ⟨b :: before, after, by rw [List.cons_append, hpart, List.cons_append]⟩

/-! ## Window search -/

/-- Start of the first window equal to `pattern` (`windows(n).position(..)`). -/
def windowPosition (pattern : Bytes) : Bytes → Option Nat
  | [] => none
  | b :: rest =>
      if pattern.isPrefixOf (b :: rest) then some 0
      else (windowPosition pattern rest).map (· + 1)

theorem windowPosition_le {pattern text : Bytes} {position : Nat}
    (hposition : windowPosition pattern text = some position) :
    position + pattern.length ≤ text.length := by
  induction text generalizing position with
  | nil => simp [windowPosition] at hposition
  | cons b rest ih =>
      unfold windowPosition at hposition
      split at hposition
      next hleads =>
        cases hposition
        simpa using (List.isPrefixOf_iff_prefix.mp hleads).length_le
      next =>
        obtain ⟨inner, hinner, rfl⟩ := Option.map_eq_some_iff.mp hposition
        have := ih hinner
        simp only [List.length_cons]
        omega

/-- The position is where the pattern first stands. -/
theorem windowPosition_eq_some_iff {pattern text : Bytes} {position : Nat}
    (hpattern : pattern ≠ []) :
    windowPosition pattern text = some position ↔
      pattern <+: text.drop position ∧ ∀ earlier < position, ¬pattern <+: text.drop earlier := by
  induction text generalizing position with
  | nil => simp [windowPosition, hpattern]
  | cons b rest ih =>
      rw [windowPosition]
      split
      next hleads =>
        rw [List.isPrefixOf_iff_prefix] at hleads
        constructor
        · rintro ⟨⟩
          exact ⟨hleads, by simp⟩
        · rintro ⟨-, hearlier⟩
          cases position with
          | zero => rfl
          | succ position => exact absurd hleads (hearlier 0 (Nat.succ_pos position))
      next hnot =>
        rw [List.isPrefixOf_iff_prefix] at hnot
        rw [Option.map_eq_some_iff]
        constructor
        · rintro ⟨inner, hinner, rfl⟩
          obtain ⟨hfound, hearlier⟩ := ih.mp hinner
          refine ⟨hfound, fun earlier hlt => ?_⟩
          cases earlier with
          | zero => exact hnot
          | succ earlier => exact hearlier earlier (by omega)
        · rintro ⟨hfound, hearlier⟩
          cases position with
          | zero => exact absurd hfound hnot
          | succ position =>
              refine ⟨position, ih.mpr ⟨hfound, fun earlier hlt => ?_⟩, rfl⟩
              exact hearlier (earlier + 1) (by omega)

/-- A pattern whose first byte does not occur before it is found where it stands. -/
theorem windowPosition_of_notMem {first : UInt8} {before : Bytes} (hbefore : first ∉ before)
    (more rest : Bytes) :
    windowPosition (first :: more) (before ++ (first :: more) ++ rest) = some before.length := by
  induction before with
  | nil =>
      rw [List.nil_append, List.cons_append, windowPosition, if_pos, List.length_nil]
      rw [List.isPrefixOf_iff_prefix, ← List.cons_append]
      exact List.prefix_append _ _
  | cons b before ih =>
      obtain ⟨hne, hbefore⟩ := List.ne_and_not_mem_of_not_mem_cons hbefore
      rw [List.cons_append, List.cons_append, windowPosition, if_neg, ih hbefore]
      · rfl
      · rw [List.isPrefixOf_iff_prefix, List.cons_prefix_cons]
        exact fun hleads => hne hleads.1

/-- Bytes appended after the first match do not move it. -/
theorem windowPosition_append {pattern text : Bytes} {position : Nat} (suffix : Bytes)
    (hposition : windowPosition pattern text = some position) :
    windowPosition pattern (text ++ suffix) = some position := by
  induction text generalizing position with
  | nil => simp [windowPosition] at hposition
  | cons b rest ih =>
      unfold windowPosition at hposition
      rw [List.cons_append, windowPosition]
      split at hposition
      next hleads =>
        cases hposition
        rw [if_pos]
        rw [List.isPrefixOf_iff_prefix] at hleads ⊢
        exact hleads.trans (List.prefix_append (b :: rest) suffix)
      next hnot =>
        obtain ⟨inner, hinner, rfl⟩ := Option.map_eq_some_iff.mp hposition
        have hbound := windowPosition_le hinner
        rw [if_neg, ih hinner]
        · rfl
        · rw [List.isPrefixOf_iff_prefix] at hnot ⊢
          intro hleads
          refine hnot (List.prefix_of_prefix_length_le hleads
            (List.prefix_append (b :: rest) suffix) ?_)
          simp only [List.length_cons]
          omega

/-- The first match of a text is found in every prefix that contains it. -/
theorem windowPosition_of_append {pattern text suffix : Bytes} {position : Nat}
    (hposition : windowPosition pattern (text ++ suffix) = some position)
    (hbound : position + pattern.length ≤ text.length) (hpattern : pattern ≠ []) :
    windowPosition pattern text = some position := by
  cases hfound : windowPosition pattern text with
  | some found =>
      rw [windowPosition_append suffix hfound] at hposition
      exact hposition
  | none =>
      -- the match lies within the text, so a search of the text alone finds it
      exfalso
      induction text generalizing position with
      | nil =>
          have : pattern.length ≠ 0 := by simpa using hpattern
          simp only [List.length_nil] at hbound
          omega
      | cons b rest ih =>
          unfold windowPosition at hfound
          rw [List.cons_append, windowPosition] at hposition
          split at hfound
          · cases hfound
          next hnot =>
            rw [Option.map_eq_none_iff] at hfound
            split at hposition
            next hleads =>
              cases hposition
              rw [List.isPrefixOf_iff_prefix] at hnot hleads
              exact hnot (List.prefix_of_prefix_length_le hleads
                (List.prefix_append (b :: rest) suffix) (by simpa using hbound))
            next =>
              obtain ⟨inner, hinner, rfl⟩ := Option.map_eq_some_iff.mp hposition
              refine ih hinner ?_ hfound
              simp only [List.length_cons] at hbound
              omega

/-! ## Numbers -/

/-- Decimal digits of a natural number. -/
def decimal (n : Nat) : Bytes := (Nat.toDigits 10 n).map Char.toUInt8

theorem toUInt8_of_isDigit {c : Char} (hdigit : c.isDigit = true) :
    isAsciiDigit c.toUInt8 = true ∧ c.toUInt8.toNat = c.toNat := by
  simp only [Char.isDigit, ge_iff_le, Bool.and_eq_true, decide_eq_true_eq] at hdigit
  have hlow : 48 ≤ c.val.toNat := UInt32.le_iff_toNat_le.mp hdigit.1
  have hhigh : c.val.toNat ≤ 57 := UInt32.le_iff_toNat_le.mp hdigit.2
  have hsame : c.toUInt8.toNat = c.val.toNat := by
    rw [Char.toUInt8, UInt32.toNat_toUInt8]
    omega
  simp only [isAsciiDigit, Bool.and_eq_true, decide_eq_true_eq, UInt8.le_iff_toNat_le, hsame]
  exact ⟨⟨hlow, hhigh⟩, rfl⟩

theorem isAsciiDigit_of_mem_decimal {n : Nat} {b : UInt8} (hb : b ∈ decimal n) :
    isAsciiDigit b = true := by
  obtain ⟨c, hc, rfl⟩ := List.mem_map.mp hb
  exact (toUInt8_of_isDigit (Nat.isDigit_of_mem_toDigits (by decide) (by decide) hc)).1

def digitsValue (value : Nat) : Bytes → Option Nat
  | [] => some value
  | b :: rest =>
      if isAsciiDigit b then digitsValue (value * 10 + (b.toNat - 0x30)) rest else none

theorem digitsValue_map {digits : List Char} (hdigits : ∀ c ∈ digits, c.isDigit = true)
    (value : Nat) :
    digitsValue value (digits.map Char.toUInt8) = some (Nat.ofDigitChars 10 digits value) := by
  induction digits generalizing value with
  | nil => rfl
  | cons c rest ih =>
      obtain ⟨hdigit, hvalue⟩ := toUInt8_of_isDigit (hdigits c List.mem_cons_self)
      rw [List.map_cons, digitsValue, if_pos hdigit, hvalue, Nat.ofDigitChars_cons,
        Nat.mul_comm 10 value]
      exact ih (fun d hd => hdigits d (List.mem_cons_of_mem _ hd)) _

/-- The digits of a number are read back. -/
theorem digitsValue_decimal (n : Nat) : digitsValue 0 (decimal n) = some n := by
  have hdigits : ∀ c ∈ Nat.toDigits 10 n, c.isDigit = true :=
    fun c hc => Nat.isDigit_of_mem_toDigits (by decide) (by decide) hc
  rw [decimal, digitsValue_map hdigits, Nat.ofDigitChars_ten_toDigits]

/-- `str::parse::<u64>`: an optional plus sign, at least one digit, no overflow. -/
def parseU64 (text : Bytes) : Option Nat :=
  let digits := if text.head? = some plus then text.tail else text
  if digits = [] then none else (digitsValue 0 digits).filter (· < 2 ^ 64)

def hexDigit (value : UInt8) : UInt8 := if value < 10 then 0x30 + value else 0x57 + value

/-- Two lowercase hexadecimal digits a byte. -/
def hexEncode (bytes : Bytes) : Bytes :=
  bytes.flatMap fun b => [hexDigit (b / 16), hexDigit (b % 16)]

/-- The digits `hexEncode` writes. -/
def isLowercaseHexDigit (b : UInt8) : Bool := isAsciiDigit b || (0x61 ≤ b && b ≤ 0x66)

theorem isLowercaseHexDigit_hexDigit : ∀ value : Fin 16,
    isLowercaseHexDigit (hexDigit (UInt8.ofNat value.val)) = true := by decide

theorem isLowercaseHexDigit_of_mem_hexEncode {bytes : Bytes} {b : UInt8}
    (hmem : b ∈ hexEncode bytes) : isLowercaseHexDigit b = true := by
  obtain ⟨source, -, hdigit⟩ := List.mem_flatMap.mp hmem
  rcases List.mem_pair.mp hdigit with rfl | rfl
  · have hhigh : source / 16 = UInt8.ofNat (source.toNat / 16) := by
      rw [← UInt8.toNat_inj]
      have := source.toNat_lt
      simp only [UInt8.toNat_div, UInt8.reduceToNat, UInt8.toNat_ofNat']
      omega
    rw [hhigh]
    exact isLowercaseHexDigit_hexDigit ⟨source.toNat / 16, by have := source.toNat_lt; omega⟩
  · have hlow : source % 16 = UInt8.ofNat (source.toNat % 16) := by
      rw [← UInt8.toNat_inj]
      simp only [UInt8.toNat_mod, UInt8.reduceToNat, UInt8.toNat_ofNat']
      omega
    rw [hlow]
    exact isLowercaseHexDigit_hexDigit ⟨source.toNat % 16, by omega⟩

theorem mem_hexEncode {bytes : Bytes} {b : UInt8} (hmem : b ∈ hexEncode bytes) :
    isAsciiDigit b = true ∨ isAsciiLowercase b = true := by
  have hdigit := isLowercaseHexDigit_of_mem_hexEncode hmem
  simp only [isLowercaseHexDigit, Bool.or_eq_true, Bool.and_eq_true, decide_eq_true_eq] at hdigit
  refine hdigit.imp_right fun hrange => ?_
  simp only [isAsciiLowercase, Bool.and_eq_true, decide_eq_true_eq]
  exact ⟨hrange.1, UInt8.le_trans hrange.2 (by decide)⟩

theorem length_hexEncode (bytes : Bytes) : (hexEncode bytes).length = 2 * bytes.length := by
  induction bytes with
  | nil => rfl
  | cons b rest ih =>
      rw [hexEncode, List.flatMap_cons, List.length_append, ← hexEncode, ih, List.length_cons]
      simp only [List.length_cons, List.length_nil]
      omega

/-! ## Percent coding and UTF-8 -/

def hexValue (b : UInt8) : Option UInt8 :=
  if isAsciiDigit b then some (b - 0x30)
  else if 0x61 ≤ b && b ≤ 0x66 then some (b - 0x57)
  else if 0x41 ≤ b && b ≤ 0x46 then some (b - 0x37)
  else none

theorem hexValue_hexDigit (b : UInt8) :
    hexValue (hexDigit (b / 16)) = some (b / 16) ∧
      hexValue (hexDigit (b % 16)) = some (b % 16) := by
  have hbyte : ∀ b : UInt8, hexValue (hexDigit (b / 16)) = some (b / 16) ∧
      hexValue (hexDigit (b % 16)) = some (b % 16) := forall_byte (by decide +kernel)
  exact hbyte b

theorem hexEncode_injective : Function.Injective hexEncode := by
  intro first second heq
  induction first generalizing second with
  | nil =>
      cases second with
      | nil => rfl
      | cons c others => cases heq
  | cons b rest ih =>
      cases second with
      | nil => cases heq
      | cons c others =>
          obtain ⟨hhigh, htail⟩ := List.cons.inj heq
          obtain ⟨hlow, hrest⟩ := List.cons.inj htail
          have hquotient : b / 16 = c / 16 := by
            rw [← Option.some_inj, ← (hexValue_hexDigit b).1, hhigh, (hexValue_hexDigit c).1]
          have hremainder : b % 16 = c % 16 := by
            rw [← Option.some_inj, ← (hexValue_hexDigit b).2, hlow, (hexValue_hexDigit c).2]
          have hbyte : b = c := by
            rw [← UInt8.toNat_inj] at hquotient hremainder ⊢
            simp only [UInt8.toNat_div, UInt8.toNat_mod, UInt8.reduceToNat] at hquotient hremainder
            omega
          rw [hbyte, ih hrest]

/-- One pass of percent decoding; a `%` without two hexadecimal digits stands for itself. -/
def percentDecode : Bytes → Bytes
  | [] => []
  | [a] => [a]
  | [a, b] => [a, b]
  | a :: b :: c :: rest =>
      if a = percent then
        match hexValue b, hexValue c with
        | some high, some low => (high * 16 + low) :: percentDecode rest
        | _, _ => a :: percentDecode (b :: c :: rest)
      else a :: percentDecode (b :: c :: rest)

/-- Value bits of a leading byte and the ranges its continuation bytes must lie in;
`none` for a byte that starts no well-formed sequence. -/
def utf8Lead (b : UInt8) : Option (Nat × List (UInt8 × UInt8)) :=
  let tail : UInt8 × UInt8 := (0x80, 0xBF)
  if b < 0x80 then some (b.toNat, [])
  else if 0xC2 ≤ b && b ≤ 0xDF then some (b.toNat % 32, [tail])
  else if b == 0xE0 then some (b.toNat % 16, [(0xA0, 0xBF), tail])
  else if b == 0xED then some (b.toNat % 16, [(0x80, 0x9F), tail])
  else if 0xE1 ≤ b && b ≤ 0xEF then some (b.toNat % 16, [tail, tail])
  else if b == 0xF0 then some (b.toNat % 8, [(0x90, 0xBF), tail, tail])
  else if 0xF1 ≤ b && b ≤ 0xF3 then some (b.toNat % 8, [tail, tail, tail])
  else if b == 0xF4 then some (b.toNat % 8, [(0x80, 0x8F), tail, tail])
  else none

/-- The UTF-8 bytes of a sequence of scalars. -/
def encodeUtf8 (text : List Char) : Bytes := text.flatMap String.utf8EncodeChar

/-- The Unicode property `White_Space`. -/
def isWhiteSpace (c : Char) : Bool :=
  let n := c.toNat
  (0x09 ≤ n && n ≤ 0x0D) || n == 0x20 || n == 0x85 || n == 0xA0 || n == 0x1680
    || (0x2000 ≤ n && n ≤ 0x200A) || n == 0x2028 || n == 0x2029 || n == 0x202F || n == 0x205F
    || n == 0x3000

/-- `char::is_control`: the Unicode category Cc. -/
def isControl (c : Char) : Bool := c.toNat < 0x20 || (0x7F ≤ c.toNat && c.toNat < 0xA0)

/-- `str::trim` of a text that may leave ASCII. -/
def trimScalars (text : List Char) : List Char :=
  (text.dropWhile isWhiteSpace).rdropWhile isWhiteSpace

/-- Decoder state: the value bits so far and the ranges still expected. -/
def decodeUtf8From (value : Nat) : List (UInt8 × UInt8) → Bytes → Option (List Char)
  | [], [] => some []
  | _ :: _, [] => none
  | [], b :: rest =>
      match utf8Lead b with
      | none => none
      | some (bits, []) => (decodeUtf8From 0 [] rest).map (Char.ofNat bits :: ·)
      | some (bits, expected) => decodeUtf8From bits expected rest
  | (low, high) :: expected, b :: rest =>
      if low ≤ b && b ≤ high then
        let bits := value * 64 + b.toNat % 64
        match expected with
        | [] => (decodeUtf8From 0 [] rest).map (Char.ofNat bits :: ·)
        | _ => decodeUtf8From bits expected rest
      else none

/-- `decode_utf8`: the scalars of a well-formed UTF-8 string. -/
def decodeUtf8 (bytes : Bytes) : Option (List Char) := decodeUtf8From 0 [] bytes

def replacementCharacter : Char := Char.ofNat 0xFFFD

/-- `decode_utf8_lossy`: every maximal ill-formed subsequence becomes one
replacement character, and the byte that broke it starts afresh. -/
def decodeUtf8LossyFrom (value : Nat) (expected : List (UInt8 × UInt8)) : Bytes → List Char
  | [] => if expected = [] then [] else [replacementCharacter]
  | b :: rest =>
      let fresh : List Char :=
        match utf8Lead b with
        | none => replacementCharacter :: decodeUtf8LossyFrom 0 [] rest
        | some (bits, []) => Char.ofNat bits :: decodeUtf8LossyFrom 0 [] rest
        | some (bits, next) => decodeUtf8LossyFrom bits next rest
      match expected with
      | [] => fresh
      | (low, high) :: remaining =>
          if low ≤ b && b ≤ high then
            let bits := value * 64 + b.toNat % 64
            match remaining with
            | [] => Char.ofNat bits :: decodeUtf8LossyFrom 0 [] rest
            | _ => decodeUtf8LossyFrom bits remaining rest
          else replacementCharacter :: fresh

def decodeUtf8Lossy (bytes : Bytes) : List Char := decodeUtf8LossyFrom 0 [] bytes

example : decodeUtf8Lossy (percentDecode (asBytes "/a%2Fb%c3%a9%ff")) =
    ['/', 'a', '/', 'b', 'é', replacementCharacter] := by decide

end Text
