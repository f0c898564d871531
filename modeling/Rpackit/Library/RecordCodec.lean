import Mathlib.Data.List.Basic

/-! # Length-prefixed records

A text is framed by its length, written as a word of a fixed width. A framed text can
be cut off the front of anything, whatever its content looks like, so a sequence of
records is determined by the concatenation of their frames.
-/

namespace RecordCodec

variable {β : Type}

/-- Numbers below a limit as words of one width. -/
structure WordCodec (β : Type) where
  limit : Nat
  width : Nat
  encode : Nat → List β
  width_pos : 0 < width
  length_encode : ∀ n, (encode n).length = width
  encode_inj : ∀ m n, m < limit → n < limit → encode m = encode n → m = n

def frame (word : WordCodec β) (text : List β) : List β := word.encode text.length ++ text

/-- A framed text is the only one that can be cut off. -/
theorem frame_append_inj {word : WordCodec β} {first second rest rest' : List β}
    (hfirst : first.length < word.limit) (hsecond : second.length < word.limit)
    (heq : frame word first ++ rest = frame word second ++ rest') :
    first = second ∧ rest = rest' := by
  rw [frame, frame, List.append_assoc, List.append_assoc] at heq
  obtain ⟨hword, htail⟩ := List.append_inj heq
    ((word.length_encode _).trans (word.length_encode _).symm)
  exact List.append_inj htail (word.encode_inj _ _ hfirst hsecond hword)

/-- A key and the value that belongs to it. -/
structure Record (β : Type) where
  key : List β
  value : List β

namespace Record

/-- Both parts are short enough for the words of their frames. -/
structure Fits (keys values : WordCodec β) (record : Record β) : Prop where
  key : record.key.length < keys.limit
  value : record.value.length < values.limit

def encode (keys values : WordCodec β) (record : Record β) : List β :=
  frame keys record.key ++ frame values record.value

theorem encode_append_inj {keys values : WordCodec β} {first second : Record β}
    {rest rest' : List β} (hfirst : first.Fits keys values) (hsecond : second.Fits keys values)
    (heq : first.encode keys values ++ rest = second.encode keys values ++ rest') :
    first = second ∧ rest = rest' := by
  rw [encode, encode, List.append_assoc, List.append_assoc] at heq
  obtain ⟨hkey, htail⟩ := frame_append_inj hfirst.key hsecond.key heq
  obtain ⟨hvalue, hrest⟩ := frame_append_inj hfirst.value hsecond.value htail
  obtain ⟨key, value⟩ := first
  obtain rfl : key = second.key := hkey
  obtain rfl : value = second.value := hvalue
  exact ⟨rfl, hrest⟩

theorem encode_ne_nil (keys values : WordCodec β) (record : Record β) :
    record.encode keys values ≠ [] := by
  intro hnil
  obtain ⟨hframe, -⟩ := List.append_eq_nil_iff.mp hnil
  have hword := congrArg List.length (List.append_eq_nil_iff.mp hframe).1
  rw [keys.length_encode] at hword
  exact absurd hword (Nat.ne_of_gt keys.width_pos)

end Record

def encodeAll (keys values : WordCodec β) (records : List (Record β)) : List β :=
  records.flatMap fun record => record.encode keys values

/-- The concatenation determines the records. -/
theorem encodeAll_injective {keys values : WordCodec β} {first second : List (Record β)}
    (hfirst : ∀ record ∈ first, record.Fits keys values)
    (hsecond : ∀ record ∈ second, record.Fits keys values)
    (heq : encodeAll keys values first = encodeAll keys values second) : first = second := by
  induction first generalizing second with
  | nil =>
      cases second with
      | nil => rfl
      | cons record rest =>
          exact absurd (List.append_eq_nil_iff.mp heq.symm).1 (record.encode_ne_nil keys values)
  | cons record rest ih =>
      cases second with
      | nil => exact absurd (List.append_eq_nil_iff.mp heq).1 (record.encode_ne_nil keys values)
      | cons record' rest' =>
          obtain ⟨hrecord, hfits⟩ := List.forall_mem_cons.mp hfirst
          obtain ⟨hrecord', hfits'⟩ := List.forall_mem_cons.mp hsecond
          obtain ⟨rfl, htail⟩ := Record.encode_append_inj hrecord hrecord' heq
          rw [ih hfits hfits' htail]

end RecordCodec
