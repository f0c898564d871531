import Mathlib.Data.List.Lex
import Mathlib.Data.List.Pairwise

/-! # The order of encoded texts

Texts are encoded symbol by symbol, and compared code unit by code unit. When the codes
of two symbols differ at a place that both reach, the order of the encoded texts is the
lexicographic order of the symbols. Two encodings sort a list of texts alike unless two
of its texts differ first at symbols that the encodings order differently.
-/

namespace CodeOrder

/-! ## One encoding -/

section Encoding

variable {α β : Type} [LT β] {first second : List β}

/-- A code comes before another at a place that both of them reach. -/
def Before (first second : List β) : Prop :=
  ∃ common x y rest rest', first = common ++ x :: rest ∧ second = common ++ y :: rest' ∧ x < y

theorem Before.cons (hbefore : Before first second) (x : β) :
    Before (x :: first) (x :: second) := by
  obtain ⟨common, a, b, rest, rest', rfl, rfl, hlt⟩ := hbefore
  exact ⟨x :: common, a, b, rest, rest', rfl, rfl, hlt⟩

variable {encode : α → List β} {precedes : α → α → Prop}

end Encoding

/-! ## Two orders -/

section Clash

variable {α : Type} {R S : α → α → Prop} {text text' : List α}

/-- The texts differ first at symbols that the orders take differently. -/
def Clash (R S : α → α → Prop) (text text' : List α) : Prop :=
  ∃ common a b rest rest', text = common ++ a :: rest ∧ text' = common ++ b :: rest' ∧
    R b a ∧ S a b

theorem Clash.cons (hclash : Clash R S text text') (a : α) :
    Clash R S (a :: text) (a :: text') := by
  obtain ⟨common, b, c, rest, rest', rfl, rfl, horders⟩ := hclash
  exact ⟨a :: common, b, c, rest, rest', rfl, rfl, horders⟩

theorem Clash.swap (hclash : Clash R S text text') : Clash S R text' text := by
  obtain ⟨common, a, b, rest, rest', htext, htext', hR, hS⟩ := hclash
  exact ⟨common, b, a, rest', rest, htext', htext, hS, hR⟩

end Clash

end CodeOrder
