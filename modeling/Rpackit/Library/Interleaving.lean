import Mathlib.Data.List.Infix

/-! # Interleavings

Two senders share one channel: the channel carries the elements of both, each
sender's in its order.
-/

inductive Interleaving {α : Type} : List α → List α → List α → Prop
  | nil : Interleaving [] [] []
  | left {first second merged : List α} (a : α) (hrest : Interleaving first second merged) :
      Interleaving (a :: first) second (a :: merged)
  | right {first second merged : List α} (a : α) (hrest : Interleaving first second merged) :
      Interleaving first (a :: second) (a :: merged)

namespace Interleaving

variable {α : Type} {first second merged : List α}

theorem nil_right (first : List α) : Interleaving first [] first := by
  induction first with
  | nil => exact .nil
  | cons a rest ih => exact .left a ih

/-- What was taken from the channel came from the first sender if nothing of it is
the second one's, and what is left is an interleaving again. -/
theorem rest_of_append {taken rest : List α} (hmerged : Interleaving first second (taken ++ rest))
    (hnot : ∀ a ∈ taken, a ∉ second) :
    ∃ left, first = taken ++ left ∧ Interleaving left second rest := by
  induction taken generalizing first with
  | nil => exact ⟨first, rfl, hmerged⟩
  | cons a taken ih =>
      obtain ⟨hfirst, hlater⟩ := List.forall_mem_cons.mp hnot
      cases hmerged with
      | left _ hrest =>
          obtain ⟨left, rfl, hleft⟩ := ih hrest hlater
          exact ⟨left, rfl, hleft⟩
      | right _ hrest => exact absurd List.mem_cons_self hfirst

theorem prefix_left (hmerged : Interleaving first second merged) {taken : List α}
    (htaken : taken <+: merged) (hnot : ∀ a ∈ taken, a ∉ second) : taken <+: first := by
  obtain ⟨rest, rfl⟩ := htaken
  obtain ⟨left, rfl, -⟩ := hmerged.rest_of_append hnot
  exact List.prefix_append _ _

/-- The channel carries what the senders sent and nothing else. -/
theorem mem_iff (hmerged : Interleaving first second merged) {a : α} :
    a ∈ merged ↔ a ∈ first ∨ a ∈ second := by
  induction hmerged with
  | nil => simp
  | left b hrest ih =>
      rw [List.mem_cons, List.mem_cons, ih]
      exact or_assoc.symm
  | right b hrest ih =>
      rw [List.mem_cons, List.mem_cons, ih]
      exact or_left_comm

end Interleaving
