import Mathlib.Data.List.Nodup
import Mathlib.Logic.Function.Basic

/-! # Tables of handles

A caller opens and closes handles in a table that holds other entries as well. What it owns
is a list: the entries that are in the table besides those it began with.
-/

namespace HandleTable

variable {H E : Type}

/-- The table holds these entries besides those of `base`. -/
structure Owns (base : H → Option E) (owned : List (H × E)) (table : H → Option E) : Prop where
  nodup : (owned.map Prod.fst).Nodup
  held : ∀ item ∈ owned, table item.1 = some item.2
  fresh : ∀ item ∈ owned, base item.1 = none
  rest : ∀ handle, handle ∉ owned.map Prod.fst → table handle = base handle

variable {base table : H → Option E} {owned rest : List (H × E)} {handle other : H} {entry : E}

theorem Owns.start (base : H → Option E) : Owns base [] base where
  nodup := List.nodup_nil
  held _ hitem := absurd hitem List.not_mem_nil
  fresh _ hitem := absurd hitem List.not_mem_nil
  rest _ _ := rfl

theorem Owns.eq_base (howns : Owns base [] table) : table = base :=
  funext fun handle => howns.rest handle List.not_mem_nil

theorem Owns.notMem (howns : Owns base owned table) (hfree : table handle = none) :
    handle ∉ owned.map Prod.fst := by
  intro hmem
  obtain ⟨item, hitem, rfl⟩ := List.mem_map.mp hmem
  exact Option.some_ne_none _ ((howns.held item hitem).symm.trans hfree)

theorem Owns.perm (howns : Owns base owned table) (hperm : owned.Perm rest) :
    Owns base rest table where
  nodup := (hperm.map Prod.fst).nodup_iff.mp howns.nodup
  held item hitem := howns.held item (hperm.mem_iff.mpr hitem)
  fresh item hitem := howns.fresh item (hperm.mem_iff.mpr hitem)
  rest other hother := howns.rest other fun hmem => hother ((hperm.map Prod.fst).mem_iff.mp hmem)

/-- What `base` has, the table still has. -/
theorem Owns.of_base (howns : Owns base owned table) (hentry : base handle = some entry) :
    table handle = some entry := by
  refine (howns.rest handle fun hmem => ?_).trans hentry
  obtain ⟨item, hitem, rfl⟩ := List.mem_map.mp hmem
  exact Option.some_ne_none _ (hentry.symm.trans (howns.fresh item hitem))

/-- An entry is owned, or `base` has it. -/
theorem Owns.mem_or_base (howns : Owns base owned table) (hentry : table handle = some entry) :
    (handle, entry) ∈ owned ∨ base handle = some entry := by
  by_cases hmem : handle ∈ owned.map Prod.fst
  · obtain ⟨item, hitem, rfl⟩ := List.mem_map.mp hmem
    obtain rfl := Option.some.inj ((howns.held item hitem).symm.trans hentry)
    exact .inl hitem
  · exact .inr ((howns.rest handle hmem).symm.trans hentry)

/-- An entry of a kind that `base` does not have, and that is owned at most once. -/
theorem Owns.sole (howns : Owns base owned table) (Kind : E → Prop)
    (hbase : ∀ place found, base place = some found → ¬Kind found)
    (howned : ∀ item ∈ owned, Kind item.2 → item.1 = handle)
    (hentry : table other = some entry) (hkind : Kind entry) : other = handle := by
  obtain hmem | hfound := howns.mem_or_base hentry
  · exact howned _ hmem hkind
  · exact absurd hkind (hbase _ _ hfound)

variable [DecidableEq H]

theorem Owns.open (howns : Owns base owned table) (hfree : table handle = none) (entry : E) :
    Owns base ((handle, entry) :: owned) (Function.update table handle (some entry)) := by
  have hnew := howns.notMem hfree
  refine ⟨List.nodup_cons.mpr ⟨hnew, howns.nodup⟩, ?_, ?_, ?_⟩
  · rintro item (_ | ⟨_, hitem⟩)
    · exact Function.update_self ..
    · have hne : item.1 ≠ handle := fun heq => hnew (heq ▸ List.mem_map_of_mem hitem)
      rw [Function.update_of_ne hne]
      exact howns.held item hitem
  · rintro item (_ | ⟨_, hitem⟩)
    · exact (howns.rest handle hnew).symm.trans hfree
    · exact howns.fresh item hitem
  · intro other hother
    have hne : other ≠ handle := fun heq => hother (heq ▸ List.mem_cons_self)
    rw [Function.update_of_ne hne]
    exact howns.rest other fun hmem => hother (List.mem_cons_of_mem _ hmem)

theorem Owns.close (howns : Owns base ((handle, entry) :: owned) table) :
    Owns base owned (Function.update table handle none) := by
  obtain ⟨hnew, hnodup⟩ := List.nodup_cons.mp howns.nodup
  refine ⟨hnodup, ?_, ?_, ?_⟩
  · intro item hitem
    have hmem : item.1 ∈ owned.map Prod.fst := List.mem_map_of_mem hitem
    have hne : item.1 ≠ handle := fun heq => hnew (heq ▸ hmem)
    rw [Function.update_of_ne hne]
    exact howns.held item (List.mem_cons_of_mem _ hitem)
  · exact fun item hitem => howns.fresh item (List.mem_cons_of_mem _ hitem)
  · intro other hother
    by_cases hsame : other = handle
    · subst hsame
      rw [Function.update_self]
      exact (howns.fresh _ List.mem_cons_self).symm
    · rw [Function.update_of_ne hsame]
      refine howns.rest other fun hmem => ?_
      obtain heq | hmem := List.mem_cons.mp hmem
      · exact hsame heq
      · exact hother hmem

theorem Owns.replace (howns : Owns base ((handle, entry) :: owned) table) (later : E) :
    Owns base ((handle, later) :: owned) (Function.update table handle (some later)) := by
  have hclosed := howns.close
  have hopen := hclosed.open (Function.update_self handle none table) later
  rwa [Function.update_idem] at hopen

end HandleTable
