import Mathlib.Data.List.Dedup

/-! # Ordered multimaps

A finite sequence of key-value entries. A key may carry several values; their
relative order is kept by every operation that does not name the key.
-/

structure Multimap (κ ν : Type) where
  entries : List (κ × ν)
  deriving DecidableEq, Repr

namespace Multimap

variable {κ ν : Type} [DecidableEq κ]

def empty : Multimap κ ν := ⟨[]⟩

/-- Every value of a key, in order. -/
def getAll (m : Multimap κ ν) (key : κ) : List ν :=
  m.entries.filterMap fun entry => if entry.1 = key then some entry.2 else none

def get? (m : Multimap κ ν) (key : κ) : Option ν := (m.getAll key).head?

def containsKey (m : Multimap κ ν) (key : κ) : Bool := !(m.getAll key).isEmpty

def keys (m : Multimap κ ν) : List κ := (m.entries.map Prod.fst).dedup

def append (m : Multimap κ ν) (key : κ) (value : ν) : Multimap κ ν :=
  ⟨m.entries ++ [(key, value)]⟩

def remove (m : Multimap κ ν) (key : κ) : Multimap κ ν :=
  ⟨m.entries.filter fun entry => entry.1 ≠ key⟩

/-- Set a key to exactly one value. -/
def insert (m : Multimap κ ν) (key : κ) (value : ν) : Multimap κ ν :=
  (m.remove key).append key value

def removeMany (m : Multimap κ ν) (keys : List κ) : Multimap κ ν := keys.foldl remove m

def appendMany (m : Multimap κ ν) (key : κ) (values : List ν) : Multimap κ ν :=
  values.foldl (append · key) m

@[simp] theorem getAll_empty (key : κ) : (empty : Multimap κ ν).getAll key = [] := rfl

@[simp] theorem getAll_append_self (m : Multimap κ ν) (key : κ) (value : ν) :
    (m.append key value).getAll key = m.getAll key ++ [value] := by
  simp [getAll, append]

@[simp] theorem getAll_append_of_ne (m : Multimap κ ν) {key other : κ} (value : ν)
    (hne : other ≠ key) : (m.append key value).getAll other = m.getAll other := by
  simp [getAll, append, Ne.symm hne]

@[simp] theorem getAll_remove_self (m : Multimap κ ν) (key : κ) :
    (m.remove key).getAll key = [] := by
  simp only [getAll, remove, List.filterMap_eq_nil_iff, List.mem_filter, decide_eq_true_eq]
  rintro entry ⟨-, hne⟩
  rw [if_neg hne]

@[simp] theorem getAll_remove_of_ne (m : Multimap κ ν) {key other : κ} (hne : other ≠ key) :
    (m.remove key).getAll other = m.getAll other := by
  simp only [getAll, remove, List.filterMap_filter]
  congr 1
  funext entry
  by_cases heq : entry.1 = other
  · simp [heq, hne]
  · simp [heq]

@[simp] theorem getAll_insert_self (m : Multimap κ ν) (key : κ) (value : ν) :
    (m.insert key value).getAll key = [value] := by
  simp [insert]

@[simp] theorem getAll_insert_of_ne (m : Multimap κ ν) {key other : κ} (value : ν)
    (hne : other ≠ key) : (m.insert key value).getAll other = m.getAll other := by
  simp [insert, hne]

theorem containsKey_eq_false_iff (m : Multimap κ ν) (key : κ) :
    m.containsKey key = false ↔ m.getAll key = [] := by
  simp [containsKey]

theorem mem_keys_iff (m : Multimap κ ν) (key : κ) : key ∈ m.keys ↔ m.getAll key ≠ [] := by
  simp only [keys, List.mem_dedup, List.mem_map, getAll, ne_eq, List.filterMap_eq_nil_iff]
  constructor
  · rintro ⟨entry, hmem, rfl⟩ hnone
    simpa using hnone entry hmem
  · intro hsome
    push Not at hsome
    obtain ⟨entry, hmem, hentry⟩ := hsome
    refine ⟨entry, hmem, ?_⟩
    by_contra hne
    exact hentry (if_neg hne)

theorem getAll_removeMany_of_notMem (m : Multimap κ ν) {keys : List κ} {key : κ}
    (hkey : key ∉ keys) : (m.removeMany keys).getAll key = m.getAll key := by
  induction keys generalizing m with
  | nil => rfl
  | cons first rest ih =>
      obtain ⟨hne, hrest⟩ := List.ne_and_not_mem_of_not_mem_cons hkey
      change ((m.remove first).removeMany rest).getAll key = _
      rw [ih _ hrest, getAll_remove_of_ne _ hne]

theorem getAll_removeMany_of_nil (m : Multimap κ ν) (keys : List κ) {key : κ}
    (hnil : m.getAll key = []) : (m.removeMany keys).getAll key = [] := by
  induction keys generalizing m with
  | nil => exact hnil
  | cons first rest ih =>
      apply ih (m.remove first)
      by_cases heq : key = first
      · rw [heq, getAll_remove_self]
      · rw [getAll_remove_of_ne _ heq, hnil]

theorem getAll_removeMany_of_mem (m : Multimap κ ν) {keys : List κ} {key : κ}
    (hkey : key ∈ keys) : (m.removeMany keys).getAll key = [] := by
  induction keys generalizing m with
  | nil => simp at hkey
  | cons first rest ih =>
      rcases List.mem_cons.mp hkey with rfl | hrest
      · exact getAll_removeMany_of_nil _ rest (getAll_remove_self m key)
      · exact ih _ hrest

/-- Removing every present key with a property leaves the other keys alone. -/
theorem getAll_removeMany_filter_keys (m : Multimap κ ν) (p : κ → Bool) (key : κ) :
    (m.removeMany (m.keys.filter p)).getAll key = if p key then [] else m.getAll key := by
  split
  next hp =>
    by_cases hkey : key ∈ m.keys
    · exact getAll_removeMany_of_mem m (List.mem_filter.mpr ⟨hkey, hp⟩)
    · rw [mem_keys_iff, not_not] at hkey
      exact getAll_removeMany_of_nil m _ hkey
  next hp =>
    exact getAll_removeMany_of_notMem m fun hmem => hp (List.mem_filter.mp hmem).2

@[simp] theorem getAll_appendMany_self (m : Multimap κ ν) (key : κ) (values : List ν) :
    (m.appendMany key values).getAll key = m.getAll key ++ values := by
  induction values generalizing m with
  | nil => simp [appendMany]
  | cons first rest ih =>
      change ((m.append key first).appendMany key rest).getAll key = _
      rw [ih, getAll_append_self, List.append_assoc, List.singleton_append]

@[simp] theorem getAll_appendMany_of_ne (m : Multimap κ ν) {key other : κ} (values : List ν)
    (hne : other ≠ key) : (m.appendMany key values).getAll other = m.getAll other := by
  induction values generalizing m with
  | nil => rfl
  | cons first rest ih =>
      change ((m.append key first).appendMany key rest).getAll other = _
      rw [ih, getAll_append_of_ne _ _ hne]

theorem remove_remove (m : Multimap κ ν) (key : κ) : (m.remove key).remove key = m.remove key := by
  simp [remove]

theorem remove_insert_self (m : Multimap κ ν) (key : κ) (value : ν) :
    (m.insert key value).remove key = m.remove key := by
  simp [insert, remove, append]

/-- Values that were just appended are removed again. -/
theorem remove_appendMany_self (m : Multimap κ ν) (key : κ) (values : List ν) :
    (m.appendMany key values).remove key = m.remove key := by
  induction values generalizing m with
  | nil => rfl
  | cons first rest ih =>
      change ((m.append key first).appendMany key rest).remove key = _
      rw [ih]
      simp [remove, append]

end Multimap
