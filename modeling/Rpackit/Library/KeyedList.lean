import Mathlib.Data.List.Basic
import Mathlib.Data.List.Perm.Basic

/-! # Lists under a comparison of keys

Entries with a key, where keys are the same if a comparison says so. A list without
two entries of the same key is a finite map; the in-place insertion sort, which moves
one entry after the other to the left, makes it ascending and keeps the map.
-/

namespace KeyedList

variable {α κ : Type} (cmp : κ → κ → Ordering) (key : α → κ)

/-- The entry of a key. -/
def find (k : κ) (entries : List α) : Option α :=
  entries.find? fun entry => cmp (key entry) k == .eq

/-- No two entries have the same key. -/
def Distinct (entries : List α) : Prop :=
  entries.Pairwise fun first second => cmp (key first) (key second) ≠ .eq

def Sorted (entries : List α) : Prop :=
  entries.Pairwise fun first second => cmp (key first) (key second) ≠ .gt

def Ascending (entries : List α) : Prop :=
  entries.Pairwise fun first second => cmp (key first) (key second) = .lt

/-- The index of the entry of a key. -/
def position (k : κ) (entries : List α) : Option Nat :=
  entries.findIdx? fun entry => cmp (key entry) k == .eq

/-- An entry in the place of the one of its key, or at the end. -/
def put (entry : α) (entries : List α) : List α :=
  match position cmp key (key entry) entries with
  | some index => entries.set index entry
  | none => entries ++ [entry]

def erase (k : κ) (entries : List α) : List α :=
  match position cmp key k entries with
  | some index => entries.eraseIdx index
  | none => entries

/-- Move an entry to the left past the greater ones; what is before it is given backwards. -/
def sift : List α → α → List α → List α
  | [], entry, after => entry :: after
  | previous :: before, entry, after =>
      if cmp (key previous) (key entry) = .gt then sift before entry (previous :: after)
      else (previous :: before).reverse ++ entry :: after

/-- Sift the entries of the rest into what is sorted already. -/
def sortFrom : List α → List α → List α
  | sorted, [] => sorted
  | sorted, entry :: rest => sortFrom (sift cmp key sorted.reverse entry []) rest

def sort (entries : List α) : List α := sortFrom cmp key [] entries

variable {cmp key} {entries other before after rest : List α} {entry a : α} {k : κ}

/-! ## The map of a list -/

theorem mem_of_find (hfind : find cmp key k entries = some a) :
    a ∈ entries ∧ cmp (key a) k = .eq :=
  ⟨List.mem_of_find?_eq_some hfind, by simpa using List.find?_some hfind⟩

theorem find_eq_none_iff :
    find cmp key k entries = none ↔ ∀ entry ∈ entries, cmp (key entry) k ≠ .eq := by
  simp [find, List.find?_eq_none]

theorem position_eq_none_iff :
    position cmp key k entries = none ↔ find cmp key k entries = none := by
  rw [position, find, List.findIdx?_eq_none_iff, List.find?_eq_none]
  simp

theorem split_of_position {index : Nat} (hposition : position cmp key k entries = some index) :
    ∃ before a after, entries = before ++ a :: after ∧ before.length = index ∧
      cmp (key a) k = .eq := by
  obtain ⟨hlt, hsame, -⟩ := List.findIdx?_eq_some_iff_getElem.mp hposition
  refine ⟨entries.take index, entries[index], entries.drop (index + 1), by simp, ?_, ?_⟩
  · rw [List.length_take, Nat.min_eq_left (Nat.le_of_lt hlt)]
  · simpa using hsame

variable (cmp key) in
/-- The two forms of a list with an entry put into it. -/
theorem put_cases (entry : α) (entries : List α) :
    (find cmp key (key entry) entries = none ∧ put cmp key entry entries = entries ++ [entry]) ∨
      ∃ before a after, entries = before ++ a :: after ∧ cmp (key a) (key entry) = .eq ∧
        put cmp key entry entries = before ++ entry :: after := by
  unfold put
  cases hposition : position cmp key (key entry) entries with
  | none => exact .inl ⟨position_eq_none_iff.mp hposition, rfl⟩
  | some index =>
      obtain ⟨before, a, after, rfl, rfl, hsame⟩ := split_of_position hposition
      exact .inr ⟨before, a, after, rfl, hsame, by simp⟩

variable (cmp key) in
theorem erase_cases (k : κ) (entries : List α) :
    (find cmp key k entries = none ∧ erase cmp key k entries = entries) ∨
      ∃ before a after, entries = before ++ a :: after ∧ cmp (key a) k = .eq ∧
        erase cmp key k entries = before ++ after := by
  unfold erase
  cases hposition : position cmp key k entries with
  | none => exact .inl ⟨position_eq_none_iff.mp hposition, rfl⟩
  | some index =>
      obtain ⟨before, a, after, rfl, rfl, hsame⟩ := split_of_position hposition
      refine .inr ⟨before, a, after, rfl, hsame, ?_⟩
      change (before ++ a :: after).eraseIdx before.length = before ++ after
      rw [List.eraseIdx_append_of_length_le (Nat.le_refl _), Nat.sub_self, List.eraseIdx_cons_zero]

theorem mem_put {entries : List α} (hmem : a ∈ put cmp key entry entries) :
    a = entry ∨ a ∈ entries := by
  rcases put_cases cmp key entry entries with
    ⟨-, hput⟩ | ⟨before, replaced, after, rfl, -, hput⟩
  · rw [hput, List.mem_append, List.mem_singleton] at hmem
    exact hmem.symm
  · rw [hput, List.mem_append, List.mem_cons] at hmem
    rw [List.mem_append, List.mem_cons]
    tauto

theorem erase_sublist (k : κ) (entries : List α) :
    (erase cmp key k entries).Sublist entries := by
  rcases erase_cases cmp key k entries with
    ⟨-, herase⟩ | ⟨before, a, after, rfl, -, herase⟩
  · rw [herase]
  · rw [herase]
    exact List.Sublist.append_left (List.sublist_cons_self a after) before

theorem Distinct.append (hdistinct : Distinct cmp key entries)
    (hnew : find cmp key (key entry) entries = none) : Distinct cmp key (entries ++ [entry]) := by
  refine List.pairwise_append.mpr ⟨hdistinct, List.pairwise_singleton _ _, ?_⟩
  intro earlier hearlier later hlater
  rw [List.mem_singleton.mp hlater]
  exact find_eq_none_iff.mp hnew earlier hearlier

theorem Ascending.distinct (hascending : Ascending cmp key entries) : Distinct cmp key entries := by
  refine hascending.imp ?_
  intro first second hlt heq
  rw [hlt] at heq
  cases heq

theorem Ascending.erase (hascending : Ascending cmp key entries) (k : κ) :
    Ascending cmp key (erase cmp key k entries) :=
  hascending.sublist (erase_sublist k entries)

/-! ## What sorting keeps -/

theorem sift_perm (before : List α) (entry : α) (after : List α) :
    (sift cmp key before entry after).Perm (before.reverse ++ entry :: after) := by
  induction before generalizing after with
  | nil => rfl
  | cons previous before ih =>
      unfold sift
      split
      · refine (ih (previous :: after)).trans ?_
        rw [List.reverse_cons, List.append_assoc, List.singleton_append]
        exact (List.Perm.swap previous entry after).append_left _
      · rfl

theorem sortFrom_perm (sorted rest : List α) :
    (sortFrom cmp key sorted rest).Perm (sorted ++ rest) := by
  induction rest generalizing sorted with
  | nil => rw [List.append_nil]; rfl
  | cons entry rest ih =>
      refine (ih _).trans ?_
      have hsifted :
          (sift cmp key sorted.reverse entry [] ++ rest).Perm
            (sorted.reverse.reverse ++ [entry] ++ rest) :=
        (sift_perm sorted.reverse entry []).append_right rest
      rwa [List.reverse_reverse, List.append_assoc, List.singleton_append] at hsifted

theorem sort_perm (entries : List α) : (sort cmp key entries).Perm entries :=
  sortFrom_perm [] entries

section Order

variable [Std.TransCmp cmp]

theorem Distinct.eq_of_mem (hdistinct : Distinct cmp key entries) (ha : a ∈ entries)
    (hentry : entry ∈ entries) (hsame : cmp (key a) (key entry) = .eq) : a = entry := by
  induction entries with
  | nil => cases ha
  | cons first rest ih =>
      obtain ⟨hfirst, hrest⟩ := List.pairwise_cons.mp hdistinct
      rcases List.mem_cons.mp ha with heq | ha
      · rcases List.mem_cons.mp hentry with hfirstEq | hentry
        · rw [heq, hfirstEq]
        · rw [heq] at hsame
          exact absurd hsame (hfirst entry hentry)
      · rcases List.mem_cons.mp hentry with hfirstEq | hentry
        · rw [hfirstEq] at hsame
          exact absurd (Std.OrientedCmp.eq_symm hsame) (hfirst a ha)
        · exact ih hrest ha hentry

/-- A list without two entries of one key is a map. -/
theorem Distinct.find_eq_some_iff (hdistinct : Distinct cmp key entries) :
    find cmp key k entries = some a ↔ a ∈ entries ∧ cmp (key a) k = .eq := by
  constructor
  · intro hfind
    exact mem_of_find hfind
  · intro hmem
    cases hfind : find cmp key k entries with
    | none => exact absurd hmem.2 (find_eq_none_iff.mp hfind a hmem.1)
    | some found =>
        obtain ⟨hfound, hsame⟩ := mem_of_find hfind
        have hkeys : cmp (key found) (key a) = .eq :=
          Std.TransCmp.eq_trans hsame (Std.OrientedCmp.eq_symm hmem.2)
        rw [hdistinct.eq_of_mem hfound hmem.1 hkeys]

theorem Distinct.perm (hdistinct : Distinct cmp key entries) (hperm : entries.Perm other) :
    Distinct cmp key other :=
  hperm.pairwise hdistinct fun hne heq => hne (Std.OrientedCmp.eq_symm heq)

/-- The order of the entries does not matter to the map. -/
theorem Distinct.find_perm (hdistinct : Distinct cmp key entries) (hperm : entries.Perm other)
    (k : κ) : find cmp key k other = find cmp key k entries := by
  apply Option.ext
  intro a
  rw [hdistinct.find_eq_some_iff, (hdistinct.perm hperm).find_eq_some_iff, hperm.mem_iff]

/-- Entries of one key have the same value in the map. -/
theorem find_congr {k' : κ} (hsame : cmp k k' = .eq) :
    find cmp key k entries = find cmp key k' entries := by
  have hpredicate : (fun entry => cmp (key entry) k == .eq) =
      fun entry => cmp (key entry) k' == .eq := by
    funext entry
    rw [Std.TransCmp.congr_right hsame]
  rw [find, find, hpredicate]

/-! ## Updates -/

/-- An entry in the place of another one of its key. -/
theorem Distinct.replace (hdistinct : Distinct cmp key (before ++ a :: after))
    (hsame : cmp (key a) (key entry) = .eq) : Distinct cmp key (before ++ entry :: after) := by
  obtain ⟨hbefore, hafter, hcross⟩ := List.pairwise_append.mp hdistinct
  obtain ⟨hfirst, hrest⟩ := List.pairwise_cons.mp hafter
  refine List.pairwise_append.mpr ⟨hbefore, List.pairwise_cons.mpr ⟨?_, hrest⟩, ?_⟩
  · intro later hlater
    rw [← Std.TransCmp.congr_left hsame]
    exact hfirst later hlater
  · intro earlier hearlier later hlater
    rcases List.mem_cons.mp hlater with rfl | hlater
    · rw [← Std.TransCmp.congr_right hsame]
      exact hcross earlier hearlier a List.mem_cons_self
    · exact hcross earlier hearlier later (List.mem_cons_of_mem _ hlater)

theorem Distinct.find_replace (hdistinct : Distinct cmp key (before ++ a :: after))
    (hsame : cmp (key a) (key entry) = .eq) (k : κ) :
    find cmp key k (before ++ entry :: after) =
      if cmp (key entry) k = .eq then some entry
      else find cmp key k (before ++ a :: after) := by
  have hreplaced := hdistinct.replace hsame
  by_cases hkey : cmp (key entry) k = .eq
  · rw [if_pos hkey, hreplaced.find_eq_some_iff]
    exact ⟨by simp, hkey⟩
  · rw [if_neg hkey]
    have hold : cmp (key a) k ≠ .eq := by rwa [Std.TransCmp.congr_left hsame]
    apply Option.ext
    intro found
    rw [hreplaced.find_eq_some_iff, hdistinct.find_eq_some_iff]
    simp only [List.mem_append, List.mem_cons]
    constructor
    · intro hfound
      obtain ⟨hbefore | rfl | hafter, hfound⟩ := hfound
      · exact ⟨.inl hbefore, hfound⟩
      · exact absurd hfound hkey
      · exact ⟨.inr (.inr hafter), hfound⟩
    · intro hfound
      obtain ⟨hbefore | rfl | hafter, hfound⟩ := hfound
      · exact ⟨.inl hbefore, hfound⟩
      · exact absurd hfound hold
      · exact ⟨.inr (.inr hafter), hfound⟩

theorem find_append (hnew : find cmp key (key entry) entries = none) (k : κ) :
    find cmp key k (entries ++ [entry]) =
      if cmp (key entry) k = .eq then some entry else find cmp key k entries := by
  by_cases hkey : cmp (key entry) k = .eq
  · rw [find_congr hkey] at hnew
    rw [find] at hnew ⊢
    rw [List.find?_append, hnew, if_pos hkey]
    simp [hkey]
  · rw [find, List.find?_append, if_neg hkey]
    simp [hkey, find]

theorem Distinct.find_remove (hdistinct : Distinct cmp key (before ++ a :: after)) (k : κ) :
    find cmp key k (before ++ after) =
      if cmp (key a) k = .eq then none else find cmp key k (before ++ a :: after) := by
  have hremoved : Distinct cmp key (before ++ after) :=
    hdistinct.sublist (List.Sublist.append_left (List.sublist_cons_self a after) before)
  by_cases hkey : cmp (key a) k = .eq
  · rw [if_pos hkey, find_eq_none_iff]
    intro found hfound heq
    have hsame : cmp (key a) (key found) = .eq :=
      Std.TransCmp.eq_trans hkey (Std.OrientedCmp.eq_symm heq)
    obtain ⟨-, hafter, hcross⟩ := List.pairwise_append.mp hdistinct
    rcases List.mem_append.mp hfound with hbefore | hafterMem
    · exact hcross found hbefore a List.mem_cons_self (Std.OrientedCmp.eq_symm hsame)
    · exact (List.pairwise_cons.mp hafter).1 found hafterMem hsame
  · rw [if_neg hkey]
    apply Option.ext
    intro found
    rw [hremoved.find_eq_some_iff, hdistinct.find_eq_some_iff]
    simp only [List.mem_append, List.mem_cons]
    constructor
    · intro hfound
      exact ⟨hfound.1.imp_right .inr, hfound.2⟩
    · intro hfound
      obtain ⟨hbefore | rfl | hafter, hfound⟩ := hfound
      · exact ⟨.inl hbefore, hfound⟩
      · exact absurd hfound hkey
      · exact ⟨.inr hafter, hfound⟩

theorem Distinct.put (hdistinct : Distinct cmp key entries) (entry : α) :
    Distinct cmp key (put cmp key entry entries) := by
  rcases put_cases cmp key entry entries with
    ⟨hnew, hput⟩ | ⟨before, a, after, rfl, hsame, hput⟩
  · rw [hput]
    exact hdistinct.append hnew
  · rw [hput]
    exact hdistinct.replace hsame

theorem Distinct.find_put (hdistinct : Distinct cmp key entries) (entry : α) (k : κ) :
    find cmp key k (KeyedList.put cmp key entry entries) =
      if cmp (key entry) k = .eq then some entry else find cmp key k entries := by
  rcases put_cases cmp key entry entries with
    ⟨hnew, hput⟩ | ⟨before, a, after, rfl, hsame, hput⟩
  · rw [hput, find_append hnew]
  · rw [hput, hdistinct.find_replace hsame]

theorem Distinct.find_erase (hdistinct : Distinct cmp key entries) (removed k : κ) :
    find cmp key k (KeyedList.erase cmp key removed entries) =
      if cmp removed k = .eq then none else find cmp key k entries := by
  rcases erase_cases cmp key removed entries with
    ⟨hnone, herase⟩ | ⟨before, a, after, rfl, hsame, herase⟩
  · rw [herase]
    split
    next hkey => rw [← find_congr hkey, hnone]
    next => rfl
  · rw [herase, hdistinct.find_remove, Std.TransCmp.congr_left hsame]

/-! ## Sorting -/

/-- What was passed is greater than the entry, and what is not passed is not. -/
theorem sift_sorted (hsorted : Sorted cmp key (before.reverse ++ after))
    (hafter : ∀ later ∈ after, cmp (key entry) (key later) = .lt) :
    Sorted cmp key (sift cmp key before entry after) := by
  induction before generalizing after with
  | nil =>
      refine List.pairwise_cons.mpr ⟨fun later hlater => ?_, hsorted⟩
      rw [hafter later hlater]
      decide
  | cons previous before ih =>
      unfold sift
      split
      next hgreater =>
        rw [List.reverse_cons, List.append_assoc, List.singleton_append] at hsorted
        refine ih hsorted (List.forall_mem_cons.mpr ⟨?_, hafter⟩)
        exact Std.OrientedCmp.lt_of_gt hgreater
      next hplaced =>
        obtain ⟨hbefore, hrest, hcross⟩ := List.pairwise_append.mp hsorted
        refine List.pairwise_append.mpr ⟨hbefore, List.pairwise_cons.mpr ⟨?_, hrest⟩, ?_⟩
        · intro later hlater
          rw [hafter later hlater]
          decide
        · intro earlier hearlier later hlater
          rcases List.mem_cons.mp hlater with rfl | hlater
          · -- the entries before the previous one are not greater than it
            rw [List.reverse_cons] at hbefore hearlier
            have hle : ∀ {left right : κ}, cmp left right ≠ .gt ↔ (cmp left right).isLE = true := by
              intro left right
              cases cmp left right <;> decide
            rcases List.mem_append.mp hearlier with hearlier | hearlier
            · have hprevious := (List.pairwise_append.mp hbefore).2.2 earlier hearlier previous
                List.mem_cons_self
              exact hle.mpr (Std.TransCmp.isLE_trans (hle.mp hprevious) (hle.mp hplaced))
            · rw [List.mem_singleton.mp hearlier]
              exact hplaced
          · exact hcross earlier hearlier later hlater

theorem sortFrom_sorted {sorted : List α} (hsorted : Sorted cmp key sorted) (rest : List α) :
    Sorted cmp key (sortFrom cmp key sorted rest) := by
  induction rest generalizing sorted with
  | nil => exact hsorted
  | cons entry rest ih =>
      refine ih (sift_sorted ?_ (by simp))
      rwa [List.reverse_reverse, List.append_nil]

/-- Sorting makes a map ascending. -/
theorem Distinct.ascending_sort (hdistinct : Distinct cmp key entries) :
    Ascending cmp key (sort cmp key entries) := by
  have hsorted : Sorted cmp key (sort cmp key entries) := sortFrom_sorted List.Pairwise.nil entries
  have hkept : Distinct cmp key (sort cmp key entries) :=
    hdistinct.perm (sort_perm entries).symm
  refine (hsorted.and hkept).imp ?_
  intro first second hboth
  cases hcmp : cmp (key first) (key second) with
  | lt => rfl
  | eq => exact absurd hcmp hboth.2
  | gt => exact absurd hcmp hboth.1

theorem Distinct.find_sort (hdistinct : Distinct cmp key entries) (k : κ) :
    find cmp key k (sort cmp key entries) = find cmp key k entries :=
  hdistinct.find_perm (sort_perm entries).symm k

theorem Ascending.mem_iff (hascending : Ascending cmp key entries) :
    a ∈ entries ↔ find cmp key (key a) entries = some a := by
  rw [hascending.distinct.find_eq_some_iff]
  exact (and_iff_left Std.ReflCmp.compare_self).symm

theorem Ascending.nodup (hascending : Ascending cmp key entries) : entries.Nodup := by
  refine hascending.imp ?_
  intro first second hlt heq
  have hself : cmp (key second) (key second) = .eq := Std.ReflCmp.compare_self
  rw [heq, hself] at hlt
  cases hlt

/-- An ascending list is determined by its map. -/
theorem Ascending.ext (hentries : Ascending cmp key entries) (hother : Ascending cmp key other)
    (hsame : ∀ k, find cmp key k entries = find cmp key k other) : entries = other := by
  have hperm : entries.Perm other := by
    rw [List.perm_ext_iff_of_nodup hentries.nodup hother.nodup]
    intro entry
    rw [hentries.mem_iff, hother.mem_iff, hsame]
  refine hperm.eq_of_pairwise ?_ hentries hother
  intro first second _ _ hlt hgt
  have hswap : cmp (key first) (key second) = .gt := Std.OrientedCmp.gt_of_lt hgt
  rw [hlt] at hswap
  cases hswap

end Order

end KeyedList
