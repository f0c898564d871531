import Mathlib.Data.Set.Card
import Rpackit.Library.KeyedList
import Rpackit.Windows.CommandLine

/-! # The environment of the launcher process

The explicit environment block of a launched process. Two names are the same variable if
`CompareStringOrdinal` says so when it ignores case. The entries are kept in its order, and
are written as `name=value` strings, each ended by a NUL, with one more NUL at the end.
-/

namespace Rpackit.Windows

open Fallible

/-- `CompareStringOrdinal` ignoring case; there is no result where the call fails. -/
abbrev CompareStringOrdinal := OsString → OsString → Option Ordering

def equalsSign : UInt16 := 0x3D

def i32Max : Nat := 2147483647
def usizeMax : Nat := 18446744073709551615

/-! ## Checks -/

def environmentName (value : OsString) : Except LaunchError OsString := do
  rejectIf (value.isEmpty || value.contains 0 || value.contains equalsSign ||
    decide (i32Max < value.length)) .invalidEnvironmentName
  return value

def environmentValue (value : OsString) : Except LaunchError OsString := do
  rejectIf (value.contains 0) .invalidEnvironmentValue
  return value

/-! ## The entries -/

section Entries

variable (ordinal : CompareStringOrdinal)

def compareEnvironmentNames (left right : OsString) : Except LaunchError Ordering :=
  okOr (ordinal left right) .environmentComparisonFailed

/-- The loop of `find_name`, from an index on. -/
def findNameFrom (name : OsString) : Nat → List EnvironmentEntry → Except LaunchError (Option Nat)
  | _, [] => return none
  | index, entry :: rest => do
      let ordering ← compareEnvironmentNames ordinal entry.name name
      if ordering = .eq then return some index else findNameFrom name (index + 1) rest

def findName (entries : List EnvironmentEntry) (name : OsString) :
    Except LaunchError (Option Nat) := findNameFrom ordinal name 0 entries

/-- The inner loop of `sort_entries`: the entry at the cursor is swapped with the one
before it while that one is greater. What is before the cursor is given backwards. -/
def siftEntry : List EnvironmentEntry → EnvironmentEntry → List EnvironmentEntry →
    Except LaunchError Unit × List EnvironmentEntry
  | [], entry, after => (.ok (), entry :: after)
  | previous :: before, entry, after =>
      match compareEnvironmentNames ordinal previous.name entry.name with
      | .error error => (.error error, (previous :: before).reverse ++ entry :: after)
      | .ok .gt => siftEntry before entry (previous :: after)
      | .ok _ => (.ok (), (previous :: before).reverse ++ entry :: after)

/-- The outer loop of `sort_entries`, with what is in order already and the rest. -/
def sortEntriesFrom : List EnvironmentEntry → List EnvironmentEntry →
    Except LaunchError Unit × List EnvironmentEntry
  | sorted, [] => (.ok (), sorted)
  | sorted, entry :: rest =>
      match siftEntry ordinal sorted.reverse entry [] with
      | (.error error, sifted) => (.error error, sifted ++ rest)
      | (.ok (), sifted) => sortEntriesFrom sifted rest

/-- The first index is not sifted. -/
def sortEntries (entries : List EnvironmentEntry) :
    Except LaunchError Unit × List EnvironmentEntry :=
  sortEntriesFrom ordinal (entries.take 1) (entries.drop 1)

end Entries

def assign (entries : List EnvironmentEntry) (index : Option Nat) (entry : EnvironmentEntry) :
    List EnvironmentEntry :=
  match index with
  | some index => entries.set index entry
  | none => entries ++ [entry]

namespace LaunchEnvironment

def empty : LaunchEnvironment := ⟨[]⟩

def len (environment : LaunchEnvironment) : Nat := environment.entries.length

/-- What `set` does before it sorts: the checks and the assignment. -/
def assigned (ordinal : CompareStringOrdinal) (environment : LaunchEnvironment)
    (name value : OsString) : Except LaunchError (List EnvironmentEntry) := do
  let name ← environmentName name
  let value ← environmentValue value
  let index ← findName ordinal environment.entries name
  return assign environment.entries index ⟨name, value⟩

def set (ordinal : CompareStringOrdinal) (environment : LaunchEnvironment)
    (name value : OsString) : Except LaunchError Unit × LaunchEnvironment :=
  match environment.assigned ordinal name value with
  | .error error => (.error error, environment)
  | .ok entries =>
      let sorted := sortEntries ordinal entries
      (sorted.1, ⟨sorted.2⟩)

/-- The checks of `remove` and the index of the variable. -/
def located (ordinal : CompareStringOrdinal) (environment : LaunchEnvironment)
    (name : OsString) : Except LaunchError (Option Nat) := do
  let name ← environmentName name
  findName ordinal environment.entries name

def remove (ordinal : CompareStringOrdinal) (environment : LaunchEnvironment)
    (name : OsString) : Except LaunchError Bool × LaunchEnvironment :=
  match environment.located ordinal name with
  | .error error => (.error error, environment)
  | .ok none => (.ok false, environment)
  | .ok (some index) => (.ok true, ⟨environment.entries.eraseIdx index⟩)

end LaunchEnvironment

/-! ## The block -/

def checkedAdd (left right : Nat) : Option Nat :=
  if left + right ≤ usizeMax then some (left + right) else none

def entryTotal (total : Nat) (entry : EnvironmentEntry) : Option Nat := do
  let named ← checkedAdd total entry.name.length
  let separated ← checkedAdd named 1
  let valued ← checkedAdd separated entry.value.length
  checkedAdd valued 1

def entryCapacity (total : Nat) (entry : EnvironmentEntry) : Except LaunchError Nat :=
  okOr (entryTotal total entry) .environmentBlockTooLarge

def writeEntry (block : OsString) (entry : EnvironmentEntry) : OsString :=
  block ++ entry.name ++ [equalsSign] ++ entry.value ++ [0]

def LaunchEnvironment.encodedBlock (environment : LaunchEnvironment) :
    Except LaunchError OsString := do
  let _ ← environment.entries.foldlM entryCapacity 1
  let block := environment.entries.foldl writeEntry [] ++ [0]
  return if environment.entries.isEmpty then block ++ [0] else block

/-- What the child reads of a block: the strings up to the empty one, each with its name
before the first equals sign. -/
def readEntry (text : OsString) : EnvironmentEntry where
  name := text.takeWhile (· != equalsSign)
  value := (text.dropWhile (· != equalsSign)).tail

def readBlock (block : OsString) : List EnvironmentEntry :=
  ((block.splitOn 0).takeWhile (!·.isEmpty)).map readEntry

/-! ## The checks -/

def ValidName (name : OsString) : Prop :=
  name ≠ [] ∧ NulFree name ∧ equalsSign ∉ name ∧ name.length ≤ i32Max

instance (value : OsString) : Decidable (NulFree value) := inferInstanceAs (Decidable (0 ∉ value))

instance (name : OsString) : Decidable (ValidName name) :=
  inferInstanceAs (Decidable (name ≠ [] ∧ NulFree name ∧ equalsSign ∉ name ∧
    name.length ≤ i32Max))

def EnvironmentEntry.Valid (entry : EnvironmentEntry) : Prop :=
  ValidName entry.name ∧ NulFree entry.value

theorem environmentName_eq (name : OsString) :
    environmentName name =
      if ValidName name then .ok name else .error .invalidEnvironmentName := by
  unfold environmentName
  by_cases hvalid : ValidName name
  · have haccepted : (name.isEmpty || name.contains 0 || name.contains equalsSign ||
        decide (i32Max < name.length)) = false := by
      obtain ⟨hne, hnul, hequals, hshort⟩ := hvalid
      simp [hne, show 0 ∉ name from hnul, hequals, Nat.not_lt.mpr hshort]
    rw [haccepted, if_pos hvalid]
    rfl
  · have hrejected : (name.isEmpty || name.contains 0 || name.contains equalsSign ||
        decide (i32Max < name.length)) = true := by
      by_contra haccepted
      simp only [Bool.or_eq_true, List.isEmpty_iff, List.contains_iff_mem, decide_eq_true_eq,
        not_or, Nat.not_lt, and_assoc] at haccepted
      exact hvalid haccepted
    rw [hrejected, if_neg hvalid]
    rfl

theorem environmentValue_eq (value : OsString) :
    environmentValue value =
      if NulFree value then .ok value else .error .invalidEnvironmentValue := by
  unfold environmentValue
  by_cases hfree : NulFree value
  · have haccepted : value.contains 0 = false := by simp [show 0 ∉ value from hfree]
    rw [haccepted, if_pos hfree]
    rfl
  · have hrejected : value.contains 0 = true := List.contains_iff_mem.mpr (not_not.mp hfree)
    rw [hrejected, if_neg hfree]
    rfl

/-! ## Under a comparison that orders all names -/

/-- The comparison of names never fails, and it is a total preorder. -/
structure IsOrdinal (ordinal : CompareStringOrdinal) (cmp : OsString → OsString → Ordering) :
    Prop where
  total : ∀ left right, ordinal left right = some (cmp left right)
  ordered : Std.TransCmp cmp

section Ordinal

variable {ordinal : CompareStringOrdinal} {cmp : OsString → OsString → Ordering}

namespace IsOrdinal

theorem compareEnvironmentNames_eq (hordinal : IsOrdinal ordinal cmp) (left right : OsString) :
    compareEnvironmentNames ordinal left right = .ok (cmp left right) := by
  rw [compareEnvironmentNames, hordinal.total]
  rfl

theorem findNameFrom_eq (hordinal : IsOrdinal ordinal cmp) (name : OsString) (index : Nat)
    (entries : List EnvironmentEntry) :
    findNameFrom ordinal name index entries =
      .ok ((entries.findIdx? fun entry => cmp entry.name name == .eq).map (· + index)) := by
  induction entries generalizing index with
  | nil => rfl
  | cons entry rest ih =>
      rw [findNameFrom, hordinal.compareEnvironmentNames_eq, List.findIdx?_cons]
      change (if cmp entry.name name = .eq then _ else _) = _
      by_cases hsame : cmp entry.name name = .eq
      · simp [hsame, pure, Except.pure]
      · rw [if_neg hsame, ih, if_neg (by simpa using hsame), Option.map_map]
        congr 2
        funext found
        simp only [Function.comp_apply]
        omega

theorem findName_eq (hordinal : IsOrdinal ordinal cmp) (entries : List EnvironmentEntry)
    (name : OsString) :
    findName ordinal entries name =
      .ok (KeyedList.position cmp EnvironmentEntry.name name entries) := by
  rw [findName, hordinal.findNameFrom_eq]
  simp [KeyedList.position]

theorem siftEntry_eq (hordinal : IsOrdinal ordinal cmp) (before : List EnvironmentEntry)
    (entry : EnvironmentEntry) (after : List EnvironmentEntry) :
    siftEntry ordinal before entry after =
      (.ok (), KeyedList.sift cmp EnvironmentEntry.name before entry after) := by
  induction before generalizing after with
  | nil => rfl
  | cons previous before ih =>
      rw [siftEntry, KeyedList.sift, hordinal.compareEnvironmentNames_eq]
      cases cmp previous.name entry.name with
      | lt => rfl
      | eq => rfl
      | gt => exact ih (previous :: after)

theorem sortEntriesFrom_eq (hordinal : IsOrdinal ordinal cmp)
    (sorted rest : List EnvironmentEntry) :
    sortEntriesFrom ordinal sorted rest =
      (.ok (), KeyedList.sortFrom cmp EnvironmentEntry.name sorted rest) := by
  induction rest generalizing sorted with
  | nil => rfl
  | cons entry rest ih =>
      rw [sortEntriesFrom, hordinal.siftEntry_eq]
      exact ih _

theorem sortEntries_eq (hordinal : IsOrdinal ordinal cmp) (entries : List EnvironmentEntry) :
    sortEntries ordinal entries = (.ok (), KeyedList.sort cmp EnvironmentEntry.name entries) := by
  rw [sortEntries, hordinal.sortEntriesFrom_eq]
  cases entries with
  | nil => rfl
  | cons first rest => rfl

end IsOrdinal

namespace LaunchEnvironment

variable {environment : LaunchEnvironment} {name value : OsString}

/-! ### Single calls -/

theorem set_valid (hordinal : IsOrdinal ordinal cmp) (hname : ValidName name)
    (hvalue : NulFree value) :
    environment.set ordinal name value =
      (.ok (), ⟨KeyedList.sort cmp EnvironmentEntry.name
        (KeyedList.put cmp EnvironmentEntry.name ⟨name, value⟩ environment.entries)⟩) := by
  have hassigned : environment.assigned ordinal name value =
      .ok (KeyedList.put cmp EnvironmentEntry.name ⟨name, value⟩ environment.entries) := by
    rw [assigned, environmentName_eq, if_pos hname, environmentValue_eq, if_pos hvalue]
    change (findName ordinal environment.entries name >>= fun index => _) = _
    rw [hordinal.findName_eq]
    rfl
  rw [set, hassigned]
  change ((sortEntries ordinal _).1, (⟨(sortEntries ordinal _).2⟩ : LaunchEnvironment)) = _
  rw [hordinal.sortEntries_eq]

/-- A call that is refused changes nothing, whatever the comparison does. -/
theorem set_invalid (hinvalid : ¬(ValidName name ∧ NulFree value)) :
    environment.set ordinal name value =
      (.error (if ValidName name then .invalidEnvironmentValue else .invalidEnvironmentName),
        environment) := by
  have hassigned : environment.assigned ordinal name value =
      .error (if ValidName name then .invalidEnvironmentValue else .invalidEnvironmentName) := by
    rw [assigned, environmentName_eq, environmentValue_eq]
    by_cases hname : ValidName name
    · rw [if_pos hname, if_pos hname, if_neg fun hvalue => hinvalid ⟨hname, hvalue⟩]
      rfl
    · rw [if_neg hname, if_neg hname]
      rfl
  rw [set, hassigned]

theorem remove_valid (hordinal : IsOrdinal ordinal cmp) (hname : ValidName name) :
    environment.remove ordinal name =
      (.ok (KeyedList.find cmp EnvironmentEntry.name name environment.entries).isSome,
        ⟨KeyedList.erase cmp EnvironmentEntry.name name environment.entries⟩) := by
  have hlocated : environment.located ordinal name =
      .ok (KeyedList.position cmp EnvironmentEntry.name name environment.entries) := by
    rw [located, environmentName_eq, if_pos hname]
    exact hordinal.findName_eq environment.entries name
  rw [remove, hlocated, KeyedList.erase]
  cases hposition : KeyedList.position cmp EnvironmentEntry.name name environment.entries with
  | none =>
      rw [KeyedList.position_eq_none_iff.mp hposition]
      rfl
  | some index =>
      cases hfind : KeyedList.find cmp EnvironmentEntry.name name environment.entries with
      | none =>
          rw [KeyedList.position_eq_none_iff.mpr hfind] at hposition
          cases hposition
      | some entry => rfl

theorem remove_invalid (hinvalid : ¬ValidName name) :
    environment.remove ordinal name = (.error .invalidEnvironmentName, environment) := by
  have hlocated : environment.located ordinal name = .error .invalidEnvironmentName := by
    rw [located, environmentName_eq, if_neg hinvalid]
    rfl
  rw [remove, hlocated]

end LaunchEnvironment

end Ordinal

/-! ## Reading the block back -/

/-- Two checked additions are one. -/
theorem checkedAdd_bind {α : Type} (total left right : Nat) (f : Nat → Option α) :
    ((checkedAdd total left).bind fun sum => (checkedAdd sum right).bind f) =
      (checkedAdd total (left + right)).bind f := by
  unfold checkedAdd
  by_cases hleft : total + left ≤ usizeMax
  · rw [if_pos hleft, Option.bind_some, Nat.add_assoc]
  · rw [if_neg hleft, if_neg (by omega)]
    rfl

def EnvironmentEntry.capacity (entry : EnvironmentEntry) : Nat :=
  entry.name.length + 1 + entry.value.length + 1

theorem entryTotal_eq (total : Nat) (entry : EnvironmentEntry) :
    entryTotal total entry = checkedAdd total entry.capacity := by
  have hlast : entryTotal total entry =
      (checkedAdd total entry.name.length).bind fun named => (checkedAdd named 1).bind
        fun separated => (checkedAdd separated entry.value.length).bind
          fun valued => (checkedAdd valued 1).bind some := by
    simp only [Option.bind_fun_some]
    rfl
  rw [hlast, checkedAdd_bind, checkedAdd_bind, checkedAdd_bind, Option.bind_fun_some]
  rfl

theorem entryCapacity_eq (total : Nat) (entry : EnvironmentEntry) :
    entryCapacity total entry =
      if total + entry.capacity ≤ usizeMax then .ok (total + entry.capacity)
      else .error .environmentBlockTooLarge := by
  rw [entryCapacity, entryTotal_eq, checkedAdd]
  split
  · rfl
  · rfl

theorem foldlM_entryCapacity {total : Nat} (htotal : total ≤ usizeMax)
    (entries : List EnvironmentEntry) :
    entries.foldlM entryCapacity total =
      if total + (entries.map EnvironmentEntry.capacity).sum ≤ usizeMax then
        .ok (total + (entries.map EnvironmentEntry.capacity).sum)
      else .error .environmentBlockTooLarge := by
  induction entries generalizing total with
  | nil =>
      rw [List.map_nil, List.sum_nil, Nat.add_zero, if_pos htotal]
      rfl
  | cons entry rest ih =>
      rw [List.foldlM_cons, entryCapacity_eq, List.map_cons, List.sum_cons, ← Nat.add_assoc]
      by_cases hfits : total + entry.capacity ≤ usizeMax
      · rw [if_pos hfits]
        exact ih hfits
      · rw [if_neg hfits, if_neg (by omega)]
        rfl

theorem foldl_writeEntry (block : OsString) (entries : List EnvironmentEntry) :
    entries.foldl writeEntry block =
      block ++ entries.flatMap fun entry => entry.name ++ equalsSign :: entry.value ++ [0] := by
  induction entries generalizing block with
  | nil => simp
  | cons entry rest ih =>
      rw [List.foldl_cons, ih, List.flatMap_cons, writeEntry]
      simp

/-- The block of some entries: a NUL after each and at the end, two for no entries. -/
def blockText (entries : List EnvironmentEntry) : OsString :=
  if entries.isEmpty then [0, 0]
  else (entries.flatMap fun entry => entry.name ++ equalsSign :: entry.value ++ [0]) ++ [0]

theorem LaunchEnvironment.encodedBlock_eq (environment : LaunchEnvironment) :
    environment.encodedBlock =
      if 1 + (environment.entries.map EnvironmentEntry.capacity).sum ≤ usizeMax then
        .ok (blockText environment.entries)
      else .error .environmentBlockTooLarge := by
  rw [encodedBlock, foldlM_entryCapacity (by decide), foldl_writeEntry]
  split
  · change Except.ok _ = Except.ok _
    congr 1
    unfold blockText
    cases environment.entries with
    | nil => rfl
    | cons entry rest => rfl
  · rfl

theorem readEntry_text {entry : EnvironmentEntry} (hvalid : entry.Valid) :
    readEntry (entry.name ++ equalsSign :: entry.value) = entry := by
  have hname : ∀ c ∈ entry.name, (c != equalsSign) = true := by
    intro c hc
    rw [bne_iff_ne]
    intro heq
    exact hvalid.1.2.2.1 (heq ▸ hc)
  have hends : ∀ c, (equalsSign :: entry.value).head? = some c → (c != equalsSign) = false := by
    simp
  obtain ⟨htake, hdrop⟩ := CommandLineRules.takeWhile_append_end hname hends
  rw [readEntry, htake, hdrop]
  rfl

theorem splitOn_entry {entry : EnvironmentEntry} (hvalid : entry.Valid) (rest : OsString) :
    (entry.name ++ equalsSign :: entry.value ++ [0] ++ rest).splitOn 0 =
      (entry.name ++ equalsSign :: entry.value) :: rest.splitOn 0 := by
  have hfree : 0 ∉ entry.name ++ equalsSign :: entry.value := by
    simp only [List.mem_append, List.mem_cons, not_or]
    exact ⟨hvalid.1.2.1, by decide, hvalid.2⟩
  rw [List.append_assoc, List.singleton_append, List.splitOn_append_cons_self_of_not_mem hfree]

/-- What was written is read back. -/
theorem readBlock_blockText {entries : List EnvironmentEntry}
    (hvalid : ∀ entry ∈ entries, entry.Valid) : readBlock (blockText entries) = entries := by
  have hread : readBlock ((entries.flatMap fun entry =>
      entry.name ++ equalsSign :: entry.value ++ [0]) ++ [0]) = entries := by
    induction entries with
    | nil => rfl
    | cons entry rest ih =>
        obtain ⟨hentry, hrest⟩ := List.forall_mem_cons.mp hvalid
        rw [List.flatMap_cons, List.append_assoc, readBlock, splitOn_entry hentry,
          List.takeWhile_cons_of_pos (by simp), List.map_cons, readEntry_text hentry]
        exact congrArg _ (ih hrest)
  unfold blockText
  cases entries with
  | nil => rfl
  | cons entry rest => exact hread

/-! ## A run of calls -/

/-- What is set under a name: the spelling and the value of the last `set`, unless a
`remove` came after it. -/
abbrev Variables := OsString → Option EnvironmentEntry

inductive EnvironmentCall where
  | set (name value : OsString)
  | remove (name : OsString)
  deriving DecidableEq, Repr

namespace EnvironmentCall

def Accepted : EnvironmentCall → Prop
  | .set name value => ValidName name ∧ NulFree value
  | .remove name => ValidName name

instance (call : EnvironmentCall) : Decidable call.Accepted :=
  match call with
  | .set name value => inferInstanceAs (Decidable (ValidName name ∧ NulFree value))
  | .remove name => inferInstanceAs (Decidable (ValidName name))

def effect (cmp : OsString → OsString → Ordering) (held : Variables) :
    EnvironmentCall → Variables
  | .set name value => fun key => if cmp name key = .eq then some ⟨name, value⟩ else held key
  | .remove name => fun key => if cmp name key = .eq then none else held key

/-- A call that is refused has no effect. -/
def apply (cmp : OsString → OsString → Ordering) (held : Variables)
    (call : EnvironmentCall) : Variables :=
  if call.Accepted then call.effect cmp held else held

def held (cmp : OsString → OsString → Ordering) (calls : List EnvironmentCall) : Variables :=
  calls.foldl (apply cmp) fun _ => none

end EnvironmentCall

namespace LaunchEnvironment

def call (ordinal : CompareStringOrdinal) (environment : LaunchEnvironment) :
    EnvironmentCall → LaunchEnvironment
  | .set name value => (environment.set ordinal name value).2
  | .remove name => (environment.remove ordinal name).2

def run (ordinal : CompareStringOrdinal) (calls : List EnvironmentCall) : LaunchEnvironment :=
  calls.foldl (call ordinal) empty

def lookup (cmp : OsString → OsString → Ordering) (environment : LaunchEnvironment) : Variables :=
  fun name => KeyedList.find cmp EnvironmentEntry.name name environment.entries

/-- The entries are in order, and they are the variables that are set. -/
structure Represents (cmp : OsString → OsString → Ordering) (environment : LaunchEnvironment)
    (held : Variables) : Prop where
  ascending : KeyedList.Ascending cmp EnvironmentEntry.name environment.entries
  valid : ∀ entry ∈ environment.entries, entry.Valid
  lookup_eq : environment.lookup cmp = held

section Run

variable {ordinal : CompareStringOrdinal} {cmp : OsString → OsString → Ordering}
  {environment : LaunchEnvironment} {held : Variables}

theorem run_append (calls later : List EnvironmentCall) :
    run ordinal (calls ++ later) = later.foldl (call ordinal) (run ordinal calls) :=
  List.foldl_append

theorem represents_empty : Represents cmp empty fun _ => none :=
  ⟨List.Pairwise.nil, by simp [empty], rfl⟩

namespace Represents

theorem set (hrep : Represents cmp environment held) (hordinal : IsOrdinal ordinal cmp)
    {name value : OsString} (hname : ValidName name) (hvalue : NulFree value) :
    Represents cmp (environment.set ordinal name value).2
      (EnvironmentCall.effect cmp held (.set name value)) := by
  have := hordinal.ordered
  have hdistinct := hrep.ascending.distinct
  rw [set_valid hordinal hname hvalue]
  refine ⟨(hdistinct.put _).ascending_sort, ?_, ?_⟩
  · intro entry hentry
    rcases KeyedList.mem_put ((KeyedList.sort_perm _).mem_iff.mp hentry) with rfl | hentry
    · exact ⟨hname, hvalue⟩
    · exact hrep.valid entry hentry
  · funext key
    rw [lookup, (hdistinct.put _).find_sort, hdistinct.find_put, ← hrep.lookup_eq]
    rfl

theorem remove (hrep : Represents cmp environment held) (hordinal : IsOrdinal ordinal cmp)
    {name : OsString} (hname : ValidName name) :
    Represents cmp (environment.remove ordinal name).2
      (EnvironmentCall.effect cmp held (.remove name)) := by
  have := hordinal.ordered
  rw [remove_valid hordinal hname]
  refine ⟨hrep.ascending.erase name, ?_, ?_⟩
  · intro entry hentry
    exact hrep.valid entry ((KeyedList.erase_sublist name _).mem hentry)
  · funext key
    rw [lookup, hrep.ascending.distinct.find_erase, ← hrep.lookup_eq]
    rfl

/-- One call. -/
theorem call (hrep : Represents cmp environment held) (hordinal : IsOrdinal ordinal cmp)
    (called : EnvironmentCall) :
    Represents cmp (environment.call ordinal called) (called.apply cmp held) := by
  unfold EnvironmentCall.apply
  split
  next haccepted =>
    cases called with
    | set name value => exact hrep.set hordinal haccepted.1 haccepted.2
    | remove name => exact hrep.remove hordinal haccepted
  next hrefused =>
    cases called with
    | set name value =>
        rw [LaunchEnvironment.call, set_invalid hrefused]
        exact hrep
    | remove name =>
        rw [LaunchEnvironment.call, remove_invalid hrefused]
        exact hrep

theorem foldl (hrep : Represents cmp environment held) (hordinal : IsOrdinal ordinal cmp)
    (calls : List EnvironmentCall) :
    Represents cmp (calls.foldl (LaunchEnvironment.call ordinal) environment)
      (calls.foldl (EnvironmentCall.apply cmp) held) := by
  induction calls generalizing environment held with
  | nil => exact hrep
  | cons called rest ih => exact ih (hrep.call hordinal called)

end Represents

/-- The variables are the entries. -/
theorem Represents.mem_iff (hrep : Represents cmp environment held)
    (hordinal : IsOrdinal ordinal cmp) {entry : EnvironmentEntry} :
    entry ∈ environment.entries ↔ ∃ name, held name = some entry := by
  have := hordinal.ordered
  constructor
  · intro hmem
    refine ⟨entry.name, ?_⟩
    rw [← hrep.lookup_eq]
    exact hrep.ascending.mem_iff.mp hmem
  · intro hheld
    obtain ⟨name, hname⟩ := hheld
    rw [← hrep.lookup_eq] at hname
    exact (KeyedList.mem_of_find hname).1

theorem Represents.len_eq (hrep : Represents cmp environment held)
    (hordinal : IsOrdinal ordinal cmp) :
    environment.len = {entry | ∃ name, held name = some entry}.ncard := by
  classical
  have := hordinal.ordered
  have hset : {entry | ∃ name, held name = some entry} =
      (environment.entries.toFinset : Set EnvironmentEntry) := by
    ext entry
    simp [hrep.mem_iff hordinal]
  rw [hset, Set.ncard_coe_finset, List.toFinset_card_of_nodup hrep.ascending.nodup, len]

/-- An environment is determined by its variables. -/
theorem Represents.ext {other : LaunchEnvironment} (hrep : Represents cmp environment held)
    (hother : Represents cmp other held) (hordinal : IsOrdinal ordinal cmp) :
    environment = other := by
  have := hordinal.ordered
  have hentries : environment.entries = other.entries := by
    refine hrep.ascending.ext hother.ascending ?_
    intro name
    exact congrFun (hrep.lookup_eq.trans hother.lookup_eq.symm) name
  cases environment
  cases other
  rw [LaunchEnvironment.mk.injEq]
  exact hentries

/-- However an environment was built up by calls, it is in strict order and is the map of what
was set last, under any spelling; a call that is refused changes nothing; and the block
holds exactly its entries. -/
theorem run_map (hordinal : IsOrdinal ordinal cmp) (calls : List EnvironmentCall) :
    (run ordinal calls).entries.Pairwise
        (fun first second => cmp first.name second.name = .lt) ∧
      (run ordinal calls).lookup cmp = EnvironmentCall.held cmp calls ∧
      (run ordinal calls).len =
        {entry | ∃ name, EnvironmentCall.held cmp calls name = some entry}.ncard ∧
      (∀ name value,
        (ValidName name ∧ NulFree value ∧ ((run ordinal calls).set ordinal name value).1 = .ok ()) ∨
          (¬(ValidName name ∧ NulFree value) ∧ ∃ error,
            (run ordinal calls).set ordinal name value = (.error error, run ordinal calls))) ∧
      (∀ name,
        (ValidName name ∧ ((run ordinal calls).remove ordinal name).1 =
          .ok ((run ordinal calls).lookup cmp name).isSome) ∨
          (¬ValidName name ∧ (run ordinal calls).remove ordinal name =
            (.error .invalidEnvironmentName, run ordinal calls))) ∧
      (∀ block, (run ordinal calls).encodedBlock = .ok block →
        block = (if (run ordinal calls).entries = [] then [0, 0] else
          ((run ordinal calls).entries.flatMap fun entry =>
            entry.name ++ equalsSign :: entry.value ++ [0]) ++ [0]) ∧
          readBlock block = (run ordinal calls).entries) ∧
      ∀ error, (run ordinal calls).encodedBlock = .error error →
        error = .environmentBlockTooLarge ∧
          usizeMax < 1 + ((run ordinal calls).entries.map EnvironmentEntry.capacity).sum := by
  have hrep : Represents cmp (run ordinal calls) (EnvironmentCall.held cmp calls) :=
    represents_empty.foldl hordinal calls
  refine ⟨hrep.ascending, hrep.lookup_eq, hrep.len_eq hordinal, ?_, ?_, ?_, ?_⟩
  · intro name value
    by_cases hvalid : ValidName name ∧ NulFree value
    · rw [set_valid hordinal hvalid.1 hvalid.2]
      exact .inl ⟨hvalid.1, hvalid.2, rfl⟩
    · exact .inr ⟨hvalid, _, set_invalid hvalid⟩
  · intro name
    by_cases hvalid : ValidName name
    · rw [remove_valid hordinal hvalid]
      exact .inl ⟨hvalid, rfl⟩
    · exact .inr ⟨hvalid, remove_invalid hvalid⟩
  · intro block hblock
    rw [encodedBlock_eq] at hblock
    split at hblock
    · have hread := readBlock_blockText hrep.valid
      cases hblock
      refine ⟨?_, hread⟩
      simp only [blockText, List.isEmpty_iff]
    · cases hblock
  · intro error herror
    rw [encodedBlock_eq] at herror
    split at herror
    next => cases herror
    next hlong =>
      cases herror
      exact ⟨rfl, Nat.lt_of_not_le hlong⟩

end Run

end LaunchEnvironment

/-! ## The comparison of Windows -/

def asciiUpper (c : UInt16) : UInt16 := if 0x61 ≤ c ∧ c ≤ 0x7A then c - 0x20 else c

/-- The uppercase table of the system. Names are compared by their units after the table. -/
structure UppercaseTable where
  upper : UInt16 → UInt16
  ascii : ∀ c < 0x80, upper c = asciiUpper c

namespace UppercaseTable

/-- The table that knows the ASCII letters only. -/
def asciiOnly : UppercaseTable := ⟨asciiUpper, fun _ _ => rfl⟩

variable (table : UppercaseTable)

def compare (left right : OsString) : Ordering :=
  compareOn (fun name : OsString => name.map table.upper) left right

def ordinal : CompareStringOrdinal := fun left right => some (table.compare left right)

instance : Std.TransCmp table.compare :=
  inferInstanceAs (Std.TransCmp (compareOn fun name : OsString => name.map table.upper))

theorem isOrdinal : IsOrdinal table.ordinal table.compare := ⟨fun _ _ => rfl, inferInstance⟩

end UppercaseTable

/-- `a` is set, then `B`, then `A`, which is `a` in another spelling. -/
def respelledCalls : List EnvironmentCall :=
  [.set [0x61] [0x31], .set [0x42] [0x32], .set [0x41] [0x33]]

theorem LaunchEnvironment.run_map_respelled :
    (run UppercaseTable.asciiOnly.ordinal respelledCalls).lookup UppercaseTable.asciiOnly.compare
      [0x61] = some ⟨[0x41], [0x33]⟩ := by
  rw [(run_map UppercaseTable.asciiOnly.isOrdinal respelledCalls).2.1]
  decide

end Rpackit.Windows
