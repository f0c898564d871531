import Rpackit.Windows.Environment

/-! # The environment of the own process

What `std::env` reports of the process, and the explicit environment that is made of it.
A failed call ends the function that made it, so only what a success leaves matters.
-/

namespace Rpackit.Windows

open Fallible

/-- A variable as `vars_os` reports it: an equals sign can only begin its name, as for the
hidden variables with the current directories of the drives. -/
structure EnvironmentEntry.Reportable (entry : EnvironmentEntry) : Prop where
  named : entry.name ≠ []
  name_nulFree : NulFree entry.name
  tail_plain : equalsSign ∉ entry.name.tail
  value_nulFree : NulFree entry.value

/-- The variables that `vars_os` reports, and the answer of `var_os("PATH")`. -/
structure ProcessEnvironment where
  vars : List EnvironmentEntry
  path : Option OsString
  reportable : ∀ entry ∈ vars, entry.Reportable
  path_nulFree : ∀ value ∈ path, NulFree value

/-- The variable of a name that was reported last. -/
def lastReported (cmp : OsString → OsString → Ordering) (vars : List EnvironmentEntry) :
    Variables :=
  fun name => vars.reverse.find? fun entry => cmp entry.name name == .eq

namespace LaunchEnvironment

variable (ordinal : CompareStringOrdinal)

/-- `environment.set(name, value)?`. -/
def trySet (environment : LaunchEnvironment) (name value : OsString) :
    Except LaunchError LaunchEnvironment :=
  let outcome := environment.set ordinal name value
  outcome.1.map fun _ => outcome.2

/-- `environment.remove(name)?`. -/
def tryRemove (environment : LaunchEnvironment) (name : OsString) :
    Except LaunchError LaunchEnvironment :=
  let outcome := environment.remove ordinal name
  outcome.1.map fun _ => outcome.2

def fromCurrent (vars : List EnvironmentEntry) : Except LaunchError LaunchEnvironment :=
  vars.foldlM (fun environment entry => environment.trySet ordinal entry.name entry.value) empty

end LaunchEnvironment

def EnvironmentEntry.setCall (entry : EnvironmentEntry) : EnvironmentCall :=
  .set entry.name entry.value

section Calls

variable {ordinal : CompareStringOrdinal} {cmp : OsString → OsString → Ordering}
  {environment next : LaunchEnvironment} {held : Variables} {name value : OsString}

/-! ## Successful calls -/

namespace LaunchEnvironment

theorem trySet_invalid (hinvalid : ¬(ValidName name ∧ NulFree value)) :
    environment.trySet ordinal name value =
      .error (if ValidName name then .invalidEnvironmentValue else .invalidEnvironmentName) := by
  rw [trySet, set_invalid hinvalid]
  rfl

theorem trySet_valid (hordinal : IsOrdinal ordinal cmp) (hname : ValidName name)
    (hvalue : NulFree value) :
    environment.trySet ordinal name value = .ok (environment.call ordinal (.set name value)) := by
  rw [trySet, call, set_valid hordinal hname hvalue]
  rfl

theorem trySet_eq_ok_iff (hordinal : IsOrdinal ordinal cmp) :
    environment.trySet ordinal name value = .ok next ↔
      (ValidName name ∧ NulFree value) ∧ next = environment.call ordinal (.set name value) := by
  by_cases hvalid : ValidName name ∧ NulFree value
  · rw [trySet_valid hordinal hvalid.1 hvalid.2, Except.ok.injEq]
    constructor
    · intro heq
      exact ⟨hvalid, heq.symm⟩
    · intro hnext
      exact hnext.2.symm
  · rw [trySet_invalid hvalid]
    constructor
    · intro heq
      cases heq
    · intro hnext
      exact absurd hnext.1 hvalid

theorem tryRemove_valid (hordinal : IsOrdinal ordinal cmp) (hname : ValidName name) :
    environment.tryRemove ordinal name = .ok (environment.call ordinal (.remove name)) := by
  rw [tryRemove, call, remove_valid hordinal hname]
  rfl

/-- The loop over variables without a NUL in a value. -/
theorem foldlM_trySet (hordinal : IsOrdinal ordinal cmp) {vars : List EnvironmentEntry}
    (hvalues : ∀ entry ∈ vars, NulFree entry.value) (environment : LaunchEnvironment) :
    vars.foldlM (fun environment entry => environment.trySet ordinal entry.name entry.value)
        environment =
      if ∀ entry ∈ vars, ValidName entry.name then
        .ok ((vars.map EnvironmentEntry.setCall).foldl (call ordinal) environment)
      else .error .invalidEnvironmentName := by
  induction vars generalizing environment with
  | nil => simp [pure, Except.pure]
  | cons entry rest ih =>
      obtain ⟨hvalue, hrest⟩ := List.forall_mem_cons.mp hvalues
      rw [List.foldlM_cons]
      by_cases hname : ValidName entry.name
      · rw [trySet_valid hordinal hname hvalue]
        simp only [List.forall_mem_cons, hname, true_and]
        exact ih hrest _
      · rw [trySet_invalid fun hvalid => hname hvalid.1, if_neg hname,
          if_neg fun hall => hname (hall entry List.mem_cons_self)]
        rfl

theorem fromCurrent_eq (hordinal : IsOrdinal ordinal cmp) {vars : List EnvironmentEntry}
    (hvalues : ∀ entry ∈ vars, NulFree entry.value) :
    fromCurrent ordinal vars =
      if ∀ entry ∈ vars, ValidName entry.name then
        .ok (run ordinal (vars.map EnvironmentEntry.setCall))
      else .error .invalidEnvironmentName :=
  foldlM_trySet hordinal hvalues empty

theorem foldlM_tryRemove (hordinal : IsOrdinal ordinal cmp) {names : List OsString}
    (hnames : ∀ name ∈ names, ValidName name) (environment : LaunchEnvironment) :
    names.foldlM (tryRemove ordinal) environment =
      .ok ((names.map EnvironmentCall.remove).foldl (call ordinal) environment) := by
  induction names generalizing environment with
  | nil => rfl
  | cons name rest ih =>
      obtain ⟨hname, hrest⟩ := List.forall_mem_cons.mp hnames
      rw [List.foldlM_cons, tryRemove_valid hordinal hname]
      exact ih hrest _

end LaunchEnvironment

/-! ## What they leave -/

theorem lastReported_cons (entry : EnvironmentEntry) (rest : List EnvironmentEntry)
    (name : OsString) :
    lastReported cmp (entry :: rest) name =
      (lastReported cmp rest name).or (if cmp entry.name name = .eq then some entry else none) := by
  rw [lastReported, List.reverse_cons, List.find?_append, lastReported]
  by_cases hsame : cmp entry.name name = .eq
  · rw [if_pos hsame, List.find?_cons_of_pos (by simpa using hsame)]
  · rw [if_neg hsame, List.find?_cons_of_neg (by simpa using hsame), List.find?_nil]

/-- Variables that are set one after the other: the last one of a name. -/
theorem foldl_apply_setCall {vars : List EnvironmentEntry} (hvalid : ∀ entry ∈ vars, entry.Valid)
    (held : Variables) (name : OsString) :
    (vars.map EnvironmentEntry.setCall).foldl (EnvironmentCall.apply cmp) held name =
      (lastReported cmp vars name).or (held name) := by
  induction vars generalizing held with
  | nil => rfl
  | cons entry rest ih =>
      obtain ⟨hentry, hrest⟩ := List.forall_mem_cons.mp hvalid
      have heffect : (entry.setCall.apply cmp held) name =
          (if cmp entry.name name = .eq then some entry else none).or (held name) := by
        rw [EnvironmentCall.apply, if_pos (show entry.setCall.Accepted from hentry)]
        change (if cmp entry.name name = .eq then some entry else held name) = _
        split
        · rfl
        · rfl
      rw [List.map_cons, List.foldl_cons, ih hrest, heffect, lastReported_cons, Option.or_assoc]

end Calls

/-! ## Names that are accepted -/

theorem EnvironmentEntry.Reportable.validName_iff {entry : EnvironmentEntry}
    (hreportable : entry.Reportable) :
    ValidName entry.name ↔
      entry.name.head? ≠ some equalsSign ∧ entry.name.length ≤ i32Max := by
  obtain ⟨c, tail, hname⟩ := List.exists_cons_of_ne_nil hreportable.named
  have htail : equalsSign ∉ tail := by
    have hplain := hreportable.tail_plain
    rwa [hname] at hplain
  have hplain : equalsSign ∉ entry.name ↔ entry.name.head? ≠ some equalsSign := by
    rw [hname, List.mem_cons, List.head?_cons, ne_eq, Option.some.injEq]
    simp only [htail, or_false]
    exact not_congr eq_comm
  rw [ValidName, hplain]
  exact ⟨fun hvalid => hvalid.2.2, fun hshort =>
    ⟨hreportable.named, hreportable.name_nulFree, hshort⟩⟩

namespace UppercaseTable

variable (table : UppercaseTable)

end UppercaseTable

end Rpackit.Windows
