import Rpackit.Lifecycle.Interpreter
import Rpackit.Windows.ProcessEnvironment

/-! # The environment of the bundled R

The launcher runs with the environment of the own process, less the variables that would
redirect R, plus those that name the bundle. The search path begins with the directories
of the bundle and goes on with the ambient one, which is read on its own.
-/

namespace Rpackit.Lifecycle

open Fallible Rpackit.Bundle
open Rpackit.Windows (CompareStringOrdinal EnvironmentCall EnvironmentEntry IsOrdinal NulFree
  ProcessEnvironment UppercaseTable ValidName lastReported)

/-! ## The calls of a success -/

/-- A variable that would redirect R, under any spelling. -/
def Listed (cmp : OsString → OsString → Ordering) (name : OsString) : Prop :=
  ∃ listed ∈ ambientRVariables, cmp listed name = .eq

instance (cmp : OsString → OsString → Ordering) (name : OsString) : Decidable (Listed cmp name) :=
  inferInstanceAs (Decidable (∃ listed ∈ ambientRVariables, cmp listed name = .eq))

/-- The places that the environment names. -/
structure RuntimePlaces (fs : Fs) (bundle : ValidatedBundle) (interpreter : WindowsPath) where
  rscriptParent : WindowsPath
  home : WindowsPath
  runtimeHome : WindowsPath
  library : WindowsPath
  interpreterDirectory : WindowsPath
  rscriptDirectory : WindowsPath
  rscriptParent_eq : bundle.rscript.parent = some rscriptParent
  home_eq : rscriptParent.parent = some home
  runtimeHome_eq : rCompatibleExistingPath fs home = .ok runtimeHome
  library_eq : rCompatibleExistingPath fs bundle.library = .ok library
  interpreterDirectory_eq : interpreter.parent = some interpreterDirectory
  rscriptDirectory_eq : rCompatibleExistingPath fs rscriptParent = .ok rscriptDirectory

section Settings

variable {fs : Fs} {bundle : ValidatedBundle} {interpreter : WindowsPath}

/-- The variables that are set, in their order. -/
def RuntimePlaces.settings (places : RuntimePlaces fs bundle interpreter)
    (ambient : Option OsString) : List EnvironmentEntry :=
  [⟨osString "R_HOME", places.runtimeHome.asOsString⟩,
    ⟨osString "R_LIBS", places.library.asOsString⟩,
    ⟨osString "R_LIBS_SITE", places.library.asOsString⟩,
    ⟨osString "R_LIBS_USER", places.library.asOsString⟩,
    ⟨osString "RPACKIT_LAUNCH_PROTOCOL", osString "2"⟩,
    ⟨osString "PATH", searchPath places.interpreterDirectory places.rscriptDirectory ambient⟩]

/-- The values are accepted. -/
def RuntimePlaces.Settable (places : RuntimePlaces fs bundle interpreter)
    (ambient : Option OsString) : Prop :=
  ∀ setting ∈ places.settings ambient, NulFree setting.value

def RuntimePlaces.calls (places : RuntimePlaces fs bundle interpreter)
    (process : ProcessEnvironment) : List EnvironmentCall :=
  process.vars.map EnvironmentEntry.setCall ++ ambientRVariables.map EnvironmentCall.remove ++
    (places.settings process.path).map EnvironmentEntry.setCall

end Settings

theorem validName_ambient : ∀ name ∈ ambientRVariables, ValidName name := by decide

section Success

variable {ordinal : CompareStringOrdinal} {cmp : OsString → OsString → Ordering} {fs : Fs}
  {bundle : ValidatedBundle} {interpreter : WindowsPath}

theorem clearedEnvironment_eq (hordinal : IsOrdinal ordinal cmp) (process : ProcessEnvironment) :
    clearedEnvironment ordinal process =
      if ∀ entry ∈ process.vars, ValidName entry.name then
        .ok (Windows.LaunchEnvironment.run ordinal
          (process.vars.map EnvironmentEntry.setCall ++
            ambientRVariables.map EnvironmentCall.remove))
      else .error .invalidEnvironmentName := by
  rw [clearedEnvironment, Windows.LaunchEnvironment.fromCurrent_eq hordinal
    fun entry hentry => (process.reportable entry hentry).value_nulFree]
  split
  · have hremoved := Windows.LaunchEnvironment.foldlM_tryRemove hordinal validName_ambient
      (Windows.LaunchEnvironment.run ordinal (process.vars.map EnvironmentEntry.setCall))
    rw [Windows.LaunchEnvironment.run_append]
    exact hremoved
  · rfl

theorem clearedEnvironment_eq_ok_iff (hordinal : IsOrdinal ordinal cmp)
    {process : ProcessEnvironment} {cleared : Windows.LaunchEnvironment} :
    clearedEnvironment ordinal process = .ok cleared ↔
      (∀ entry ∈ process.vars, ValidName entry.name) ∧ cleared =
        Windows.LaunchEnvironment.run ordinal (process.vars.map EnvironmentEntry.setCall ++
          ambientRVariables.map EnvironmentCall.remove) := by
  rw [clearedEnvironment_eq hordinal]
  by_cases hvalid : ∀ entry ∈ process.vars, ValidName entry.name
  · rw [if_pos hvalid, Except.ok.injEq, eq_comm]
    exact (and_iff_right hvalid).symm
  · simp only [if_neg hvalid, reduceCtorEq, false_iff, not_and]
    exact fun hvars => absurd hvars hvalid

theorem run_calls (places : RuntimePlaces fs bundle interpreter) (process : ProcessEnvironment) :
    Windows.LaunchEnvironment.run ordinal (places.calls process) =
      ((places.settings process.path).map EnvironmentEntry.setCall).foldl
        (Windows.LaunchEnvironment.call ordinal)
        (Windows.LaunchEnvironment.run ordinal (process.vars.map EnvironmentEntry.setCall ++
          ambientRVariables.map EnvironmentCall.remove)) :=
  Windows.LaunchEnvironment.run_append _ _

theorem bundledREnvironment_eq_ok_iff (hordinal : IsOrdinal ordinal cmp)
    {process : ProcessEnvironment} {environment : Windows.LaunchEnvironment} :
    bundledREnvironment ordinal fs process bundle interpreter = .ok environment ↔
      (∀ entry ∈ process.vars, ValidName entry.name) ∧
        ∃ places : RuntimePlaces fs bundle interpreter, places.Settable process.path ∧
          environment = Windows.LaunchEnvironment.run ordinal (places.calls process) := by
  simp only [bundledREnvironment, bind_eq_ok_iff, launched, mapError_eq_ok_iff, okOr_eq_ok_iff,
    clearedEnvironment_eq_ok_iff hordinal,
    Windows.LaunchEnvironment.trySet_eq_ok_iff hordinal]
  constructor
  · intro hok
    obtain ⟨_, ⟨hvars, rfl⟩, rscriptParent, hparent, home, hhome, runtimeHome, hruntime, library,
      hlibrary, _, ⟨hsetHome, rfl⟩, _, ⟨hsetLibs, rfl⟩, _, ⟨hsetSite, rfl⟩, _, ⟨hsetUser, rfl⟩, _,
      ⟨hsetProtocol, rfl⟩, interpreterDirectory, hinterpreter, rscriptDirectory, hrscript, hsetPath,
      rfl⟩ := hok
    refine ⟨hvars, ⟨rscriptParent, home, runtimeHome, library, interpreterDirectory,
      rscriptDirectory, hparent, hhome, hruntime, hlibrary, hinterpreter, hrscript⟩, ?_, ?_⟩
    · simp only [RuntimePlaces.Settable, RuntimePlaces.settings, List.forall_mem_cons]
      exact ⟨hsetHome.2, hsetLibs.2, hsetSite.2, hsetUser.2, hsetProtocol.2, hsetPath.2,
        List.forall_mem_nil _⟩
    · rw [run_calls]
      rfl
  · intro hok
    obtain ⟨hvars, places, hsettable, rfl⟩ := hok
    simp only [RuntimePlaces.Settable, RuntimePlaces.settings, List.forall_mem_cons] at hsettable
    obtain ⟨hhome, hlibs, hsite, huser, hprotocol, hpath, -⟩ := hsettable
    refine ⟨_, ⟨hvars, rfl⟩, _, places.rscriptParent_eq, _, places.home_eq, _,
      places.runtimeHome_eq, _, places.library_eq, _, ⟨⟨by decide, hhome⟩, rfl⟩, _,
      ⟨⟨by decide, hlibs⟩, rfl⟩, _, ⟨⟨by decide, hsite⟩, rfl⟩, _, ⟨⟨by decide, huser⟩, rfl⟩, _,
      ⟨⟨by decide, hprotocol⟩, rfl⟩, _, places.interpreterDirectory_eq, _,
      places.rscriptDirectory_eq, ⟨by decide, hpath⟩, ?_⟩
    rw [run_calls]
    rfl

end Success

/-! ## Isolation -/

section Isolation

variable {table : UppercaseTable} {fs : Fs} {bundle : ValidatedBundle} {interpreter : WindowsPath}

/-- The entries of one key are all listed or all not. -/
theorem Listed.congr {first second : OsString} (hsame : table.compare first second = .eq) :
    Listed table.compare first ↔ Listed table.compare second := by
  unfold Listed
  simp only [Std.TransCmp.congr_right hsame]

theorem forall_validName_iff_plain (process : ProcessEnvironment) :
    (∀ entry ∈ process.vars, ValidName entry.name) ↔
      ∀ entry ∈ process.vars, entry.name.head? ≠ some Windows.equalsSign ∧
        entry.name.length ≤ Windows.i32Max :=
  forall₂_congr fun entry hentry => (process.reportable entry hentry).validName_iff

end Isolation

section Parents

variable {ordinal : CompareStringOrdinal} {cmp : OsString → OsString → Ordering}

/-- A parent without variables. -/
def bareParent : ProcessEnvironment where
  vars := []
  path := none
  reportable := List.forall_mem_nil _
  path_nulFree := fun _ hvalue => absurd hvalue (Option.not_mem_none _)

theorem RuntimePlaces.Settable.ambient {fs : Fs} {bundle : ValidatedBundle}
    {interpreter : WindowsPath} {places : RuntimePlaces fs bundle interpreter}
    (hbare : places.Settable none) {ambient : Option OsString}
    (hambient : ∀ value ∈ ambient, NulFree value) : places.Settable ambient := by
  simp only [Settable, settings, List.forall_mem_cons] at hbare ⊢
  obtain ⟨hhome, hlibs, hsite, huser, hprotocol, hpath, hnil⟩ := hbare
  refine ⟨hhome, hlibs, hsite, huser, hprotocol, ?_, hnil⟩
  unfold searchPath at hpath ⊢
  cases ambient with
  | none => exact hpath
  | some value =>
      change NulFree (if value.isEmpty then _ else _)
      split
      · exact hpath
      · intro hmem
        rcases List.mem_append.mp hmem with hdirectories | hvalue
        · rcases List.mem_append.mp hdirectories with hdirectories | hseparator
          · exact hpath hdirectories
          · exact absurd (List.mem_singleton.mp hseparator) (by decide)
        · exact hambient value rfl hvalue

/-- The current environment is copied, and the launch gets its environment, exactly from a
parent that reports no hidden variable and no name of more than `i32::MAX` units. -/
theorem fromCurrent_complete_iff (hordinal : IsOrdinal ordinal cmp)
    (process : ProcessEnvironment) :
    ((∃ environment,
        Windows.LaunchEnvironment.fromCurrent ordinal process.vars = .ok environment ∧
          ∀ entry ∈ process.vars, Windows.equalsSign ∉ entry.name →
            ∃ last, lastReported cmp process.vars entry.name = some last ∧
              environment.lookup cmp entry.name = some last) ∧
        ∀ fs bundle interpreter,
          (∃ environment,
            bundledREnvironment ordinal fs bareParent bundle interpreter = .ok environment) →
          ∃ environment,
            bundledREnvironment ordinal fs process bundle interpreter = .ok environment) ↔
      ∀ entry ∈ process.vars, entry.name.head? ≠ some Windows.equalsSign ∧
        entry.name.length ≤ Windows.i32Max := by
  have hvalues : ∀ entry ∈ process.vars, NulFree entry.value := fun entry hentry =>
    (process.reportable entry hentry).value_nulFree
  rw [← forall_validName_iff_plain, Windows.LaunchEnvironment.fromCurrent_eq hordinal hvalues]
  constructor
  · intro hcomplete
    obtain ⟨⟨environment, hok, -⟩, -⟩ := hcomplete
    split at hok
    next hvalid => exact hvalid
    next => cases hok
  · intro hvalid
    rw [if_pos hvalid]
    refine ⟨⟨_, rfl, ?_⟩, ?_⟩
    · intro entry hentry _
      have := hordinal.ordered
      have hrep := Windows.LaunchEnvironment.represents_empty.foldl hordinal
        (process.vars.map EnvironmentEntry.setCall)
      have hreported : ∀ entry ∈ process.vars, entry.Valid := fun entry hentry =>
        ⟨hvalid entry hentry, hvalues entry hentry⟩
      have hlookup := congrFun hrep.lookup_eq entry.name
      rw [Windows.foldl_apply_setCall hreported, Option.or_none] at hlookup
      cases hlast : lastReported cmp process.vars entry.name with
      | none =>
          exact absurd Std.ReflCmp.compare_self
            (KeyedList.find_eq_none_iff.mp hlast entry (List.mem_reverse.mpr hentry))
      | some last => exact ⟨last, rfl, hlookup.trans hlast⟩
    · intro fs bundle interpreter hbare
      obtain ⟨environment, hok⟩ := hbare
      obtain ⟨-, places, hsettable, -⟩ := (bundledREnvironment_eq_ok_iff hordinal).mp hok
      exact ⟨_, (bundledREnvironment_eq_ok_iff hordinal).mpr
        ⟨hvalid, places, hsettable.ambient process.path_nulFree, rfl⟩⟩

/-- What a console that changed drives hands to its children, after what it had before. -/
def driveVars : List EnvironmentEntry :=
  [⟨osString "=C:", osString "C:\\"⟩, ⟨osString "PATH", osString "C:\\Windows"⟩]

theorem driveVars_reportable : ∀ entry ∈ driveVars, entry.Reportable := by
  simp only [driveVars, List.forall_mem_cons]
  exact ⟨⟨by decide, by decide, by decide, by decide⟩,
    ⟨by decide, by decide, by decide, by decide⟩, List.forall_mem_nil _⟩

def driveParent : ProcessEnvironment where
  vars := driveVars
  path := none
  reportable := driveVars_reportable
  path_nulFree := bareParent.path_nulFree

/-- The same parent before it changed drives. -/
def plainParent : ProcessEnvironment where
  vars := driveVars.tail
  path := none
  reportable := fun entry hentry => driveVars_reportable entry (List.mem_of_mem_tail hentry)
  path_nulFree := bareParent.path_nulFree

theorem fromCurrent_complete_iff_plain :
    ∃ environment, Windows.LaunchEnvironment.fromCurrent UppercaseTable.asciiOnly.ordinal
        plainParent.vars = .ok environment ∧
      ∀ entry ∈ plainParent.vars, Windows.equalsSign ∉ entry.name →
        ∃ last, lastReported UppercaseTable.asciiOnly.compare plainParent.vars entry.name =
          some last ∧ environment.lookup UppercaseTable.asciiOnly.compare entry.name = some last :=
  ((fromCurrent_complete_iff UppercaseTable.asciiOnly.isOrdinal plainParent).mpr
    (by decide)).1

/-- Its hidden variable ends the copy, and with it every launch. -/
theorem driveParent_refused :
    Windows.LaunchEnvironment.fromCurrent UppercaseTable.asciiOnly.ordinal driveParent.vars =
        .error .invalidEnvironmentName ∧
      ∀ fs bundle interpreter,
        bundledREnvironment UppercaseTable.asciiOnly.ordinal fs driveParent bundle interpreter =
          .error (.launch .invalidEnvironmentName) := by
  have hhidden : ¬∀ entry ∈ driveParent.vars, ValidName entry.name := by decide
  have hvalues : ∀ entry ∈ driveParent.vars, NulFree entry.value := fun entry hentry =>
    (driveParent.reportable entry hentry).value_nulFree
  constructor
  · rw [Windows.LaunchEnvironment.fromCurrent_eq UppercaseTable.asciiOnly.isOrdinal hvalues,
      if_neg hhidden]
  · intro fs bundle interpreter
    rw [bundledREnvironment, clearedEnvironment_eq UppercaseTable.asciiOnly.isOrdinal,
      if_neg hhidden]
    rfl

end Parents

end Rpackit.Lifecycle
