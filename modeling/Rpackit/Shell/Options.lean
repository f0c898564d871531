import Mathlib.Data.List.Perm.Basic
import Mathlib.Data.List.Nodup
import Rpackit.Library.Fallible
import Rpackit.Library.WindowsPath

/-! # The options of the shell

Each option may be given once and the options in any order; a path option takes the argument
after it, whatever that is. What the file system says of the paths is free.
-/

namespace Rpackit.Shell

open Fallible

inductive PathOption where
  | bundle
  | sessionParent
  | profileParent
  | evidence
  deriving DecidableEq, Repr

def PathOption.name : PathOption → OsString
  | .bundle => osString "--bundle"
  | .sessionParent => osString "--session-parent"
  | .profileParent => osString "--profile-parent"
  | .evidence => osString "--evidence"

def closeAfterReadyName : OsString := osString "--close-after-ready"

inductive LaunchMode where
  | packaged
  | explicit (bundle sessionParent profileParent : OsString)
  deriving DecidableEq, Repr

structure ParsedOptions where
  launch : LaunchMode
  evidence : Option OsString
  closeAfterReady : Bool
  deriving DecidableEq, Repr

/-- What the file system says of a path. -/
structure PathSystem where
  isDir : OsString → Bool
  tryExists : OsString → Except Unit Bool
  parent : OsString → Option OsString
  fileName : OsString → Option OsString

/-! ## Parsing -/

/-- The local variables of the loop. -/
structure OptionSlots where
  path : PathOption → Option OsString
  closeAfterReady : Bool

def OptionSlots.empty : OptionSlots := ⟨fun _ => none, false⟩

def pathOptionOf (argument : OsString) : Option PathOption :=
  if argument = PathOption.bundle.name then some .bundle
  else if argument = PathOption.sessionParent.name then some .sessionParent
  else if argument = PathOption.profileParent.name then some .profileParent
  else if argument = PathOption.evidence.name then some .evidence
  else none

def setPathOption (slots : OptionSlots) (option : PathOption) (value : OsString) :
    Except Unit OptionSlots :=
  if (slots.path option).isSome then .error ()
  else .ok { slots with path := Function.update slots.path option (some value) }

def parseArguments (slots : OptionSlots) : List OsString → Except Unit OptionSlots
  | [] => .ok slots
  | argument :: rest =>
      match pathOptionOf argument with
      | some option =>
          match rest with
          | [] => .error ()
          | value :: rest => do
              let next ← setPathOption slots option value
              parseArguments next rest
      | none =>
          if argument = closeAfterReadyName then
            if slots.closeAfterReady then .error ()
            else parseArguments { slots with closeAfterReady := true } rest
          else .error ()

def launchMode (slots : OptionSlots) : Except Unit LaunchMode :=
  match slots.path .bundle, slots.path .sessionParent, slots.path .profileParent with
  | none, none, none => .ok .packaged
  | some bundle, some sessionParent, some profileParent =>
      .ok (.explicit bundle sessionParent profileParent)
  | _, _, _ => .error ()

def validateLaunch (system : PathSystem) : LaunchMode → Except Unit Unit
  | .packaged => .ok ()
  | .explicit bundle sessionParent profileParent =>
      rejectIf (!system.isDir bundle || !system.isDir sessionParent ||
        !system.isDir profileParent) ()

def validateEvidence (system : PathSystem) : Option OsString → Except Unit Unit
  | none => .ok ()
  | some evidence => do
      let present ← system.tryExists evidence
      rejectIf (present || !(system.parent evidence).any system.isDir ||
        system.fileName evidence == some []) ()

def validateOptions (system : PathSystem) (options : ParsedOptions) : Except Unit Unit := do
  rejectIf (options.closeAfterReady != options.evidence.isSome) ()
  validateLaunch system options.launch
  validateEvidence system options.evidence

def parseOptions (system : PathSystem) (arguments : List OsString) :
    Except Unit ParsedOptions := do
  let slots ← parseArguments .empty arguments
  let launch ← launchMode slots
  let options : ParsedOptions := ⟨launch, slots.path .evidence, slots.closeAfterReady⟩
  validateOptions system options
  return options

/-! ## What an argument list says -/

/-- One option as it is given. -/
inductive ShellArgument where
  | path (option : PathOption) (value : OsString)
  | closeAfterReady
  deriving DecidableEq, Repr

def ShellArgument.render : ShellArgument → List OsString
  | .path option value => [option.name, value]
  | .closeAfterReady => [closeAfterReadyName]

/-- The option without its value. -/
def ShellArgument.key : ShellArgument → Option PathOption
  | .path option _ => some option
  | .closeAfterReady => none

def LaunchMode.arguments : LaunchMode → List ShellArgument
  | .packaged => []
  | .explicit bundle sessionParent profileParent =>
      [.path .bundle bundle, .path .sessionParent sessionParent,
        .path .profileParent profileParent]

/-- The options in the order of the usage text. -/
def ParsedOptions.arguments (options : ParsedOptions) : List ShellArgument :=
  options.launch.arguments ++ (options.evidence.map (.path .evidence)).toList ++
    if options.closeAfterReady then [.closeAfterReady] else []

namespace OptionSlots

variable {slots next other : OptionSlots} {item : ShellArgument} {items : List ShellArgument}

def Holds (slots : OptionSlots) : ShellArgument → Prop
  | .path option value => slots.path option = some value
  | .closeAfterReady => slots.closeAfterReady = true

def Free (slots : OptionSlots) : Option PathOption → Prop
  | some option => slots.path option = none
  | none => slots.closeAfterReady = false

def put (slots : OptionSlots) : ShellArgument → OptionSlots
  | .path option value => { slots with path := Function.update slots.path option (some value) }
  | .closeAfterReady => { slots with closeAfterReady := true }

theorem ext_holds (hsame : ∀ item, slots.Holds item ↔ other.Holds item) : slots = other := by
  have hpath : slots.path = other.path := by
    funext option
    refine Option.ext fun value => ?_
    exact hsame (.path option value)
  have hclose : slots.closeAfterReady = other.closeAfterReady :=
    Bool.eq_iff_iff.mpr (hsame .closeAfterReady)
  cases slots
  cases other
  simp only at hpath hclose
  rw [hpath, hclose]

theorem holds_put (hfree : slots.Free item.key) (found : ShellArgument) :
    (slots.put item).Holds found ↔ found = item ∨ slots.Holds found := by
  cases item with
  | path option value =>
      cases found with
      | closeAfterReady => simp [put, Holds]
      | path target other =>
          have hnone : slots.path option = none := hfree
          by_cases htarget : target = option
          · subst htarget
            simp [put, Holds, hnone, eq_comm]
          · simp [put, Holds, htarget]
  | closeAfterReady =>
      have hfalse : slots.closeAfterReady = false := hfree
      cases found <;> simp [put, Holds, hfalse]

theorem free_put_iff (key : Option PathOption) :
    (slots.put item).Free key ↔ item.key ≠ key ∧ slots.Free key := by
  cases item with
  | path option value =>
      cases key with
      | none => simp [put, Free, ShellArgument.key]
      | some target =>
          by_cases htarget : target = option
          · subst htarget
            simp [put, Free, ShellArgument.key]
          · simp [put, Free, ShellArgument.key, Function.update_of_ne htarget, Ne.symm htarget]
  | closeAfterReady => cases key <;> simp [put, Free, ShellArgument.key]

end OptionSlots

/-- Options that are given once each and not before, and the slots after them. -/
inductive Fills : OptionSlots → List ShellArgument → OptionSlots → Prop
  | nil (slots : OptionSlots) : Fills slots [] slots
  | cons {slots final : OptionSlots} {item : ShellArgument} {rest : List ShellArgument}
      (hfree : slots.Free item.key) (hrest : Fills (slots.put item) rest final) :
      Fills slots (item :: rest) final

section Reading

variable {slots final : OptionSlots} {items : List ShellArgument} {arguments : List OsString}

theorem fills_iff :
    Fills slots items final ↔ (items.map ShellArgument.key).Nodup ∧
      (∀ item ∈ items, slots.Free item.key) ∧
        ∀ item, final.Holds item ↔ item ∈ items ∨ slots.Holds item := by
  induction items generalizing slots with
  | nil =>
      constructor
      · rintro ⟨⟩
        simp
      · rintro ⟨-, -, hholds⟩
        obtain rfl : final = slots := OptionSlots.ext_holds fun item => by simpa using hholds item
        exact .nil final
  | cons item rest ih =>
      constructor
      · rintro (_ | ⟨hfree, hrest⟩)
        obtain ⟨hnodup, hlater, hholds⟩ := ih.mp hrest
        have hkeys : ∀ other ∈ rest, item.key ≠ other.key ∧ slots.Free other.key :=
          fun other hother => (OptionSlots.free_put_iff other.key).mp (hlater other hother)
        refine ⟨List.nodup_cons.mpr ⟨?_, hnodup⟩,
          List.forall_mem_cons.mpr ⟨hfree, fun other hother => (hkeys other hother).2⟩, ?_⟩
        · intro hmem
          obtain ⟨other, hother, hsame⟩ := List.mem_map.mp hmem
          exact (hkeys other hother).1 hsame.symm
        · intro found
          rw [hholds found, OptionSlots.holds_put hfree, List.mem_cons]
          exact or_left_comm.trans or_assoc.symm
      · rintro ⟨hnodup, hfree, hholds⟩
        obtain ⟨hnew, hnodup⟩ := List.nodup_cons.mp hnodup
        obtain ⟨hfree, hlater⟩ := List.forall_mem_cons.mp hfree
        refine .cons hfree (ih.mpr ⟨hnodup, fun other hother => ?_, fun found => ?_⟩)
        · have hfreed := hlater other hother
          refine (OptionSlots.free_put_iff other.key).mpr ⟨fun hsame => hnew ?_, hfreed⟩
          exact List.mem_map.mpr ⟨other, hother, hsame.symm⟩
        · rw [hholds found, OptionSlots.holds_put hfree, List.mem_cons]
          exact or_assoc.trans or_left_comm

theorem pathOptionOf_eq_some_iff {argument : OsString} {option : PathOption} :
    pathOptionOf argument = some option ↔ argument = option.name := by
  constructor
  · intro hoption
    unfold pathOptionOf at hoption
    split at hoption
    next hname => exact Option.some.inj hoption ▸ hname
    next =>
      split at hoption
      next hname => exact Option.some.inj hoption ▸ hname
      next =>
        split at hoption
        next hname => exact Option.some.inj hoption ▸ hname
        next =>
          split at hoption
          next hname => exact Option.some.inj hoption ▸ hname
          next => cases hoption
  · rintro rfl
    cases option <;> decide +kernel

theorem pathOptionOf_closeAfterReady : pathOptionOf closeAfterReadyName = none := by
  decide +kernel

theorem setPathOption_eq_ok_iff {option : PathOption} {value : OsString} :
    setPathOption slots option value = .ok final ↔
      slots.Free (some option) ∧ slots.put (.path option value) = final := by
  unfold setPathOption
  split
  next hsome =>
    constructor
    · rintro ⟨⟩
    · rintro ⟨hfree, -⟩
      have hnone : slots.path option = none := hfree
      rw [hnone] at hsome
      cases hsome
  next hnone =>
    have hfree : slots.Free (some option) := Option.not_isSome_iff_eq_none.mp hnone
    exact ⟨fun hok => ⟨hfree, Except.ok.inj hok⟩, fun hput => congrArg Except.ok hput.2⟩

theorem name_ne_closeAfterReadyName (option : PathOption) : option.name ≠ closeAfterReadyName := by
  cases option <;> decide +kernel

/-- A list of rendered options begins with one of them. -/
theorem exists_render_cons_iff {argument : OsString} {rest : List OsString}
    {P : List ShellArgument → Prop} :
    (∃ items, argument :: rest = items.flatMap ShellArgument.render ∧ P items) ↔
      (∃ option value left items, argument = option.name ∧ rest = value :: left ∧
        left = items.flatMap ShellArgument.render ∧ P (.path option value :: items)) ∨
      (argument = closeAfterReadyName ∧ ∃ items, rest = items.flatMap ShellArgument.render ∧
        P (.closeAfterReady :: items)) := by
  constructor
  · rintro ⟨items, hrender, hitems⟩
    cases items with
    | nil => cases hrender
    | cons item items =>
        cases item with
        | path option value =>
            obtain ⟨hname, hrest⟩ := List.cons.inj hrender
            exact .inl ⟨option, value, _, items, hname, hrest, rfl, hitems⟩
        | closeAfterReady =>
            obtain ⟨hname, hrest⟩ := List.cons.inj hrender
            exact .inr ⟨hname, items, hrest, hitems⟩
  · rintro (⟨option, value, left, items, rfl, rfl, rfl, hitems⟩ | ⟨rfl, items, rfl, hitems⟩)
    · exact ⟨.path option value :: items, rfl, hitems⟩
    · exact ⟨.closeAfterReady :: items, rfl, hitems⟩

theorem fills_cons_iff {item : ShellArgument} :
    Fills slots (item :: items) final ↔
      slots.Free item.key ∧ Fills (slots.put item) items final := by
  constructor
  · rintro (_ | ⟨hfree, hrest⟩)
    exact ⟨hfree, hrest⟩
  · rintro ⟨hfree, hrest⟩
    exact .cons hfree hrest

/-- The loop reads exactly the lists of options that are each new. -/
theorem parseArguments_eq_ok_iff :
    parseArguments slots arguments = .ok final ↔
      ∃ items, arguments = items.flatMap ShellArgument.render ∧ Fills slots items final := by
  fun_induction parseArguments slots arguments with
  | case1 slots =>
      constructor
      · rintro ⟨⟩
        exact ⟨[], rfl, .nil _⟩
      · rintro ⟨items, hrender, hfills⟩
        cases items with
        | nil =>
            cases hfills
            rfl
        | cons item items => cases item <;> cases hrender
  | case2 slots argument option hoption =>
      rw [exists_render_cons_iff]
      constructor
      · rintro ⟨⟩
      · rintro (⟨_, _, _, _, -, hrest, -⟩ | ⟨rfl, -⟩)
        · cases hrest
        · rw [pathOptionOf_closeAfterReady] at hoption
          cases hoption
  | case3 slots argument option hoption value rest ih =>
      obtain rfl := pathOptionOf_eq_some_iff.mp hoption
      rw [exists_render_cons_iff, bind_eq_ok_iff]
      constructor
      · rintro ⟨next, hput, hrest⟩
        obtain ⟨hfree, rfl⟩ := setPathOption_eq_ok_iff.mp hput
        obtain ⟨items, hrender, hfills⟩ := (ih _).mp hrest
        exact .inl ⟨option, value, rest, items, rfl, rfl, hrender, .cons hfree hfills⟩
      · rintro (⟨target, other, left, items, hname, hrest, hrender, hfills⟩ | ⟨hname, -⟩)
        · obtain ⟨rfl, rfl⟩ := List.cons.inj hrest
          rw [pathOptionOf_eq_some_iff.mpr hname] at hoption
          obtain rfl := Option.some.inj hoption
          obtain ⟨hfree, hfills⟩ := fills_cons_iff.mp hfills
          exact ⟨_, setPathOption_eq_ok_iff.mpr ⟨hfree, rfl⟩, (ih _).mpr ⟨items, hrender, hfills⟩⟩
        · exact absurd hname (name_ne_closeAfterReadyName option)
  | case4 slots rest hclosed hoption =>
      rw [exists_render_cons_iff]
      constructor
      · rintro ⟨⟩
      · rintro (⟨option, _, _, _, hname, -⟩ | ⟨-, items, -, hfills⟩)
        · exact absurd hname.symm (name_ne_closeAfterReadyName option)
        · have hfree : slots.closeAfterReady = false := (fills_cons_iff.mp hfills).1
          rw [hclosed] at hfree
          cases hfree
  | case5 slots rest hopen hoption ih =>
      rw [exists_render_cons_iff, ih]
      constructor
      · rintro ⟨items, hrender, hfills⟩
        exact .inr ⟨rfl, items, hrender, .cons (eq_false_of_ne_true hopen) hfills⟩
      · rintro (⟨option, _, _, _, hname, -⟩ | ⟨-, items, hrender, hfills⟩)
        · exact absurd hname.symm (name_ne_closeAfterReadyName option)
        · exact ⟨items, hrender, (fills_cons_iff.mp hfills).2⟩
  | case6 slots argument rest hoption hclose =>
      rw [exists_render_cons_iff]
      constructor
      · rintro ⟨⟩
      · rintro (⟨option, _, _, _, hname, -⟩ | ⟨hname, -⟩)
        · rw [pathOptionOf_eq_some_iff.mpr hname] at hoption
          cases hoption
        · exact absurd hname hclose

end Reading

/-! ## The options that are accepted -/

/-- The slots of options that were read. -/
def ParsedOptions.slots (options : ParsedOptions) : OptionSlots where
  path
    | .bundle => match options.launch with
        | .packaged => none
        | .explicit bundle _ _ => some bundle
    | .sessionParent => match options.launch with
        | .packaged => none
        | .explicit _ sessionParent _ => some sessionParent
    | .profileParent => match options.launch with
        | .packaged => none
        | .explicit _ _ profileParent => some profileParent
    | .evidence => options.evidence
  closeAfterReady := options.closeAfterReady

section Accepted

variable {slots : OptionSlots} {items : List ShellArgument} {options : ParsedOptions}
  {system : PathSystem}

theorem launchMode_slots (options : ParsedOptions) :
    launchMode options.slots = .ok options.launch := by
  obtain ⟨launch, evidence, closeAfterReady⟩ := options
  cases launch <;> rfl

theorem slots_of_launchMode {launch : LaunchMode} (hlaunch : launchMode slots = .ok launch) :
    (⟨launch, slots.path .evidence, slots.closeAfterReady⟩ : ParsedOptions).slots = slots := by
  obtain ⟨path, closeAfterReady⟩ := slots
  have hpath : ∀ option, (⟨launch, path .evidence, closeAfterReady⟩ : ParsedOptions).slots.path
      option = path option := by
    intro option
    unfold launchMode at hlaunch
    split at hlaunch
    next hbundle hsession hprofile =>
      cases hlaunch
      cases option
      · exact hbundle.symm
      · exact hsession.symm
      · exact hprofile.symm
      · rfl
    next hbundle hsession hprofile =>
      cases hlaunch
      cases option
      · exact hbundle.symm
      · exact hsession.symm
      · exact hprofile.symm
      · rfl
    next => cases hlaunch
  exact congrArg (OptionSlots.mk · closeAfterReady) (funext hpath)

theorem mem_arguments_iff (options : ParsedOptions) (item : ShellArgument) :
    item ∈ options.arguments ↔ options.slots.Holds item := by
  obtain ⟨launch, evidence, closeAfterReady⟩ := options
  cases item with
  | path option value =>
      cases launch <;> cases evidence <;> cases closeAfterReady <;> cases option <;>
        simp [ParsedOptions.arguments, LaunchMode.arguments, ParsedOptions.slots,
          OptionSlots.Holds, eq_comm]
  | closeAfterReady =>
      cases launch <;> cases evidence <;> cases closeAfterReady <;>
        simp [ParsedOptions.arguments, LaunchMode.arguments, ParsedOptions.slots,
          OptionSlots.Holds]

theorem nodup_arguments (options : ParsedOptions) :
    (options.arguments.map ShellArgument.key).Nodup := by
  obtain ⟨launch, evidence, closeAfterReady⟩ := options
  cases launch <;> cases evidence <;> cases closeAfterReady <;>
    simp [ParsedOptions.arguments, LaunchMode.arguments, ShellArgument.key]

/-- Options that fill the empty slots are those of an options record, in some order. -/
theorem fills_empty_iff :
    Fills .empty items options.slots ↔ items.Perm options.arguments := by
  have hempty : ∀ item, ¬OptionSlots.empty.Holds item := by
    intro item hholds
    cases item <;> cases hholds
  rw [fills_iff]
  constructor
  · rintro ⟨hnodup, -, hholds⟩
    refine (List.perm_ext_iff_of_nodup (.of_map _ hnodup)
      (.of_map _ (nodup_arguments options))).mpr fun item => ?_
    rw [mem_arguments_iff, hholds item]
    exact (or_iff_left (hempty item)).symm
  · intro hperm
    refine ⟨(hperm.map _).nodup_iff.mpr (nodup_arguments options), fun item _ => ?_, fun item => ?_⟩
    · cases item <;> rfl
    · rw [← mem_arguments_iff, hperm.mem_iff]
      exact (or_iff_left (hempty item)).symm

/-- Evidence comes with closing, and the paths are there or, for the evidence, not yet. -/
structure ValidOptions (system : PathSystem) (options : ParsedOptions) : Prop where
  paired : options.closeAfterReady = options.evidence.isSome
  directories : ∀ bundle sessionParent profileParent,
    options.launch = .explicit bundle sessionParent profileParent →
      system.isDir bundle = true ∧ system.isDir sessionParent = true ∧
        system.isDir profileParent = true
  evidence : ∀ evidence, options.evidence = some evidence →
    system.tryExists evidence = .ok false ∧
      (∃ parent, system.parent evidence = some parent ∧ system.isDir parent = true) ∧
        system.fileName evidence ≠ some []

theorem validateLaunch_eq_ok_iff {launch : LaunchMode} :
    validateLaunch system launch = .ok () ↔ ∀ bundle sessionParent profileParent,
      launch = .explicit bundle sessionParent profileParent →
        system.isDir bundle = true ∧ system.isDir sessionParent = true ∧
          system.isDir profileParent = true := by
  cases launch with
  | packaged => simp [validateLaunch]
  | explicit bundle sessionParent profileParent =>
      rw [validateLaunch, rejectIf_eq_ok_iff]
      simp [and_assoc]

theorem validateEvidence_eq_ok_iff {evidence : Option OsString} :
    validateEvidence system evidence = .ok () ↔ ∀ path, evidence = some path →
      system.tryExists path = .ok false ∧
        (∃ parent, system.parent path = some parent ∧ system.isDir parent = true) ∧
          system.fileName path ≠ some [] := by
  cases evidence with
  | none => simp [validateEvidence]
  | some path =>
      simp only [validateEvidence, bind_eq_ok_iff, rejectIf_eq_ok_iff, Bool.or_eq_false_iff,
        Bool.not_eq_false', Option.any_eq_true, beq_eq_false_iff_ne, Option.some.injEq]
      constructor
      · rintro ⟨present, hpresent, ⟨rfl, hparent⟩, hname⟩ path rfl
        exact ⟨hpresent, hparent, hname⟩
      · intro hvalid
        obtain ⟨hpresent, hparent, hname⟩ := hvalid path rfl
        exact ⟨false, hpresent, ⟨rfl, hparent⟩, hname⟩

theorem validateOptions_eq_ok_iff :
    validateOptions system options = .ok () ↔ ValidOptions system options := by
  rw [validateOptions, rejectIf_bind_eq_ok_iff, bne_eq_false_iff_eq]
  constructor
  · rintro ⟨hpaired, hvalid⟩
    obtain ⟨_, hlaunch, hevidence⟩ := bind_eq_ok_iff.mp hvalid
    exact ⟨hpaired, validateLaunch_eq_ok_iff.mp hlaunch, validateEvidence_eq_ok_iff.mp hevidence⟩
  · rintro ⟨hpaired, hdirectories, hevidence⟩
    refine ⟨hpaired, bind_eq_ok_iff.mpr ⟨(), validateLaunch_eq_ok_iff.mpr hdirectories, ?_⟩⟩
    exact validateEvidence_eq_ok_iff.mpr hevidence

end Accepted

/-- The shell accepts exactly the valid options in any order, each once, each path option with
the argument after it. -/
theorem parseOptions_eq_ok_iff {system : PathSystem} {arguments : List OsString}
    {options : ParsedOptions} :
    parseOptions system arguments = .ok options ↔
      (∃ items : List ShellArgument, items.Perm options.arguments ∧
        arguments = items.flatMap ShellArgument.render) ∧
        ValidOptions system options := by
  simp only [parseOptions, bind_eq_ok_iff, pure_eq_ok_iff]
  constructor
  · rintro ⟨slots, hslots, launch, hlaunch, ⟨⟩, hvalid, rfl⟩
    obtain ⟨items, hrender, hfills⟩ := parseArguments_eq_ok_iff.mp hslots
    rw [← slots_of_launchMode hlaunch] at hfills
    exact ⟨⟨items, fills_empty_iff.mp hfills, hrender⟩, validateOptions_eq_ok_iff.mp hvalid⟩
  · rintro ⟨⟨items, hperm, hrender⟩, hvalid⟩
    refine ⟨options.slots, parseArguments_eq_ok_iff.mpr ⟨items, hrender, fills_empty_iff.mpr hperm⟩,
      options.launch, launchMode_slots options, (), validateOptions_eq_ok_iff.mpr hvalid, rfl⟩

end Rpackit.Shell
