import Rpackit.Lifecycle.Command

/-! # The interpreter

Validation inspects `R/bin/Rscript.exe`, but the executed file is
`R/bin/x64/Rscript.exe`, and the last two components are only followed.
-/

namespace Rpackit.Lifecycle

open Fallible Rpackit.Bundle
open Rpackit.Windows (EnvironmentEntry LaunchCommand LaunchEnvironment ProcessEnvironment
  UppercaseTable)

variable {fs : Fs}

/-! ## Spellings -/

theorem appendNormalComponents_map (path : WindowsPath) (names : List OsString) :
    appendNormalComponents path (names.map .normal) = .ok (path.pushAll names) := by
  induction names generalizing path with
  | nil => simp [appendNormalComponents, WindowsPath.pushAll]; rfl
  | cons name rest ih =>
      rw [List.map_cons, appendNormalComponents, ih]
      simp [WindowsPath.push, WindowsPath.pushAll]

/-- The prefix of the ordinary paths on a volume. -/
def ordinaryPrefix : Volume → Option Prefix
  | .disk drive => some (.disk drive)
  | .share server share => some (.unc server share)
  | .named _ => none

theorem ordinaryWindowsPath_ofLocation {location : WindowsLocation} {path : WindowsPath} :
    ordinaryWindowsPath (.ofLocation location) = .ok path ↔
      ∃ kind, ordinaryPrefix location.volume = some kind ∧
        path = ⟨.pathPrefix kind :: .rootDir :: location.names.map .normal⟩ := by
  obtain ⟨volume, names⟩ := location
  cases volume with
  | disk drive =>
      simp [ordinaryWindowsPath, WindowsPath.ofLocation, Volume.verbatim, appendNormalComponents,
        appendNormalComponents_map, ordinaryPrefix, WindowsPath.pushAll, eq_comm]
  | share server share =>
      simp [ordinaryWindowsPath, WindowsPath.ofLocation, Volume.verbatim, appendNormalComponents,
        appendNormalComponents_map, ordinaryPrefix, WindowsPath.pushAll, eq_comm]
  | named name =>
      simp [ordinaryWindowsPath, WindowsPath.ofLocation, Volume.verbatim, ordinaryPrefix]

theorem ordinaryPrefix_injective {first second : Volume} {kind : Prefix}
    (hfirst : ordinaryPrefix first = some kind) (hsecond : ordinaryPrefix second = some kind) :
    first = second := by
  cases first <;> cases second <;> cases hfirst <;> cases hsecond <;> rfl

/-- Only one place has a given ordinary spelling. -/
theorem ordinaryWindowsPath_injective {first second : WindowsLocation} {path : WindowsPath}
    (hfirst : ordinaryWindowsPath (.ofLocation first) = .ok path)
    (hsecond : ordinaryWindowsPath (.ofLocation second) = .ok path) : first = second := by
  obtain ⟨kind, hkind, rfl⟩ := ordinaryWindowsPath_ofLocation.mp hfirst
  obtain ⟨other, hother, heq⟩ := ordinaryWindowsPath_ofLocation.mp hsecond
  simp only [WindowsPath.mk.injEq, List.cons.injEq, Component.pathPrefix.injEq, true_and] at heq
  obtain ⟨rfl, hnames⟩ := heq
  obtain ⟨volume, names⟩ := first
  obtain ⟨other, others⟩ := second
  cases ordinaryPrefix_injective hkind hother
  cases List.map_injective_iff.mpr WindowsPath.normal_injective hnames
  rfl

/-! ## Containment -/

/-- No component below the base is a symbolic link or another reparse point. -/
def NoReparseBelow (fs : Fs) (base : WindowsPath) (below : List OsString) : Prop :=
  ∀ names, names ≠ [] → names <+: below → ∃ metadata,
    fs.symlinkMetadata (base.pushAll names) = .ok metadata ∧ metadata.isReparse = false

/-- The program is the regular file at these components below the resources, inside
the runtime directory, and no component is a reparse point. -/
structure ContainedAt (fs : Fs) (bundle : ValidatedBundle) (program : WindowsPath)
    (below : List OsString) : Prop where
  spelled : ordinaryWindowsPath (bundle.resources.pushAll below) = .ok program
  sameFile : fs.canonicalize program = fs.canonicalize (bundle.resources.pushAll below)
  insideRuntime : ∃ runtime canonical,
    fs.canonicalize (bundle.resources.push (osString "R")) = .ok runtime ∧
      fs.canonicalize program = .ok canonical ∧ canonical.startsWith runtime = true
  regular : ∃ metadata, fs.symlinkMetadata (bundle.resources.pushAll below) = .ok metadata ∧
    metadata.isFile = true
  noReparse : NoReparseBelow fs bundle.resources below

def Contained (fs : Fs) (bundle : ValidatedBundle) (program : WindowsPath) : Prop :=
  ∃ below, ContainedAt fs bundle program below

def x64Directory (bundle : ValidatedBundle) : WindowsPath :=
  bundle.resources.pushAll (["R", "bin", "x64"].map osString)

def x64Interpreter (bundle : ValidatedBundle) : WindowsPath :=
  bundle.resources.pushAll (["R", "bin", "x64", "Rscript.exe"].map osString)

/-! ## The executed path -/

def x64Names : List OsString := ["x64", "Rscript.exe"].map osString

theorem rCompatibleExistingPath_eq_ok_iff {path compatible : WindowsPath} :
    rCompatibleExistingPath fs path = .ok compatible ↔
      path.isAbsolute = true ∧ ordinaryWindowsPath path = .ok compatible ∧
        ∃ canonical, fs.canonicalize path = .ok canonical ∧
          fs.canonicalize compatible = .ok canonical := by
  simp only [rCompatibleExistingPath, lifecycleIo, bind_eq_ok_iff, rejectIf_eq_ok_iff,
    mapError_eq_ok_iff, pure_eq_ok_iff, Bool.not_eq_false', bne_eq_false_iff_eq]
  constructor
  · rintro ⟨_, habsolute, _, hordinary, canonical, hpath, _, hcompatible, _, rfl, rfl⟩
    exact ⟨habsolute, hordinary, canonical, hpath, hcompatible⟩
  · rintro ⟨habsolute, hordinary, canonical, hpath, hcompatible⟩
    exact ⟨(), habsolute, compatible, hordinary, canonical, hpath, canonical, hcompatible, (), rfl,
      rfl⟩

/-- The program of a command is the ordinary spelling of the interpreter that was found. -/
theorem launchCommand_program {platform : Platform} {bundle : ValidatedBundle} {port : UInt16}
    {session : PrivateSession} {command : LaunchCommand}
    (hcommand : launchCommand platform bundle port session = .ok command) :
    ∃ found, bundledRInterpreter platform bundle = .ok found ∧
      rCompatibleExistingPath platform.fs found = .ok command.program := by
  simp only [launchCommand, bundledRCommand, bind_eq_ok_iff, pure_eq_ok_iff] at hcommand
  obtain ⟨found, hfound, interpreter, hinterpreter, _, -, _, hbundled, _, -, rfl⟩ := hcommand
  obtain ⟨_, -, _, -, _, -, _, -, _, -, _, -, _, -, _, -, rfl⟩ := hbundled
  exact ⟨found, hfound, hinterpreter⟩

theorem bundledRInterpreter_eq_ok {platform : Platform} {bundle : ValidatedBundle}
    {found directory : WindowsPath} (hparent : bundle.rscript.parent = some directory)
    (hfound : bundledRInterpreter platform bundle = .ok found) :
    found = directory.pushAll x64Names ∧ platform.fs.isFile found = true := by
  simp only [bundledRInterpreter, bind_eq_ok_iff, okOr_eq_ok_iff, rejectIf_eq_ok_iff,
    pure_eq_ok_iff, Bool.not_eq_false'] at hfound
  obtain ⟨_, -, parent, hsome, _, hfile, rfl⟩ := hfound
  obtain rfl := Option.some.inj (hparent.symm.trans hsome)
  exact ⟨by simp [WindowsPath.push, WindowsPath.pushAll, x64Names], hfile⟩

/-- The program spells two names below the validated `bin` directory, and they are
followed to a file. -/
structure Executed (fs : Fs) (bundle : ValidatedBundle) (program : WindowsPath)
    (base runtime bin found : FsNode) : Prop where
  stored : fs.tree.Stored base
  resources : bundle.resources = .ofLocation base.location
  runtimePlain : fs.tree.Plain base [osString "R"] runtime
  binPlain : fs.tree.Plain runtime [osString "bin"] bin
  spelled : ordinaryWindowsPath (.ofLocation (bin.location.join x64Names)) = .ok program
  followed : fs.tree.stat (bin.location.join x64Names) = .ok found
  file : found.entry.isFile = true
  canonical : fs.canonicalize program = .ok (.ofLocation found.location)

theorem launchCommand_executed {crates : Crates} {path : WindowsPath} {platform : Platform}
    {bundle : ValidatedBundle} {port : UInt16} {session : PrivateSession} {command : LaunchCommand}
    (hload : ValidatedBundle.load platform.fs crates path = .ok bundle)
    (hcommand : launchCommand platform bundle port session = .ok command) :
    ∃ base runtime bin found,
      Executed platform.fs bundle command.program base runtime bin found := by
  obtain ⟨base, runtime, bin, rscript, hbase, hresources, hrscript, hruntime, hbin, hlast⟩ :=
    load_rscript hload
  obtain ⟨path, hinterpreter, hcompatible⟩ := launchCommand_program hcommand
  have hparent : bundle.rscript.parent = some (.ofLocation bin.location) := by
    cases hlast with
    | cons hdirectory hlookup hentry hrest =>
        cases hrest
        rw [hrscript]
        exact WindowsPath.parent_ofLocation_join _ _
  obtain ⟨rfl, hfile⟩ := bundledRInterpreter_eq_ok hparent hinterpreter
  rw [WindowsPath.pushAll_ofLocation] at hfile hcompatible
  obtain ⟨-, hspelled, canonical, hpath, hprogram⟩ :=
    rCompatibleExistingPath_eq_ok_iff.mp hcompatible
  obtain ⟨location, found, hlocate, hstat, hentry⟩ := WindowsFs.isFile_eq_true_iff.mp hfile
  rw [WindowsFs.locate_ofLocation] at hlocate
  obtain rfl := Except.ok.inj hlocate
  rw [WindowsFs.canonicalize_ofLocation hstat] at hpath
  exact ⟨base, runtime, bin, found, hbase, hresources, hruntime, hbin, hspelled, hstat, hentry,
    hprogram.trans hpath.symm⟩

section Directions

variable {bundle : ValidatedBundle} {program : WindowsPath} {base runtime bin found : FsNode}

theorem Executed.bin_plain (hexecuted : Executed fs bundle program base runtime bin found) :
    fs.tree.Plain base (["R", "bin"].map osString) bin :=
  hexecuted.runtimePlain.append hexecuted.binPlain

theorem Executed.bin_stored (hexecuted : Executed fs bundle program base runtime bin found) :
    fs.tree.Stored bin := hexecuted.bin_plain.stored hexecuted.stored

/-- Inspection below `R/bin` is inspection below the validated directory. -/
theorem Executed.isReparsePoint_eq (hexecuted : Executed fs bundle program base runtime bin found)
    {names : List OsString} (hnames : names ≠ []) :
    fs.isReparsePoint (bundle.resources.pushAll (["R", "bin"].map osString ++ names)) =
      fs.isReparsePoint (.ofLocation (bin.location.join names)) := by
  unfold WindowsFs.isReparsePoint
  rw [hexecuted.resources, WindowsPath.pushAll_ofLocation, WindowsFs.symlinkMetadata_ofLocation,
    WindowsFs.symlinkMetadata_ofLocation, hexecuted.bin_plain.lstat_append hexecuted.stored hnames]

theorem isReparsePoint_eq_false_iff {path : WindowsPath} :
    fs.isReparsePoint path = false ↔
      ∀ metadata, fs.symlinkMetadata path = .ok metadata → metadata.isReparse = false := by
  unfold WindowsFs.isReparsePoint
  split
  next metadata hmetadata => simp [hmetadata]
  next error herror => simp [herror]

/-- The components of a contained program are the stored names of `R/bin` and the two names. -/
theorem Executed.not_reparse_of_contained
    (hexecuted : Executed fs bundle program base runtime bin found)
    (hcontained : Contained fs bundle program) {names : List OsString} (hnames : names ≠ [])
    (hleads : names <+: x64Names) :
    fs.isReparsePoint (.ofLocation (bin.location.join names)) = false := by
  obtain ⟨below, hbelow⟩ := hcontained
  obtain ⟨stored, hlocation, -⟩ := hexecuted.bin_plain.exists_names
  have hspelled := hbelow.spelled
  rw [hexecuted.resources, WindowsPath.pushAll_ofLocation] at hspelled
  have hsame := ordinaryWindowsPath_injective hspelled hexecuted.spelled
  rw [hlocation, Location.join_join] at hsame
  have hcomponents : below = stored ++ x64Names :=
    List.append_cancel_left (congrArg Location.names hsame)
  obtain ⟨metadata, hmetadata, hreparse⟩ := hbelow.noReparse (stored ++ names) (by simp [hnames])
    (hcomponents ▸ (List.prefix_append_right_inj stored).mpr hleads)
  rw [hexecuted.resources, WindowsPath.pushAll_ofLocation, ← Location.join_join, ← hlocation]
    at hmetadata
  rw [isReparsePoint_eq_false_iff]
  intro other hother
  obtain rfl := Except.ok.inj (hmetadata.symm.trans hother)
  exact hreparse

/-- Without a reparse point among the two names, the program is contained. -/
theorem Executed.contained (hexecuted : Executed fs bundle program base runtime bin found)
    (hplain : ∀ names, names ≠ [] → names <+: x64Names →
      fs.isReparsePoint (.ofLocation (bin.location.join names)) = false) :
    Contained fs bundle program := by
  have hfound : fs.tree.Plain bin x64Names found := by
    apply FileTree.Plain.of_stat hexecuted.bin_stored (.nil bin) hexecuted.followed
    intro names entry hnames hleads hentry
    rw [List.nil_append, ← WindowsFs.symlinkMetadata_ofLocation] at hentry
    exact isReparsePoint_eq_false_iff.mp (hplain names hnames hleads) entry hentry
  -- three plain paths, one behind the other, make one plain path
  obtain ⟨runtimeNames, hruntimeLocation, hruntime⟩ := hexecuted.runtimePlain.exists_names
  obtain ⟨binNames, hbinLocation, hbin⟩ := hexecuted.binPlain.exists_names
  obtain ⟨foundNames, hfoundLocation, -⟩ := (hbin.append hfound).exists_names
  have hall := hruntime.append (hbin.append hfound)
  have hlocation : bin.location.join x64Names =
      base.location.join (runtimeNames ++ (binNames ++ x64Names)) := by
    rw [hbinLocation, hruntimeLocation, Location.join_join, Location.join_join]
  have hpath : bundle.resources.pushAll (runtimeNames ++ (binNames ++ x64Names)) =
      .ofLocation (bin.location.join x64Names) := by
    rw [hexecuted.resources, WindowsPath.pushAll_ofLocation, hlocation]
  have hnonempty : runtimeNames ++ (binNames ++ x64Names) ≠ [] := by simp [x64Names]
  refine ⟨runtimeNames ++ (binNames ++ x64Names), ?_, ?_, ⟨.ofLocation runtime.location,
    .ofLocation found.location, ?_, hexecuted.canonical, ?_⟩, ⟨found.entry, ?_, hexecuted.file⟩, ?_⟩
  · rw [hpath]
    exact hexecuted.spelled
  · rw [hpath, WindowsFs.canonicalize_ofLocation hexecuted.followed]
    exact hexecuted.canonical
  · rw [hexecuted.resources, WindowsPath.push_ofLocation]
    exact WindowsFs.canonicalize_ofLocation (hexecuted.runtimePlain.stat_join hexecuted.stored)
  · rw [WindowsPath.startsWith_ofLocation, hfoundLocation]
    exact ⟨rfl, List.prefix_append _ _⟩
  · rw [hpath, WindowsFs.symlinkMetadata_ofLocation, hlocation]
    exact (hall.lstat_last hexecuted.stored hnonempty).1
  · intro names hnames hleads
    rw [hexecuted.resources, WindowsPath.pushAll_ofLocation, WindowsFs.symlinkMetadata_ofLocation]
    exact hall.lstat_prefix hexecuted.stored hnames hleads

end Directions

/-- The launched program is contained exactly if neither `R/bin/x64` nor the
interpreter in it is a symbolic link or another reparse point. -/
theorem launched_program_contained_iff {crates : Crates} {path : WindowsPath} {platform : Platform}
    {bundle : ValidatedBundle} {port : UInt16} {session : PrivateSession} {command : LaunchCommand}
    (hload : ValidatedBundle.load platform.fs crates path = .ok bundle)
    (hcommand : launchCommand platform bundle port session = .ok command) :
    Contained platform.fs bundle command.program ↔
      platform.fs.isReparsePoint (x64Directory bundle) = false ∧
        platform.fs.isReparsePoint (x64Interpreter bundle) = false := by
  obtain ⟨base, runtime, bin, found, hexecuted⟩ := launchCommand_executed hload hcommand
  have hdirectory := hexecuted.isReparsePoint_eq (List.cons_ne_nil (osString "x64") [])
  have hinterpreter := hexecuted.isReparsePoint_eq
    (List.cons_ne_nil (osString "x64") [osString "Rscript.exe"])
  constructor
  · intro hcontained
    exact ⟨hdirectory.trans (hexecuted.not_reparse_of_contained hcontained
        (List.cons_ne_nil _ _) ⟨[osString "Rscript.exe"], rfl⟩),
      hinterpreter.trans (hexecuted.not_reparse_of_contained hcontained
        (List.cons_ne_nil _ _) (List.prefix_refl _))⟩
  · rintro ⟨hfirst, hsecond⟩
    apply hexecuted.contained
    intro names hnames hleads
    match names with
    | [] => exact absurd rfl hnames
    | [name] =>
        obtain ⟨rfl, -⟩ := List.cons_prefix_cons.mp hleads
        exact hdirectory.symm.trans hfirst
    | name :: other :: rest =>
        obtain ⟨rfl, hrest⟩ := List.cons_prefix_cons.mp hleads
        obtain ⟨rfl, hnil⟩ := List.cons_prefix_cons.mp hrest
        obtain rfl := List.prefix_nil.mp hnil
        exact hinterpreter.symm.trans hsecond

/-! ## A bundle with and without a junction -/

section Fixture

open Text

def driveC : Drive := 2
def driveD : Drive := 3

def place (drive : Drive) (names : List String) : WindowsLocation :=
  ⟨.disk drive, names.map osString⟩

def fixtureManifestJson : Bytes :=
  ["\x7b\"schema_version\":\"1\",\"bundle_type\":\"rpackit-desktop-resources\",",
    "\"app\":\x7b\"name\":\"Hello\",\"type\":\"shiny-single-file\",\"path\":\"app\"\x7d,",
    "\"runtime\":\x7b\"path\":\"R\",\"rscript\":\"R/bin/Rscript.exe\",",
    "\"library\":\"R/library\",\"platform\":\"windows\",\"source\":\"explicit\"\x7d,",
    "\"launcher\":\x7b\"script\":\"launcher.R\",\"host\":\"127.0.0.1\",",
    "\"port\":\"required-argument\",\"token\":\"private-file\",",
    "\"control\":\"optional-argument\",\"protocol_version\":\"2\",",
    "\"event_stream\":\x7b\"format\":\"ndjson\",\"destination\":\"stdout\",",
    "\"prefix\":\"RPACKIT_EVENT \"\x7d,\"network_token_enforced\":true,",
    "\"authentication\":\x7b\"scheme\":\"shiny-shared-secret\",",
    "\"header\":\"Shiny-Shared-Secret\",\"scope\":[\"http\",\"websocket\"],",
    "\"token_transport\":\"private-file\",\"token_in_url\":false,",
    "\"minimum_shiny_version\":\"1.3.0\"\x7d,",
    "\"readiness\":\x7b\"strategy\":\"authenticated-http-poll\",",
    "\"starting_event\":\"listening\"\x7d\x7d,",
    "\"dependencies\":\x7b\"installed\":true,\"strategy\":\"install-packages\",",
    "\"packages\":[\"jsonlite\",\"later\",\"shiny\"],\"constraints\":[],",
    "\"constraints_verified\":true\x7d,",
    "\"created_by\":\x7b\"package\":\"rpackit\",\"version\":\"0.1.0\"\x7d\x7d"].flatMap asBytes

/-- The object above, field by field. -/
def fixtureManifest : Manifest where
  schemaVersion := "1"
  bundleType := "rpackit-desktop-resources"
  app := ⟨"Hello", "shiny-single-file", "app"⟩
  runtime := ⟨"R", "R/bin/Rscript.exe", "R/library", "windows", none, "explicit", none⟩
  launcher := ⟨"launcher.R", "127.0.0.1", "required-argument", "private-file", "optional-argument",
    "2", ⟨"ndjson", "stdout", "RPACKIT_EVENT "⟩, true, ⟨"shiny-shared-secret",
      "Shiny-Shared-Secret", ["http", "websocket"], "private-file", false, "1.3.0"⟩,
    ⟨"authenticated-http-poll", "listening"⟩⟩
  dependencies := ⟨true, "install-packages", ["jsonlite", "later", "shiny"], none, none, [], true⟩
  createdBy := ⟨"rpackit", "0.1.0"⟩

def fixtureCrates : Crates where
  manifest _ := some fixtureManifest
  url _ := none

def fixtureLauncher : Bytes :=
  ["event_prefix <- 'RPACKIT_EVENT '\n", "payload <- list(protocol_version = '2')\n",
    "usage <- '--token-file <path>'\n",
    "token_lines <- readLines(token_file, n = 2L, warn = FALSE)\n",
    "unlink(token_file, force = TRUE)\n", "options(shiny.sharedSecret = token)\n",
    "class(app) <- 'rpackit_authenticated_app_path'\n", "token_enforced = TRUE\n",
    "host = '127.0.0.1'\n", "launch.browser = announce_listening\n"].flatMap asBytes

abbrev FixtureRow := WindowsLocation × OsString × Metadata

def directoryRow (drive : Drive) (parent : List String) (name : String) : FixtureRow :=
  (place drive parent, osString name, .directory false)

def fileRow (drive : Drive) (parent : List String) (name : String) (content : Bytes) :
    FixtureRow := (place drive parent, osString name, .file content false)

/-- A bundle at `C:\bundle`, a session at `C:\session`, and an interpreter at `D:\tools`. -/
def fixtureRows (x64 : Metadata) : List FixtureRow :=
  let resources := ["bundle", "resources"]
  let library := resources ++ ["R", "library"]
  [directoryRow driveC [] "bundle", directoryRow driveC [] "session",
    directoryRow driveC ["bundle"] "resources",
    fileRow driveC resources "rpackit.json" fixtureManifestJson,
    fileRow driveC resources "launcher.R" fixtureLauncher,
    directoryRow driveC resources "app", fileRow driveC (resources ++ ["app"]) "app.R" [],
    directoryRow driveC resources "R", directoryRow driveC (resources ++ ["R"]) "bin",
    fileRow driveC (resources ++ ["R", "bin"]) "Rscript.exe" [],
    (place driveC (resources ++ ["R", "bin"]), osString "x64", x64),
    fileRow driveC (resources ++ ["R", "bin", "x64"]) "Rscript.exe" [],
    directoryRow driveC (resources ++ ["R"]) "library",
    directoryRow driveC library "jsonlite",
    fileRow driveC (library ++ ["jsonlite"]) "DESCRIPTION" [],
    directoryRow driveC library "later", fileRow driveC (library ++ ["later"]) "DESCRIPTION" [],
    directoryRow driveC library "shiny", fileRow driveC (library ++ ["shiny"]) "DESCRIPTION" [],
    directoryRow driveD [] "tools", fileRow driveD ["tools"] "Rscript.exe" []]

/-- Ordinary paths name what their components say. -/
def fixtureWin32 (path : WindowsPath) : Except LookupError WindowsLocation :=
  match path.components with
  | .pathPrefix (.disk drive) :: .rootDir :: rest =>
      match WindowsFs.normalNames rest with
      | some names => .ok ⟨.disk drive, names⟩
      | none => .error .other
  | _ => .error .other

/-- The variables of a user who has another R, by a spelling of the own. -/
def fixtureVars : List EnvironmentEntry :=
  [⟨osString "Path", osString "C:\\Windows"⟩, ⟨osString "r_home", osString "D:\\tools"⟩]

theorem fixtureVars_reportable : ∀ entry ∈ fixtureVars, entry.Reportable := by
  simp only [fixtureVars, List.forall_mem_cons]
  exact ⟨⟨by decide, by decide, by decide, by decide⟩,
    ⟨by decide, by decide, by decide, by decide⟩, List.forall_mem_nil _⟩

def fixtureParent : ProcessEnvironment where
  vars := fixtureVars
  path := some (osString "C:\\Windows")
  reportable := fixtureVars_reportable
  path_nulFree := by
    intro value hvalue
    rw [← Option.some.inj (Option.mem_def.mp hvalue)]
    decide

def fixturePlatform (x64 : Metadata) : Platform where
  arch := "x86_64"
  fs := ⟨.ofRows (fixtureRows x64) 63, fixtureWin32⟩
  ordinal := UppercaseTable.asciiOnly.ordinal
  process := fixtureParent

def ordinaryPath (drive : Drive) (names : List String) : WindowsPath :=
  ⟨.pathPrefix (.disk drive) :: .rootDir :: names.map fun name => .normal (osString name)⟩

def fixtureSession : PrivateSession :=
  ⟨ordinaryPath driveC ["session"], ordinaryPath driveC ["session", "token"],
    ordinaryPath driveC ["session", "control"]⟩

def fixtureBundle : ValidatedBundle :=
  let below := fun names => WindowsPath.ofLocation (place driveC (["bundle", "resources"] ++ names))
  { bundle := .ofLocation (place driveC ["bundle"])
    resources := below []
    manifest := below ["rpackit.json"]
    rscript := below ["R", "bin", "Rscript.exe"]
    library := below ["R", "library"]
    app := below ["app"]
    launcher := below ["launcher.R"]
    appType := .singleFile
    runtimeSource := .explicit
    runtimeVersion := none
    packages := ["jsonlite", "later", "shiny"]
    createdByVersion := "0.1.0" }

def fixtureInterpreter : WindowsPath :=
  ordinaryPath driveC ["bundle", "resources", "R", "bin", "x64", "Rscript.exe"]

/-- What is left of the variables of the user, and those of the bundle, in their order. -/
def fixtureEnvironment : LaunchEnvironment where
  entries :=
    [("PATH", "C:\\bundle\\resources\\R\\bin\\x64;C:\\bundle\\resources\\R\\bin;C:\\Windows"),
      ("RPACKIT_LAUNCH_PROTOCOL", "2"), ("R_HOME", "C:\\bundle\\resources\\R"),
      ("R_LIBS", "C:\\bundle\\resources\\R\\library"),
      ("R_LIBS_SITE", "C:\\bundle\\resources\\R\\library"),
      ("R_LIBS_USER", "C:\\bundle\\resources\\R\\library")].map fun setting =>
        ⟨osString setting.1, osString setting.2⟩

def fixtureCommand : LaunchCommand where
  program := fixtureInterpreter
  arguments := ["--vanilla", "C:\\bundle\\resources\\launcher.R", "--app",
    "C:\\bundle\\resources\\app", "--port", "49152", "--token-file", "C:\\session\\token",
    "--control", "C:\\session\\control"].map osString
  currentDirectory := ordinaryPath driveC ["bundle", "resources"]
  environment := some fixtureEnvironment

/-- `R/bin/x64` is a junction to `D:\tools`. -/
def junction : Metadata := .link (place driveD ["tools"])

/-- Neither the validation nor the command sees what `R/bin/x64` is. -/
theorem fixture_loads : ∀ x64 ∈ [.directory false, junction],
    ValidatedBundle.load (fixturePlatform x64).fs fixtureCrates (ordinaryPath driveC ["bundle"]) =
      .ok fixtureBundle := by decide +kernel

theorem fixture_commands : ∀ x64 ∈ [.directory false, junction],
    launchCommand (fixturePlatform x64) fixtureBundle 49152 fixtureSession =
      .ok fixtureCommand := by decide +kernel

theorem fixture_load : ValidatedBundle.load (fixturePlatform (.directory false)).fs fixtureCrates
    (ordinaryPath driveC ["bundle"]) = .ok fixtureBundle :=
  fixture_loads _ List.mem_cons_self

theorem fixture_command : launchCommand (fixturePlatform (.directory false)) fixtureBundle 49152
    fixtureSession = .ok fixtureCommand := fixture_commands _ List.mem_cons_self

theorem launched_program_contained_fixture :
    Contained (fixturePlatform (.directory false)).fs fixtureBundle fixtureCommand.program :=
  (launched_program_contained_iff fixture_load fixture_command).mpr
    ⟨by decide, by decide⟩

/-- The validated bundle launches a program outside of it. -/
theorem launched_program_escapes :
    ValidatedBundle.load (fixturePlatform junction).fs fixtureCrates
      (ordinaryPath driveC ["bundle"]) = .ok fixtureBundle ∧
    launchCommand (fixturePlatform junction) fixtureBundle 49152 fixtureSession =
      .ok fixtureCommand ∧
    (fixturePlatform junction).fs.canonicalize fixtureCommand.program =
      .ok (.ofLocation (place driveD ["tools", "Rscript.exe"])) ∧
    ¬Contained (fixturePlatform junction).fs fixtureBundle fixtureCommand.program := by
  have hjunction : junction ∈ [.directory false, junction] := List.mem_of_getElem? (i := 1) rfl
  have hload := fixture_loads junction hjunction
  have hcommand := fixture_commands junction hjunction
  refine ⟨hload, hcommand, by decide, fun hcontained => ?_⟩
  obtain ⟨base, runtime, bin, found, hexecuted⟩ := launchCommand_executed hload hcommand
  have hplain := hexecuted.not_reparse_of_contained hcontained
    (List.cons_ne_nil (osString "x64") []) ⟨[osString "Rscript.exe"], rfl⟩
  rw [← hexecuted.isReparsePoint_eq (List.cons_ne_nil _ _)] at hplain
  have hlink : (fixturePlatform junction).fs.isReparsePoint (x64Directory fixtureBundle) =
      true := by
    decide
  exact absurd hlink (by rw [x64Directory]; exact Bool.eq_false_iff.mp hplain)

end Fixture

end Rpackit.Lifecycle
