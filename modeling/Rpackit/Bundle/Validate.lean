import Rpackit.Bundle.Manifest

/-! # Validation of a prepared bundle

Nothing of the bundle is executed. Every critical path is inspected without
following links and must stay below the canonical resources directory.
-/

namespace Rpackit.Bundle

open Text Fallible

abbrev Fs := WindowsFs Bytes

abbrev Metadata := Entry Volume OsString Bytes

/-! ## Inspection of one resource -/

inductive RequiredKind where
  | file
  | directory
  deriving DecidableEq, Repr

def RequiredKind.accepts (kind : RequiredKind) (metadata : Metadata) : Bool :=
  match kind with
  | file => metadata.isFile
  | directory => metadata.isDirectory

def requireKind (metadata : Metadata) (kind : RequiredKind) (field : String) :
    Except BundleError Unit :=
  rejectIf (!kind.accepts metadata) (.wrongResourceType field)

def fileSystem {α : Type} (operation : String) (answer : Except LookupError α) :
    Except BundleError α := answer.mapError (.fileSystem operation)

def metadataWithoutLink (fs : Fs) (path : WindowsPath) (field : String) :
    Except BundleError Metadata := do
  let metadata ← fileSystem "inspect critical resource" (fs.symlinkMetadata path)
  rejectIf metadata.isReparse (.reparsePoint field)
  return metadata

def criticalChild (fs : Fs) (directory : WindowsPath) (leaf field : String) (kind : RequiredKind) :
    Except BundleError WindowsPath := do
  rejectIf (!validLeaf leaf) (.unsafeManifestPath field)
  let path := directory.push (osString leaf)
  let metadata ← metadataWithoutLink fs path field
  requireKind metadata kind field
  return path

def criticalChildExists (fs : Fs) (directory : WindowsPath) (leaf field : String)
    (kind : RequiredKind) : Except BundleError Bool := do
  rejectIf (!validLeaf leaf) (.unsafeManifestPath field)
  match fs.symlinkMetadata (directory.push (osString leaf)) with
  | .error .notFound => return false
  | .error error => throw (.fileSystem "inspect optional critical resource" error)
  | .ok metadata => do
      rejectIf metadata.isReparse (.reparsePoint field)
      requireKind metadata kind field
      return true

def content? : Metadata → Option Bytes
  | .file content _ => some content
  | _ => none

/-- The file is static: its length is the length of what is read. -/
def readBoundedRegularFile (fs : Fs) (path : WindowsPath) (maximum : Nat) (operation : String) :
    Except BundleError Bytes := do
  let metadata ← metadataWithoutLink fs path operation
  let bytes ← okOr (content? metadata) (.wrongResourceType operation)
  rejectIf (decide (bytes.length > maximum)) (.resourceTooLarge operation)
  return bytes

/-! ## Manifest paths -/

def safePosixComponents (value : String) : Option (List String) :=
  let text := value.toList
  if value.isEmpty || value.utf8ByteSize > 1024 || text.head? == some '/'
    || text.getLast? == some '/' || text.contains '\\' || text.contains ':'
    || text.any isControl then none
  else
    let components := (text.splitOn '/').map String.ofList
    if components.any fun component => component.isEmpty || component == "." || component == ".."
    then none
    else some components

/-- Push the components one after another and inspect each path. -/
def pushInspected (fs : Fs) (field : String) (path : WindowsPath) :
    List String → Except BundleError WindowsPath
  | [] => return path
  | component :: rest => do
      let path := path.push (osString component)
      let _ ← metadataWithoutLink fs path field
      pushInspected fs field path rest

def resolveManifestPath (fs : Fs) (resources : WindowsPath) (value field : String)
    (kind : RequiredKind) : Except BundleError WindowsPath := do
  let components ← okOr (safePosixComponents value) (.unsafeManifestPath field)
  let path ← pushInspected fs field resources components
  let metadata ← metadataWithoutLink fs path field
  requireKind metadata kind field
  let path ← fileSystem "canonicalize manifest path" (fs.canonicalize path)
  rejectIf (path == resources || !path.startsWith resources) (.unsafeManifestPath field)
  return path

/-! ## The bundle -/

def manifestMaxBytes : Nat := 256 * 1024
def launcherMaxBytes : Nat := 256 * 1024

def canonicalBundleRoot (fs : Fs) (path : WindowsPath) : Except BundleError WindowsPath := do
  rejectIf (!path.isAbsolute) .invalidBundleRoot
  let metadata ← metadataWithoutLink fs path "bundle"
  requireKind metadata .directory "bundle"
  fileSystem "canonicalize bundle" (fs.canonicalize path)

def directResourcesDirectory (fs : Fs) (bundle : WindowsPath) : Except BundleError WindowsPath := do
  let resources := bundle.push (osString "resources")
  let metadata ← metadataWithoutLink fs resources "resources"
  requireKind metadata .directory "resources"
  let resources ← fileSystem "canonicalize resources" (fs.canonicalize resources)
  rejectIf (resources.parent != some bundle) (.unsafeManifestPath "resources")
  return resources

def validateAppLayout (fs : Fs) (app : WindowsPath) : AppType → Except BundleError Unit
  | .singleFile => do
      let _ ← criticalChild fs app "app.R" "app.app.R" .file
      return ()
  | .split => do
      let single ← criticalChildExists fs app "app.R" "app.app.R" .file
      rejectIf single .applicationLayoutMismatch
      let _ ← criticalChild fs app "ui.R" "app.ui.R" .file
      let _ ← criticalChild fs app "server.R" "app.server.R" .file
      return ()

def validateInstalledPackages (fs : Fs) (library : WindowsPath) :
    List String → Except BundleError Unit
  | [] => return ()
  | package :: rest => do
      let directory ← criticalChild fs library package "runtime.package" .directory
      let _ ← criticalChild fs directory "DESCRIPTION" "runtime.package.DESCRIPTION" .file
      validateInstalledPackages fs library rest

def requiredMarkers : List String :=
  ["event_prefix <- 'RPACKIT_EVENT '",
    "protocol_version = '2'",
    "--token-file <path>",
    "readLines(token_file, n = 2L",
    "unlink(token_file, force = TRUE)",
    "options(shiny.sharedSecret = token)",
    "rpackit_authenticated_app_path",
    "token_enforced = TRUE",
    "host = '127.0.0.1'",
    "launch.browser = announce_listening"]

def forbiddenMarkers : List String :=
  ["0.0.0.0", "RPACKIT_SESSION_TOKEN", "?rpackit_token=", "--token <token>",
    "token_enforced = FALSE"]

def containsMarker (launcher : Bytes) (marker : String) : Bool :=
  (windowPosition (asBytes marker) launcher).isSome

def validateLauncherFile (fs : Fs) (path : WindowsPath) : Except BundleError Unit := do
  let bytes ← readBoundedRegularFile fs path launcherMaxBytes "read launcher"
  rejectIf (decodeUtf8 bytes).isNone .invalidLauncherText
  rejectIf (bytes.contains 0) .invalidLauncherText
  rejectIf ((requiredMarkers.any fun marker => !containsMarker bytes marker)
    || forbiddenMarkers.any (containsMarker bytes)) .launcherContractMismatch

structure ValidatedBundle where
  bundle : WindowsPath
  resources : WindowsPath
  manifest : WindowsPath
  rscript : WindowsPath
  library : WindowsPath
  app : WindowsPath
  launcher : WindowsPath
  appType : AppType
  runtimeSource : RuntimeSource
  runtimeVersion : Option String
  packages : List String
  createdByVersion : String
  deriving DecidableEq, Repr

/-- `ValidatedBundle::load`. -/
def ValidatedBundle.load (fs : Fs) (crates : Crates) (bundle : WindowsPath) :
    Except BundleError ValidatedBundle := do
  let bundle ← canonicalBundleRoot fs bundle
  let resources ← directResourcesDirectory fs bundle
  let manifestPath := resources.push (osString "rpackit.json")
  let manifestBytes ← readBoundedRegularFile fs manifestPath manifestMaxBytes
    "read resource manifest"
  let manifest ← okOr (crates.manifest manifestBytes) .invalidManifestJson
  let semantics ← validateManifest crates manifest
  let rscript ← resolveManifestPath fs resources manifest.runtime.rscript "runtime.rscript" .file
  let library ← resolveManifestPath fs resources manifest.runtime.library "runtime.library"
    .directory
  let app ← resolveManifestPath fs resources manifest.app.path "app.path" .directory
  let launcher ← resolveManifestPath fs resources manifest.launcher.script "launcher.script" .file
  let runtimeRoot ← resolveManifestPath fs resources manifest.runtime.path "runtime.path" .directory
  rejectIf (!rscript.startsWith runtimeRoot || !library.startsWith runtimeRoot)
    (.unsafeManifestPath "runtime")
  validateAppLayout fs app semantics.appType
  validateInstalledPackages fs library manifest.dependencies.packages
  validateLauncherFile fs launcher
  return {
    bundle := bundle
    resources := resources
    manifest := manifestPath
    rscript := rscript
    library := library
    app := app
    launcher := launcher
    appType := semantics.appType
    runtimeSource := semantics.runtimeSource
    runtimeVersion := manifest.runtime.rVersion
    packages := manifest.dependencies.packages
    createdByVersion := manifest.createdBy.version }

/-! ## What validation establishes -/

variable {fs : Fs} {crates : Crates}

abbrev FsNode := Node Volume OsString Bytes

theorem fileSystem_eq_ok_iff {α : Type} {operation : String} {answer : Except LookupError α}
    {a : α} : fileSystem operation answer = .ok a ↔ answer = .ok a := mapError_eq_ok_iff

theorem metadataWithoutLink_eq_ok_iff {path : WindowsPath} {field : String} {metadata : Metadata} :
    metadataWithoutLink fs path field = .ok metadata ↔
      fs.symlinkMetadata path = .ok metadata ∧ metadata.isReparse = false := by
  simp only [metadataWithoutLink, bind_eq_ok_iff, fileSystem_eq_ok_iff, rejectIf_eq_ok_iff,
    pure_eq_ok_iff]
  constructor
  · rintro ⟨_, hmetadata, -, hreparse, rfl⟩
    exact ⟨hmetadata, hreparse⟩
  · rintro ⟨hmetadata, hreparse⟩
    exact ⟨metadata, hmetadata, (), hreparse, rfl⟩

theorem requireKind_eq_ok_iff {metadata : Metadata} {kind : RequiredKind} {field : String}
    {u : Unit} : requireKind metadata kind field = .ok u ↔ kind.accepts metadata = true := by
  rw [requireKind, rejectIf_eq_ok_iff, Bool.not_eq_false']

/-- Each pushed component extends a plain path; the path still spells the names as given. -/
theorem pushInspected_plain {field : String} {base last : FsNode} {names : List OsString}
    {components : List String} {path : WindowsPath} (hbase : fs.tree.Stored base)
    (hplain : fs.tree.Plain base names last)
    (hok : pushInspected fs field (.ofLocation (base.location.join names)) components = .ok path) :
    ∃ found, fs.tree.Plain base (names ++ components.map osString) found ∧
      path = .ofLocation (base.location.join (names ++ components.map osString)) := by
  induction components generalizing names last with
  | nil =>
      rw [pushInspected, pure_eq_ok_iff] at hok
      rw [List.map_nil, List.append_nil]
      exact ⟨last, hplain, hok⟩
  | cons component rest ih =>
      rw [pushInspected] at hok
      simp only [WindowsPath.push_ofLocation, Location.join_join, bind_eq_ok_iff,
        metadataWithoutLink_eq_ok_iff, WindowsFs.symlinkMetadata_ofLocation] at hok
      obtain ⟨metadata, ⟨hlstat, hreparse⟩, hrest⟩ := hok
      obtain ⟨stored, hnext⟩ := hplain.extend hbase hlstat hreparse
      rw [List.map_cons, List.append_cons]
      exact ih hnext hrest

/-- A resolved manifest path is the canonical path at the end of a plain path. -/
theorem resolveManifestPath_plain {value field : String} {kind : RequiredKind} {base : FsNode}
    {path : WindowsPath} (hbase : fs.tree.Stored base)
    (hok : resolveManifestPath fs (.ofLocation base.location) value field kind = .ok path) :
    ∃ components last, safePosixComponents value = some components ∧
      fs.tree.Plain base (components.map osString) last ∧ path = .ofLocation last.location ∧
      kind.accepts last.entry = true := by
  simp only [resolveManifestPath, bind_eq_ok_iff, okOr_eq_ok_iff, rejectIf_eq_ok_iff,
    fileSystem_eq_ok_iff, metadataWithoutLink_eq_ok_iff, requireKind_eq_ok_iff, pure_eq_ok_iff]
    at hok
  obtain ⟨components, hcomponents, pushed, hpushed, metadata, ⟨hlstat, -⟩, -, hkind, canonical,
    hcanonical, -, hbelow, rfl⟩ := hok
  obtain ⟨last, hplain, rfl⟩ := pushInspected_plain hbase (.nil base) (by simpa using hpushed)
  rw [List.nil_append] at hplain hlstat hcanonical
  rw [WindowsFs.symlinkMetadata_ofLocation] at hlstat
  have hpath := WindowsFs.canonicalize_ofLocation (hplain.stat_join hbase)
  obtain rfl := Except.ok.inj (hcanonical.symm.trans hpath)
  refine ⟨components, last, hcomponents, hplain, rfl, ?_⟩
  -- without a component the path would be the resources directory itself
  have hnames : components.map osString ≠ [] := by
    intro hnil
    rw [hnil] at hplain
    cases hplain
    simp at hbelow
  obtain rfl := Except.ok.inj (hlstat.symm.trans (hplain.lstat_last hbase hnames).1)
  exact hkind

/-- The resources directory of a loaded bundle is a stored directory. -/
theorem directResourcesDirectory_stored {bundle resources : WindowsPath}
    (hok : directResourcesDirectory fs bundle = .ok resources) :
    ∃ base, fs.tree.Stored base ∧ resources = .ofLocation base.location := by
  simp only [directResourcesDirectory, bind_eq_ok_iff, fileSystem_eq_ok_iff, pure_eq_ok_iff] at hok
  obtain ⟨_, -, _, -, canonical, hcanonical, _, -, rfl⟩ := hok
  obtain ⟨location, node, -, hstat, rfl⟩ := WindowsFs.canonicalize_eq_ok_iff.mp hcanonical
  exact ⟨node, FileTree.stored_stat hstat, rfl⟩

/-- The validated `Rscript.exe` lies on a plain path below the resources. -/
theorem load_rscript {path : WindowsPath} {bundle : ValidatedBundle}
    (hload : ValidatedBundle.load fs crates path = .ok bundle) :
    ∃ base runtime bin rscript, fs.tree.Stored base ∧
      bundle.resources = .ofLocation base.location ∧ bundle.rscript = .ofLocation rscript.location ∧
      fs.tree.Plain base [osString "R"] runtime ∧ fs.tree.Plain runtime [osString "bin"] bin ∧
      fs.tree.Plain bin [osString "Rscript.exe"] rscript := by
  simp only [ValidatedBundle.load, bind_eq_ok_iff, okOr_eq_ok_iff, pure_eq_ok_iff] at hload
  obtain ⟨root, -, resources, hresources, _, -, manifest, -, semantics, hmanifest, rscriptPath,
    hrscript, _, -, _, -, _, -, _, -, _, -, _, -, _, -, _, -, rfl⟩ := hload
  obtain ⟨base, hbase, rfl⟩ := directResourcesDirectory_stored hresources
  rw [(validateManifest_paths hmanifest).2.2.1] at hrscript
  obtain ⟨components, rscript, hcomponents, hplain, rfl, -⟩ :=
    resolveManifestPath_plain hbase hrscript
  have hparts : safePosixComponents "R/bin/Rscript.exe" = some ["R", "bin", "Rscript.exe"] := by
    decide +kernel
  obtain rfl := Option.some.inj (hparts.symm.trans hcomponents)
  have hfirst : fs.tree.Plain base ([osString "R"] ++ [osString "bin", osString "Rscript.exe"])
      rscript := hplain
  obtain ⟨runtime, hruntime, hrest⟩ := hfirst.split
  have hsecond : fs.tree.Plain runtime ([osString "bin"] ++ [osString "Rscript.exe"]) rscript :=
    hrest
  obtain ⟨bin, hbin, hlast⟩ := hsecond.split
  exact ⟨base, runtime, bin, rscript, hbase, rfl, rfl, hruntime, hbin, hlast⟩

end Rpackit.Bundle
