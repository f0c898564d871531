import Rpackit.Bundle.Validate

/-! # Containment of a loaded bundle

Every resource that a loaded bundle relies on is reached below the canonical
resources directory without a link or another reparse point on the way, whether it
is spelled as declared or from the canonical paths of the bundle. Of all files only
the manifest and the launcher are read.
-/

namespace Rpackit.Bundle

open Text Fallible

variable {fs : Fs} {crates : Crates}

/-- The path names a resource of the kind strictly below the resources directory. No
component below that directory is a reparse point, and resolution ends below it. -/
structure Within (fs : Fs) (resources path : WindowsPath) (kind : RequiredKind) : Prop where
  inspected : ∃ names, names ≠ [] ∧ path = resources.pushAll names ∧
    ∀ first, first ≠ [] → first <+: names → ∃ metadata,
      fs.symlinkMetadata (resources.pushAll first) = .ok metadata ∧ metadata.isReparse = false
  kind : ∃ metadata, fs.symlinkMetadata path = .ok metadata ∧ kind.accepts metadata = true
  resolved : ∃ canonical, fs.canonicalize path = .ok canonical ∧ canonical ≠ resources ∧
    canonical.startsWith resources = true

/-- The entry files of the application. -/
def entryFiles : AppType → List String
  | .singleFile => ["app.R"]
  | .split => ["ui.R", "server.R"]

/-- The critical resources by their names below the resources directory. -/
def declaredResources (appType : AppType) (packages : List String) :
    List (List String × RequiredKind) :=
  [(["R", "bin", "Rscript.exe"], .file), (["R", "library"], .directory), (["app"], .directory),
    (["launcher.R"], .file)] ++
  (entryFiles appType).map (fun leaf => (["app", leaf], .file)) ++
  packages.flatMap fun package =>
    [(["R", "library", package], .directory),
      (["R", "library", package, "DESCRIPTION"], .file)]

/-- The critical resources by the paths of the loaded bundle. -/
def ValidatedBundle.resourcePaths (bundle : ValidatedBundle) : List (WindowsPath × RequiredKind) :=
  [(bundle.rscript, .file), (bundle.library, .directory), (bundle.app, .directory),
    (bundle.launcher, .file)] ++
  (entryFiles bundle.appType).map (fun leaf => (bundle.app.push (osString leaf), .file)) ++
  bundle.packages.flatMap fun package =>
    [(bundle.library.push (osString package), .directory),
      ((bundle.library.push (osString package)).push (osString "DESCRIPTION"), .file)]

/-! ## Plain paths stay within -/

theorem within_of_plain {base last : FsNode} {names : List OsString} {kind : RequiredKind}
    (hbase : fs.tree.Stored base) (hplain : fs.tree.Plain base names last) (hnames : names ≠ [])
    (hkind : kind.accepts last.entry = true) :
    Within fs (.ofLocation base.location) (.ofLocation (base.location.join names)) kind := by
  refine ⟨⟨names, hnames, by simp, fun first hfirst hleads => ?_⟩, ?_, ?_⟩
  · obtain ⟨entry, hlstat, hreparse⟩ := hplain.lstat_prefix hbase hfirst hleads
    rw [WindowsPath.pushAll_ofLocation, WindowsFs.symlinkMetadata_ofLocation]
    exact ⟨entry, hlstat, hreparse⟩
  · rw [WindowsFs.symlinkMetadata_ofLocation]
    exact ⟨last.entry, (hplain.lstat_last hbase hnames).1, hkind⟩
  · refine ⟨_, WindowsFs.canonicalize_ofLocation (hplain.stat_join hbase), ?_, ?_⟩
    · intro hsame
      have hlength := hplain.length_names
      rw [WindowsPath.ofLocation_injective hsame] at hlength
      exact hnames (List.eq_nil_of_length_eq_zero (by omega))
    · obtain ⟨stored, hlocation, -⟩ := hplain.exists_names
      rw [WindowsPath.startsWith_ofLocation, hlocation]
      exact ⟨rfl, List.prefix_append _ _⟩

/-- Below a node that was reached by a plain path, the declared spelling and the one
from the canonical path of the node both stay within. -/
theorem within_spellings {base node last : FsNode} {names rest : List OsString}
    {kind : RequiredKind} (hbase : fs.tree.Stored base) (hplain : fs.tree.Plain base names node)
    (hnames : names ≠ []) (hrest : fs.tree.Plain node rest last)
    (hkind : kind.accepts last.entry = true) :
    Within fs (.ofLocation base.location) (.ofLocation (base.location.join (names ++ rest))) kind ∧
      Within fs (.ofLocation base.location) (.ofLocation (node.location.join rest)) kind := by
  refine ⟨within_of_plain hbase (hplain.append hrest) (by simp [hnames]) hkind, ?_⟩
  obtain ⟨stored, hlocation, hstored⟩ := hplain.exists_names
  have hne : stored ≠ [] := by
    rintro rfl
    have hlength := hplain.length_names
    rw [hlocation, Location.join_nil] at hlength
    exact hnames (List.eq_nil_of_length_eq_zero (by omega))
  rw [hlocation, Location.join_join]
  exact within_of_plain hbase (hstored.append hrest) (by simp [hne]) hkind

/-! ## The checks -/

/-- A critical child extends a plain path by its name. -/
theorem criticalChild_plain {base last : FsNode} {names : List OsString} {leaf field : String}
    {kind : RequiredKind} {path : WindowsPath} (hbase : fs.tree.Stored base)
    (hplain : fs.tree.Plain base names last)
    (hok : criticalChild fs (.ofLocation (base.location.join names)) leaf field kind = .ok path) :
    ∃ child, fs.tree.Plain base (names ++ [osString leaf]) child ∧
      kind.accepts child.entry = true ∧
      path = .ofLocation (base.location.join (names ++ [osString leaf])) := by
  simp only [criticalChild, bind_eq_ok_iff, rejectIf_eq_ok_iff, metadataWithoutLink_eq_ok_iff,
    requireKind_eq_ok_iff, pure_eq_ok_iff, WindowsPath.push_ofLocation, Location.join_join,
    WindowsFs.symlinkMetadata_ofLocation] at hok
  obtain ⟨-, -, metadata, ⟨hlstat, hreparse⟩, -, hkind, rfl⟩ := hok
  obtain ⟨stored, hchild⟩ := hplain.extend hbase hlstat hreparse
  exact ⟨_, hchild, hkind, rfl⟩

theorem criticalChild_plain_root {node : FsNode} {leaf field : String} {kind : RequiredKind}
    {path : WindowsPath} (hnode : fs.tree.Stored node)
    (hok : criticalChild fs (.ofLocation node.location) leaf field kind = .ok path) :
    ∃ child, fs.tree.Plain node [osString leaf] child ∧ kind.accepts child.entry = true ∧
      path = .ofLocation (node.location.join [osString leaf]) := by
  rw [← Location.join_nil node.location] at hok
  exact criticalChild_plain hnode (.nil node) hok

/-- Each entry file of the layout is a plain child of the application directory. -/
theorem validateAppLayout_plain {node : FsNode} {appType : AppType} {u : Unit}
    (hnode : fs.tree.Stored node)
    (hok : validateAppLayout fs (.ofLocation node.location) appType = .ok u) :
    ∀ leaf ∈ entryFiles appType, ∃ child, fs.tree.Plain node [osString leaf] child ∧
      RequiredKind.file.accepts child.entry = true := by
  cases appType with
  | singleFile =>
      simp only [validateAppLayout, bind_eq_ok_iff] at hok
      obtain ⟨path, hchild, -⟩ := hok
      obtain ⟨child, hplain, hkind, -⟩ := criticalChild_plain_root hnode hchild
      simp only [entryFiles, List.mem_singleton, forall_eq]
      exact ⟨child, hplain, hkind⟩
  | split =>
      simp only [validateAppLayout, bind_eq_ok_iff] at hok
      obtain ⟨-, -, -, -, ui, hui, server, hserver, -⟩ := hok
      obtain ⟨uiChild, huiPlain, huiKind, -⟩ := criticalChild_plain_root hnode hui
      obtain ⟨serverChild, hserverPlain, hserverKind, -⟩ :=
        criticalChild_plain_root hnode hserver
      simp only [entryFiles, List.mem_cons, List.not_mem_nil, or_false, forall_eq_or_imp, forall_eq]
      exact ⟨⟨uiChild, huiPlain, huiKind⟩, serverChild, hserverPlain, hserverKind⟩

/-- Each package is a plain directory of the library with a plain description. -/
theorem validateInstalledPackages_plain {node : FsNode} {packages : List String} {u : Unit}
    (hnode : fs.tree.Stored node)
    (hok : validateInstalledPackages fs (.ofLocation node.location) packages = .ok u) :
    ∀ package ∈ packages, ∃ directory description,
      fs.tree.Plain node [osString package] directory ∧
      RequiredKind.directory.accepts directory.entry = true ∧
      fs.tree.Plain node [osString package, osString "DESCRIPTION"] description ∧
      RequiredKind.file.accepts description.entry = true := by
  induction packages with
  | nil => exact fun _ h => absurd h List.not_mem_nil
  | cons first rest ih =>
      simp only [validateInstalledPackages, bind_eq_ok_iff] at hok
      obtain ⟨path, hdirectory, description, hdescription, hrest⟩ := hok
      obtain ⟨directory, hplain, hkind, rfl⟩ := criticalChild_plain_root hnode hdirectory
      obtain ⟨child, hchild, hfile, -⟩ := criticalChild_plain hnode hplain hdescription
      rw [List.forall_mem_cons]
      exact ⟨⟨directory, child, hplain, hkind, hchild, hfile⟩, ih hrest⟩

/-- The manifest path with these components leads to a node of the kind. -/
structure Resolved (fs : Fs) (base : FsNode) (path : WindowsPath) (names : List String)
    (kind : RequiredKind) (node : FsNode) : Prop where
  plain : fs.tree.Plain base (names.map osString) node
  path : path = .ofLocation node.location
  kind : kind.accepts node.entry = true

theorem resolveManifestPath_resolved {value field : String} {kind : RequiredKind} {base : FsNode}
    {path : WindowsPath} {names : List String} (hbase : fs.tree.Stored base)
    (hnames : safePosixComponents value = some names)
    (hok : resolveManifestPath fs (.ofLocation base.location) value field kind = .ok path) :
    ∃ node, Resolved fs base path names kind node := by
  obtain ⟨components, last, hcomponents, hplain, hpath, hkind⟩ :=
    resolveManifestPath_plain hbase hok
  obtain rfl := Option.some.inj (hcomponents.symm.trans hnames)
  exact ⟨last, hplain, hpath, hkind⟩

theorem safePosixComponents_fixed :
    safePosixComponents "R/bin/Rscript.exe" = some ["R", "bin", "Rscript.exe"] ∧
      safePosixComponents "R/library" = some ["R", "library"] ∧
      safePosixComponents "app" = some ["app"] ∧
      safePosixComponents "launcher.R" = some ["launcher.R"] := by decide +kernel

/-- Where the resources of a loaded bundle are. -/
structure Loaded (fs : Fs) (bundle : ValidatedBundle)
    (base rscript library app launcher : FsNode) : Prop where
  stored : fs.tree.Stored base
  resources : bundle.resources = .ofLocation base.location
  rscript : Resolved fs base bundle.rscript ["R", "bin", "Rscript.exe"] .file rscript
  library : Resolved fs base bundle.library ["R", "library"] .directory library
  app : Resolved fs base bundle.app ["app"] .directory app
  launcher : Resolved fs base bundle.launcher ["launcher.R"] .file launcher
  layout : validateAppLayout fs bundle.app bundle.appType = .ok ()
  packages : validateInstalledPackages fs bundle.library bundle.packages = .ok ()

theorem load_loaded {path : WindowsPath} {bundle : ValidatedBundle}
    (hload : ValidatedBundle.load fs crates path = .ok bundle) :
    ∃ base rscript library app launcher, Loaded fs bundle base rscript library app launcher := by
  simp only [ValidatedBundle.load, bind_eq_ok_iff, okOr_eq_ok_iff, pure_eq_ok_iff] at hload
  obtain ⟨root, -, resources, hresources, _, -, manifest, -, semantics, hmanifest, rscriptPath,
    hrscript, libraryPath, hlibrary, appPath, happ, launcherPath, hlauncher, _, -, _, -, _,
    hlayout, _, hpackages, _, -, rfl⟩ := hload
  obtain ⟨base, hbase, rfl⟩ := directResourcesDirectory_stored hresources
  obtain ⟨hpath, -, hscript, hlibraryPath, hlauncherPath⟩ := validateManifest_paths hmanifest
  obtain ⟨hrscriptNames, hlibraryNames, happNames, hlauncherNames⟩ := safePosixComponents_fixed
  rw [hscript] at hrscript
  rw [hlibraryPath] at hlibrary
  rw [hpath] at happ
  rw [hlauncherPath] at hlauncher
  obtain ⟨rscript, hrscript⟩ := resolveManifestPath_resolved hbase hrscriptNames hrscript
  obtain ⟨library, hlibrary⟩ := resolveManifestPath_resolved hbase hlibraryNames hlibrary
  obtain ⟨app, happ⟩ := resolveManifestPath_resolved hbase happNames happ
  obtain ⟨launcher, hlauncher⟩ := resolveManifestPath_resolved hbase hlauncherNames hlauncher
  exact ⟨base, rscript, library, app, launcher, hbase, rfl, hrscript, hlibrary, happ, hlauncher,
    hlayout, hpackages⟩

/-! ## What is within -/

theorem Resolved.within {base node : FsNode} {path : WindowsPath} {names : List String}
    {kind : RequiredKind} (hbase : fs.tree.Stored base) (hnames : names ≠ [])
    (hresolved : Resolved fs base path names kind node) :
    Within fs (.ofLocation base.location)
        (.ofLocation (base.location.join (names.map osString))) kind ∧
      Within fs (.ofLocation base.location) path kind := by
  have hspellings := within_spellings hbase hresolved.plain (by simpa using hnames) (.nil node)
    hresolved.kind
  rw [List.append_nil, Location.join_nil, ← hresolved.path] at hspellings
  exact hspellings

theorem Loaded.entry {bundle : ValidatedBundle} {base rscript library app launcher : FsNode}
    (hloaded : Loaded fs bundle base rscript library app launcher) {leaf : String}
    (hleaf : leaf ∈ entryFiles bundle.appType) :
    Within fs (.ofLocation base.location)
        (.ofLocation (base.location.join ([osString "app"] ++ [osString leaf]))) .file ∧
      Within fs (.ofLocation base.location)
        (.ofLocation (app.location.join [osString leaf])) .file := by
  have hlayout := hloaded.layout
  rw [hloaded.app.path] at hlayout
  obtain ⟨child, hplain, hkind⟩ :=
    validateAppLayout_plain (hloaded.app.plain.stored hloaded.stored) hlayout leaf hleaf
  exact within_spellings hloaded.stored hloaded.app.plain (by simp) hplain hkind

theorem Loaded.package {bundle : ValidatedBundle} {base rscript library app launcher : FsNode}
    (hloaded : Loaded fs bundle base rscript library app launcher) {package : String}
    (hpackage : package ∈ bundle.packages) {rest : List OsString} {kind : RequiredKind}
    (hrest : (rest, kind) ∈ [([osString package], RequiredKind.directory),
      ([osString package, osString "DESCRIPTION"], .file)]) :
    Within fs (.ofLocation base.location)
        (.ofLocation (base.location.join ([osString "R", osString "library"] ++ rest))) kind ∧
      Within fs (.ofLocation base.location) (.ofLocation (library.location.join rest)) kind := by
  have hinstalled := hloaded.packages
  rw [hloaded.library.path] at hinstalled
  obtain ⟨directory, description, hdirectory, hkind, hdescription, hfile⟩ :=
    validateInstalledPackages_plain (hloaded.library.plain.stored hloaded.stored) hinstalled
      package hpackage
  simp only [List.mem_cons, Prod.mk.injEq, List.not_mem_nil, or_false] at hrest
  obtain ⟨rfl, rfl⟩ | ⟨rfl, rfl⟩ := hrest
  · exact within_spellings hloaded.stored hloaded.library.plain (by simp) hdirectory hkind
  · exact within_spellings hloaded.stored hloaded.library.plain (by simp) hdescription hfile

/-- Both spellings of every critical resource of a loaded bundle stay within. -/
theorem Loaded.within {bundle : ValidatedBundle} {base rscript library app launcher : FsNode}
    (hloaded : Loaded fs bundle base rscript library app launcher) :
    (∀ resource ∈ declaredResources bundle.appType bundle.packages,
      Within fs bundle.resources (bundle.resources.pushAll (resource.1.map osString))
        resource.2) ∧
    ∀ resource ∈ bundle.resourcePaths, Within fs bundle.resources resource.1 resource.2 := by
  have hrscript := hloaded.rscript.within hloaded.stored (by simp)
  have hlibrary := hloaded.library.within hloaded.stored (by simp)
  have happ := hloaded.app.within hloaded.stored (by simp)
  have hlauncher := hloaded.launcher.within hloaded.stored (by simp)
  rw [hloaded.resources]
  constructor
  · intro resource hresource
    simp only [declaredResources, List.mem_append, List.mem_cons, List.not_mem_nil, or_false,
      List.mem_map, List.mem_flatMap] at hresource
    rw [WindowsPath.pushAll_ofLocation]
    obtain ((rfl | rfl | rfl | rfl) | ⟨leaf, hleaf, rfl⟩) | ⟨package, hpackage, rfl | rfl⟩ :=
      hresource
    · exact hrscript.1
    · exact hlibrary.1
    · exact happ.1
    · exact hlauncher.1
    · exact (hloaded.entry hleaf).1
    · exact (hloaded.package hpackage List.mem_cons_self).1
    · exact (hloaded.package hpackage (List.mem_cons_of_mem _ List.mem_cons_self)).1
  · intro resource hresource
    simp only [ValidatedBundle.resourcePaths, List.mem_append, List.mem_cons, List.not_mem_nil,
      or_false, List.mem_map, List.mem_flatMap] at hresource
    obtain ((rfl | rfl | rfl | rfl) | ⟨leaf, hleaf, rfl⟩) | ⟨package, hpackage, rfl | rfl⟩ :=
      hresource
    · exact hrscript.2
    · exact hlibrary.2
    · exact happ.2
    · exact hlauncher.2
    -- the loader spells the rest from the app and from the library
    · have hentry := (hloaded.entry hleaf).2
      rw [← WindowsPath.push_ofLocation, ← hloaded.app.path] at hentry
      exact hentry
    · have hdirectory := (hloaded.package hpackage List.mem_cons_self).2
      rw [← WindowsPath.push_ofLocation, ← hloaded.library.path] at hdirectory
      exact hdirectory
    · have hdescription :=
        (hloaded.package hpackage (List.mem_cons_of_mem _ List.mem_cons_self)).2
      rw [← List.singleton_append, ← Location.join_join, ← WindowsPath.push_ofLocation,
        ← WindowsPath.push_ofLocation, ← hloaded.library.path] at hdescription
      exact hdescription

/-! ## What is read -/

theorem metadataWithoutLink_mapContent (fs : Fs) (change : WindowsLocation → Bytes → Bytes)
    (path : WindowsPath) (field : String) :
    ∃ update : Bytes → Bytes, metadataWithoutLink (fs.mapContent change) path field =
      (metadataWithoutLink fs path field).map (Entry.mapContent update) := by
  obtain ⟨update, hmetadata⟩ := fs.symlinkMetadata_mapContent change path
  refine ⟨update, ?_⟩
  rw [metadataWithoutLink, metadataWithoutLink, hmetadata]
  cases fs.symlinkMetadata path with
  | error error => rfl
  | ok metadata =>
      simp only [Except.map, fileSystem, Except.mapError, ok_bind, Entry.isReparse_mapContent]
      cases metadata.isReparse <;> rfl

@[simp] theorem requireKind_mapContent (update : Bytes → Bytes) (metadata : Metadata)
    (kind : RequiredKind) (field : String) :
    requireKind (metadata.mapContent update) kind field = requireKind metadata kind field := by
  cases kind <;> simp [requireKind, RequiredKind.accepts]

/-- A kind check that follows the inspection does not read the content. -/
theorem inspect_mapContent {α : Type} (change : WindowsLocation → Bytes → Bytes)
    (path : WindowsPath) (field : String) {next : Metadata → Except BundleError α}
    (hnext : ∀ update metadata, next (metadata.mapContent update) = next metadata) :
    (metadataWithoutLink (fs.mapContent change) path field >>= next) =
      (metadataWithoutLink fs path field >>= next) := by
  obtain ⟨update, hmetadata⟩ := metadataWithoutLink_mapContent fs change path field
  rw [hmetadata]
  cases metadataWithoutLink fs path field with
  | error error => rfl
  | ok metadata => exact hnext update metadata

@[simp] theorem criticalChild_mapContent (change : WindowsLocation → Bytes → Bytes)
    (directory : WindowsPath) (leaf field : String) (kind : RequiredKind) :
    criticalChild (fs.mapContent change) directory leaf field kind =
      criticalChild fs directory leaf field kind := by
  refine bind_congr_ok fun _ _ => inspect_mapContent change _ _ fun update metadata => ?_
  rw [requireKind_mapContent]

@[simp] theorem criticalChildExists_mapContent (change : WindowsLocation → Bytes → Bytes)
    (directory : WindowsPath) (leaf field : String) (kind : RequiredKind) :
    criticalChildExists (fs.mapContent change) directory leaf field kind =
      criticalChildExists fs directory leaf field kind := by
  apply bind_congr_ok
  intro _ _
  obtain ⟨update, hmetadata⟩ := fs.symlinkMetadata_mapContent change
    (directory.push (osString leaf))
  rw [hmetadata]
  cases fs.symlinkMetadata (directory.push (osString leaf)) with
  | error error => rfl
  | ok metadata => simp only [Except.map, Entry.isReparse_mapContent, requireKind_mapContent]

@[simp] theorem pushInspected_mapContent (change : WindowsLocation → Bytes → Bytes)
    (field : String) (path : WindowsPath) (components : List String) :
    pushInspected (fs.mapContent change) field path components =
      pushInspected fs field path components := by
  induction components generalizing path with
  | nil => rfl
  | cons component rest ih =>
      rw [pushInspected, pushInspected, funext fun _ => ih _]
      exact inspect_mapContent change _ _ fun _ _ => rfl

@[simp] theorem resolveManifestPath_mapContent (change : WindowsLocation → Bytes → Bytes)
    (resources : WindowsPath) (value field : String) (kind : RequiredKind) :
    resolveManifestPath (fs.mapContent change) resources value field kind =
      resolveManifestPath fs resources value field kind := by
  simp only [resolveManifestPath, pushInspected_mapContent, WindowsFs.canonicalize_mapContent]
  refine bind_congr_ok fun _ _ => bind_congr_ok fun _ _ =>
    inspect_mapContent change _ _ fun update metadata => ?_
  rw [requireKind_mapContent]

@[simp] theorem canonicalBundleRoot_mapContent (change : WindowsLocation → Bytes → Bytes)
    (path : WindowsPath) :
    canonicalBundleRoot (fs.mapContent change) path = canonicalBundleRoot fs path := by
  simp only [canonicalBundleRoot, WindowsFs.canonicalize_mapContent]
  refine bind_congr_ok fun _ _ => inspect_mapContent change _ _ fun update metadata => ?_
  rw [requireKind_mapContent]

@[simp] theorem directResourcesDirectory_mapContent (change : WindowsLocation → Bytes → Bytes)
    (bundle : WindowsPath) :
    directResourcesDirectory (fs.mapContent change) bundle =
      directResourcesDirectory fs bundle := by
  simp only [directResourcesDirectory, WindowsFs.canonicalize_mapContent]
  apply inspect_mapContent change _ _
  intro update metadata
  rw [requireKind_mapContent]

@[simp] theorem validateAppLayout_mapContent (change : WindowsLocation → Bytes → Bytes)
    (app : WindowsPath) (appType : AppType) :
    validateAppLayout (fs.mapContent change) app appType = validateAppLayout fs app appType := by
  cases appType <;> simp [validateAppLayout]

@[simp] theorem validateInstalledPackages_mapContent (change : WindowsLocation → Bytes → Bytes)
    (library : WindowsPath) (packages : List String) :
    validateInstalledPackages (fs.mapContent change) library packages =
      validateInstalledPackages fs library packages := by
  induction packages with
  | nil => rfl
  | cons package rest ih => simp [validateInstalledPackages, ih]

/-- A read below a stored node sees the content of the place it resolves to. -/
theorem readBoundedRegularFile_mapContent {change : WindowsLocation → Bytes → Bytes}
    {base : FsNode} {name : OsString} (hbase : fs.tree.Stored base)
    (hkeep : ∀ location, fs.canonicalize (.ofLocation (base.location.join [name])) =
      .ok (.ofLocation location) → ∀ content, change location content = content)
    (maximum : Nat) (operation : String) :
    readBoundedRegularFile (fs.mapContent change) (.ofLocation (base.location.join [name])) maximum
        operation =
      readBoundedRegularFile fs (.ofLocation (base.location.join [name])) maximum operation := by
  have hmapped : (fs.mapContent change).tree.lstat (base.location.join [name]) =
      (fs.tree.nodeIn base name).map fun node => (node.mapContent change).entry :=
    hbase.lstat_join_mapContent change name
  unfold readBoundedRegularFile metadataWithoutLink
  simp only [WindowsFs.symlinkMetadata_ofLocation]
  rw [hmapped, hbase.lstat_join]
  cases hnode : fs.tree.nodeIn base name with
  | error error => rfl
  | ok node =>
      obtain ⟨location, entry⟩ := node
      cases entry with
      | directory reparse => rfl
      | link target => rfl
      | file content reparse =>
          have hstat : fs.tree.stat (base.location.join [name]) =
            .ok ⟨location, .file content reparse⟩ :=
            hbase.stat_join_nodeIn hnode (by simp)
          have hsame := hkeep location (WindowsFs.canonicalize_ofLocation hstat) content
          simp [Node.mapContent, Entry.mapContent, hsame, Except.map]

/-- Of all files, `load` reads the manifest and the launcher and no other. -/
theorem load_mapContent {change : WindowsLocation → Bytes → Bytes} (path : WindowsPath)
    (hkeep : ∀ root resources leaf location, canonicalBundleRoot fs path = .ok root →
      directResourcesDirectory fs root = .ok resources → leaf ∈ ["rpackit.json", "launcher.R"] →
      fs.canonicalize (resources.push (osString leaf)) = .ok (.ofLocation location) →
      ∀ content, change location content = content) :
    ValidatedBundle.load (fs.mapContent change) crates path =
      ValidatedBundle.load fs crates path := by
  simp only [ValidatedBundle.load, canonicalBundleRoot_mapContent,
    directResourcesDirectory_mapContent, resolveManifestPath_mapContent,
    validateAppLayout_mapContent, validateInstalledPackages_mapContent]
  refine bind_congr_ok fun root hroot => bind_congr_ok fun resources hresources => ?_
  obtain ⟨base, hbase, rfl⟩ := directResourcesDirectory_stored hresources
  have hmanifestRead : ∀ location,
      fs.canonicalize (.ofLocation (base.location.join [osString "rpackit.json"])) =
        .ok (.ofLocation location) → ∀ content, change location content = content := by
    intro location hcanonical
    refine hkeep root _ "rpackit.json" location hroot hresources (by simp) ?_
    rw [WindowsPath.push_ofLocation]
    exact hcanonical
  rw [WindowsPath.push_ofLocation, readBoundedRegularFile_mapContent hbase hmanifestRead]
  refine bind_congr_ok fun _ _ => bind_congr_ok fun manifest _ =>
    bind_congr_ok fun semantics hmanifest => bind_congr_ok fun _ _ => bind_congr_ok fun _ _ =>
    bind_congr_ok fun _ _ => bind_congr_ok fun launcher hlauncher => ?_
  rw [(validateManifest_paths hmanifest).2.2.2.2] at hlauncher
  obtain ⟨node, hplain, rfl, -⟩ :=
    resolveManifestPath_resolved hbase safePosixComponents_fixed.2.2.2 hlauncher
  have hstat := hplain.stat_join hbase
  -- The launcher is read at its stored name, which is where the declared one resolves to.
  have hlauncherRead : validateLauncherFile (fs.mapContent change) (.ofLocation node.location) =
      validateLauncherFile fs (.ofLocation node.location) := by
    have hnode : fs.tree.Plain base [osString "launcher.R"] node := hplain
    cases hnode with
    | @cons _ _ _ stored entry _ hdirectory hlookup hentry hrest =>
        cases hrest
        unfold validateLauncherFile
        refine congrArg (· >>= _)
          (@readBoundedRegularFile_mapContent fs change base stored hbase ?_ _ _)
        intro location hcanonical
        refine hkeep root _ "launcher.R" location hroot hresources (by simp) ?_
        rw [WindowsPath.push_ofLocation]
        apply (WindowsFs.canonicalize_ofLocation hstat).trans
        rw [← hcanonical]
        exact (WindowsFs.canonicalize_ofLocation (hplain.stored hbase).stat_location).symm
  rw [hlauncherRead]

/-! ## Every file system -/

/-- What a loaded bundle has taken over from its manifest. -/
theorem load_manifest {path : WindowsPath} {bundle : ValidatedBundle}
    (hload : ValidatedBundle.load fs crates path = .ok bundle) :
    ∃ root bytes manifest, canonicalBundleRoot fs path = .ok root ∧
      directResourcesDirectory fs root = .ok bundle.resources ∧
      readBoundedRegularFile fs (bundle.resources.push (osString "rpackit.json")) manifestMaxBytes
        "read resource manifest" = .ok bytes ∧
      crates.manifest bytes = some manifest ∧
      parseAppType manifest.app.appType = .ok bundle.appType ∧
      bundle.packages = manifest.dependencies.packages := by
  simp only [ValidatedBundle.load, bind_eq_ok_iff, okOr_eq_ok_iff, pure_eq_ok_iff] at hload
  obtain ⟨root, hroot, resources, hresources, bytes, hbytes, manifest, hmanifest, semantics,
    hsemantics, _, -, _, -, _, -, _, -, _, -, _, -, _, -, _, -, _, -, rfl⟩ := hload
  refine ⟨root, bytes, manifest, hroot, hresources, hbytes, hmanifest, ?_, rfl⟩
  simp only [validateManifest, bind_eq_ok_iff, pure_eq_ok_iff] at hsemantics
  obtain ⟨_, -, _, -, appType, happ, _, -, _, -, _, -, _, -, _, -, rfl⟩ := hsemantics
  exact happ

theorem validateAppLayout_split {app : WindowsPath} {u : Unit}
    (hok : validateAppLayout fs app .split = .ok u) :
    fs.symlinkMetadata (app.push (osString "app.R")) = .error .notFound := by
  simp only [validateAppLayout, bind_eq_ok_iff, rejectIf_eq_ok_iff, criticalChildExists] at hok
  obtain ⟨single, ⟨-, -, hexists⟩, -, rfl, -⟩ := hok
  split at hexists
  next hnone => exact hnone
  next => cases hexists
  next metadata _ =>
    simp only [bind_eq_ok_iff, pure_eq_ok_iff] at hexists
    obtain ⟨-, -, -, -, hfalse⟩ := hexists
    cases hfalse

/-- For every file system and every bundle path:
* the resources directory of a loaded bundle is canonical, every critical resource stays
  within it, spelled as declared or from the paths of the bundle, and a split application
  has no `app.R`;
* a reparse point on the way to a critical resource that the manifest declares makes
  `load` fail;
* `load` gives the same result whatever files other than the manifest and the launcher
  contain. -/
theorem load_within (fs : Fs) (crates : Crates) (path : WindowsPath) :
    (∀ bundle, ValidatedBundle.load fs crates path = .ok bundle →
      fs.canonicalize bundle.resources = .ok bundle.resources ∧
      (∀ resource ∈ declaredResources bundle.appType bundle.packages,
        Within fs bundle.resources (bundle.resources.pushAll (resource.1.map osString))
          resource.2) ∧
      (∀ resource ∈ bundle.resourcePaths, Within fs bundle.resources resource.1 resource.2) ∧
      (bundle.appType = .split →
        fs.symlinkMetadata (bundle.app.push (osString "app.R")) = .error .notFound)) ∧
    (∀ root resources bytes manifest appType, canonicalBundleRoot fs path = .ok root →
      directResourcesDirectory fs root = .ok resources →
      readBoundedRegularFile fs (resources.push (osString "rpackit.json")) manifestMaxBytes
        "read resource manifest" = .ok bytes →
      crates.manifest bytes = some manifest → parseAppType manifest.app.appType = .ok appType →
      ∀ resource ∈ declaredResources appType manifest.dependencies.packages, ∀ first metadata,
        first ≠ [] → first <+: resource.1.map osString →
        fs.symlinkMetadata (resources.pushAll first) = .ok metadata → metadata.isReparse = true →
        ∃ error, ValidatedBundle.load fs crates path = .error error) ∧
    ∀ change : WindowsLocation → Bytes → Bytes,
      (∀ root resources leaf location, canonicalBundleRoot fs path = .ok root →
        directResourcesDirectory fs root = .ok resources → leaf ∈ ["rpackit.json", "launcher.R"] →
        fs.canonicalize (resources.push (osString leaf)) = .ok (.ofLocation location) →
        ∀ content, change location content = content) →
      ValidatedBundle.load (fs.mapContent change) crates path =
        ValidatedBundle.load fs crates path := by
  refine ⟨fun bundle hload => ?_, ?_, fun change hkeep => load_mapContent path hkeep⟩
  · obtain ⟨base, rscript, library, app, launcher, hloaded⟩ := load_loaded hload
    obtain ⟨hdeclared, hpaths⟩ := hloaded.within
    refine ⟨?_, hdeclared, hpaths, fun hsplit => ?_⟩
    · rw [hloaded.resources]
      exact WindowsFs.canonicalize_ofLocation hloaded.stored.stat_location
    · have hlayout := hloaded.layout
      rw [hsplit] at hlayout
      exact validateAppLayout_split hlayout
  · intro root resources bytes manifest appType hroot hresources hbytes hmanifest happ resource
      hresource first metadata hfirst hleads hmetadata hreparse
    cases hload : ValidatedBundle.load fs crates path with
    | error error => exact ⟨error, rfl⟩
    | ok bundle =>
        -- A loaded bundle has inspected this very name.
        obtain ⟨root', bytes', manifest', hroot', hresources', hbytes', hmanifest', happ',
          hpackages⟩ := load_manifest hload
        obtain rfl := Except.ok.inj (hroot.symm.trans hroot')
        obtain rfl := Except.ok.inj (hresources.symm.trans hresources')
        obtain rfl := Except.ok.inj (hbytes.symm.trans hbytes')
        obtain rfl := Option.some.inj (hmanifest.symm.trans hmanifest')
        obtain rfl := Except.ok.inj (happ.symm.trans happ')
        rw [← hpackages] at hresource
        obtain ⟨base, rscript, library, app, launcher, hloaded⟩ := load_loaded hload
        obtain ⟨names, -, hnames, hinspected⟩ := (hloaded.within.1 resource hresource).inspected
        rw [hloaded.resources, WindowsPath.pushAll_ofLocation,
          WindowsPath.pushAll_ofLocation] at hnames
        have hsame : resource.1.map osString = names := by
          have hlocation := WindowsPath.ofLocation_injective hnames
          simpa [Location.join] using hlocation
        obtain ⟨entry, hentry, hplain⟩ := hinspected first hfirst (hsame ▸ hleads)
        obtain rfl := Except.ok.inj (hmetadata.symm.trans hentry)
        rw [hreparse] at hplain
        cases hplain

end Rpackit.Bundle
