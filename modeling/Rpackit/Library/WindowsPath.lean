import Rpackit.Library.FileTree
import Mathlib.Data.Option.Basic

/-! # Windows paths

A path is its list of components. Verbatim paths name a place exactly; what the
others name is up to the system. A canonical path is the verbatim path of a place
that resolution reached.
-/

/-- Text of the system: UTF-16 code units. -/
abbrev OsString := List UInt16

def encodeUtf16 (c : Char) : OsString :=
  if c.toNat < 0x10000 then [c.toNat.toUInt16]
  else [(0xD800 + (c.toNat - 0x10000) / 0x400).toUInt16,
    (0xDC00 + (c.toNat - 0x10000) % 0x400).toUInt16]

def osString (text : String) : OsString := text.toList.flatMap encodeUtf16

/-- A drive letter; its case does not matter. -/
abbrev Drive := Fin 26

inductive Prefix where
  | verbatim (name : OsString)
  | verbatimUnc (server share : OsString)
  | verbatimDisk (drive : Drive)
  | deviceNs (name : OsString)
  | unc (server share : OsString)
  | disk (drive : Drive)
  deriving DecidableEq, Repr

inductive Component where
  | pathPrefix (kind : Prefix)
  | rootDir
  | curDir
  | parentDir
  | normal (name : OsString)
  deriving DecidableEq, Repr

structure WindowsPath where
  components : List Component
  deriving DecidableEq, Repr

namespace WindowsPath

def isAbsolute (path : WindowsPath) : Bool :=
  match path.components with
  | .pathPrefix _ :: .rootDir :: _ => true
  | _ => false

/-- Append one name. -/
def push (path : WindowsPath) (name : OsString) : WindowsPath :=
  ⟨path.components ++ [.normal name]⟩

def pushAll (path : WindowsPath) (names : List OsString) : WindowsPath :=
  ⟨path.components ++ names.map .normal⟩

def parent (path : WindowsPath) : Option WindowsPath :=
  match path.components.getLast? with
  | none => none
  | some .rootDir => none
  | some (.pathPrefix _) => none
  | some _ => some ⟨path.components.dropLast⟩

def fileName (path : WindowsPath) : Option OsString :=
  match path.components.getLast? with
  | some (.normal name) => some name
  | _ => none

def startsWith (path base : WindowsPath) : Bool := base.components.isPrefixOf path.components

def Prefix.text : Prefix → OsString
  | .verbatim name => osString "\\\\?\\" ++ name
  | .verbatimUnc server share => osString "\\\\?\\UNC\\" ++ server ++ osString "\\" ++ share
  | .verbatimDisk drive => osString "\\\\?\\" ++ [0x41 + drive.val.toUInt16, 0x3A]
  | .deviceNs name => osString "\\\\.\\" ++ name
  | .unc server share => osString "\\\\" ++ server ++ osString "\\" ++ share
  | .disk drive => [0x41 + drive.val.toUInt16, 0x3A]

/-- The text of the components; `separate` after a component that needs a separator. -/
def render (separate : Bool) : List Component → OsString
  | [] => []
  | .pathPrefix kind :: rest => Prefix.text kind ++ render false rest
  | .rootDir :: rest => osString "\\" ++ render false rest
  | .curDir :: rest => (if separate then osString "\\" else []) ++ osString "." ++ render true rest
  | .parentDir :: rest =>
      (if separate then osString "\\" else []) ++ osString ".." ++ render true rest
  | .normal name :: rest => (if separate then osString "\\" else []) ++ name ++ render true rest

def asOsString (path : WindowsPath) : OsString := render false path.components

end WindowsPath

/-! ## Places -/

inductive Volume where
  | disk (drive : Drive)
  | share (server share : OsString)
  | named (name : OsString)
  deriving DecidableEq, Repr

def Volume.verbatim : Volume → Prefix
  | disk drive => .verbatimDisk drive
  | share server name => .verbatimUnc server name
  | named name => .verbatim name

theorem Volume.verbatim_injective : Function.Injective Volume.verbatim := by
  intro first second heq
  cases first <;> cases second <;> simp_all [verbatim]

abbrev WindowsLocation := Location Volume OsString

namespace WindowsPath

/-- The verbatim path of a place. -/
def ofLocation (location : WindowsLocation) : WindowsPath :=
  ⟨.pathPrefix location.volume.verbatim :: .rootDir :: location.names.map .normal⟩

theorem normal_injective : Function.Injective Component.normal := fun _ _ heq =>
  Component.normal.inj heq

theorem ofLocation_injective : Function.Injective ofLocation := by
  rintro ⟨first, names⟩ ⟨second, others⟩ heq
  simp only [ofLocation, mk.injEq, List.cons.injEq, Component.pathPrefix.injEq, true_and] at heq
  rw [Volume.verbatim_injective heq.1, List.map_injective_iff.mpr normal_injective heq.2]

@[simp] theorem isAbsolute_ofLocation (location : WindowsLocation) :
    (ofLocation location).isAbsolute = true := rfl

@[simp] theorem push_ofLocation (location : WindowsLocation) (name : OsString) :
    (ofLocation location).push name = ofLocation (location.join [name]) := by
  simp [ofLocation, push, Location.join]

@[simp] theorem pushAll_ofLocation (location : WindowsLocation) (names : List OsString) :
    (ofLocation location).pushAll names = ofLocation (location.join names) := by
  simp [ofLocation, pushAll, Location.join]

@[simp] theorem parent_ofLocation_join (location : WindowsLocation) (name : OsString) :
    (ofLocation (location.join [name])).parent = some (ofLocation location) := by
  have hlast : (ofLocation (location.join [name])).components =
      (ofLocation location).components ++ [.normal name] := by
    simp [ofLocation, Location.join]
  rw [parent, hlast, List.getLast?_concat, List.dropLast_concat]

theorem startsWith_ofLocation {location base : WindowsLocation} :
    (ofLocation location).startsWith (ofLocation base) = true ↔
      base.volume = location.volume ∧ base.names <+: location.names := by
  simp only [startsWith, ofLocation, List.isPrefixOf_iff_prefix, List.cons_prefix_cons,
    Component.pathPrefix.injEq, true_and]
  exact and_congr Volume.verbatim_injective.eq_iff
    (List.prefix_map_iff_of_injective normal_injective)

end WindowsPath

/-! ## File systems -/

/-- A tree, and where the system looks for a path that is not verbatim. -/
structure WindowsFs (C : Type) where
  tree : FileTree Volume OsString C
  win32 : WindowsPath → Except LookupError WindowsLocation

namespace WindowsFs

variable {C : Type} (fs : WindowsFs C)

def normalNames : List Component → Option (List OsString)
  | [] => some []
  | .normal name :: rest => (normalNames rest).map (name :: ·)
  | _ => none

/-- The place a path names, before links are followed. -/
def locate (path : WindowsPath) : Except LookupError WindowsLocation :=
  match path.components with
  | .pathPrefix kind :: .rootDir :: rest =>
      match kind, normalNames rest with
      | .verbatimDisk drive, some names => .ok ⟨.disk drive, names⟩
      | .verbatimUnc server name, some names => .ok ⟨.share server name, names⟩
      | .verbatim name, some names => .ok ⟨.named name, names⟩
      | _, _ => fs.win32 path
  | _ => fs.win32 path

theorem normalNames_map (names : List OsString) :
    normalNames (names.map .normal) = some names := by
  induction names with
  | nil => rfl
  | cons name rest ih => simp [normalNames, ih]

@[simp] theorem locate_ofLocation (location : WindowsLocation) :
    fs.locate (.ofLocation location) = .ok location := by
  obtain ⟨volume, names⟩ := location
  simp only [locate, WindowsPath.ofLocation, normalNames_map]
  cases volume <;> rfl

/-! ## Queries -/

/-- `fs::symlink_metadata`. -/
def symlinkMetadata (path : WindowsPath) : Except LookupError (Entry Volume OsString C) := do
  let location ← fs.locate path
  fs.tree.lstat location

/-- `fs::metadata`. -/
def metadata (path : WindowsPath) : Except LookupError (Entry Volume OsString C) := do
  let location ← fs.locate path
  let node ← fs.tree.stat location
  return node.entry

/-- `fs::canonicalize`. -/
def canonicalize (path : WindowsPath) : Except LookupError WindowsPath := do
  let location ← fs.locate path
  let node ← fs.tree.stat location
  return .ofLocation node.location

/-- `Path::is_file`. -/
def isFile (path : WindowsPath) : Bool :=
  match fs.metadata path with
  | .ok entry => entry.isFile
  | .error _ => false

/-- `Path::is_dir`. -/
def isDir (path : WindowsPath) : Bool :=
  match fs.metadata path with
  | .ok entry => entry.isDirectory
  | .error _ => false

/-- Whether the path itself is a symbolic link or another reparse point. -/
def isReparsePoint (path : WindowsPath) : Bool :=
  match fs.symlinkMetadata path with
  | .ok entry => entry.isReparse
  | .error _ => false

variable {fs}

theorem symlinkMetadata_ofLocation (location : WindowsLocation) :
    fs.symlinkMetadata (.ofLocation location) = fs.tree.lstat location := by
  rw [symlinkMetadata, locate_ofLocation, Fallible.ok_bind]

theorem canonicalize_eq_ok_iff {path canonical : WindowsPath} :
    fs.canonicalize path = .ok canonical ↔ ∃ location node, fs.locate path = .ok location ∧
      fs.tree.stat location = .ok node ∧ canonical = .ofLocation node.location := by
  simp only [canonicalize, Fallible.bind_eq_ok_iff, Fallible.pure_eq_ok_iff]
  exact ⟨fun ⟨location, hlocate, node, hstat, heq⟩ => ⟨location, node, hlocate, hstat, heq⟩,
    fun ⟨location, node, hlocate, hstat, heq⟩ => ⟨location, hlocate, node, hstat, heq⟩⟩

theorem canonicalize_ofLocation {location : WindowsLocation} {node : Node Volume OsString C}
    (hstat : fs.tree.stat location = .ok node) :
    fs.canonicalize (.ofLocation location) = .ok (.ofLocation node.location) :=
  canonicalize_eq_ok_iff.mpr ⟨location, node, fs.locate_ofLocation location, hstat, rfl⟩

theorem isFile_eq_true_iff {path : WindowsPath} :
    fs.isFile path = true ↔ ∃ location node, fs.locate path = .ok location ∧
      fs.tree.stat location = .ok node ∧ node.entry.isFile = true := by
  have hmetadata : fs.isFile path = true ↔ ∃ entry, fs.metadata path = .ok entry ∧
      entry.isFile = true := by
    unfold isFile
    split
    next entry hentry => simp [hentry]
    next error herror => simp [herror]
  rw [hmetadata]
  simp only [metadata, Fallible.bind_eq_ok_iff, Fallible.pure_eq_ok_iff]
  constructor
  · rintro ⟨_, ⟨location, hlocate, node, hstat, rfl⟩, hfile⟩
    exact ⟨location, node, hlocate, hstat, hfile⟩
  · rintro ⟨location, node, hlocate, hstat, hfile⟩
    exact ⟨_, ⟨location, hlocate, node, hstat, rfl⟩, hfile⟩

/-! ## Other contents -/

/-- The same file system with other contents of its files. -/
def mapContent (change : WindowsLocation → C → C) (fs : WindowsFs C) : WindowsFs C :=
  ⟨fs.tree.mapContent change, fs.win32⟩

@[simp] theorem locate_mapContent (change : WindowsLocation → C → C) (path : WindowsPath) :
    (fs.mapContent change).locate path = fs.locate path := rfl

@[simp] theorem canonicalize_mapContent (change : WindowsLocation → C → C) (path : WindowsPath) :
    (fs.mapContent change).canonicalize path = fs.canonicalize path := by
  unfold canonicalize
  rw [locate_mapContent]
  apply Fallible.bind_congr_ok
  intro location _
  change ((fs.tree.mapContent change).stat location >>= _) = _
  rw [FileTree.stat_mapContent]
  cases fs.tree.stat location <;> rfl

theorem symlinkMetadata_mapContent (fs : WindowsFs C) (change : WindowsLocation → C → C)
    (path : WindowsPath) :
    ∃ update : C → C, (fs.mapContent change).symlinkMetadata path =
      (fs.symlinkMetadata path).map (Entry.mapContent update) := by
  unfold symlinkMetadata
  rw [locate_mapContent]
  cases fs.locate path with
  | error error => exact ⟨id, rfl⟩
  | ok location => exact FileTree.lstat_mapContent change location

end WindowsFs
