import Mathlib.Data.List.Sort
import Rpackit.Library.Fallible
import Rpackit.Library.Utf16
import Rpackit.Windows.ListenerTable

/-! # Identity of the reviewed fixed runtime

The directory of the runtime is walked, its files are sorted by their relative paths, and
their paths, lengths and contents are fed to a hash. The walk stops at the first entry that
the reviewed package cannot have.
-/

namespace Rpackit.Spike

open Fallible Text Utf16
open Windows (littleEndian)

inductive IoError where
  | os (code : UInt32)
  | other (message : String)
  deriving DecidableEq, Repr

/-! ## What the system answers -/

inductive FileKind where
  | directory
  | file
  | other
  deriving DecidableEq, Repr

structure Metadata where
  kind : FileKind
  fileAttributes : UInt32
  length : UInt64
  deriving DecidableEq, Repr

def reparsePointAttribute : UInt32 := 0x400

def isReparsePoint (metadata : Metadata) : Bool :=
  metadata.fileAttributes &&& reparsePointAttribute != 0

/-- A name that an enumeration reports: it has no separator, and is not one of the two dot names.
It may end in a dot or a space, or name a device; what the system makes of it is in its answers. -/
def isPlain (name : OsString) : Bool :=
  !name.isEmpty && name.all (fun unit => unit != 0x2F && unit != 0x5C && unit != 0x3A)
    && name != osString "." && name != osString ".."

/-- The answers of the system below a root, where a place is named by the components of its
path. The reads of an opened file end with the first that returns nothing; the executable is
opened a second time, when the tree has been hashed. -/
structure RuntimeTree where
  symlinkMetadata : List OsString → Except IoError Metadata
  readDir : List OsString → Except IoError (List (Except IoError OsString))
  reads : List OsString → Except IoError (List (Except IoError Bytes))
  executable : String → Except IoError (List (Except IoError Bytes))
  plain : ∀ directory entries name, readDir directory = .ok entries → .ok name ∈ entries →
    isPlain name = true

/-- The fields of the manifest that the verification looks at. -/
structure FixedRuntimeManifest where
  packageDirectory : String
  expandedTreeSha256 : Bytes
  expandedFileCount : Nat
  expandedBytes : UInt64
  executable : String
  executableSha256 : Bytes
  deriving DecidableEq, Repr

def treeHashDomain : Bytes := asBytes "rpackit-webview2-tree-v1" ++ [0]
def maxRuntimeDirectories : Nat := 32
def maxRuntimeDepth : Nat := 8
def maxRelativePathBytes : Nat := 512

/-! ## The walk -/

structure RuntimeFile where
  relative : List Char
  path : List OsString
  length : UInt64
  deriving DecidableEq, Repr

def pushPart (normalized : List Char) (part : OsString) : Except IoError (List Char) := do
  let part ← okOr (toStr part) (.other "runtime path is not Unicode")
  return (if normalized.isEmpty then normalized else normalized ++ ['/']) ++ part

/-- The path below the root, with a slash between two components. All components are normal
ones, as they are names from an enumeration. -/
def normalizedRelativePath (path : List OsString) : Except IoError (List Char) := do
  let normalized ← path.foldlM pushPart []
  rejectIf (normalized.isEmpty || maxRelativePathBytes < (encodeUtf8 normalized).length)
    (.other "runtime relative path has an invalid length")
  return normalized

/-- What the walk has found. -/
structure Walk where
  directoryCount : Nat
  files : List RuntimeFile
  deriving DecidableEq, Repr

def visitEntry (tree : RuntimeTree) (manifest : FixedRuntimeManifest)
    (descend : List OsString → Walk → Except IoError Walk) (directory : List OsString)
    (walk : Walk) (entry : Except IoError OsString) : Except IoError Walk := do
  let name ← entry
  let path := directory ++ [name]
  let metadata ← tree.symlinkMetadata path
  rejectIf (isReparsePoint metadata) (.other "fixed WebView2 runtime contains a reparse point")
  match metadata.kind with
  | .directory =>
      rejectIf (maxRuntimeDirectories < walk.directoryCount + 1)
        (.other "fixed WebView2 runtime contains too many directories")
      descend path { walk with directoryCount := walk.directoryCount + 1 }
  | .file =>
      rejectIf (manifest.expandedFileCount ≤ walk.files.length)
        (.other "fixed WebView2 runtime contains too many files")
      let relative ← normalizedRelativePath path
      return { walk with files := walk.files ++ [⟨relative, path, metadata.length⟩] }
  | .other => .error (.other "fixed WebView2 runtime contains an unsupported entry")

/-- The first argument is how many levels the walk may still enter: at depth `depth` that is
`maxRuntimeDepth + 1 - depth`. -/
def collectRuntimeFiles (tree : RuntimeTree) (manifest : FixedRuntimeManifest) :
    Nat → List OsString → Walk → Except IoError Walk
  | 0, _, _ => .error (.other "fixed WebView2 runtime nesting is unexpectedly deep")
  | levels + 1, directory, walk => do
      let entries ← tree.readDir directory
      entries.foldlM
        (visitEntry tree manifest (collectRuntimeFiles tree manifest levels) directory) walk

/-- The order of the listing: strings are compared by their bytes. -/
def Precedes (left right : RuntimeFile) : Prop :=
  encodeUtf8 left.relative ≤ encodeUtf8 right.relative

instance : DecidableRel Precedes := fun left right =>
  inferInstanceAs (Decidable (encodeUtf8 left.relative ≤ encodeUtf8 right.relative))

def sortByRelative (files : List RuntimeFile) : List RuntimeFile := files.insertionSort Precedes

/-- The files of the runtime, sorted by the bytes of their paths. -/
def runtimeFiles (tree : RuntimeTree) (manifest : FixedRuntimeManifest) :
    Except IoError (List RuntimeFile) := do
  let walk ← collectRuntimeFiles tree manifest (maxRuntimeDepth + 1) [] ⟨0, []⟩
  return sortByRelative walk.files

/-! ## The hash -/

def u64Limit : Nat := 2 ^ 64

/-- Feed the reads of a file; what is returned is what the hasher has been fed, and how many
bytes of it came from the file. -/
def feedReads : List (Except IoError Bytes) → Bytes × Nat → Except IoError (Bytes × Nat)
  | [], state => .ok state
  | .error error :: _, _ => .error error
  | .ok chunk :: rest, (hasher, observed) =>
      if chunk.isEmpty then .ok (hasher, observed)
      else do
        rejectIf (u64Limit ≤ observed + chunk.length) (.other "runtime file size overflow")
        feedReads rest (hasher ++ chunk, observed + chunk.length)

def feedFile (tree : RuntimeTree) (hasher : Bytes) (file : RuntimeFile) :
    Except IoError Bytes := do
  let pathBytes := encodeUtf8 file.relative
  rejectIf (2 ^ 32 ≤ pathBytes.length) (.other "runtime relative path is too long")
  let header := littleEndian 4 pathBytes.length ++ pathBytes ++ littleEndian 8 file.length.toNat
  let reads ← tree.reads file.path
  let (hasher, observed) ← feedReads reads (hasher ++ header, 0)
  rejectIf (observed != file.length.toNat)
    (.other "runtime file changed while its identity was verified")
  return hasher

/-- What `hash_runtime_tree` feeds to SHA-256. -/
def treePreimage (tree : RuntimeTree) (files : List RuntimeFile) : Except IoError Bytes :=
  files.foldlM (feedFile tree) treeHashDomain

def hashRuntimeTree (sha256 : Bytes → Bytes) (tree : RuntimeTree) (files : List RuntimeFile) :
    Except IoError Bytes := do
  return hexEncode (sha256 (← treePreimage tree files))

def hashReads : List (Except IoError Bytes) → Bytes → Except IoError Bytes
  | [], hasher => .ok hasher
  | .error error :: _, _ => .error error
  | .ok chunk :: rest, hasher =>
      if chunk.isEmpty then .ok hasher else hashReads rest (hasher ++ chunk)

def hashFile (sha256 : Bytes → Bytes) (file : Except IoError (List (Except IoError Bytes))) :
    Except IoError Bytes := do
  return hexEncode (sha256 (← hashReads (← file) []))

/-! ## The verification -/

/-- The components of a path that are names and texts. -/
def textComponents (path : WindowsPath) : List Bytes :=
  path.components.filterMap fun
    | .normal name => (toStr name).map encodeUtf8
    | _ => none

def containsEdgeApplicationSequence (path : WindowsPath) : Bool :=
  ((textComponents path).zip (textComponents path).tail).any fun pair =>
    eqIgnoreAsciiCase pair.1 (asBytes "Edge") && eqIgnoreAsciiCase pair.2 (asBytes "Application")

def addLength (total : Nat) (file : RuntimeFile) : Except IoError Nat := do
  rejectIf (u64Limit ≤ total + file.length.toNat) (.other "fixed WebView2 runtime size overflow")
  return total + file.length.toNat

def verifyRuntimeRoot (sha256 : Bytes → Bytes) (tree : RuntimeTree) (root : WindowsPath)
    (manifest : FixedRuntimeManifest) : Except IoError Unit := do
  let metadata ← tree.symlinkMetadata []
  rejectIf (metadata.kind != .directory || isReparsePoint metadata
    || root.fileName != some (osString manifest.packageDirectory)
    || containsEdgeApplicationSequence root)
    (.other "fixed WebView2 runtime root is not safely scoped")
  let files ← runtimeFiles tree manifest
  rejectIf (files.length != manifest.expandedFileCount)
    (.other "fixed WebView2 runtime file count does not match the reviewed package")
  let expandedBytes ← files.foldlM addLength 0
  rejectIf (expandedBytes != manifest.expandedBytes.toNat)
    (.other "fixed WebView2 runtime size does not match the reviewed package")
  let treeSha256 ← hashRuntimeTree sha256 tree files
  rejectIf (treeSha256 != manifest.expandedTreeSha256)
    (.other "fixed WebView2 runtime tree digest does not match the reviewed package")
  let executableSha256 ← hashFile sha256 (tree.executable manifest.executable)
  rejectIf (executableSha256 != manifest.executableSha256)
    (.other "fixed WebView2 executable digest does not match the reviewed package")

end Rpackit.Spike
