import Rpackit.Spike.RuntimeDigest

/-! # The digest of the acceptance script

The script computes the digest of the runtime on its own: it lists the files without the
hidden ones and sorts their names by code units. Its listing is that of the verification
exactly when nothing is hidden and the two orders agree on the names.
-/

namespace Rpackit.Spike

open CodeOrder Fallible RecordCodec Text Utf16
open Windows (littleEndian)

inductive ScriptError where
  | system (error : IoError)
  | depth
  | nullArray
  | invalidCast
  | itemNotFound
  deriving DecidableEq, Repr

def hiddenAttribute : UInt32 := 0x2

def isHidden (metadata : Metadata) : Bool := metadata.fileAttributes &&& hiddenAttribute != 0

/-! ## The listing

Both programs are given the same answers for one path. A name that Windows rewrites on opening
(one that ends in a dot or a space, or names a device) is reported by an enumeration as any
other, and leads both to the same file.
-/

/-- What an entry adds to `Get-ChildItem -Recurse -File`: without `-Force` a hidden entry is left
out and a hidden directory is not entered; a link is never followed. -/
def childItems (tree : RuntimeTree)
    (recurse : List OsString → Except ScriptError (List (List OsString)))
    (directory : List OsString) (entry : Except IoError OsString) :
    Except ScriptError (List (List OsString)) := do
  let name ← entry.mapError .system
  let path := directory ++ [name]
  let metadata ← (tree.symlinkMetadata path).mapError .system
  if isHidden metadata then return []
  else
    match metadata.kind with
    | .directory => if isReparsePoint metadata then return [] else recurse path
    | _ => return [path]

/-- The files below a directory; the first argument is how many levels may be entered. -/
def getChildItem (tree : RuntimeTree) :
    Nat → List OsString → Except ScriptError (List (List OsString))
  | 0, _ => .error .depth
  | levels + 1, directory => do
      let entries ← (tree.readDir directory).mapError .system
      let found ← entries.mapM (childItems tree (getChildItem tree levels) directory)
      return found.flatten

/-- The relative paths in the order in which they are hashed. The cast of no paths at all is
null, and cannot be sorted. -/
def scriptPaths (tree : RuntimeTree) (levels : Nat) : Except ScriptError (List OsString) := do
  let _ ← (tree.symlinkMetadata []).mapError .system
  let paths ← getChildItem tree levels []
  rejectIf paths.isEmpty .nullArray
  return (paths.map relativeName).insertionSort (· ≤ ·)

/-! ## The hash -/

/-- `Encoding.UTF8.GetBytes`. -/
def getBytes (text : OsString) : Bytes := encodeUtf8 (toStringLossy text)

/-- `Get-Item` finds no hidden file; nothing compares the length with what is read. -/
def feedPath (tree : RuntimeTree) (hasher : Bytes) (relativePath : OsString) :
    Except ScriptError Bytes := do
  let pathBytes := getBytes relativePath
  rejectIf (2 ^ 32 ≤ pathBytes.length) .invalidCast
  let fullPath := relativePath.splitOn 0x2F
  let metadata ← (tree.symlinkMetadata fullPath).mapError .system
  rejectIf (isHidden metadata) .itemNotFound
  let header :=
    littleEndian 4 pathBytes.length ++ pathBytes ++ littleEndian 8 metadata.length.toNat
  let reads ← (tree.reads fullPath).mapError .system
  (hashReads reads (hasher ++ header)).mapError .system

def scriptPreimage (tree : RuntimeTree) (relativePaths : List OsString) :
    Except ScriptError Bytes :=
  relativePaths.foldlM (feedPath tree) treeHashDomain

def getRpackitTreeSha256 (sha256 : Bytes → Bytes) (tree : RuntimeTree) (levels : Nat) :
    Except ScriptError Bytes := do
  let relativePaths ← scriptPaths tree levels
  return hexEncode (sha256 (← scriptPreimage tree relativePaths))

/-! ## What is visible -/

/-- Neither the place nor a directory on the way to it is hidden. -/
def Visible (tree : RuntimeTree) (path : List OsString) : Prop :=
  ∀ place metadata, place ≠ [] → place <+: path → tree.symlinkMetadata place = .ok metadata →
    isHidden metadata = false

section Listing

variable {tree : RuntimeTree} {directory : List OsString} {name : OsString} {metadata : Metadata}

theorem Visible.above {path : List OsString} (hvisible : Visible tree path)
    (hbelow : directory <+: path) : Visible tree directory :=
  fun place metadata hne hplace => hvisible place metadata hne (hplace.trans hbelow)

theorem visible_nil (tree : RuntimeTree) : Visible tree [] := fun _ _ hne hplace =>
  absurd (List.prefix_nil.mp hplace) hne

theorem visible_snoc_iff (hmetadata : tree.symlinkMetadata (directory ++ [name]) = .ok metadata) :
    Visible tree (directory ++ [name]) ↔ Visible tree directory ∧ isHidden metadata = false := by
  constructor
  · intro hvisible
    exact ⟨hvisible.above (List.prefix_append _ _),
      hvisible _ metadata (by simp) (List.prefix_refl _) hmetadata⟩
  · rintro ⟨hvisible, hhidden⟩ place other hne hplace hother
    obtain rfl | hplace := List.prefix_concat_iff.mp hplace
    · rw [hmetadata] at hother
      obtain rfl := Except.ok.inj hother
      exact hhidden
    · exact hvisible place other hne hplace hother

/-- The metadata of the place says that it is hidden. -/
def reportsHidden (tree : RuntimeTree) (place : List OsString) : Bool :=
  match tree.symlinkMetadata place with
  | .ok metadata => isHidden metadata
  | .error _ => false

theorem visible_iff_inits {path : List OsString} :
    (path.inits.all fun place => place.isEmpty || !reportsHidden tree place) = true ↔
      Visible tree path := by
  simp only [List.all_eq_true, List.mem_inits, Bool.or_eq_true, List.isEmpty_iff,
    Bool.not_eq_true']
  constructor
  · intro hall place metadata hne hplace hmetadata
    have hreported := (hall place hplace).resolve_left hne
    rwa [reportsHidden, hmetadata] at hreported
  · intro hvisible place hplace
    refine or_iff_not_imp_left.mpr fun hne => ?_
    unfold reportsHidden
    split
    next metadata hmetadata => exact hvisible place metadata hne hplace hmetadata
    next => rfl

instance (tree : RuntimeTree) (path : List OsString) : Decidable (Visible tree path) :=
  decidable_of_iff _ visible_iff_inits

/-- The visible ones of the listed files. -/
def visibleFiles (tree : RuntimeTree) (files : List RuntimeFile) : List RuntimeFile :=
  files.filter fun file => Visible tree file.path

variable {levels levels' : Nat} {walk part : Walk} {paths : List (List OsString)}

/-- What lies behind a hidden entry is not visible. -/
theorem visibleFiles_of_hidden (hplain : ∀ other ∈ directory ++ [name], isPlain other = true)
    (hmetadata : tree.symlinkMetadata (directory ++ [name]) = .ok metadata)
    (hhidden : isHidden metadata = true)
    (hfound : Found tree (gather tree levels) directory name metadata part) :
    visibleFiles tree part.files = [] := by
  refine List.filter_eq_nil_iff.mpr fun file hmem hvisible => ?_
  have hshown := (of_decide_eq_true hvisible).above (hfound.below hplain hmem)
  rw [((visible_snoc_iff hmetadata).mp hshown).2] at hhidden
  cases hhidden

/-- What the listing of a directory shows, in a tree that the walk can pass. -/
def Shows (tree : RuntimeTree) (levels levels' : Nat) : Prop :=
  ∀ {directory walk paths}, (∀ name ∈ directory, isPlain name = true) → Visible tree directory →
    gather tree levels directory = some walk → getChildItem tree levels' directory = .ok paths →
      paths = (visibleFiles tree walk.files).map RuntimeFile.path

theorem childItems_eq_ok (hshows : Shows tree levels levels')
    (hplain : ∀ other ∈ directory ++ [name], isPlain other = true)
    (hvisible : Visible tree directory)
    (hmetadata : tree.symlinkMetadata (directory ++ [name]) = .ok metadata)
    (hreparse : isReparsePoint metadata = false)
    (hfound : Found tree (gather tree levels) directory name metadata part)
    (hitems : childItems tree (getChildItem tree levels') directory (.ok name) = .ok paths) :
    paths = (visibleFiles tree part.files).map RuntimeFile.path := by
  cases hhidden : isHidden metadata with
  | true =>
      rw [visibleFiles_of_hidden hplain hmetadata hhidden hfound]
      simpa [childItems, Except.mapError, hmetadata, hhidden, pure_eq_ok_iff] using hitems
  | false =>
      have hshown := (visible_snoc_iff hmetadata).mpr ⟨hvisible, hhidden⟩
      cases hfound with
      | directory hkind hbelow =>
          have hrecurse : getChildItem tree levels' (directory ++ [name]) = .ok paths := by
            simpa [childItems, Except.mapError, hmetadata, hhidden, hkind, hreparse] using hitems
          have hpaths := hshows hplain hshown hbelow hrecurse
          exact hpaths
      | file hkind hrelative =>
          simpa [childItems, Except.mapError, hmetadata, hhidden, hkind, pure_eq_ok_iff,
            visibleFiles, hshown] using hitems

theorem flatten_eq_of_forall {entries : List (Except IoError OsString)}
    {seen : Except IoError OsString → Option Walk}
    {items : Except IoError OsString → Except ScriptError (List (List OsString))}
    {found : List (List (List OsString))}
    (hall : ∀ entry ∈ entries, ∀ part paths, seen entry = some part → items entry = .ok paths →
      paths = (visibleFiles tree part.files).map RuntimeFile.path)
    (hcombine : combine (entries.map seen) = some walk)
    (hmap : entries.mapM items = .ok found) :
    found.flatten = (visibleFiles tree walk.files).map RuntimeFile.path := by
  rw [mapM_eq_ok_iff] at hmap
  induction hmap generalizing walk with
  | nil =>
      obtain rfl := Option.some.inj hcombine
      rfl
  | @cons entry paths rest others hitems _ ih =>
      obtain ⟨part, later, hpart, hlater, rfl⟩ := combine_cons_eq_some_iff.mp hcombine
      obtain ⟨hentry, hrest⟩ := List.forall_mem_cons.mp hall
      rw [List.flatten_cons, ih hrest hlater, hentry part paths hpart hitems, ← List.map_append,
        visibleFiles, visibleFiles, ← List.filter_append]
      rfl

/-- The listing of the script is that of the walk without the files that are not visible. -/
theorem getChildItem_eq_ok : Shows tree levels levels' := by
  induction levels generalizing levels' with
  | zero =>
      intro directory walk paths _ _ hgather
      cases hgather
  | succ levels ih =>
      intro directory walk paths hplain hvisible hgather hitems
      cases levels' with
      | zero => cases hitems
      | succ levels' =>
          rw [gather] at hgather
          rw [getChildItem] at hitems
          cases hentries : tree.readDir directory with
          | error error => simp [hentries, Except.toOption] at hgather
          | ok entries =>
              rw [hentries] at hgather hitems
              rw [Except.mapError, ok_bind] at hitems
              obtain ⟨found, hfound, hreturn⟩ := bind_eq_ok_iff.mp hitems
              obtain rfl := pure_eq_ok_iff.mp hreturn
              refine flatten_eq_of_forall (fun entry hentry part paths hpart hitems => ?_) hgather
                hfound
              obtain ⟨name, metadata, rfl, hmetadata, hreparse, hpassed⟩ := found_of_foundAt hpart
              have hname := tree.plain directory entries name hentries hentry
              exact childItems_eq_ok ih (List.forall_mem_append.mpr
                ⟨hplain, List.forall_mem_singleton.mpr hname⟩) hvisible hmetadata hreparse
                hpassed hitems

/-- The script can list whatever the walk can pass. -/
theorem exists_getChildItem (hgather : gather tree levels directory = some walk)
    (hlevels : levels ≤ levels') : ∃ paths, getChildItem tree levels' directory = .ok paths := by
  induction levels generalizing levels' directory walk with
  | zero => cases hgather
  | succ levels ih =>
      obtain ⟨levels', rfl⟩ : ∃ rest, levels' = rest + 1 := ⟨levels' - 1, by omega⟩
      rw [gather] at hgather
      rw [getChildItem]
      cases hentries : tree.readDir directory with
      | error error => simp [hentries, Except.toOption] at hgather
      | ok entries =>
          rw [hentries] at hgather
          have hall : ∀ entry ∈ entries, ∃ paths,
              childItems tree (getChildItem tree levels') directory entry = .ok paths := by
            intro entry hentry
            obtain ⟨part, hpart, -⟩ := exists_part_of_combine hgather hentry
            obtain ⟨name, metadata, rfl, hmetadata, hreparse, hfound⟩ := found_of_foundAt hpart
            cases hhidden : isHidden metadata with
            | true => exact ⟨[], by simp [childItems, Except.mapError, hmetadata, hhidden, pure,
                Except.pure]⟩
            | false =>
                cases hfound with
                | directory hkind hbelow =>
                    obtain ⟨paths, hpaths⟩ := ih hbelow (Nat.le_of_succ_le_succ hlevels)
                    refine ⟨paths, ?_⟩
                    simp [childItems, Except.mapError, hmetadata, hhidden, hkind, hreparse, hpaths]
                | file hkind _ =>
                    refine ⟨[directory ++ [name]], ?_⟩
                    simp [childItems, Except.mapError, hmetadata, hhidden, hkind, pure, Except.pure]
          obtain ⟨found, hfound⟩ := exists_mapM_eq_ok_iff.mpr hall
          refine ⟨found.flatten, ?_⟩
          rw [Except.mapError, ok_bind, hfound]
          rfl

end Listing

/-! ## The two listings -/

/-- The name of a listed file in code units. -/
def RuntimeFile.unitName (file : RuntimeFile) : OsString := file.relative.flatMap encodeUtf16

section Agreement

variable {tree : RuntimeTree} {manifest : FixedRuntimeManifest} {files : List RuntimeFile}
  {levels : Nat} {names : List OsString}

/-- The script hashes the visible files of the listing, sorted by code units. -/
theorem scriptPaths_eq_ok (hfiles : runtimeFiles tree manifest = .ok files)
    (hnames : scriptPaths tree levels = .ok names) :
    names.Perm ((visibleFiles tree files).map RuntimeFile.unitName) ∧ names.Pairwise (· ≤ ·) := by
  obtain ⟨walk, hgather, -, rfl⟩ := runtimeFiles_eq_ok_iff.mp hfiles
  obtain ⟨_, -, hnames⟩ := bind_eq_ok_iff.mp hnames
  obtain ⟨paths, hpaths, hnames⟩ := bind_eq_ok_iff.mp hnames
  obtain ⟨-, hreturn⟩ := rejectIf_bind_eq_ok_iff.mp hnames
  obtain rfl := pure_eq_ok_iff.mp hreturn
  obtain rfl := getChildItem_eq_ok (by simp) (visible_nil tree) hgather hpaths
  refine ⟨(List.perm_insertionSort _ _).trans ?_, List.pairwise_insertionSort _ _⟩
  have hunits : ((visibleFiles tree walk.files).map RuntimeFile.path).map relativeName =
      (visibleFiles tree walk.files).map RuntimeFile.unitName := by
    rw [List.map_map]
    refine List.map_congr_left fun file hmem => ?_
    exact (placed_of_gather (by simp) hgather (List.mem_of_mem_filter hmem)).name.symm
  rw [hunits]
  exact ((List.perm_insertionSort Precedes walk.files).symm.filter _).map _

/-- What the script finds under a name. -/
def named (tree : RuntimeTree) (name : OsString) : List Char × Bytes :=
  (toStringLossy name, fileContent tree (name.splitOn 0x2F))

theorem named_unitName {file : RuntimeFile} (hplaced : Placed tree [] file) :
    named tree file.unitName = contents tree file := by
  rw [named, contents, RuntimeFile.unitName, toStringLossy_flatMap, hplaced.name, hplaced.splitOn]

/-- The script feeds the record of a visible file, because the length of its content is the
listed one. -/
theorem feedPath_unitName {file : RuntimeFile} (hplaced : Placed tree [] file)
    (hframed : Framed tree file) (hvisible : Visible tree file.path) (hasher : Bytes) :
    feedPath tree hasher file.unitName =
      .ok (hasher ++ (fileRecord (contents tree file)).encode pathWord lengthWord) := by
  have hname : file.unitName.splitOn 0x2F = file.path := by
    rw [RuntimeFile.unitName, hplaced.name, hplaced.splitOn]
  have hbytes : getBytes file.unitName = encodeUtf8 file.relative := by
    rw [getBytes, RuntimeFile.unitName, toStringLossy_flatMap]
  have hshort : (encodeUtf8 file.relative).length < 2 ^ 32 := hframed.fits.key
  obtain ⟨metadata, hmetadata, hlength⟩ := hplaced.metadata
  have hhidden : isHidden metadata = false :=
    hvisible _ metadata hplaced.path_ne_nil (List.prefix_refl _) hmetadata
  obtain ⟨reads, hreads, hfeed⟩ := hframed.readable
  have hcontent : fileContent tree file.path = contentOf reads := by
    rw [fileContent, hreads]
    rfl
  have hsize : (contentOf reads).length = metadata.length.toNat := by
    rw [← hcontent, hframed.length, hlength]
  have hlimit : decide (2 ^ 32 ≤ (encodeUtf8 file.relative).length) = false :=
    decide_eq_false (Nat.not_le.mpr hshort)
  rw [feedPath, hname, hbytes]
  simp only [hmetadata, hreads, hhidden, hlimit, Except.mapError, rejectIf_false, ok_bind, hfeed]
  rw [Record.encode, frame, frame, fileRecord, contents, hcontent, hsize]
  simp [pathWord, lengthWord, word]

/-- The script feeds the records of visible files, in its order. -/
theorem scriptPreimage_eq (hframed : ∀ file ∈ files, Framed tree file)
    (hplaced : ∀ file ∈ files, Placed tree [] file)
    (hnames : ∀ name ∈ names, ∃ file ∈ visibleFiles tree files, file.unitName = name) :
    scriptPreimage tree names = .ok (treeHashDomain ++ encodeAll pathWord lengthWord
      ((names.map (named tree)).map fileRecord)) := by
  rw [scriptPreimage]
  generalize treeHashDomain = hasher
  induction names generalizing hasher with
  | nil => simp [encodeAll, pure, Except.pure]
  | cons name rest ih =>
      obtain ⟨⟨file, hshown, rfl⟩, hothers⟩ := List.forall_mem_cons.mp hnames
      obtain ⟨hmem, hvisible⟩ := List.mem_filter.mp hshown
      rw [List.foldlM_cons, feedPath_unitName (hplaced file hmem) (hframed file hmem)
        (of_decide_eq_true hvisible), ok_bind, ih hothers, List.map_cons,
        named_unitName (hplaced file hmem)]
      simp [encodeAll]

theorem exists_visible_of_mem (hfiles : runtimeFiles tree manifest = .ok files)
    (hnames : scriptPaths tree levels = .ok names) :
    ∀ name ∈ names, ∃ file ∈ visibleFiles tree files, file.unitName = name := fun _ hname =>
  List.mem_map.mp ((scriptPaths_eq_ok hfiles hnames).1.mem_iff.mp hname)

/-- The script accepts what the verification can list and hash, if any file is visible. -/
theorem exists_getRpackitTreeSha256 {preimage : Bytes} {metadata : Metadata}
    (sha256 : Bytes → Bytes) (hroot : tree.symlinkMetadata [] = .ok metadata)
    (hfiles : runtimeFiles tree manifest = .ok files)
    (hpreimage : treePreimage tree files = .ok preimage)
    (hvisible : ∃ file ∈ files, Visible tree file.path) (hlevels : maxRuntimeDepth < levels) :
    ∃ digest, getRpackitTreeSha256 sha256 tree levels = .ok digest := by
  obtain ⟨walk, hgather, -, hsorted⟩ := runtimeFiles_eq_ok_iff.mp hfiles
  obtain ⟨paths, hpaths⟩ := exists_getChildItem hgather hlevels
  have hlisted := getChildItem_eq_ok (by simp) (visible_nil tree) hgather hpaths
  obtain ⟨file, hmem, hshown⟩ := hvisible
  have hnonempty : paths.isEmpty = false := by
    rw [hsorted] at hmem
    have hfile : file ∈ visibleFiles tree walk.files := List.mem_filter.mpr
      ⟨(List.perm_insertionSort Precedes walk.files).mem_iff.mp hmem, decide_eq_true hshown⟩
    rw [List.isEmpty_eq_false_iff, hlisted]
    exact List.ne_nil_of_mem (List.mem_map_of_mem hfile)
  have hnames : scriptPaths tree levels =
      .ok ((paths.map relativeName).insertionSort (· ≤ ·)) := by
    rw [scriptPaths, hroot, hpaths]
    simp only [Except.mapError, ok_bind, hnonempty, rejectIf_false]
    rfl
  have hscript := scriptPreimage_eq (treePreimage_eq_ok hpreimage).2
    (fun file hmem => placed_of_runtimeFiles hfiles hmem) (exists_visible_of_mem hfiles hnames)
  rw [getRpackitTreeSha256, hnames, ok_bind, hscript]
  exact ⟨_, rfl⟩

end Agreement

end Rpackit.Spike
