import Rpackit.Library.RecordCodec
import Rpackit.Spike.RuntimeListing

/-! # What the digest of the runtime says

What is fed to the hash is a sequence of framed records, one for each listed file. It
determines the files of the runtime and their contents; empty directories leave no trace
in it.
-/

namespace Rpackit.Spike

open Fallible RecordCodec Text Utf16
open Windows (littleEndian)

/-! ## What the hash is fed -/

/-- Words of the given width, with the low byte first. -/
def word (width : Nat) (hwidth : 0 < width) : WordCodec UInt8 where
  limit := 256 ^ width
  width := width
  encode := littleEndian width
  width_pos := hwidth
  length_encode := Windows.length_littleEndian width
  encode_inj first second hfirst hsecond heq := by
    rw [← Windows.fromLittleEndian_littleEndian hfirst, heq,
      Windows.fromLittleEndian_littleEndian hsecond]

def pathWord : WordCodec UInt8 := word 4 (by decide)
def lengthWord : WordCodec UInt8 := word 8 (by decide)

/-- What the reads of a file return, up to the first that returns nothing. -/
def contentOf : List (Except IoError Bytes) → Bytes
  | .ok chunk :: rest => if chunk.isEmpty then [] else chunk ++ contentOf rest
  | _ => []

def fileContent (tree : RuntimeTree) (path : List OsString) : Bytes :=
  contentOf ((tree.reads path).toOption.getD [])

/-- The path and the content of a file. -/
def contents (tree : RuntimeTree) (file : RuntimeFile) : List Char × Bytes :=
  (file.relative, fileContent tree file.path)

/-- The record that a file is hashed as. -/
def fileRecord (entry : List Char × Bytes) : Record UInt8 := ⟨encodeUtf8 entry.1, entry.2⟩

/-- The file can be read, its content has the listed length, and its record can be framed. -/
structure Framed (tree : RuntimeTree) (file : RuntimeFile) : Prop where
  readable : ∃ reads, tree.reads file.path = .ok reads ∧ ∀ hasher,
    hashReads reads hasher = .ok (hasher ++ contentOf reads)
  length : (fileContent tree file.path).length = file.length.toNat
  fits : (fileRecord (contents tree file)).Fits pathWord lengthWord

section Preimage

variable {tree tree' : RuntimeTree}

/-- Reads that can be fed with a count can be fed without. -/
theorem hashReads_of_feedReads {reads : List (Except IoError Bytes)} {hasher fed : Bytes}
    {observed total : Nat} (hok : feedReads reads (hasher, observed) = .ok (fed, total))
    (other : Bytes) : hashReads reads other = .ok (other ++ contentOf reads) := by
  induction reads generalizing hasher observed other with
  | nil => simp [hashReads, contentOf]
  | cons read rest ih =>
      cases read with
      | error error => cases hok
      | ok chunk =>
          rw [feedReads] at hok
          rw [hashReads, contentOf]
          split at hok
          next hempty => simp [hempty]
          next hchunk =>
            obtain ⟨-, hok⟩ := rejectIf_bind_eq_ok_iff.mp hok
            rw [if_neg hchunk, if_neg hchunk, ih hok, List.append_assoc]

theorem feedReads_eq_ok {reads : List (Except IoError Bytes)} {hasher fed : Bytes}
    {observed total : Nat} (hok : feedReads reads (hasher, observed) = .ok (fed, total)) :
    fed = hasher ++ contentOf reads ∧ total = observed + (contentOf reads).length := by
  induction reads generalizing hasher observed with
  | nil =>
      cases hok
      simp [contentOf]
  | cons read rest ih =>
      cases read with
      | error error => cases hok
      | ok chunk =>
          rw [feedReads] at hok
          rw [contentOf]
          split at hok
          next hempty =>
            cases hok
            simp [hempty]
          next hchunk =>
            obtain ⟨-, hok⟩ := rejectIf_bind_eq_ok_iff.mp hok
            obtain ⟨hfed, htotal⟩ := ih hok
            rw [if_neg hchunk, hfed, htotal, List.append_assoc, List.length_append, Nat.add_assoc]
            exact ⟨rfl, rfl⟩

theorem feedFile_eq_ok {file : RuntimeFile} {hasher fed : Bytes}
    (hok : feedFile tree hasher file = .ok fed) :
    fed = hasher ++ (fileRecord (contents tree file)).encode pathWord lengthWord ∧
      Framed tree file := by
  obtain ⟨hpath, hok⟩ := rejectIf_bind_eq_ok_iff.mp hok
  obtain ⟨reads, hreads, hok⟩ := bind_eq_ok_iff.mp hok
  obtain ⟨⟨hashed, observed⟩, hfeed, hok⟩ := bind_eq_ok_iff.mp hok
  obtain ⟨hlength, hreturn⟩ := rejectIf_bind_eq_ok_iff.mp hok
  obtain rfl := pure_eq_ok_iff.mp hreturn
  have hreadable := hashReads_of_feedReads hfeed
  obtain ⟨rfl, rfl⟩ := feedReads_eq_ok hfeed
  have hcontent : fileContent tree file.path = contentOf reads := by
    rw [fileContent, hreads]
    rfl
  have hobserved : (contentOf reads).length = file.length.toNat := by
    simpa using hlength
  have hfits : (fileRecord (contents tree file)).Fits pathWord lengthWord := by
    have hshort : (encodeUtf8 file.relative).length < 2 ^ 32 := by simpa using hpath
    refine ⟨hshort, ?_⟩
    · rw [fileRecord, contents, hcontent, hobserved]
      exact file.length.toNat_lt
  refine ⟨?_, ⟨reads, hreads, hreadable⟩, hcontent ▸ hobserved, hfits⟩
  rw [Record.encode, frame, frame, fileRecord, contents, hcontent, hobserved]
  simp [pathWord, lengthWord, word]

/-- The hash is fed the records of the files, in their order. -/
theorem treePreimage_eq_ok {files : List RuntimeFile} {preimage : Bytes}
    (hok : treePreimage tree files = .ok preimage) :
    preimage = treeHashDomain ++ encodeAll pathWord lengthWord
        ((files.map (contents tree)).map fileRecord) ∧
      ∀ file ∈ files, Framed tree file := by
  rw [treePreimage] at hok
  generalize treeHashDomain = hasher at hok
  induction files generalizing hasher with
  | nil =>
      obtain rfl := pure_eq_ok_iff.mp hok
      simp [encodeAll]
  | cons file rest ih =>
      rw [List.foldlM_cons, bind_eq_ok_iff] at hok
      obtain ⟨middle, hfile, hrest⟩ := hok
      obtain ⟨rfl, hframed⟩ := feedFile_eq_ok hfile
      obtain ⟨rfl, hall⟩ := ih _ hrest
      refine ⟨?_, List.forall_mem_cons.mpr ⟨hframed, hall⟩⟩
      simp [encodeAll]

theorem fileRecord_injective : Function.Injective fileRecord := by
  rintro ⟨first, content⟩ ⟨second, content'⟩ heq
  obtain ⟨hpath, hcontent⟩ := Record.mk.inj heq
  exact Prod.ext (encodeUtf8_injective hpath) hcontent

theorem fits_of_framed {files : List RuntimeFile} (hframed : ∀ file ∈ files, Framed tree file) :
    ∀ record ∈ (files.map (contents tree)).map fileRecord, record.Fits pathWord lengthWord := by
  intro record hrecord
  rw [List.map_map] at hrecord
  obtain ⟨file, hfile, rfl⟩ := List.mem_map.mp hrecord
  exact (hframed file hfile).fits

/-- What the hash is fed determines the paths and the contents of the files. -/
theorem contents_eq_of_preimage_eq {files files' : List RuntimeFile} {preimage : Bytes}
    (hok : treePreimage tree files = .ok preimage)
    (hok' : treePreimage tree' files' = .ok preimage) :
    files.map (contents tree) = files'.map (contents tree') := by
  obtain ⟨hfed, hframed⟩ := treePreimage_eq_ok hok
  obtain ⟨hfed', hframed'⟩ := treePreimage_eq_ok hok'
  have hrecords := encodeAll_injective (fits_of_framed hframed) (fits_of_framed hframed')
    (List.append_cancel_left (hfed.symm.trans hfed'))
  exact List.map_injective_iff.mpr fileRecord_injective hrecords

end Preimage

/-! ## The verdict -/

/-- A file is reached below the root and has this content. -/
def HoldsFile (tree : RuntimeTree) (path : List OsString) (content : Bytes) : Prop :=
  FileBelow tree [] path ∧ fileContent tree path = content

/-- The trees hold the same files. -/
def SameFiles (tree tree' : RuntimeTree) : Prop :=
  ∀ path content, HoldsFile tree path content ↔ HoldsFile tree' path content

/-- What the verification hashes the tree as. -/
def HashedAs (tree : RuntimeTree) (manifest : FixedRuntimeManifest) (preimage : Bytes) : Prop :=
  ∃ files, runtimeFiles tree manifest = .ok files ∧ treePreimage tree files = .ok preimage

section Verdict

variable {sha256 : Bytes → Bytes} {tree tree' : RuntimeTree} {root : WindowsPath}
  {manifest manifest' : FixedRuntimeManifest}

theorem holdsFile_of_contents_eq {files files' : List RuntimeFile}
    (hfiles : runtimeFiles tree manifest = .ok files)
    (hfiles' : runtimeFiles tree' manifest' = .ok files')
    (heq : files.map (contents tree) = files'.map (contents tree')) {path : List OsString}
    {content : Bytes} (hholds : HoldsFile tree path content) : HoldsFile tree' path content := by
  obtain ⟨hbelow, rfl⟩ := hholds
  obtain ⟨file, hmem, rfl⟩ := (mem_runtimeFiles_iff hfiles).mpr hbelow
  have hlisted : contents tree file ∈ files'.map (contents tree') :=
    heq ▸ List.mem_map_of_mem hmem
  obtain ⟨file', hmem', hsame⟩ := List.mem_map.mp hlisted
  obtain ⟨hrelative, hcontent⟩ := Prod.mk.inj hsame
  have hplaced := placed_of_runtimeFiles hfiles hmem
  have hplaced' := placed_of_runtimeFiles hfiles' hmem'
  have hpath : file'.path = file.path := by
    rw [← hplaced.splitOn, ← hplaced'.splitOn, ← hplaced.name, ← hplaced'.name, hrelative]
  exact ⟨(mem_runtimeFiles_iff hfiles').mp ⟨file', hmem', hpath⟩, hpath ▸ hcontent⟩

/-- Trees that are hashed as the same bytes hold the same files. -/
theorem sameFiles_of_hashedAs {preimage : Bytes} (hhashed : HashedAs tree manifest preimage)
    (hhashed' : HashedAs tree' manifest' preimage) : SameFiles tree tree' := by
  obtain ⟨files, hfiles, hok⟩ := hhashed
  obtain ⟨files', hfiles', hok'⟩ := hhashed'
  have heq := contents_eq_of_preimage_eq hok hok'
  exact fun path content => ⟨holdsFile_of_contents_eq hfiles hfiles' heq,
    holdsFile_of_contents_eq hfiles' hfiles heq.symm⟩

theorem contents_injOn {files : List RuntimeFile} (hfiles : runtimeFiles tree manifest = .ok files)
    {file other : RuntimeFile} (hmem : file ∈ files) (hother : other ∈ files)
    (heq : (contents tree file).1 = (contents tree other).1) : file = other :=
  (placed_of_runtimeFiles hfiles hmem).eq_of_relative (placed_of_runtimeFiles hfiles hother) heq

theorem pairwise_contents {files : List RuntimeFile}
    (hfiles : runtimeFiles tree manifest = .ok files) :
    (files.map (contents tree)).Pairwise fun left right =>
      encodeUtf8 left.1 ≤ encodeUtf8 right.1 := by
  obtain ⟨walk, -, -, rfl⟩ := runtimeFiles_eq_ok_iff.mp hfiles
  exact List.pairwise_map.mpr (List.pairwise_insertionSort Precedes walk.files)

theorem nodup_contents {files : List RuntimeFile} (honce : tree.EnumeratesOnce)
    (hfiles : runtimeFiles tree manifest = .ok files) : (files.map (contents tree)).Nodup := by
  refine (List.Nodup.of_map _ (nodup_runtimeFiles honce hfiles)).map_on ?_
  exact fun file hmem other hother heq =>
    contents_injOn hfiles hmem hother (congrArg Prod.fst heq)

theorem mem_contents_of_sameFiles {files files' : List RuntimeFile}
    (hfiles : runtimeFiles tree manifest = .ok files)
    (hfiles' : runtimeFiles tree' manifest' = .ok files') (hsame : SameFiles tree tree')
    {entry : List Char × Bytes} (hentry : entry ∈ files.map (contents tree)) :
    entry ∈ files'.map (contents tree') := by
  obtain ⟨file, hmem, rfl⟩ := List.mem_map.mp hentry
  have hholds : HoldsFile tree file.path (fileContent tree file.path) :=
    ⟨(mem_runtimeFiles_iff hfiles).mp ⟨file, hmem, rfl⟩, rfl⟩
  obtain ⟨hbelow, hcontent⟩ := (hsame _ _).mp hholds
  obtain ⟨file', hmem', hpath⟩ := (mem_runtimeFiles_iff hfiles').mpr hbelow
  have hrelative := (placed_of_runtimeFiles hfiles' hmem').relative
  rw [hpath, (placed_of_runtimeFiles hfiles hmem).relative] at hrelative
  refine List.mem_map.mpr ⟨file', hmem', ?_⟩
  rw [contents, contents, Except.ok.inj hrelative, hpath, hcontent]

/-- Trees that hold the same files are hashed as the same bytes, whatever their directories. -/
theorem preimage_eq_of_sameFiles {preimage preimage' : Bytes} (honce : tree.EnumeratesOnce)
    (honce' : tree'.EnumeratesOnce) (hhashed : HashedAs tree manifest preimage)
    (hhashed' : HashedAs tree' manifest' preimage') (hsame : SameFiles tree tree') :
    preimage = preimage' := by
  obtain ⟨files, hfiles, hok⟩ := hhashed
  obtain ⟨files', hfiles', hok'⟩ := hhashed'
  have hmembers : (files.map (contents tree)).Perm (files'.map (contents tree')) := by
    rw [List.perm_ext_iff_of_nodup (nodup_contents honce hfiles) (nodup_contents honce' hfiles')]
    exact fun entry => ⟨mem_contents_of_sameFiles hfiles hfiles' hsame,
      mem_contents_of_sameFiles hfiles' hfiles fun path content => (hsame path content).symm⟩
  have heq : files.map (contents tree) = files'.map (contents tree') := by
    refine hmembers.eq_of_pairwise (fun left right hleft hright hforth hback => ?_)
      (pairwise_contents hfiles) (pairwise_contents hfiles')
    obtain ⟨file, hmem, rfl⟩ := List.mem_map.mp hleft
    obtain ⟨other, hother, rfl⟩ := List.mem_map.mp (hmembers.mem_iff.mpr hright)
    rw [contents_injOn hfiles hmem hother (encodeUtf8_injective (List.le_antisymm hforth hback))]
  rw [(treePreimage_eq_ok hok).1, (treePreimage_eq_ok hok').1, heq]

theorem SameEntries.symm {first second : Except IoError (List (Except IoError OsString))}
    (hsame : SameEntries first second) : SameEntries second first := by
  cases first <;> cases second
  next => exact Eq.symm hsame
  next => exact hsame
  next => exact hsame
  next => exact List.Perm.symm hsame

theorem SameUpToOrder.symm (hsame : SameUpToOrder tree tree') : SameUpToOrder tree' tree :=
  ⟨hsame.symlinkMetadata.symm, hsame.reads.symm, hsame.executable.symm,
    fun directory => (hsame.readDir directory).symm⟩

theorem hashRuntimeTree_congr (hreads : tree.reads = tree'.reads) (files : List RuntimeFile) :
    hashRuntimeTree sha256 tree files = hashRuntimeTree sha256 tree' files := by
  have hfeed : feedFile tree = feedFile tree' := by
    funext hasher file
    rw [feedFile, feedFile, hreads]
  rw [hashRuntimeTree, hashRuntimeTree, treePreimage, treePreimage, hfeed]

/-- A tree is accepted in whatever order it is enumerated. -/
theorem verifyRuntimeRoot_of_sameUpToOrder (hsame : SameUpToOrder tree tree')
    (hok : verifyRuntimeRoot sha256 tree root manifest = .ok ()) :
    verifyRuntimeRoot sha256 tree' root manifest = .ok () := by
  rw [verifyRuntimeRoot, bind_eq_ok_iff] at hok ⊢
  obtain ⟨metadata, hmetadata, hok⟩ := hok
  refine ⟨metadata, hsame.symlinkMetadata ▸ hmetadata, ?_⟩
  rw [rejectIf_bind_eq_ok_iff] at hok ⊢
  refine ⟨hok.1, ?_⟩
  obtain ⟨files, hfiles, hok⟩ := bind_eq_ok_iff.mp hok.2
  refine bind_eq_ok_iff.mpr ⟨files, runtimeFiles_of_sameUpToOrder hsame hfiles, ?_⟩
  rw [hashRuntimeTree_congr hsame.reads, hsame.executable] at hok
  exact hok

/-- An accepted tree has been hashed, and the manifest has its digest. -/
theorem exists_hashedAs_of_verify (hok : verifyRuntimeRoot sha256 tree root manifest = .ok ()) :
    ∃ preimage, HashedAs tree manifest preimage ∧
      hexEncode (sha256 preimage) = manifest.expandedTreeSha256 := by
  obtain ⟨metadata, -, hok⟩ := bind_eq_ok_iff.mp hok
  obtain ⟨files, hfiles, hok⟩ := bind_eq_ok_iff.mp (rejectIf_bind_eq_ok_iff.mp hok).2
  obtain ⟨total, -, hok⟩ := bind_eq_ok_iff.mp (rejectIf_bind_eq_ok_iff.mp hok).2
  obtain ⟨digest, hdigest, hok⟩ := bind_eq_ok_iff.mp (rejectIf_bind_eq_ok_iff.mp hok).2
  obtain ⟨hmatch, -⟩ := rejectIf_bind_eq_ok_iff.mp hok
  obtain ⟨preimage, hpreimage, hreturn⟩ := bind_eq_ok_iff.mp hdigest
  obtain rfl := pure_eq_ok_iff.mp hreturn
  exact ⟨preimage, ⟨files, hfiles, hpreimage⟩, by simpa using hmatch⟩

end Verdict

/-- The verdict does not depend on the order of the enumerations. What is hashed determines
the listed paths and contents: two trees are hashed as the same bytes if they hold the same files,
and only then. Two trees that are accepted under one manifest hold the same files, unless the hash
collides on what it is fed for them. -/
theorem runtime_digest_determines_files (sha256 : Bytes → Bytes) (root : WindowsPath)
    (manifest : FixedRuntimeManifest) :
    (∀ tree tree', SameUpToOrder tree tree' →
      (verifyRuntimeRoot sha256 tree root manifest = .ok () ↔
        verifyRuntimeRoot sha256 tree' root manifest = .ok ())) ∧
    (∀ tree tree' files files' preimage, treePreimage tree files = .ok preimage →
      treePreimage tree' files' = .ok preimage →
        files.map (contents tree) = files'.map (contents tree')) ∧
    (∀ tree tree' first second preimage preimage', HashedAs tree first preimage →
      HashedAs tree' second preimage' → (preimage = preimage' → SameFiles tree tree') ∧
        (tree.EnumeratesOnce → tree'.EnumeratesOnce → SameFiles tree tree' →
          preimage = preimage')) ∧
    ∀ tree tree', verifyRuntimeRoot sha256 tree root manifest = .ok () →
      verifyRuntimeRoot sha256 tree' root manifest = .ok () →
        ∃ preimage preimage', HashedAs tree manifest preimage ∧
          HashedAs tree' manifest preimage' ∧ sha256 preimage = sha256 preimage' ∧
            (preimage = preimage' → SameFiles tree tree') := by
  refine ⟨fun tree tree' hsame => ⟨verifyRuntimeRoot_of_sameUpToOrder hsame,
    verifyRuntimeRoot_of_sameUpToOrder hsame.symm⟩,
    fun tree tree' files files' preimage => contents_eq_of_preimage_eq, ?_, ?_⟩
  · intro tree tree' first second preimage preimage' hhashed hhashed'
    refine ⟨?_, fun honce honce' => preimage_eq_of_sameFiles honce honce' hhashed hhashed'⟩
    rintro rfl
    exact sameFiles_of_hashedAs hhashed hhashed'
  intro tree tree' hok hok'
  obtain ⟨preimage, hhashed, hdigest⟩ := exists_hashedAs_of_verify hok
  obtain ⟨preimage', hhashed', hdigest'⟩ := exists_hashedAs_of_verify hok'
  refine ⟨preimage, preimage', hhashed, hhashed',
    hexEncode_injective (hdigest.trans hdigest'.symm), ?_⟩
  rintro rfl
  exact sameFiles_of_hashedAs hhashed hhashed'

/-! ## A tree of two files -/

/-- An item of a listing. -/
structure ListedItem where
  path : List OsString
  metadata : Metadata
  content : Bytes
  deriving DecidableEq, Repr

/-- The tree of a listing; every file is read at once. -/
def RuntimeTree.ofListing (listing : List ListedItem)
    (hplain : (listing.all fun item => item.path.all isPlain) = true) : RuntimeTree where
  symlinkMetadata path :=
    if path = [] then .ok ⟨.directory, 0x10, 0⟩
    else okOr ((listing.find? fun item => item.path == path).map ListedItem.metadata) (.os 2)
  readDir directory :=
    .ok (listing.filterMap fun item =>
      if item.path.dropLast = directory then item.path.getLast?.map .ok else none)
  reads path :=
    okOr ((listing.find? fun item => item.path == path).map fun item => [.ok item.content]) (.os 2)
  executable name :=
    okOr ((listing.find? fun item => item.path == [osString name]).map
      fun item => [.ok item.content]) (.os 2)
  plain directory entries name hread hmem := by
    cases hread
    obtain ⟨item, hitem, hname⟩ := List.mem_filterMap.mp hmem
    split at hname
    next =>
      obtain ⟨last, hlast, heq⟩ := Option.map_eq_some_iff.mp hname
      obtain rfl := Except.ok.inj heq
      exact List.all_eq_true.mp (List.all_eq_true.mp hplain item hitem) last
        (List.mem_of_getLast? hlast)
    next => cases hname

theorem enumeratesOnce_ofListing {listing : List ListedItem}
    {hplain : (listing.all fun item => item.path.all isPlain) = true}
    (hnodup : (listing.map ListedItem.path).Nodup) :
    (RuntimeTree.ofListing listing hplain).EnumeratesOnce := by
  rintro directory entries ⟨⟩
  rw [List.filterMap_filterMap]
  -- what an item adds is the last name of its path, if the rest of it is the directory
  have hplace : ∀ item : ListedItem, ∀ name,
      (if item.path.dropLast = directory then
        item.path.getLast?.map (.ok : OsString → Except IoError OsString) else none).bind
          Except.toOption = some name → item.path = directory ++ [name] := by
    intro item name hname
    split at hname
    next hdirectory =>
      obtain ⟨entry, hentry, hname⟩ := Option.bind_eq_some_iff.mp hname
      obtain ⟨last, hlast, rfl⟩ := Option.map_eq_some_iff.mp hentry
      obtain rfl := Option.some.inj hname
      rw [← hdirectory, List.dropLast_append_getLast? _ hlast]
    next => cases hname
  refine List.Pairwise.filterMap _ (fun item other hne name hname name' hname' heq => hne ?_)
    (List.pairwise_map.mp hnodup)
  rw [hplace item name hname, hplace other name' hname', heq]

/-- The same tree with every enumeration turned around. -/
def RuntimeTree.reversed (tree : RuntimeTree) : RuntimeTree where
  symlinkMetadata := tree.symlinkMetadata
  readDir directory := (tree.readDir directory).map List.reverse
  reads := tree.reads
  executable := tree.executable
  plain directory entries name hread hmem := by
    cases hentries : tree.readDir directory with
    | error error => rw [hentries] at hread; cases hread
    | ok others =>
        rw [hentries] at hread
        cases hread
        exact tree.plain directory others name hentries (List.mem_reverse.mp hmem)

theorem sameUpToOrder_reversed (tree : RuntimeTree) : SameUpToOrder tree tree.reversed := by
  refine ⟨rfl, rfl, rfl, fun directory => ?_⟩
  change SameEntries _ ((tree.readDir directory).map List.reverse)
  cases tree.readDir directory with
  | error error => exact rfl
  | ok entries => exact (List.reverse_perm entries).symm

def executableItem : ListedItem :=
  ⟨[osString "msedgewebview2.exe"], ⟨.file, 0x20, 2⟩, [0x4D, 0x5A]⟩

def localeItems : List ListedItem :=
  [⟨[osString "Locales"], ⟨.directory, 0x10, 0⟩, []⟩,
    ⟨[osString "Locales", osString "en-US.pak"], ⟨.file, 0x20, 3⟩, [0x70, 0x61, 0x6B]⟩]

def emptyDirectoryItem : ListedItem := ⟨[osString "empty"], ⟨.directory, 0x10, 0⟩, []⟩

def reviewedTree : RuntimeTree :=
  .ofListing (executableItem :: localeItems) (by decide)

def treeWithEmptyDirectory : RuntimeTree :=
  .ofListing (emptyDirectoryItem :: executableItem :: localeItems) (by decide)

def reviewedPreimage : Bytes :=
  treeHashDomain ++ littleEndian 4 17 ++ asBytes "Locales/en-US.pak" ++ littleEndian 8 3
    ++ [0x70, 0x61, 0x6B] ++ littleEndian 4 18 ++ asBytes "msedgewebview2.exe" ++ littleEndian 8 2
    ++ [0x4D, 0x5A]

def reviewedTreeSha256 : Bytes :=
  [0xD3, 0xAB, 0xD5, 0x9E, 0xCE, 0xA6, 0xF7, 0x31, 0xF9, 0x53, 0xB3, 0x55, 0x34, 0x63, 0x47,
    0xBB, 0x46, 0x60, 0x5F, 0x82, 0xE9, 0xD9, 0xBC, 0xF3, 0x68, 0xC6, 0x73, 0xDB, 0x81,
    0xD1, 0x66, 0x4D]

def reviewedExecutableSha256 : Bytes :=
  [0x9B, 0x8D, 0xB5, 0x10, 0xEF, 0x42, 0xB8, 0xED, 0x54, 0xA3, 0x71, 0x26, 0x36, 0xFD, 0xA5,
    0x5A, 0x4F, 0x8C, 0xFC, 0xD5, 0x49, 0x3E, 0x20, 0xB7, 0x4A, 0xB0, 0x0C, 0xD4, 0xF3,
    0x97, 0x9F, 0x2D]

/-- SHA-256 of the two texts that are hashed for the tree. -/
def reviewedSha256 (text : Bytes) : Bytes :=
  if text = [0x4D, 0x5A] then reviewedExecutableSha256 else reviewedTreeSha256

def reviewedManifest : FixedRuntimeManifest where
  packageDirectory := "runtime"
  expandedTreeSha256 := hexEncode reviewedTreeSha256
  expandedFileCount := 2
  expandedBytes := 5
  executable := "msedgewebview2.exe"
  executableSha256 := hexEncode reviewedExecutableSha256

def runtimeRoot : WindowsPath :=
  ⟨[.pathPrefix (.verbatimUnc (osString "build") (osString "work")), .rootDir,
    .normal (osString "runtime")]⟩

def reviewedFiles : List RuntimeFile :=
  [⟨"Locales/en-US.pak".toList, [osString "Locales", osString "en-US.pak"], 3⟩,
    ⟨"msedgewebview2.exe".toList, [osString "msedgewebview2.exe"], 2⟩]

theorem verify_reviewedTree :
    verifyRuntimeRoot reviewedSha256 reviewedTree runtimeRoot reviewedManifest = .ok () := by
  decide +kernel

theorem verify_treeWithEmptyDirectory :
    verifyRuntimeRoot reviewedSha256 treeWithEmptyDirectory runtimeRoot reviewedManifest =
      .ok () := by
  decide +kernel

theorem hashedAs_reviewedTree : HashedAs reviewedTree reviewedManifest reviewedPreimage :=
  ⟨reviewedFiles, by decide +kernel, by decide +kernel⟩

theorem hashedAs_treeWithEmptyDirectory :
    HashedAs treeWithEmptyDirectory reviewedManifest reviewedPreimage :=
  ⟨reviewedFiles, by decide +kernel, by decide +kernel⟩

/-- The result at the tree of two files, turned around and with an empty directory. -/
theorem runtime_digest_determines_files_reviewed :
    verifyRuntimeRoot reviewedSha256 reviewedTree.reversed runtimeRoot reviewedManifest = .ok () ∧
      reviewedFiles.map (contents reviewedTree) =
        reviewedFiles.map (contents treeWithEmptyDirectory) ∧
      (SameFiles reviewedTree treeWithEmptyDirectory ∧ ∀ preimage preimage',
        HashedAs reviewedTree reviewedManifest preimage →
          HashedAs treeWithEmptyDirectory reviewedManifest preimage' → preimage = preimage') ∧
      ∃ preimage preimage', HashedAs reviewedTree reviewedManifest preimage ∧
        HashedAs treeWithEmptyDirectory reviewedManifest preimage' ∧
          reviewedSha256 preimage = reviewedSha256 preimage' ∧
            (preimage = preimage' → SameFiles reviewedTree treeWithEmptyDirectory) := by
  obtain ⟨hordered, hdetermined, hhashed, haccepted⟩ :=
    runtime_digest_determines_files reviewedSha256 runtimeRoot reviewedManifest
  have hsame : SameFiles reviewedTree treeWithEmptyDirectory :=
    (hhashed _ _ _ _ _ _ hashedAs_reviewedTree hashedAs_treeWithEmptyDirectory).1 rfl
  refine ⟨(hordered _ _ (sameUpToOrder_reversed reviewedTree)).mp verify_reviewedTree, ?_,
    ⟨hsame, fun preimage preimage' hfirst hsecond => ?_⟩,
    haccepted _ _ verify_reviewedTree verify_treeWithEmptyDirectory⟩
  · exact hdetermined reviewedTree treeWithEmptyDirectory reviewedFiles reviewedFiles
      reviewedPreimage (by decide +kernel) (by decide +kernel)
  · exact (hhashed _ _ _ _ _ _ hfirst hsecond).2 (enumeratesOnce_ofListing (by decide))
      (enumeratesOnce_ofListing (by decide)) hsame

/-- A tree with an empty directory is another tree, and what is hashed for it is the same. -/
theorem empty_directory_same_preimage :
    reviewedTree.readDir [] ≠ treeWithEmptyDirectory.readDir [] ∧
      HashedAs reviewedTree reviewedManifest reviewedPreimage ∧
      HashedAs treeWithEmptyDirectory reviewedManifest reviewedPreimage := by
  exact ⟨by decide, hashedAs_reviewedTree, hashedAs_treeWithEmptyDirectory⟩

end Rpackit.Spike
