import Rpackit.Spike.FixedRuntime

/-! # What the walk lists

The walk finds what a walk without early exits finds, as long as the counts stay within
their bounds. So it lists exactly the files below the root, whatever the order of the
enumerations is.
-/

namespace Rpackit.Spike

open Fallible Text Utf16

/-! ## The walk without early exits -/

namespace Walk

def empty : Walk := ⟨0, []⟩

def append (first second : Walk) : Walk :=
  ⟨first.directoryCount + second.directoryCount, first.files ++ second.files⟩

theorem append_assoc (first second third : Walk) :
    (first.append second).append third = first.append (second.append third) := by
  simp [append, Nat.add_assoc]

@[simp] theorem append_empty (walk : Walk) : walk.append empty = walk := by
  simp [append, empty]

/-- The bounds of the walk. -/
def Within (manifest : FixedRuntimeManifest) (walk : Walk) : Prop :=
  walk.directoryCount ≤ maxRuntimeDirectories ∧ walk.files.length ≤ manifest.expandedFileCount

theorem Within.of_append {manifest : FixedRuntimeManifest} {first second : Walk}
    (hwithin : (first.append second).Within manifest) : first.Within manifest := by
  obtain ⟨hcount, hfiles⟩ := hwithin
  simp only [append, List.length_append] at hcount hfiles
  exact ⟨by omega, by omega⟩

/-- The walks agree up to the order of the files. -/
def Agree (first second : Walk) : Prop :=
  first.directoryCount = second.directoryCount ∧ first.files.Perm second.files

theorem Agree.append {first second first' second' : Walk} (hfirst : first.Agree first')
    (hsecond : second.Agree second') : (first.append second).Agree (first'.append second') := by
  refine ⟨?_, hfirst.2.append hsecond.2⟩
  simp only [Walk.append, hfirst.1, hsecond.1]

theorem Agree.within {manifest : FixedRuntimeManifest} {first second : Walk}
    (hagree : first.Agree second) (hwithin : first.Within manifest) : second.Within manifest :=
  ⟨hagree.1 ▸ hwithin.1, hagree.2.length_eq ▸ hwithin.2⟩

end Walk

/-- What an entry adds to the walk; nothing if the walk cannot pass it. -/
def foundAt (tree : RuntimeTree) (below : List OsString → Option Walk)
    (directory : List OsString) (entry : Except IoError OsString) : Option Walk := do
  let name ← entry.toOption
  let path := directory ++ [name]
  let metadata ← (tree.symlinkMetadata path).toOption
  if isReparsePoint metadata then none
  else
    match metadata.kind with
    | .directory => (below path).map (Walk.append ⟨1, []⟩)
    | .file =>
        (normalizedRelativePath path).toOption.map fun relative =>
          ⟨0, [⟨relative, path, metadata.length⟩]⟩
    | .other => none

def combine (found : List (Option Walk)) : Option Walk :=
  found.foldr (fun first rest => first.bind fun walk => rest.map walk.append) (some .empty)

/-- All that lies below a directory. -/
def gather (tree : RuntimeTree) : Nat → List OsString → Option Walk
  | 0, _ => none
  | levels + 1, directory => do
      let entries ← (tree.readDir directory).toOption
      combine (entries.map (foundAt tree (gather tree levels) directory))

@[simp] theorem combine_cons (first : Option Walk) (rest : List (Option Walk)) :
    combine (first :: rest) = first.bind fun walk => (combine rest).map walk.append := rfl

theorem combine_cons_eq_some_iff {first : Option Walk} {rest : List (Option Walk)} {walk : Walk} :
    combine (first :: rest) = some walk ↔ ∃ part others, first = some part ∧
      combine rest = some others ∧ part.append others = walk := by
  simp [Option.bind_eq_some_iff]

/-- A step that adds what was found, as long as the walk stays within its bounds. -/
def Collects (manifest : FixedRuntimeManifest) (step : Walk → Except IoError Walk)
    (found : Option Walk) : Prop :=
  ∀ start stop, start.Within manifest → (step start = .ok stop ↔
    ∃ walk, found = some walk ∧ stop = start.append walk ∧ stop.Within manifest)

section Collects

variable {tree : RuntimeTree} {manifest : FixedRuntimeManifest}

/-- One more directory is entered. -/
theorem collects_enter {descend : Walk → Except IoError Walk} {below : Option Walk}
    {start stop : Walk} (hstart : start.Within manifest)
    (hdescend : Collects manifest descend below) :
    start.directoryCount + 1 ≤ maxRuntimeDirectories ∧
        descend (start.append ⟨1, []⟩) = .ok stop ↔
      ∃ walk, below.map (Walk.append ⟨1, []⟩) = some walk ∧ stop = start.append walk ∧
        stop.Within manifest := by
  have hentered : start.directoryCount + 1 ≤ maxRuntimeDirectories ↔
      (start.append ⟨1, []⟩).Within manifest := by
    simp only [Walk.Within, Walk.append, List.append_nil]
    exact ⟨fun hcount => ⟨hcount, hstart.2⟩, And.left⟩
  rw [hentered]
  constructor
  · rintro ⟨hwithin, hok⟩
    obtain ⟨walk, rfl, rfl, hstop⟩ := (hdescend _ stop hwithin).mp hok
    exact ⟨_, rfl, Walk.append_assoc _ _ _, hstop⟩
  · rintro ⟨total, htotal, rfl, hstop⟩
    obtain ⟨walk, hwalk, rfl⟩ := Option.map_eq_some_iff.mp htotal
    rw [← Walk.append_assoc] at hstop ⊢
    exact ⟨hstop.of_append, (hdescend _ _ hstop.of_append).mpr ⟨walk, hwalk, rfl, hstop⟩⟩

/-- One more file is listed. -/
theorem collects_push {start stop : Walk} (hstart : start.Within manifest) (file : RuntimeFile) :
    start.files.length < manifest.expandedFileCount ∧ stop = start.append ⟨0, [file]⟩ ↔
      ∃ walk, some (⟨0, [file]⟩ : Walk) = some walk ∧ stop = start.append walk ∧
        stop.Within manifest := by
  have hlisted : start.files.length < manifest.expandedFileCount ↔
      (start.append ⟨0, [file]⟩).Within manifest := by
    simp only [Walk.Within, Walk.append, List.length_append, List.length_singleton]
    exact ⟨fun hcount => ⟨hstart.1, hcount⟩, And.right⟩
  rw [hlisted]
  constructor
  · rintro ⟨hwithin, rfl⟩
    exact ⟨_, rfl, rfl, hwithin⟩
  · rintro ⟨walk, hwalk, rfl, hwithin⟩
    obtain rfl := Option.some.inj hwalk
    exact ⟨hwithin, rfl⟩

theorem collects_visitEntry {descend : List OsString → Walk → Except IoError Walk}
    {below : List OsString → Option Walk}
    (hdescend : ∀ path, Collects manifest (descend path) (below path))
    (directory : List OsString) (entry : Except IoError OsString) :
    Collects manifest (fun walk => visitEntry tree manifest descend directory walk entry)
      (foundAt tree below directory entry) := by
  intro start stop hstart
  cases entry with
  | error error => simp [visitEntry, foundAt, Except.toOption]
  | ok name =>
      cases hmetadata : tree.symlinkMetadata (directory ++ [name]) with
      | error error => simp [visitEntry, foundAt, Except.toOption, hmetadata]
      | ok metadata =>
          cases hreparse : isReparsePoint metadata with
          | true => simp [visitEntry, foundAt, Except.toOption, hmetadata, hreparse]
          | false =>
              cases hkind : metadata.kind with
              | directory =>
                  have hfound : foundAt tree below directory (.ok name) =
                      (below (directory ++ [name])).map (Walk.append ⟨1, []⟩) := by
                    simp [foundAt, Except.toOption, hmetadata, hreparse, hkind]
                  have hvisit : visitEntry tree manifest descend directory start (.ok name) =
                      .ok stop ↔ start.directoryCount + 1 ≤ maxRuntimeDirectories ∧
                        descend (directory ++ [name]) (start.append ⟨1, []⟩) = .ok stop := by
                    simp [visitEntry, hmetadata, hreparse, hkind, rejectIf_bind_eq_ok_iff,
                      Walk.append]
                  exact hfound ▸ hvisit.trans (collects_enter hstart (hdescend _))
              | file =>
                  have hfound : foundAt tree below directory (.ok name) =
                      (normalizedRelativePath (directory ++ [name])).toOption.map fun relative =>
                        ⟨0, [⟨relative, directory ++ [name], metadata.length⟩]⟩ := by
                    simp [foundAt, Except.toOption, hmetadata, hreparse, hkind]
                  change visitEntry tree manifest descend directory start (.ok name) = .ok stop ↔ _
                  rw [hfound]
                  cases hrelative : normalizedRelativePath (directory ++ [name]) with
                  | error error =>
                      simp [visitEntry, hmetadata, hreparse, hkind, rejectIf_bind_eq_ok_iff,
                        hrelative, Except.toOption]
                  | ok relative =>
                      have hvisit :
                          visitEntry tree manifest descend directory start (.ok name) = .ok stop ↔
                            start.files.length < manifest.expandedFileCount ∧ stop = start.append
                              ⟨0, [⟨relative, directory ++ [name], metadata.length⟩]⟩ := by
                        simp [visitEntry, hmetadata, hreparse, hkind, rejectIf_bind_eq_ok_iff,
                          hrelative, Walk.append, @eq_comm _ stop]
                      exact hvisit.trans (collects_push hstart _)
              | other => simp [visitEntry, foundAt, Except.toOption, hmetadata, hreparse, hkind]

theorem collects_foldlM {f : Walk → Except IoError OsString → Except IoError Walk}
    {found : Except IoError OsString → Option Walk}
    (hf : ∀ entry, Collects manifest (f · entry) (found entry))
    (entries : List (Except IoError OsString)) :
    Collects manifest (entries.foldlM f) (combine (entries.map found)) := by
  induction entries with
  | nil =>
      intro start stop hstart
      change List.foldlM f start [] = .ok stop ↔ _
      rw [List.foldlM_nil, pure_eq_ok_iff]
      constructor
      · rintro rfl
        exact ⟨.empty, rfl, (Walk.append_empty _).symm, hstart⟩
      · rintro ⟨walk, hwalk, hstop, -⟩
        obtain rfl := Option.some.inj hwalk
        rw [hstop, Walk.append_empty]
  | cons entry rest ih =>
      intro start stop hstart
      change List.foldlM f start (entry :: rest) = .ok stop ↔ _
      rw [List.foldlM_cons, bind_eq_ok_iff, List.map_cons]
      simp only [combine_cons_eq_some_iff]
      constructor
      · rintro ⟨middle, hfirst, hrest⟩
        obtain ⟨walk, hwalk, rfl, hmiddle⟩ := (hf entry start middle hstart).mp hfirst
        obtain ⟨others, hothers, rfl, hstop⟩ := (ih _ stop hmiddle).mp hrest
        exact ⟨walk.append others, ⟨walk, others, hwalk, hothers, rfl⟩,
          Walk.append_assoc _ _ _, hstop⟩
      · rintro ⟨total, ⟨walk, others, hwalk, hothers, rfl⟩, rfl, hstop⟩
        rw [← Walk.append_assoc] at hstop ⊢
        exact ⟨_, (hf entry start _ hstart).mpr ⟨walk, hwalk, rfl, hstop.of_append⟩,
          (ih _ _ hstop.of_append).mpr ⟨others, hothers, rfl, hstop⟩⟩

/-- The walk finds all that lies below a directory, or fails. -/
theorem collects_collectRuntimeFiles (levels : Nat) (directory : List OsString) :
    Collects manifest (collectRuntimeFiles tree manifest levels directory)
      (gather tree levels directory) := by
  induction levels generalizing directory with
  | zero =>
      intro start stop hstart
      simp [collectRuntimeFiles, gather]
  | succ levels ih =>
      intro start stop hstart
      rw [collectRuntimeFiles, gather]
      cases hentries : tree.readDir directory with
      | error error => simp [Except.toOption]
      | ok entries =>
          exact collects_foldlM (collects_visitEntry ih directory) entries start stop hstart

end Collects

/-! ## The order of an enumeration -/

/-- The same entries, or the same failure. -/
def SameEntries : Except IoError (List (Except IoError OsString)) →
    Except IoError (List (Except IoError OsString)) → Prop
  | .ok entries, .ok entries' => entries.Perm entries'
  | .error error, .error error' => error = error'
  | _, _ => False

/-- The trees differ only in the order of their enumerations. -/
structure SameUpToOrder (tree tree' : RuntimeTree) : Prop where
  symlinkMetadata : tree.symlinkMetadata = tree'.symlinkMetadata
  reads : tree.reads = tree'.reads
  executable : tree.executable = tree'.executable
  readDir : ∀ directory, SameEntries (tree.readDir directory) (tree'.readDir directory)

section Order

abbrev AgreeOption : Option Walk → Option Walk → Prop := Option.Rel Walk.Agree

theorem AgreeOption.refl (found : Option Walk) : AgreeOption found found := by
  cases found with
  | none => exact .none
  | some walk => exact .some ⟨rfl, .refl _⟩

theorem AgreeOption.trans {first second third : Option Walk} (hfirst : AgreeOption first second)
    (hsecond : AgreeOption second third) : AgreeOption first third := by
  cases hfirst with
  | none => exact hsecond
  | some hfirst =>
      cases hsecond with
      | some hsecond => exact .some ⟨hfirst.1.trans hsecond.1, hfirst.2.trans hsecond.2⟩

theorem AgreeOption.append {first rest first' rest' : Option Walk}
    (hfirst : AgreeOption first first') (hrest : AgreeOption rest rest') :
    AgreeOption (first.bind fun walk => rest.map walk.append)
      (first'.bind fun walk => rest'.map walk.append) := by
  cases hfirst with
  | none => exact .none
  | some hwalk =>
      cases hrest with
      | none => exact .none
      | some hothers => exact .some (hwalk.append hothers)

theorem AgreeOption.mapAppend {found found' : Option Walk} (hfound : AgreeOption found found')
    (walk : Walk) : AgreeOption (found.map walk.append) (found'.map walk.append) := by
  cases hfound with
  | none => exact .none
  | some hfound => exact .some (Walk.Agree.append ⟨rfl, .refl _⟩ hfound)

theorem combine_swap (first second : Option Walk) (rest : List (Option Walk)) :
    AgreeOption (combine (second :: first :: rest)) (combine (first :: second :: rest)) := by
  simp only [combine_cons]
  cases first with
  | none => cases second <;> exact .none
  | some walk =>
      cases second with
      | none => exact .none
      | some walk' =>
          cases combine rest with
          | none => exact .none
          | some others =>
              refine .some ⟨?_, ?_⟩
              · simp only [Walk.append]
                omega
              · simp only [Walk.append, ← List.append_assoc]
                exact List.perm_append_comm.append_right _

theorem combine_perm {found found' : List (Option Walk)} (hperm : found.Perm found') :
    AgreeOption (combine found) (combine found') := by
  induction hperm with
  | nil => exact AgreeOption.refl _
  | cons first _ ih => exact (AgreeOption.refl first).append ih
  | swap first second rest => exact combine_swap first second rest
  | trans _ _ hfirst hsecond => exact hfirst.trans hsecond

theorem combine_congr {entries : List (Except IoError OsString)}
    {found found' : Except IoError OsString → Option Walk}
    (hfound : ∀ entry, AgreeOption (found entry) (found' entry)) :
    AgreeOption (combine (entries.map found)) (combine (entries.map found')) := by
  induction entries with
  | nil => exact AgreeOption.refl _
  | cons entry rest ih => exact (hfound entry).append ih

variable {tree tree' : RuntimeTree}

theorem foundAt_agree (hsame : SameUpToOrder tree tree')
    {below below' : List OsString → Option Walk}
    (hbelow : ∀ path, AgreeOption (below path) (below' path)) (directory : List OsString)
    (entry : Except IoError OsString) :
    AgreeOption (foundAt tree below directory entry) (foundAt tree' below' directory entry) := by
  unfold foundAt
  rw [hsame.symlinkMetadata]
  cases entry with
  | error error => exact .none
  | ok name =>
      cases hmetadata : tree'.symlinkMetadata (directory ++ [name]) with
      | error error => simp [Except.toOption, hmetadata]
      | ok metadata =>
          simp only [Except.toOption, hmetadata, Option.bind_some, bind]
          split
          next => exact .none
          next =>
            split
            next => exact (hbelow _).mapAppend _
            next => exact AgreeOption.refl _
            next => exact .none

/-- What lies below a directory does not depend on the order of the enumerations. -/
theorem gather_agree (hsame : SameUpToOrder tree tree') (levels : Nat)
    (directory : List OsString) :
    AgreeOption (gather tree levels directory) (gather tree' levels directory) := by
  induction levels generalizing directory with
  | zero => exact .none
  | succ levels ih =>
      rw [gather, gather]
      have hentries := hsame.readDir directory
      cases hread : tree.readDir directory with
      | error error =>
          cases hread' : tree'.readDir directory with
          | error error' => exact .none
          | ok entries' => simp [SameEntries, hread, hread'] at hentries
      | ok entries =>
          cases hread' : tree'.readDir directory with
          | error error' => simp [SameEntries, hread, hread'] at hentries
          | ok entries' =>
              rw [hread, hread'] at hentries
              exact (combine_congr (foundAt_agree hsame ih directory)).trans
                (combine_perm (List.Perm.map _ hentries))

end Order

/-! ## The files of the listing -/

/-- The name of a place below the root, as the system writes it. -/
def relativeName (path : List OsString) : OsString := [(0x2F : UInt16)].intercalate path

section Paths

theorem encodeUtf16_slash : encodeUtf16 '/' = [0x2F] := by decide

theorem relativeName_cons (first : OsString) (rest : List OsString) :
    relativeName (first :: rest) = first ++ rest.flatMap (0x2F :: ·) := by
  induction rest generalizing first with
  | nil => simp [relativeName]
  | cons second rest ih =>
      rw [relativeName, List.intercalate_cons_cons, ← relativeName, ih, List.flatMap_cons]
      simp

theorem not_mem_of_isPlain {name : OsString} (hplain : isPlain name = true) :
    0x2F ∉ name := by
  simp only [isPlain, Bool.and_eq_true, List.all_eq_true] at hplain
  intro hmem
  exact absurd (hplain.1.1.2 _ hmem).1.1 (by decide)

theorem ne_nil_of_isPlain {name : OsString} (hplain : isPlain name = true) : name ≠ [] := by
  rintro rfl
  exact absurd hplain (by decide)

/-- A place is determined by its name. -/
theorem splitOn_relativeName {path : List OsString} (hne : path ≠ [])
    (hplain : ∀ name ∈ path, isPlain name = true) : (relativeName path).splitOn 0x2F = path :=
  List.splitOn_intercalate _ (fun name hname => not_mem_of_isPlain (hplain name hname)) hne

theorem foldlM_pushPart {path : List OsString} {start stop : List Char} (hstart : start ≠ [])
    (hok : path.foldlM pushPart start = .ok stop) :
    stop.flatMap encodeUtf16 = start.flatMap encodeUtf16 ++ path.flatMap (0x2F :: ·) := by
  induction path generalizing start with
  | nil =>
      rw [List.foldlM_nil, pure_eq_ok_iff] at hok
      rw [hok, List.flatMap_nil, List.append_nil]
  | cons name rest ih =>
      rw [List.foldlM_cons, bind_eq_ok_iff] at hok
      obtain ⟨middle, hpart, hrest⟩ := hok
      obtain ⟨part, hname, hmiddle⟩ := okOr_bind_eq_ok_iff.mp hpart
      obtain rfl := pure_eq_ok_iff.mp hmiddle
      rw [if_neg (by simpa using hstart)] at hrest
      rw [ih (by simp) hrest, ← toStr_eq_some_iff.mp hname]
      simp [encodeUtf16_slash]

/-- The normalized text of a place is its name. -/
theorem normalizedRelativePath_eq_ok {path : List OsString} {relative : List Char}
    (hplain : ∀ name ∈ path, isPlain name = true)
    (hok : normalizedRelativePath path = .ok relative) :
    path ≠ [] ∧ relative.flatMap encodeUtf16 = relativeName path := by
  rw [normalizedRelativePath, bind_eq_ok_iff] at hok
  obtain ⟨normalized, hfold, hok⟩ := hok
  obtain ⟨hlength, hreturn⟩ := rejectIf_bind_eq_ok_iff.mp hok
  obtain rfl := pure_eq_ok_iff.mp hreturn
  cases path with
  | nil =>
      obtain rfl := pure_eq_ok_iff.mp hfold
      cases hlength
  | cons name rest =>
      refine ⟨List.cons_ne_nil _ _, ?_⟩
      rw [List.foldlM_cons, bind_eq_ok_iff] at hfold
      obtain ⟨first, hpart, hrest⟩ := hfold
      obtain ⟨part, hname, hfirst⟩ := okOr_bind_eq_ok_iff.mp hpart
      obtain rfl := pure_eq_ok_iff.mp hfirst
      have hname := toStr_eq_some_iff.mp hname
      have hne : first ≠ [] := by
        rintro rfl
        exact ne_nil_of_isPlain (hplain name List.mem_cons_self) hname.symm
      rw [foldlM_pushPart hne hrest, hname, relativeName_cons]

end Paths

/-- How a listed file stands in the tree. -/
structure Placed (tree : RuntimeTree) (directory : List OsString) (file : RuntimeFile) : Prop where
  below : directory <+: file.path
  plain : ∀ name ∈ file.path, isPlain name = true
  relative : normalizedRelativePath file.path = .ok file.relative
  metadata : ∃ metadata, tree.symlinkMetadata file.path = .ok metadata ∧
    file.length = metadata.length

section Files

variable {tree : RuntimeTree} {directory : List OsString} {file other : RuntimeFile}

theorem Placed.name (hplaced : Placed tree directory file) :
    file.relative.flatMap encodeUtf16 = relativeName file.path :=
  (normalizedRelativePath_eq_ok hplaced.plain hplaced.relative).2

theorem Placed.path_ne_nil (hplaced : Placed tree directory file) : file.path ≠ [] :=
  (normalizedRelativePath_eq_ok hplaced.plain hplaced.relative).1

theorem Placed.splitOn (hplaced : Placed tree directory file) :
    (relativeName file.path).splitOn 0x2F = file.path :=
  splitOn_relativeName hplaced.path_ne_nil hplaced.plain

/-- A listed file is determined by its text. -/
theorem Placed.eq_of_relative (hplaced : Placed tree directory file)
    (hother : Placed tree directory other) (heq : file.relative = other.relative) :
    file = other := by
  have hpath : file.path = other.path := by
    rw [← hplaced.splitOn, ← hother.splitOn, ← hplaced.name, ← hother.name, heq]
  obtain ⟨metadata, hread, hlength⟩ := hplaced.metadata
  obtain ⟨metadata', hread', hlength'⟩ := hother.metadata
  rw [hpath, hread'] at hread
  obtain rfl := Except.ok.inj hread
  cases file
  cases other
  simp_all

theorem exists_of_mem_combine {entries : List (Except IoError OsString)}
    {found : Except IoError OsString → Option Walk} {walk : Walk}
    (hcombine : combine (entries.map found) = some walk) (hmem : file ∈ walk.files) :
    ∃ entry ∈ entries, ∃ part, found entry = some part ∧ file ∈ part.files := by
  induction entries generalizing walk with
  | nil =>
      obtain rfl := Option.some.inj hcombine
      exact absurd hmem List.not_mem_nil
  | cons entry rest ih =>
      obtain ⟨part, others, hpart, hothers, rfl⟩ := combine_cons_eq_some_iff.mp hcombine
      obtain hmem | hmem := List.mem_append.mp hmem
      · exact ⟨entry, List.mem_cons_self, part, hpart, hmem⟩
      · obtain ⟨later, hlater, hfound⟩ := ih hothers hmem
        exact ⟨later, List.mem_cons_of_mem _ hlater, hfound⟩

/-- What an entry that the walk passes is. -/
inductive Found (tree : RuntimeTree) (below : List OsString → Option Walk)
    (directory : List OsString) (name : OsString) (metadata : Metadata) : Walk → Prop where
  | directory {walk : Walk} (hkind : metadata.kind = .directory)
      (hbelow : below (directory ++ [name]) = some walk) :
      Found tree below directory name metadata (Walk.append ⟨1, []⟩ walk)
  | file {relative : List Char} (hkind : metadata.kind = .file)
      (hrelative : normalizedRelativePath (directory ++ [name]) = .ok relative) :
      Found tree below directory name metadata
        ⟨0, [⟨relative, directory ++ [name], metadata.length⟩]⟩

theorem found_of_foundAt {below : List OsString → Option Walk} {entry : Except IoError OsString}
    {part : Walk} (hfound : foundAt tree below directory entry = some part) :
    ∃ name metadata, entry = .ok name ∧
      tree.symlinkMetadata (directory ++ [name]) = .ok metadata ∧
      isReparsePoint metadata = false ∧ Found tree below directory name metadata part := by
  cases entry with
  | error error => simp [foundAt, Except.toOption] at hfound
  | ok name =>
      cases hmetadata : tree.symlinkMetadata (directory ++ [name]) with
      | error error => simp [foundAt, Except.toOption, hmetadata] at hfound
      | ok metadata =>
          simp only [foundAt, Except.toOption, hmetadata, Option.bind_some, bind] at hfound
          split at hfound
          next => cases hfound
          next hreparse =>
            refine ⟨name, metadata, rfl, hmetadata, Bool.eq_false_iff.mpr hreparse, ?_⟩
            split at hfound
            next hkind =>
              obtain ⟨walk, hwalk, rfl⟩ := Option.map_eq_some_iff.mp hfound
              exact .directory hkind hwalk
            next hkind =>
              cases hrelative : normalizedRelativePath (directory ++ [name]) with
              | error error => simp [hrelative] at hfound
              | ok relative =>
                  rw [hrelative] at hfound
                  obtain rfl := Option.some.inj hfound
                  exact .file hkind hrelative
            next => cases hfound

theorem exists_part_of_combine {entries : List (Except IoError OsString)}
    {found : Except IoError OsString → Option Walk} {walk : Walk}
    (hcombine : combine (entries.map found) = some walk) {entry : Except IoError OsString}
    (hentry : entry ∈ entries) : ∃ part, found entry = some part ∧ part.files ⊆ walk.files := by
  induction entries generalizing walk with
  | nil => cases hentry
  | cons first rest ih =>
      obtain ⟨part, others, hpart, hothers, rfl⟩ := combine_cons_eq_some_iff.mp hcombine
      obtain rfl | hrest := List.mem_cons.mp hentry
      · exact ⟨part, hpart, List.subset_append_left _ _⟩
      · obtain ⟨later, hlater, hsubset⟩ := ih hothers hrest
        exact ⟨later, hlater, List.Subset.trans hsubset (List.subset_append_right _ _)⟩

/-- What is below a directory comes from the entries that it reports. -/
theorem exists_found_of_mem {levels : Nat} {walk : Walk}
    (hgather : gather tree (levels + 1) directory = some walk) (hmem : file ∈ walk.files) :
    ∃ entries name metadata part, tree.readDir directory = .ok entries ∧ .ok name ∈ entries ∧
      tree.symlinkMetadata (directory ++ [name]) = .ok metadata ∧
      Found tree (gather tree levels) directory name metadata part ∧ file ∈ part.files := by
  rw [gather] at hgather
  cases hentries : tree.readDir directory with
  | error error => simp [hentries, Except.toOption] at hgather
  | ok entries =>
      rw [hentries] at hgather
      obtain ⟨entry, hentry, part, hpart, hmem⟩ := exists_of_mem_combine hgather hmem
      obtain ⟨name, metadata, rfl, hmetadata, -, hfound⟩ := found_of_foundAt hpart
      exact ⟨entries, name, metadata, part, rfl, hentry, hmetadata, hfound, hmem⟩

/-- Every entry that a directory reports is passed. -/
theorem exists_found_of_entry {levels : Nat} {walk : Walk}
    {entries : List (Except IoError OsString)} {name : OsString} {metadata : Metadata}
    (hgather : gather tree (levels + 1) directory = some walk)
    (hentries : tree.readDir directory = .ok entries) (hname : .ok name ∈ entries)
    (hmetadata : tree.symlinkMetadata (directory ++ [name]) = .ok metadata) :
    ∃ part, Found tree (gather tree levels) directory name metadata part ∧
      part.files ⊆ walk.files := by
  rw [gather, hentries] at hgather
  obtain ⟨part, hpart, hsubset⟩ := exists_part_of_combine hgather hname
  obtain ⟨other, looked, hentry, hlooked, -, hfound⟩ := found_of_foundAt hpart
  obtain rfl := Except.ok.inj hentry
  rw [hmetadata] at hlooked
  obtain rfl := Except.ok.inj hlooked
  exact ⟨part, hfound, hsubset⟩

/-- A file that is reached from a directory, entering only what is reported as a directory. -/
inductive FileBelow (tree : RuntimeTree) : List OsString → List OsString → Prop where
  | here {directory : List OsString} {name : OsString} {entries : List (Except IoError OsString)}
      {metadata : Metadata} (hentries : tree.readDir directory = .ok entries)
      (hname : .ok name ∈ entries)
      (hmetadata : tree.symlinkMetadata (directory ++ [name]) = .ok metadata)
      (hkind : metadata.kind = .file) : FileBelow tree directory (directory ++ [name])
  | deeper {directory path : List OsString} {name : OsString}
      {entries : List (Except IoError OsString)} {metadata : Metadata}
      (hentries : tree.readDir directory = .ok entries) (hname : .ok name ∈ entries)
      (hmetadata : tree.symlinkMetadata (directory ++ [name]) = .ok metadata)
      (hkind : metadata.kind = .directory) (hpath : FileBelow tree (directory ++ [name]) path) :
      FileBelow tree directory path

/-- The files of the listing are those that are reached. -/
theorem mem_gather_iff {levels : Nat} {walk : Walk} {path : List OsString}
    (hgather : gather tree levels directory = some walk) :
    (∃ file ∈ walk.files, file.path = path) ↔ FileBelow tree directory path := by
  induction levels generalizing directory walk with
  | zero => cases hgather
  | succ levels ih =>
      constructor
      · rintro ⟨file, hmem, rfl⟩
        obtain ⟨entries, name, metadata, part, hentries, hname, hmetadata, hfound, hmem⟩ :=
          exists_found_of_mem hgather hmem
        cases hfound with
        | directory hkind hbelow =>
            exact .deeper hentries hname hmetadata hkind ((ih hbelow).mp ⟨file, hmem, rfl⟩)
        | file hkind hrelative =>
            obtain rfl := List.mem_singleton.mp hmem
            exact .here hentries hname hmetadata hkind
      · intro hbelow
        cases hbelow with
        | here hentries hname hmetadata hkind =>
            obtain ⟨part, hfound, hsubset⟩ :=
              exists_found_of_entry hgather hentries hname hmetadata
            cases hfound with
            | directory hkind' _ => rw [hkind] at hkind'; cases hkind'
            | file _ _ => exact ⟨_, hsubset List.mem_cons_self, rfl⟩
        | deeper hentries hname hmetadata hkind hpath =>
            obtain ⟨part, hfound, hsubset⟩ :=
              exists_found_of_entry hgather hentries hname hmetadata
            cases hfound with
            | directory _ hbelow =>
                obtain ⟨file, hmem, heq⟩ := (ih hbelow).mpr hpath
                exact ⟨file, hsubset hmem, heq⟩
            | file hkind' _ => rw [hkind] at hkind'; cases hkind'

/-- Every file of the listing is placed below its directory. -/
theorem placed_of_gather {levels : Nat} {walk : Walk}
    (hdirectory : ∀ name ∈ directory, isPlain name = true)
    (hgather : gather tree levels directory = some walk) (hmem : file ∈ walk.files) :
    Placed tree directory file := by
  induction levels generalizing directory walk with
  | zero => cases hgather
  | succ levels ih =>
      obtain ⟨entries, name, metadata, part, hentries, hname, hmetadata, hfound, hmem⟩ :=
        exists_found_of_mem hgather hmem
      have hplain : ∀ other ∈ directory ++ [name], isPlain other = true :=
        List.forall_mem_append.mpr ⟨hdirectory, List.forall_mem_singleton.mpr
          (tree.plain directory entries name hentries hname)⟩
      cases hfound with
      | directory hkind hbelow =>
          have hplaced := ih hplain hbelow hmem
          exact ⟨(List.prefix_append _ _).trans hplaced.below, hplaced.plain,
            hplaced.relative, hplaced.metadata⟩
      | file hkind hrelative =>
          obtain rfl := List.mem_singleton.mp hmem
          exact ⟨List.prefix_append _ _, hplain, hrelative, metadata, hmetadata, rfl⟩

/-- No directory reports a name twice. -/
def RuntimeTree.EnumeratesOnce (tree : RuntimeTree) : Prop :=
  ∀ directory entries, tree.readDir directory = .ok entries →
    (entries.filterMap Except.toOption).Nodup

/-- What an entry adds lies at its place or below it. -/
theorem Found.below {levels : Nat} {name : OsString} {metadata : Metadata} {part : Walk}
    (hplain : ∀ other ∈ directory ++ [name], isPlain other = true)
    (hfound : Found tree (gather tree levels) directory name metadata part)
    (hmem : file ∈ part.files) : directory ++ [name] <+: file.path := by
  cases hfound with
  | directory hkind hbelow => exact (placed_of_gather hplain hbelow hmem).below
  | file hkind hrelative =>
      obtain rfl := List.mem_singleton.mp hmem
      exact List.prefix_refl _

/-- No file is found at two entries of a directory. -/
theorem nodup_combine {levels : Nat} {walk : Walk} {entries : List (Except IoError OsString)}
    (hplain : ∀ name, .ok name ∈ entries → ∀ other ∈ directory ++ [name], isPlain other = true)
    (hparts : ∀ name metadata part, Found tree (gather tree levels) directory name metadata part →
      .ok name ∈ entries → (part.files.map RuntimeFile.path).Nodup)
    (honce : (entries.filterMap Except.toOption).Nodup)
    (hcombine : combine (entries.map (foundAt tree (gather tree levels) directory)) = some walk) :
    (walk.files.map RuntimeFile.path).Nodup := by
  induction entries generalizing walk with
  | nil =>
      obtain rfl := Option.some.inj hcombine
      exact List.nodup_nil
  | cons entry rest ih =>
      obtain ⟨part, others, hpart, hothers, rfl⟩ := combine_cons_eq_some_iff.mp hcombine
      obtain ⟨name, metadata, rfl, -, -, hfound⟩ := found_of_foundAt hpart
      have honce : (name :: rest.filterMap Except.toOption).Nodup := honce
      obtain ⟨hname, honce⟩ := List.nodup_cons.mp honce
      have hlater := ih (fun other hother => hplain other (List.mem_cons_of_mem _ hother))
        (fun other metadata part hfound hother =>
          hparts other metadata part hfound (List.mem_cons_of_mem _ hother)) honce hothers
      rw [Walk.append, List.map_append, List.nodup_append]
      refine ⟨hparts name metadata part hfound List.mem_cons_self, hlater, ?_⟩
      simp only [List.forall_mem_map]
      rintro file hfile later hmem heq
      -- a file of two entries would lie below both
      obtain ⟨entry, hentry, otherPart, hotherPart, hmem⟩ := exists_of_mem_combine hothers hmem
      obtain ⟨other, _, rfl, -, -, hotherFound⟩ := found_of_foundAt hotherPart
      have hbelow := hfound.below (hplain name List.mem_cons_self) hfile
      have hotherBelow := hotherFound.below (hplain other (List.mem_cons_of_mem _ hentry)) hmem
      rw [← heq] at hotherBelow
      have hsame := List.prefix_of_prefix_length_le hbelow hotherBelow (by simp)
      obtain rfl := (List.append_singleton_inj.mp (hsame.eq_of_length (by simp))).2
      exact hname (List.mem_filterMap.mpr ⟨.ok name, hentry, rfl⟩)

/-- Every file is listed once. -/
theorem nodup_gather {levels : Nat} {walk : Walk} (honce : tree.EnumeratesOnce)
    (hdirectory : ∀ name ∈ directory, isPlain name = true)
    (hgather : gather tree levels directory = some walk) :
    (walk.files.map RuntimeFile.path).Nodup := by
  induction levels generalizing directory walk with
  | zero => cases hgather
  | succ levels ih =>
      rw [gather] at hgather
      cases hentries : tree.readDir directory with
      | error error => simp [hentries, Except.toOption] at hgather
      | ok entries =>
          rw [hentries] at hgather
          have hplain : ∀ name, .ok name ∈ entries →
              ∀ other ∈ directory ++ [name], isPlain other = true := fun name hname =>
            List.forall_mem_append.mpr ⟨hdirectory, List.forall_mem_singleton.mpr
              (tree.plain directory entries name hentries hname)⟩
          refine nodup_combine hplain ?_ (honce directory entries hentries) hgather
          intro name metadata part hfound hname
          cases hfound with
          | directory hkind hbelow =>
              have hlower := ih (hplain name hname) hbelow
              exact hlower
          | file hkind hrelative => exact List.nodup_singleton _

end Files

/-! ## The sorted listing -/

instance : Std.Total Precedes where
  total left right := List.le_total (encodeUtf8 left.relative) (encodeUtf8 right.relative)

instance : IsTrans RuntimeFile Precedes where
  trans _ _ _ hfirst hsecond := List.le_trans hfirst hsecond

theorem encodeUtf8_injective {first second : List Char}
    (heq : encodeUtf8 first = encodeUtf8 second) : first = second := by
  have hdecode := congrArg decodeUtf8 heq
  rw [decodeUtf8_encodeUtf8, decodeUtf8_encodeUtf8] at hdecode
  exact Option.some.inj hdecode

theorem sortByRelative_eq_of_perm {files files' : List RuntimeFile} (hperm : files.Perm files')
    (hdetermined : ∀ left ∈ files, ∀ right ∈ files, left.relative = right.relative → left = right) :
    sortByRelative files = sortByRelative files' := by
  have hsorted := List.perm_insertionSort Precedes files
  have hsorted' := List.perm_insertionSort Precedes files'
  refine List.Perm.eq_of_pairwise (fun left right hleft hright hforth hback => ?_)
    (List.pairwise_insertionSort Precedes files) (List.pairwise_insertionSort Precedes files')
    (hsorted.trans (hperm.trans hsorted'.symm))
  refine hdetermined left (hsorted.mem_iff.mp hleft) right
    (hperm.mem_iff.mpr (hsorted'.mem_iff.mp hright)) (encodeUtf8_injective ?_)
  exact List.le_antisymm hforth hback

section Listing

variable {tree tree' : RuntimeTree} {manifest : FixedRuntimeManifest} {files : List RuntimeFile}

theorem runtimeFiles_eq_ok_iff :
    runtimeFiles tree manifest = .ok files ↔ ∃ walk,
      gather tree (maxRuntimeDepth + 1) [] = some walk ∧ walk.Within manifest ∧
        files = sortByRelative walk.files := by
  have hstart : Walk.Within manifest ⟨0, []⟩ := ⟨Nat.zero_le _, Nat.zero_le _⟩
  rw [runtimeFiles, bind_eq_ok_iff]
  constructor
  · rintro ⟨stop, hwalk, hfiles⟩
    obtain ⟨walk, hgather, rfl, hwithin⟩ :=
      (collects_collectRuntimeFiles (maxRuntimeDepth + 1) [] _ stop hstart).mp hwalk
    rw [Walk.append, Nat.zero_add, List.nil_append] at hwithin hfiles
    exact ⟨walk, hgather, hwithin, pure_eq_ok_iff.mp hfiles⟩
  · rintro ⟨walk, hgather, hwithin, rfl⟩
    refine ⟨walk, (collects_collectRuntimeFiles (maxRuntimeDepth + 1) [] _ walk hstart).mpr
      ⟨walk, hgather, ?_, hwithin⟩, rfl⟩
    rw [Walk.append, Nat.zero_add, List.nil_append]

theorem placed_of_runtimeFiles (hfiles : runtimeFiles tree manifest = .ok files)
    {file : RuntimeFile} (hmem : file ∈ files) : Placed tree [] file := by
  obtain ⟨walk, hgather, -, rfl⟩ := runtimeFiles_eq_ok_iff.mp hfiles
  exact placed_of_gather (by simp) hgather ((List.perm_insertionSort _ _).mem_iff.mp hmem)

/-- The files of the listing are those below the root. -/
theorem mem_runtimeFiles_iff (hfiles : runtimeFiles tree manifest = .ok files)
    {path : List OsString} : (∃ file ∈ files, file.path = path) ↔ FileBelow tree [] path := by
  obtain ⟨walk, hgather, -, rfl⟩ := runtimeFiles_eq_ok_iff.mp hfiles
  simp only [sortByRelative, (List.perm_insertionSort Precedes walk.files).mem_iff]
  exact mem_gather_iff hgather

theorem nodup_runtimeFiles (honce : tree.EnumeratesOnce)
    (hfiles : runtimeFiles tree manifest = .ok files) :
    (files.map RuntimeFile.path).Nodup := by
  obtain ⟨walk, hgather, -, rfl⟩ := runtimeFiles_eq_ok_iff.mp hfiles
  rw [sortByRelative, ((List.perm_insertionSort Precedes walk.files).map _).nodup_iff]
  exact nodup_gather honce (by simp) hgather

/-- The listing does not depend on the order of the enumerations. -/
theorem runtimeFiles_of_sameUpToOrder (hsame : SameUpToOrder tree tree')
    (hfiles : runtimeFiles tree manifest = .ok files) :
    runtimeFiles tree' manifest = .ok files := by
  obtain ⟨walk, hgather, hwithin, rfl⟩ := runtimeFiles_eq_ok_iff.mp hfiles
  have hagree := gather_agree hsame (maxRuntimeDepth + 1) []
  rw [hgather] at hagree
  cases hgather' : gather tree' (maxRuntimeDepth + 1) [] with
  | none => rw [hgather'] at hagree; cases hagree
  | some walk' =>
      rw [hgather'] at hagree
      cases hagree with
      | some hagree =>
          refine runtimeFiles_eq_ok_iff.mpr ⟨walk', hgather', hagree.within hwithin, ?_⟩
          refine sortByRelative_eq_of_perm hagree.2 fun left hleft right hright heq => ?_
          exact (placed_of_gather (by simp) hgather hleft).eq_of_relative
            (placed_of_gather (by simp) hgather hright) heq

end Listing

end Rpackit.Spike
