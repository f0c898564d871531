import Rpackit.Library.Poll
import Rpackit.Library.Text
import Rpackit.Windows.Values

/-! # The files of a private launch session

A session directory holds a token file and a control file, each created once and
never replaced. Cleanup removes these two and then the directory, if nothing else is
left in it. Every system call answers as the directory says, or fails for a reason of
its own; between two operations the directory may change in any way.
-/

namespace Rpackit.Windows.PrivateFs

open Text

/-! ## What is at the path of the session -/

/-- The two known files. -/
inductive Leaf where
  | token
  | control
  deriving DecidableEq, Repr

def Leaf.label : Leaf → String
  | token => "token"
  | control => "control"

/-- An entry of a directory; `D` is what a directory of its own may hold. -/
inductive Item (D : Type) where
  | file (contents : Bytes)
  | directory (held : D)
  deriving DecidableEq, Repr

/-- The entries under the two known names, and all others. -/
structure Entries (D : Type) where
  token : Option (Item D)
  control : Option (Item D)
  others : List (String × Item D)
  deriving DecidableEq, Repr

namespace Entries

variable {D : Type}

def get (entries : Entries D) : Leaf → Option (Item D)
  | .token => entries.token
  | .control => entries.control

def put (entries : Entries D) (leaf : Leaf) (item : Option (Item D)) : Entries D :=
  match leaf with
  | .token => { entries with token := item }
  | .control => { entries with control := item }

def isEmpty (entries : Entries D) : Bool :=
  entries.token.isNone && entries.control.isNone && entries.others.isEmpty

@[simp] theorem get_put (entries : Entries D) (leaf : Leaf) (item : Option (Item D)) :
    (entries.put leaf item).get leaf = item := by cases leaf <;> rfl

theorem get_put_of_ne {leaf other : Leaf} (entries : Entries D) (item : Option (Item D))
    (hne : other ≠ leaf) : (entries.put leaf item).get other = entries.get other := by
  cases leaf <;> cases other <;> first | rfl | exact absurd rfl hne

@[simp] theorem put_put (entries : Entries D) (leaf : Leaf) (first second : Option (Item D)) :
    (entries.put leaf first).put leaf second = entries.put leaf second := by cases leaf <;> rfl

@[simp] theorem put_get (entries : Entries D) (leaf : Leaf) :
    entries.put leaf (entries.get leaf) = entries := by cases leaf <;> rfl

@[simp] theorem others_put (entries : Entries D) (leaf : Leaf) (item : Option (Item D)) :
    (entries.put leaf item).others = entries.others := by cases leaf <;> rfl

end Entries

/-- What is found at the path of the session directory. -/
inductive Place (D : Type) where
  | missing
  | file (contents : Bytes)
  | directory (entries : Entries D)
  deriving DecidableEq, Repr

/-! ## System calls -/

/-- A failure that the directory does not explain. Only a missing path is reported as
not found. -/
structure Fault where
  kind : ErrorKind
  kind_ne_notFound : kind ≠ .notFound
  deriving DecidableEq, Repr

variable {D : Type}

def errorPathNotFound : Nat := 0x80070003
def errorFileExists : Nat := 0x80070050
def errorAlreadyExists : Nat := 0x800700B7

def isExistsError (code : Nat) : Bool := code == errorAlreadyExists || code == errorFileExists

/-- `CreateFileW` with `CREATE_NEW`. -/
def createFileW (fault : Option Nat) (leaf : Leaf) : Place D → Except Nat (Entries D)
  | .directory entries =>
      match fault with
      | some code => .error code
      | none =>
          if (entries.get leaf).isSome then .error errorFileExists
          else .ok (entries.put leaf (some (.file [])))
  | _ => .error (fault.getD errorPathNotFound)

/-- `write_all` and `sync_all` on the new file; a failed write may have written a part. -/
def writeAndSync (write : Option (Nat × ErrorKind)) (sync : Option ErrorKind) (leaf : Leaf)
    (contents : Bytes) (entries : Entries D) : Except ErrorKind Unit × Entries D :=
  match contents, write with
  | first :: rest, some (count, kind) =>
      (.error kind, entries.put leaf (some (.file ((first :: rest).take count))))
  | _, _ =>
      (match sync with
        | some kind => .error kind
        | none => .ok (),
        entries.put leaf (some (.file contents)))

/-- `fs::remove_file`; a directory is not removed. -/
def removeFile (fault : Option Fault) (leaf : Leaf) (place : Place D) :
    Except ErrorKind Unit × Place D :=
  match fault, place with
  | some fault, _ => (.error fault.kind, place)
  | none, .directory entries =>
      match entries.get leaf with
      | none => (.error .notFound, place)
      | some (.file _) => (.ok (), .directory (entries.put leaf none))
      | some (.directory _) => (.error .permissionDenied, place)
  | none, _ => (.error .notFound, place)

/-- `fs::remove_dir`. -/
def removeDir (fault : Option Fault) (place : Place D) : Except ErrorKind Unit × Place D :=
  match fault, place with
  | some fault, _ => (.error fault.kind, place)
  | none, .directory entries =>
      if entries.isEmpty then (.ok (), .missing) else (.error .directoryNotEmpty, place)
  | none, .file _ => (.error .notADirectory, place)
  | none, .missing => (.error .notFound, place)

/-! ## Operations of a session -/

/-- What goes wrong in one creation. -/
structure CreateFaults where
  /-- The security descriptor, its attributes or the path. -/
  prepare : Option LaunchError
  create : Option Nat
  write : Option (Nat × ErrorKind)
  sync : Option ErrorKind
  verify : Option LaunchError
  unlink : Option Fault
  deriving DecidableEq, Repr

def createPrivateFile (faults : CreateFaults) (leaf : Leaf) (contents : Bytes) (place : Place D) :
    Except LaunchError Unit × Place D :=
  match faults.prepare with
  | some error => (.error error, place)
  | none =>
      match createFileW faults.create leaf place with
      | .error code =>
          (.error (if isExistsError code then .privateFileAlreadyExists leaf.label
            else .windowsApi "CreateFileW" code), place)
      | .ok created =>
          match writeAndSync faults.write faults.sync leaf contents created with
          | (.error source, written) =>
              (.error (.fileSystem "write private-session file" source),
                (removeFile faults.unlink leaf (.directory written)).2)
          | (.ok (), written) =>
              match faults.verify with
              | some error =>
                  (.error error, (removeFile faults.unlink leaf (.directory written)).2)
              | none => (.ok (), .directory written)

def tokenMinBytes : Nat := 16
def tokenMaxBytes : Nat := 256

/-- `validate_token`: the length and the alphabet. -/
def validToken (token : Bytes) : Bool :=
  tokenMinBytes ≤ token.length && token.length ≤ tokenMaxBytes
    && token.all fun b => isAsciiAlphanumeric b || b == dot || b == 0x5F || b == 0x7E || b == 0x2D

def writeTokenFile (faults : CreateFaults) (token : Bytes) (place : Place D) :
    Except LaunchError Unit × Place D :=
  if validToken token then createPrivateFile faults .token (token ++ [lineFeed]) place
  else (.error .invalidToken, place)

def createControlFile (faults : CreateFaults) (place : Place D) :
    Except LaunchError Unit × Place D :=
  createPrivateFile faults .control [] place

def removeFileIfPresent (fault : Option Fault) (leaf : Leaf) (place : Place D) :
    Except LaunchError Unit × Place D :=
  match removeFile fault leaf place with
  | (.ok (), next) => (.ok (), next)
  | (.error .notFound, next) => (.ok (), next)
  | (.error source, next) => (.error (.fileSystem "remove private-session file" source), next)

/-- What goes wrong in one cleanup. -/
structure CleanupFaults where
  token : Option Fault
  control : Option Fault
  directory : Option Fault
  deriving DecidableEq, Repr

def CleanupFaults.none : CleanupFaults := ⟨.none, .none, .none⟩

/-- The end of a cleanup. -/
def removeDirectory (fault : Option Fault) (place : Place D) : Except LaunchError Unit × Place D :=
  match removeDir fault place with
  | (.ok (), next) => (.ok (), next)
  | (.error .notFound, next) => (.ok (), next)
  | (.error source, next) => (.error (.fileSystem "remove private-session directory" source), next)

def cleanup (faults : CleanupFaults) (place : Place D) : Except LaunchError Unit × Place D :=
  match removeFileIfPresent faults.token .token place with
  | (.error error, next) => (.error error, next)
  | (.ok (), afterToken) =>
      match removeFileIfPresent faults.control .control afterToken with
      | (.error error, next) => (.error error, next)
      | (.ok (), afterControl) => removeDirectory faults.directory afterControl

/-! ## Creation -/

variable {faults : CreateFaults} {leaf : Leaf} {contents : Bytes} {entries : Entries D}

theorem createFileW_eq_ok_iff {fault : Option Nat} {place : Place D} {created : Entries D} :
    createFileW fault leaf place = .ok created ↔ fault = none ∧
      ∃ entries, place = .directory entries ∧ entries.get leaf = none ∧
        created = entries.put leaf (some (.file [])) := by
  cases place with
  | missing => simp [createFileW]
  | file contents => simp [createFileW]
  | directory entries =>
      cases fault with
      | some code => simp [createFileW]
      | none =>
          cases hentry : entries.get leaf with
          | none => simp [createFileW, hentry, eq_comm]
          | some item => simp [createFileW, hentry]

/-- Whatever the calls answer, the new file holds a beginning of the contents, and all of
them when both calls succeed. -/
theorem writeAndSync_spec (write : Option (Nat × ErrorKind)) (sync : Option ErrorKind) (leaf : Leaf)
    (contents : Bytes) (entries : Entries D) :
    ∃ written, written <+: contents ∧
      (writeAndSync write sync leaf contents entries).2 =
        entries.put leaf (some (.file written)) ∧
      ((writeAndSync write sync leaf contents entries).1 = .ok () → written = contents) := by
  unfold writeAndSync
  split
  next first rest count kind =>
    exact ⟨_, List.take_prefix _ _, rfl, fun hok => by cases hok⟩
  next => exact ⟨contents, List.prefix_rfl, rfl, fun _ => rfl⟩

/-- Removing a file that has just been created gives the directory back. -/
theorem removeFile_created (hfree : entries.get leaf = none) (written : Bytes) :
    (removeFile none leaf (.directory (entries.put leaf (some (.file written))))).2 =
      .directory entries := by
  simp only [removeFile, Entries.get_put, Entries.put_put]
  rw [← hfree, Entries.put_get]

/-- How a creation can end: without a new file, with the whole file, or with a new file that
it tries to remove again. -/
theorem createPrivateFile_cases (faults : CreateFaults) (leaf : Leaf) (contents : Bytes)
    (place : Place D) :
    (∃ error, createPrivateFile faults leaf contents place = (.error error, place)) ∨
    ∃ entries, place = .directory entries ∧ entries.get leaf = none ∧
      (createPrivateFile faults leaf contents place =
          (.ok (), .directory (entries.put leaf (some (.file contents)))) ∨
        ∃ error written, written <+: contents ∧ createPrivateFile faults leaf contents place =
          (.error error, (removeFile faults.unlink leaf
            (.directory (entries.put leaf (some (.file written))))).2)) := by
  unfold createPrivateFile
  split
  next error _ => exact .inl ⟨error, rfl⟩
  next =>
    split
    next code _ => exact .inl ⟨_, rfl⟩
    next created hcreated =>
      obtain ⟨-, entries, rfl, hfree, rfl⟩ := createFileW_eq_ok_iff.mp hcreated
      obtain ⟨written, hprefix, hentries, hwhole⟩ :=
        writeAndSync_spec faults.write faults.sync leaf contents
          (entries.put leaf (some (.file [])))
      rw [Entries.put_put] at hentries
      refine .inr ⟨entries, rfl, hfree, ?_⟩
      split
      next source after hwrite =>
        rw [hwrite] at hentries
        obtain rfl : after = _ := hentries
        exact .inr ⟨_, written, hprefix, rfl⟩
      next after hwrite =>
        rw [hwrite] at hentries hwhole
        obtain rfl : after = _ := hentries
        obtain rfl := hwhole rfl
        split
        next error _ => exact .inr ⟨error, _, hprefix, rfl⟩
        next => exact .inl rfl

/-- What a creation does to the place of the session. -/
structure CreateFrame (faults : CreateFaults) (leaf : Leaf) (contents : Bytes) (place : Place D)
    (result : Except LaunchError Unit × Place D) : Prop where
  /-- It adds a file under a free name, or nothing. -/
  keeps : result.2 = place ∨ ∃ entries written, place = .directory entries ∧
    entries.get leaf = none ∧ written <+: contents ∧
    result.2 = .directory (entries.put leaf (some (.file written)))
  created : result.1 = .ok () → ∃ entries, place = .directory entries ∧
    entries.get leaf = none ∧ result.2 = .directory (entries.put leaf (some (.file contents)))
  rolledBack : result.1 ≠ .ok () → faults.unlink = none → result.2 = place

theorem CreateFrame.refused (error : LaunchError) (place : Place D) :
    CreateFrame faults leaf contents place (.error error, place) where
  keeps := .inl rfl
  created hok := by cases hok
  rolledBack _ _ := rfl

theorem createPrivateFile_frame (faults : CreateFaults) (leaf : Leaf) (contents : Bytes)
    (place : Place D) :
    CreateFrame faults leaf contents place (createPrivateFile faults leaf contents place) := by
  obtain ⟨error, hresult⟩ | ⟨entries, rfl, hfree, hresult | ⟨error, written, hprefix, hresult⟩⟩ :=
    createPrivateFile_cases faults leaf contents place
  · rw [hresult]
    exact .refused error place
  · rw [hresult]
    constructor
    · exact .inr ⟨entries, contents, rfl, hfree, List.prefix_rfl, rfl⟩
    · exact fun _ => ⟨entries, rfl, hfree, rfl⟩
    · exact fun hfailed => absurd rfl hfailed
  · rw [hresult]
    constructor
    · cases hunlink : faults.unlink with
      | none => exact .inl (removeFile_created hfree written)
      | some fault => exact .inr ⟨entries, written, rfl, hfree, hprefix, rfl⟩
    · intro hok
      cases hok
    · intro _ hunlink
      rw [hunlink]
      exact removeFile_created hfree written

theorem writeTokenFile_frame (faults : CreateFaults) (token : Bytes) (place : Place D) :
    CreateFrame faults .token (token ++ [lineFeed]) place (writeTokenFile faults token place) := by
  unfold writeTokenFile
  split
  · exact createPrivateFile_frame faults .token (token ++ [lineFeed]) place
  · exact .refused .invalidToken place

/-! ## Cleanup -/

namespace Entries

/-- Nothing but the two files is left. -/
structure Removable (entries : Entries D) : Prop where
  known : ∀ leaf held, entries.get leaf ≠ some (.directory held)
  others : entries.others = []

/-- What cleanup may leave: all other entries, and of the two known ones what it did not
remove as a file. -/
structure Remains (before after : Entries D) : Prop where
  others : after.others = before.others
  known : ∀ leaf, after.get leaf = before.get leaf ∨
    (∃ contents, before.get leaf = some (.file contents)) ∧ after.get leaf = none

theorem Remains.refl (entries : Entries D) : entries.Remains entries := ⟨rfl, fun _ => .inl rfl⟩

theorem Remains.trans {before middle after : Entries D} (hfirst : before.Remains middle)
    (hsecond : middle.Remains after) : before.Remains after := by
  refine ⟨hsecond.others.trans hfirst.others, fun leaf => ?_⟩
  obtain hsame | ⟨⟨contents, hfile⟩, hnone⟩ := hsecond.known leaf
  · rw [hsame]
    exact hfirst.known leaf
  · obtain hkept | ⟨-, hgone⟩ := hfirst.known leaf
    · exact .inr ⟨⟨contents, hkept ▸ hfile⟩, hnone⟩
    · rw [hgone] at hfile
      cases hfile

theorem remains_put_none (hnotDirectory : ∀ held, entries.get leaf ≠ some (.directory held)) :
    entries.Remains (entries.put leaf none) := by
  refine ⟨others_put entries leaf none, fun other => ?_⟩
  by_cases heq : other = leaf
  · subst heq
    rw [get_put]
    match hitem : entries.get other with
    | none => exact .inl rfl
    | some (.file contents) => exact .inr ⟨⟨contents, rfl⟩, rfl⟩
    | some (.directory held) => exact absurd hitem (hnotDirectory held)
  · exact .inl (get_put_of_ne entries none heq)

theorem isEmpty_put_put (entries : Entries D) :
    ((entries.put .token none).put .control none).isEmpty = true ↔ entries.others = [] := by
  simp [isEmpty, put]

end Entries

def Place.Removable : Place D → Prop
  | .missing => True
  | .file _ => False
  | .directory entries => entries.Removable

/-! ### The three system calls -/

theorem removeFileIfPresent_fault (fault : Fault) (leaf : Leaf) (place : Place D) :
    removeFileIfPresent (some fault) leaf place =
      (.error (.fileSystem "remove private-session file" fault.kind), place) := by
  obtain ⟨kind, hkind⟩ := fault
  cases kind with
  | notFound => exact absurd rfl hkind
  | permissionDenied => rfl
  | notADirectory => rfl
  | directoryNotEmpty => rfl
  | other code => rfl

theorem removeFileIfPresent_clear {leaf : Leaf}
    (hnotDirectory : ∀ held, entries.get leaf ≠ some (.directory held)) :
    removeFileIfPresent none leaf (.directory entries) =
      (.ok (), .directory (entries.put leaf none)) := by
  cases hitem : entries.get leaf with
  | none =>
      have hput : entries.put leaf none = entries := by rw [← hitem, Entries.put_get]
      simp only [removeFileIfPresent, removeFile, hitem, hput]
  | some item =>
      cases item with
      | file contents => simp only [removeFileIfPresent, removeFile, hitem]
      | directory held => exact absurd hitem (hnotDirectory held)

/-- There was an error and nothing changed, or the file is gone afterwards. -/
theorem removeFileIfPresent_cases (fault : Option Fault) (leaf : Leaf) (entries : Entries D) :
    (∃ error, removeFileIfPresent fault leaf (.directory entries) =
        (.error error, .directory entries)) ∨
    (∀ held, entries.get leaf ≠ some (.directory held)) ∧
      removeFileIfPresent fault leaf (.directory entries) =
        (.ok (), .directory (entries.put leaf none)) := by
  cases fault with
  | some fault => exact .inl ⟨_, removeFileIfPresent_fault fault leaf (.directory entries)⟩
  | none =>
      by_cases hdirectory : ∃ held, entries.get leaf = some (.directory held)
      · obtain ⟨held, hitem⟩ := hdirectory
        refine .inl ⟨.fileSystem "remove private-session file" .permissionDenied, ?_⟩
        simp only [removeFileIfPresent, removeFile, hitem]
      · have hclear := not_exists.mp hdirectory
        exact .inr ⟨hclear, removeFileIfPresent_clear hclear⟩

theorem removeFileIfPresent_missing (fault : Option Fault) (leaf : Leaf) :
    removeFileIfPresent fault leaf (.missing : Place D) = (.ok (), .missing) ∨
      fault ≠ none ∧ ∃ error,
        removeFileIfPresent fault leaf (.missing : Place D) = (.error error, .missing) := by
  cases fault with
  | some fault =>
      exact .inr ⟨Option.some_ne_none fault, _, removeFileIfPresent_fault fault leaf .missing⟩
  | none => exact .inl rfl

theorem removeFileIfPresent_file (fault : Option Fault) (leaf : Leaf) (contents : Bytes) :
    (removeFileIfPresent fault leaf (.file contents : Place D)).2 = .file contents := by
  cases fault with
  | some fault => rw [removeFileIfPresent_fault]
  | none => rfl

theorem removeDirectory_fault (fault : Fault) (place : Place D) :
    removeDirectory (some fault) place =
      (.error (.fileSystem "remove private-session directory" fault.kind), place) := by
  obtain ⟨kind, hkind⟩ := fault
  cases kind with
  | notFound => exact absurd rfl hkind
  | permissionDenied => rfl
  | notADirectory => rfl
  | directoryNotEmpty => rfl
  | other code => rfl

/-- Only an empty directory is removed. -/
theorem removeDirectory_cases (fault : Option Fault) (entries : Entries D) :
    (∃ error, removeDirectory fault (.directory entries) = (.error error, .directory entries)) ∨
      entries.isEmpty = true ∧ removeDirectory fault (.directory entries) = (.ok (), .missing) := by
  cases fault with
  | some fault => exact .inl ⟨_, removeDirectory_fault fault (.directory entries)⟩
  | none =>
      cases hempty : entries.isEmpty with
      | true => exact .inr ⟨rfl, by simp only [removeDirectory, removeDir, hempty, if_true]⟩
      | false =>
          refine .inl ⟨.fileSystem "remove private-session directory" .directoryNotEmpty, ?_⟩
          simp only [removeDirectory, removeDir, hempty, Bool.false_eq_true, if_false]

theorem removeDirectory_missing (fault : Option Fault) :
    removeDirectory fault (.missing : Place D) = (.ok (), .missing) ∨
      fault ≠ none ∧
        ∃ error, removeDirectory fault (.missing : Place D) = (.error error, .missing) := by
  cases fault with
  | some fault => exact .inr ⟨Option.some_ne_none fault, _, removeDirectory_fault fault .missing⟩
  | none => exact .inl rfl

theorem removeDirectory_file (fault : Option Fault) (contents : Bytes) :
    ∃ error, removeDirectory fault (.file contents : Place D) =
      (.error error, .file contents) := by
  cases fault with
  | some fault => exact ⟨_, removeDirectory_fault fault (.file contents)⟩
  | none => exact ⟨_, rfl⟩

/-! ### A whole cleanup -/

theorem cleanup_directory (faults : CleanupFaults) (entries : Entries D) :
    (∃ error after, cleanup faults (.directory entries) = (.error error, .directory after) ∧
      entries.Remains after) ∨
    entries.Removable ∧ cleanup faults (.directory entries) = (.ok (), .missing) := by
  unfold cleanup
  obtain ⟨error, hfailed⟩ | ⟨htoken, hremoved⟩ :=
    removeFileIfPresent_cases faults.token .token entries
  · rw [hfailed]
    exact .inl ⟨error, entries, rfl, .refl entries⟩
  rw [hremoved]
  dsimp only
  have hafterToken := Entries.remains_put_none htoken
  obtain ⟨error, hfailed⟩ | ⟨hcontrol, hremoved⟩ :=
    removeFileIfPresent_cases faults.control .control (entries.put .token none)
  · rw [hfailed]
    exact .inl ⟨error, _, rfl, hafterToken⟩
  rw [hremoved]
  dsimp only
  have hafterControl := hafterToken.trans (Entries.remains_put_none hcontrol)
  obtain ⟨error, hfailed⟩ | ⟨hempty, hremoved⟩ := removeDirectory_cases faults.directory
    ((entries.put .token none).put .control none)
  · exact .inl ⟨error, _, hfailed, hafterControl⟩
  · refine .inr ⟨⟨fun leaf held hdirectory => ?_, ?_⟩, hremoved⟩
    · cases leaf with
      | token => exact htoken held hdirectory
      | control => exact hcontrol held hdirectory
    · exact (Entries.isEmpty_put_put entries).mp hempty

theorem cleanup_missing (faults : CleanupFaults) :
    cleanup faults (.missing : Place D) = (.ok (), .missing) ∨
      faults ≠ .none ∧ ∃ error, cleanup faults (.missing : Place D) = (.error error, .missing) := by
  unfold cleanup
  obtain htoken | ⟨hfault, error, htoken⟩ :=
    removeFileIfPresent_missing (D := D) faults.token .token
  · rw [htoken]
    obtain hcontrol | ⟨hfault, error, hcontrol⟩ :=
      removeFileIfPresent_missing (D := D) faults.control .control
    · dsimp only
      rw [hcontrol]
      dsimp only
      refine (removeDirectory_missing faults.directory).imp_right fun ⟨hfault, herror⟩ => ?_
      exact ⟨fun hnone => hfault (by rw [hnone]; rfl), herror⟩
    · dsimp only
      rw [hcontrol]
      exact .inr ⟨fun hnone => hfault (by rw [hnone]; rfl), error, rfl⟩
  · rw [htoken]
    exact .inr ⟨fun hnone => hfault (by rw [hnone]; rfl), error, rfl⟩

theorem cleanup_file (faults : CleanupFaults) (contents : Bytes) :
    ∃ error, cleanup faults (.file contents : Place D) = (.error error, .file contents) := by
  unfold cleanup
  split
  next error next htoken =>
    have hplace := removeFileIfPresent_file (D := D) faults.token .token contents
    rw [htoken] at hplace
    exact ⟨error, by rw [← hplace]⟩
  next afterToken htoken =>
    have hplace := removeFileIfPresent_file (D := D) faults.token .token contents
    rw [htoken] at hplace
    obtain rfl : afterToken = _ := hplace
    split
    next error next hcontrol =>
      have hplace := removeFileIfPresent_file (D := D) faults.control .control contents
      rw [hcontrol] at hplace
      exact ⟨error, by rw [← hplace]⟩
    next afterControl hcontrol =>
      have hplace := removeFileIfPresent_file (D := D) faults.control .control contents
      rw [hcontrol] at hplace
      obtain rfl : afterControl = _ := hplace
      exact removeDirectory_file faults.directory contents

/-- What a cleanup does to the place of the session. -/
structure CleanupFrame (faults : CleanupFaults) (place : Place D)
    (result : Except LaunchError Unit × Place D) : Prop where
  /-- A directory that is still there holds what it held, but for the two files. -/
  entries : ∀ after, result.2 = .directory after →
    ∃ before, place = .directory before ∧ before.Remains after
  file : ∀ contents, result.2 = .file contents → place = .file contents
  missing : result.2 = .missing → place.Removable
  gone : result.1 = .ok () → result.2 = .missing
  /-- The one error without anything left. -/
  failed : result.1 ≠ .ok () → result.2 = .missing → place = .missing ∧ faults ≠ .none

theorem cleanup_frame (faults : CleanupFaults) (place : Place D) :
    CleanupFrame faults place (cleanup faults place) := by
  cases place with
  | missing =>
      obtain hresult | ⟨hfaults, error, hresult⟩ := cleanup_missing (D := D) faults
      · rw [hresult]
        exact ⟨fun _ heq => (by cases heq), fun _ heq => (by cases heq), fun _ => trivial,
          fun _ => rfl, fun hfailed => absurd rfl hfailed⟩
      · rw [hresult]
        exact ⟨fun _ heq => (by cases heq), fun _ heq => (by cases heq), fun _ => trivial,
          fun _ => rfl, fun _ _ => ⟨rfl, hfaults⟩⟩
  | file contents =>
      obtain ⟨error, hresult⟩ := cleanup_file (D := D) faults contents
      rw [hresult]
      exact ⟨fun _ heq => (by cases heq), fun _ heq => heq, fun heq => (by cases heq),
        fun hok => (by cases hok), fun _ heq => (by cases heq)⟩
  | directory before =>
      obtain ⟨error, after, hresult, hremains⟩ | ⟨hremovable, hresult⟩ :=
        cleanup_directory faults before
      · rw [hresult]
        refine ⟨fun left heq => ⟨before, rfl, ?_⟩, fun _ heq => (by cases heq),
          fun heq => (by cases heq), fun hok => (by cases hok), fun _ heq => (by cases heq)⟩
        obtain rfl : after = left := Place.directory.inj heq
        exact hremains
      · rw [hresult]
        exact ⟨fun _ heq => (by cases heq), fun _ heq => (by cases heq), fun _ => hremovable,
          fun _ => rfl, fun hfailed => absurd rfl hfailed⟩

/-- An operation of the session, or a change from outside. -/
inductive Step (D : Type) where
  | writeTokenFile (faults : CreateFaults) (token : Bytes)
  | createControlFile (faults : CreateFaults)
  | cleanup (faults : CleanupFaults)
  | outside (after : Place D)

namespace Step

def perform : Step D → Place D → Option (Except LaunchError Unit) × Place D
  | writeTokenFile faults token, place =>
      let (answer, next) := PrivateFs.writeTokenFile faults token place
      (some answer, next)
  | createControlFile faults, place =>
      let (answer, next) := PrivateFs.createControlFile faults place
      (some answer, next)
  | cleanup faults, place =>
      let (answer, next) := PrivateFs.cleanup faults place
      (some answer, next)
  | outside after, _ => (none, after)

/-- What an operation may do to the place it meets. -/
def Framed : Step D → Place D → Prop
  | writeTokenFile faults token, place =>
      CreateFrame faults .token (token ++ [lineFeed]) place
        (PrivateFs.writeTokenFile faults token place)
  | createControlFile faults, place =>
      CreateFrame faults .control [] place (PrivateFs.createControlFile faults place)
  | cleanup faults, place => CleanupFrame faults place (PrivateFs.cleanup faults place)
  | outside _, _ => True

theorem framed (step : Step D) (place : Place D) : step.Framed place := by
  cases step with
  | writeTokenFile faults token => exact writeTokenFile_frame faults token place
  | createControlFile faults => exact createPrivateFile_frame faults .control [] place
  | cleanup faults => exact cleanup_frame faults place
  | outside after => trivial

/-- Nothing is put at the path from outside, and no system call of a cleanup fails for a
reason of its own. -/
def Quiet : Step D → Prop
  | outside after => after = .missing
  | cleanup faults => faults = .none
  | _ => True

end Step

end Rpackit.Windows.PrivateFs
