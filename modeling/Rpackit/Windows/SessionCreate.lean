import Rpackit.Library.HandleTable
import Rpackit.Library.SystemCalls
import Rpackit.Library.Utf16
import Rpackit.Windows.PrivateFs

/-! # The creation of a private session

The directory of a session is created with a protected DACL for the current account and the
system, under a random name. Windows hands out descriptors and texts in memory that has to be
freed once, and the DACL is read back before the session is used. Other programs may change
every path in between.
-/

namespace Rpackit.Windows.SessionCreate

open Fallible HandleTable PrivateFs SystemCalls Text Utf16

/-! ## The part of Windows that is used -/

/-- What `LocalAlloc` memory holds, and the token of the process. -/
inductive Resource (D : Type) where
  | token
  | descriptor (value : D)
  | text (units : OsString)
  deriving DecidableEq, Repr

/-- A handle or an address. -/
inductive Key where
  | handle (value : Nat)
  | memory (address : Nat)
  deriving DecidableEq, Repr

/-- Security identifiers and descriptors are opaque; these are the conversions of Windows. -/
structure SecurityApi (D Sid : Type) where
  sidText : Sid → OsString
  ofSddl : OsString → Option D
  daclText : D → OsString

/-- What a creation did to the file system, what it was told of its parent, and which DACL it
read where. -/
inductive Entry (D : Type) where
  | inspected (path : WindowsPath) (isDirectory : Bool)
  | collided (path : WindowsPath)
  | created (path : WindowsPath) (dacl : D)
  | read (path : WindowsPath) (dacl : D)
  | removedFile (path : WindowsPath) (removed : Bool)
  | removedDirectory (path : WindowsPath) (removed : Bool)
  deriving DecidableEq, Repr

/-- A file or a directory with its DACL. -/
structure FileNode (D : Type) where
  isDirectory : Bool
  dacl : D
  deriving DecidableEq, Repr

/-- `faulted` says that a handle or an address was used that nothing stands behind. -/
structure Machine (D : Type) where
  resources : Key → Option (Resource D)
  files : WindowsPath → Option (FileNode D)
  log : List (Entry D)
  faulted : Bool

variable {D Sid : Type}

namespace Machine

def set (machine : Machine D) (key : Key) (resource : Option (Resource D)) : Machine D :=
  { machine with resources := Function.update machine.resources key resource }

def setFile (machine : Machine D) (path : WindowsPath) (node : Option (FileNode D)) : Machine D :=
  { machine with files := Function.update machine.files path node }

def record (machine : Machine D) (entry : Entry D) : Machine D :=
  { machine with log := machine.log ++ [entry] }

end Machine

inductive SessionCall (Sid : Type) where
  | isDirectory (path : WindowsPath)
  | openProcessToken
  | tokenSize (token : Key)
  | tokenUser (token : Key) (bytes : Nat)
  | closeHandle (token : Key)
  | convertSid (sid : Sid)
  | convertDescriptor (sddl : OsString)
  | descriptorText (descriptor : Key)
  | readText (text : Key)
  | localFree (address : Key)
  | namedSecurityInfo (path : WindowsPath)
  | fillRandom
  | createDirectory (path : WindowsPath) (descriptor : Key)
  | tryExists (path : WindowsPath)
  | removeFile (path : WindowsPath)
  | removeDir (path : WindowsPath)
  deriving DecidableEq, Repr

/-- Codes stand for failures. A conversion may succeed with a null pointer, `tokenUser` may
return any length and an invalid identifier, and a status may come with a descriptor. -/
@[reducible] def SessionCall.Reply : SessionCall Sid → Type
  | .isDirectory _ => Bool
  | .openProcessToken => Except Nat Key
  | .tokenSize _ => Option Nat × Nat
  | .tokenUser _ _ => Except Nat (Nat × Option Sid)
  | .closeHandle _ => Unit
  | .convertSid _ => Except Nat (Option Key)
  | .convertDescriptor _ => Except Nat (Option Key)
  | .descriptorText _ => Except Nat (Option Key)
  | .readText _ => OsString
  | .localFree _ => Unit
  | .namedSecurityInfo _ => Nat × Option Key
  | .fillRandom => Option Bytes
  | .createDirectory _ _ => Except Nat Unit
  | .tryExists _ => Except ErrorKind Bool
  | .removeFile _ => Except ErrorKind Unit
  | .removeDir _ => Except ErrorKind Unit

/-- The handles and addresses of a call are in use. -/
def Machine.Valid (machine : Machine D) : SessionCall Sid → Prop
  | .tokenSize token | .tokenUser token _ | .closeHandle token =>
      machine.resources token = some .token
  | .descriptorText key | .createDirectory _ key =>
      ∃ value, machine.resources key = some (.descriptor value)
  | .readText key => ∃ units, machine.resources key = some (.text units)
  | .localFree key => ∃ resource, machine.resources key = some resource ∧ resource ≠ .token
  | _ => True

/-- A call that may hand out a new resource. -/
def Machine.Opens (machine : Machine D) (resource : Resource D) (key : Option Key)
    (next : Machine D) : Prop :=
  match key with
  | none => next = machine
  | some key => machine.resources key = none ∧ next = machine.set key (some resource)

/-- What Windows may reply, and the state afterwards. -/
def Machine.Succeeds (api : SecurityApi D Sid) (machine : Machine D) :
    (call : SessionCall Sid) → call.Reply → Machine D → Prop
  | .isDirectory path, found, next =>
      (found = true → ∃ node, machine.files path = some node ∧ node.isDirectory = true) ∧
        next = machine.record (.inspected path found)
  | .openProcessToken, reply, next =>
      match reply with
      | .error _ => next = machine
      | .ok key => machine.resources key = none ∧ next = machine.set key (some .token)
  | .tokenSize _, _, next => next = machine
  | .tokenUser _ _, _, next => next = machine
  | .closeHandle key, _, next => next = machine.set key none
  | .convertSid sid, reply, next =>
      match reply with
      | .error _ => next = machine
      | .ok key => machine.Opens (.text (api.sidText sid)) key next
  | .convertDescriptor sddl, reply, next =>
      match reply with
      | .error _ => next = machine
      | .ok key => ∃ value, api.ofSddl sddl = some value ∧
          machine.Opens (.descriptor value) key next
  | .descriptorText key, reply, next =>
      match reply with
      | .error _ => next = machine
      | .ok found => ∃ value, machine.resources key = some (.descriptor value) ∧
          machine.Opens (.text (api.daclText value)) found next
  | .readText key, units, next => machine.resources key = some (.text units) ∧ next = machine
  | .localFree key, _, next => next = machine.set key none
  | .namedSecurityInfo path, (status, key), next =>
      if status = 0 then ∃ node, machine.files path = some node ∧
        match key with
        | none => next = machine
        | some key => machine.resources key = none ∧
            next = (machine.set key (some (.descriptor node.dacl))).record (.read path node.dacl)
      else ∃ value, machine.Opens (.descriptor value) key next
  | .fillRandom, reply, next => (∀ random, reply = some random → random.length = 16) ∧
      next = machine
  | .createDirectory path key, reply, next =>
      match reply with
      | .error code =>
          next = if isExistsError code then machine.record (.collided path) else machine
      | .ok () => ∃ value, machine.resources key = some (.descriptor value) ∧
          machine.files path = none ∧
          next = (machine.setFile path (some ⟨true, value⟩)).record (.created path value)
  | .tryExists path, reply, next =>
      (∀ found, reply = .ok found → found = (machine.files path).isSome) ∧ next = machine
  | .removeFile path, reply, next =>
      match reply with
      | .error _ => next = machine.record (.removedFile path false)
      | .ok () => (∃ node, machine.files path = some node ∧ node.isDirectory = false) ∧
          next = (machine.setFile path none).record (.removedFile path true)
  | .removeDir path, reply, next =>
      match reply with
      | .error _ => next = machine.record (.removedDirectory path false)
      | .ok () => (∃ node, machine.files path = some node ∧ node.isDirectory = true) ∧
          (∀ name, machine.files (path.push name) = none) ∧
          next = (machine.setFile path none).record (.removedDirectory path true)

/-- Other programs change files and directories as they like. -/
def sessionSystem (api : SecurityApi D Sid) :
    CallSystem (SessionCall Sid) SessionCall.Reply (Machine D) where
  Answers machine call reply next :=
    (machine.Valid call ∧ machine.Succeeds api call reply next) ∨
      (¬machine.Valid call ∧ next = { machine with faulted := true })
  Moves machine next := ∃ files, next = { machine with files }

/-! ## The functions of the source -/

abbrev Native (Sid α : Type) : Type :=
  FallibleCalls (SessionCall Sid) SessionCall.Reply LaunchError α

/-- A call whose reply the caller inspects. -/
def ask (call : SessionCall Sid) : Native Sid call.Reply :=
  SystemCalls.call call fun reply => .done (.ok reply)

def fail {α : Type} (error : LaunchError) : Native Sid α := .ofExcept (.error error)

def refuseIf (condition : Bool) (error : LaunchError) : Native Sid Unit :=
  .ofExcept (rejectIf condition error)

/-- A call that is made for its effect, whatever it answers. -/
def attempt (call : SessionCall Sid) : SystemCalls (SessionCall Sid) SessionCall.Reply Unit :=
  .call call fun _ => .done ()

/-- The value of a conversion that may fail, or succeed with nothing. -/
def nonNull (operation : String) : Except Nat (Option Key) → Native Sid Key
  | .error code => fail (.windowsApi operation code)
  | .ok none => fail .privateDaclMismatch
  | .ok (some key) => pure key

/-- A local that is freed when it goes out of scope. -/
def withLocal {α : Type} (key : Key) (body : Native Sid α) : Native Sid α :=
  body.releasing (attempt (.localFree key))

/-- `LocalWideString::to_string`. -/
def wideToString (text : Key) : Native Sid (List Char) := do
  let units ← ask (.readText text)
  .ofExcept (okOr (toStr units) .malformedSecurityString)

/-- `encode_wide` of a text. -/
def wide (text : List Char) : OsString := text.flatMap encodeUtf16

/-- `LocalSecurityDescriptor::from_sddl`. -/
def fromSddl (sddl : List Char) : Native Sid Key := do
  refuseIf ((wide sddl).contains 0) (.interiorNul "security descriptor")
  let reply ← ask (.convertDescriptor (wide sddl))
  nonNull "ConvertStringSecurityDescriptorToSecurityDescriptorW" reply

/-- `LocalSecurityDescriptor::dacl_sddl`. -/
def daclSddl (descriptor : Key) : Native Sid (List Char) := do
  let reply ← ask (.descriptorText descriptor)
  let text ← nonNull "ConvertSecurityDescriptorToStringSecurityDescriptorW" reply
  withLocal text (wideToString text)

/-- `HRESULT::from_win32`. -/
def hresultFromWin32 (code : Nat) : Nat :=
  if code = 0 ∨ 0x80000000 ≤ code then code else 0x80070000 + code % 0x10000

/-- The DACL at a path, as a descriptor of its own; one that comes with a failure is freed. -/
def readDacl (path : WindowsPath) : Native Sid Key := do
  match ← ask (.namedSecurityInfo path) with
  | (0, found) => nonNull "GetNamedSecurityInfoW" (.ok found)
  | (status, none) => fail (.windowsApi "GetNamedSecurityInfoW" (hresultFromWin32 status))
  | (status, some key) =>
      withLocal key (fail (.windowsApi "GetNamedSecurityInfoW" (hresultFromWin32 status)))

def verifyExactDacl (path : WindowsPath) (expectedSddl : List Char) : Native Sid Unit := do
  let expected ← fromSddl expectedSddl
  withLocal expected do
    let expectedText ← daclSddl expected
    refuseIf (path.asOsString.contains 0) (.interiorNul "private-session path")
    let actual ← readDacl path
    withLocal actual do
      let actualText ← daclSddl actual
      refuseIf (actualText != expectedText) .privateDaclMismatch

def sessionPrefix : String := "rpackit-session-"
def sessionCreateAttempts : Nat := 8

/-- The directory that random bytes name. -/
def sessionDirectory (parent : WindowsPath) (random : Bytes) : WindowsPath :=
  parent.push (osString sessionPrefix ++ (hexEncode random).map fun b => b.toUInt16)

/-- The loop of `create_random_directory`, with the attempts that are left. -/
def createAttempts (parent : WindowsPath) (sddl : List Char) (descriptor : Key) :
    Nat → Native Sid WindowsPath
  | 0 => fail .sessionNameCollisions
  | attempts + 1 => do
      match ← ask .fillRandom with
      | none => fail .randomGenerationFailed
      | some random =>
          let directory := sessionDirectory parent random
          refuseIf (directory.asOsString.contains 0) (.interiorNul "private-session path")
          match ← ask (.createDirectory directory descriptor) with
          | .ok () => do
              (verifyExactDacl directory sddl).onError (attempt (.removeDir directory))
              return directory
          | .error code =>
              if isExistsError code then createAttempts parent sddl descriptor attempts
              else fail (.windowsApi "CreateDirectoryW" code)

def createRandomDirectory (parent : WindowsPath) (sddl : List Char) : Native Sid WindowsPath := do
  let descriptor ← fromSddl sddl
  withLocal descriptor (createAttempts parent sddl descriptor sessionCreateAttempts)

/-- `size_of::<TOKEN_USER>()`. -/
def sizeOfTokenUser : Nat := 16

def insufficientBuffer : Nat := 0x8007007A

/-- The sizing call is expected to fail. -/
def acceptSizing : Option Nat → Native Sid Unit
  | some code =>
      refuseIf (code != insufficientBuffer) (.windowsApi "GetTokenInformation(size)" code)
  | none => pure ()

/-- What `current_account_sid` does with the token. -/
def sidOfToken (token : Key) : Native Sid (List Char) := do
  let (sizing, requiredBytes) ← ask (.tokenSize token)
  acceptSizing sizing
  refuseIf (requiredBytes < sizeOfTokenUser) .malformedTokenInformation
  match ← ask (.tokenUser token requiredBytes) with
  | .error code => fail (.windowsApi "GetTokenInformation" code)
  | .ok (returnedBytes, sid) => do
      refuseIf (returnedBytes < sizeOfTokenUser || returnedBytes > requiredBytes)
        .malformedTokenInformation
      match sid with
      | none => fail .malformedTokenInformation
      | some sid => do
          let reply ← ask (.convertSid sid)
          let text ← nonNull "ConvertSidToStringSidW" reply
          withLocal text (wideToString text)

def currentAccountSid : Native Sid (List Char) := do
  match ← ask .openProcessToken with
  | .error code => fail (.windowsApi "OpenProcessToken" code)
  | .ok token => (sidOfToken token).releasing (attempt (.closeHandle token))

def isNormalized (path : WindowsPath) : Bool :=
  path.components.all fun component => component != .curDir && component != .parentDir

def validateParent (parent : WindowsPath) : Native Sid Unit := do
  refuseIf (!parent.isAbsolute) .invalidSessionParent
  let found ← ask (.isDirectory parent)
  refuseIf (!found || !isNormalized parent) .invalidSessionParent

structure PrivateSession where
  directory : WindowsPath
  tokenPath : WindowsPath
  controlPath : WindowsPath
  directorySddl : List Char
  fileSddl : List Char
  deriving DecidableEq, Repr

def pathExists (path : WindowsPath) : Native Sid Bool := do
  match ← ask (.tryExists path) with
  | .ok found => return found
  | .error source => fail (.fileSystem "inspect private-session path" source)

/-- One of the known files, if it is there. -/
def verifyFile (path : WindowsPath) (sddl : List Char) : Native Sid Unit := do
  if ← pathExists path then verifyExactDacl path sddl

def verifySecurity (session : PrivateSession) : Native Sid Unit := do
  verifyExactDacl session.directory session.directorySddl
  verifyFile session.tokenPath session.fileSddl
  verifyFile session.controlPath session.fileSddl

def rollbackKnownPaths (session : PrivateSession) :
    SystemCalls (SessionCall Sid) SessionCall.Reply Unit :=
  (attempt (.removeFile session.tokenPath)).bind fun () =>
    (attempt (.removeFile session.controlPath)).bind fun () =>
      attempt (.removeDir session.directory)

def directorySddlOf (accountSid : List Char) : List Char :=
  "D:P(A;OICI;FA;;;SY)(A;OICI;FA;;;".toList ++ accountSid ++ ")".toList

def fileSddlOf (accountSid : List Char) : List Char :=
  "D:P(A;;FA;;;SY)(A;;FA;;;".toList ++ accountSid ++ ")".toList

/-- `private_child_path` for one of the two leaves. -/
def childPath (directory : WindowsPath) (leaf : Leaf) : WindowsPath :=
  directory.push (osString leaf.label)

def sessionFor (directory : WindowsPath) (accountSid : List Char) : PrivateSession where
  directory := directory
  tokenPath := childPath directory .token
  controlPath := childPath directory .control
  directorySddl := directorySddlOf accountSid
  fileSddl := fileSddlOf accountSid

def create (parent : WindowsPath) : Native Sid PrivateSession := do
  validateParent parent
  let accountSid ← currentAccountSid
  let directory ← createRandomDirectory parent (directorySddlOf accountSid)
  let session := sessionFor directory accountSid
  (verifySecurity session).onError (rollbackKnownPaths session)
  return session

/-! ## What holds between two calls -/

/-- The parent passed its checks, the answer of Windows included. -/
structure IsParent (parent : WindowsPath) (past : List (Entry D)) : Prop where
  isAbsolute : parent.isAbsolute = true
  isDirectory : .inspected parent true ∈ past
  isNormalized : isNormalized parent = true

/-- A directory that a creation may make. -/
def IsSession (parent path : WindowsPath) (past : List (Entry D)) : Prop :=
  IsParent parent past ∧
    ∃ random : Bytes, random.length = 16 ∧ path = sessionDirectory parent random

def Entry.isCreation : Entry D → Bool
  | .created _ _ => true
  | _ => false

/-- An entry that may follow the past of a log: one directory is created, under its random name
below the checked parent, and nothing is removed but this directory and its two files. -/
def Allowed (parent : WindowsPath) (past : List (Entry D)) : Entry D → Prop
  | .inspected path _ => path = parent
  | .collided path => IsSession parent path past ∧ past.countP Entry.isCreation = 0
  | .created path _ => IsSession parent path past ∧ past.countP Entry.isCreation = 0
  | .read _ _ => True
  | .removedFile path _ =>
      ∃ directory dacl leaf, .created directory dacl ∈ past ∧ path = childPath directory leaf
  | .removedDirectory path _ => ∃ dacl, .created path dacl ∈ past

def Orderly (parent : WindowsPath) (log : List (Entry D)) : Prop :=
  ∀ past entry, past ++ [entry] <+: log → Allowed parent past entry

theorem Orderly.nil (parent : WindowsPath) : Orderly parent ([] : List (Entry D)) := by
  intro past entry hprefix
  simp at hprefix

theorem Orderly.snoc {parent : WindowsPath} {log : List (Entry D)}
    (hlog : Orderly parent log) (entry : Entry D) (hallowed : Allowed parent log entry) :
    Orderly parent (log ++ [entry]) := by
  intro past next hpast
  obtain heq | hearlier := List.prefix_concat_iff.mp hpast
  · obtain ⟨rfl, rfl⟩ := List.append_singleton_inj.mp heq
    exact hallowed
  · exact hlog past next hearlier

/-- In every state no dead handle or address was used, and the file system was changed in order. -/
structure Safe (parent : WindowsPath) (machine : Machine D) : Prop where
  noFault : machine.faulted = false
  orderly : Orderly parent machine.log

abbrev Owned (D : Type) := List (Key × Resource D)

structure At (base : Machine D) (owned : Owned D) (log : List (Entry D)) (machine : Machine D) :
    Prop where
  owns : Owns base.resources owned machine.resources
  log : machine.log = log
  noFault : machine.faulted = false

/-- With some log of this kind. -/
def Logged (parent : WindowsPath) (base : Machine D) (owned : Owned D)
    (Kind : List (Entry D) → Prop) (machine : Machine D) : Prop :=
  ∃ log, (Orderly parent log ∧ Kind log) ∧ At base owned log machine

section Rules

variable {api : SecurityApi D Sid} {parent path : WindowsPath} {base machine : Machine D}
  {owned rest : Owned D} {log : List (Entry D)} {key : Key} {resource : Resource D}
  {Kind : List (Entry D) → Prop}

theorem holds_at (hlog : Orderly parent log) :
    Stable (sessionSystem api) (Safe parent) (At base owned log) where
  moves := by
    rintro machine _ hat ⟨files, rfl⟩
    exact ⟨hat.owns, hat.log, hat.noFault⟩
  safe machine hat := ⟨hat.noFault, hat.log ▸ hlog⟩

theorem holds_logged : Stable (sessionSystem api) (Safe parent) (Logged parent base owned Kind) :=
  .exists fun _ => .and fun hlog => holds_at hlog.1

/-- The specification of a part that owns afterwards what it owned before. -/
abbrev Spec {α : Type} (api : SecurityApi D Sid) (parent : WindowsPath) (base : Machine D)
    (owned : Owned D) (x : Native Sid α) (machine : Machine D)
    (Ok : α → List (Entry D) → Prop) (Fail : List (Entry D) → Prop) : Prop :=
  x.Ensures (sessionSystem api) (Safe parent) machine
    (fun a => Logged parent base owned (Ok a)) (Logged parent base owned Fail)

theorem Spec.bind {α β : Type} {x : Native Sid α} {f : α → Native Sid β}
    {Ok : α → List (Entry D) → Prop} {Ok' : β → List (Entry D) → Prop}
    {Fail : List (Entry D) → Prop} (hx : Spec api parent base owned x machine Ok Fail)
    (hf : ∀ a log middle, Orderly parent log → Ok a log → At base owned log middle →
      Spec api parent base owned (f a) middle Ok' Fail) :
    Spec api parent base owned (x >>= f) machine Ok' Fail := by
  refine FallibleCalls.Ensures.bind holds_logged hx ?_
  rintro a middle ⟨log, ⟨hlog, hok⟩, hat⟩
  exact hf a log middle hlog hok hat

theorem Spec.fail {α : Type} {error : LaunchError} {Ok : α → List (Entry D) → Prop}
    {Fail : List (Entry D) → Prop} (hlog : Orderly parent log) (hfail : Fail log)
    (hat : At base owned log machine) :
    Spec api parent base owned (fail error) machine Ok Fail :=
  FallibleCalls.Ensures.error holds_logged ⟨log, ⟨hlog, hfail⟩, hat⟩

theorem Spec.pure {α : Type} {a : α} {Ok : α → List (Entry D) → Prop}
    {Fail : List (Entry D) → Prop} (hlog : Orderly parent log) (hok : Ok a log)
    (hat : At base owned log machine) :
    Spec api parent base owned (pure a) machine Ok Fail :=
  FallibleCalls.Ensures.pure (holds_at hlog) hat fun _ hstop => ⟨log, ⟨hlog, hok⟩, hstop⟩

theorem Spec.refuseIf {condition : Bool} {error : LaunchError} {Fail : List (Entry D) → Prop}
    (hlog : Orderly parent log) (hfail : Fail log) (hat : At base owned log machine) :
    Spec api parent base owned (refuseIf condition error) machine
      (fun _ later => condition = false ∧ later = log) Fail := by
  refine FallibleCalls.Ensures.ofExcept (holds_at hlog) hat ?_ fun _ hstop =>
    ⟨log, ⟨hlog, hfail⟩, hstop⟩
  intro _ hok stop hstop
  exact ⟨log, ⟨hlog, rejectIf_eq_ok_iff.mp hok, rfl⟩, hstop⟩

/-! ## Calls -/

theorem ensures_call {α : Type} {call : SessionCall Sid} {next : call.Reply → Native Sid α}
    {Ok : α → Machine D → Prop} {Fail : Machine D → Prop} (hlog : Orderly parent log)
    (hat : At base owned log machine)
    (hvalid : ∀ before, At base owned log before → before.Valid call)
    (hnext : ∀ before reply later, At base owned log before →
      before.Succeeds api call reply later →
      (next reply).Ensures (sessionSystem api) (Safe parent) later Ok Fail) :
    FallibleCalls.Ensures (sessionSystem api) (Safe parent) (ask call >>= next) machine
      Ok Fail := by
  refine SystemCalls.Ensures.call (holds_at hlog) hat fun before reply later hbefore hanswers => ?_
  obtain ⟨-, hsucceeds⟩ | ⟨hinvalid, -⟩ := hanswers
  · exact hnext before reply later hbefore hsucceeds
  · exact absurd (hvalid before hbefore) hinvalid

theorem ensures_attempt {call : SessionCall Sid} {Post : Machine D → Prop}
    (hpost : Stable (sessionSystem api) (Safe parent) Post) (hlog : Orderly parent log)
    (hat : At base owned log machine)
    (hvalid : ∀ before, At base owned log before → before.Valid call)
    (hnext : ∀ before reply later, At base owned log before →
      before.Succeeds api call reply later → Post later) :
    (attempt call).Ensures (sessionSystem api) (Safe parent) machine fun _ => Post := by
  refine SystemCalls.Ensures.call (holds_at hlog) hat fun before reply later hbefore hanswers => ?_
  obtain ⟨-, hsucceeds⟩ | ⟨hinvalid, -⟩ := hanswers
  · exact .done hpost (hnext before reply later hbefore hsucceeds) fun _ => id
  · exact absurd (hvalid before hbefore) hinvalid

/-! ## Resources -/

theorem At.open (hat : At base owned log machine) (hfree : machine.resources key = none) :
    At base ((key, resource) :: owned) log (machine.set key (some resource)) :=
  ⟨hat.owns.open hfree resource, hat.log, hat.noFault⟩

theorem At.held (hat : At base owned log machine) (hmem : (key, resource) ∈ owned) :
    machine.resources key = some resource := hat.owns.held _ hmem

theorem At.close (hat : At base ((key, resource) :: owned) log machine) :
    At base owned log (machine.set key none) :=
  ⟨hat.owns.close, hat.log, hat.noFault⟩

theorem At.record (hat : At base owned log machine) (entry : Entry D) :
    At base owned (log ++ [entry]) (machine.record entry) :=
  ⟨hat.owns, congrArg (· ++ [entry]) hat.log, hat.noFault⟩

theorem At.setFile (hat : At base owned log machine) (path : WindowsPath)
    (node : Option (FileNode D)) :
    At base owned log (machine.setFile path node) :=
  ⟨hat.owns, hat.log, hat.noFault⟩

/-- One more resource is owned, and the log is of some kind. -/
def Acquired (parent : WindowsPath) (base : Machine D) (owned : Owned D)
    (Kind : Resource D → List (Entry D) → Prop) (key : Key) (machine : Machine D) : Prop :=
  ∃ resource, Logged parent base ((key, resource) :: owned) (Kind resource) machine

theorem ensures_localFree (hresource : resource ≠ .token)
    (hlogged : Logged parent base ((key, resource) :: owned) Kind machine) :
    (attempt (.localFree key)).Ensures (sessionSystem api) (Safe parent) machine
      fun _ => Logged parent base owned Kind := by
  obtain ⟨log, hlog, hat⟩ := hlogged
  refine ensures_attempt holds_logged hlog.1 hat ?_ ?_
  · exact fun before hbefore => ⟨resource, hbefore.held List.mem_cons_self, hresource⟩
  · rintro before reply _ hbefore rfl
    exact ⟨log, hlog, hbefore.close⟩

theorem ensures_closeHandle (hlogged : Logged parent base ((key, .token) :: owned) Kind machine) :
    (attempt (.closeHandle key)).Ensures (sessionSystem api) (Safe parent) machine
      fun _ => Logged parent base owned Kind := by
  obtain ⟨log, hlog, hat⟩ := hlogged
  refine ensures_attempt holds_logged hlog.1 hat ?_ ?_
  · exact fun before hbefore => hbefore.held List.mem_cons_self
  · rintro before reply _ hbefore rfl
    exact ⟨log, hlog, hbefore.close⟩

/-- A resource is freed again, after a value and after an error. -/
theorem spec_withLocal {α : Type} {body : Native Sid α} {Ok : α → List (Entry D) → Prop}
    {Fail : List (Entry D) → Prop} (hresource : resource ≠ .token)
    (hbody : Spec api parent base ((key, resource) :: owned) body machine Ok Fail) :
    Spec api parent base owned (withLocal key body) machine Ok Fail :=
  hbody.releasing (fun _ => holds_logged) holds_logged
    (fun _ _ => ensures_localFree hresource) fun _ => ensures_localFree hresource

theorem spec_withAcquired {α : Type} {x : Native Sid Key} {body : Key → Native Sid α}
    {Acquires : Resource D → List (Entry D) → Prop} {Ok : α → List (Entry D) → Prop}
    {Fail : List (Entry D) → Prop}
    (hx : x.Ensures (sessionSystem api) (Safe parent) machine
      (Acquired parent base owned Acquires) (Logged parent base owned Fail))
    (hresource : ∀ resource log, Acquires resource log → resource ≠ .token)
    (hbody : ∀ key resource log middle, Orderly parent log → Acquires resource log →
      At base ((key, resource) :: owned) log middle →
      Spec api parent base ((key, resource) :: owned) (body key) middle Ok Fail) :
    Spec api parent base owned (x >>= fun key => withLocal key (body key)) machine Ok Fail := by
  refine FallibleCalls.Ensures.bind holds_logged hx ?_
  rintro key middle ⟨resource, log, ⟨hlog, hkind⟩, hat⟩
  exact spec_withLocal (hresource _ _ hkind) (hbody key resource log middle hlog hkind hat)

/-- A conversion hands out a resource, or nothing. -/
theorem ensures_nonNull {operation : String} {reply : Except Nat (Option Key)}
    {before : Machine D} (hlog : Orderly parent log) (hat : At base owned log before)
    (hreply : match reply with
      | .error _ => machine = before
      | .ok found => before.Opens resource found machine) :
    (nonNull operation reply : Native Sid Key).Ensures (sessionSystem api) (Safe parent) machine
      (Acquired parent base owned fun other later => other = resource ∧ later = log)
      (Logged parent base owned (· = log)) := by
  match reply, hreply with
  | .error code, hreply =>
      obtain rfl := hreply
      exact FallibleCalls.Ensures.error holds_logged ⟨log, ⟨hlog, rfl⟩, hat⟩
  | .ok none, hreply =>
      obtain rfl := hreply
      exact FallibleCalls.Ensures.error holds_logged ⟨log, ⟨hlog, rfl⟩, hat⟩
  | .ok (some key), ⟨hfree, hnext⟩ =>
      subst hnext
      exact FallibleCalls.Ensures.pure (holds_at hlog) (hat.open hfree) fun _ hstop =>
        ⟨resource, log, ⟨hlog, rfl, rfl⟩, hstop⟩

/-! ## Texts and descriptors -/

theorem spec_wideToString {units : OsString} (hlog : Orderly parent log)
    (hmem : (key, .text units) ∈ owned) (hat : At base owned log machine) :
    Spec api parent base owned (wideToString key) machine
      (fun text later => toStr units = some text ∧ later = log) (· = log) := by
  refine ensures_call hlog hat (fun before hbefore => ⟨units, hbefore.held hmem⟩) ?_
  rintro before reply later hbefore ⟨hreply, rfl⟩
  rw [hbefore.held hmem] at hreply
  cases hreply
  refine FallibleCalls.Ensures.ofExcept (holds_at hlog) hbefore ?_ fun _ hstop =>
    ⟨log, ⟨hlog, rfl⟩, hstop⟩
  intro text htext stop hstop
  exact ⟨log, ⟨hlog, okOr_eq_ok_iff.mp htext, rfl⟩, hstop⟩

theorem ensures_fromSddl {sddl : List Char} (hlog : Orderly parent log)
    (hat : At base owned log machine) :
    (fromSddl sddl).Ensures (sessionSystem api) (Safe parent) machine
      (Acquired parent base owned fun resource later =>
        ∃ value, (resource = .descriptor value ∧ api.ofSddl (wide sddl) = some value) ∧
          later = log)
      (Logged parent base owned (· = log)) := by
  refine FallibleCalls.Ensures.bind holds_logged (Spec.refuseIf hlog rfl hat) ?_
  rintro _ middle ⟨_, ⟨-, -, rfl⟩, hmiddle⟩
  refine ensures_call hlog hmiddle (fun _ _ => trivial) fun before reply later hbefore hreply => ?_
  match reply, hreply with
  | .error code, hreply =>
      obtain rfl := hreply
      exact FallibleCalls.Ensures.error holds_logged ⟨_, ⟨hlog, rfl⟩, hbefore⟩
  | .ok found, ⟨value, hvalue, hopens⟩ =>
      refine (ensures_nonNull hlog hbefore hopens).weaken ?_ fun _ => id
      rintro key stop ⟨_, _, ⟨_, rfl, rfl⟩, hstop⟩
      exact ⟨_, _, ⟨hlog, value, ⟨rfl, hvalue⟩, rfl⟩, hstop⟩

theorem spec_daclSddl {value : D} (hlog : Orderly parent log)
    (hmem : (key, .descriptor value) ∈ owned) (hat : At base owned log machine) :
    Spec api parent base owned (daclSddl key) machine
      (fun text later => toStr (api.daclText value) = some text ∧ later = log) (· = log) := by
  refine ensures_call hlog hat (fun before hbefore => ⟨value, hbefore.held hmem⟩) ?_
  intro before reply later hbefore hreply
  have hopens : (nonNull "ConvertSecurityDescriptorToStringSecurityDescriptorW" reply :
      Native Sid Key).Ensures (sessionSystem api) (Safe parent) later
        (Acquired parent base owned fun other later =>
          other = .text (api.daclText value) ∧ later = log)
        (Logged parent base owned (· = log)) := by
    apply ensures_nonNull hlog hbefore
    match reply, hreply with
    | .error code, hreply => exact hreply
    | .ok found, ⟨other, hother, hopens⟩ =>
        rw [hbefore.held hmem] at hother
        cases hother
        exact hopens
  refine spec_withAcquired hopens ?_ ?_
  · rintro resource _ ⟨rfl, -⟩ ⟨⟩
  · rintro text resource _ middle _ ⟨rfl, rfl⟩ hmiddle
    exact spec_wideToString hlog List.mem_cons_self hmiddle

/-! ## Reading a DACL back -/

theorem Orderly.read {dacl : D} (hlog : Orderly parent log) :
    Orderly parent (log ++ [.read path dacl]) := hlog.snoc _ trivial

theorem ensures_readDacl (hlog : Orderly parent log) (hat : At base owned log machine) :
    (readDacl path).Ensures (sessionSystem api) (Safe parent) machine
      (Acquired parent base owned fun resource later =>
        ∃ dacl, resource = .descriptor dacl ∧ later = log ++ [.read path dacl])
      (Logged parent base owned (· = log)) := by
  refine ensures_call hlog hat (fun _ _ => trivial) fun before reply later hbefore hreply => ?_
  match reply, hreply with
  | (0, none), ⟨node, hnode, hnext⟩ =>
      obtain rfl := hnext
      exact FallibleCalls.Ensures.error holds_logged ⟨log, ⟨hlog, rfl⟩, hbefore⟩
  | (0, some key), ⟨node, hnode, hfree, hnext⟩ =>
      subst hnext
      refine FallibleCalls.Ensures.pure (holds_at (hlog.read)) ((hbefore.open hfree).record _) ?_
      exact fun stop hstop => ⟨_, _, ⟨hlog.read, node.dacl, rfl, rfl⟩, hstop⟩
  | (status + 1, none), ⟨value, hnext⟩ =>
      obtain rfl := hnext
      exact FallibleCalls.Ensures.error holds_logged ⟨log, ⟨hlog, rfl⟩, hbefore⟩
  | (status + 1, some key), ⟨value, hfree, hnext⟩ =>
      subst hnext
      -- the descriptor that came with the failure is freed
      have hfailed : Spec api parent base ((key, .descriptor value) :: owned)
          (fail (.windowsApi "GetNamedSecurityInfoW" (hresultFromWin32 (status + 1))) :
            Native Sid Key) (before.set key (some (.descriptor value))) (fun _ _ => False)
          (· = log) := Spec.fail hlog rfl (hbefore.open hfree)
      refine (spec_withLocal (by simp) hfailed).weaken ?_ fun _ => id
      rintro _ _ ⟨_, ⟨-, hnever⟩, -⟩
      exact hnever.elim

/-- The DACL reads as the one that the text asks for. -/
def Matches (api : SecurityApi D Sid) (sddl : List Char) (dacl : D) : Prop :=
  ∃ expected text, api.ofSddl (wide sddl) = some expected ∧
    toStr (api.daclText expected) = some text ∧ toStr (api.daclText dacl) = some text

def Entry.isRead : Entry D → Bool
  | .read _ _ => true
  | _ => false

/-- Only DACLs were read since. -/
def ReadsAfter (log later : List (Entry D)) : Prop :=
  ∃ reads, (∀ entry ∈ reads, entry.isRead = true) ∧ later = log ++ reads

theorem ReadsAfter.refl (log : List (Entry D)) : ReadsAfter log log :=
  ⟨[], List.forall_mem_nil _, (List.append_nil _).symm⟩

theorem ReadsAfter.read (log : List (Entry D)) (path : WindowsPath) (dacl : D) :
    ReadsAfter log (log ++ [.read path dacl]) :=
  ⟨_, List.forall_mem_singleton.mpr rfl, rfl⟩

theorem ReadsAfter.trans {first second third : List (Entry D)} (hfirst : ReadsAfter first second)
    (hsecond : ReadsAfter second third) : ReadsAfter first third := by
  obtain ⟨reads, hreads, rfl⟩ := hfirst
  obtain ⟨others, hothers, rfl⟩ := hsecond
  refine ⟨reads ++ others, ?_, List.append_assoc _ _ _⟩
  exact fun entry hentry => (List.mem_append.mp hentry).elim (hreads entry) (hothers entry)

theorem spec_verifyExactDacl {sddl : List Char} (hlog : Orderly parent log)
    (hat : At base owned log machine) :
    Spec api parent base owned (verifyExactDacl path sddl) machine
      (fun _ later => ∃ dacl, Matches api sddl dacl ∧ later = log ++ [.read path dacl])
      (ReadsAfter log) := by
  have hweaken : ∀ {held : Owned D} {stop : Machine D},
      Logged parent base held (· = log) stop → Logged parent base held (ReadsAfter log) stop := by
    rintro held stop ⟨_, ⟨hordered, rfl⟩, hstop⟩
    exact ⟨_, ⟨hordered, .refl _⟩, hstop⟩
  refine spec_withAcquired ((ensures_fromSddl hlog hat).weaken (fun _ _ => id) fun _ => hweaken)
    ?_ ?_
  · rintro _ _ ⟨value, ⟨rfl, -⟩, -⟩ ⟨⟩
  rintro expected _ now first - ⟨value, ⟨rfl, hvalue⟩, hnow⟩ hfirst
  subst now
  refine Spec.bind ((spec_daclSddl hlog List.mem_cons_self hfirst).weaken (fun _ _ => id)
    fun _ => hweaken) ?_
  rintro text now second - ⟨htext, hnow⟩ hsecond
  subst now
  refine Spec.bind (Spec.refuseIf hlog (.refl _) hsecond) ?_
  rintro _ now third - ⟨-, hnow⟩ hthird
  subst now
  refine spec_withAcquired ((ensures_readDacl hlog hthird).weaken (fun _ _ => id)
    fun _ => hweaken) ?_ ?_
  · rintro _ _ ⟨dacl, rfl, -⟩ ⟨⟩
  rintro actual _ _ fourth - ⟨dacl, rfl, rfl⟩ hfourth
  have hread : ReadsAfter log (log ++ [.read path dacl]) := .read log path dacl
  refine Spec.bind ((spec_daclSddl hlog.read List.mem_cons_self hfourth).weaken
    (fun _ _ => id) ?_) ?_
  · rintro stop ⟨_, ⟨hordered, rfl⟩, hstop⟩
    exact ⟨_, ⟨hordered, hread⟩, hstop⟩
  rintro actualText now fifth - ⟨hactual, hnow⟩ hfifth
  subst now
  refine (Spec.refuseIf hlog.read hread hfifth).weaken ?_ fun _ => id
  rintro _ stop ⟨_, ⟨hordered, hsame, rfl⟩, hstop⟩
  rw [bne_eq_false_iff_eq] at hsame
  subst hsame
  exact ⟨_, ⟨hordered, dacl, ⟨value, _, hvalue, htext, hactual⟩, rfl⟩, hstop⟩

/-! ## Rolling back -/

/-- Nothing was created, or the last thing done was to remove the directory. -/
def RolledBack (log : List (Entry D)) : Prop :=
  log.countP Entry.isCreation = 0 ∨ ∃ directory dacl removed,
    .created directory dacl ∈ log ∧ log.getLast? = some (.removedDirectory directory removed)

section RollBack

variable {directory : WindowsPath} {dacl : D}

theorem ensures_removeDir
    (hlogged : Logged parent base owned (.created directory dacl ∈ ·) machine) :
    (attempt (.removeDir directory)).Ensures (sessionSystem api) (Safe parent) machine
      fun _ => Logged parent base owned RolledBack := by
  obtain ⟨log, ⟨hlog, hcreated⟩, hat⟩ := hlogged
  have hlast : ∀ (removed : Bool) {stop : Machine D},
      At base owned (log ++ [.removedDirectory directory removed]) stop →
      Logged parent base owned RolledBack stop := by
    intro removed stop hstop
    refine ⟨_, ⟨hlog.snoc (.removedDirectory _ removed) ⟨dacl, hcreated⟩, ?_⟩, hstop⟩
    refine .inr ⟨directory, dacl, removed, ?_, ?_⟩
    · exact List.mem_append_left _ hcreated
    · exact List.getLast?_concat
  refine ensures_attempt holds_logged hlog hat (fun _ _ => trivial) ?_
  intro before reply later hbefore hreply
  match reply, hreply with
  | .error _, hreply =>
      subst hreply
      exact hlast false (hbefore.record _)
  | .ok (), ⟨_, _, hreply⟩ =>
      subst hreply
      exact hlast true ((hbefore.setFile _ none).record _)

theorem ensures_removeFile (leaf : Leaf)
    (hlogged : Logged parent base owned (.created directory dacl ∈ ·) machine) :
    (attempt (.removeFile (childPath directory leaf))).Ensures (sessionSystem api) (Safe parent)
      machine fun _ => Logged parent base owned (.created directory dacl ∈ ·) := by
  obtain ⟨log, ⟨hlog, hcreated⟩, hat⟩ := hlogged
  have hnext : ∀ (removed : Bool) {stop : Machine D},
      At base owned (log ++ [.removedFile (childPath directory leaf) removed]) stop →
      Logged parent base owned (.created directory dacl ∈ ·) stop := fun removed stop hstop =>
    ⟨_, ⟨hlog.snoc (.removedFile _ removed) ⟨directory, dacl, leaf, hcreated, rfl⟩,
      List.mem_append_left _ hcreated⟩, hstop⟩
  refine ensures_attempt holds_logged hlog hat (fun _ _ => trivial) ?_
  intro before reply later hbefore hreply
  match reply, hreply with
  | .error _, hreply =>
      subst hreply
      exact hnext false (hbefore.record _)
  | .ok (), ⟨_, hreply⟩ =>
      subst hreply
      exact hnext true ((hbefore.setFile _ none).record _)

theorem ensures_rollbackKnownPaths {accountSid : List Char}
    (hlogged : Logged parent base owned (.created directory dacl ∈ ·) machine) :
    (rollbackKnownPaths (sessionFor directory accountSid)).Ensures (sessionSystem api)
      (Safe parent) machine fun _ => Logged parent base owned RolledBack := by
  refine (ensures_removeFile .token hlogged).bind fun _ first hfirst => ?_
  refine (ensures_removeFile .control hfirst).bind fun _ second hsecond => ?_
  exact ensures_removeDir hsecond

end RollBack

/-! ## The directory -/

/-- So many names were taken, and nothing else happened. -/
def Collisions (log : List (Entry D)) : Prop := ∀ entry ∈ log, ∃ path, entry = .collided path

theorem Collisions.noCreation (hcollided : Collisions log) :
    log.countP Entry.isCreation = 0 := by
  rw [List.countP_eq_zero]
  intro entry hentry
  obtain ⟨path, rfl⟩ := hcollided entry hentry
  exact Bool.false_ne_true

/-- The log once the parent is checked and so many names were taken. -/
def Tried (parent : WindowsPath) (log : List (Entry D)) (attempts : Nat) : Prop :=
  IsParent parent log ∧ ∃ collisions, Collisions collisions ∧ collisions.length = attempts ∧
    log = .inspected parent true :: collisions

theorem Tried.noCreation {attempts : Nat} (htried : Tried parent log attempts) :
    log.countP Entry.isCreation = 0 := by
  obtain ⟨-, collisions, hcollided, -, rfl⟩ := htried
  rw [List.countP_cons_of_neg Bool.false_ne_true, hcollided.noCreation]

theorem Tried.collided {attempts : Nat} (htried : Tried parent log attempts)
    (path : WindowsPath) : Tried parent (log ++ [.collided path]) (attempts + 1) := by
  obtain ⟨hparent, collisions, hcollided, rfl, rfl⟩ := htried
  refine ⟨⟨hparent.isAbsolute, List.mem_cons_self, hparent.isNormalized⟩,
    collisions ++ [.collided path], ?_, List.length_append, rfl⟩
  intro entry hentry
  obtain hold | hnew := List.mem_append.mp hentry
  · exact hcollided entry hold
  · exact ⟨path, List.mem_singleton.mp hnew⟩

/-- A directory was created under a random name after so many collisions, and read back. -/
def Created (api : SecurityApi D Sid) (parent : WindowsPath) (sddl : List Char)
    (directory : WindowsPath) (log : List (Entry D)) : Prop :=
  ∃ past attempts dacl found, Tried parent past attempts ∧ attempts < sessionCreateAttempts ∧
    IsSession parent directory past ∧ api.ofSddl (wide sddl) = some dacl ∧
    Matches api sddl found ∧ log = past ++ [.created directory dacl, .read directory found]

theorem spec_createAttempts {sddl : List Char} {value : D} {tried attempts : Nat}
    (htried : Tried parent log tried) (hcount : tried + attempts = sessionCreateAttempts)
    (hlog : Orderly parent log) (hmem : (key, .descriptor value) ∈ owned)
    (hvalue : api.ofSddl (wide sddl) = some value) (hat : At base owned log machine) :
    Spec api parent base owned (createAttempts parent sddl key attempts) machine
      (Created api parent sddl) RolledBack := by
  have hnone : RolledBack log := .inl htried.noCreation
  induction attempts generalizing tried log machine with
  | zero => exact Spec.fail hlog hnone hat
  | succ attempts ih =>
      refine ensures_call hlog hat (fun _ _ => trivial) ?_
      rintro before reply _ hbefore ⟨hlength, rfl⟩
      cases reply with
      | none => exact Spec.fail hlog hnone hbefore
      | some random =>
          have hsession : IsSession parent (sessionDirectory parent random) log :=
            ⟨htried.1, random, hlength random rfl, rfl⟩
          refine Spec.bind (Spec.refuseIf hlog hnone hbefore) ?_
          rintro _ now middle - ⟨-, hnow⟩ hmiddle
          subst now
          refine ensures_call hlog hmiddle (fun before hbefore =>
            ⟨value, hbefore.held hmem⟩) ?_
          intro fresh reply later hfresh hreply
          match reply, hreply with
          | .error code, hreply =>
              have hreply : later = if isExistsError code = true then
                fresh.record (.collided (sessionDirectory parent random)) else fresh := hreply
              simp only
              split
              next hexists =>
                rw [if_pos hexists] at hreply
                subst hreply
                have hmore := htried.collided (sessionDirectory parent random)
                have hordered := hlog.snoc (.collided _) ⟨hsession, htried.noCreation⟩
                exact ih hmore (by omega) hordered (hfresh.record _) (.inl hmore.noCreation)
              next hexists =>
                rw [if_neg hexists] at hreply
                subst hreply
                exact Spec.fail hlog hnone hfresh
          | .ok (), ⟨other, hother, _, hlater⟩ =>
              rw [hfresh.held hmem] at hother
              cases hother
              subst hlater
              have hordered : Orderly parent
                  (log ++ [.created (sessionDirectory parent random) value]) :=
                hlog.snoc (.created _ value) ⟨hsession, htried.noCreation⟩
              have hcreated := (hfresh.setFile (sessionDirectory parent random)
                (some ⟨true, value⟩)).record (.created (sessionDirectory parent random) value)
              refine Spec.bind (FallibleCalls.Ensures.onError (fun _ => holds_logged)
                holds_logged (spec_verifyExactDacl hordered hcreated) ?_) ?_
              · rintro failed ⟨_, ⟨horderedAfter, reads, hreads, rfl⟩, hfailed⟩
                have hmember : .created (sessionDirectory parent random) value ∈
                    log ++ [.created (sessionDirectory parent random) value] ++ reads := by simp
                exact ensures_removeDir ⟨_, ⟨horderedAfter, hmember⟩, hfailed⟩
              · rintro _ now last hlast ⟨found, hmatches, hnow⟩ hstop
                subst now
                refine Spec.pure hlast ⟨log, tried, value, found, htried, by omega, hsession,
                  hvalue, hmatches, ?_⟩ hstop
                rw [List.append_assoc, List.singleton_append]

theorem spec_createRandomDirectory {sddl : List Char} (htried : Tried parent log 0)
    (hlog : Orderly parent log) (hat : At base owned log machine) :
    Spec api parent base owned (createRandomDirectory parent sddl) machine
      (Created api parent sddl) RolledBack := by
  refine spec_withAcquired ((ensures_fromSddl hlog hat).weaken (fun _ _ => id) ?_) ?_ ?_
  · rintro stop ⟨_, ⟨hordered, rfl⟩, hstop⟩
    exact ⟨_, ⟨hordered, .inl htried.noCreation⟩, hstop⟩
  · rintro _ _ ⟨value, ⟨rfl, -⟩, -⟩ ⟨⟩
  · rintro descriptor _ now middle - ⟨value, ⟨rfl, hvalue⟩, hnow⟩ hmiddle
    subst now
    exact spec_createAttempts htried (Nat.zero_add _) hlog List.mem_cons_self hvalue hmiddle

/-! ## The account and the parent -/

theorem spec_acceptSizing {sizing : Option Nat} (hlog : Orderly parent log)
    (hat : At base owned log machine) :
    Spec api parent base owned (acceptSizing sizing) machine (fun _ later => later = log)
      (· = log) := by
  cases sizing with
  | none => exact Spec.pure hlog rfl hat
  | some code =>
      have hrefused : Spec api parent base owned
          (refuseIf (code != insufficientBuffer) (.windowsApi "GetTokenInformation(size)" code))
          machine (fun _ later => _ ∧ later = log) (· = log) := Spec.refuseIf hlog rfl hat
      refine hrefused.weaken ?_ fun _ => id
      rintro _ stop ⟨now, ⟨hordered, -, hnow⟩, hstop⟩
      exact ⟨now, ⟨hordered, hnow⟩, hstop⟩

theorem spec_sidOfToken (hlog : Orderly parent log) (hmem : (key, .token) ∈ owned)
    (hat : At base owned log machine) :
    Spec api parent base owned (sidOfToken key) machine (fun _ later => later = log)
      (· = log) := by
  refine ensures_call hlog hat (fun before hbefore => hbefore.held hmem) ?_
  rintro _ ⟨sizing, requiredBytes⟩ first hfirst rfl
  refine Spec.bind (spec_acceptSizing hlog hfirst) ?_
  rintro _ now second - hnow hsecond
  subst now
  refine Spec.bind (Spec.refuseIf hlog rfl hsecond) ?_
  rintro _ now third - ⟨-, hnow⟩ hthird
  subst now
  refine ensures_call hlog hthird (fun before hbefore => hbefore.held hmem) ?_
  rintro fourth reply _ hfourth rfl
  cases reply with
  | error code => exact Spec.fail hlog rfl hfourth
  | ok information =>
      obtain ⟨returnedBytes, sid⟩ := information
      refine Spec.bind (Spec.refuseIf hlog rfl hfourth) ?_
      rintro _ now fifth - ⟨-, hnow⟩ hfifth
      subst now
      cases sid with
      | none => exact Spec.fail hlog rfl hfifth
      | some sid =>
          refine ensures_call hlog hfifth (fun _ _ => trivial) ?_
          intro sixth reply later hsixth hreply
          have hopens : (nonNull "ConvertSidToStringSidW" reply : Native Sid Key).Ensures
              (sessionSystem api) (Safe parent) later
              (Acquired parent base owned fun other now =>
                other = .text (api.sidText sid) ∧ now = log)
              (Logged parent base owned (· = log)) := by
            apply ensures_nonNull hlog hsixth
            match reply, hreply with
            | .error code, hreply => exact hreply
            | .ok found, hreply => exact hreply
          refine spec_withAcquired hopens ?_ ?_
          · rintro _ _ ⟨rfl, -⟩ ⟨⟩
          · rintro text _ now middle - ⟨rfl, hnow⟩ hmiddle
            subst now
            refine (spec_wideToString hlog List.mem_cons_self hmiddle).weaken ?_ fun _ => id
            rintro _ stop ⟨now, ⟨hordered, -, hnow⟩, hstop⟩
            exact ⟨now, ⟨hordered, hnow⟩, hstop⟩

theorem spec_currentAccountSid (hlog : Orderly parent log) (hat : At base owned log machine) :
    Spec api parent base owned currentAccountSid machine (fun _ later => later = log)
      (· = log) := by
  refine ensures_call hlog hat (fun _ _ => trivial) ?_
  intro before reply later hbefore hreply
  match reply, hreply with
  | .error code, hreply =>
      obtain rfl := hreply
      exact Spec.fail hlog rfl hbefore
  | .ok token, ⟨hfree, hnext⟩ =>
      subst hnext
      exact (spec_sidOfToken hlog List.mem_cons_self (hbefore.open hfree)).releasing
        (fun _ => holds_logged) holds_logged (fun _ _ => ensures_closeHandle)
        fun _ => ensures_closeHandle

theorem spec_validateParent (hat : At base owned [] machine) :
    Spec api parent base owned (validateParent parent) machine
      (fun _ later => Tried parent later 0) RolledBack := by
  have hnothing : Orderly parent ([] : List (Entry D)) := .nil parent
  refine Spec.bind (Spec.refuseIf hnothing (.inl rfl) hat) ?_
  rintro _ now first - ⟨habsolute, hnow⟩ hfirst
  subst now
  refine ensures_call hnothing hfirst (fun _ _ => trivial) ?_
  rintro before found _ hbefore ⟨-, rfl⟩
  have hlog : Orderly parent ([] ++ [Entry.inspected parent found] : List (Entry D)) :=
    hnothing.snoc _ rfl
  refine (Spec.refuseIf hlog (.inl rfl) (hbefore.record _)).weaken ?_ fun _ => id
  rintro _ stop ⟨_, ⟨hordered, hpassed, rfl⟩, hstop⟩
  rw [Bool.or_eq_false_iff, Bool.not_eq_false', Bool.not_eq_false'] at hpassed
  obtain ⟨rfl, hnormalized⟩ := hpassed
  have hparent : IsParent parent ([.inspected parent true] : List (Entry D)) :=
    ⟨by simpa using habsolute, List.mem_singleton_self _, hnormalized⟩
  exact ⟨_, ⟨hordered, hparent, [], List.forall_mem_nil _, rfl, rfl⟩, hstop⟩

/-! ## The check of the session -/

/-- A DACL was read at one of the paths of the session, and is the one that belongs there. -/
def Verified (api : SecurityApi D Sid) (session : PrivateSession) (entry : Entry D) : Prop :=
  ∃ path found, entry = .read path found ∧
    (path = session.directory ∧ Matches api session.directorySddl found ∨
      path ∈ [session.tokenPath, session.controlPath] ∧ Matches api session.fileSddl found)

def VerifiedAfter (api : SecurityApi D Sid) (session : PrivateSession)
    (log later : List (Entry D)) : Prop :=
  ∃ reads, (∀ entry ∈ reads, Verified api session entry) ∧ later = log ++ reads

variable {session : PrivateSession} {later last : List (Entry D)}

theorem VerifiedAfter.read {found : D} (hverified : VerifiedAfter api session log later)
    (hentry : Verified api session (.read path found)) :
    VerifiedAfter api session log (later ++ [.read path found]) := by
  obtain ⟨reads, hreads, rfl⟩ := hverified
  refine ⟨reads ++ [.read path found], ?_, List.append_assoc _ _ _⟩
  intro entry hmem
  obtain hold | hnew := List.mem_append.mp hmem
  · exact hreads entry hold
  · exact List.mem_singleton.mp hnew ▸ hentry

theorem VerifiedAfter.readsAfter (hverified : VerifiedAfter api session log later) :
    ReadsAfter log later := by
  obtain ⟨reads, hreads, rfl⟩ := hverified
  refine ⟨reads, fun entry hentry => ?_, rfl⟩
  obtain ⟨path, found, rfl, -⟩ := hreads entry hentry
  rfl

theorem spec_verifyFile (hpath : path ∈ [session.tokenPath, session.controlPath])
    (hlog : Orderly parent later) (hverified : VerifiedAfter api session log later)
    (hat : At base owned later machine) :
    Spec api parent base owned (verifyFile path session.fileSddl) machine
      (fun _ => VerifiedAfter api session log) (ReadsAfter log) := by
  have hexists : Spec api parent base owned (pathExists path) machine
      (fun _ now => now = later) (ReadsAfter log) := by
    refine ensures_call hlog hat (fun _ _ => trivial) ?_
    rintro before reply _ hbefore ⟨-, rfl⟩
    cases reply with
    | error source => exact Spec.fail hlog hverified.readsAfter hbefore
    | ok found => exact Spec.pure hlog rfl hbefore
  refine Spec.bind hexists ?_
  rintro found now middle - hnow hmiddle
  subst now
  refine FallibleCalls.Ensures.ite (fun _ => ?_) fun _ => Spec.pure hlog hverified hmiddle
  refine (spec_verifyExactDacl hlog hmiddle).weaken ?_ ?_
  · rintro _ stop ⟨now, ⟨hordered, found, hmatches, hnow⟩, hstop⟩
    subst now
    exact ⟨_, ⟨hordered, hverified.read ⟨path, found, rfl, .inr ⟨hpath, hmatches⟩⟩⟩, hstop⟩
  · rintro stop ⟨now, ⟨hordered, hreads⟩, hstop⟩
    exact ⟨now, ⟨hordered, hverified.readsAfter.trans hreads⟩, hstop⟩

theorem spec_verifySecurity (hlog : Orderly parent log) (hat : At base owned log machine) :
    Spec api parent base owned (verifySecurity session) machine
      (fun _ => VerifiedAfter api session log) (ReadsAfter log) := by
  refine Spec.bind (spec_verifyExactDacl hlog hat) ?_
  rintro _ now first hnowOrdered ⟨found, hmatches, hnow⟩ hfirst
  have hverified : VerifiedAfter api session log now := by
    subst now
    refine ⟨_, List.forall_mem_singleton.mpr ?_, rfl⟩
    exact ⟨session.directory, found, rfl, .inl ⟨rfl, hmatches⟩⟩
  refine Spec.bind (spec_verifyFile List.mem_cons_self hnowOrdered hverified hfirst) ?_
  rintro _ later second hlater hsecondVerified hsecond
  exact spec_verifyFile (by simp) hlater hsecondVerified hsecond

/-! ## The whole creation -/

/-- How a session came about: once the parent was found to be a directory and after the names
that were taken, its directory was created with the DACL it asks for, and every DACL that was
read since is the one that belongs there. -/
structure Prepared (api : SecurityApi D Sid) (parent : WindowsPath) (session : PrivateSession)
    (log : List (Entry D)) : Prop where
  named : IsSession parent session.directory log
  account : ∃ accountSid, session = sessionFor session.directory accountSid
  history : ∃ collisions dacl reads, Collisions collisions ∧
    collisions.length < sessionCreateAttempts ∧
    api.ofSddl (wide session.directorySddl) = some dacl ∧
    (∃ found, .read session.directory found ∈ reads) ∧
    (∀ entry ∈ reads, Verified api session entry) ∧
    log = .inspected parent true :: collisions ++ .created session.directory dacl :: reads

theorem Prepared.of_created {directory : WindowsPath} {accountSid : List Char}
    (hcreated : Created api parent (directorySddlOf accountSid) directory log)
    (hverified : VerifiedAfter api (sessionFor directory accountSid) log later) :
    Prepared api parent (sessionFor directory accountSid) later := by
  obtain ⟨past, attempts, dacl, found, htried, hcount, hnamed, hdacl, hmatches, rfl⟩ := hcreated
  obtain ⟨hparent, collisions, hcollisions, rfl, rfl⟩ := htried
  obtain ⟨reads, hreads, rfl⟩ := hverified
  refine ⟨⟨⟨hparent.isAbsolute, List.mem_cons_self, hparent.isNormalized⟩, hnamed.2⟩,
    ⟨accountSid, rfl⟩, collisions, dacl, .read directory found :: reads,
    hcollisions, hcount, hdacl, ⟨found, List.mem_cons_self⟩, ?_, ?_⟩
  · exact List.forall_mem_cons.mpr
      ⟨⟨directory, found, rfl, .inl ⟨rfl, hmatches⟩⟩, hreads⟩
  · simp [sessionFor]

theorem spec_create (hat : At base [] [] machine) :
    Spec api parent base [] (create parent) machine (Prepared api parent) RolledBack := by
  refine Spec.bind (spec_validateParent hat) ?_
  intro _ log first hlog htried hfirst
  refine Spec.bind ((spec_currentAccountSid hlog hfirst).weaken (fun _ _ => id) ?_) ?_
  · rintro stop ⟨_, ⟨hordered, rfl⟩, hstop⟩
    exact ⟨_, ⟨hordered, .inl htried.noCreation⟩, hstop⟩
  rintro accountSid now second - hnow hsecond
  subst now
  refine Spec.bind (spec_createRandomDirectory htried hlog hsecond) ?_
  intro directory log third hlog hcreated hthird
  have hmember : ∃ dacl, .created directory dacl ∈ log := by
    obtain ⟨_, _, dacl, _, -, -, -, -, -, rfl⟩ := hcreated
    exact ⟨dacl, by simp⟩
  obtain ⟨dacl, hmember⟩ := hmember
  refine Spec.bind (FallibleCalls.Ensures.onError (fun _ => holds_logged) holds_logged
    (spec_verifySecurity hlog hthird) ?_) ?_
  · rintro failed ⟨_, ⟨hordered, reads, -, rfl⟩, hfailed⟩
    exact ensures_rollbackKnownPaths ⟨_, ⟨hordered, List.mem_append_left _ hmember⟩, hfailed⟩
  · intro _ later last hlater hverified hlast
    exact Spec.pure hlater (.of_created hcreated hverified) hlast

/-- Whatever Windows answers and whatever others do to the paths in between: no handle or
address is used after its release, one directory is made, under a random name below a checked
parent, and only this directory and its two files are ever removed. In the end nothing that
Windows handed out is left. A session has its directory with the DACL it was created with, read
back, and an error leaves nothing that was not tried to be removed. -/
theorem create_confined (hlog : base.log = []) (hfault : base.faulted = false)
    {rest : Native Sid PrivateSession}
    (hreaches : Reaches (sessionSystem api) (create parent, base) (rest, machine)) :
    Safe parent machine ∧ ∀ outcome, rest = SystemCalls.done outcome →
      machine.resources = base.resources ∧
        match outcome with
        | .ok session => Prepared api parent session machine.log
        | .error _ => RolledBack machine.log := by
  obtain ⟨labels, hrun⟩ := hreaches
  have hstart : At base [] [] base := ⟨.start _, hlog, hfault⟩
  obtain ⟨hsafe, hdone⟩ := spec_create hstart labels rest machine hrun
  refine ⟨hsafe, fun outcome houtcome => ?_⟩
  have hpost := hdone outcome houtcome
  cases outcome with
  | ok session =>
      obtain ⟨_, ⟨-, hprepared⟩, hat⟩ := hpost
      exact ⟨hat.owns.eq_base, hat.log ▸ hprepared⟩
  | error error =>
      obtain ⟨_, ⟨-, hrolled⟩, hat⟩ := hpost
      exact ⟨hat.owns.eq_base, hat.log ▸ hrolled⟩

end Rules

/-! ## A session that is created -/

section Fixture

/-- Descriptors that are their own texts. -/
def fixtureApi : SecurityApi OsString Unit where
  sidText _ := osString "S-1-5-21-7"
  ofSddl := some
  daclText := id

theorem toStr_wide (chars : List Char) : toStr (wide chars) = some chars :=
  toStr_eq_some_iff.mpr rfl

theorem resources_set_self (machine : Machine OsString) (key : Key)
    (resource : Option (Resource OsString)) : (machine.set key resource).resources key = resource :=
  Function.update_self ..

theorem reaches_ask (call : SessionCall Unit) {α : Type}
    {next : call.Reply → Native Unit α} {machine later : Machine OsString}
    {stop : Native Unit α × Machine OsString} (reply : call.Reply) (hvalid : machine.Valid call)
    (hsucceeds : machine.Succeeds fixtureApi call reply later)
    (hrest : Reaches (sessionSystem fixtureApi) (next reply, later) stop) :
    Reaches (sessionSystem fixtureApi) (SystemCalls.call call next, machine) stop :=
  .call call reply (.inl ⟨hvalid, hsucceeds⟩) hrest

theorem reaches_wideToString {machine : Machine OsString} {text : Key} {chars : List Char}
    (htext : machine.resources text = some (.text (wide chars))) :
    Reaches (sessionSystem fixtureApi) (wideToString text, machine)
      (SystemCalls.done (.ok chars), machine) := by
  refine reaches_ask (.readText text) (wide chars) ⟨_, htext⟩ ⟨htext, rfl⟩ ?_
  change Reaches _ (SystemCalls.done (okOr (toStr (wide chars)) _), machine) _
  rw [toStr_wide]
  exact .refl _ _

theorem reaches_withLocal {α : Type} {key : Key} (resource : Resource OsString)
    {body : Native Unit α} {before later : Machine OsString} {outcome : Except LaunchError α}
    (hfree : later.resources key = none) (hresource : resource ≠ .token)
    (hbody : Reaches (sessionSystem fixtureApi) (body, before)
      (SystemCalls.done outcome, later.set key (some resource))) :
    Reaches (sessionSystem fixtureApi) (withLocal key body, before)
      (SystemCalls.done outcome, later) := by
  refine (Reaches.bind _ hbody).trans ?_
  have hheld : (later.set key (some resource)).resources key = some resource :=
    Function.update_self ..
  refine reaches_ask (.localFree key) () ⟨_, hheld, hresource⟩ rfl ?_
  have hrestored : (later.set key (some resource)).set key none = later := by
    simp [Machine.set, ← hfree]
  rw [hrestored]
  exact .refl _ _

theorem reaches_daclSddl {machine : Machine OsString} {descriptor : Key} (text : Key)
    {chars : List Char}
    (hdescriptor : machine.resources descriptor = some (.descriptor (wide chars)))
    (hfree : machine.resources text = none) :
    Reaches (sessionSystem fixtureApi) (daclSddl descriptor, machine)
      (SystemCalls.done (.ok chars), machine) := by
  refine reaches_ask (.descriptorText _) (.ok (some text)) ⟨_, hdescriptor⟩
    ⟨_, hdescriptor, hfree, rfl⟩ ?_
  refine reaches_withLocal (.text (wide chars)) hfree (by simp) ?_
  exact reaches_wideToString (Function.update_self ..)

theorem reaches_refuseIf {machine : Machine OsString} {condition : Bool} {error : LaunchError}
    (hcondition : condition = false) :
    Reaches (sessionSystem fixtureApi) (refuseIf condition error, machine)
      (SystemCalls.done (.ok ()), machine) := by
  subst hcondition
  exact .refl _ _

theorem reaches_fromSddl {machine : Machine OsString} {key : Key} {chars : List Char}
    (hplain : (wide chars).contains 0 = false) (hfree : machine.resources key = none) :
    Reaches (sessionSystem fixtureApi) (fromSddl chars, machine)
      (SystemCalls.done (.ok key), machine.set key (some (.descriptor (wide chars)))) := by
  refine (FallibleCalls.reaches_bind _ (reaches_refuseIf hplain)).trans ?_
  refine reaches_ask (.convertDescriptor _) (.ok (some key)) trivial ⟨_, rfl, hfree, rfl⟩ ?_
  exact .refl _ _

theorem reaches_readDacl {machine : Machine OsString} {path : WindowsPath} (key : Key)
    {node : FileNode OsString} (hfile : machine.files path = some node)
    (hfree : machine.resources key = none) :
    Reaches (sessionSystem fixtureApi) (readDacl path, machine) (SystemCalls.done (.ok key),
      (machine.set key (some (.descriptor node.dacl))).record (.read path node.dacl)) := by
  refine reaches_ask (.namedSecurityInfo path) (0, some key) trivial ⟨_, hfile, hfree, rfl⟩ ?_
  exact .refl _ _

theorem reaches_verifyExactDacl {machine : Machine OsString} {path : WindowsPath}
    {isDirectory : Bool} {chars : List Char} (hplain : (wide chars).contains 0 = false)
    (hpath : path.asOsString.contains 0 = false)
    (hfile : machine.files path = some ⟨isDirectory, wide chars⟩)
    (hfree : ∀ address < 3, machine.resources (.memory address) = none) :
    Reaches (sessionSystem fixtureApi) (verifyExactDacl path chars, machine)
      (SystemCalls.done (.ok ()), machine.record (.read path (wide chars))) := by
  have hfirst := hfree 0 (by decide)
  have hsecond := hfree 1 (by decide)
  have hthird := hfree 2 (by decide)
  refine (FallibleCalls.reaches_bind _ (reaches_fromSddl hplain hfirst)).trans ?_
  refine reaches_withLocal (.descriptor (wide chars)) hfirst (by simp) ?_
  have hexpected : Reaches (sessionSystem fixtureApi) (daclSddl (.memory 0), _) _ :=
    reaches_daclSddl (.memory 2) (resources_set_self machine _ (some (.descriptor (wide chars))))
      (by simp [Machine.set, hthird])
  refine (FallibleCalls.reaches_bind _ hexpected).trans ?_
  refine (FallibleCalls.reaches_bind _ (reaches_refuseIf hpath)).trans ?_
  have hread : Reaches (sessionSystem fixtureApi)
      (readDacl path, machine.set (.memory 0) (some (.descriptor (wide chars)))) _ :=
    reaches_readDacl (.memory 1) hfile (by simp [Machine.set, hsecond])
  refine (FallibleCalls.reaches_bind _ hread).trans ?_
  refine reaches_withLocal (.descriptor (wide chars))
    (by simp [Machine.set, Machine.record, hsecond]) (by simp) ?_
  have hactual : Reaches (sessionSystem fixtureApi) (daclSddl (.memory 1), _) _ :=
    reaches_daclSddl (.memory 2) (resources_set_self
      ((machine.record (.read path (wide chars))).set (.memory 0)
        (some (.descriptor (wide chars)))) _ (some (.descriptor (wide chars))))
      (by simp [Machine.set, Machine.record, hthird])
  refine (FallibleCalls.reaches_bind _ hactual).trans ?_
  exact reaches_refuseIf (bne_self_eq_false _)

def fixtureParent : WindowsPath :=
  ⟨[.pathPrefix (.verbatimUnc (osString "build") (osString "work")), .rootDir,
    .normal (osString "sessions")]⟩

def fixtureSid : List Char := "S-1-5-21-7".toList

/-- Nothing is held, and the parent is there. -/
def fixtureMachine : Machine OsString where
  resources _ := none
  files := Function.update (fun _ => none) fixtureParent (some ⟨true, []⟩)
  log := []
  faulted := false

/-- The parent was found to be a directory. -/
def checkedMachine : Machine OsString := fixtureMachine.record (.inspected fixtureParent true)

def fixtureDirectory : WindowsPath := sessionDirectory fixtureParent (List.replicate 16 0)

def fixtureSession : PrivateSession := sessionFor fixtureDirectory fixtureSid

theorem files_fixtureParent : fixtureMachine.files fixtureParent = some ⟨true, []⟩ := by
  simp [fixtureMachine]

theorem reaches_validateParent :
    Reaches (sessionSystem fixtureApi) (validateParent fixtureParent, fixtureMachine)
      (SystemCalls.done (.ok ()), checkedMachine) := by
  refine reaches_ask (.isDirectory _) true trivial
    ⟨fun _ => ⟨_, files_fixtureParent, rfl⟩, rfl⟩ ?_
  exact .refl _ _

theorem reaches_sidOfToken {machine : Machine OsString} {token : Key}
    (htoken : machine.resources token = some .token)
    (hmemory : machine.resources (.memory 0) = none) :
    Reaches (sessionSystem fixtureApi) (sidOfToken token, machine)
      (SystemCalls.done (.ok fixtureSid), machine) := by
  refine reaches_ask (.tokenSize _) (some insufficientBuffer, 44) htoken rfl ?_
  refine reaches_ask (.tokenUser _ _) (.ok (44, some ())) htoken rfl ?_
  refine reaches_ask (.convertSid _) (.ok (some (.memory 0))) trivial ⟨hmemory, rfl⟩ ?_
  refine reaches_withLocal (.text (wide fixtureSid)) hmemory (by simp) ?_
  exact reaches_wideToString (resources_set_self ..)

theorem reaches_currentAccountSid {machine : Machine OsString}
    (hhandle : machine.resources (.handle 5) = none)
    (hmemory : machine.resources (.memory 0) = none) :
    Reaches (sessionSystem fixtureApi) (currentAccountSid, machine)
      (SystemCalls.done (.ok fixtureSid), machine) := by
  refine reaches_ask .openProcessToken (.ok (.handle 5)) trivial ⟨hhandle, rfl⟩ ?_
  have htoken := resources_set_self machine (.handle 5) (some .token)
  have hsid := reaches_sidOfToken htoken (by simp [Machine.set, hmemory])
  refine (Reaches.bind _ hsid).trans ?_
  refine reaches_ask (.closeHandle _) () htoken rfl ?_
  have hrestored : (machine.set (.handle 5) (some .token)).set (.handle 5) none = machine := by
    simp [Machine.set, ← hhandle]
  rw [hrestored]
  exact .refl _ _

/-- With the directory of the session. -/
def withDirectory (machine : Machine OsString) : Machine OsString :=
  (machine.setFile fixtureDirectory (some ⟨true, wide fixtureSession.directorySddl⟩)).record
    (.created fixtureDirectory (wide fixtureSession.directorySddl))

/-- The directory was read. -/
def readDirectory (machine : Machine OsString) : Machine OsString :=
  machine.record (.read fixtureDirectory (wide fixtureSession.directorySddl))

theorem reaches_verifyDirectory {machine : Machine OsString}
    (hfile : machine.files fixtureDirectory =
      some ⟨true, wide fixtureSession.directorySddl⟩)
    (hfree : ∀ address < 3, machine.resources (.memory address) = none) :
    Reaches (sessionSystem fixtureApi)
      (verifyExactDacl fixtureDirectory fixtureSession.directorySddl, machine)
      (SystemCalls.done (.ok ()), readDirectory machine) := by
  have hplain : (wide fixtureSession.directorySddl).contains 0 = false := by decide +kernel
  have hpath : fixtureDirectory.asOsString.contains 0 = false := by decide +kernel
  exact reaches_verifyExactDacl hplain hpath hfile hfree

theorem files_withDirectory (machine : Machine OsString) :
    (withDirectory machine).files fixtureDirectory =
      some ⟨true, wide fixtureSession.directorySddl⟩ := by
  simp [withDirectory, Machine.setFile, Machine.record]

theorem reaches_createAttempts {machine : Machine OsString}
    (hheld : machine.resources (.memory 3) =
      some (.descriptor (wide fixtureSession.directorySddl)))
    (hfree : ∀ address < 3, machine.resources (.memory address) = none)
    (hnone : machine.files fixtureDirectory = none) :
    Reaches (sessionSystem fixtureApi)
      (createAttempts fixtureParent fixtureSession.directorySddl (.memory 3) 8, machine)
      (SystemCalls.done (.ok fixtureDirectory), readDirectory (withDirectory machine)) := by
  have hlength : ∀ random, some (List.replicate 16 (0 : UInt8)) = some random →
      random.length = 16 := by
    rintro _ ⟨⟩
    rfl
  refine reaches_ask .fillRandom (some (List.replicate 16 0)) trivial ⟨hlength, rfl⟩ ?_
  refine reaches_ask (.createDirectory fixtureDirectory (.memory 3)) (.ok ()) ⟨_, hheld⟩
    ⟨_, hheld, hnone, rfl⟩ ?_
  have hverified := reaches_verifyDirectory (files_withDirectory machine) hfree
  change Reaches _ (FallibleCalls.bind (FallibleCalls.onError (verifyExactDacl _ _) _) _, _) _
  refine (FallibleCalls.reaches_bind _ (FallibleCalls.reaches_onError _ hverified)).trans ?_
  exact .refl _ _

theorem reaches_createRandomDirectory : Reaches (sessionSystem fixtureApi)
    (createRandomDirectory fixtureParent fixtureSession.directorySddl, checkedMachine)
      (SystemCalls.done (.ok fixtureDirectory), readDirectory (withDirectory checkedMachine)) := by
  have hplain : (wide fixtureSession.directorySddl).contains 0 = false := by decide +kernel
  have hfree : checkedMachine.resources (.memory 3) = none := rfl
  refine (FallibleCalls.reaches_bind _ (reaches_fromSddl hplain hfree)).trans ?_
  refine reaches_withLocal (.descriptor (wide fixtureSession.directorySddl)) rfl (by simp) ?_
  apply reaches_createAttempts (resources_set_self ..)
  · intro address hlt
    have hne : Key.memory address ≠ .memory 3 := by simp; omega
    exact Function.update_of_ne hne _ _
  · have hne : fixtureDirectory ≠ fixtureParent := by decide +kernel
    simp [checkedMachine, fixtureMachine, Machine.set, Machine.record, hne]

theorem files_child (leaf : Leaf) :
    (withDirectory checkedMachine).files (childPath fixtureDirectory leaf) = none := by
  have hparent : childPath fixtureDirectory leaf ≠ fixtureParent := by
    cases leaf <;> decide +kernel
  have hdirectory : childPath fixtureDirectory leaf ≠ fixtureDirectory := by
    cases leaf <;> decide +kernel
  simp [withDirectory, Machine.setFile, Machine.record, checkedMachine, fixtureMachine, hparent,
    hdirectory]

theorem reaches_verifySecurity : Reaches (sessionSystem fixtureApi)
    (verifySecurity fixtureSession, readDirectory (withDirectory checkedMachine))
      (SystemCalls.done (.ok ()),
        readDirectory (readDirectory (withDirectory checkedMachine))) := by
  have hfile : (readDirectory (withDirectory checkedMachine)).files fixtureDirectory = _ :=
    files_withDirectory checkedMachine
  have hverified := reaches_verifyDirectory hfile fun _ _ => rfl
  refine (FallibleCalls.reaches_bind _ hverified).trans ?_
  have hnone : ∀ leaf found, (.ok false : Except ErrorKind Bool) = .ok found →
      found = ((withDirectory checkedMachine).files (childPath fixtureDirectory leaf)).isSome := by
    rintro leaf _ ⟨⟩
    rw [files_child]
    rfl
  refine reaches_ask (.tryExists _) (.ok false) trivial ⟨hnone .token, rfl⟩ ?_
  refine reaches_ask (.tryExists _) (.ok false) trivial ⟨hnone .control, rfl⟩ ?_
  exact .refl _ _

/-- A session may be created. -/
theorem create_confined_created : ∃ machine : Machine OsString,
    Prepared fixtureApi fixtureParent fixtureSession machine.log ∧
      machine.resources = fixtureMachine.resources := by
  have hreaches : Reaches (sessionSystem fixtureApi) (create fixtureParent, fixtureMachine)
      (SystemCalls.done (.ok fixtureSession),
        readDirectory (readDirectory (withDirectory checkedMachine))) := by
    refine (FallibleCalls.reaches_bind _ reaches_validateParent).trans ?_
    refine (FallibleCalls.reaches_bind _ (reaches_currentAccountSid rfl rfl)).trans ?_
    refine (FallibleCalls.reaches_bind _ reaches_createRandomDirectory).trans ?_
    have hverified := FallibleCalls.reaches_onError (rollbackKnownPaths fixtureSession)
      reaches_verifySecurity
    refine (FallibleCalls.reaches_bind _ hverified).trans ?_
    exact .refl _ _
  obtain ⟨-, hdone⟩ := create_confined rfl rfl hreaches
  obtain ⟨hresources, hprepared⟩ := hdone _ rfl
  exact ⟨_, hprepared, hresources⟩

end Fixture

end Rpackit.Windows.SessionCreate
