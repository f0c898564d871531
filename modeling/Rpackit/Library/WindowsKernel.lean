import Mathlib.Logic.Function.Basic
import Rpackit.Library.SystemCalls
import Rpackit.Library.WindowsPath

/-! # Handles, jobs and processes of a Windows kernel

The caller has a table of handles. A job holds processes; when its last handle is closed
and it kills on close, its members end. A process runs from its primary thread, which is
suspended as long as its creation or somebody else suspends it. Every call may be refused,
and then changes nothing.

A process is a number of its own, which is never used again; its pid may be. It is ours if the
caller created it or if one of ours started it. Other programs end processes, suspend and
resume threads, and every running process starts further ones, in its own jobs unless these
allow a breakaway.
-/

namespace WindowsKernel

abbrev Handle := Nat

inductive KernelObject where
  | job (id : Nat)
  | process (id : Nat)
  | thread (process : Nat)
  | pipeRead (id : Nat)
  | pipeWrite (id : Nat)
  deriving DecidableEq, Repr

structure HandleEntry where
  object : KernelObject
  inheritable : Bool
  deriving DecidableEq, Repr

structure JobLimits where
  killOnClose : Bool
  breakawayOk : Bool
  silentBreakawayOk : Bool
  deriving DecidableEq, Repr

/-- How a process is created. The standard handles are given to it by value. -/
structure ProcessStart where
  applicationName : OsString
  commandLine : OsString
  environment : Option OsString
  currentDirectory : OsString
  standardHandles : List Handle
  suspended : Bool
  deriving DecidableEq, Repr

/-- A process with the objects of the handles it inherited. The suspension of its creation
is counted apart from those by others. -/
structure ProcessObject where
  pid : UInt32
  start : ProcessStart
  holds : List KernelObject
  jobs : List Nat
  creationTime : Nat
  ownSuspension : Bool
  foreignSuspensions : Nat
  alive : Bool
  ours : Bool
  deriving DecidableEq, Repr

def ProcessObject.Runs (object : ProcessObject) : Prop :=
  object.alive = true ∧ object.ownSuspension = false ∧ object.foreignSuspensions = 0

def ProcessObject.ended (object : ProcessObject) : ProcessObject := { object with alive := false }

structure Kernel where
  handles : Handle → Option HandleEntry
  jobs : Nat → Option JobLimits
  processes : Nat → Option ProcessObject
  /-- The attribute lists that are initialized and not deleted. -/
  attributeLists : Nat

namespace Kernel

def setHandle (kernel : Kernel) (handle : Handle) (entry : Option HandleEntry) : Kernel :=
  { kernel with handles := Function.update kernel.handles handle entry }

def setJob (kernel : Kernel) (id : Nat) (limits : JobLimits) : Kernel :=
  { kernel with jobs := Function.update kernel.jobs id (some limits) }

def setProcess (kernel : Kernel) (id : Nat) (object : ProcessObject) : Kernel :=
  { kernel with processes := Function.update kernel.processes id (some object) }

def killMembers (kernel : Kernel) (job : Nat) : Kernel :=
  { kernel with
    processes := fun id => (kernel.processes id).map fun object =>
      if job ∈ object.jobs then object.ended else object }

/-- The caller has no handle of this object. -/
def Lacks (kernel : Kernel) (object : KernelObject) : Prop :=
  ∀ handle entry, kernel.handles handle = some entry → entry.object ≠ object

/-- Nobody has a handle of this object. -/
def Unreferenced (kernel : Kernel) (object : KernelObject) : Prop :=
  kernel.Lacks object ∧
    ∀ id process, kernel.processes id = some process → object ∉ process.holds

/-- The members of a job that does not allow a breakaway start processes only in it. -/
def NoBreakaway (kernel : Kernel) (job : Nat) : Prop :=
  ∃ limits, kernel.jobs job = some limits ∧
    limits.breakawayOk = false ∧ limits.silentBreakawayOk = false

/-- This handle is the last one of a job that kills on close. -/
def KillsOnClose (kernel : Kernel) (handle : Handle) (job : Nat) : Prop :=
  (∃ entry, kernel.handles handle = some entry ∧ entry.object = .job job) ∧
    (∃ limits, kernel.jobs job = some limits ∧ limits.killOnClose = true) ∧
    (∀ other entry, kernel.handles other = some entry → entry.object = .job job →
      other = handle) ∧
    ∀ id process, kernel.processes id = some process → process.alive = true →
      .job job ∉ process.holds

end Kernel

/-! ## Calls -/

structure ProcessInformation where
  process : Handle
  thread : Handle
  processId : UInt32
  deriving DecidableEq, Repr

inductive WaitReply where
  | object0
  | timeout
  | other (status : UInt32)
  deriving DecidableEq, Repr

/-- What a query of a table leaves in the storage, and the size that it asks for. -/
structure TableReply where
  status : UInt32
  suppliedBytes : UInt32
  storage : List UInt64
  deriving DecidableEq, Repr

inductive KernelCall where
  | createJobObject
  | setInformationJobObject (job : Handle) (limits : JobLimits)
  | getHandleInformation (handle : Handle)
  | queryInformationJobObject (job : Handle)
  | queryJobAccounting (job : Handle)
  | createInheritablePipe
  | clearInheritFlag (handle : Handle)
  | attributeListSize
  | initializeAttributeList
  | updateHandleList (handles : List Handle)
  | deleteAttributeList
  | createProcess (start : ProcessStart) (inherited : List Handle)
  | closeHandle (handle : Handle)
  | assignProcessToJobObject (job process : Handle)
  | getProcessTimes (process : Handle)
  | isProcessInJob (process job : Handle)
  | resumeThread (thread : Handle)
  | openProcess (pid : UInt32)
  | terminateProcess (process : Handle) (exitCode : UInt32)
  | terminateJobObject (job : Handle) (exitCode : UInt32)
  | waitForSingleObject (process : Handle) (milliseconds : Nat)
  | getExitCodeProcess (process : Handle)
  | getExtendedTcpTable (family suppliedBytes : UInt32) (storage : List UInt64)
  | now
  | sleep (duration : Nat)
  deriving DecidableEq, Repr

@[reducible] def KernelCall.Value : KernelCall → Type
  | .createJobObject => Handle
  | .setInformationJobObject _ _ => Unit
  | .getHandleInformation _ => Bool
  | .queryInformationJobObject _ => JobLimits
  | .queryJobAccounting _ => Nat
  | .createInheritablePipe => Handle × Handle
  | .clearInheritFlag _ => Unit
  | .attributeListSize => Nat × UInt32
  | .initializeAttributeList => Unit
  | .updateHandleList _ => Unit
  | .deleteAttributeList => Unit
  | .createProcess _ _ => ProcessInformation
  | .closeHandle _ => Unit
  | .assignProcessToJobObject _ _ => Unit
  | .getProcessTimes _ => Nat
  | .isProcessInJob _ _ => Bool
  | .resumeThread _ => Nat
  | .openProcess _ => Handle
  | .terminateProcess _ _ => Unit
  | .terminateJobObject _ _ => Unit
  | .waitForSingleObject _ _ => WaitReply
  | .getExitCodeProcess _ => UInt32
  | .getExtendedTcpTable _ _ _ => TableReply
  | .now => Nat
  | .sleep _ => Unit

/-- A value, or the code of the error. -/
abbrev KernelCall.Reply (call : KernelCall) : Type := Except UInt32 call.Value

/-- Calls without an error reply; a wait and a table report their failure as a status. -/
def KernelCall.isInfallible : KernelCall → Bool
  | .attributeListSize => true
  | .deleteAttributeList => true
  | .closeHandle _ => true
  | .waitForSingleObject _ _ => true
  | .getExtendedTcpTable _ _ _ => true
  | .now => true
  | .sleep _ => true
  | _ => false

def JobLimits.none : JobLimits := ⟨false, false, false⟩

def ProcessObject.suspendCount (object : ProcessObject) : Nat :=
  object.ownSuspension.toNat + object.foreignSuspensions

def ProcessObject.resumed (object : ProcessObject) : ProcessObject :=
  if object.ownSuspension then { object with ownSuspension := false }
  else { object with foreignSuspensions := object.foreignSuspensions - 1 }

/-- What a call that succeeds may return, and the state afterwards. -/
def Kernel.Succeeds (kernel : Kernel) : (call : KernelCall) → call.Value → Kernel → Prop
  | .createJobObject, handle, next => ∃ id, kernel.handles handle = none ∧
      kernel.jobs id = none ∧ kernel.Unreferenced (.job id) ∧
      next = (kernel.setJob id .none).setHandle handle (some ⟨.job id, false⟩)
  | .setInformationJobObject job limits, _, next => ∃ id inheritable,
      kernel.handles job = some ⟨.job id, inheritable⟩ ∧ next = kernel.setJob id limits
  | .getHandleInformation handle, inheritable, next =>
      (∃ object, kernel.handles handle = some ⟨object, inheritable⟩) ∧ next = kernel
  | .queryInformationJobObject job, limits, next =>
      (∃ id inheritable, kernel.handles job = some ⟨.job id, inheritable⟩ ∧
        kernel.jobs id = some limits) ∧ next = kernel
  | .queryJobAccounting job, active, next =>
      (∃ id inheritable, kernel.handles job = some ⟨.job id, inheritable⟩ ∧
        (active = 0 ↔ ∀ process object, kernel.processes process = some object →
          id ∈ object.jobs → object.alive = false)) ∧ next = kernel
  | .createInheritablePipe, (read, write), next => ∃ id, kernel.handles read = none ∧
      kernel.handles write = none ∧ read ≠ write ∧ kernel.Unreferenced (.pipeRead id) ∧
      kernel.Unreferenced (.pipeWrite id) ∧
      next = (kernel.setHandle read (some ⟨.pipeRead id, true⟩)).setHandle write
        (some ⟨.pipeWrite id, true⟩)
  | .clearInheritFlag handle, _, next => ∃ entry, kernel.handles handle = some entry ∧
      next = kernel.setHandle handle (some ⟨entry.object, false⟩)
  | .attributeListSize, _, next => next = kernel
  | .initializeAttributeList, _, next =>
      next = { kernel with attributeLists := kernel.attributeLists + 1 }
  | .updateHandleList _, _, next => next = kernel
  | .deleteAttributeList, _, next =>
      next = { kernel with attributeLists := kernel.attributeLists - 1 }
  | .createProcess start inherited, information, next => ∃ target object,
      kernel.handles information.process = none ∧ kernel.handles information.thread = none ∧
      information.process ≠ information.thread ∧
      kernel.processes target = none ∧ object.pid = information.processId ∧
      object.start = start ∧
      inherited.map kernel.handles = object.holds.map (fun held => some ⟨held, true⟩) ∧
      object.ownSuspension = start.suspended ∧ object.ours = true ∧
      next = ((kernel.setProcess target object).setHandle information.process
        (some ⟨.process target, false⟩)).setHandle information.thread
        (some ⟨.thread target, false⟩)
  | .closeHandle handle, _, next =>
      (∃ job, kernel.KillsOnClose handle job ∧
        next = (kernel.setHandle handle none).killMembers job) ∨
      ((∀ job, ¬kernel.KillsOnClose handle job) ∧ next = kernel.setHandle handle none)
  | .assignProcessToJobObject job process, _, next => ∃ id inJob target inProcess object,
      kernel.handles job = some ⟨.job id, inJob⟩ ∧
      kernel.handles process = some ⟨.process target, inProcess⟩ ∧
      kernel.processes target = some object ∧
      next = kernel.setProcess target { object with jobs := id :: object.jobs }
  | .getProcessTimes process, creationTime, next =>
      (∃ target inheritable object, kernel.handles process = some ⟨.process target, inheritable⟩ ∧
        kernel.processes target = some object ∧ object.creationTime = creationTime) ∧
      next = kernel
  | .isProcessInJob process job, member, next =>
      (∃ id inJob target inProcess object, kernel.handles job = some ⟨.job id, inJob⟩ ∧
        kernel.handles process = some ⟨.process target, inProcess⟩ ∧
        kernel.processes target = some object ∧ (member = true ↔ id ∈ object.jobs)) ∧
      next = kernel
  | .resumeThread thread, previous, next => ∃ target inheritable object,
      kernel.handles thread = some ⟨.thread target, inheritable⟩ ∧
      kernel.processes target = some object ∧ previous = object.suspendCount ∧
      next = kernel.setProcess target object.resumed
  | .openProcess pid, handle, next => ∃ target object, kernel.handles handle = none ∧
      kernel.processes target = some object ∧ object.pid = pid ∧
      next = kernel.setHandle handle (some ⟨.process target, false⟩)
  | .terminateProcess process _, _, next => ∃ target inheritable object,
      kernel.handles process = some ⟨.process target, inheritable⟩ ∧
      kernel.processes target = some object ∧ next = kernel.setProcess target object.ended
  | .terminateJobObject job _, _, next => ∃ id inheritable,
      kernel.handles job = some ⟨.job id, inheritable⟩ ∧ next = kernel.killMembers id
  | .waitForSingleObject process _, .object0, next =>
      (∃ target inheritable object, kernel.handles process = some ⟨.process target, inheritable⟩ ∧
        kernel.processes target = some object ∧ object.alive = false) ∧ next = kernel
  | .waitForSingleObject _ _, _, next => next = kernel
  | .getExitCodeProcess _, _, next => next = kernel
  | .getExtendedTcpTable _ _ storage, reply, next =>
      reply.storage.length = storage.length ∧ next = kernel
  | .now, _, next => next = kernel
  | .sleep _, _, next => next = kernel

/-- A call may be refused, and then changes nothing. -/
def Kernel.Answers (kernel : Kernel) (call : KernelCall) (reply : call.Reply) (next : Kernel) :
    Prop :=
  match reply with
  | .ok value => kernel.Succeeds call value next
  | .error _ => call.isInfallible = false ∧ next = kernel

/-! ## What the others do -/

/-- A process that one of `kernel` started, or that this process has become. -/
structure Follows (kernel : Kernel) (object later : ProcessObject) : Prop where
  ours : later.ours = object.ours
  alive : later.alive = true → object.alive = true
  holds : ∀ held ∈ later.holds, held ∈ object.holds
  jobs : ∀ job ∈ object.jobs, kernel.NoBreakaway job → job ∈ later.jobs

inductive Kernel.Moves (kernel : Kernel) : Kernel → Prop
  | ends {id : Nat} {object : ProcessObject} (hobject : kernel.processes id = some object) :
      kernel.Moves (kernel.setProcess id object.ended)
  | suspends {id : Nat} {object : ProcessObject} (hobject : kernel.processes id = some object) :
      kernel.Moves (kernel.setProcess id
        { object with foreignSuspensions := object.foreignSuspensions + 1 })
  | resumes {id : Nat} {object : ProcessObject} (hobject : kernel.processes id = some object)
      (hsuspended : 0 < object.foreignSuspensions) :
      kernel.Moves (kernel.setProcess id
        { object with foreignSuspensions := object.foreignSuspensions - 1 })
  | starts {parent id : Nat} {object child : ProcessObject}
      (hobject : kernel.processes parent = some object) (hruns : object.Runs)
      (hid : kernel.processes id = none) (hchild : Follows kernel object child) :
      kernel.Moves (kernel.setProcess id child)

def kernelSystem : CallSystem KernelCall KernelCall.Reply Kernel where
  Answers := Kernel.Answers
  Moves := Kernel.Moves

/-! ## What does not change -/

section Frame

variable {kernel next : Kernel}

@[simp] theorem Kernel.setHandle_jobs (handle : Handle) (entry : Option HandleEntry) :
    (kernel.setHandle handle entry).jobs = kernel.jobs := rfl

@[simp] theorem Kernel.setHandle_processes (handle : Handle) (entry : Option HandleEntry) :
    (kernel.setHandle handle entry).processes = kernel.processes := rfl

@[simp] theorem Kernel.setHandle_attributeLists (handle : Handle) (entry : Option HandleEntry) :
    (kernel.setHandle handle entry).attributeLists = kernel.attributeLists := rfl

@[simp] theorem Kernel.setJob_handles (id : Nat) (limits : JobLimits) :
    (kernel.setJob id limits).handles = kernel.handles := rfl

@[simp] theorem Kernel.setJob_jobs (id : Nat) (limits : JobLimits) :
    (kernel.setJob id limits).jobs = Function.update kernel.jobs id (some limits) := rfl

@[simp] theorem Kernel.setJob_processes (id : Nat) (limits : JobLimits) :
    (kernel.setJob id limits).processes = kernel.processes := rfl

@[simp] theorem Kernel.setJob_attributeLists (id : Nat) (limits : JobLimits) :
    (kernel.setJob id limits).attributeLists = kernel.attributeLists := rfl

@[simp] theorem Kernel.setProcess_handles (id : Nat) (object : ProcessObject) :
    (kernel.setProcess id object).handles = kernel.handles := rfl

@[simp] theorem Kernel.setProcess_jobs (id : Nat) (object : ProcessObject) :
    (kernel.setProcess id object).jobs = kernel.jobs := rfl

@[simp] theorem Kernel.setProcess_processes (id : Nat) (object : ProcessObject) :
    (kernel.setProcess id object).processes =
      Function.update kernel.processes id (some object) := rfl

@[simp] theorem Kernel.setProcess_attributeLists (id : Nat) (object : ProcessObject) :
    (kernel.setProcess id object).attributeLists = kernel.attributeLists := rfl

@[simp] theorem Kernel.killMembers_handles (job : Nat) :
    (kernel.killMembers job).handles = kernel.handles := rfl

@[simp] theorem Kernel.killMembers_jobs (job : Nat) :
    (kernel.killMembers job).jobs = kernel.jobs := rfl

theorem Kernel.killMembers_processes (job id : Nat) :
    (kernel.killMembers job).processes id = (kernel.processes id).map fun object =>
      if job ∈ object.jobs then object.ended else object := rfl

@[simp] theorem Kernel.killMembers_attributeLists (job : Nat) :
    (kernel.killMembers job).attributeLists = kernel.attributeLists := rfl

theorem Follows.refl (kernel : Kernel) (object : ProcessObject) : Follows kernel object object :=
  ⟨rfl, id, fun _ => id, fun _ hjob _ => hjob⟩

theorem Kernel.setProcess_eq_some {id target : Nat} {object later : ProcessObject}
    (hlater : (kernel.setProcess target object).processes id = some later) :
    (id = target ∧ later = object) ∨ (id ≠ target ∧ kernel.processes id = some later) := by
  rw [setProcess_processes, Function.update_apply] at hlater
  split at hlater
  next hid => exact .inl ⟨hid, (Option.some.inj hlater).symm⟩
  next hid => exact .inr ⟨hid, hlater⟩

theorem ProcessObject.resumed_same (object : ProcessObject) :
    object.resumed.ours = object.ours ∧ object.resumed.alive = object.alive ∧
      object.resumed.jobs = object.jobs ∧ object.resumed.holds = object.holds ∧
      object.resumed.start = object.start ∧ object.resumed.pid = object.pid := by
  unfold ProcessObject.resumed
  split <;> exact ⟨rfl, rfl, rfl, rfl, rfl, rfl⟩

/-- What a process may become without its caller. -/
structure Becomes (kernel : Kernel) (object later : ProcessObject) : Prop
    extends Follows kernel object later where
  pid : later.pid = object.pid
  start : later.start = object.start
  sameHolds : later.holds = object.holds
  creationTime : later.creationTime = object.creationTime
  ownSuspension : later.ownSuspension = object.ownSuspension

theorem Becomes.refl (kernel : Kernel) (object : ProcessObject) : Becomes kernel object object :=
  ⟨.refl kernel object, rfl, rfl, rfl, rfl, rfl⟩

theorem Becomes.ended (kernel : Kernel) (object : ProcessObject) :
    Becomes kernel object object.ended :=
  ⟨⟨rfl, fun halive => absurd halive Bool.false_ne_true, fun _ => id, fun _ hjob _ => hjob⟩,
    rfl, rfl, rfl, rfl, rfl⟩

theorem Becomes.suspensions (kernel : Kernel) (object : ProcessObject) (count : Nat) :
    Becomes kernel object { object with foreignSuspensions := count } :=
  ⟨⟨rfl, id, fun _ => id, fun _ hjob _ => hjob⟩, rfl, rfl, rfl, rfl, rfl⟩

/-- The jobs are as before, and every process is one of before or was started by one that
was running. -/
structure Kernel.Later (kernel next : Kernel) : Prop where
  jobs : next.jobs = kernel.jobs
  kept : ∀ id object, kernel.processes id = some object →
    ∃ later, next.processes id = some later ∧ Becomes kernel object later
  started : ∀ id later, kernel.processes id = none → next.processes id = some later →
    ∃ source object, kernel.processes source = some object ∧ object.Runs ∧
      Follows kernel object later

/-- Where a process of a later state comes from. -/
theorem Kernel.Later.source (hlater : kernel.Later next) {id : Nat} {later : ProcessObject}
    (hfound : next.processes id = some later) :
    (∃ object, kernel.processes id = some object ∧ Becomes kernel object later) ∨
      ∃ source object, kernel.processes source = some object ∧ object.Runs ∧
        Follows kernel object later := by
  cases hbefore : kernel.processes id with
  | none => exact .inr (hlater.started id later hbefore hfound)
  | some object =>
      obtain ⟨found, hsame, hbecomes⟩ := hlater.kept id object hbefore
      obtain rfl := Option.some.inj (hsame.symm.trans hfound)
      exact .inl ⟨object, rfl, hbecomes⟩

theorem Kernel.Later.follows (hlater : kernel.Later next) {id : Nat} {later : ProcessObject}
    (hfound : next.processes id = some later) :
    ∃ source object, kernel.processes source = some object ∧ Follows kernel object later := by
  obtain ⟨object, hobject, hbecomes⟩ | ⟨source, object, hobject, -, hfollows⟩ :=
    hlater.source hfound
  · exact ⟨id, object, hobject, hbecomes.toFollows⟩
  · exact ⟨source, object, hobject, hfollows⟩

theorem Kernel.Later.of_processes (hjobs : next.jobs = kernel.jobs)
    (hprocesses : next.processes = kernel.processes) : kernel.Later next where
  jobs := hjobs
  kept _ object hobject := ⟨object, hprocesses ▸ hobject, .refl kernel object⟩
  started _ _ hnone hfound := by
    rw [hprocesses, hnone] at hfound
    cases hfound

theorem Kernel.Later.of_becomes {id : Nat} {object later : ProcessObject}
    (hobject : kernel.processes id = some object) (hbecomes : Becomes kernel object later) :
    kernel.Later (kernel.setProcess id later) where
  jobs := rfl
  kept target found hfound := by
    rw [setProcess_processes, Function.update_apply]
    split
    next hid =>
      obtain rfl := Option.some.inj (hobject.symm.trans (hid ▸ hfound))
      exact ⟨later, rfl, hbecomes⟩
    next => exact ⟨found, hfound, .refl kernel found⟩
  started target found hnone hfound := by
    obtain ⟨rfl, -⟩ | ⟨-, hfound⟩ := setProcess_eq_some hfound
    · rw [hobject] at hnone
      cases hnone
    · rw [hnone] at hfound
      cases hfound

theorem Kernel.Later.of_starts {parent id : Nat} {object child : ProcessObject}
    (hobject : kernel.processes parent = some object) (hruns : object.Runs)
    (hid : kernel.processes id = none) (hchild : Follows kernel object child) :
    kernel.Later (kernel.setProcess id child) where
  jobs := rfl
  kept target found hfound := by
    have hne : target ≠ id := by
      rintro rfl
      rw [hid] at hfound
      cases hfound
    refine ⟨found, ?_, .refl kernel found⟩
    rw [setProcess_processes, Function.update_of_ne hne]
    exact hfound
  started target found hnone hfound := by
    obtain ⟨-, rfl⟩ | ⟨-, hfound⟩ := setProcess_eq_some hfound
    · exact ⟨parent, object, hobject, hruns, hchild⟩
    · rw [hnone] at hfound
      cases hfound

theorem Kernel.Later.of_killMembers (job : Nat) : kernel.Later (kernel.killMembers job) where
  jobs := rfl
  kept id object hobject := by
    refine ⟨if job ∈ object.jobs then object.ended else object, ?_, ?_⟩
    · rw [killMembers_processes, hobject]
      rfl
    · split
      · exact .ended kernel object
      · exact .refl kernel object
  started id later hnone hfound := by
    rw [killMembers_processes, hnone] at hfound
    cases hfound

theorem Kernel.Moves.later (hmoves : kernel.Moves next) : kernel.Later next := by
  cases hmoves with
  | ends hobject => exact .of_becomes hobject (.ended _ _)
  | suspends hobject => exact .of_becomes hobject (.suspensions _ _ _)
  | resumes hobject hsuspended => exact .of_becomes hobject (.suspensions _ _ _)
  | starts hobject hruns hid hchild => exact .of_starts hobject hruns hid hchild

/-! ## What a run keeps -/

/-- Every process of before is there, is ours if it was, and stays resumed once it was. -/
def Kernel.Keeps (kernel next : Kernel) : Prop :=
  ∀ id object, kernel.processes id = some object →
    ∃ later, next.processes id = some later ∧ later.ours = object.ours ∧
      (object.ownSuspension = false → later.ownSuspension = false)

theorem Kernel.Keeps.refl (kernel : Kernel) : kernel.Keeps kernel :=
  fun _ object hobject => ⟨object, hobject, rfl, id⟩

theorem Kernel.Keeps.trans {last : Kernel} (hfirst : kernel.Keeps next)
    (hsecond : next.Keeps last) : kernel.Keeps last := by
  intro id object hobject
  obtain ⟨middle, hmiddle, hours, hresumed⟩ := hfirst id object hobject
  obtain ⟨later, hlater, hstill, hstays⟩ := hsecond id middle hmiddle
  exact ⟨later, hlater, hstill.trans hours, hstays ∘ hresumed⟩

theorem Kernel.Keeps.of_processes (hprocesses : next.processes = kernel.processes) :
    kernel.Keeps next :=
  fun _ object hobject => ⟨object, hprocesses ▸ hobject, rfl, id⟩

theorem Kernel.Later.keeps (hlater : kernel.Later next) : kernel.Keeps next := by
  intro id object hobject
  obtain ⟨later, hfound, hbecomes⟩ := hlater.kept id object hobject
  exact ⟨later, hfound, hbecomes.ours, hbecomes.ownSuspension.trans⟩

theorem Kernel.Keeps.setProcess {id : Nat} {object later : ProcessObject}
    (hobject : kernel.processes id = some object) (hours : later.ours = object.ours)
    (hresumed : object.ownSuspension = false → later.ownSuspension = false) :
    kernel.Keeps (kernel.setProcess id later) := by
  intro target found hfound
  rw [setProcess_processes, Function.update_apply]
  split
  next hid =>
    obtain rfl := Option.some.inj (hobject.symm.trans (hid ▸ hfound))
    exact ⟨later, rfl, hours, hresumed⟩
  next => exact ⟨found, hfound, rfl, fun h => h⟩

theorem Kernel.Keeps.newProcess {id : Nat} (hid : kernel.processes id = none)
    (object : ProcessObject) : kernel.Keeps (kernel.setProcess id object) := by
  intro target found hfound
  have hne : target ≠ id := by
    rintro rfl
    rw [hid] at hfound
    cases hfound
  refine ⟨found, ?_, rfl, fun h => h⟩
  rw [setProcess_processes, Function.update_of_ne hne]
  exact hfound

theorem Kernel.Succeeds.keeps {call : KernelCall} {value : call.Value}
    (hsucceeds : kernel.Succeeds call value next) : kernel.Keeps next := by
  have hsame : next = kernel → kernel.Keeps next := by
    rintro rfl
    exact .refl next
  cases call with
  | createJobObject =>
      obtain ⟨id, -, -, -, rfl⟩ := hsucceeds
      exact .of_processes rfl
  | setInformationJobObject job limits =>
      obtain ⟨id, inheritable, -, rfl⟩ := hsucceeds
      exact .of_processes rfl
  | createInheritablePipe =>
      obtain ⟨read, write⟩ := value
      obtain ⟨id, -, -, -, -, -, rfl⟩ := hsucceeds
      exact .of_processes rfl
  | clearInheritFlag handle =>
      obtain ⟨entry, -, rfl⟩ := hsucceeds
      exact .of_processes rfl
  | createProcess start inherited =>
      obtain ⟨target, object, -, -, -, hfree, -, -, -, -, -, rfl⟩ := hsucceeds
      exact .newProcess hfree object
  | closeHandle handle =>
      obtain ⟨job, -, rfl⟩ | ⟨-, rfl⟩ := hsucceeds
      · exact (Keeps.of_processes rfl).trans (Later.of_killMembers job).keeps
      · exact .of_processes rfl
  | assignProcessToJobObject job process =>
      obtain ⟨id, inJob, target, inProcess, object, -, -, hobject, rfl⟩ := hsucceeds
      exact .setProcess hobject rfl fun hresumed => hresumed
  | resumeThread thread =>
      obtain ⟨target, inheritable, object, -, hobject, -, rfl⟩ := hsucceeds
      refine .setProcess hobject object.resumed_same.1 fun hresumed => ?_
      rw [ProcessObject.resumed, if_neg (Bool.eq_false_iff.mp hresumed)]
      exact hresumed
  | openProcess pid =>
      obtain ⟨target, object, -, -, -, rfl⟩ := hsucceeds
      exact .of_processes rfl
  | terminateProcess process exitCode =>
      obtain ⟨target, inheritable, object, -, hobject, rfl⟩ := hsucceeds
      exact (Later.of_becomes hobject (.ended _ _)).keeps
  | terminateJobObject job exitCode =>
      obtain ⟨id, inheritable, -, rfl⟩ := hsucceeds
      exact (Later.of_killMembers id).keeps
  | initializeAttributeList | deleteAttributeList =>
      obtain rfl := hsucceeds
      exact .of_processes rfl
  | waitForSingleObject process milliseconds =>
      cases value with
      | object0 => exact hsame hsucceeds.2
      | timeout | other status => exact hsame hsucceeds
  | getHandleInformation | queryInformationJobObject | queryJobAccounting | getProcessTimes
    | isProcessInJob | getExtendedTcpTable => exact hsame hsucceeds.2
  | attributeListSize | updateHandleList | getExitCodeProcess | now | sleep =>
      exact hsame hsucceeds

theorem Kernel.Moves.frame (hmoves : kernel.Moves next) :
    next.handles = kernel.handles ∧ next.attributeLists = kernel.attributeLists := by
  cases hmoves <;> exact ⟨rfl, rfl⟩

theorem Kernel.Answers.keeps {call : KernelCall} {reply : call.Reply}
    (hanswers : kernel.Answers call reply next) : kernel.Keeps next := by
  cases reply with
  | ok value => exact Kernel.Succeeds.keeps hanswers
  | error code =>
      obtain ⟨-, rfl⟩ := hanswers
      exact .refl _

theorem Kernel.Moves.keeps (hmoves : kernel.Moves next) : kernel.Keeps next := hmoves.later.keeps

end Frame

end WindowsKernel
