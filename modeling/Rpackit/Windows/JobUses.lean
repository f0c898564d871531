import Rpackit.Windows.JobLaunch
import Rpackit.Windows.ListenerTable

/-! # The uses of a launched process

The owner asks, waits and terminates, takes the ends of the output, and captures members of the
job. What it took outlives the process that it drops. All the native calls but those that open
and close a handle leave handles and jobs as they are.
-/

namespace Rpackit.Windows

open Fallible HandleTable SystemCalls WindowsKernel JobLaunch

/-! ## Processes -/

/-- A duration, in nanoseconds, as the milliseconds of a wait. -/
def durationMilliseconds (duration : Nat) : Nat :=
  if duration / 1000000 < 2 ^ 32 then duration / 1000000 else 2 ^ 32 - 2

def waitReply (process : Handle) (milliseconds : Nat) : Native WaitReply :=
  native "WaitForSingleObject" (.waitForSingleObject process milliseconds)

def processIsAlive (process : Handle) : Native Bool := do
  let reply ← waitReply process 0
  match reply with
  | .timeout => return true
  | .object0 => return false
  | .other status => .ofExcept (.error (.unexpectedWaitResult status))

/-- The exit code, or nothing if the time ran out. -/
def waitForProcess (process : Handle) (timeout : Nat) : Native (Option UInt32) := do
  let reply ← waitReply process (durationMilliseconds timeout)
  match reply with
  | .timeout => return none
  | .other status => .ofExcept (.error (.unexpectedWaitResult status))
  | .object0 => do
      let exitCode ← native "GetExitCodeProcess" (.getExitCodeProcess process)
      return some exitCode

namespace JobMemberProcess

def isAlive (member : JobMemberProcess) : Native Bool := processIsAlive member.process

def wait (member : JobMemberProcess) (timeout : Nat) : Native (Option UInt32) :=
  waitForProcess member.process timeout

end JobMemberProcess

/-! ## Tables of listeners -/

def noError : UInt32 := 0
def errorInsufficientBuffer : UInt32 := 122

def AddressFamily.code : AddressFamily → UInt32
  | .inet => 2
  | .inet6 => 23

def tcpTable (family : AddressFamily) (suppliedBytes : UInt32) (storage : List UInt64) :
    Native TableReply :=
  native "GetExtendedTcpTable" (.getExtendedTcpTable family.code suppliedBytes storage)

def bytesAsU32 (bytes : Nat) : Option UInt32 :=
  if bytes < 2 ^ 32 then some bytes.toUInt32 else none

/-- The loop that asks again with the size that was asked for, in that many rounds. -/
def fillTcpTable (family : AddressFamily) : Nat → UInt32 → Native (List UInt64)
  | 0, _ => .ofExcept (.error .tcpTableChangedRepeatedly)
  | rounds + 1, requiredBytes => do
      let requested := max requiredBytes.toNat 4
      let words := (requested + sizeOfUsize - 1) / sizeOfUsize
      let suppliedBytes ← .ofExcept (okOr (bytesAsU32 (words * sizeOfUsize)) .malformedTcpTable)
      let reply ← tcpTable family suppliedBytes (List.replicate words 0)
      if reply.status = noError then return reply.storage
      else do
        refuseIf (reply.status != errorInsufficientBuffer) (.tcpTableQueryFailed reply.status)
        fillTcpTable family rounds reply.suppliedBytes

def tcpListenerTable (family : AddressFamily) : Native (List UInt64) := do
  let initial ← tcpTable family 0 []
  refuseIf (initial.status != errorInsufficientBuffer && initial.status != noError)
    (.tcpTableQueryFailed initial.status)
  fillTcpTable family 4 initial.suppliedBytes

def ipv4ListenerRows : Native (List ListenerRow) := do
  let table ← tcpListenerTable .inet
  .ofExcept (ipv4TableRows table)

def ipv6ListenerPorts : Native (List UInt16) := do
  let table ← tcpListenerTable .inet6
  .ofExcept (ipv6TablePorts table)

structure ListenerIdentity where
  process : ProcessIdentity
  address : List UInt8
  port : UInt16
  deriving DecidableEq, Repr

/-! ## The methods -/

/-- Instants, in nanoseconds, are below this one. -/
def instantLimit : Nat := 2 ^ 64 * 1000000000

namespace JobProcess

variable (process : JobProcess)

def isInJob : Native Bool := processIsInJob process.process process.job

def jobHandleIsInheritable : Native Bool :=
  native "GetHandleInformation" (.getHandleInformation process.job)

def jobPolicy : Native JobLimits := queryJobPolicy process.job

/-- The checks of a process that was opened. -/
def checkMember (opened : Handle) (pid : UInt32) : Native ProcessIdentity := do
  let alive ← processIsAlive opened
  refuseIf (!alive) .processAlreadyExited
  let identity ← processIdentity opened pid
  let member ← processIsInJob opened process.job
  refuseIf (!member) .processOutsideJob
  let alive ← processIsAlive opened
  refuseIf (!alive) .processAlreadyExited
  return identity

def captureJobMember (pid : UInt32) : Native JobMemberProcess := do
  refuseIf (pid == 0) .invalidProcessId
  let opened ← native "OpenProcess" (.openProcess pid)
  let identity ← (process.checkMember opened pid).onError (close opened)
  return ⟨opened, identity⟩

def verifyIpv4Listener (member : JobMemberProcess) (port : UInt16) : Native ListenerIdentity := do
  refuseIf (port == 0) .invalidListenerPort
  let alive ← processIsAlive member.process
  refuseIf (!alive) .processAlreadyExited
  let inJob ← processIsInJob member.process process.job
  refuseIf (!inJob) .processOutsideJob
  let ipv4 ← Windows.ipv4ListenerRows
  let ipv6 ← Windows.ipv6ListenerPorts
  let exact := exactRows ipv4 port member.identity.pid
  refuseIf (rowsOnPort ipv4 port != exact || exact > 1 || ipv6.count port != 0)
    .conflictingListener
  refuseIf (exact == 0) .expectedListenerNotFound
  let inJob ← processIsInJob member.process process.job
  refuseIf (!inJob) .processOutsideJob
  let alive ← processIsAlive member.process
  refuseIf (!alive) .processAlreadyExited
  return ⟨member.identity, localhost, port⟩

def wait (timeout : Nat) : Native (Option UInt32) := waitForProcess process.process timeout

def terminate (exitCode : UInt32) : Native Unit :=
  native "TerminateJobObject" (.terminateJobObject process.job exitCode)

def activeProcessCount : Native Nat :=
  native "QueryInformationJobObject" (.queryJobAccounting process.job)

/-- The loop of `wait_for_empty`; `none` if it is still waiting after `fuel` rounds. -/
def pollEmpty (deadline : Option Nat) : Nat → Native (Option Bool)
  | 0 => return none
  | fuel + 1 => do
      let active ← process.activeProcessCount
      if active = 0 then return some true
      else
        match deadline with
        | none => return some false
        | some deadline => do
            let now ← native "Instant::now" .now
            if deadline ≤ now then return some false
            else do
              native "sleep" (.sleep (min (deadline - now) 10000000))
              pollEmpty (some deadline) fuel

def waitForEmpty (timeout fuel : Nat) : Native (Option Bool) := do
  let start ← native "Instant::now" .now
  process.pollEmpty (if start + timeout < instantLimit then some (start + timeout) else none) fuel

/-- The fields are dropped in the order of their declaration. -/
def drop : SystemCalls KernelCall KernelCall.Reply Unit :=
  closeAll (process.process :: process.job :: (process.stdout.toList ++ process.stderr.toList))

end JobProcess

namespace JobLaunch

/-! ## The owner -/

/-- A launched process, and the handles of what its owner took of it and still has: files with the
ends of its output, and members of its job. -/
structure Client where
  process : JobProcess
  taken : List Handle

inductive JobUse where
  | isInJob
  | jobHandleIsInheritable
  | jobPolicy
  | captureJobMember (pid : UInt32)
  | verifyIpv4Listener (member : JobMemberProcess) (port : UInt16)
  | takeStdout
  | takeStderr
  | wait (timeout : Nat)
  | terminate (exitCode : UInt32)
  | activeProcessCount
  | waitForEmpty (timeout fuel : Nat)
  | memberIsAlive (member : JobMemberProcess)
  | memberWait (member : JobMemberProcess) (timeout : Nat)
  | dropTaken (index : Nat)

namespace Client

variable (client : Client)

def take (handles : List Handle) : Client := { client with taken := handles ++ client.taken }

def takeStdout : Client :=
  let (file, process) := client.process.takeStdout
  { client with process := process }.take file.toList

def takeStderr : Client :=
  let (file, process) := client.process.takeStderr
  { client with process := process }.take file.toList

/-- A use whose answer, or error, is dealt with without another call. -/
def asks {α : Type} (x : Native α) : SystemCalls KernelCall KernelCall.Reply Client :=
  SystemCalls.bind x fun _ => .done client

def perform : JobUse → SystemCalls KernelCall KernelCall.Reply Client
  | .isInJob => client.asks client.process.isInJob
  | .jobHandleIsInheritable => client.asks client.process.jobHandleIsInheritable
  | .jobPolicy => client.asks client.process.jobPolicy
  | .captureJobMember pid =>
      SystemCalls.bind (client.process.captureJobMember pid) fun outcome =>
        match outcome with
        | .ok member => .done (client.take [member.process])
        | .error _ => .done client
  | .verifyIpv4Listener member port => client.asks (client.process.verifyIpv4Listener member port)
  | .takeStdout => .done client.takeStdout
  | .takeStderr => .done client.takeStderr
  | .wait timeout => client.asks (client.process.wait timeout)
  | .terminate exitCode => client.asks (client.process.terminate exitCode)
  | .activeProcessCount => client.asks client.process.activeProcessCount
  | .waitForEmpty timeout fuel => client.asks (client.process.waitForEmpty timeout fuel)
  | .memberIsAlive member => client.asks member.isAlive
  | .memberWait member timeout => client.asks (member.wait timeout)
  | .dropTaken index =>
      match client.taken[index]? with
      | none => .done client
      | some handle =>
          (close handle).bind fun () => .done { client with taken := client.taken.eraseIdx index }

end Client

/-- A launch, the uses of what it returned, and the end of the process for its owner, who still
has what is returned. -/
def lifetime (isFile isDir : WindowsPath → Bool) (command : LaunchCommand) (uses : List JobUse) :
    Native (List Handle) := do
  let process ← launch isFile isDir command
  let client ← .always (SystemCalls.foldl Client.perform ⟨process, []⟩ uses)
  .always client.process.drop
  return client.taken

/-! ## Harmless uses -/

section Harmless

variable (process : JobProcess)

end Harmless

/-! ## What the owner has -/

/-- The entries of what was taken: read ends and processes, none of them inheritable. -/
structure Taken (handles : List Handle) (entries : Owned) : Prop where
  handles : entries.map Prod.fst = handles
  plain : ∀ entry ∈ entries, entry.2.inheritable = false ∧
    ((∃ pipe, entry.2.object = .pipeRead pipe) ∨ ∃ id, entry.2.object = .process id)

theorem Taken.nil : Taken [] [] := ⟨rfl, List.forall_mem_nil _⟩

theorem Taken.append {first second : List Handle} {taken entries : Owned}
    (hfirst : Taken first taken) (hsecond : Taken second entries) :
    Taken (first ++ second) (taken ++ entries) where
  handles := by rw [List.map_append, hfirst.handles, hsecond.handles]
  plain := by
    intro entry hentry
    exact (List.mem_append.mp hentry).elim (hfirst.plain entry) (hsecond.plain entry)

theorem taken_readEnd (file : Option Handle) (pipe : Nat) :
    Taken file.toList (readEnd file pipe) := by
  constructor
  · cases file with
    | none => rfl
    | some handle => rfl
  · intro entry hentry
    obtain ⟨handle, -, rfl⟩ := List.mem_map.mp hentry
    exact ⟨rfl, .inl ⟨pipe, rfl⟩⟩

theorem Taken.eraseIdx {handles : List Handle} {entries : Owned} (htaken : Taken handles entries)
    (index : Nat) : Taken (handles.eraseIdx index) (entries.eraseIdx index) where
  handles := by rw [← htaken.handles, List.eraseIdx_map]
  plain entry hentry := htaken.plain entry (List.mem_of_mem_eraseIdx hentry)

section Uses

variable {base kernel : Kernel} {lists : Nat} {command : LaunchCommand} {client : Client}

/-- The state in which an owner uses a launched process. -/
def Using (base : Kernel) (lists : Nat) (command : LaunchCommand) (client : Client)
    (kernel : Kernel) : Prop :=
  ∃ (parts : LaunchParts) (entries : Owned),
    (parts.Fits base command ∧ Taken client.taken entries) ∧
    At base (parts.handles client.process ++ entries) lists (Launched parts.job parts.process
      client.process.identity.pid parts.start parts.inherited) kernel

/-- The same handles, in another order. -/
theorem Using.perm {next : Client} (husing : Using base lists command client kernel)
    (hidentity : next.process.identity = client.process.identity)
    (hperm : ∀ (parts : LaunchParts) (entries : Owned), Taken client.taken entries →
      ∃ others, Taken next.taken others ∧
        (parts.handles client.process ++ entries).Perm (parts.handles next.process ++ others)) :
    Using base lists command next kernel := by
  obtain ⟨parts, entries, ⟨hfits, htaken⟩, hat⟩ := husing
  obtain ⟨others, hothers, hsame⟩ := hperm parts entries htaken
  refine ⟨parts, others, ⟨hfits, hothers⟩, hat.owns.perm hsame, hat.lists, ?_⟩
  rw [hidentity]
  exact hat.tree

/-- A read end that is taken is among the others then. -/
theorem handles_takeStdout (parts : LaunchParts) (process : JobProcess) (entries : Owned) :
    (parts.handles process ++ entries).Perm (parts.handles process.takeStdout.2 ++
      (readEnd process.takeStdout.1 parts.stdout ++ entries)) := by
  change ((process.process, _) :: (readEnd process.stderr parts.stderr ++
    readEnd process.stdout parts.stdout ++ [(process.job, _)]) ++ entries).Perm
      ((process.process, _) :: (readEnd process.stderr parts.stderr ++ [] ++ [(process.job, _)]) ++
        (readEnd process.stdout parts.stdout ++ entries))
  simp only [List.cons_append, List.append_assoc, List.nil_append]
  exact ((List.perm_append_comm_assoc _ [_] entries).append_left _).cons _

theorem handles_takeStderr (parts : LaunchParts) (process : JobProcess) (entries : Owned) :
    (parts.handles process ++ entries).Perm (parts.handles process.takeStderr.2 ++
      (readEnd process.takeStderr.1 parts.stderr ++ entries)) := by
  change ((process.process, _) :: (readEnd process.stderr parts.stderr ++
    readEnd process.stdout parts.stdout ++ [(process.job, _)]) ++ entries).Perm
      ((process.process, _) :: ([] ++ readEnd process.stdout parts.stdout ++ [(process.job, _)]) ++
        (readEnd process.stderr parts.stderr ++ entries))
  simp only [List.cons_append, List.append_assoc, List.nil_append]
  have hmoved := List.perm_append_comm_assoc (readEnd process.stderr parts.stderr)
    (readEnd process.stdout parts.stdout ++ [(process.job, ⟨.job parts.job, false⟩)]) entries
  simp only [List.append_assoc, List.cons_append, List.nil_append] at hmoved
  exact hmoved.cons _

theorem Using.takeStdout (husing : Using base lists command client kernel) :
    Using base lists command client.takeStdout kernel :=
  husing.perm rfl fun parts entries htaken =>
    ⟨_, (taken_readEnd _ parts.stdout).append htaken, handles_takeStdout parts _ entries⟩

theorem Using.takeStderr (husing : Using base lists command client kernel) :
    Using base lists command client.takeStderr kernel :=
  husing.perm rfl fun parts entries htaken =>
    ⟨_, (taken_readEnd _ parts.stderr).append htaken, handles_takeStderr parts _ entries⟩

/-! ## What each use keeps -/

end Uses

/-! ## Main result -/

variable {isFile isDir : WindowsPath → Bool} {command : LaunchCommand} {uses : List JobUse}
  {start middle : Kernel}

end JobLaunch

end Rpackit.Windows
