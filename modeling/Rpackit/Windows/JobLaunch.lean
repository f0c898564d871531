import Rpackit.Library.KernelRules
import Rpackit.Windows.Environment

/-! # The launch of a process in its own job

The process is created suspended, with three pipe ends and nothing else to inherit. It is
resumed once it is in a job that ends with its last handle and lets nobody out. Every error
closes what was opened, in the order in which the locals of the function are dropped.
-/

namespace Rpackit.Windows.JobLaunch

open Fallible HandleTable SystemCalls WindowsKernel

abbrev Native (α : Type) : Type := FallibleCalls KernelCall KernelCall.Reply LaunchError α

def native (operation : String) (call : KernelCall) : Native call.Value :=
  request call fun code => .windowsApi operation code.toNat

def refuseIf (condition : Bool) (error : LaunchError) : Native Unit :=
  .ofExcept (rejectIf condition error)

def internalFailureExitCode : UInt32 := 0x52504B49

/-! ## The job -/

def queryJobPolicy (job : Handle) : Native JobLimits :=
  native "QueryInformationJobObject" (.queryInformationJobObject job)

def createKillOnCloseJob : Native Handle := do
  let job ← native "CreateJobObjectW" .createJobObject
  FallibleCalls.onError (do
    native "SetInformationJobObject" (.setInformationJobObject job ⟨true, false, false⟩)
    let inheritable ← native "GetHandleInformation" (.getHandleInformation job)
    refuseIf inheritable .inheritableJobHandle
    let policy ← queryJobPolicy job
    refuseIf (policy != ⟨true, false, false⟩) .unexpectedJobPolicy
    return job) (closeAll [job])

/-! ## The pipes -/

def inheritablePipe : Native (Handle × Handle) := native "CreatePipe" .createInheritablePipe

def clearInheritFlag (handle : Handle) : Native Unit :=
  native "SetHandleInformation" (.clearInheritFlag handle)

def outputPipe : Native (Handle × Handle) := do
  let (read, write) ← inheritablePipe
  (clearInheritFlag read).onError (closeAll [write, read])
  return (read, write)

def closedStdinPipe : Native Handle := do
  let (read, write) ← inheritablePipe
  (clearInheritFlag write).onError (closeAll [write, read])
  .always (close write)
  return read

/-! ## The attribute list -/

def withHandleList (handles : List Handle) : Native Unit := do
  let (requiredBytes, lastError) ←
    native "InitializeProcThreadAttributeList(size)" .attributeListSize
  refuseIf (requiredBytes == 0)
    (.windowsApi "InitializeProcThreadAttributeList(size)" lastError.toNat)
  native "InitializeProcThreadAttributeList" .initializeAttributeList
  (native "UpdateProcThreadAttribute" (.updateHandleList handles)).onError
    (attempt .deleteAttributeList)

/-! ## The process -/

def nulTerminatedWide (value : OsString) (field : String) : Except LaunchError OsString := do
  rejectIf (value.contains 0) (.interiorNul field)
  return value ++ [0]

/-- Without an environment of its own the process inherits that of its parent. -/
def encodedEnvironment : Option LaunchEnvironment → Except LaunchError (Option OsString)
  | none => return none
  | some environment => do
      let block ← environment.encodedBlock
      return some block

def processStart (command : LaunchCommand) (standardHandles : List Handle) :
    Except LaunchError ProcessStart := do
  let program ← nulTerminatedWide command.program.asOsString "program path"
  let currentDirectory ← nulTerminatedWide command.currentDirectory.asOsString "current directory"
  let commandLine ← buildCommandLine command.program.asOsString command.arguments
  let environmentBlock ← encodedEnvironment command.environment
  return {
    applicationName := program
    commandLine := commandLine
    environment := environmentBlock
    currentDirectory := currentDirectory
    standardHandles := standardHandles
    suspended := true }

def processIdentity (process : Handle) (pid : UInt32) : Native ProcessIdentity := do
  let creationTime ← native "GetProcessTimes" (.getProcessTimes process)
  return ⟨pid, creationTime⟩

def processIsInJob (process job : Handle) : Native Bool :=
  native "IsProcessInJob" (.isProcessInJob process job)

/-- Its errors are ignored. -/
def terminateSuspendedProcess (process : Handle) : SystemCalls KernelCall KernelCall.Reply Unit :=
  forEach attempt
    [.terminateProcess process internalFailureExitCode, .waitForSingleObject process 5000]

def terminateAssignedJob (job : Handle) : SystemCalls KernelCall KernelCall.Reply Unit :=
  attempt (.terminateJobObject job internalFailureExitCode)

/-! ## The launch -/

/-- What comes after the creation, up to the first instruction of the process. -/
def assignAndResume (job : Handle) (information : ProcessInformation) :
    Native ProcessIdentity := do
  (native "AssignProcessToJobObject"
    (.assignProcessToJobObject job information.process)).onError
      (terminateSuspendedProcess information.process)
  let identity ← (processIdentity information.process information.processId).onError
    (terminateAssignedJob job)
  let member ← processIsInJob information.process job
  (refuseIf (!member) .jobMembershipNotEstablished).onError (terminateAssignedJob job)
  let previous ← (native "ResumeThread" (.resumeThread information.thread)).onError
    (terminateAssignedJob job)
  (refuseIf (previous != 1) (.unexpectedSuspendCount previous)).onError
    (terminateAssignedJob job)
  return identity

def launch (isFile isDir : WindowsPath → Bool) (command : LaunchCommand) : Native JobProcess := do
  .ofExcept (validateCommand isFile isDir command)
  let job ← createKillOnCloseJob
  let (stdoutParent, stdoutChild) ← outputPipe.onError (closeAll [job])
  let (stderrParent, stderrChild) ← outputPipe.onError (closeAll [stdoutChild, stdoutParent, job])
  let stdinChild ← closedStdinPipe.onError
    (closeAll [stderrChild, stderrParent, stdoutChild, stdoutParent, job])
  let inherited := [stdinChild, stdoutChild, stderrChild]
  let opened := [stdinChild, stderrChild, stderrParent, stdoutChild, stdoutParent, job]
  (withHandleList inherited).onError (closeAll opened)
  let information ← FallibleCalls.onError (do
    let start ← .ofExcept (processStart command inherited)
    native "CreateProcessW" (.createProcess start inherited))
      ((attempt .deleteAttributeList).bind fun () => closeAll opened)
  .always (closeAll inherited)
  .always (attempt .deleteAttributeList)
  let identity ← (assignAndResume job information).onError
    (closeAll [information.thread, information.process, stderrParent, stdoutParent, job])
  .always (close information.thread)
  return ⟨information.process, job, some stdoutParent, some stderrParent, identity⟩

/-! ## What each part opens and leaves behind -/

section Parts

variable {base kernel : Kernel} {owned rest : Owned} {lists : Nat} {Tree : Kernel → Prop}

/-- The specification of a part: what holds after it, with a value and with an error. -/
abbrev Spec {α : Type} (x : Native α) (kernel : Kernel) (Ok : α → Kernel → Prop)
    (Fail : Kernel → Prop) : Prop :=
  x.Ensures kernelSystem Kernel.Contained kernel Ok Fail

theorem spec_refuseIf {condition : Bool} {error : LaunchError} {Inv : Kernel → Prop}
    (hinv : Holds Inv) (hstate : Inv kernel) :
    Spec (refuseIf condition error) kernel (fun _ stop => condition = false ∧ Inv stop) Inv :=
  .ofExcept hinv hstate (fun _ hok _ hstop => ⟨rejectIf_eq_ok_iff.mp hok, hstop⟩) fun _ => id

/-- The two ends of a new pipe, of which `base` knows nothing. -/
def Piped (base : Kernel) (owned : Owned) (lists : Nat) (Tree : Kernel → Prop)
    (ends : Nat → Owned) (kernel : Kernel) : Prop :=
  ∃ id, (base.Lacks (.pipeRead id) ∧ base.Lacks (.pipeWrite id)) ∧
    At base (ends id ++ owned) lists Tree kernel

theorem holds_piped (hcalm : Calm Tree) {ends : Nat → Owned} :
    Holds (Piped base owned lists Tree ends) :=
  .exists fun _ => .and fun _ => hcalm.holds

theorem spec_inheritablePipe (hcalm : Calm Tree) (hat : At base rest lists Tree kernel) :
    Spec inheritablePipe kernel
      (fun pipe => Piped base rest lists Tree fun id =>
        [(pipe.2, ⟨.pipeWrite id, true⟩), (pipe.1, ⟨.pipeRead id, true⟩)])
      (At base rest lists Tree) := by
  refine ensures_request hcalm.holds (fun _ => holds_piped hcalm) hcalm.holds hat ?_ fun _ => id
  rintro before ⟨read, write⟩ next hbefore ⟨id, hread, hwrite, hne, hreads, hwrites, rfl⟩
  refine ⟨id, ⟨hbefore.base_lacks hreads.1, hbefore.base_lacks hwrites.1⟩, ?_, hbefore.lists,
    hcalm.robust _ _ hbefore.tree (.of_processes rfl rfl)⟩
  refine (hbefore.owns.open hread _).open ?_ _
  exact (Function.update_of_ne hne.symm ..).trans hwrite

theorem spec_clearInheritFlag {handle : Handle} {entry : HandleEntry} {cleared : Owned}
    (hcalm : Calm Tree) (hin : owned.Perm ((handle, entry) :: rest))
    (hout : ((handle, ⟨entry.object, false⟩) :: rest).Perm cleared)
    (hat : At base owned lists Tree kernel) :
    Spec (clearInheritFlag handle) kernel (fun _ => At base cleared lists Tree)
      (At base owned lists Tree) := by
  refine ensures_request hcalm.holds (fun _ => hcalm.holds) hcalm.holds hat ?_ fun _ => id
  rintro before _ next hbefore ⟨found, hfound, rfl⟩
  have howns := hbefore.owns.perm hin
  obtain rfl := Option.some.inj ((howns.held _ List.mem_cons_self).symm.trans hfound)
  exact ⟨(howns.replace _).perm hout, hbefore.lists,
    hcalm.robust _ _ hbefore.tree (.of_processes rfl rfl)⟩

theorem ensures_closeAll_calm (owned : Owned) (hcalm : Calm Tree)
    (hat : At base (owned ++ rest) lists Tree kernel) :
    (closeAll (owned.map Prod.fst)).Ensures kernelSystem Kernel.Contained kernel
      fun _ => At base rest lists Tree :=
  ensures_closeAll hcalm.robust (fun _ _ => hcalm.holds) hat

theorem spec_outputPipe (hcalm : Calm Tree) (hat : At base rest lists Tree kernel) :
    Spec outputPipe kernel
      (fun pipe => Piped base rest lists Tree fun id =>
        [(pipe.2, ⟨.pipeWrite id, true⟩), (pipe.1, ⟨.pipeRead id, false⟩)])
      (At base rest lists Tree) := by
  refine .bind hcalm.holds (spec_inheritablePipe hcalm hat) ?_
  rintro ⟨read, write⟩ middle ⟨id, hlacks, hmiddle⟩
  have hclear := spec_clearInheritFlag hcalm (.swap ..) (.swap ..) hmiddle
  refine .bind hcalm.holds (hclear.onError (fun _ => hcalm.holds) hcalm.holds fun later hlater =>
    ensures_closeAll_calm [_, _] hcalm hlater) ?_
  exact fun _ later hlater => .pure hcalm.holds hlater fun _ hstop => ⟨id, hlacks, hstop⟩

theorem spec_closedStdinPipe (hcalm : Calm Tree) (hat : At base rest lists Tree kernel) :
    Spec closedStdinPipe kernel
      (fun read => Piped base rest lists Tree fun id => [(read, ⟨.pipeRead id, true⟩)])
      (At base rest lists Tree) := by
  refine .bind hcalm.holds (spec_inheritablePipe hcalm hat) ?_
  rintro ⟨read, write⟩ middle ⟨id, hlacks, hmiddle⟩
  have hclear := spec_clearInheritFlag hcalm (.refl _) (.refl _) hmiddle
  refine .bind hcalm.holds (hclear.onError (fun _ => hcalm.holds) hcalm.holds fun later hlater =>
    ensures_closeAll_calm [_, _] hcalm hlater) fun _ later hlater => ?_
  have hclose := ensures_close (.refl _) hcalm.holds hcalm.holds hcalm.robust hlater
  refine .bind hcalm.holds (.always (fun _ => hcalm.holds) hclose) ?_
  exact fun _ last hlast => .pure hcalm.holds hlast fun _ hstop => ⟨id, hlacks, hstop⟩

theorem spec_withHandleList (hcalm : Calm Tree) {handles : List Handle}
    (hat : At base rest lists Tree kernel) :
    Spec (withHandleList handles) kernel (fun _ => At base rest (lists + 1) Tree)
      (At base rest lists Tree) := by
  refine .bind hcalm.holds (ensures_request_harmless hcalm.holds hcalm.robust rfl hat) ?_
  rintro ⟨requiredBytes, lastError⟩ sized hsized
  refine .bind hcalm.holds (spec_refuseIf hcalm.holds hsized) fun _ checked hchecked => ?_
  have hinitialize : Spec (native "InitializeProcThreadAttributeList" .initializeAttributeList)
      checked (fun _ => At base rest (lists + 1) Tree) (At base rest lists Tree) := by
    refine ensures_request hcalm.holds (fun _ => hcalm.holds) hcalm.holds hchecked.2 ?_ fun _ => id
    rintro before _ next hbefore rfl
    exact ⟨hbefore.owns, congrArg (· + 1) hbefore.lists,
      hcalm.robust _ _ hbefore.tree (.of_processes rfl rfl)⟩
  refine .bind hcalm.holds hinitialize fun _ initialized hinitialized => ?_
  refine (ensures_request_harmless hcalm.holds hcalm.robust rfl hinitialized).onError
    (fun _ => hcalm.holds) hcalm.holds fun failed hfailed => ?_
  exact ensures_deleteAttributeList hcalm hfailed

/-- No process of ours yet, and a job with these limits that nobody else has a handle of. -/
def Ready (job : Nat) (limits : JobLimits) (kernel : Kernel) : Prop :=
  kernel.NoneOurs ∧ kernel.jobs job = some limits ∧ kernel.Unheld job

theorem calm_ready (job : Nat) (limits : JobLimits) : Calm (Ready job limits) :=
  calm_noneOurs.and (robust_limits.and robust_unheld)

theorem spec_createKillOnCloseJob (hat : At base [] lists Kernel.NoneOurs kernel) :
    Spec createKillOnCloseJob kernel
      (fun job stop => ∃ id, base.Lacks (.job id) ∧
        At base [(job, ⟨.job id, false⟩)] lists (Ready id .strict) stop)
      (At base [] lists Kernel.NoneOurs) := by
  have hcreate : Spec (native "CreateJobObjectW" .createJobObject) kernel
      (fun job stop => ∃ id, base.Lacks (.job id) ∧
        At base [(job, ⟨.job id, false⟩)] lists (Ready id .none) stop)
      (At base [] lists Kernel.NoneOurs) := by
    refine ensures_request calm_noneOurs.holds
      (fun _ => .exists fun id => .and fun _ => (calm_ready id .none).holds) calm_noneOurs.holds hat
      ?_ fun _ => id
    rintro before job next hbefore ⟨id, hjob, -, hunreferenced, rfl⟩
    exact ⟨id, hbefore.base_lacks hunreferenced.1, hbefore.owns.open hjob _, hbefore.lists,
      hbefore.tree, Function.update_self .., hunreferenced.2⟩
  refine .bind calm_noneOurs.holds hcreate ?_
  rintro job created ⟨id, hlacks, hcreated⟩
  have hcalm : Calm (Ready id .strict) := calm_ready id .strict
  have hweaker : ∀ limits stop, At base [(job, ⟨.job id, false⟩)] lists (Ready id limits) stop →
      At base [(job, ⟨.job id, false⟩)] lists Kernel.NoneOurs stop :=
    fun limits stop hstop => hstop.mono fun htree => htree.1
  have hset : Spec (native "SetInformationJobObject" (.setInformationJobObject job
      ⟨true, false, false⟩)) created (fun _ => At base [(job, ⟨.job id, false⟩)] lists
        (Ready id .strict)) (At base [(job, ⟨.job id, false⟩)] lists Kernel.NoneOurs) := by
    refine ensures_request (calm_ready id .none).holds (fun _ => hcalm.holds) calm_noneOurs.holds
      hcreated ?_ (hweaker .none)
    rintro before _ next hbefore ⟨target, inheritable, htarget, rfl⟩
    have hheld := hbefore.owns.held _ List.mem_cons_self
    obtain ⟨hsame, -⟩ := HandleEntry.mk.inj (Option.some.inj (hheld.symm.trans htarget))
    obtain rfl := KernelObject.job.inj hsame
    exact ⟨hbefore.owns, hbefore.lists, hbefore.tree.1, Function.update_self .., hbefore.tree.2.2⟩
  refine FallibleCalls.Ensures.onError
    (fun _ => .exists fun _ => .and fun _ => (calm_ready _ .strict).holds) calm_noneOurs.holds ?_
    fun failed (hfailed : At base [(job, ⟨.job id, false⟩)] lists Kernel.NoneOurs failed) =>
      ensures_closeAll_calm [_] calm_noneOurs hfailed
  refine .bind calm_noneOurs.holds hset fun _ limited hlimited => ?_
  refine .weaken ?_ (fun _ _ hok => ⟨id, hlacks, hok⟩) (hweaker .strict)
  refine .bind hcalm.holds (ensures_request_harmless hcalm.holds hcalm.robust rfl hlimited)
    fun inheritable read hread => ?_
  refine .bind hcalm.holds (spec_refuseIf hcalm.holds hread) fun _ checked hchecked => ?_
  refine .bind hcalm.holds (ensures_request_harmless hcalm.holds hcalm.robust rfl hchecked.2)
    fun policy queried hqueried => ?_
  refine .bind hcalm.holds (spec_refuseIf hcalm.holds hqueried) fun _ last hlast => ?_
  exact .pure hcalm.holds hlast.2 fun _ hstop => hstop

/-- The process was created, and nothing has resumed it. -/
def Made (job target : Nat) (pid : UInt32) (start : ProcessStart) (objects : List KernelObject)
    (kernel : Kernel) : Prop :=
  kernel.OnlySuspended target ∧ (kernel.jobs job = some .strict ∧ kernel.Unheld job) ∧
    kernel.Created target pid start objects

/-- The process is in the job, and so are all that descend from it. -/
def Launched (job target : Nat) (pid : UInt32) (start : ProcessStart)
    (objects : List KernelObject) (kernel : Kernel) : Prop :=
  kernel.Confined job ∧ kernel.Created target pid start objects

/-- What an error after the creation leaves, until the handles are closed. -/
def Ending (job : Nat) (kernel : Kernel) : Prop := kernel.LivingSuspended ∨ kernel.Confined job

section Creation

variable {job target : Nat} {pid : UInt32} {start : ProcessStart} {objects : List KernelObject}
  {handle : Handle} {information : ProcessInformation}

theorem calm_made : Calm (Made job target pid start objects) :=
  ⟨robust_onlySuspended.and ((robust_limits.and robust_unheld).and robust_created),
    fun _ hmade => hmade.1.livingSuspended⟩

theorem robust_launched : Robust (Launched job target pid start objects) :=
  robust_confined.and robust_created

theorem robust_ending : Robust (Ending job) := by
  rintro kernel next (hnever | hconfined) hlater
  · exact .inl (robust_livingSuspended kernel next hnever hlater)
  · exact .inr (robust_confined kernel next hconfined hlater)

theorem holds_launched (hlast : LastHandle base owned handle job) :
    Holds (At base owned lists (Launched job target pid start objects)) :=
  holds_at_of_confined hlast robust_launched fun _ hlaunched => hlaunched.1

theorem holds_ending (hlast : LastHandle base owned handle job) :
    Holds (At base owned lists (Ending job)) := by
  refine holds_at robust_ending fun kernel hat => ?_
  obtain hnever | hconfined := hat.tree
  · exact hnever.idle.contained
  · exact (holds_at_of_confined hlast robust_confined fun _ => id).safe kernel
      (hat.mono fun _ => hconfined)

/-- The handles of the new process, besides those that were open. -/
def processHandles (information : ProcessInformation) (target : Nat) : Owned :=
  [(information.thread, ⟨.thread target, false⟩),
    (information.process, ⟨.process target, false⟩)]

theorem spec_createProcess {inherited : List Handle} (hsuspended : start.suspended = true)
    (hinherited : ∀ before, At base owned lists (Ready job .strict) before →
      inherited.map before.handles = objects.map fun held => some ⟨held, true⟩)
    (hjob : .job job ∉ objects) (hat : At base owned lists (Ready job .strict) kernel) :
    Spec (native "CreateProcessW" (.createProcess start inherited)) kernel
      (fun information stop => ∃ target, At base (processHandles information target ++ owned) lists
        (Made job target information.processId start objects) stop)
      (At base owned lists (Ready job .strict)) := by
  refine ensures_request (calm_ready job .strict).holds (fun _ => .exists fun _ => calm_made.holds)
    (calm_ready job .strict).holds hat ?_ fun _ => id
  rintro before information next hbefore ⟨target, object, hprocess, hthread, hne, hfree, hpid, rfl,
    hholds, hown, hours, rfl⟩
  obtain ⟨hnone, hlimits, hunheld⟩ := hbefore.tree
  have hobjects : object.holds = objects := by
    refine List.map_injective_iff.mpr ?_ (hholds.symm.trans (hinherited before hbefore))
    intro first second hsame
    exact (HandleEntry.mk.inj (Option.some.inj hsame)).1
  refine ⟨target, (hbefore.owns.open hprocess _).open ?_ _, hbefore.lists,
    ⟨?_, ⟨hlimits, ?_⟩, ?_⟩⟩
  · exact (Function.update_of_ne hne.symm ..).trans hthread
  · intro id found hfound hfoundOurs
    obtain ⟨rfl, rfl⟩ | ⟨-, hold⟩ := Kernel.setProcess_eq_some hfound
    · exact ⟨rfl, hown.trans hsuspended⟩
    · exact absurd ((hnone id found hold).symm.trans hfoundOurs) (by decide)
  · intro id found hfound
    obtain ⟨rfl, rfl⟩ | ⟨-, hold⟩ := Kernel.setProcess_eq_some hfound
    · exact hobjects ▸ hjob
    · exact hunheld id found hold
  · exact ⟨object, Function.update_self .., hours, hpid, rfl, hobjects⟩

/-- The assignment to the job, while nothing has resumed the process. -/
theorem spec_assign {process : Handle} (hlast : LastHandle base owned handle job)
    (hprocess : (process, ⟨.process target, false⟩) ∈ owned)
    (hat : At base owned lists (Made job target pid start objects) kernel) :
    Spec (native "AssignProcessToJobObject" (.assignProcessToJobObject handle process)) kernel
      (fun _ => At base owned lists (Launched job target pid start objects))
      (At base owned lists (Made job target pid start objects)) := by
  refine ensures_request calm_made.holds (fun _ => holds_launched hlast) calm_made.holds hat ?_
    fun _ => id
  rintro before _ next hbefore ⟨id, inJob, found, inProcess, object, hjob, hfound, hobject, rfl⟩
  have hheldJob := (hbefore.owns.held _ hlast.held).symm.trans hjob
  have hheldProcess := (hbefore.owns.held _ hprocess).symm.trans hfound
  obtain rfl := KernelObject.job.inj (HandleEntry.mk.inj (Option.some.inj hheldJob)).1
  obtain rfl := KernelObject.process.inj (HandleEntry.mk.inj (Option.some.inj hheldProcess)).1
  obtain ⟨honly, ⟨hlimits, hunheld⟩, created, hcreated, hours, hpid, hstart, hholds⟩ := hbefore.tree
  obtain rfl := Option.some.inj (hobject.symm.trans hcreated)
  refine ⟨hbefore.owns, hbefore.lists, ⟨?_, hlimits, ?_⟩, ?_⟩
  · intro id later hlater hlaterOurs _
    obtain ⟨-, rfl⟩ | ⟨hid, hold⟩ := Kernel.setProcess_eq_some hlater
    · exact List.mem_cons_self
    · exact absurd (honly id later hold hlaterOurs).1 hid
  · intro id later hlater
    obtain ⟨-, rfl⟩ | ⟨-, hold⟩ := Kernel.setProcess_eq_some hlater
    · exact hunheld _ object hobject
    · exact hunheld id later hold
  · exact ⟨_, Function.update_self .., hours, hpid, hstart, hholds⟩

theorem spec_resumeThread {thread : Handle} (hlast : LastHandle base owned handle job)
    (hat : At base owned lists (Launched job target pid start objects) kernel) :
    Spec (native "ResumeThread" (.resumeThread thread)) kernel
      (fun _ => At base owned lists (Launched job target pid start objects))
      (At base owned lists (Launched job target pid start objects)) := by
  have hholds : Holds (At base owned lists (Launched job target pid start objects)) :=
    holds_launched hlast
  refine ensures_request hholds (fun _ => hholds) hholds hat ?_ fun _ => id
  rintro before previous next hbefore ⟨found, inheritable, object, -, hobject, -, rfl⟩
  obtain ⟨⟨hmembers, hlimits, hunheld⟩, created, hcreated, hours, hpid, hstart, hobjects⟩ :=
    hbefore.tree
  obtain ⟨hsameOurs, hsameAlive, hsameJobs, hsameHolds, hsameStart, hsamePid⟩ :=
    object.resumed_same
  refine ⟨hbefore.owns, hbefore.lists, ⟨?_, hlimits, ?_⟩, ?_⟩
  · intro id later hlater hlaterOurs halive
    obtain ⟨rfl, rfl⟩ | ⟨-, hold⟩ := Kernel.setProcess_eq_some hlater
    · exact hsameJobs ▸ hmembers id object hobject (hsameOurs ▸ hlaterOurs) (hsameAlive ▸ halive)
    · exact hmembers id later hold hlaterOurs halive
  · intro id later hlater
    obtain ⟨rfl, rfl⟩ | ⟨-, hold⟩ := Kernel.setProcess_eq_some hlater
    · exact hsameHolds ▸ hunheld id object hobject
    · exact hunheld id later hold
  · by_cases hid : target = found
    · subst hid
      obtain rfl := Option.some.inj (hobject.symm.trans hcreated)
      exact ⟨_, Function.update_self .., hsameOurs.trans hours, hsamePid.trans hpid,
        hsameStart.trans hstart, hsameHolds.trans hobjects⟩
    · exact ⟨created, (Function.update_of_ne hid ..).trans hcreated, hours, hpid, hstart, hobjects⟩

theorem spec_assignAndResume {job : Handle} {id : Nat} (hlast : LastHandle base owned job id)
    (hprocess : (information.process, ⟨.process target, false⟩) ∈ owned)
    (hat : At base owned lists (Made id target information.processId start objects) kernel) :
    Spec (assignAndResume job information) kernel
      (fun identity stop => identity.pid = information.processId ∧
        At base owned lists (Launched id target information.processId start objects) stop)
      (At base owned lists (Ending id)) := by
  have hending : Holds (At base owned lists (Ending id)) := holds_ending hlast
  have hlaunched : Holds (At base owned lists
      (Launched id target information.processId start objects)) := holds_launched hlast
  have hweaker : ∀ stop,
      At base owned lists (Launched id target information.processId start objects) stop →
        At base owned lists (Ending id) stop := fun _ hstop => hstop.mono fun htree => .inr htree.1
  have hterminate : ∀ middle, At base owned lists
      (Launched id target information.processId start objects) middle →
        (terminateAssignedJob job).Ensures kernelSystem Kernel.Contained middle
          fun _ => At base owned lists (Ending id) := fun middle hmiddle =>
    (ensures_attempt_harmless hlaunched robust_launched rfl hmiddle).mono fun _ => hweaker
  have hassign := (spec_assign hlast hprocess hat).onError (fun _ => hlaunched) hending
    fun refused hrefused => by
      have hboth : (terminateSuspendedProcess information.process).Ensures kernelSystem
          Kernel.Contained refused fun _ => At base owned lists
            (Made id target information.processId start objects) := by
        refine Ensures.forEach calm_made.holds ?_ hrefused
        intro call hcall before hbefore
        refine ensures_attempt_harmless calm_made.holds calm_made.robust ?_ hbefore
        rcases List.mem_pair.mp hcall with rfl | rfl <;> rfl
      exact hboth.mono fun _ _ hstop => hstop.mono fun htree => .inl htree.1.livingSuspended
  refine .bind hending hassign fun _ assigned hassigned => ?_
  have hidentity : Spec (processIdentity information.process information.processId) assigned
      (fun identity stop => identity.pid = information.processId ∧
        At base owned lists (Launched id target information.processId start objects) stop)
      (At base owned lists (Launched id target information.processId start objects)) :=
    .bind hlaunched (ensures_request_harmless hlaunched robust_launched rfl hassigned)
      fun _ read hread => .pure hlaunched hread fun _ hstop => ⟨rfl, hstop⟩
  refine .bind hending (hidentity.onError (fun _ => .and fun _ => hlaunched) hending hterminate) ?_
  rintro identity identified ⟨hpid, hidentified⟩
  refine .bind hending ((ensures_request_harmless hlaunched robust_launched rfl hidentified).weaken
    (fun _ _ hok => hok) hweaker) fun member asked hasked => ?_
  refine .bind hending ((spec_refuseIf hlaunched hasked).onError (fun _ => .and fun _ => hlaunched)
    hending hterminate) fun _ checked hchecked => ?_
  refine .bind hending ((spec_resumeThread hlast hchecked.2).onError (fun _ => hlaunched) hending
    hterminate) fun previous resumed hresumed => ?_
  refine .bind hending ((spec_refuseIf hlaunched hresumed).onError
    (fun _ => .and fun _ => hlaunched) hending hterminate) fun _ last hlastState => ?_
  exact .pure hlaunched hlastState.2 fun _ hstop => ⟨hpid, hstop⟩

end Creation

/-! ## The whole launch -/

section Launch

variable {job id : Nat}

/-- Other handles before the last one of the job do not matter. -/
theorem LastHandle.suffix (others : Owned) {kept : Owned}
    (hlast : LastHandle base (others ++ [(job, ⟨.job id, false⟩)]) job id)
    (hkept : kept <:+ others) : LastHandle base (kept ++ [(job, ⟨.job id, false⟩)]) job id where
  held := List.mem_append_right _ List.mem_cons_self
  base := hlast.base
  sole item hitem := by
    refine hlast.sole item ?_
    obtain hitem | hitem := List.mem_append.mp hitem
    · exact List.mem_append_left _ (hkept.subset hitem)
    · exact List.mem_append_right _ hitem

/-- The handles of a failed launch, with that of the job at the end. -/
theorem ensures_closeEnding (others : Owned)
    (hlast : LastHandle base (others ++ [(job, ⟨.job id, false⟩)]) job id)
    (hat : At base (others ++ [(job, ⟨.job id, false⟩)]) lists (Ending id) kernel) :
    (closeAll (others.map Prod.fst ++ [job])).Ensures kernelSystem Kernel.Contained kernel
      fun _ => At base [] lists Kernel.LivingSuspended := by
  have hliving : Holds (At base [] lists Kernel.LivingSuspended) := calm_livingSuspended.holds
  induction others generalizing kernel with
  | nil =>
      have hclose : (close job).Ensures kernelSystem Kernel.Contained kernel
          fun _ => At base [] lists Kernel.LivingSuspended := by
        obtain hnever | hconfined := hat.tree
        · exact ensures_close (.refl _) calm_livingSuspended.holds hliving
            robust_livingSuspended (hat.mono fun _ => hnever)
        · exact (ensures_closeJob [] hlast robust_confined (fun _ h => h)
            (hat.mono fun _ => hconfined)).mono fun _ _ hstop =>
              hstop.mono Kernel.Gone.livingSuspended
      exact hclose.bind fun _ middle hmiddle => .done hliving hmiddle fun _ h => h
  | cons item others ih =>
      have hfewer := LastHandle.suffix (item :: others) hlast (List.suffix_cons item others)
      have hfirst := ensures_close (.refl _) (holds_ending hlast) (holds_ending hfewer)
        robust_ending hat
      exact hfirst.bind fun _ middle hmiddle => ih hfewer hmiddle

/-- The objects behind the handles of a launched process. -/
structure LaunchParts where
  process : Nat
  job : Nat
  stdin : Nat
  stdout : Nat
  stderr : Nat
  start : ProcessStart

/-- What the child inherits. -/
def LaunchParts.inherited (parts : LaunchParts) : List KernelObject :=
  [.pipeRead parts.stdin, .pipeWrite parts.stdout, .pipeWrite parts.stderr]

/-- The end of a pipe that was not taken. -/
def readEnd (file : Option Handle) (pipe : Nat) : Owned :=
  file.toList.map fun handle => (handle, ⟨.pipeRead pipe, false⟩)

/-- What the owner of a launched process has. -/
def LaunchParts.handles (parts : LaunchParts) (process : JobProcess) : Owned :=
  (process.process, ⟨.process parts.process, false⟩) ::
    (readEnd process.stderr parts.stderr ++ readEnd process.stdout parts.stdout ++
      [(process.job, ⟨.job parts.job, false⟩)])

/-- The parts are new, and the process was created as the command says. -/
structure LaunchParts.Fits (parts : LaunchParts) (base : Kernel) (command : LaunchCommand) :
    Prop where
  start : ∃ standardHandles, processStart command standardHandles = .ok parts.start
  job : base.Lacks (.job parts.job)
  stdin : base.Lacks (.pipeWrite parts.stdin)
  stdout : base.Lacks (.pipeWrite parts.stdout)
  stderr : base.Lacks (.pipeWrite parts.stderr)

/-- The state in which a launch returns this process. -/
def Running (base : Kernel) (lists : Nat) (command : LaunchCommand) (process : JobProcess)
    (kernel : Kernel) : Prop :=
  ∃ parts : LaunchParts, parts.Fits base command ∧ At base (parts.handles process) lists
    (Launched parts.job parts.process process.identity.pid parts.start parts.inherited) kernel

theorem processStart_suspended {command : LaunchCommand} {standardHandles : List Handle}
    {start : ProcessStart} (hstart : processStart command standardHandles = .ok start) :
    start.suspended = true := by
  simp only [processStart, bind_eq_ok_iff, pure_eq_ok_iff] at hstart
  obtain ⟨_, -, _, -, _, -, _, -, rfl⟩ := hstart
  rfl

theorem ensures_closeReady (owned : Owned)
    (hat : At base (owned ++ []) lists (Ready id .strict) kernel) :
    (closeAll (owned.map Prod.fst)).Ensures kernelSystem Kernel.Contained kernel
      fun _ => At base [] lists Kernel.LivingSuspended :=
  (ensures_closeAll_calm owned (calm_ready id .strict) hat).mono fun _ _ hstop =>
    hstop.mono ((calm_ready id .strict).livingSuspended _)

section Child

variable {command : LaunchCommand} {stdinChild stdoutParent stdoutChild stderrParent stderrChild :
  Handle} {stdin stdout stderr target : Nat} {information : ProcessInformation}
  {start : ProcessStart}

/-- What is open before the creation, the latest first. -/
def pipedHandles (stdinChild stdoutParent stdoutChild stderrParent stderrChild job : Handle)
    (stdin stdout stderr id : Nat) : Owned :=
  [(stdinChild, ⟨.pipeRead stdin, true⟩), (stderrChild, ⟨.pipeWrite stderr, true⟩),
    (stderrParent, ⟨.pipeRead stderr, false⟩), (stdoutChild, ⟨.pipeWrite stdout, true⟩),
    (stdoutParent, ⟨.pipeRead stdout, false⟩), (job, ⟨.job id, false⟩)]

theorem spec_createChild
    (hat : At base (pipedHandles stdinChild stdoutParent stdoutChild stderrParent stderrChild job
      stdin stdout stderr id) lists (Ready id .strict) kernel) :
    Spec (do
      let start ← .ofExcept (processStart command [stdinChild, stdoutChild, stderrChild])
      native "CreateProcessW" (.createProcess start [stdinChild, stdoutChild, stderrChild]))
      kernel
      (fun information stop => ∃ start target,
        processStart command [stdinChild, stdoutChild, stderrChild] = .ok start ∧
        At base (processHandles information target ++ pipedHandles stdinChild stdoutParent
          stdoutChild stderrParent stderrChild job stdin stdout stderr id) lists
          (Made id target information.processId start
            [.pipeRead stdin, .pipeWrite stdout, .pipeWrite stderr]) stop)
      (At base (pipedHandles stdinChild stdoutParent stdoutChild stderrParent stderrChild job
        stdin stdout stderr id) lists (Ready id .strict)) := by
  have hholds : Holds (At base (pipedHandles stdinChild stdoutParent stdoutChild stderrParent
      stderrChild job stdin stdout stderr id) lists (Ready id .strict)) :=
    (calm_ready id .strict).holds
  refine .bind hholds (.ofExcept hholds hat (fun start hstart stop hstop =>
    (⟨hstart, hstop⟩ :
      processStart command [stdinChild, stdoutChild, stderrChild] = .ok start ∧ _)) fun _ h => h) ?_
  rintro start checked ⟨hstart, hchecked⟩
  refine (spec_createProcess (processStart_suspended hstart) ?_ (by simp) hchecked).weaken
    (fun _ _ ⟨target, hok⟩ => ⟨start, target, hstart, hok⟩) fun _ h => h
  intro before hbefore
  have hheld := hbefore.owns.held
  simp only [pipedHandles, List.forall_mem_cons] at hheld
  simp only [List.map_cons, List.map_nil, hheld]

/-- The ends of the child are closed as soon as it has them. -/
theorem ensures_closeInherited
    (hat : At base (processHandles information target ++ pipedHandles stdinChild stdoutParent
      stdoutChild stderrParent stderrChild job stdin stdout stderr id) lists
      (Made id target information.processId start
        [.pipeRead stdin, .pipeWrite stdout, .pipeWrite stderr]) kernel) :
    (closeAll [stdinChild, stdoutChild, stderrChild]).Ensures kernelSystem Kernel.Contained kernel
      fun _ => At base (processHandles information target ++
        [(stderrParent, ⟨.pipeRead stderr, false⟩), (stdoutParent, ⟨.pipeRead stdout, false⟩),
          (job, ⟨.job id, false⟩)]) lists
        (Made id target information.processId start
          [.pipeRead stdin, .pipeWrite stdout, .pipeWrite stderr]) := by
  refine (ensures_closeAmong [_, _] calm_made.holds calm_made.holds calm_made.robust hat).bind
    fun _ first hfirst => ?_
  refine (ensures_closeAmong [_, _, _, _] calm_made.holds calm_made.holds calm_made.robust
    hfirst).bind fun _ second hsecond => ?_
  refine (ensures_closeAmong [_, _] calm_made.holds calm_made.holds calm_made.robust hsecond).bind
    fun _ third hthird => ?_
  exact .done calm_made.holds hthird fun _ h => h

end Child

theorem spec_launch {isFile isDir : WindowsPath → Bool} {command : LaunchCommand}
    (hat : At base [] lists Kernel.NoneOurs kernel) :
    Spec (launch isFile isDir command) kernel (Running base lists command)
      (At base [] lists Kernel.LivingSuspended) := by
  have hfail : Holds (At base [] lists Kernel.LivingSuspended) := calm_livingSuspended.holds
  have hnone : ∀ stop, At base [] lists Kernel.NoneOurs stop →
      At base [] lists Kernel.LivingSuspended stop :=
    fun _ hstop => hstop.mono (calm_noneOurs.livingSuspended _)
  refine .bind hfail (.ofExcept calm_noneOurs.holds hat (fun _ _ _ hstop => hstop) hnone)
    fun _ valid hvalid => ?_
  refine .bind hfail ((spec_createKillOnCloseJob hvalid).weaken (fun _ _ hok => hok) hnone) ?_
  rintro job created ⟨id, hjob, hcreated⟩
  have hcalm : Calm (Ready id .strict) := calm_ready id .strict
  refine .bind hfail ((spec_outputPipe hcalm hcreated).onError (fun _ => holds_piped hcalm) hfail
    fun _ hfailed => ensures_closeReady [_] hfailed) ?_
  rintro ⟨stdoutParent, stdoutChild⟩ withStdout ⟨stdout, ⟨-, hstdout⟩, hwithStdout⟩
  refine .bind hfail ((spec_outputPipe hcalm hwithStdout).onError (fun _ => holds_piped hcalm) hfail
    fun _ hfailed => ensures_closeReady [_, _, _] hfailed) ?_
  rintro ⟨stderrParent, stderrChild⟩ withStderr ⟨stderr, ⟨-, hstderr⟩, hwithStderr⟩
  refine .bind hfail ((spec_closedStdinPipe hcalm hwithStderr).onError
    (fun _ => holds_piped hcalm) hfail
    fun _ hfailed => ensures_closeReady [_, _, _, _, _] hfailed) ?_
  rintro stdinChild piped ⟨stdin, ⟨-, hstdin⟩, hpiped⟩
  refine .bind hfail ((spec_withHandleList hcalm hpiped).onError (fun _ => hcalm.holds) hfail
    fun _ hfailed => ensures_closeReady [_, _, _, _, _, _] hfailed) fun _ listed hlisted => ?_
  refine .bind hfail ((spec_createChild hlisted).onError
    (fun _ => .exists fun _ => .exists fun _ => .and fun _ => calm_made.holds) hfail
    fun failed hfailed =>
      (ensures_deleteAttributeList hcalm hfailed).bind fun _ _ hdeleted =>
        ensures_closeReady [_, _, _, _, _, _] hdeleted) ?_
  rintro information made ⟨start, target, hstart, hmade⟩
  refine .bind hfail (.always (fun _ => calm_made.holds) (ensures_closeInherited hmade))
    fun _ closed hclosed => ?_
  refine .bind hfail (.always (fun _ => calm_made.holds)
    (ensures_deleteAttributeList calm_made hclosed)) fun _ deleted hdeleted => ?_
  have hlast : LastHandle base (processHandles information target ++
      [(stderrParent, ⟨.pipeRead stderr, false⟩), (stdoutParent, ⟨.pipeRead stdout, false⟩),
        (job, ⟨.job id, false⟩)]) job id :=
    ⟨by simp [processHandles], hjob, by simp [processHandles]⟩
  have hassigned := (spec_assignAndResume hlast (by simp [processHandles]) hdeleted).onError
    (fun _ => .and fun _ => holds_launched hlast) hfail fun _ hfailed =>
      ensures_closeEnding [_, _, _, _] hlast hfailed
  refine .bind hfail hassigned ?_
  rintro identity resumed ⟨hpid, hresumed⟩
  have hlater := LastHandle.suffix [_, _, _, _] hlast (List.suffix_cons ..)
  refine .bind hfail (.always (fun _ => holds_launched hlater) (ensures_closeAmong []
    (holds_launched hlast) (holds_launched hlater) robust_launched hresumed))
    fun _ last hlastState => ?_
  refine .pure (holds_launched hlater) hlastState fun stop hstop =>
    ⟨⟨target, id, stdin, stdout, stderr, start⟩, ⟨⟨_, hstart⟩, hjob, hstdin, hstdout, hstderr⟩, ?_⟩
  rw [← hpid] at hstop
  exact hstop

end Launch

end Parts

/-! ## A launch that succeeds -/

variable {isFile isDir : WindowsPath → Bool} {command : LaunchCommand}
  {start middle kernel : Kernel}

section Fixture

def fixtureCommand : LaunchCommand where
  program := ⟨[.pathPrefix (.unc [65] [66]), .rootDir, .normal (osString "Rscript.exe")]⟩
  arguments := [osString "--vanilla"]
  currentDirectory := ⟨[.pathPrefix (.unc [65] [66]), .rootDir]⟩
  environment := none

end Fixture

/-! ## Main results -/

end Rpackit.Windows.JobLaunch
