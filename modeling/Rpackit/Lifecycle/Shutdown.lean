import Rpackit.Library.Runs
import Rpackit.Lifecycle.Cleanup

/-! # Health, shutdown and retry

A ready owner is polled, shut down, and cleaned up again after a cleanup that failed.
A shutdown asks the launcher to stop and drains the channel strictly until the graceful
completion is observed; any failure on the way, or the deadline, forces the Job to stop.
-/

namespace Rpackit.Lifecycle

open Text Launcher Transport
open Program (Within fail)

variable {W : Type} {α : Type} (world : World W)

/-! ## Health -/

def pollHealth (fuel : Nat) : Owner W Unit := do
  let owner ← readOwner
  if owner.ownerState ≠ .ready then failed .ownerNotRunning
  else do
    drainMonitor world true fuel
    let owner ← readOwner
    if owner.stdoutEnded then failed .protocolStreamEnded
    else do
      let process ← processRef
      let wrapperExit ← liftNative (waitForProcess world process.process 0)
      if wrapperExit.isSome then failed .wrapperExitedUnexpectedly
      else do
        let runtime ← runtimeRef
        let runtimeExit ← liftNative (waitForProcess world runtime.process 0)
        if runtimeExit.isSome then failed .runtimeExitedUnexpectedly
        else if owner.monitorState ≠ .listening then
          failed (.unexpectedLifecycleState owner.monitorState)
        else return ()

/-! ## Finishing a cleanup -/

inductive ShutdownKind where
  | graceful
  | forced
  deriving DecidableEq, Repr

structure ShutdownReport where
  kind : ShutdownKind
  wrapperExitCode : Option UInt32
  runtimeExitCode : Option UInt32
  ignoredStdoutLines : Nat
  discardedStderrBytes : Nat
  jobEmpty : Bool
  sessionRemoved : Bool
  deriving DecidableEq, Repr

/-- What `finish_cleanup` learned before it releases anything. -/
structure Reaped where
  jobEmpty : Bool
  wrapperExitCode : Option UInt32
  runtimeExitCode : Option UInt32

def Reaped.complete (reaped : Reaped) : Bool :=
  reaped.jobEmpty && reaped.wrapperExitCode.isSome && reaped.runtimeExitCode.isSome

def reapJob (job timeout fuel : Nat) : Owner W (Bool × Option LifecycleError) := do
  let empty ← waitForEmpty world job timeout fuel
  match empty with
  | .ok true => return (true, none)
  | .ok false => return (false, some .jobDidNotBecomeEmpty)
  | .error error => return (false, some (.launch error))

def reapExit (handle timeout : Nat) (slot : Option LifecycleError) :
    Owner W (Option UInt32 × Option LifecycleError) := do
  let exitCode ← (waitForProcess world handle timeout).attempt
  match exitCode with
  | .ok exitCode => return (exitCode, slot)
  | .error error => return (none, storeFirstError slot (.launch error))

def reapProcess (fuel : Nat) : Owner W (Bool × Option UInt32 × Option LifecycleError) := do
  let owner ← readOwner
  match owner.process with
  | none => return (false, none, some .ownerNotRunning)
  | some process => do
      let (empty, slot) ← reapJob world process.job owner.limits.terminationTimeout fuel
      let (exitCode, slot) ← reapExit world process.process owner.limits.terminationTimeout slot
      return (empty, exitCode, slot)

def reapRuntime (slot : Option LifecycleError) :
    Owner W (Option UInt32 × Option LifecycleError) := do
  let owner ← readOwner
  match owner.runtime with
  | none => return (none, storeFirstError slot .runtimeIdentityUnavailable)
  | some runtime => reapExit world runtime.process owner.limits.terminationTimeout slot

/-- The waits of `finish_cleanup`, and the first error. -/
def reap (fuel : Nat) : Owner W (Reaped × Option LifecycleError) := do
  let (empty, wrapperExit, slot) ← reapProcess world fuel
  let (runtimeExit, slot) ← reapRuntime world slot
  let slot := if wrapperExit.isNone || runtimeExit.isNone then
    storeFirstError slot .processDidNotExit else slot
  return (⟨empty, wrapperExit, runtimeExit⟩, slot)

/-- Nothing is released until the Job is empty and both exit codes are known. -/
def finishCleanup (kind : ShutdownKind) (strict : Bool) (fuel : Nat) :
    Owner W ShutdownReport := do
  let (reaped, slot) ← reap world fuel
  if !reaped.complete then failed (slot.getD .processDidNotExit)
  else do
    let (removed, slot) ← releaseOwned world strict slot fuel
    match slot with
    | some error => failed error
    | none => do
        let owner ← readOwner
        return {
          kind := kind
          wrapperExitCode := reaped.wrapperExitCode
          runtimeExitCode := reaped.runtimeExitCode
          ignoredStdoutLines := owner.ignoredStdoutLines
          discardedStderrBytes := owner.discardedStderrBytes
          jobEmpty := reaped.jobEmpty
          sessionRemoved := removed }

/-! ## Shutdown -/

def forceAndCleanup (fuel : Nat) : Owner W ShutdownReport := do
  let owner ← readOwner
  let (_, slot) ← terminateJob world fuel
  let slot := if owner.process.isNone then storeFirstError slot .ownerNotRunning else slot
  let finished ← (finishCleanup world .forced false fuel).attempt
  match slot, finished with
  | _, .error .running => fail .running
  | none, .ok report => return report
  | none, .error (.failed error) => failed error
  | some primary, .ok _ => failed primary
  | some primary, .error (.failed error) => failed (combineCleanupError primary (some error))

/-- A forced cleanup after a failed step: the error of the step comes first. -/
def forceAfter (primary : LifecycleError) (fuel : Nat) : Owner W ShutdownReport := do
  let forced ← (forceAndCleanup world fuel).attempt
  match forced with
  | .ok _ => failed (combineCleanupError primary none)
  | .error (.failed cleanup) => failed (combineCleanupError primary (some cleanup))
  | .error .running => fail .running

/-- The wait calls are made in the order of the source; the Job is counted last. -/
def gracefulCompletionObserved : Owner W Bool := do
  let owner ← readOwner
  if owner.monitorState ≠ .stopped then return false
  else do
    let process ← processRef
    let wrapperExit ← liftNative (waitForProcess world process.process 0)
    let runtime ← runtimeRef
    let runtimeExit ← liftNative (waitForProcess world runtime.process 0)
    if wrapperExit.isSome && runtimeExit.isSome then do
      let count ← liftNative (activeProcessCount world process.job)
      return count == 0
    else return false

def awaitGraceful (deadline : Nat) : Nat → Owner W ShutdownReport
  | 0 => fail .running
  | fuel + 1 => do
      let drained ← (drainMonitor world true fuel).attempt
      match drained with
      | .error .running => fail .running
      | .error (.failed primary) => forceAfter world primary fuel
      | .ok () => do
          let complete ← gracefulCompletionObserved world
          if complete then finishCleanup world .graceful true fuel
          else do
            let now ← readClock world
            if now ≥ deadline then forceAndCleanup world fuel
            else do
              let pause ← remainingPoll world deadline
              sleepFor world pause
              awaitGraceful deadline fuel

/-- Ask the launcher to stop, once: the error of the control file, if there was one. -/
def requestStop : Owner W (Option LifecycleError) := do
  let owner ← readOwner
  if owner.ownerState = .stopping then return none
  else do
    enter .stopping
    let session ← sessionRef
    let created ← ask (world.createControlFile session)
    return storeNative none created

def shutdown (fuel : Nat) : Owner W ShutdownReport := do
  let owner ← readOwner
  if owner.ownerState = .cleaned then failed .ownerAlreadyCleaned
  else do
    let refused ← requestStop world
    match refused with
    | some primary => forceAfter world primary fuel
    | none => do
        let deadline ← checkedDeadline world owner.limits.gracefulTimeout
        awaitGraceful world deadline fuel

def forceShutdown (fuel : Nat) : Owner W ShutdownReport := do
  let owner ← readOwner
  if owner.ownerState = .cleaned then failed .ownerAlreadyCleaned
  else do
    enter .stopping
    forceAndCleanup world fuel

/-! ## Retry and drop -/

/-- The session is gone, and with it what the owner still held. -/
def discardRetained : Owner W Unit := do
  modifyOwner fun owner => { owner with session := none, runtime := none, upstreamSecret := none }
  enter .cleaned

def retryPrivateCleanup : Owner W Unit := do
  let owner ← readOwner
  if owner.ownerState = .cleaned then failed .ownerAlreadyCleaned
  else if owner.process.isSome || owner.stdoutThread || owner.stderrThread then
    failed .ownerStillHasLiveResources
  else do
    let (removed, slot) ← removeSession world none
    if removed then discardRetained
    match slot with
    | some error => failed error
    | none => return ()

/-- `drop`: its error is ignored. -/
def dropOwner (fuel : Nat) : Owner W Unit := do
  let owner ← readOwner
  if owner.ownerState = .cleaned then return ()
  else do
    let _ ← abortAndCleanup world fuel
    return ()

/-! ## Runs of an owner -/

inductive OwnerCall where
  | pollHealth
  | shutdown
  | forceShutdown
  | retryPrivateCleanup
  | drop
  deriving DecidableEq, Repr

/-- A call; only a shutdown answers with a report. -/
def OwnerCall.run (fuel : Nat) : OwnerCall → Owner W (Option ShutdownReport)
  | .pollHealth => do
      Lifecycle.pollHealth world fuel
      return none
  | .shutdown => do
      let report ← Lifecycle.shutdown world fuel
      return some report
  | .forceShutdown => do
      let report ← Lifecycle.forceShutdown world fuel
      return some report
  | .retryPrivateCleanup => do
      Lifecycle.retryPrivateCleanup world
      return none
  | .drop => do
      dropOwner world fuel
      return none

/-- A call that came back, and what it answered. -/
structure Answered where
  call : OwnerCall
  outcome : Except LifecycleError (Option ShutdownReport)

/-- One call of an owner that is given enough fuel to come back. -/
def OwnerStep (machine : Machine W) (answered : Answered) (next : Machine W) : Prop :=
  ∃ fuel, answered.call.run world fuel machine =
    (answered.outcome.mapError Stop.failed, next)

/-! ## Frames -/

section Closed

variable {world : World W} {R : Machine W → Machine W → Prop}

theorem Closed.pollHealth (hR : Closed world R) (fuel : Nat) :
    Within R (pollHealth world fuel) := by
  apply hR.bind hR.readOwner
  intro owner
  split
  · exact hR.error _
  refine hR.bind (hR.drainMonitor true fuel) fun _ => hR.bind hR.readOwner fun owner => ?_
  split
  · exact hR.error _
  refine hR.bind hR.processRef fun process => hR.bind (hR.waitForProcess _ _) fun wrapperExit => ?_
  split
  · exact hR.error _
  refine hR.bind hR.runtimeRef fun runtime => hR.bind (hR.waitForProcess _ _) fun runtimeExit => ?_
  split
  · exact hR.error _
  · split
    · exact hR.error _
    · exact hR.pure _

theorem Asks.gracefulCompletionObserved (hR : Asks world R) :
    Within R (gracefulCompletionObserved world) := by
  apply hR.bind hR.readOwner
  intro owner
  split
  · exact hR.pure _
  refine hR.bind hR.processRef fun process => hR.bind (hR.waitForProcess _ _) fun wrapperExit => ?_
  refine hR.bind hR.runtimeRef fun runtime => hR.bind (hR.waitForProcess _ _) fun runtimeExit => ?_
  split
  · have hcounted : Within R (liftNative (Lifecycle.activeProcessCount world process.job)) :=
      (hR.activeProcessCount process.job).mapError _
    exact hR.bind hcounted fun _ => hR.pure _
  · exact hR.pure _

theorem Asks.reapJob (hR : Asks world R) (job timeout fuel : Nat) :
    Within R (reapJob world job timeout fuel) := by
  apply hR.bind (hR.waitForEmpty _ _ _)
  intro empty
  split
  · exact hR.pure _
  · exact hR.pure _
  · exact hR.pure _

theorem Asks.reapExit (hR : Asks world R) (handle timeout : Nat)
    (slot : Option LifecycleError) : Within R (reapExit world handle timeout slot) := by
  have hwaited : Within R (Lifecycle.waitForProcess world handle timeout) :=
    hR.bind (hR.askNative fun w => .wait handle timeout w) fun _ =>
      hR.bind (hR.record rfl) fun _ => hR.pure _
  apply hR.bind hwaited.attempt
  intro exitCode
  cases exitCode with
  | ok exitCode => exact hR.pure _
  | error error => exact hR.pure _

theorem Asks.reapProcess (hR : Asks world R) (fuel : Nat) :
    Within R (reapProcess world fuel) := by
  apply hR.bind hR.readOwner
  intro owner
  split
  · exact hR.pure _
  · exact hR.bind (hR.reapJob _ _ _) fun _ => hR.bind (hR.reapExit _ _ _) fun _ => hR.pure _

theorem Asks.reapRuntime (hR : Asks world R) (slot : Option LifecycleError) :
    Within R (reapRuntime world slot) := by
  apply hR.bind hR.readOwner
  intro owner
  split
  · exact hR.pure _
  · exact hR.reapExit _ _ _

theorem Asks.reap (hR : Asks world R) (fuel : Nat) : Within R (reap world fuel) :=
  hR.bind (hR.reapProcess fuel) fun _ => hR.bind (hR.reapRuntime _) fun _ => hR.pure _

theorem Frees.requestStop (hR : Frees world R) : Within R (requestStop world) := by
  apply hR.bind hR.readOwner
  intro owner
  split
  · exact hR.pure _
  · refine hR.bind (hR.enters rfl) fun _ => hR.bind hR.sessionRef fun session => ?_
    exact hR.bind (hR.ask fun w => .createControlFile session w) fun created => hR.pure _

theorem Frees.retryPrivateCleanup (hR : Frees world R) : Within R (retryPrivateCleanup world) := by
  apply hR.bind hR.readOwner
  intro owner
  split
  · exact hR.error _
  split
  · exact hR.error _
  apply hR.bind (hR.removeSession none)
  intro removed
  have hdiscard : Within R (discardRetained : Owner W Unit) :=
    hR.bind (hR.modify fun _ => rfl) fun _ => hR.enters rfl
  apply hR.guarded _ hdiscard
  intro _
  split
  · exact hR.error _
  · exact hR.pure _

variable (hR : CleanupClosed world R)

include hR

theorem CleanupClosed.finishCleanup (kind : ShutdownKind) (strict : Bool) (fuel : Nat) :
    Within R (finishCleanup world kind strict fuel) := by
  apply hR.bind (hR.reap fuel)
  rintro ⟨reaped, slot⟩
  dsimp only
  split
  · exact hR.error _
  apply hR.bind (hR.releaseOwned strict slot fuel)
  rintro ⟨removed, _ | error⟩
  · exact hR.bind hR.readOwner fun owner => hR.pure _
  · exact hR.error _

theorem CleanupClosed.forceAndCleanup (fuel : Nat) : Within R (forceAndCleanup world fuel) := by
  refine hR.bind hR.readOwner fun owner => hR.bind (hR.terminateJob fuel) fun terminated => ?_
  apply hR.bind (hR.finishCleanup .forced false fuel).attempt
  intro finished
  split
  · exact hR.fail _
  · exact hR.pure _
  · exact hR.error _
  · exact hR.error _
  · exact hR.error _

theorem CleanupClosed.forceAfter (primary : LifecycleError) (fuel : Nat) :
    Within R (forceAfter world primary fuel) := by
  apply hR.bind (hR.forceAndCleanup fuel).attempt
  intro forced
  split
  · exact hR.error _
  · exact hR.error _
  · exact hR.fail _

theorem CleanupClosed.awaitGraceful (deadline fuel : Nat) :
    Within R (awaitGraceful world deadline fuel) := by
  induction fuel with
  | zero => exact hR.fail _
  | succ fuel ih =>
      apply hR.bind (hR.drainMonitor true fuel).attempt
      intro drained
      split
      · exact hR.fail _
      · exact hR.forceAfter _ fuel
      apply hR.bind hR.gracefulCompletionObserved
      intro complete
      split
      · exact hR.finishCleanup .graceful true fuel
      apply hR.bind hR.readClock
      intro now
      split
      · exact hR.forceAndCleanup fuel
      · exact hR.bind (hR.remainingPoll _) fun pause => hR.bind (hR.sleepFor pause) fun _ => ih

theorem CleanupClosed.shutdown (fuel : Nat) : Within R (shutdown world fuel) := by
  apply hR.bind hR.readOwner
  intro owner
  split
  · exact hR.error _
  apply hR.bind hR.requestStop
  intro refused
  split
  · exact hR.forceAfter _ fuel
  · exact hR.bind (hR.checkedDeadline _) fun deadline => hR.awaitGraceful deadline fuel

theorem CleanupClosed.forceShutdown (fuel : Nat) : Within R (forceShutdown world fuel) := by
  apply hR.bind hR.readOwner
  intro owner
  split
  · exact hR.error _
  · exact hR.bind (hR.enters rfl) fun _ => hR.forceAndCleanup fuel

theorem CleanupClosed.dropOwner (fuel : Nat) : Within R (dropOwner world fuel) := by
  apply hR.bind hR.readOwner
  intro owner
  split
  · exact hR.pure _
  · exact hR.bind (hR.abortAndCleanup fuel) fun _ => hR.pure _

/-- Every call of an owner keeps a relation that the steps of a cleanup keep. -/
theorem CleanupClosed.run (fuel : Nat) (call : OwnerCall) : Within R (call.run world fuel) := by
  cases call with
  | pollHealth => exact hR.bind (hR.toClosed.pollHealth fuel) fun _ => hR.pure _
  | shutdown => exact hR.bind (hR.shutdown fuel) fun _ => hR.pure _
  | forceShutdown => exact hR.bind (hR.forceShutdown fuel) fun _ => hR.pure _
  | retryPrivateCleanup => exact hR.bind hR.retryPrivateCleanup fun _ => hR.pure _
  | drop => exact hR.bind (hR.dropOwner fuel) fun _ => hR.pure _

theorem CleanupClosed.calls {start stop : Machine W} {calls : List Answered}
    (hrun : Run (OwnerStep world) start calls stop) : R start stop := by
  induction hrun with
  | nil machine => exact hR.refl machine
  | cons hstep _ ih =>
      obtain ⟨fuel, hcall⟩ := hstep
      exact hR.trans ((hR.run fuel _).moved hcall) ih

end Closed

end Rpackit.Lifecycle
