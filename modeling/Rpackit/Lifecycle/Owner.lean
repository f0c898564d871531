import Rpackit.Lifecycle.Native

/-! # The runtime owner

`launch_validated_inner` starts a process and waits until it is ready: it reads
the monitor channel, captures the process that claims to listen, waits for its
listener, and asks it for one authenticated HTTP answer. A failure aborts the
Job and cleans up. Loops take fuel; a program without fuel is still running.
-/

namespace Rpackit.Lifecycle

open Text Launcher Transport Rpackit.Bundle
open Program (fail)
open Rpackit.Windows (JobMemberProcess JobProcess LaunchError)

variable {W : Type} (world : World W)

/-! ## Clock -/

def readClock : Owner W Nat := ask world.now

def sleepFor (duration : Nat) : Owner W Unit := ask fun w => ((), world.sleep duration w)

def checkedDeadline (duration : Nat) : Owner W Nat := do
  let now ← readClock world
  if now + duration < world.instantLimit then return now + duration else failed .invalidLimits

def remainingPoll (deadline : Nat) : Owner W Nat := do
  let now ← readClock world
  let owner ← readOwner
  return min (deadline - now) owner.limits.pollInterval

/-! ## Parts of the owner -/

def okOrFail {α : Type} (value : Option α) (error : LifecycleError) : Owner W α :=
  match value with
  | none => failed error
  | some value => return value

def processRef : Owner W JobProcess := do
  let owner ← readOwner
  okOrFail owner.process .ownerNotRunning

def runtimeRef : Owner W JobMemberProcess := do
  let owner ← readOwner
  okOrFail owner.runtime .runtimeIdentityUnavailable

def sessionRef : Owner W PrivateSession := do
  let owner ← readOwner
  okOrFail owner.session .privateSessionUnavailable

/-! ## The monitor channel -/

inductive Received where
  | message (message : MonitorMessage)
  | nothing
  | disconnected
  deriving DecidableEq, Repr

/-- Once both threads were joined, the channel holds everything they sent. -/
def Machine.settled (machine : Machine W) (arrival : Arrival) : Arrival :=
  if machine.owner.stdoutThread || machine.owner.stderrThread then arrival
  else if machine.channel.isEmpty then .disconnected
  else .arrived

/-- `recv_timeout`, and `try_recv` with no timeout. -/
def receive (timeout : Nat) : Owner W Received := do
  let arrival ← ask (world.arrival timeout)
  let machine ← Program.get
  match machine.settled arrival, machine.channel with
  | .arrived, message :: rest =>
      Program.modify fun machine => { machine with channel := rest }
      observe (.received message)
      return .message message
  | .disconnected, [] => return .disconnected
  | _, _ => return .nothing

/-- The owner after a message of the stdout thread. -/
def RuntimeOwner.noteStdoutEnd (owner : RuntimeOwner) (state : LifecycleState)
    (ignoredLines : Nat) : RuntimeOwner :=
  { owner with monitorState := state, ignoredStdoutLines := ignoredLines, stdoutEnded := true }

def applyMonitor (message : MonitorMessage) (strict : Bool) : Owner W (Option MonitorEvent) :=
  match message with
  | .event state event => do
      modifyOwner fun owner => { owner with monitorState := state }
      return some event
  | .protocolFailure error => if strict then failed (.protocol error) else return none
  | .stdoutReadFailure => if strict then failed .protocolStreamReadFailed else return none
  | .stdoutEnded state ignoredLines => do
      modifyOwner fun owner => owner.noteStdoutEnd state ignoredLines
      let owner ← readOwner
      if strict ∧ owner.ownerState ≠ .stopping then failed .protocolStreamEnded else return none
  | .stderrReadFailure => if strict then failed .stderrStreamReadFailed else return none

/-- What a strict drain makes of an event. -/
def checkDrained (event : Option MonitorEvent) : Owner W Unit := do
  let owner ← readOwner
  match event with
  | some (.launcherFailed phase) => failed (.launcherReportedFailure phase)
  | some .stopping =>
      if owner.ownerState ≠ .stopping then failed .stoppedUnexpectedly else return ()
  | some (.stopped _) =>
      if owner.ownerState ≠ .stopping then failed .stoppedUnexpectedly else return ()
  | _ => return ()

def drainMonitor (strict : Bool) : Nat → Owner W Unit
  | 0 => fail .running
  | fuel + 1 => do
      let received ← receive world 0
      match received with
      | .message message => do
          let event ← applyMonitor message strict
          if strict then checkDrained event
          drainMonitor strict fuel
      | .disconnected => do
          let owner ← readOwner
          if strict ∧ owner.ownerState ≠ .stopping then failed .monitorDisconnected else return ()
      | .nothing => return ()

/-! ## Gates -/

def verifyTokenConsumed : Owner W Unit := do
  let session ← sessionRef
  let present ← ask (world.tokenExists session.tokenPath)
  match present with
  | some present => do
      observe (.tokenExists present)
      if present then failed .tokenNotConsumed else return ()
  | none => failed (.io "inspect one-time token path")

def ensureWrapperAliveBeforeReady : Owner W Unit := do
  let process ← processRef
  let exitCode ← liftNative (waitForProcess world process.process 0)
  match exitCode with
  | some exitCode => failed (.interpreterExitedBeforeReadiness exitCode 0)
  | none => return ()

def ensureProcessesAliveBeforeReady : Owner W Unit := do
  ensureWrapperAliveBeforeReady world
  let runtime ← runtimeRef
  let exitCode ← liftNative (waitForProcess world runtime.process 0)
  match exitCode with
  | some _ => failed .runtimeExitedBeforeReadiness
  | none => return ()

/-! ## Authenticated readiness -/

def statusLineMaxBytes : Nat := 512

/-- `u8::is_ascii_whitespace`. -/
def isStatusBlank (b : UInt8) : Bool :=
  b == space || b == tab || b == lineFeed || b == 0x0C || b == carriageReturn

/-- The text after an HTTP/1 version. -/
def afterVersion (line : Bytes) : Option Bytes :=
  if (asBytes "HTTP/1.0 ").isPrefixOf line || (asBytes "HTTP/1.1 ").isPrefixOf line then
    some (line.drop 9)
  else none

def successStatusLine (line : Bytes) : Bool :=
  match afterVersion line with
  | some (a :: b :: c :: rest) =>
      let status := (a.toNat - 0x30) * 100 + (b.toNat - 0x30) * 10 + (c.toNat - 0x30)
      [a, b, c].all isAsciiDigit && 200 ≤ status && status < 400
        && (rest.head?.all isStatusBlank)
  | _ => false

example : successStatusLine (asBytes "HTTP/1.0 302 Found") = true ∧
    successStatusLine (asBytes "HTTP/1.1 2000") = false := by decide

/-- The readiness request: the secret goes to the selected port and nowhere else. -/
def readinessRequest (port : UInt16) (secret : Secret) : Bytes :=
  asBytes "GET / HTTP/1.1\r\nHost: 127.0.0.1:" ++ decimal port.toNat ++
    asBytes "\r\nShiny-Shared-Secret: " ++ secret.value ++
    asBytes "\r\nConnection: close\r\n\r\n"

/-- Read up to `remaining` more bytes of the status line. -/
def readStatusLine : Nat → Bytes → Owner W Bool
  | 0, _ => return false
  | remaining + 1, line => do
      let byte ← ask world.readByte
      match byte with
      | none => return false
      | some byte =>
          let extended := line ++ [byte]
          if [carriageReturn, lineFeed].isSuffixOf extended then do
            let text := extended.take (extended.length - 2)
            observe (.statusLine text)
            return successStatusLine text
          else readStatusLine remaining extended

def authenticatedHttpReady (port : UInt16) (secret : Secret) (timeout : Nat) : Owner W Bool := do
  let connected ← ask (world.connect port timeout)
  if !connected then return false
  else do
    observe (.connected port)
    let readTimeoutSet ← ask (world.setReadTimeout timeout)
    if !readTimeoutSet then failed (.io "set readiness read timeout")
    else do
      let writeTimeoutSet ← ask (world.setWriteTimeout timeout)
      if !writeTimeoutSet then failed (.io "set readiness write timeout")
      else do
        let written ← ask (world.writeAll (readinessRequest port secret))
        if !written then return false
        else do
          observe (.sent (readinessRequest port secret))
          readStatusLine world statusLineMaxBytes []

/-! ## Waiting until ready -/

def pollListener (listenerDeadline : Nat) : Nat → Owner W Unit
  | 0 => fail .running
  | fuel + 1 => do
      ensureProcessesAliveBeforeReady world
      drainMonitor world true fuel
      let process ← processRef
      let runtime ← runtimeRef
      let owner ← readOwner
      let verified ← (verifyIpv4Listener world process runtime owner.upstreamPort).attempt
      match verified with
      | .ok () => return ()
      | .error .expectedListenerNotFound => do
          let now ← readClock world
          if now < listenerDeadline then do
            let pause ← remainingPoll world listenerDeadline
            sleepFor world pause
            pollListener listenerDeadline fuel
          else failed (.launch .expectedListenerNotFound)
      | .error error => failed (.launch error)

def waitForListener (startupDeadline fuel : Nat) : Owner W Unit := do
  let owner ← readOwner
  let listenerDeadline ← checkedDeadline world owner.limits.listenerTimeout
  pollListener world (min listenerDeadline startupDeadline) fuel

def waitForAuthenticatedReadiness (startupDeadline : Nat) : Nat → Owner W Unit
  | 0 => fail .running
  | fuel + 1 => do
      ensureProcessesAliveBeforeReady world
      drainMonitor world true fuel
      let now ← readClock world
      if startupDeadline - now = 0 then failed .readinessTimeout
      else do
        let owner ← readOwner
        let secret ← okOrFail owner.upstreamSecret .ownerNotRunning
        let ready ← authenticatedHttpReady world owner.upstreamPort secret
          (min owner.limits.readinessIoTimeout (startupDeadline - now))
        if ready then return ()
        else do
          let now ← readClock world
          if now ≥ startupDeadline then failed .readinessTimeout
          else do
            let pause ← remainingPoll world startupDeadline
            sleepFor world pause
            waitForAuthenticatedReadiness startupDeadline fuel

/-- The process of the `listening` event passes the remaining gates. -/
def becomeReady (startupDeadline : Nat) (pid : UInt32) (fuel : Nat) : Owner W Unit := do
  verifyTokenConsumed world
  let process ← processRef
  let runtime ← liftNative (captureJobMember world process pid)
  modifyOwner fun owner => { owner with runtime := some runtime }
  waitForListener world startupDeadline fuel
  waitForAuthenticatedReadiness world startupDeadline fuel
  enter .ready

/-- The stream ended before readiness: the exit of the process explains it, if it comes soon. -/
def explainStreamEnd (state : LifecycleState) (ignoredLines : Nat) : Owner W Unit := do
  let _ ← applyMonitor (.stdoutEnded state ignoredLines) false
  let process ← processRef
  let owner ← readOwner
  let exitCode ← liftNative (waitForProcess world process.process owner.limits.pollInterval)
  match exitCode with
  | some exitCode => failed (.interpreterExitedBeforeReadiness exitCode 0)
  | none => failed .protocolStreamEnded

def waitForEvents (startupDeadline : Nat) : Nat → Owner W Unit
  | 0 => fail .running
  | fuel + 1 => do
      ensureWrapperAliveBeforeReady world
      let now ← readClock world
      if now ≥ startupDeadline then failed .readinessTimeout
      else do
        let timeout ← remainingPoll world startupDeadline
        let received ← receive world timeout
        match received with
        | .message (.stdoutEnded state ignoredLines) => explainStreamEnd world state ignoredLines
        | .message message => do
            let event ← applyMonitor message true
            match event with
            | some (.starting _) => do
                verifyTokenConsumed world
                waitForEvents startupDeadline fuel
            | some (.listening pid) => becomeReady world startupDeadline pid fuel
            | some .stopping => failed .stoppedBeforeReadiness
            | some (.stopped _) => failed .stoppedBeforeReadiness
            | some (.launcherFailed phase) => failed (.launcherReportedFailure phase)
            | none => waitForEvents startupDeadline fuel
        | .nothing => waitForEvents startupDeadline fuel
        | .disconnected => failed .monitorDisconnected

def waitUntilReady (fuel : Nat) : Owner W Unit := do
  let owner ← readOwner
  let startupDeadline ← checkedDeadline world owner.limits.startupTimeout
  waitForEvents world startupDeadline fuel

/-! ## Abort and cleanup -/

/-- The first error of a cleanup counts. -/
def storeFirstError (slot : Option LifecycleError) (error : LifecycleError) :
    Option LifecycleError := slot.or (some error)

def storeNative {α : Type} (slot : Option LifecycleError) (outcome : Except LaunchError α) :
    Option LifecycleError :=
  match outcome with
  | .ok _ => slot
  | .error error => storeFirstError slot (.launch error)

def emptyPollInterval : Nat := 10 * 1000000

/-- The polls of `wait_for_empty`; a deadline that cannot be represented is no deadline. -/
def pollEmpty (job : Nat) (deadline : Option Nat) : Nat → Owner W (Except LaunchError Bool)
  | 0 => fail .running
  | fuel + 1 => do
      let counted ← (activeProcessCount world job).attempt
      match counted with
      | .error error => return .error error
      | .ok count => do
          if count = 0 then return .ok true
          else
            match deadline with
            | none => return .ok false
            | some deadline => do
                let now ← readClock world
                if now ≥ deadline then return .ok false
                else do
                  sleepFor world (min (deadline - now) emptyPollInterval)
                  pollEmpty job (some deadline) fuel

def waitForEmpty (job timeout fuel : Nat) : Owner W (Except LaunchError Bool) := do
  let now ← readClock world
  let deadline := if now + timeout < world.instantLimit then some (now + timeout) else none
  pollEmpty world job deadline fuel

/-- Terminate the Job and wait: whether it became empty, and the first error. -/
def terminateJob (fuel : Nat) : Owner W (Bool × Option LifecycleError) := do
  let owner ← readOwner
  match owner.process with
  | none => return (true, none)
  | some process => do
      let terminated ← ask (world.terminate process.job)
      let slot := storeNative none terminated
      let empty ← waitForEmpty world process.job owner.limits.terminationTimeout fuel
      match empty with
      | .ok true => return (true, slot)
      | .ok false => return (false, storeFirstError slot .jobDidNotBecomeEmpty)
      | .error error => return (false, storeFirstError slot (.launch error))

/-- Run a program; its error joins the slot, but a program without fuel keeps running. -/
def storing (slot : Option LifecycleError) (x : Owner W Unit) :
    Owner W (Option LifecycleError) := do
  let outcome ← x.attempt
  match outcome with
  | .ok () => return slot
  | .error (.failed error) => return storeFirstError slot error
  | .error .running => fail .running

def joinStdoutThread (slot : Option LifecycleError) : Owner W (Option LifecycleError) := do
  let owner ← readOwner
  if owner.stdoutThread then do
    modifyOwner fun owner => { owner with stdoutThread := false }
    let joined ← ask world.joinStdout
    if joined then return slot else return storeFirstError slot (.monitorThreadPanicked "stdout")
  else return slot

def joinStderrThread (slot : Option LifecycleError) : Owner W (Option LifecycleError) := do
  let owner ← readOwner
  if owner.stderrThread then do
    modifyOwner fun owner => { owner with stderrThread := false }
    let joined ← ask world.joinStderr
    match joined with
    | some bytes => do
        modifyOwner fun owner => { owner with discardedStderrBytes := bytes }
        return slot
    | none => return storeFirstError slot (.monitorThreadPanicked "stderr")
  else return slot

def joinMonitors (strict : Bool) (fuel : Nat) : Owner W (Option LifecycleError) := do
  let stdout ← joinStdoutThread world none
  let stderr ← joinStderrThread world stdout
  storing stderr (drainMonitor world strict fuel)

/-- Verify and remove the private session: whether it is gone, and the first error. -/
def removeSession (slot : Option LifecycleError) : Owner W (Bool × Option LifecycleError) := do
  let owner ← readOwner
  match owner.session with
  | none => return (true, slot)
  | some session => do
      let verified ← ask world.verifySecurity
      let slot := storeNative slot verified
      observe (.removing session.directory)
      let cleaned ← ask world.cleanupSession
      match cleaned with
      | .ok () => return (true, slot)
      | .error error => return (false, storeFirstError slot (.launch error))

/-- Dropping the process closes its handle and that of the Job. -/
def releaseProcess : Owner W Unit := do
  let owner ← readOwner
  match owner.process with
  | none => return ()
  | some process => do
      modifyOwner fun owner => { owner with process := none }
      observe (.released process.process)

/-- The part of a cleanup after the Job is empty: whether the session is gone, and the
first error. -/
def releaseOwned (strict : Bool) (slot : Option LifecycleError) (fuel : Nat) :
    Owner W (Bool × Option LifecycleError) := do
  releaseProcess
  let joined ← joinMonitors world strict fuel
  let (removed, slot) ← removeSession world (slot.or joined)
  if removed then modifyOwner fun owner => { owner with session := none }
  modifyOwner fun owner => { owner with runtime := none, upstreamSecret := none }
  if removed then enter .cleaned
  return (removed, slot)

/-- The error of a cleanup, if any. -/
def abortAndCleanup (fuel : Nat) : Owner W (Option LifecycleError) := do
  enter .stopping
  let (empty, slot) ← terminateJob world fuel
  if !empty then return some (slot.getD .jobDidNotBecomeEmpty)
  else do
    let (_, slot) ← releaseOwned world false slot fuel
    return slot

/-! ## Launch -/

def attachStartupStderrCount (error : LifecycleError) (bytes : Nat) : LifecycleError :=
  match error with
  | .interpreterExitedBeforeReadiness exitCode _ => .interpreterExitedBeforeReadiness exitCode bytes
  | other => other

def RuntimeOwner.new (upstreamPort : UInt16) (secret : Secret) (limits : LifecycleLimits)
    (session : PrivateSession) (process : JobProcess) : RuntimeOwner where
  upstreamPort := upstreamPort
  upstreamSecret := some secret
  limits := limits
  session := some session
  process := some process
  runtime := none
  stdoutThread := true
  stderrThread := true
  monitorState := .awaitingStart
  ignoredStdoutLines := 0
  discardedStderrBytes := 0
  stdoutEnded := false
  ownerState := .starting

/-- The part of `launch_validated_inner` after the owner is built. -/
def superviseStartup (fuel : Nat) : Owner W Unit := do
  let outcome ← (waitUntilReady world fuel).attempt
  match outcome with
  | .ok () => return ()
  | .error .running => fail .running
  | .error (.failed primary) => do
      let cleanup ← abortAndCleanup world fuel
      let owner ← readOwner
      failed (combineCleanupError (attachStartupStderrCount primary owner.discardedStderrBytes)
        cleanup)

/-- A launch: refused before an owner existed, or the outcome and the machine of its owner. -/
inductive Launch (W : Type) where
  | refused (error : LifecycleError)
  | owned (outcome : Except Stop Unit) (machine : Machine W)

/-- A failed step before the process: the session is removed again. -/
def refusePrelaunch (primary : LifecycleError) (w : W) : Launch W :=
  match world.cleanupSession w with
  | (.ok (), _) => .refused primary
  | (.error cleanup, _) => .refused (combineCleanupError primary (some (.launch cleanup)))

/-- `channel` is what the two monitor threads of this launch will send. -/
def launchValidatedInner (platform : Platform) (fuel : Nat) (bundle : ValidatedBundle)
    (upstreamPort : UInt16) (secret : Secret) (limits : LifecycleLimits)
    (channel : List MonitorMessage) (w : W) : Launch W :=
  match world.createSession w with
  | (.error error, _) => .refused error
  | (.ok session, w) =>
      match world.writeTokenFile session secret w with
      | (.error error, w) => refusePrelaunch world (.launch error) w
      | (.ok (), w) =>
          match launchCommand platform bundle upstreamPort session with
          | .error error => refusePrelaunch world error w
          | .ok command =>
              match world.createProcess command w with
              | (.error error, w) => refusePrelaunch world (.launch error) w
              | (.ok process, w) =>
                  match world.startMonitors process w with
                  | (.error error, _) => .refused error
                  | (.ok (), w) =>
                      let owner := RuntimeOwner.new upstreamPort secret limits session
                        process.takeStdout.2.takeStderr.2
                      let run := superviseStartup world fuel ⟨owner, channel, w, []⟩
                      .owned run.1 run.2

end Rpackit.Lifecycle
