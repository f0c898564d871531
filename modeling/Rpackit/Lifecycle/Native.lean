import Rpackit.Library.Program
import Rpackit.Lifecycle.Command
import Rpackit.Lifecycle.Monitor
import Rpackit.Windows.ListenerTable

/-! # Native calls of the runtime owner

Everything the owner asks the operating system is a function of a `World`: any
answers, in any order, at any time. A program of the owner runs on a `Machine`,
which also holds what the monitor threads have still to deliver and a record of
what the owner observed.
-/

namespace Rpackit.Lifecycle

open Text Launcher
open Rpackit.Windows (AddressFamily JobMemberProcess JobProcess LaunchCommand LaunchError
  ListenerRow exactRows ipv4TableRows ipv6TablePorts rowsOnPort)

/-! ## The owner -/

inductive OwnerState where
  | starting
  | ready
  | stopping
  | cleaned
  deriving DecidableEq, Repr

structure RuntimeOwner where
  upstreamPort : UInt16
  upstreamSecret : Option Transport.Secret
  limits : LifecycleLimits
  session : Option PrivateSession
  process : Option JobProcess
  runtime : Option JobMemberProcess
  stdoutThread : Bool
  stderrThread : Bool
  monitorState : LifecycleState
  ignoredStdoutLines : Nat
  discardedStderrBytes : Nat
  stdoutEnded : Bool
  ownerState : OwnerState

/-! ## The world -/

/-- What a wait on the channel finds. -/
inductive Arrival where
  | arrived
  | nothing
  | disconnected
  deriving DecidableEq, Repr

/-- The answers of the operating system; each call may change its state. -/
structure World (W : Type) where
  instantLimit : Nat
  now : W → Nat × W
  sleep : Nat → W → W
  arrival : Nat → W → Arrival × W
  wait : Nat → Nat → W → Except LaunchError (Option UInt32) × W
  openProcess : UInt32 → W → Except LaunchError Nat × W
  creationTime : Nat → W → Except LaunchError Nat × W
  isAlive : Nat → W → Except LaunchError Bool × W
  isInJob : Nat → Nat → W → Except LaunchError Bool × W
  /-- `tcp_listener_table`: the words that the system filled. -/
  tcpListenerTable : AddressFamily → W → Except LaunchError (List UInt64) × W
  /-- `try_exists`; `none` for an error. -/
  tokenExists : WindowsPath → W → Option Bool × W
  connect : UInt16 → Nat → W → Bool × W
  setReadTimeout : Nat → W → Bool × W
  setWriteTimeout : Nat → W → Bool × W
  writeAll : Bytes → W → Bool × W
  /-- One byte of the answer; `none` at its end and for an error. -/
  readByte : W → Option UInt8 × W
  terminate : Nat → W → Except LaunchError Unit × W
  activeProcessCount : Nat → W → Except LaunchError UInt32 × W
  /-- Whether the thread ended without a panic. -/
  joinStdout : W → Bool × W
  joinStderr : W → Option Nat × W
  verifySecurity : W → Except LaunchError Unit × W
  cleanupSession : W → Except LaunchError Unit × W
  createControlFile : PrivateSession → W → Except LaunchError Unit × W
  createSession : W → Except LifecycleError PrivateSession × W
  writeTokenFile : PrivateSession → Transport.Secret → W → Except LaunchError Unit × W
  /-- `launch` after the command is validated. -/
  createProcess : LaunchCommand → W → Except LaunchError JobProcess × W
  /-- Take the pipes and start the two monitor threads; a failure aborts the Job and cleans up. -/
  startMonitors : JobProcess → W → Except LifecycleError Unit × W

/-- What the owner observed and did, and the states it entered. -/
inductive Observation where
  | received (message : MonitorMessage)
  | waited (handle : Nat) (exitCode : Option UInt32)
  | tokenExists (present : Bool)
  | opened (pid : UInt32) (handle : Nat)
  | alive (handle : Nat) (alive : Bool)
  | inJob (handle job : Nat) (member : Bool)
  | listeners (ipv4 : List ListenerRow) (ipv6 : List UInt16)
  | connected (port : UInt16)
  | sent (request : Bytes)
  | statusLine (line : Bytes)
  | activeProcesses (job : Nat) (count : UInt32)
  | released (handle : Nat)
  | removing (directory : WindowsPath)
  | entered (state : OwnerState)
  deriving DecidableEq, Repr

/-- The owner, the messages still to be delivered, the world, and the record. -/
structure Machine (W : Type) where
  owner : RuntimeOwner
  channel : List MonitorMessage
  world : W
  log : List Observation

/-- Why a program stopped: an error of the source, or no fuel left for a loop. -/
inductive Stop where
  | failed (error : LifecycleError)
  | running
  deriving DecidableEq, Repr

variable {W : Type} {ε α : Type}

abbrev Native (W α : Type) := Program (Machine W) LaunchError α

abbrev Owner (W α : Type) := Program (Machine W) Stop α

open Program (fail)

def ask (call : W → α × W) : Program (Machine W) ε α := fun machine =>
  (.ok (call machine.world).1, { machine with world := (call machine.world).2 })

def observe (observation : Observation) : Program (Machine W) ε Unit :=
  Program.modify fun machine => { machine with log := machine.log ++ [observation] }

def askNative (call : W → Except LaunchError α × W) : Native W α := do
  let answer ← ask call
  Program.ofExcept answer

def readOwner : Program (Machine W) ε RuntimeOwner := do
  let machine ← Program.get
  return machine.owner

def modifyOwner (f : RuntimeOwner → RuntimeOwner) : Program (Machine W) ε Unit :=
  Program.modify fun machine => { machine with owner := f machine.owner }

def enter (state : OwnerState) : Program (Machine W) ε Unit := do
  modifyOwner fun owner => { owner with ownerState := state }
  observe (.entered state)

def failed (error : LifecycleError) : Owner W α := fail (.failed error)

def liftNative (x : Native W α) : Owner W α := x.mapError fun error => .failed (.launch error)

/-! ## Processes and listeners -/

variable (world : World W)

def waitForProcess (handle timeout : Nat) : Native W (Option UInt32) := do
  let exitCode ← askNative (world.wait handle timeout)
  observe (.waited handle exitCode)
  return exitCode

def activeProcessCount (job : Nat) : Native W UInt32 := do
  let count ← askNative (world.activeProcessCount job)
  observe (.activeProcesses job count)
  return count

def requireAlive (handle : Nat) : Native W Unit := do
  let alive ← askNative (world.isAlive handle)
  observe (.alive handle alive)
  if alive then return () else fail .processAlreadyExited

def requireInJob (handle job : Nat) : Native W Unit := do
  let member ← askNative (world.isInJob handle job)
  observe (.inJob handle job member)
  if member then return () else fail .processOutsideJob

def readListenerTable (family : AddressFamily) (rows : List UInt64 → Except LaunchError α) :
    Native W α := do
  let table ← askNative (world.tcpListenerTable family)
  Program.ofExcept (rows table)

def ipv4ListenerRows : Native W (List ListenerRow) := readListenerTable world .inet ipv4TableRows

def ipv6ListenerPorts : Native W (List UInt16) := readListenerTable world .inet6 ipv6TablePorts

def captureJobMember (process : JobProcess) (pid : UInt32) : Native W JobMemberProcess := do
  if pid = 0 then fail .invalidProcessId
  else do
    let handle ← askNative (world.openProcess pid)
    observe (.opened pid handle)
    requireAlive world handle
    let creationTime ← askNative (world.creationTime handle)
    requireInJob world handle process.job
    requireAlive world handle
    return ⟨handle, ⟨pid, creationTime⟩⟩

def verifyIpv4Listener (process : JobProcess) (member : JobMemberProcess) (port : UInt16) :
    Native W Unit := do
  if port = 0 then fail .invalidListenerPort
  else do
    requireAlive world member.process
    requireInJob world member.process process.job
    let ipv4 ← ipv4ListenerRows world
    let ipv6 ← ipv6ListenerPorts world
    observe (.listeners ipv4 ipv6)
    let exact := exactRows ipv4 port member.identity.pid
    if rowsOnPort ipv4 port ≠ exact ∨ exact > 1 ∨ ipv6.count port ≠ 0 then
      fail .conflictingListener
    else if exact = 0 then fail .expectedListenerNotFound
    else do
      requireInJob world member.process process.job
      requireAlive world member.process

end Rpackit.Lifecycle
