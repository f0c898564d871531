import Rpackit.Launcher.Protocol
import Rpackit.Transport.State
import Rpackit.Windows.Values

/-! # Values of the lifecycle crate -/

namespace Rpackit.Lifecycle

open Text Launcher

/-- Durations and instants are in nanoseconds. -/
structure LifecycleLimits where
  startupTimeout : Nat
  listenerTimeout : Nat
  readinessIoTimeout : Nat
  gracefulTimeout : Nat
  terminationTimeout : Nat
  pollInterval : Nat
  deriving DecidableEq, Repr

/-- `LifecycleLimits::default`. -/
def LifecycleLimits.default : LifecycleLimits where
  startupTimeout := Transport.seconds 30
  listenerTimeout := Transport.seconds 3
  readinessIoTimeout := Transport.seconds 1
  gracefulTimeout := Transport.seconds 5
  terminationTimeout := Transport.seconds 5
  pollInterval := 25 * 1000000

structure PrivateSession where
  directory : WindowsPath
  tokenPath : WindowsPath
  controlPath : WindowsPath
  deriving DecidableEq, Repr

inductive LifecycleError where
  | invalidLimits
  | invalidRuntimeTopology
  | unsupportedRPath
  | rPathAliasMismatch
  | unsupportedWindowsArchitecture
  | architectureRscriptUnavailable
  | launch (error : Windows.LaunchError)
  | protocol (error : ProtocolError)
  | io (operation : String)
  | tokenNotConsumed
  | launcherReportedFailure (phase : ErrorPhase)
  | interpreterExitedBeforeReadiness (exitCode : UInt32) (discardedStderrBytes : Nat)
  | runtimeExitedBeforeReadiness
  | stoppedBeforeReadiness
  | readinessTimeout
  | monitorDisconnected
  | protocolStreamReadFailed
  | protocolStreamEnded
  | stderrStreamReadFailed
  | stoppedUnexpectedly
  | wrapperExitedUnexpectedly
  | runtimeExitedUnexpectedly
  | unexpectedLifecycleState (state : LifecycleState)
  | processDidNotExit
  | ownerNotRunning
  | ownerStillHasLiveResources
  | ownerAlreadyCleaned
  | runtimeIdentityUnavailable
  | privateSessionUnavailable
  | jobDidNotBecomeEmpty
  | monitorThreadPanicked (thread : String)
  | cleanupAfterFailure (primary cleanup : LifecycleError)
  deriving DecidableEq, Repr

/-- The error of a failed step, with the error of its cleanup if that failed too. -/
def combineCleanupError (primary : LifecycleError) (cleanup : Option LifecycleError) :
    LifecycleError :=
  match cleanup with
  | some cleanup => .cleanupAfterFailure primary cleanup
  | none => primary

end Rpackit.Lifecycle
