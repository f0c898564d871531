import Rpackit.Library.Fallible
import Rpackit.Library.WindowsPath

/-! # Values of the launcher crate -/

namespace Rpackit.Windows

open Fallible

/-- The kinds of `std::io::Error` that the crate tells apart. -/
inductive ErrorKind where
  | notFound
  | permissionDenied
  | notADirectory
  | directoryNotEmpty
  | other (code : Nat)
  deriving DecidableEq, Repr

inductive LaunchError where
  | invalidProgramPath
  | invalidCurrentDirectory
  | invalidSessionParent
  | invalidToken
  | randomGenerationFailed
  | sessionNameCollisions
  | privateFileAlreadyExists (label : String)
  | privateDaclMismatch
  | malformedTokenInformation
  | malformedSecurityString
  | fileSystem (operation : String) (source : ErrorKind)
  | interiorNul (field : String)
  | commandLineTooLong
  | invalidEnvironmentName
  | invalidEnvironmentValue
  | environmentBlockTooLarge
  | environmentComparisonFailed
  | windowsApi (operation : String) (code : Nat)
  | jobMembershipNotEstablished
  | invalidProcessId
  | processAlreadyExited
  | processOutsideJob
  | invalidListenerPort
  | tcpTableQueryFailed (status : UInt32)
  | tcpTableChangedRepeatedly
  | malformedTcpTable
  | expectedListenerNotFound
  | conflictingListener
  | inheritableJobHandle
  | unexpectedJobPolicy
  | unexpectedSuspendCount (count : Nat)
  | unexpectedWaitResult (status : UInt32)
  deriving DecidableEq, Repr

structure EnvironmentEntry where
  name : OsString
  value : OsString
  deriving DecidableEq, Repr

structure LaunchEnvironment where
  entries : List EnvironmentEntry
  deriving DecidableEq, Repr

structure LaunchCommand where
  program : WindowsPath
  arguments : List OsString
  currentDirectory : WindowsPath
  environment : Option LaunchEnvironment
  deriving DecidableEq, Repr

structure ProcessIdentity where
  pid : UInt32
  creationTime : Nat
  deriving DecidableEq, Repr

/-- The launched process and the Job that owns its tree, by their handles, the ends of its
output that were not taken, and the identity of the process. -/
structure JobProcess where
  process : Nat
  job : Nat
  stdout : Option Nat
  stderr : Option Nat
  identity : ProcessIdentity
  deriving DecidableEq, Repr

structure JobMemberProcess where
  process : Nat
  identity : ProcessIdentity
  deriving DecidableEq, Repr

def JobProcess.takeStdout (process : JobProcess) : Option Nat × JobProcess :=
  (process.stdout, { process with stdout := none })

def JobProcess.takeStderr (process : JobProcess) : Option Nat × JobProcess :=
  (process.stderr, { process with stderr := none })

/-- `validate_command`, with what the file system says of the paths. -/
def validateCommand (isFile isDir : WindowsPath → Bool) (command : LaunchCommand) :
    Except LaunchError Unit := do
  rejectIf (!command.program.isAbsolute || !isFile command.program) .invalidProgramPath
  rejectIf (!command.currentDirectory.isAbsolute || !isDir command.currentDirectory)
    .invalidCurrentDirectory

end Rpackit.Windows
