import Rpackit.Bundle.Validate
import Rpackit.Lifecycle.Values
import Rpackit.Windows.ProcessEnvironment

/-! # The launch command

The owner starts the x64 interpreter beside the validated `Rscript.exe`. R cannot
use verbatim paths, so every path is handed over in its ordinary spelling, after
both spellings were resolved to the same place.
-/

namespace Rpackit.Lifecycle

open Fallible Rpackit.Bundle
open Rpackit.Windows (CompareStringOrdinal LaunchCommand LaunchEnvironment LaunchError
  ProcessEnvironment validateCommand)

/-! ## R-compatible paths -/

def appendNormalComponents (path : WindowsPath) :
    List Component → Except LifecycleError WindowsPath
  | [] => return path
  | .rootDir :: rest => appendNormalComponents path rest
  | .normal value :: rest => appendNormalComponents (path.push value) rest
  | _ => throw .unsupportedRPath

def ordinaryWindowsPath (path : WindowsPath) : Except LifecycleError WindowsPath :=
  match path.components with
  | .pathPrefix (.disk _) :: _ => return path
  | .pathPrefix (.unc _ _) :: _ => return path
  | .pathPrefix (.verbatimDisk drive) :: rest =>
      appendNormalComponents ⟨[.pathPrefix (.disk drive), .rootDir]⟩ rest
  | .pathPrefix (.verbatimUnc server share) :: rest =>
      appendNormalComponents ⟨[.pathPrefix (.unc server share), .rootDir]⟩ rest
  | _ => throw .unsupportedRPath

def lifecycleIo {α : Type} (operation : String) (answer : Except LookupError α) :
    Except LifecycleError α := answer.mapError fun _ => .io operation

def rCompatibleExistingPath (fs : Fs) (path : WindowsPath) : Except LifecycleError WindowsPath := do
  rejectIf (!path.isAbsolute) .unsupportedRPath
  let compatible ← ordinaryWindowsPath path
  let canonicalOriginal ← lifecycleIo "canonicalize validated R path" (fs.canonicalize path)
  let canonicalCompatible ← lifecycleIo "canonicalize R-compatible path alias"
    (fs.canonicalize compatible)
  rejectIf (canonicalOriginal != canonicalCompatible) .rPathAliasMismatch
  return compatible

/-! ## The environment of the bundled R -/

def ambientRVariables : List OsString :=
  ["R_ARCH", "R_DOC_DIR", "R_ENVIRON", "R_ENVIRON_USER", "R_HOME", "R_INCLUDE_DIR", "R_LIBS",
    "R_LIBS_SITE", "R_LIBS_USER", "R_PROFILE", "R_PROFILE_USER", "R_SHARE_DIR",
    "RPACKIT_LAUNCH_PROTOCOL", "RPACKIT_SESSION_TOKEN"].map osString

def pathSeparator : UInt16 := 0x3B

/-- The pushes that make up `PATH`. -/
def searchPath (interpreterDirectory rscriptDirectory : WindowsPath) (ambient : Option OsString) :
    OsString :=
  let path := interpreterDirectory.asOsString ++ [pathSeparator] ++ rscriptDirectory.asOsString
  match ambient with
  | none => path
  | some ambientPath => if ambientPath.isEmpty then path else path ++ [pathSeparator] ++ ambientPath

/-- The first two statements: the current environment without the ambient variables of R. -/
def clearedEnvironment (ordinal : CompareStringOrdinal) (process : ProcessEnvironment) :
    Except LaunchError LaunchEnvironment := do
  let environment ← LaunchEnvironment.fromCurrent ordinal process.vars
  ambientRVariables.foldlM (LaunchEnvironment.tryRemove ordinal) environment

/-- A call whose failure is carried by `LifecycleError::Launch`. -/
def launched {α : Type} (answer : Except LaunchError α) : Except LifecycleError α :=
  answer.mapError .launch

def bundledREnvironment (ordinal : CompareStringOrdinal) (fs : Fs) (process : ProcessEnvironment)
    (bundle : ValidatedBundle) (interpreter : WindowsPath) :
    Except LifecycleError LaunchEnvironment := do
  let environment ← launched (clearedEnvironment ordinal process)
  let rscriptDirectory ← okOr bundle.rscript.parent .invalidRuntimeTopology
  let runtimeHome ← okOr rscriptDirectory.parent .invalidRuntimeTopology
  let runtimeHome ← rCompatibleExistingPath fs runtimeHome
  let library ← rCompatibleExistingPath fs bundle.library
  let environment ← launched
    (environment.trySet ordinal (osString "R_HOME") runtimeHome.asOsString)
  let environment ← launched (environment.trySet ordinal (osString "R_LIBS") library.asOsString)
  let environment ← launched
    (environment.trySet ordinal (osString "R_LIBS_SITE") library.asOsString)
  let environment ← launched
    (environment.trySet ordinal (osString "R_LIBS_USER") library.asOsString)
  let environment ← launched
    (environment.trySet ordinal (osString "RPACKIT_LAUNCH_PROTOCOL") (osString "2"))
  let interpreterDirectory ← okOr interpreter.parent .invalidRuntimeTopology
  let rscriptDirectory ← rCompatibleExistingPath fs rscriptDirectory
  launched (environment.trySet ordinal (osString "PATH")
    (searchPath interpreterDirectory rscriptDirectory process.path))

/-! ## The bundled command -/

/-- What a launch finds around it: the comparison of names and the environment of the own
process among it. -/
structure Platform where
  arch : String
  fs : Fs
  ordinal : CompareStringOrdinal
  process : ProcessEnvironment

def bundledRInterpreter (platform : Platform) (bundle : ValidatedBundle) :
    Except LifecycleError WindowsPath := do
  rejectIf (platform.arch != "x86_64") .unsupportedWindowsArchitecture
  let rscriptDirectory ← okOr bundle.rscript.parent .invalidRuntimeTopology
  let interpreter := (rscriptDirectory.push (osString "x64")).push (osString "Rscript.exe")
  rejectIf (!platform.fs.isFile interpreter) .architectureRscriptUnavailable
  return interpreter

def bundledRCommand (fs : Fs) (bundle : ValidatedBundle) (interpreter : WindowsPath)
    (port : UInt16) (tokenPath controlPath : WindowsPath) (environment : LaunchEnvironment) :
    Except LifecycleError LaunchCommand := do
  let resources ← rCompatibleExistingPath fs bundle.resources
  let launcher ← rCompatibleExistingPath fs bundle.launcher
  let app ← rCompatibleExistingPath fs bundle.app
  let tokenParent ← okOr tokenPath.parent .invalidRuntimeTopology
  rejectIf (controlPath.parent != some tokenParent) .invalidRuntimeTopology
  let sessionDirectory ← rCompatibleExistingPath fs tokenParent
  let tokenName ← okOr tokenPath.fileName .invalidRuntimeTopology
  let controlName ← okOr controlPath.fileName .invalidRuntimeTopology
  return {
    program := interpreter
    arguments := [osString "--vanilla", launcher.asOsString, osString "--app", app.asOsString,
      osString "--port", osString (toString port.toNat), osString "--token-file",
      (sessionDirectory.push tokenName).asOsString, osString "--control",
      (sessionDirectory.push controlName).asOsString]
    currentDirectory := resources
    environment := some environment }

/-- The command that is handed to process creation. -/
def launchCommand (platform : Platform) (bundle : ValidatedBundle) (port : UInt16)
    (session : PrivateSession) : Except LifecycleError LaunchCommand := do
  let found ← bundledRInterpreter platform bundle
  let interpreter ← rCompatibleExistingPath platform.fs found
  let environment ← bundledREnvironment platform.ordinal platform.fs platform.process bundle
    interpreter
  let command ← bundledRCommand platform.fs bundle interpreter port session.tokenPath
    session.controlPath environment
  launched (validateCommand platform.fs.isFile platform.fs.isDir command)
  return command

end Rpackit.Lifecycle
