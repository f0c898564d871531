import Rpackit.Library.Fallible
import Rpackit.Library.Text
import Rpackit.Library.WindowsPath

/-! # The resource manifest

Only one contract is accepted: schema 1 on Windows, launcher protocol 2, and
installed dependencies. Everything else is an error that names no path content.
-/

namespace Rpackit.Bundle

open Text Fallible

/-! ## Fields -/

structure AppManifest where
  name : String
  appType : String
  path : String
  deriving DecidableEq, Repr

structure RuntimeProvenance where
  registry : String
  metadataSource : String
  artifactUrl : String
  sha256 : String
  archiveFormat : String
  cacheHit : Bool
  deriving DecidableEq, Repr

structure RuntimeManifest where
  path : String
  rscript : String
  library : String
  platform : String
  rVersion : Option String
  source : String
  provenance : Option RuntimeProvenance
  deriving DecidableEq, Repr

structure EventStreamManifest where
  format : String
  destination : String
  eventPrefix : String
  deriving DecidableEq, Repr

structure AuthenticationManifest where
  scheme : String
  header : String
  scope : List String
  tokenTransport : String
  tokenInUrl : Bool
  minimumShinyVersion : String
  deriving DecidableEq, Repr

structure ReadinessManifest where
  strategy : String
  startingEvent : String
  deriving DecidableEq, Repr

structure LauncherManifest where
  script : String
  host : String
  port : String
  token : String
  control : String
  protocolVersion : String
  eventStream : EventStreamManifest
  networkTokenEnforced : Bool
  authentication : AuthenticationManifest
  readiness : ReadinessManifest
  deriving DecidableEq, Repr

structure DependencyConstraint where
  package : String
  requirement : String
  deriving DecidableEq, Repr

structure DependencyManifest where
  installed : Bool
  strategy : String
  packages : List String
  lockedRVersion : Option String
  rConstraint : Option String
  constraints : List DependencyConstraint
  constraintsVerified : Bool
  deriving DecidableEq, Repr

structure CreatedByManifest where
  package : String
  version : String
  deriving DecidableEq, Repr

structure Manifest where
  schemaVersion : String
  bundleType : String
  app : AppManifest
  runtime : RuntimeManifest
  launcher : LauncherManifest
  dependencies : DependencyManifest
  createdBy : CreatedByManifest
  deriving DecidableEq, Repr

inductive AppType where
  | singleFile
  | split
  deriving DecidableEq, Repr

inductive RuntimeSource where
  | explicit
  | registry
  deriving DecidableEq, Repr

inductive BundleError where
  | invalidBundleRoot
  | invalidManifestJson
  | unsupportedResourceContract
  | unsupportedLauncherContract
  | unsupportedRuntimeContract
  | invalidRuntimeProvenance
  | unsupportedApplicationLayout
  | applicationLayoutMismatch
  | incompleteDependencies
  | invalidDependencies
  | invalidCreator
  | invalidManifestText
  | unsafeManifestPath (field : String)
  | reparsePoint (field : String)
  | wrongResourceType (field : String)
  | resourceTooLarge (operation : String)
  | invalidLauncherText
  | launcherContractMismatch
  | fileSystem (operation : String) (source : LookupError)
  deriving DecidableEq, Repr

/-- What the URL parser tells about a URL. -/
structure ParsedUrl where
  scheme : String
  hasHost : Bool
  username : String
  hasPassword : Bool
  hasQuery : Bool
  hasFragment : Bool
  deriving DecidableEq, Repr

/-- The parsers for strict JSON and for URLs. -/
structure Crates where
  manifest : Bytes → Option Manifest
  url : String → Option ParsedUrl

/-! ## Texts -/

def maxPackages : Nat := 4096
def maxConstraints : Nat := 4096
def maxShortTextBytes : Nat := 256
def maxRequirementBytes : Nat := 512
def maxUrlBytes : Nat := 4096

/-- A text that is not empty, not longer than the bound, and has no control character. -/
def isBoundedText (value : String) (maximum : Nat) : Bool :=
  !value.isEmpty && value.utf8ByteSize ≤ maximum && !value.toList.any isControl

def validLeaf (value : String) : Bool :=
  !value.isEmpty && value.utf8ByteSize ≤ maxShortTextBytes
    && !(value.toList.any fun c => c == '/' || c == '\\' || c == ':')
    && value != "." && value != ".." && !value.toList.any isControl

def isAsciiAlphabetic (b : UInt8) : Bool := isAsciiUppercase b || isAsciiLowercase b

def validPackageName (value : String) : Bool :=
  match asBytes value with
  | [] => false
  | first :: rest =>
      isAsciiAlphabetic first && (rest.all fun b => isAsciiAlphanumeric b || b == dot)
      && value.utf8ByteSize ≤ maxShortTextBytes

def validateShortText (value : String) : Except BundleError Unit :=
  rejectIf (!isBoundedText value maxShortTextBytes) .invalidManifestText

def validVersionText (value : String) : Bool :=
  !value.isEmpty && value.utf8ByteSize ≤ maxShortTextBytes
    && (asBytes value).all fun b =>
      isAsciiAlphanumeric b || b == dot || b == 0x2D || b == plus || b == 0x5F

/-- Printable ASCII. -/
def validRequirement (value : String) : Bool :=
  !value.isEmpty && value.utf8ByteSize ≤ maxRequirementBytes
    && (asBytes value).all fun b => b == space || (0x21 ≤ b && b ≤ 0x7E)

def validateOptionalRequirement (value : Option String) : Except BundleError Unit :=
  rejectIf (value.any fun requirement => !validRequirement requirement) .invalidDependencies

/-! ## References -/

def validHttpsUrl (crates : Crates) (value : String) : Bool :=
  isBoundedText value maxUrlBytes && (crates.url value).any fun url =>
    url.scheme == "https" && url.hasHost && url.username.isEmpty && !url.hasPassword
      && !url.hasQuery && !url.hasFragment

def isHttpsReference (value : String) : Bool :=
  eqIgnoreAsciiCase ((asBytes value).take 8) (asBytes "https://")

def colon : UInt8 := 0x3A

def hasNonFileUrlScheme (value : String) : Bool :=
  match splitOnce colon (asBytes value) with
  | none => false
  | some (scheme, rest) =>
      let windowsDrive := scheme.length == 1 && scheme.all isAsciiAlphabetic
        && rest.head?.any fun b => b == slash || b == backslash
      !windowsDrive && scheme.head?.any isAsciiAlphabetic
        && scheme.all fun b => isAsciiAlphanumeric b || b == plus || b == dot || b == 0x2D

def validSourceReference (crates : Crates) (value : String) : Bool :=
  isBoundedText value maxUrlBytes &&
    if isHttpsReference value then validHttpsUrl crates value
    else
      let bytes := asBytes value
      !([backslash, backslash].isPrefixOf bytes || [slash, slash].isPrefixOf bytes
        || (bytes.any fun b => b == 0x3F || b == 0x23) || hasNonFileUrlScheme value)

/-! ## Validation -/

def validateProvenance (crates : Crates) (provenance : RuntimeProvenance) :
    Except BundleError Unit :=
  rejectIf (provenance.archiveFormat != "zip" || provenance.sha256.utf8ByteSize != 64
    || !((asBytes provenance.sha256).all fun b => isAsciiDigit b || (0x61 ≤ b && b ≤ 0x66))
    || !validSourceReference crates provenance.registry
    || !validSourceReference crates provenance.metadataSource
    || !validSourceReference crates provenance.artifactUrl
    || (isHttpsReference provenance.registry && (!isHttpsReference provenance.metadataSource
      || !isHttpsReference provenance.artifactUrl))) .invalidRuntimeProvenance

def validateRuntimeManifest (crates : Crates) (runtime : RuntimeManifest) :
    Except BundleError RuntimeSource := do
  rejectIf (runtime.path != "R" || runtime.rscript != "R/bin/Rscript.exe"
    || runtime.library != "R/library" || runtime.platform != "windows") .unsupportedRuntimeContract
  rejectIf (runtime.rVersion.any fun version => !validVersionText version)
    .unsupportedRuntimeContract
  match runtime.source, runtime.provenance with
  | "explicit", none => return .explicit
  | "registry", some provenance => do
      rejectIf runtime.rVersion.isNone .invalidRuntimeProvenance
      validateProvenance crates provenance
      return .registry
  | _, _ => throw .invalidRuntimeProvenance

def validateLauncherManifest (launcher : LauncherManifest) : Except BundleError Unit :=
  rejectIf (launcher.script != "launcher.R" || launcher.host != "127.0.0.1"
    || launcher.port != "required-argument" || launcher.token != "private-file"
    || launcher.control != "optional-argument" || launcher.protocolVersion != "2"
    || launcher.eventStream.format != "ndjson" || launcher.eventStream.destination != "stdout"
    || launcher.eventStream.eventPrefix != "RPACKIT_EVENT " || !launcher.networkTokenEnforced
    || launcher.authentication.scheme != "shiny-shared-secret"
    || launcher.authentication.header != "Shiny-Shared-Secret"
    || launcher.authentication.scope != ["http", "websocket"]
    || launcher.authentication.tokenTransport != "private-file"
    || launcher.authentication.tokenInUrl
    || launcher.authentication.minimumShinyVersion != "1.3.0"
    || launcher.readiness.strategy != "authenticated-http-poll"
    || launcher.readiness.startingEvent != "listening") .unsupportedLauncherContract

def requiredPackages : List String := ["jsonlite", "later", "shiny"]

def validateDependencyManifest (dependencies : DependencyManifest) : Except BundleError Unit := do
  rejectIf (!dependencies.installed || !dependencies.constraintsVerified
    || !(dependencies.strategy == "install-packages" || dependencies.strategy == "renv-restore")
    || dependencies.packages.isEmpty || dependencies.packages.length > maxPackages
    || dependencies.constraints.length > maxConstraints) .incompleteDependencies
  rejectIf (dependencies.packages.any fun package => !validPackageName package)
    .invalidDependencies
  rejectIf (!decide dependencies.packages.Nodup) .invalidDependencies
  rejectIf (requiredPackages.any fun required => !dependencies.packages.contains required)
    .incompleteDependencies
  validateOptionalRequirement dependencies.lockedRVersion
  validateOptionalRequirement dependencies.rConstraint
  -- one pass in the source: it stops at the first bad or repeated constraint
  rejectIf ((dependencies.constraints.any fun constraint => !validPackageName constraint.package
    || !dependencies.packages.contains constraint.package
    || !validRequirement constraint.requirement) || !decide dependencies.constraints.Nodup)
    .invalidDependencies

/-- The layout and the runtime source of an accepted manifest. -/
structure ManifestSemantics where
  appType : AppType
  runtimeSource : RuntimeSource
  deriving DecidableEq, Repr

def parseAppType : String → Except BundleError AppType
  | "shiny-single-file" => .ok .singleFile
  | "shiny-split" => .ok .split
  | _ => .error .unsupportedApplicationLayout

def validateManifest (crates : Crates) (manifest : Manifest) :
    Except BundleError ManifestSemantics := do
  rejectIf (manifest.schemaVersion != "1" || manifest.bundleType != "rpackit-desktop-resources")
    .unsupportedResourceContract
  validateShortText manifest.app.name
  let appType ← parseAppType manifest.app.appType
  rejectIf (manifest.app.path != "app") (.unsafeManifestPath "app.path")
  let runtimeSource ← validateRuntimeManifest crates manifest.runtime
  validateLauncherManifest manifest.launcher
  validateDependencyManifest manifest.dependencies
  rejectIf (manifest.createdBy.package != "rpackit"
    || !validVersionText manifest.createdBy.version) .invalidCreator
  return ⟨appType, runtimeSource⟩

/-- An accepted manifest names the fixed resources. -/
theorem validateManifest_paths {crates : Crates} {manifest : Manifest}
    {semantics : ManifestSemantics} (hok : validateManifest crates manifest = .ok semantics) :
    manifest.app.path = "app" ∧ manifest.runtime.path = "R" ∧
      manifest.runtime.rscript = "R/bin/Rscript.exe" ∧ manifest.runtime.library = "R/library" ∧
      manifest.launcher.script = "launcher.R" := by
  simp only [validateManifest, validateRuntimeManifest, validateLauncherManifest,
    bind_eq_ok_iff, rejectIf_eq_ok_iff, Bool.or_eq_false_iff, bne_eq_false_iff_eq] at hok
  obtain ⟨-, -, -, -, -, -, -, happ, -, ⟨-, hruntime, -⟩, -, hlauncher, -⟩ := hok
  exact ⟨happ, hruntime.1.1.1, hruntime.1.1.2, hruntime.1.2, by tauto⟩

end Rpackit.Bundle
