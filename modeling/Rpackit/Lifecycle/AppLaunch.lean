import Mathlib.Data.List.Destutter
import Rpackit.Lifecycle.Desktop
import Rpackit.Transport.Listeners
import Rpackit.Transport.TrackedTasks

/-! # The launch of the native application

A launch validates the resources, reserves a port for the runtime, listens with the proxy and
starts the runtime behind it. Either both are there at its end, joined by one port and one
secret, or no socket of the launch is left.
-/

namespace Rpackit.Lifecycle.AppLaunch

open Fallible HandleTable HostSockets SystemCalls Text
open Transport Transport.Listeners Rpackit.Bundle

variable {W : Type}

/-! ## Limits -/

def maxLifecycleDuration : Nat := seconds 600
def maxPollInterval : Nat := seconds 1

def validateLimits (limits : LifecycleLimits) : Except LifecycleError Unit :=
  let bounded := [limits.startupTimeout, limits.listenerTimeout, limits.readinessIoTimeout,
    limits.gracefulTimeout, limits.terminationTimeout].all fun duration =>
      duration != 0 && duration ≤ maxLifecycleDuration
  rejectIf (!bounded || limits.pollInterval == 0 || limits.pollInterval > maxPollInterval ||
    limits.listenerTimeout > limits.startupTimeout) .invalidLimits

/-! ## Names -/

inductive HostResolution where
  | loopback (addresses : List IpAddr)
  | nonLoopback (addresses : List IpAddr)
  | unavailable
  deriving DecidableEq, Repr

/-- IPv4 addresses come first. -/
def addressLe : IpAddr → IpAddr → Bool
  | .v4 a, .v4 b => a ≤ b
  | .v4 _, .v6 _ => true
  | .v6 _, .v4 _ => false
  | .v6 a, .v6 b => a ≤ b

/-- `lookup` is the answer of the resolver. -/
def resolveHostname (lookup : Option (List IpAddr)) : HostResolution :=
  match lookup with
  | none => .unavailable
  | some resolved =>
      let addresses := (resolved.mergeSort addressLe).destutter (· ≠ ·)
      if addresses.isEmpty then .unavailable
      else if addresses.all isLoopback then .loopback addresses
      else .nonLoopback addresses

def HostResolution.isNonLoopback : HostResolution → Bool
  | .nonLoopback _ => true
  | _ => false

/-! ## The upstream port -/

/-- What a launch fails with. `invalidUpstreamPort` is an error of the runtime. -/
inductive LaunchFailure where
  | bundle (error : BundleError)
  | secretGeneration
  | configuration (error : ConfigError)
  | proxyStart (error : StartError)
  | proxyShutdown (error : ProxyError)
  | runtime (error : LifecycleError)
  | invalidUpstreamPort
  | nonLoopbackBrowserHost
  | lifecycleWorkerTerminated
  | cleanupAfterFailure (primary cleanup : LaunchFailure)
  deriving DecidableEq, Repr

abbrev Launching (α : Type) : Type := Sockets IpAddr LaunchFailure α

def refusedIo (operation : String) (_ : ErrorKind) : LaunchFailure := .runtime (.io operation)

/-- `TcpListener::bind`. -/
def bindLocalhost (listener : Handle) : Launching Unit := do
  request (.bind listener (.localhost, 0)) (refusedIo "reserve upstream loopback port")
  request (.listen listener 128) (refusedIo "reserve upstream loopback port")

/-- `TcpListener::local_addr`. -/
def reservedAddress (listener : Handle) : Launching (IpAddr × UInt16) := do
  let found ← request (.localAddr listener) (refusedIo "inspect reserved upstream port")
  .ofExcept (okOr found (.runtime (.io "inspect reserved upstream port")))

def selectUpstreamPort : Launching UInt16 := do
  let listener ← request (.socket .ipv4) (refusedIo "reserve upstream loopback port")
  (bindLocalhost listener).onError (close listener)
  let address ← (reservedAddress listener).onError (close listener)
  .always (close listener)
  let port := address.2
  .ofExcept (rejectIf (port == 0) .invalidUpstreamPort)
  return port

/-! ## The launch -/

variable (world : World W)

/-- `RuntimeOwner::launch_validated`; without an answer it is still starting. -/
def launchValidated (platform : Platform) (fuel : Nat) (bundle : ValidatedBundle)
    (port : UInt16) (secrets : TransportSecrets) (limits : LifecycleLimits)
    (channel : List MonitorMessage) (w : W) : Option (Except LaunchFailure (Machine W)) :=
  match validateLimits limits with
  | .error error => some (.error (.runtime error))
  | .ok () =>
      if port == 0 then some (.error .invalidUpstreamPort)
      else
        match launchValidatedInner world platform fuel bundle port secrets.upstream limits channel
          w with
        | .refused error => some (.error (.runtime error))
        | .owned (.error (.failed error)) _ => some (.error (.runtime error))
        | .owned (.error .running) _ => none
        | .owned (.ok ()) machine => some (.ok machine)

/-- What a launch meets: the answers of the bundle loader, the random generator, the resolver,
the blocking worker and the tasks of the proxy, and what the launcher writes on each port. -/
structure LaunchSurroundings (W : Type) where
  bundle : Except BundleError ValidatedBundle
  secrets : Option TransportSecrets
  nonce : Option Nonce
  lookup : ProxyAddress → Option (List IpAddr)
  workerReturns : Bool
  proxyStop : Except ProxyError Unit
  platform : Platform
  channel : UInt16 → List MonitorMessage
  w : W

/-- A launch that returned, or one whose runtime is still starting without more fuel. -/
inductive Launched (W : Type) where
  | starting (proxy : RunningProxy)
  | running (app : NativeAppOwner W RunningProxy) (resolution : HostResolution)

/-- The tasks of the proxy end with its listeners closed, whatever they report. -/
def shutdownProxy (around : LaunchSurroundings W) (proxy : RunningProxy) :
    SystemCalls (SocketCall IpAddr) SocketCall.Reply (Except ProxyError Unit) :=
  (closeAll [proxy.ipv4, proxy.ipv6]).bind fun () => .done around.proxyStop

def cleanupProxyAfterFailure {α : Type} (around : LaunchSurroundings W)
    (primary : LaunchFailure) (proxy : RunningProxy) : Launching α :=
  (shutdownProxy around proxy).bind fun stopped =>
    match stopped with
    | .ok () => .done (.error primary)
    | .error error => .done (.error (.cleanupAfterFailure primary (.proxyShutdown error)))

/-- The part after the proxy was started. -/
def launchBehind (fuel : Nat) (around : LaunchSurroundings W) (limits : LifecycleLimits)
    (bundle : ValidatedBundle) (port : UInt16) (secrets : TransportSecrets)
    (proxy : RunningProxy) : Launching (Launched W) :=
  let resolution := resolveHostname (around.lookup proxy.state.address)
  if resolution.isNonLoopback then
    cleanupProxyAfterFailure around .nonLoopbackBrowserHost proxy
  else if !around.workerReturns then
    cleanupProxyAfterFailure around .lifecycleWorkerTerminated proxy
  else
    match launchValidated world around.platform fuel bundle port secrets limits
      (around.channel port) around.w with
    | some (.ok machine) => .done (.ok (.running ⟨some proxy, some machine⟩ resolution))
    | some (.error error) => cleanupProxyAfterFailure around error proxy
    | none => .done (.ok (.starting proxy))

def launch (fuel : Nat) (around : LaunchSurroundings W) (lifecycleLimits : LifecycleLimits)
    (transportLimits : TransportLimits) : Launching (Launched W) := do
  .ofExcept ((validateLimits lifecycleLimits).mapError .runtime)
  let bundle ← .ofExcept (around.bundle.mapError .bundle)
  let port ← selectUpstreamPort
  let secrets ← .ofExcept (okOr around.secrets .secretGeneration)
  let config ← .ofExcept ((ProxyConfig.generateWithSecrets .localhost port secrets
    around.nonce).mapError .configuration)
  let proxy ← (start (config.withLimits transportLimits)).mapError .proxyStart
  launchBehind world fuel around lifecycleLimits bundle port secrets proxy

/-- Native-only browser launch material for one authenticated proxy. -/
structure BrowserLaunch where
  address : ProxyAddress
  session : Secret
  bootstrap : Secret
  deriving DecidableEq

def browserLaunch {E : Type} (app : NativeAppOwner W RunningProxy) :
    Except (NativeAppError E) BrowserLaunch := do
  let proxy ← okOr app.proxy .ownerNotRunning
  return ⟨proxy.state.address, proxy.state.secrets.session, proxy.state.secrets.bootstrap⟩

/-! ## What each part opens and leaves behind -/

section Parts

variable {base host : Host IpAddr} {handle : Handle} {socket : TcpSocket IpAddr} {port : UInt16}
  {around : LaunchSurroundings W} {proxy : RunningProxy}

theorem spec_bindLocalhost (hat : Before base [(handle, socket)] host) :
    Spec base (bindLocalhost handle) host
      (fun _ stop => ∃ bound : TcpSocket IpAddr,
        (∃ port : UInt16, port ≠ 0 ∧ bound.bound = some (.localhost, port)) ∧
          Before base [(handle, bound)] stop)
      (Listeners.Opened base handle []) := by
  refine .bind holds_opened (Spec.opened (ensures_bind rfl hat)) ?_
  rintro _ middle ⟨given, hgiven, hmiddle⟩
  rw [if_pos rfl] at hgiven
  refine FallibleCalls.Ensures.weaken (Spec.opened (ensures_change
    (fun socket => { socket with listening := true }) hmiddle rfl (.inr rfl) ?_)) ?_ fun _ => id
  · exact fun _ _ _ => id
  · exact fun _ stop hstop => ⟨_, ⟨given, hgiven, rfl⟩, hstop⟩

theorem spec_reservedAddress (hbound : socket.bound = some (.localhost, port))
    (hat : Before base [(handle, socket)] host) :
    Spec base (reservedAddress handle) host
      (fun address stop => address = (.localhost, port) ∧ Before base [(handle, socket)] stop)
      (Listeners.Opened base handle []) := by
  refine .bind holds_opened (Spec.opened (ensures_localAddr hat)) ?_
  rintro found middle ⟨hfound, hmiddle⟩
  refine .ofExcept holds_at hmiddle ?_ fun _ hstop => ⟨_, hstop⟩
  intro address haddress stop hstop
  have hsame := hfound address (okOr_eq_ok_iff.mp haddress)
  rw [hbound] at hsame
  exact ⟨(Option.some.inj hsame).symm, hstop⟩

theorem ensures_closeOpened (hopened : Listeners.Opened base handle [] host) :
    (close handle).Ensures (hostSystem IpAddr) (Host.Guarded base IsLocal) host
      fun _ => Before base [] := by
  obtain ⟨socket, hat⟩ := hopened
  exact ensures_close (.refl _) hat

theorem spec_selectUpstreamPort (hat : Before base [] host) :
    Spec base selectUpstreamPort host (fun port stop => port ≠ 0 ∧ Before base [] stop)
      (Before base []) := by
  refine .bind holds_at (ensures_socket hat) ?_
  rintro listener first ⟨fresh, -, hfirst⟩
  refine .bind holds_at ((spec_bindLocalhost hfirst).onError
    (fun _ => .exists fun _ => .and fun _ => holds_at) holds_at fun _ => ensures_closeOpened) ?_
  rintro _ second ⟨bound, ⟨port, hport, hbound⟩, hsecond⟩
  refine .bind holds_at ((spec_reservedAddress hbound hsecond).onError
    (fun _ => .and fun _ => holds_at) holds_at fun _ => ensures_closeOpened) ?_
  rintro _ third ⟨rfl, hthird⟩
  refine .bind holds_at (.always (fun _ => holds_at) (ensures_close (.refl _) hthird)) ?_
  intro _ fourth hfourth
  refine .bind holds_at (.ofExcept holds_at hfourth (fun _ _ _ => id) fun _ => id) ?_
  intro _ last hlast
  exact .pure holds_at hlast fun _ hstop => ⟨hport, hstop⟩

/-- The proxy is there with its two listeners. -/
abbrev Serves (base : Host IpAddr) (proxy : RunningProxy) (host : Host IpAddr) : Prop :=
  Listening base proxy.ipv4 proxy.ipv6 proxy.state.address.port host

theorem spec_cleanupProxyAfterFailure {α : Type} {primary : LaunchFailure}
    {Ok : α → Host IpAddr → Prop} (hserves : Serves base proxy host) :
    Spec base (cleanupProxyAfterFailure around primary proxy) host Ok (Before base []) := by
  obtain ⟨⟨socket4, socket6⟩, -, hat⟩ := hserves
  have hclosed := ensures_closeAll [(proxy.ipv4, socket4), (proxy.ipv6, socket6)] hat
  have hstopped : SystemCalls.Ensures (hostSystem IpAddr) (Host.Guarded base IsLocal)
      (shutdownProxy around proxy) host fun _ => Before base [] :=
    hclosed.bind fun _ middle hmiddle => .done holds_at hmiddle fun _ => id
  refine SystemCalls.Ensures.bind hstopped fun stopped middle hmiddle => ?_
  cases stopped with
  | ok value => exact FallibleCalls.Ensures.error holds_at hmiddle
  | error error => exact FallibleCalls.Ensures.error holds_at hmiddle

/-- Removing repetitions removes no address. -/
theorem mem_deduped {a b : IpAddr} {rest : List IpAddr} (hmem : a ∈ b :: rest) :
    a ∈ rest.destutter' (· ≠ ·) b := by
  induction rest generalizing b with
  | nil => exact hmem
  | cons c rest ih =>
      by_cases hsame : b = c
      · subst hsame
        rw [List.destutter'_cons_neg _ (not_not.mpr rfl)]
        exact ih (by simpa using hmem)
      · rw [List.destutter'_cons_pos _ hsame]
        obtain rfl | hrest := List.mem_cons.mp hmem
        · exact List.mem_cons_self
        · exact List.mem_cons_of_mem _ (ih hrest)

/-- A name that is not refused has no address outside loopback. -/
theorem isLoopback_of_resolved {lookup : Option (List IpAddr)}
    (hinside : (resolveHostname lookup).isNonLoopback = false) {resolved : List IpAddr}
    (hlookup : lookup = some resolved) {address : IpAddr} (hmem : address ∈ resolved) :
    isLoopback address = true := by
  subst hlookup
  have hmem : address ∈ resolved.mergeSort addressLe := List.mem_mergeSort.mpr hmem
  unfold resolveHostname at hinside
  cases hsorted : resolved.mergeSort addressLe with
  | nil =>
      rw [hsorted] at hmem
      cases hmem
  | cons first rest =>
      rw [hsorted] at hmem
      have hkept : address ∈ (first :: rest).destutter (· ≠ ·) := mem_deduped hmem
      simp only [hsorted] at hinside
      split at hinside
      next hempty =>
        rw [List.isEmpty_iff.mp hempty] at hkept
        cases hkept
      next =>
        split at hinside
        next hall => exact List.all_eq_true.mp hall address hkept
        next => cases hinside

/-- A launch of the runtime that succeeds is one of its inner part. -/
theorem launchValidated_eq_ok {platform : Platform} {fuel : Nat} {bundle : ValidatedBundle}
    {secrets : TransportSecrets} {limits : LifecycleLimits} {channel : List MonitorMessage}
    {w : W} {machine : Machine W}
    (hlaunched : launchValidated world platform fuel bundle port secrets limits channel w =
      some (.ok machine)) :
    launchValidatedInner world platform fuel bundle port secrets.upstream limits channel w =
      .owned (.ok ()) machine := by
  unfold launchValidated at hlaunched
  split at hlaunched
  · cases hlaunched
  · split at hlaunched
    · cases hlaunched
    · split at hlaunched
      next => cases hlaunched
      next => cases hlaunched
      next => cases hlaunched
      next howned =>
        obtain rfl := Except.ok.inj (Option.some.inj hlaunched)
        exact howned

/-- An application that a launch returned: the proxy forwards to the runtime it started. -/
structure Joined (fuel : Nat) (around : LaunchSurroundings W) (limits : LifecycleLimits)
    (app : NativeAppOwner W RunningProxy) (resolution : HostResolution) (proxy : RunningProxy)
    (machine : Machine W) (port : UInt16) : Prop where
  owned : app = ⟨some proxy, some machine⟩
  upstream : proxy.state.upstream = ⟨port⟩
  nonzero : port ≠ 0
  resolved : resolution = resolveHostname (around.lookup proxy.state.address)
  inside : resolution.isNonLoopback = false
  launched : ∃ bundle, around.bundle = .ok bundle ∧ launchValidatedInner world around.platform fuel
    bundle port proxy.state.secrets.upstream limits (around.channel port) around.w =
      .owned (.ok ()) machine

/-- What holds after a launch that did not fail. -/
def Kept (base : Host IpAddr) (fuel : Nat) (around : LaunchSurroundings W)
    (limits : LifecycleLimits) : Launched W → Host IpAddr → Prop
  | .starting proxy, stop => Serves base proxy stop
  | .running app resolution, stop => ∃ joined : RunningProxy × Machine W × UInt16,
      Joined world fuel around limits app resolution joined.1 joined.2.1 joined.2.2 ∧
        Serves base joined.1 stop

variable {world : World W} {fuel : Nat} {limits : LifecycleLimits}

theorem spec_launchBehind {bundle : ValidatedBundle} (hnonzero : port ≠ 0)
    (hbundle : around.bundle = .ok bundle) (hupstream : proxy.state.upstream = ⟨port⟩)
    (hserves : Serves base proxy host) :
    Spec base (launchBehind world fuel around limits bundle port proxy.state.secrets proxy) host
      (Kept world base fuel around limits) (Before base []) := by
  unfold launchBehind
  refine .ite (fun _ => spec_cleanupProxyAfterFailure hserves) fun hinside => ?_
  refine .ite (fun _ => spec_cleanupProxyAfterFailure hserves) fun _ => ?_
  rw [Bool.not_eq_true] at hinside
  split
  next machine hlaunched =>
    have hlaunch := launchValidated_eq_ok world hlaunched
    refine SystemCalls.Ensures.done holds_listening hserves fun stop hstop => ?_
    refine ⟨(proxy, machine, port), ?_, hstop⟩
    exact ⟨rfl, hupstream, hnonzero, rfl, hinside, bundle, hbundle, hlaunch⟩
  next error _ => exact spec_cleanupProxyAfterFailure hserves
  next => exact SystemCalls.Ensures.done holds_listening hserves fun stop hstop => hstop

theorem generateWithSecrets_eq_ok {secrets : TransportSecrets} {nonce : Option Nonce}
    {config : ProxyConfig}
    (hconfig : ProxyConfig.generateWithSecrets .localhost port secrets nonce = .ok config) :
    config.upstream = ⟨port⟩ ∧ config.secrets = secrets := by
  unfold ProxyConfig.generateWithSecrets at hconfig
  rw [if_neg (not_not.mpr rfl)] at hconfig
  split at hconfig
  · cases hconfig
  · obtain rfl := Except.ok.inj hconfig
    exact ⟨rfl, rfl⟩

theorem spec_launch {transportLimits : TransportLimits} (hat : Before base [] host) :
    Spec base (launch world fuel around limits transportLimits) host
      (Kept world base fuel around limits) (Before base []) := by
  have hchecked : ∀ {α : Type} {value : Except LaunchFailure α} {middle : Host IpAddr},
      Before base [] middle → Spec base (.ofExcept value) middle
        (fun a stop => value = .ok a ∧ Before base [] stop) (Before base []) :=
    fun hmiddle => .ofExcept holds_at hmiddle (fun _ hvalue _ hstop => ⟨hvalue, hstop⟩) fun _ => id
  refine .bind holds_at (hchecked hat) ?_
  rintro _ first ⟨-, hfirst⟩
  refine .bind holds_at (hchecked hfirst) ?_
  rintro bundle second ⟨hbundle, hsecond⟩
  refine .bind holds_at (spec_selectUpstreamPort hsecond) ?_
  rintro port third ⟨hport, hthird⟩
  refine .bind holds_at (hchecked hthird) ?_
  rintro secrets fourth ⟨-, hfourth⟩
  refine .bind holds_at (hchecked hfourth) ?_
  rintro config fifth ⟨hconfig, hfifth⟩
  obtain ⟨hupstream, hsecrets⟩ := generateWithSecrets_eq_ok (mapError_eq_ok_iff.mp hconfig)
  refine .bind holds_at (.mapError (fun _ => .and fun _ => holds_listening) holds_at
    (spec_start hfifth)) ?_
  rintro proxy last ⟨⟨-, address, hstate⟩, hserves⟩
  have hsame : proxy.state.secrets = secrets := by
    rw [hstate]
    exact hsecrets
  have hforward : proxy.state.upstream = ⟨port⟩ := by
    rw [hstate]
    exact hupstream
  rw [← hsame]
  exact spec_launchBehind hport (mapError_eq_ok_iff.mp hbundle) hforward hserves

end Parts

/-- Whatever the system answers and other programs bind in between, no socket of a launch is
ever bound to an address that is not local. A failed launch leaves no socket. An application
that is returned gives the browser an origin whose port nobody else can answer on, at both
loopback addresses; the name has no other address; and the runtime was started and became
ready on the port that the proxy forwards to, with the secret that the proxy sends there. -/
theorem launch_all_or_nothing (json : Launcher.JsonDecoder) {world : World W} {fuel : Nat}
    {around : LaunchSurroundings W} {limits : LifecycleLimits}
    {transportLimits : TransportLimits} {stdout stderr : UInt16 → List PipeRead}
    {base host : Host IpAddr} {rest : Launching (Launched W)}
    (hchannel : ∀ port, Interleaving (monitorStdout json port (stdout port))
      (drainStderr 0 (stderr port)).1 (around.channel port))
    (hreaches : Reaches (hostSystem IpAddr) (launch world fuel around limits transportLimits, base)
      (rest, host)) :
    base.Guarded IsLocal host ∧ ∀ outcome, rest = SystemCalls.done outcome →
      match outcome with
      | .error _ => host.sockets = base.sockets
      | .ok (.starting proxy) => Serves base proxy host
      | .ok (.running app _) => ∃ proxy machine port browser,
          app = ⟨some proxy, some machine⟩ ∧ Serves base proxy host ∧
          browserLaunch (E := Unit) app = .ok browser ∧
          host.Sole proxy.ipv4 (.localhost, browser.address.port) ∧
          host.Sole proxy.ipv6 (localhostV6, browser.address.port) ∧
          (∀ resolved address, around.lookup browser.address = some resolved →
            address ∈ resolved → isLoopback address = true) ∧
          proxy.state.upstream = ⟨port⟩ ∧ ∃ evidence seen starting listening,
            ReadyOwner json port proxy.state.secrets.upstream (stdout port) machine evidence seen
              starting listening := by
  obtain ⟨labels, hrun⟩ := hreaches
  obtain ⟨hguarded, hdone⟩ := spec_launch (At.start base) labels rest host hrun
  refine ⟨hguarded, fun outcome houtcome => ?_⟩
  have hpost := hdone outcome houtcome
  match outcome with
  | .error error => exact hpost.owns.eq_base
  | .ok (.starting proxy) => exact hpost
  | .ok (.running app resolution) =>
      obtain ⟨⟨proxy, machine, port⟩, hjoined, hserves⟩ := hpost
      obtain ⟨rfl, hupstream, -, rfl, hinside, bundle, -, hlaunched⟩ := hjoined
      have hready := readyOwner_of_launched (hchannel port) hlaunched
      obtain ⟨-, hready⟩ | ⟨⟨error, herror⟩, -⟩ := hready
      · obtain ⟨hsole4, hsole6⟩ := hserves.sole
        exact ⟨proxy, machine, port, _, rfl, hserves, rfl, hsole4, hsole6,
          fun resolved address hlookup => isLoopback_of_resolved hinside hlookup, hupstream, hready⟩
      · cases herror

/-! ## A launch that becomes ready -/

section Fixture

def launchSecrets : TransportSecrets := { startConfig.secrets with upstream := fixtureSecret }

def fixtureSurroundings : LaunchSurroundings Bytes where
  bundle := .ok fixtureBundle
  secrets := some launchSecrets
  nonce := some ⟨List.replicate 16 0, by decide⟩
  lookup _ := some [.localhost]
  workerReturns := true
  proxyStop := .ok ()
  platform := fixturePlatform (.directory false)
  channel port := monitorStdout fixtureJson port fixtureStdout
  w := asBytes "HTTP/1.1 200 OK\r\n"

theorem selectUpstreamPort_reaches : Reaches (hostSystem IpAddr) (selectUpstreamPort, emptyHost)
    (SystemCalls.done (.ok fixturePort), emptyHost) := by
  refine reaches_value (.socket .ipv4) (2 : Nat) ⟨freshSocket .ipv4, rfl, rfl, rfl, rfl, rfl⟩ ?_
  refine reaches_value (.bind 2 (.localhost, 0)) ()
    ⟨_, fixturePort, rfl, rfl, by decide, ?_, rfl⟩ ?_
  · exact free_set free_empty (by decide)
  refine reaches_value (.listen 2 128) () ⟨_, rfl, rfl⟩ ?_
  refine reaches_value (.localAddr 2) (some (.localhost, fixturePort))
    ⟨⟨_, rfl, fun _ => id⟩, rfl⟩ ?_
  refine reaches_value (.close 2) () rfl ?_
  have hclosed : ∀ first second third : TcpSocket IpAddr,
      (((emptyHost.set 2 (some first)).set 2 (some second)).set 2 (some third)).set 2 none =
        emptyHost := by
    intro first second third
    simp [Host.set, emptyHost]
  rw [hclosed]
  exact .refl _ _

theorem launchValidated_fixture : launchValidated fixtureWorld (fixturePlatform (.directory false))
    4 fixtureBundle fixturePort launchSecrets .default (fixtureSurroundings.channel fixturePort)
    fixtureSurroundings.w = some (.ok fixtureRun.2) := by
  have hok : fixtureRun.1 = .ok () := by
    rw [fixtureRun, monitorStdout_fixture]
    decide +kernel
  have hlaunched := fixtureRun_launched
  rw [hok] at hlaunched
  have hlimits : validateLimits .default = .ok () := by decide +kernel
  have hport : (fixturePort == 0) = false := by decide
  rw [launchValidated, hlimits]
  simp only [hport, Bool.false_eq_true, if_false]
  rw [launchSecrets, fixtureSurroundings, hlaunched]

theorem launchBehind_fixture (proxy : RunningProxy) :
    launchBehind fixtureWorld 4 fixtureSurroundings .default fixtureBundle fixturePort
      launchSecrets proxy = SystemCalls.done (.ok (.running ⟨some proxy, some fixtureRun.2⟩
        (.loopback [.localhost]))) := by
  have hresolved : resolveHostname (some [.localhost]) = .loopback [.localhost] := by
    have hloopback : isLoopback .localhost = true := by decide
    simp [resolveHostname, hloopback]
  have hinside : ¬(HostResolution.loopback [.localhost]).isNonLoopback = true :=
    Bool.false_ne_true
  have hreturns : ¬(!fixtureSurroundings.workerReturns) = true := Bool.false_ne_true
  unfold launchBehind
  rw [show fixtureSurroundings.lookup proxy.state.address = some [.localhost] from rfl, hresolved]
  rw [if_neg hinside, if_neg hreturns]
  rw [show fixtureSurroundings.platform = fixturePlatform (.directory false) from rfl,
    launchValidated_fixture]

theorem launch_reaches : ∃ (app : NativeAppOwner Bytes RunningProxy) (resolution : HostResolution)
    (host : Host IpAddr), Reaches (hostSystem IpAddr)
      (launch fixtureWorld 4 fixtureSurroundings .default defaultLimits, emptyHost)
      (SystemCalls.done (.ok (.running app resolution)), host) := by
  have hlimits : validateLimits .default = .ok () := by decide +kernel
  have hvalid : defaultLimits.isValid = true := by decide +kernel
  have hconfig : ∃ config, ProxyConfig.generateWithSecrets .localhost fixturePort launchSecrets
      fixtureSurroundings.nonce = .ok config := ⟨_, rfl⟩
  obtain ⟨config, hconfig⟩ := hconfig
  obtain ⟨host, hstart⟩ := start_reaches (config.withLimits defaultLimits) hvalid
  refine ⟨⟨some ⟨8, 4, .start ⟨config.hostname, 5001⟩ config.upstream config.secrets
    defaultLimits⟩, some fixtureRun.2⟩, .loopback [.localhost], host, ?_⟩
  rw [launch, hlimits, show fixtureSurroundings.bundle = .ok fixtureBundle from rfl]
  simp only [Except.mapError, FallibleCalls.ofExcept_ok_bind]
  refine (FallibleCalls.reaches_bind _ selectUpstreamPort_reaches).trans ?_
  rw [show fixtureSurroundings.secrets = some launchSecrets from rfl]
  simp only [okOr_some, FallibleCalls.ofExcept_ok_bind, hconfig]
  refine (FallibleCalls.reaches_bind _ (FallibleCalls.reaches_mapError _ hstart)).trans ?_
  rw [launchBehind_fixture]
  exact .refl _ _

theorem launch_all_or_nothing_launched : ∃ (app : NativeAppOwner Bytes RunningProxy)
    (proxy : RunningProxy) (machine : Machine Bytes) (host : Host IpAddr) (port : UInt16),
    app = ⟨some proxy, some machine⟩ ∧ proxy.state.upstream = ⟨port⟩ ∧
      machine.owner.ownerState = .ready ∧
      host.Sole proxy.ipv4 (.localhost, proxy.state.address.port) := by
  have hchannel : ∀ port, Interleaving (monitorStdout fixtureJson port fixtureStdout)
      (drainStderr 0 []).1 (fixtureSurroundings.channel port) := fun port => .nil_right _
  obtain ⟨app, resolution, host, hreaches⟩ := launch_reaches
  obtain ⟨-, hdone⟩ := launch_all_or_nothing fixtureJson hchannel hreaches
  obtain ⟨proxy, machine, port, browser, rfl, -, hbrowser, hsole, -, -, hupstream, _, _, _, _,
    hready⟩ := hdone _ rfl
  obtain rfl := Except.ok.inj hbrowser
  exact ⟨_, proxy, machine, host, port, rfl, hupstream, hready.ownerState, hsole⟩

end Fixture

end Rpackit.Lifecycle.AppLaunch
