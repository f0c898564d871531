import Rpackit.Library.Fallible
import Rpackit.Library.HostSockets
import Rpackit.Transport.Hostname

/-! # The two listeners of a proxy

The proxy listens on one port of both loopback addresses, with sockets that nobody else can
be bound beside. The port is the one that the IPv6 socket was given; if the IPv4 address has
it in use, both are given up and another port is tried. Every error closes what was opened.
-/

namespace Rpackit.Transport.Listeners

open Fallible HandleTable HostSockets SystemCalls Text

inductive IoError where
  | os (kind : ErrorKind)
  | addrInUse (message : String)
  | other (message : String)
  deriving DecidableEq, Repr

def IoError.isAddrInUse : IoError → Bool
  | .os kind => kind == .addrInUse
  | .addrInUse _ => true
  | .other _ => false

abbrev Binding (α : Type) : Type := Sockets IpAddr IoError α

/-- ::1. -/
def localhostV6 : IpAddr := .v6 1

def isLoopback : IpAddr → Bool
  | .v4 bits => bits >>> 24 == 127
  | .v6 bits => bits == 1

/-! ## The source -/

def configureListenerOwnership (socket : Handle) : Binding Unit := do
  request (.setReuseAddress socket false) .os
  request (.setExclusiveAddressUse socket) .os

/-- What `bind_dual_loopback_once` does with its IPv6 socket, up to its port. -/
def listenIpv6 (ipv6 : Handle) : Binding UInt16 := do
  request (.setOnlyV6 ipv6 true) .os
  configureListenerOwnership ipv6
  request (.setNonblocking ipv6 true) .os
  request (.bind ipv6 (localhostV6, 0)) .os
  request (.listen ipv6 128) .os
  let found ← request (.localAddr ipv6) .os
  let address ← .ofExcept (okOr found (.other "IPv6 listener has no socket address"))
  return address.2

/-- What it does with its IPv4 socket. -/
def listenIpv4 (ipv4 : Handle) (port : UInt16) : Binding Unit := do
  configureListenerOwnership ipv4
  request (.setNonblocking ipv4 true) .os
  request (.bind ipv4 (.localhost, port)) .os
  request (.listen ipv4 128) .os
  request (.fromStd ipv4) .os

def bindDualLoopbackOnce : Binding (Handle × Handle × UInt16) := do
  let ipv6 ← request (.socket .ipv6) .os
  let port ← (listenIpv6 ipv6).onError (close ipv6)
  let ipv4 ← (request (.socket .ipv4) .os).onError (close ipv6)
  (listenIpv4 ipv4 port).onError (closeAll [ipv4, ipv6])
  (request (.fromStd ipv6) .os).onError (closeAll [ipv6, ipv4])
  return (ipv4, ipv6, port)

def retryAddrInUse {α : Type} (operation : Binding α) (lastConflict : Option IoError) :
    Nat → Binding α
  | 0 => .ofExcept (.error (lastConflict.getD
      (.addrInUse "compatible dual-loopback port allocation remained contended")))
  | attempts + 1 => SystemCalls.bind operation fun outcome =>
      match outcome with
      | .ok value => .done (.ok value)
      | .error error =>
          if error.isAddrInUse then retryAddrInUse operation (some error) attempts
          else .done (.error error)

def dualLoopbackBindAttempts : Nat := 32

def bindDualLoopback : Binding (Handle × Handle × UInt16) :=
  retryAddrInUse bindDualLoopbackOnce none dualLoopbackBindAttempts

inductive StartError where
  | invalidConfiguration
  | bind (source : IoError)
  deriving DecidableEq, Repr

/-- A proxy that accepts on both sockets, with the state that its connections share. -/
structure RunningProxy where
  ipv4 : Handle
  ipv6 : Handle
  state : ProxyState
  deriving DecidableEq

def start (config : ProxyConfig) : Sockets IpAddr StartError RunningProxy := do
  .ofExcept (rejectIf (!config.limits.isValid) .invalidConfiguration)
  let (ipv4, ipv6, port) ← bindDualLoopback.mapError .bind
  return ⟨ipv4, ipv6,
    .start ⟨config.hostname, port⟩ config.upstream config.secrets config.limits⟩

/-! ## What each part opens and leaves behind -/

/-- A socket that listens on one port of a loopback address, and keeps it for itself. -/
structure IsListener (domain : Domain) (endpoint : IpAddr × UInt16) (socket : TcpSocket IpAddr) :
    Prop where
  ofDomain : socket.domain = domain
  onlyV6 : domain = .ipv6 → socket.onlyV6 = true
  reuseAddress : socket.reuseAddress = false
  exclusive : socket.exclusive = true
  nonblocking : socket.nonblocking = true
  bound : socket.bound = some endpoint
  listening : socket.listening = true

def IsLocal (address : IpAddr) : Prop := isLoopback address = true

section Parts

variable {base host : Host IpAddr} {owned rest : Owned IpAddr} {handle : Handle}
  {socket : TcpSocket IpAddr} {port : UInt16}

abbrev Before (base : Host IpAddr) (owned : Owned IpAddr) (host : Host IpAddr) : Prop :=
  At base IsLocal owned host

/-- The specification of a part: what holds after it, with a value and with an error. -/
abbrev Spec {ε α : Type} (base : Host IpAddr) (x : Sockets IpAddr ε α) (host : Host IpAddr)
    (Ok : α → Host IpAddr → Prop) (Fail : Host IpAddr → Prop) : Prop :=
  x.Ensures (hostSystem IpAddr) (Host.Guarded base IsLocal) host Ok Fail

/-- Besides the rest one socket is open, whatever it has become. -/
def Opened (base : Host IpAddr) (handle : Handle) (rest : Owned IpAddr) (host : Host IpAddr) :
    Prop :=
  ∃ socket, Before base ((handle, socket) :: rest) host

theorem holds_opened : Holds base IsLocal (Opened base handle rest) := .exists fun _ => holds_at

theorem Spec.opened {ε α : Type} {x : Sockets IpAddr ε α} {Ok : α → Host IpAddr → Prop}
    (hx : Spec base x host Ok (Before base ((handle, socket) :: rest))) :
    Spec base x host Ok (Opened base handle rest) :=
  hx.weaken (fun _ _ => id) fun _ hstop => ⟨socket, hstop⟩

theorem spec_configureListenerOwnership (hat : Before base ((handle, socket) :: rest) host)
    (hunbound : socket.bound = none) :
    Spec base (configureListenerOwnership handle) host
      (fun _ => Before base ((handle, { socket with reuseAddress := false, exclusive := true }) ::
        rest))
      (Opened base handle rest) := by
  refine .bind holds_opened (Spec.opened (ensures_change
    (fun socket => { socket with reuseAddress := false }) hat rfl (.inr rfl) fun _ _ _ => id)) ?_
  intro _ reused hreused
  exact Spec.opened (ensures_change (fun socket => { socket with exclusive := true }) hreused rfl
    (.inl hunbound) fun _ _ _ => id)

theorem spec_listenIpv6 (hdomain : socket.domain = .ipv6) (hunbound : socket.bound = none)
    (hat : Before base ((handle, socket) :: rest) host) :
    Spec base (listenIpv6 handle) host
      (fun port stop => ∃ later, (port ≠ 0 ∧ IsListener .ipv6 (localhostV6, port) later) ∧
        Before base ((handle, later) :: rest) stop)
      (Opened base handle rest) := by
  refine .bind holds_opened (Spec.opened (ensures_change
    (fun socket => { socket with onlyV6 := true }) hat rfl (.inr rfl) fun _ _ _ => id)) ?_
  intro _ first hfirst
  refine .bind holds_opened (spec_configureListenerOwnership hfirst hunbound) ?_
  intro _ second hsecond
  refine .bind holds_opened (Spec.opened (ensures_change
    (fun socket => { socket with nonblocking := true }) hsecond rfl (.inr rfl) fun _ _ _ => id)) ?_
  intro _ third hthird
  refine .bind holds_opened (Spec.opened (ensures_bind rfl hthird)) ?_
  rintro _ fourth ⟨port, hport, hfourth⟩
  rw [if_pos rfl] at hport
  refine .bind holds_opened (Spec.opened (ensures_change
    (fun socket => { socket with listening := true }) hfourth rfl (.inr rfl) fun _ _ _ => id)) ?_
  intro _ fifth hfifth
  refine .bind holds_opened (Spec.opened (ensures_localAddr hfifth)) ?_
  rintro found sixth ⟨hfound, hsixth⟩
  have hparse : Spec base
      (.ofExcept (okOr found (IoError.other "IPv6 listener has no socket address"))) sixth
      (fun address stop => address = (localhostV6, port) ∧ ∃ later,
        IsListener .ipv6 (localhostV6, port) later ∧ Before base ((handle, later) :: rest) stop)
      (Opened base handle rest) := by
    refine .ofExcept holds_at hsixth ?_ fun _ hstop => ⟨_, hstop⟩
    intro address haddress stop hstop
    have hsame := hfound address (okOr_eq_ok_iff.mp haddress)
    refine ⟨(Option.some.inj hsame).symm, _, ?_, hstop⟩
    exact ⟨hdomain, fun _ => rfl, rfl, rfl, rfl, rfl, rfl⟩
  refine .bind holds_opened hparse ?_
  rintro _ last ⟨rfl, later, hlistener, hlast⟩
  exact .pure holds_at hlast fun stop hstop => ⟨later, ⟨hport, hlistener⟩, hstop⟩

theorem spec_listenIpv4 (hdomain : socket.domain = .ipv4) (hunbound : socket.bound = none)
    (hport : port ≠ 0) (hat : Before base ((handle, socket) :: rest) host) :
    Spec base (listenIpv4 handle port) host
      (fun _ stop => ∃ later, IsListener .ipv4 (.localhost, port) later ∧
        Before base ((handle, later) :: rest) stop)
      (Opened base handle rest) := by
  refine .bind holds_opened (spec_configureListenerOwnership hat hunbound) fun _ first hfirst => ?_
  refine .bind holds_opened (Spec.opened (ensures_change
    (fun socket => { socket with nonblocking := true }) hfirst rfl (.inr rfl) fun _ _ _ => id)) ?_
  intro _ second hsecond
  refine .bind holds_opened (Spec.opened (ensures_bind rfl hsecond)) ?_
  rintro _ third ⟨given, hgiven, hthird⟩
  rw [if_neg hport] at hgiven
  subst hgiven
  refine .bind holds_opened (Spec.opened (ensures_change
    (fun socket => { socket with listening := true }) hthird rfl (.inr rfl) fun _ _ _ => id)) ?_
  intro _ fourth hfourth
  refine (Spec.opened (ensures_fromStd hfourth)).weaken (fun _ stop hstop => ?_) fun _ => id
  refine ⟨_, ?_, hstop⟩
  exact ⟨hdomain, by rintro ⟨⟩, rfl, rfl, rfl, rfl, rfl⟩

/-- Both sockets listen, on the same port. -/
def Listening (base : Host IpAddr) (ipv4 ipv6 : Handle) (port : UInt16) (host : Host IpAddr) :
    Prop :=
  ∃ sockets : TcpSocket IpAddr × TcpSocket IpAddr,
    (port ≠ 0 ∧ IsListener .ipv4 (.localhost, port) sockets.1 ∧
      IsListener .ipv6 (localhostV6, port) sockets.2) ∧
      Before base [(ipv4, sockets.1), (ipv6, sockets.2)] host

/-- Nobody else can answer on this port. -/
theorem Listening.sole {ipv4 ipv6 : Handle} (hlistening : Listening base ipv4 ipv6 port host) :
    host.Sole ipv4 (.localhost, port) ∧ host.Sole ipv6 (localhostV6, port) := by
  obtain ⟨⟨socket4, socket6⟩, ⟨-, hlistener4, hlistener6⟩, hat⟩ := hlistening
  have hmem6 : (ipv6, socket6) ∈ [(ipv4, socket4), (ipv6, socket6)] :=
    List.mem_cons_of_mem _ List.mem_cons_self
  obtain ⟨-, hsole4⟩ := hat.guards _ List.mem_cons_self _ hlistener4.bound
  obtain ⟨-, hsole6⟩ := hat.guards _ hmem6 _ hlistener6.bound
  exact ⟨hsole4 hlistener4.exclusive, hsole6 hlistener6.exclusive⟩

theorem holds_listening {ipv4 ipv6 : Handle} :
    Holds base IsLocal (Listening base ipv4 ipv6 port) := .exists fun _ => .and fun _ => holds_at

theorem spec_bindDualLoopbackOnce (hat : Before base [] host) :
    Spec base bindDualLoopbackOnce host (fun bound => Listening base bound.1 bound.2.1 bound.2.2)
      (Before base []) := by
  have hclose : ∀ {handle : Handle} {middle : Host IpAddr}, Opened base handle [] middle →
      (close handle).Ensures (hostSystem IpAddr) (Host.Guarded base IsLocal) middle
        fun _ => Before base [] := by
    rintro handle middle ⟨socket, hmiddle⟩
    exact ensures_close (.refl _) hmiddle
  refine .bind holds_at (ensures_socket hat) ?_
  rintro ipv6 first ⟨fresh, ⟨hdomain, hunbound, -⟩, hfirst⟩
  refine .bind holds_at ((spec_listenIpv6 hdomain hunbound hfirst).onError
    (fun _ => .exists fun _ => .and fun _ => holds_at) holds_at fun _ => hclose) ?_
  rintro port second ⟨socket6, ⟨hport, hlistener6⟩, hsecond⟩
  refine .bind holds_at ((ensures_socket hsecond).onError
    (fun _ => .exists fun _ => .and fun _ => holds_at) holds_at
    fun _ hfailed => hclose ⟨socket6, hfailed⟩) ?_
  rintro ipv4 third ⟨fresh4, ⟨hdomain4, hunbound4, -⟩, hthird⟩
  refine .bind holds_at ((spec_listenIpv4 hdomain4 hunbound4 hport hthird).onError
    (fun _ => .exists fun _ => .and fun _ => holds_at) holds_at ?_) ?_
  · rintro middle ⟨socket4, hmiddle⟩
    exact ensures_closeAll [(ipv4, socket4), (ipv6, socket6)] hmiddle
  rintro _ fourth ⟨socket4, hlistener4, hfourth⟩
  refine .bind holds_at ((ensures_fromStd hfourth).onError (fun _ => holds_at) holds_at ?_) ?_
  · intro middle hmiddle
    have hswapped : Before base [(ipv6, socket6), (ipv4, socket4)] middle :=
      hmiddle.perm (.swap ..)
    exact ensures_closeAll [(ipv6, socket6), (ipv4, socket4)] hswapped
  · intro _ last hlast
    exact .pure holds_at hlast fun stop hstop =>
      ⟨(socket4, socket6), ⟨hport, hlistener4, hlistener6⟩, hstop⟩

theorem spec_retryAddrInUse {α : Type} {operation : Binding α} {Ok : α → Host IpAddr → Prop}
    {Fail : Host IpAddr → Prop} (hok : ∀ value, Holds base IsLocal (Ok value))
    (hfail : Holds base IsLocal Fail)
    (hoperation : ∀ host, Fail host → Spec base operation host Ok Fail)
    (lastConflict : Option IoError) (attempts : Nat) (hstate : Fail host) :
    Spec base (retryAddrInUse operation lastConflict attempts) host Ok Fail := by
  induction attempts generalizing host lastConflict with
  | zero => exact .error hfail hstate
  | succ attempts ih =>
      refine SystemCalls.Ensures.bind (hoperation host hstate) fun outcome middle hmiddle => ?_
      cases outcome with
      | ok value => exact SystemCalls.Ensures.done (hok value) hmiddle fun _ => id
      | error error =>
          exact FallibleCalls.Ensures.ite (fun _ => ih (some error) hmiddle)
            fun _ => .error hfail hmiddle

theorem spec_start {config : ProxyConfig} (hat : Before base [] host) :
    Spec base (start config) host
      (fun proxy stop => (config.limits.isValid = true ∧ ∃ port, proxy.state =
          .start ⟨config.hostname, port⟩ config.upstream config.secrets config.limits) ∧
        Listening base proxy.ipv4 proxy.ipv6 proxy.state.address.port stop)
      (Before base []) := by
  have hcheck : Spec base
      (.ofExcept (rejectIf (!config.limits.isValid) StartError.invalidConfiguration)) host
      (fun _ stop => config.limits.isValid = true ∧ Before base [] stop) (Before base []) := by
    refine .ofExcept holds_at hat (fun _ hvalid stop hstop => ?_) fun _ => id
    rw [rejectIf_eq_ok_iff, Bool.not_eq_false'] at hvalid
    exact ⟨hvalid, hstop⟩
  refine .bind holds_at hcheck ?_
  rintro _ checked ⟨hvalid, hchecked⟩
  have hbind : Spec base bindDualLoopback checked
      (fun bound => Listening base bound.1 bound.2.1 bound.2.2) (Before base []) :=
    spec_retryAddrInUse (fun _ => holds_listening) holds_at
      (fun _ => spec_bindDualLoopbackOnce) none dualLoopbackBindAttempts hchecked
  refine .bind holds_at (.mapError (fun _ => holds_listening) holds_at hbind) ?_
  rintro ⟨ipv4, ipv6, port⟩ bound hbound
  exact .pure holds_listening hbound fun stop hstop => ⟨⟨hvalid, port, rfl⟩, hstop⟩

end Parts

/-- Whatever the system answers and other programs bind in between: at no time is a socket of
the proxy bound to an address that is not local, or an exclusive one to an endpoint of others.
A failed start leaves no socket open. After a start nothing else is open than the listeners of
both loopback addresses, and nobody can answer for them on the port of the origin. -/
theorem start_owns_origin {config : ProxyConfig} {base host : Host IpAddr}
    {rest : Sockets IpAddr StartError RunningProxy}
    (hreaches : Reaches (hostSystem IpAddr) (start config, base) (rest, host)) :
    base.Guarded IsLocal host ∧ ∀ outcome, rest = SystemCalls.done outcome →
      match outcome with
      | .error _ => host.sockets = base.sockets
      | .ok proxy => ∃ port socket4 socket6, port ≠ 0 ∧ proxy.state =
          .start ⟨config.hostname, port⟩ config.upstream config.secrets config.limits ∧
          IsListener .ipv4 (.localhost, port) socket4 ∧
          IsListener .ipv6 (localhostV6, port) socket6 ∧
          Owns base.sockets [(proxy.ipv4, socket4), (proxy.ipv6, socket6)] host.sockets ∧
          host.Sole proxy.ipv4 (.localhost, port) ∧ host.Sole proxy.ipv6 (localhostV6, port) := by
  obtain ⟨labels, hrun⟩ := hreaches
  obtain ⟨hguarded, hdone⟩ := spec_start (At.start base) labels rest host hrun
  refine ⟨hguarded, fun outcome houtcome => ?_⟩
  have hpost := hdone outcome houtcome
  cases outcome with
  | error error => exact hpost.owns.eq_base
  | ok proxy =>
      obtain ⟨⟨-, port, hstate⟩, hlistening⟩ := hpost
      rw [hstate] at hlistening
      have hsole := hlistening.sole
      obtain ⟨⟨socket4, socket6⟩, ⟨hport, hlistener4, hlistener6⟩, hat⟩ := hlistening
      exact ⟨port, socket4, socket6, hport, hstate, hlistener4, hlistener6, hat.owns,
        hsole⟩

/-! ## A contended port -/

section Fixture

variable {host after : Host IpAddr} {socket changed : TcpSocket IpAddr}
  {endpoint : IpAddr × UInt16} {handle : Handle}

def emptyHost : Host IpAddr := ⟨fun _ => none, fun _ => none⟩

/-- A socket before its options are set. -/
def freshSocket (domain : Domain) : TcpSocket IpAddr :=
  ⟨domain, false, true, false, false, none, false⟩

/-- The socket of another program that has the port. -/
def rivalSocket : TcpSocket IpAddr :=
  { freshSocket .ipv4 with bound := some (.localhost, 5000) }

def startConfig : ProxyConfig where
  upstream := ⟨49152⟩
  hostname := asBytes "rpackit-a.localhost"
  secrets := (ProxyState.fixture 7 0 0).secrets
  limits := defaultLimits

theorem free_empty : emptyHost.Free socket endpoint := by
  constructor
  · rintro _ _ ⟨⟩
  · rintro _ _ ⟨⟩

theorem free_set (hfree : host.Free socket endpoint) (hne : changed.bound ≠ some endpoint) :
    (host.set handle (some changed)).Free socket endpoint := by
  refine ⟨fun other held hheld hbound => ?_, hfree.2⟩
  simp only [Host.set, Function.update_apply] at hheld
  split at hheld
  next =>
    obtain rfl := Option.some.inj hheld
    exact absurd hbound hne
  next => exact hfree.1 other held hheld hbound

theorem free_close (hfree : host.Free socket endpoint) :
    (host.set handle none).Free socket endpoint := by
  refine ⟨fun other held hheld hbound => ?_, hfree.2⟩
  simp only [Host.set, Function.update_apply] at hheld
  split at hheld
  next => cases hheld
  next => exact hfree.1 other held hheld hbound

theorem free_setOther (hfree : host.Free socket endpoint) (hne : changed.bound ≠ some endpoint) :
    (host.setOther 0 (some changed)).Free socket endpoint := by
  refine ⟨hfree.1, fun id held hheld hbound => ?_⟩
  simp only [Host.setOther, Function.update_apply] at hheld
  split at hheld
  next =>
    obtain rfl := Option.some.inj hheld
    exact absurd hbound hne
  next => exact hfree.2 id held hheld hbound

theorem reaches_value {α : Type} (call : SocketCall IpAddr)
    {next : call.Reply → SystemCalls (SocketCall IpAddr) SocketCall.Reply α}
    {stop : SystemCalls (SocketCall IpAddr) SocketCall.Reply α × Host IpAddr} (value : call.Value)
    (hsucceeds : host.Succeeds call value after)
    (hrest : Reaches (hostSystem IpAddr) (next (.ok value), after) stop) :
    Reaches (hostSystem IpAddr) (.call call next, host) stop :=
  .call call (.ok value) hsucceeds hrest

theorem reaches_refusal {α : Type} (call : SocketCall IpAddr) (kind : ErrorKind)
    {next : call.Reply → SystemCalls (SocketCall IpAddr) SocketCall.Reply α}
    {stop : SystemCalls (SocketCall IpAddr) SocketCall.Reply α × Host IpAddr}
    (hfallible : call.isInfallible = false)
    (hrest : Reaches (hostSystem IpAddr) (next (.error kind), host) stop) :
    Reaches (hostSystem IpAddr) (.call call next, host) stop :=
  .call call (.error kind) ⟨hfallible, rfl⟩ hrest

theorem reaches_move {α : Type} {x : SystemCalls (SocketCall IpAddr) SocketCall.Reply α}
    {stop : SystemCalls (SocketCall IpAddr) SocketCall.Reply α × Host IpAddr}
    (hmoves : host.Moves after) (hrest : Reaches (hostSystem IpAddr) (x, after) stop) :
    Reaches (hostSystem IpAddr) (x, host) stop := by
  obtain ⟨labels, hrun⟩ := hrest
  exact ⟨none :: labels, .cons (.move hmoves) hrun⟩

theorem start_reaches (config : ProxyConfig) (hvalid : config.limits.isValid = true) :
    ∃ host, Reaches (hostSystem IpAddr) (start config, emptyHost)
      (SystemCalls.done (.ok ⟨8, 4, .start ⟨config.hostname, 5001⟩ config.upstream config.secrets
        config.limits⟩), host) := by
  refine ⟨?host, ?run⟩
  case run =>
    unfold start
    rw [hvalid]
    refine reaches_value (.socket .ipv6) (4 : Nat) ⟨freshSocket .ipv6, rfl, rfl, rfl, rfl, rfl⟩ ?_
    refine reaches_value (.setOnlyV6 4 true) () ⟨_, rfl, rfl⟩ ?_
    refine reaches_value (.setReuseAddress 4 false) () ⟨_, rfl, rfl⟩ ?_
    refine reaches_value (.setExclusiveAddressUse 4) () ⟨_, rfl, rfl⟩ ?_
    refine reaches_value (.setNonblocking 4 true) () ⟨_, rfl, rfl⟩ ?_
    refine reaches_value (.bind 4 (localhostV6, 0)) () ⟨_, 5000, rfl, rfl, by decide, ?_, rfl⟩ ?_
    · iterate 5 refine free_set ?_ (by decide)
      exact free_empty
    refine reaches_value (.listen 4 128) () ⟨_, rfl, rfl⟩ ?_
    refine reaches_value (.localAddr 4) (some (localhostV6, 5000)) ⟨⟨_, rfl, fun _ => id⟩, rfl⟩ ?_
    -- another program takes the port of the other address
    refine reaches_move ⟨0, some rivalSocket, rfl, ?_⟩ ?_
    · rintro _ _ ⟨⟩ ⟨⟩
      refine .inr ?_
      iterate 7 refine free_set ?_ (by decide)
      exact free_empty
    refine reaches_value (.socket .ipv4) (8 : Nat) ⟨freshSocket .ipv4, rfl, rfl, rfl, rfl, rfl⟩ ?_
    refine reaches_value (.setReuseAddress 8 false) () ⟨_, rfl, rfl⟩ ?_
    refine reaches_value (.setExclusiveAddressUse 8) () ⟨_, rfl, rfl⟩ ?_
    refine reaches_value (.setNonblocking 8 true) () ⟨_, rfl, rfl⟩ ?_
    refine reaches_refusal (.bind 8 (.localhost, 5000)) .addrInUse rfl ?_
    refine reaches_value (.close 8) () rfl ?_
    refine reaches_value (.close 4) () rfl ?_
    -- the second attempt
    refine reaches_value (.socket .ipv6) (4 : Nat) ⟨freshSocket .ipv6, rfl, rfl, rfl, rfl, rfl⟩ ?_
    refine reaches_value (.setOnlyV6 4 true) () ⟨_, rfl, rfl⟩ ?_
    refine reaches_value (.setReuseAddress 4 false) () ⟨_, rfl, rfl⟩ ?_
    refine reaches_value (.setExclusiveAddressUse 4) () ⟨_, rfl, rfl⟩ ?_
    refine reaches_value (.setNonblocking 4 true) () ⟨_, rfl, rfl⟩ ?_
    refine reaches_value (.bind 4 (localhostV6, 0)) () ⟨_, 5001, rfl, rfl, by decide, ?_, rfl⟩ ?_
    · iterate 5 refine free_set ?_ (by decide)
      iterate 2 refine free_close ?_
      iterate 4 refine free_set ?_ (by decide)
      refine free_setOther ?_ (by decide)
      iterate 7 refine free_set ?_ (by decide)
      exact free_empty
    refine reaches_value (.listen 4 128) () ⟨_, rfl, rfl⟩ ?_
    refine reaches_value (.localAddr 4) (some (localhostV6, 5001)) ⟨⟨_, rfl, fun _ => id⟩, rfl⟩ ?_
    refine reaches_value (.socket .ipv4) (8 : Nat) ⟨freshSocket .ipv4, rfl, rfl, rfl, rfl, rfl⟩ ?_
    refine reaches_value (.setReuseAddress 8 false) () ⟨_, rfl, rfl⟩ ?_
    refine reaches_value (.setExclusiveAddressUse 8) () ⟨_, rfl, rfl⟩ ?_
    refine reaches_value (.setNonblocking 8 true) () ⟨_, rfl, rfl⟩ ?_
    refine reaches_value (.bind 8 (.localhost, 5001)) () ⟨_, 5001, rfl, rfl, by decide, ?_, rfl⟩ ?_
    · iterate 11 refine free_set ?_ (by decide)
      iterate 2 refine free_close ?_
      iterate 4 refine free_set ?_ (by decide)
      refine free_setOther ?_ (by decide)
      iterate 7 refine free_set ?_ (by decide)
      exact free_empty
    refine reaches_value (.listen 8 128) () ⟨_, rfl, rfl⟩ ?_
    refine reaches_value (.fromStd 8) () rfl ?_
    refine reaches_value (.fromStd 4) () rfl ?_
    exact .refl _ _

theorem start_owns_origin_contended : ∃ (proxy : RunningProxy) (host : Host IpAddr),
    host.Sole proxy.ipv4 (.localhost, 5001) ∧ host.Sole proxy.ipv6 (localhostV6, 5001) := by
  have hvalid : startConfig.limits.isValid = true := by decide +kernel
  obtain ⟨host, hreaches⟩ := start_reaches _ hvalid
  obtain ⟨port, _, _, -, hstate, -, -, -, hsole⟩ := (start_owns_origin hreaches).2 _ rfl
  have hsame : (5001 : UInt16) = port :=
    congrArg (fun state : ProxyState => state.address.port) hstate
  subst hsame
  exact ⟨_, host, hsole⟩

end Fixture

end Rpackit.Transport.Listeners
