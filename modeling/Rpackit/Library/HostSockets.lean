import Rpackit.Library.HandleTable
import Rpackit.Library.SystemCalls

/-! # TCP sockets of a host

The caller has a table of sockets, and other programs have theirs. Two sockets are bound to
one endpoint only if neither is exclusive and the later one reuses addresses. Every call may
be refused, and then changes nothing.
-/

namespace HostSockets

open HandleTable SystemCalls

abbrev Handle := Nat

inductive Domain where
  | ipv4
  | ipv6
  deriving DecidableEq, Repr

structure TcpSocket (A : Type) where
  domain : Domain
  onlyV6 : Bool
  reuseAddress : Bool
  exclusive : Bool
  nonblocking : Bool
  bound : Option (A × UInt16)
  listening : Bool
  deriving DecidableEq, Repr

/-- A socket may be bound where another one is. -/
def TcpSocket.Shares {A : Type} (held later : TcpSocket A) : Prop :=
  held.exclusive = false ∧ later.exclusive = false ∧ later.reuseAddress = true

structure Host (A : Type) where
  sockets : Handle → Option (TcpSocket A)
  others : Nat → Option (TcpSocket A)

namespace Host

variable {A : Type}

def set (host : Host A) (handle : Handle) (socket : Option (TcpSocket A)) : Host A :=
  { host with sockets := Function.update host.sockets handle socket }

def setOther (host : Host A) (id : Nat) (socket : Option (TcpSocket A)) : Host A :=
  { host with others := Function.update host.others id socket }

/-- Whoever is bound to this endpoint shares it with the socket. -/
def Free (host : Host A) (socket : TcpSocket A) (endpoint : A × UInt16) : Prop :=
  (∀ handle held, host.sockets handle = some held → held.bound = some endpoint →
    held.Shares socket) ∧
  ∀ id held, host.others id = some held → held.bound = some endpoint → held.Shares socket

end Host

/-! ## Calls -/

inductive SocketCall (A : Type) where
  | socket (domain : Domain)
  | setOnlyV6 (handle : Handle) (only : Bool)
  | setReuseAddress (handle : Handle) (reuse : Bool)
  | setExclusiveAddressUse (handle : Handle)
  | setNonblocking (handle : Handle) (nonblocking : Bool)
  | bind (handle : Handle) (endpoint : A × UInt16)
  | listen (handle : Handle) (backlog : Nat)
  | localAddr (handle : Handle)
  | fromStd (handle : Handle)
  | close (handle : Handle)
  deriving DecidableEq, Repr

variable {A : Type}

@[reducible] def SocketCall.Value : SocketCall A → Type
  | .socket _ => Handle
  | .localAddr _ => Option (A × UInt16)
  | _ => Unit

inductive ErrorKind where
  | addrInUse
  | other (code : Nat)
  deriving DecidableEq, Repr

abbrev SocketCall.Reply (call : SocketCall A) : Type := Except ErrorKind call.Value

/-- A call that only changes the record of a socket. -/
def Host.Changes (host : Host A) (handle : Handle) (change : TcpSocket A → TcpSocket A)
    (next : Host A) : Prop :=
  ∃ socket, host.sockets handle = some socket ∧ next = host.set handle (some (change socket))

/-- What a call that succeeds may return, and the state afterwards. Port zero asks for any
port. -/
def Host.Succeeds (host : Host A) : (call : SocketCall A) → call.Value → Host A → Prop
  | .socket domain, handle, next => ∃ socket : TcpSocket A, host.sockets handle = none ∧
      socket.domain = domain ∧ socket.bound = none ∧ socket.listening = false ∧
      next = host.set handle (some socket)
  | .setOnlyV6 handle only, _, next =>
      host.Changes handle (fun socket => { socket with onlyV6 := only }) next
  | .setReuseAddress handle reuse, _, next =>
      host.Changes handle (fun socket => { socket with reuseAddress := reuse }) next
  | .setExclusiveAddressUse handle, _, next =>
      host.Changes handle (fun socket => { socket with exclusive := true }) next
  | .setNonblocking handle nonblocking, _, next =>
      host.Changes handle (fun socket => { socket with nonblocking := nonblocking }) next
  | .bind handle (address, port), _, next => ∃ socket given,
      host.sockets handle = some socket ∧ socket.bound = none ∧
      (if port = 0 then given ≠ 0 else given = port) ∧ host.Free socket (address, given) ∧
      next = host.set handle (some { socket with bound := some (address, given) })
  | .listen handle _, _, next =>
      host.Changes handle (fun socket => { socket with listening := true }) next
  | .localAddr handle, found, next => (∃ socket, host.sockets handle = some socket ∧
      ∀ endpoint, found = some endpoint → socket.bound = some endpoint) ∧ next = host
  | .fromStd _, _, next => next = host
  | .close handle, _, next => next = host.set handle none

/-- Only closing a socket cannot be refused. -/
def SocketCall.isInfallible : SocketCall A → Bool
  | .close _ => true
  | _ => false

def Host.Answers (host : Host A) (call : SocketCall A) (reply : call.Reply) (next : Host A) :
    Prop :=
  match reply with
  | .ok value => host.Succeeds call value next
  | .error _ => call.isInfallible = false ∧ next = host

/-- Another program opens, configures, binds or closes one of its sockets. -/
def Host.Moves (host next : Host A) : Prop :=
  ∃ id later, next = host.setOther id later ∧
    ∀ socket endpoint, later = some socket → socket.bound = some endpoint →
      (∃ before, host.others id = some before ∧ before.bound = some endpoint) ∨
        host.Free socket endpoint

def hostSystem (A : Type) : CallSystem (SocketCall A) SocketCall.Reply (Host A) where
  Answers := Host.Answers
  Moves := Host.Moves

abbrev Sockets (A ε α : Type) : Type := FallibleCalls (SocketCall A) SocketCall.Reply ε α

/-- A call whose refusal ends the program. -/
def request {ε : Type} (call : SocketCall A) (refusal : ErrorKind → ε) : Sockets A ε call.Value :=
  SystemCalls.call call fun reply => .done (reply.mapError refusal)

def close (handle : Handle) : SystemCalls (SocketCall A) SocketCall.Reply Unit :=
  .call (.close handle) fun _ => .done ()

def closeAll (handles : List Handle) : SystemCalls (SocketCall A) SocketCall.Reply Unit :=
  forEach close handles

/-! ## Sockets that are guarded -/

/-- Nobody else is bound to this endpoint. -/
structure Host.Sole (host : Host A) (handle : Handle) (endpoint : A × UInt16) : Prop where
  ours : ∀ other held, host.sockets other = some held → held.bound = some endpoint →
    other = handle
  others : ∀ id held, host.others id = some held → held.bound ≠ some endpoint

/-- A bound socket has a local address, and keeps it for itself if it is exclusive. -/
def Host.Guards (host : Host A) (Local : A → Prop) (handle : Handle) (socket : TcpSocket A) :
    Prop :=
  ∀ endpoint, socket.bound = some endpoint →
    Local endpoint.1 ∧ (socket.exclusive = true → host.Sole handle endpoint)

/-- So do all sockets that were opened since `base`. -/
def Host.Guarded (base : Host A) (Local : A → Prop) (host : Host A) : Prop :=
  ∀ handle socket, host.sockets handle = some socket → base.sockets handle = none →
    host.Guards Local handle socket

abbrev Owned (A : Type) := List (Handle × TcpSocket A)

/-- What holds between two calls. -/
structure At (base : Host A) (Local : A → Prop) (owned : Owned A) (host : Host A) : Prop where
  owns : Owns base.sockets owned host.sockets
  guards : ∀ item ∈ owned, host.Guards Local item.1 item.2

abbrev Holds (base : Host A) (Local : A → Prop) (Inv : Host A → Prop) : Prop :=
  Stable (hostSystem A) (Host.Guarded base Local) Inv

section Rules

variable {ε : Type} {base host next : Host A} {Local : A → Prop} {owned rest : Owned A}
  {handle : Handle} {socket later : TcpSocket A} {endpoint : A × UInt16}

theorem At.start (base : Host A) : At base Local [] base :=
  ⟨.start _, List.forall_mem_nil _⟩

theorem At.perm (hat : At base Local owned host) (hperm : owned.Perm rest) :
    At base Local rest host :=
  ⟨hat.owns.perm hperm, fun item hitem => hat.guards item (hperm.mem_iff.mpr hitem)⟩

/-- Nobody is bound later to an endpoint that an exclusive socket has. -/
theorem Host.Sole.moves (hsole : host.Sole handle endpoint)
    (hheld : host.sockets handle = some socket) (hbound : socket.bound = some endpoint)
    (hexclusive : socket.exclusive = true) (hmoves : host.Moves next) :
    next.Sole handle endpoint := by
  obtain ⟨id, later, rfl, hlater⟩ := hmoves
  refine ⟨hsole.ours, fun other held hother hsame => ?_⟩
  simp only [Host.setOther, Function.update_apply] at hother
  split at hother
  next =>
    obtain ⟨before, hbefore, hsameBefore⟩ | hfree := hlater held endpoint hother hsame
    · exact hsole.others id before hbefore hsameBefore
    · have hshares := hfree.1 handle socket hheld hbound
      exact Bool.false_ne_true (hshares.1.symm.trans hexclusive)
  next => exact hsole.others other held hother hsame

theorem holds_at : Holds base Local (At base Local owned) where
  moves host next hat hmoves := by
    have hsockets : next.sockets = host.sockets := by
      obtain ⟨_, _, rfl, -⟩ := hmoves
      rfl
    refine ⟨hsockets ▸ hat.owns, fun item hitem endpoint hbound => ?_⟩
    obtain ⟨hlocal, hsole⟩ := hat.guards item hitem endpoint hbound
    refine ⟨hlocal, fun hexclusive => ?_⟩
    exact (hsole hexclusive).moves (hat.owns.held item hitem) hbound hexclusive hmoves
  safe host hat handle socket hsocket hfresh := by
    obtain hmem | hbase := hat.owns.mem_or_base hsocket
    · exact hat.guards _ hmem
    · rw [hfresh] at hbase
      cases hbase

/-- A change of the table leaves an endpoint to its socket if no other takes it. -/
theorem Host.Sole.set (hsole : host.Sole handle endpoint) {other : Handle}
    {changed : Option (TcpSocket A)}
    (hchanged : ∀ socket, changed = some socket → socket.bound = some endpoint →
      other = handle) : (host.set other changed).Sole handle endpoint := by
  refine ⟨fun third held hthird hbound => ?_, hsole.others⟩
  simp only [Host.set, Function.update_apply] at hthird
  split at hthird
  next hsame => exact hsame.trans (hchanged held hthird hbound)
  next => exact hsole.ours third held hthird hbound

theorem At.open (hat : At base Local owned host) (hfree : host.sockets handle = none)
    (hunbound : socket.bound = none) :
    At base Local ((handle, socket) :: owned) (host.set handle (some socket)) := by
  refine ⟨hat.owns.open hfree socket, ?_⟩
  rintro item (_ | ⟨_, hitem⟩) endpoint hbound
  · rw [hunbound] at hbound
    cases hbound
  · obtain ⟨hlocal, hsole⟩ := hat.guards item hitem endpoint hbound
    refine ⟨hlocal, fun hexclusive => (hsole hexclusive).set ?_⟩
    rintro _ ⟨⟩ hsame
    rw [hunbound] at hsame
    cases hsame

theorem At.close (hat : At base Local ((handle, socket) :: owned) host) :
    At base Local owned (host.set handle none) := by
  refine ⟨hat.owns.close, fun item hitem endpoint hbound => ?_⟩
  obtain ⟨hlocal, hsole⟩ := hat.guards item (List.mem_cons_of_mem _ hitem) endpoint hbound
  refine ⟨hlocal, fun hexclusive => (hsole hexclusive).set ?_⟩
  rintro _ ⟨⟩

/-- A change of options; a bound socket does not become exclusive. -/
theorem At.change (hat : At base Local ((handle, socket) :: owned) host)
    (hbound : later.bound = socket.bound)
    (hexclusive : socket.bound = none ∨ later.exclusive = socket.exclusive) :
    At base Local ((handle, later) :: owned) (host.set handle (some later)) := by
  refine ⟨hat.owns.replace later, ?_⟩
  rintro item (_ | ⟨_, hitem⟩) endpoint hitemBound
  · rw [hbound] at hitemBound
    obtain ⟨hlocal, hsole⟩ := hat.guards _ List.mem_cons_self endpoint hitemBound
    refine ⟨hlocal, fun hguarded => (hsole ?_).set fun _ _ _ => rfl⟩
    obtain hunbound | hsame := hexclusive
    · rw [hunbound] at hitemBound
      cases hitemBound
    · exact hsame ▸ hguarded
  · obtain ⟨hlocal, hsole⟩ :=
      hat.guards item (List.mem_cons_of_mem _ hitem) endpoint hitemBound
    refine ⟨hlocal, fun hguarded => (hsole hguarded).set ?_⟩
    rintro _ ⟨⟩ hlater
    exact (hsole hguarded).ours handle socket (hat.owns.held _ List.mem_cons_self)
      (hbound ▸ hlater)

/-- Whoever is exclusive is alone at an endpoint, the new socket or an old one. -/
theorem At.bind (hat : At base Local ((handle, socket) :: owned) host)
    (hfree : host.Free socket endpoint) (hlocal : Local endpoint.1) :
    At base Local ((handle, { socket with bound := some endpoint }) :: owned)
      (host.set handle (some { socket with bound := some endpoint })) := by
  refine ⟨hat.owns.replace _, ?_⟩
  rintro item (_ | ⟨_, hitem⟩) other hbound
  · obtain rfl := Option.some.inj hbound
    refine ⟨hlocal, fun hexclusive => ?_⟩
    have hshared : ∀ {held : TcpSocket A}, ¬held.Shares socket := fun hshares =>
      Bool.false_ne_true (hshares.2.1.symm.trans hexclusive)
    have hsole : host.Sole handle endpoint :=
      ⟨fun other held hheld hbound => absurd (hfree.1 other held hheld hbound) hshared,
        fun id held hheld hbound => hshared (hfree.2 id held hheld hbound)⟩
    exact hsole.set fun _ _ _ => rfl
  · have hmem := List.mem_cons_of_mem (handle, socket) hitem
    obtain ⟨hlocalItem, hsole⟩ := hat.guards item hmem other hbound
    refine ⟨hlocalItem, fun hexclusive => (hsole hexclusive).set ?_⟩
    rintro _ ⟨⟩ hsame
    obtain rfl := Option.some.inj hsame
    have hshares := hfree.1 item.1 item.2 (hat.owns.held item hmem) hbound
    exact absurd (hshares.1.symm.trans hexclusive) Bool.false_ne_true

/-! ## Calls of an owner -/

theorem ensures_request {call : SocketCall A} {refusal : ErrorKind → ε}
    {Ok : call.Value → Host A → Prop} (hok : ∀ value, Holds base Local (Ok value))
    (hat : At base Local owned host)
    (hsucceeds : ∀ before value next, At base Local owned before →
      before.Succeeds call value next → Ok value next) :
    (request call refusal).Ensures (hostSystem A) (Host.Guarded base Local) host Ok
      (At base Local owned) := by
  refine SystemCalls.Ensures.call holds_at hat fun before reply next hinv hanswers => ?_
  cases reply with
  | ok value => exact .done (hok value) (hsucceeds before value next hinv hanswers) fun _ => id
  | error kind =>
      obtain ⟨-, rfl⟩ := hanswers
      exact .done holds_at hinv fun _ => id

theorem ensures_change {call : SocketCall A} {refusal : ErrorKind → ε}
    (change : TcpSocket A → TcpSocket A) (hat : At base Local ((handle, socket) :: owned) host)
    (hbound : (change socket).bound = socket.bound)
    (hexclusive : socket.bound = none ∨ (change socket).exclusive = socket.exclusive)
    (hsucceeds : ∀ before value next, Host.Succeeds before call value next →
      before.Changes handle change next) :
    (request call refusal).Ensures (hostSystem A) (Host.Guarded base Local) host
      (fun _ => At base Local ((handle, change socket) :: owned))
      (At base Local ((handle, socket) :: owned)) := by
  refine ensures_request (fun _ => holds_at) hat fun before value next hbefore hnext => ?_
  obtain ⟨found, hfound, rfl⟩ := hsucceeds before value next hnext
  have hheld := hbefore.owns.held _ List.mem_cons_self
  obtain rfl := Option.some.inj (hheld.symm.trans hfound)
  exact hbefore.change hbound hexclusive

theorem ensures_socket {domain : Domain} {refusal : ErrorKind → ε}
    (hat : At base Local owned host) :
    (request (.socket domain) refusal).Ensures (hostSystem A) (Host.Guarded base Local) host
      (fun handle stop => ∃ socket : TcpSocket A,
        (socket.domain = domain ∧ socket.bound = none ∧ socket.listening = false) ∧
          At base Local ((handle, socket) :: owned) stop)
      (At base Local owned) := by
  refine ensures_request (fun _ => .exists fun _ => .and fun _ => holds_at) hat ?_
  rintro before handle next hbefore ⟨socket, hfree, hdomain, hunbound, hlistening, rfl⟩
  exact ⟨socket, ⟨hdomain, hunbound, hlistening⟩, hbefore.open hfree hunbound⟩

theorem ensures_bind {address : A} {port : UInt16} {refusal : ErrorKind → ε}
    (hlocal : Local address)
    (hat : At base Local ((handle, socket) :: owned) host) :
    (request (.bind handle (address, port)) refusal).Ensures (hostSystem A)
      (Host.Guarded base Local) host
      (fun _ stop => ∃ given, (if port = 0 then given ≠ 0 else given = port) ∧
        At base Local ((handle, { socket with bound := some (address, given) }) :: owned) stop)
      (At base Local ((handle, socket) :: owned)) := by
  refine ensures_request (fun _ => .exists fun _ => .and fun _ => holds_at) hat ?_
  rintro before _ next hbefore ⟨found, given, hfound, -, hgiven, hfree, rfl⟩
  have hheld := hbefore.owns.held _ List.mem_cons_self
  obtain rfl := Option.some.inj (hheld.symm.trans hfound)
  exact ⟨given, hgiven, hbefore.bind hfree hlocal⟩

theorem ensures_localAddr {refusal : ErrorKind → ε}
    (hat : At base Local ((handle, socket) :: owned) host) :
    (request (.localAddr handle) refusal).Ensures (hostSystem A) (Host.Guarded base Local) host
      (fun found stop => (∀ endpoint, found = some endpoint → socket.bound = some endpoint) ∧
        At base Local ((handle, socket) :: owned) stop)
      (At base Local ((handle, socket) :: owned)) := by
  refine ensures_request (fun _ => .and fun _ => holds_at) hat ?_
  rintro before found next hbefore ⟨⟨held, hheld, hfound⟩, rfl⟩
  have howned := hbefore.owns.held _ List.mem_cons_self
  obtain rfl := Option.some.inj (howned.symm.trans hheld)
  exact ⟨hfound, hbefore⟩

theorem ensures_fromStd {refusal : ErrorKind → ε} (hat : At base Local owned host) :
    (request (.fromStd handle) refusal).Ensures (hostSystem A) (Host.Guarded base Local) host
      (fun _ => At base Local owned) (At base Local owned) := by
  refine ensures_request (fun _ => holds_at) hat ?_
  rintro before _ next hbefore rfl
  exact hbefore

theorem ensures_close (hperm : owned.Perm ((handle, socket) :: rest))
    (hat : At base Local owned host) :
    (close handle).Ensures (hostSystem A) (Host.Guarded base Local) host
      fun _ => At base Local rest := by
  refine SystemCalls.Ensures.call holds_at hat fun before reply next hbefore hanswers => ?_
  cases reply with
  | ok value =>
      obtain rfl : next = before.set handle none := hanswers
      exact .done holds_at (hbefore.perm hperm).close fun _ => id
  | error kind =>
      obtain ⟨hfallible, -⟩ := hanswers
      cases hfallible

theorem ensures_closeAll (owned : Owned A) (hat : At base Local (owned ++ rest) host) :
    (closeAll (owned.map Prod.fst)).Ensures (hostSystem A) (Host.Guarded base Local) host
      fun _ => At base Local rest := by
  induction owned generalizing host with
  | nil => exact .done holds_at hat fun _ => id
  | cons item owned ih =>
      exact (ensures_close (.refl _) hat).bind fun _ middle hmiddle => ih hmiddle

end Rules

end HostSockets
