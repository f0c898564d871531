import Rpackit.Transport.Proxy.Handler

/-! # One downstream connection

`handle_socket` admits the first request head of a connection and gives the
verdict to every request Hyper dispatches on it. No second request is ever
dispatched, because every response ends the connection.
-/

namespace Rpackit.Transport

open Text Fallible

variable {Incoming Url : Type}

/-! ## Reading the prefix -/

/-- What one read of the socket meets: a number of bytes already received, none
of them at the end of the stream, or a failure. -/
inductive SocketRead where
  | available (count : Nat)
  | failed
  deriving DecidableEq, Repr

def prefixChunkBytes : Nat := 4 * 1024

/-- `read_request_prefix`: the bytes read so far and the bytes still in the
socket. A schedule that runs out is the elapsed header timeout. -/
def readRequestPrefix (maxHeaderBytes : Nat) :
    List SocketRead → Bytes → Bytes → Option (Bytes × Bytes)
  | [], bytes, stream => if (headerEnd bytes).isSome then some (bytes, stream) else none
  | read :: rest, bytes, stream =>
      if (headerEnd bytes).isSome then some (bytes, stream)
      else if bytes.length ≥ maxHeaderBytes then none
      else
        match read with
        | .failed => none
        | .available count =>
            let chunkLimit := min (maxHeaderBytes - bytes.length) prefixChunkBytes
            let size := min count chunkLimit
            if stream.take size = [] then none
            else readRequestPrefix maxHeaderBytes rest (bytes ++ stream.take size)
              (stream.drop size)

/-- Replaying the prefix before the socket gives the stream back. -/
theorem readRequestPrefix_append {maxHeaderBytes : Nat} {schedule : List SocketRead}
    {bytes stream replayed socket : Bytes}
    (hread : readRequestPrefix maxHeaderBytes schedule bytes stream = some (replayed, socket)) :
    replayed ++ socket = bytes ++ stream := by
  induction schedule generalizing bytes stream with
  | nil =>
      unfold readRequestPrefix at hread
      split at hread
      · cases hread
        rfl
      · cases hread
  | cons read rest ih =>
      unfold readRequestPrefix at hread
      split at hread
      · cases hread
        rfl
      · split at hread
        · cases hread
        · cases read with
          | failed => cases hread
          | available count =>
              simp only at hread
              split at hread
              · cases hread
              · rw [ih hread, List.append_assoc, List.take_append_drop]

/-! ## Dispatching requests -/

/-- The next request Hyper parses from the bytes of a connection, with the number
of bytes it takes. -/
structure Hyper (Incoming : Type) where
  next : Bytes → Option (Request Incoming × Nat)

/-- A request the service saw: where its first byte stands in the stream, the
admission verdict it was handled with, and the outcome. -/
structure Dispatched (Incoming : Type) where
  offset : Nat
  request : Request Incoming
  raw : RawAdmission
  handled : Handled Incoming

/-- A response after which Hyper serves no further request. -/
def EndsConnection (handled : Handled Incoming) : Prop :=
  (∃ value ∈ handled.response.headers.getAll Header.connection,
    eqIgnoreAsciiCase value.bytes (asBytes "close") = true) ∨
  (handled.response.status = Status.switchingProtocols ∧ .spawnTunnel ∈ handled.effects)

/-- Hyper's keep-alive loop from an offset of the stream: it may stop at any
point, and goes on only after a response that does not end the connection. The
bootstrap flag and the upstream are whatever they are when a request is handled. -/
inductive Serves (crates : Crates Url) (hyper : Hyper Incoming) (state : ProxyState)
    (raw : RawAdmission) (stream : Bytes) : Nat → List (Dispatched Incoming) → Prop
  | stop (offset : Nat) : Serves crates hyper state raw stream offset []
  | dispatch {offset length : Nat} {request : Request Incoming} {rest : List (Dispatched Incoming)}
      (consumed : Bool) (upstream : UpstreamRun Incoming)
      (hnext : hyper.next (stream.drop offset) = some (request, length))
      (hcontinue : rest ≠ [] →
        ¬EndsConnection (handleRequest crates request raw state consumed upstream))
      (hrest : Serves crates hyper state raw stream (offset + length) rest) :
      Serves crates hyper state raw stream offset
        (⟨offset, request, raw, handleRequest crates request raw state consumed upstream⟩ :: rest)

/-- What `handle_socket` dispatches for the byte stream of one connection. -/
inductive HandlesSocket (crates : Crates Url) (hyper : Hyper Incoming) (state : ProxyState)
    (stream : Bytes) : List (Dispatched Incoming) → Prop
  | rejected : HandlesSocket crates hyper state stream []
  | served {schedule : List SocketRead} {replayed socket : Bytes} {raw : RawAdmission}
      {dispatched : List (Dispatched Incoming)}
      (hread : readRequestPrefix state.limits.maxHeaderBytes schedule [] stream =
        some (replayed, socket))
      (hadmitted : validate crates replayed state.expectedAuthority state.limits = .ok raw)
      (hserves : Serves crates hyper state raw (replayed ++ socket) 0 dispatched) :
      HandlesSocket crates hyper state stream dispatched

/-! ## Every response ends the connection -/

theorem fixedResponse_connection (status : Nat) (text : String) :
    (fixedResponse status text : Response (ProxyBody Incoming)).headers.getAll Header.connection =
      [connectionClose] := Multimap.getAll_insert_self _ _ _

theorem bootstrapResponse_connection (headOnly : Bool) (session : Secret) :
    (bootstrapResponse headOnly session : Response (ProxyBody Incoming)).headers.getAll
      Header.connection = [connectionClose] := by
  unfold bootstrapResponse
  cases HeaderValue.fromBytes? (sessionCookieText session) with
  | none => exact Multimap.getAll_insert_self _ _ _
  | some cookie =>
      change (bootstrapHeaders.insert Header.setCookie cookie).getAll Header.connection = _
      rw [Multimap.getAll_insert_of_ne _ _ (by decide)]
      exact Multimap.getAll_insert_self _ _ _

theorem downstreamWebsocketResponse_status {offer : WebSocketOffer} {selected : Option Bytes}
    {response : Response (ProxyBody Incoming)}
    (hok : downstreamWebsocketResponse offer selected = .ok response) :
    response.status = Status.switchingProtocols := by
  obtain ⟨headers, -, hresponse⟩ := bind_eq_ok_iff.mp hok
  rw [pure_eq_ok_iff.mp hresponse]

theorem forward_ends {crates : Crates Url} {request : Request Incoming} {raw : RawAdmission}
    {state : ProxyState} {upstream : UpstreamRun Incoming} {effects : List (Effect Incoming)}
    {response : Response (ProxyBody Incoming)}
    (hok : forward crates request raw state upstream = (effects, .ok response)) :
    response.headers.getAll Header.connection = [connectionClose] ∨
      (response.status = Status.switchingProtocols ∧ .spawnTunnel ∈ effects) := by
  unfold forward at hok
  split at hok
  · obtain ⟨htunnel, offer, selected, hdownstream⟩ := forwardWebsocket_ok hok
    exact .inr ⟨downstreamWebsocketResponse_status hdownstream, htunnel⟩
  · obtain ⟨upstreamRequest, answer, -, hnormalized⟩ := forwardHttp_ok hok
    exact .inl (normalizeHttpResponse_connection hnormalized)

theorem handleRequest_ends (crates : Crates Url) (request : Request Incoming)
    (raw : RawAdmission) (state : ProxyState) (consumed : Bool)
    (upstream : UpstreamRun Incoming) {handled : Handled Incoming}
    (houtcome : HandlerOutcome crates request raw state consumed upstream handled) :
    handled.response.headers.getAll Header.connection = [connectionClose] ∨
      (handled.response.status = Status.switchingProtocols ∧ .spawnTunnel ∈ handled.effects) := by
  cases houtcome with
  | bootstrap => exact .inl (bootstrapResponse_connection _ _)
  | rejected hfixed =>
      simp only [List.mem_cons, List.not_mem_nil, or_false] at hfixed
      rcases hfixed with rfl | rfl | rfl <;> exact .inl (fixedResponse_connection _ _)
  | failed => exact .inl (fixedResponse_connection _ _)
  | forwarded _ hforward => exact forward_ends hforward

theorem handleRequest_endsConnection (crates : Crates Url) (request : Request Incoming)
    (raw : RawAdmission) (state : ProxyState) (consumed : Bool)
    (upstream : UpstreamRun Incoming) :
    EndsConnection (handleRequest crates request raw state consumed upstream) := by
  rcases handleRequest_ends crates request raw state consumed upstream
    (handleRequest_outcome crates request raw state consumed upstream) with hclose | hupgrade
  · exact .inl ⟨connectionClose, by rw [hclose]; exact List.mem_singleton_self _, by decide⟩
  · exact .inr hupgrade

/-- At most one request is dispatched, at the offset where serving started. -/
theorem serves_cases {crates : Crates Url} {hyper : Hyper Incoming} {state : ProxyState}
    {raw : RawAdmission} {stream : Bytes} {offset : Nat} {dispatched : List (Dispatched Incoming)}
    (hserves : Serves crates hyper state raw stream offset dispatched) :
    dispatched = [] ∨ ∃ only length, dispatched = [only] ∧ only.offset = offset ∧
      only.raw = raw ∧ hyper.next (stream.drop offset) = some (only.request, length) := by
  cases hserves with
  | stop => exact .inl rfl
  | @dispatch _ length request rest consumed upstream hnext hcontinue hrest =>
      have hlast : rest = [] := by
        by_contra hmore
        exact hcontinue hmore (handleRequest_endsConnection crates request raw state consumed
          upstream)
      subst hlast
      exact .inr ⟨_, length, rfl, rfl, rfl, hnext⟩

/-- Every response carries exactly `Connection: close` or is a 101 handed to the
tunnel; so the only request a connection serves is the one that starts the
stream, and its admission verdict is that of the head that starts the stream. -/
theorem connection_serves_admitted_request (crates : Crates Url) (hyper : Hyper Incoming)
    (state : ProxyState) :
    (∀ (request : Request Incoming) (raw : RawAdmission) (consumed : Bool)
        (upstream : UpstreamRun Incoming),
      let handled := handleRequest crates request raw state consumed upstream
      (∃ value, handled.response.headers.getAll (asBytes "connection") = [value] ∧
          value.bytes = asBytes "close") ∨
        (handled.response.status = 101 ∧ .spawnTunnel ∈ handled.effects)) ∧
    ∀ (stream : Bytes) (dispatched : List (Dispatched Incoming)),
      HandlesSocket crates hyper state stream dispatched →
        dispatched.length ≤ 1 ∧
        ∀ served ∈ dispatched, served.offset = 0 ∧
          (∃ length, hyper.next stream = some (served.request, length)) ∧
          ∃ stop, headerEnd stream = some stop ∧
            validate crates (stream.take stop) state.expectedAuthority state.limits =
              .ok served.raw := by
  refine ⟨fun request raw consumed upstream => ?_, fun stream dispatched hsocket => ?_⟩
  · exact (handleRequest_ends crates request raw state consumed upstream
      (handleRequest_outcome crates request raw state consumed upstream)).imp_left
        fun hclose => ⟨connectionClose, hclose, rfl⟩
  · cases hsocket with
    | rejected => simp
    | @served schedule replayed socket raw _ hread hadmitted hserves =>
        have hstream : replayed ++ socket = stream := readRequestPrefix_append hread
        obtain ⟨stop, hend⟩ := validate_headerEnd crates hadmitted
        -- the prefix that was admitted starts the stream that Hyper reads
        have hfirst : headerEnd stream = some stop := hstream ▸ headerEnd_append socket hend
        have hhead : stream.take stop = replayed.take stop := by
          rw [← hstream, List.take_append_of_le_length (headerEnd_le hend)]
        rw [hstream] at hserves
        rcases serves_cases hserves with rfl | ⟨only, length, rfl, hoffset, rfl, hnext⟩
        · simp
        · refine ⟨le_rfl, fun served hserved => ?_⟩
          obtain rfl := List.mem_singleton.mp hserved
          rw [List.drop_zero] at hnext
          refine ⟨hoffset, ⟨length, hnext⟩, stop, hfirst, ?_⟩
          rw [hhead, validate_take crates hend, hadmitted]

end Rpackit.Transport
