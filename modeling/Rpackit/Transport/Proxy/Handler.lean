import Rpackit.Transport.Proxy.WebSocket

/-! # The request handler

`handle_request` answers one request of one connection. What it does outside
itself is recorded as a list of effects; what the upstream and the task set do in
return is an `UpstreamRun`. The bootstrap flag is read and written by one
compare-exchange, so the handler takes its value and gives it back.
-/

namespace Rpackit.Transport

open Text Fallible

variable {Incoming Url : Type}

/-! ## Responses of the proxy itself -/

def fixedResponse (status : Nat) (text : String) : Response (ProxyBody Incoming) where
  status := status
  version := .http11
  headers := ((Multimap.empty.insert Header.contentType
    (.fromStatic "text/plain; charset=utf-8" (by decide))).insert Header.cacheControl
    (.fromStatic "no-store" (by decide))).insert Header.connection connectionClose
  body := .full (asBytes text)

def unauthorized : Response (ProxyBody Incoming) :=
  fixedResponse Status.unauthorized "Authentication failed"

def badRequest : Response (ProxyBody Incoming) :=
  fixedResponse Status.badRequest "Request rejected"

def forbidden : Response (ProxyBody Incoming) :=
  fixedResponse Status.forbidden "Request rejected"

def badGateway : Response (ProxyBody Incoming) :=
  fixedResponse Status.badGateway "Upstream rejected"

def bootstrapBody : String :=
  "<!doctype html><html><head><meta charset=\"utf-8\"><meta name=\"viewport\" " ++
  "content=\"width=device-width\"><title>Loading</title></head><body>" ++
  "<p>Loading application…</p></body></html>"

/-- `name=value` of the session cookie. -/
def sessionPair (session : Secret) : Bytes := sessionCookieName ++ equals :: session.value

/-- The `Set-Cookie` text that hands out the session credential. -/
def sessionCookieText (session : Secret) : Bytes :=
  sessionPair session ++ asBytes "; Path=/; HttpOnly; SameSite=Strict"

def bootstrapHeaders : HeaderMap :=
  (((((Multimap.empty.insert Header.contentType
    (.fromStatic "text/html; charset=utf-8" (by decide))).insert Header.cacheControl
    (.fromStatic "no-store" (by decide))).insert Header.contentSecurityPolicy
    (.fromStatic
      "default-src 'none'; base-uri 'none'; form-action 'none'; frame-ancestors 'none'"
      (by decide))).insert Header.referrerPolicy
    (.fromStatic "no-referrer" (by decide))).insert Header.xContentTypeOptions
    (.fromStatic "nosniff" (by decide))).insert Header.connection connectionClose

def bootstrapResponse (headOnly : Bool) (session : Secret) : Response (ProxyBody Incoming) where
  status := Status.ok
  version := .http11
  headers :=
    match HeaderValue.fromBytes? (sessionCookieText session) with
    | none => bootstrapHeaders
    | some cookie => bootstrapHeaders.insert Header.setCookie cookie
  body := .full (if headOnly then [] else asBytes bootstrapBody)

/-! ## Bootstrap authentication -/

/-- Exactly one bootstrap field, equal to the secret: the part of
`authenticate_bootstrap` before the compare-exchange. -/
def presentsBootstrap (request : Request Incoming) (state : ProxyState) : Bool :=
  match request.headers.getAll bootstrapHeaderName with
  | [value] => state.secrets.bootstrap.matchesCandidate value.bytes
  | _ => false

/-- `compare_exchange(false, true)`: whether it succeeded, and the flag after it. -/
def compareExchange (consumed : Bool) : Bool × Bool := (!consumed, true)

/-- The verdict and the flag it leaves behind. -/
def authenticateBootstrap (request : Request Incoming) (state : ProxyState) (consumed : Bool) :
    Bool × Bool :=
  if presentsBootstrap request state then compareExchange consumed else (false, consumed)

/-! ## Forwarding -/

/-- What the handler does outside itself. -/
inductive Effect (Incoming : Type) where
  | connect (upstream : SocketAddr)
  | sendRequest (request : Request (ProxyBody Incoming))
  | spawnTunnel
  deriving DecidableEq

/-- How the upstream and the task set answer one forwarded request: the outcome
of the connect, of the client handshake, of spawning its driver, of waiting for
the sender, of the exchange itself, and of spawning the tunnel. -/
structure UpstreamRun (Incoming : Type) where
  connected : Except BoxError Unit
  handshake : Except BoxError Unit
  driverSpawned : Bool
  ready : Except BoxError Unit
  answer : Except BoxError (Response Incoming)
  tunnelSpawned : Bool

/-- An upstream that refuses the connection. -/
def UpstreamRun.refused : UpstreamRun Incoming where
  connected := .error .network
  handshake := .error .network
  driverSpawned := false
  ready := .error .network
  answer := .error .network
  tunnelSpawned := false

def shuttingDown : BoxError := .other "proxy is shutting down"

/-- Everything up to the point where the request can be sent. -/
def startClient (upstream : UpstreamRun Incoming) : Except BoxError Unit := do
  upstream.connected
  upstream.handshake
  rejectIf (!upstream.driverSpawned) shuttingDown
  upstream.ready

/-- Connect, start the client and exchange one request: the common part of
`forward_http` and `forward_websocket`. -/
def exchange (state : ProxyState) (request : Request (ProxyBody Incoming))
    (upstream : UpstreamRun Incoming) :
    List (Effect Incoming) × Except BoxError (Response Incoming) :=
  match startClient upstream with
  | .error error => ([.connect state.upstream], .error error)
  | .ok () => ([.connect state.upstream, .sendRequest request], upstream.answer)

def forwardHttp (crates : Crates Url) (request : Request Incoming) (raw : RawAdmission)
    (state : ProxyState) (upstream : UpstreamRun Incoming) :
    List (Effect Incoming) × Except BoxError (Response (ProxyBody Incoming)) :=
  match normalizeHttpRequest crates request raw state with
  | .error error => ([], .error error)
  | .ok upstreamRequest =>
      let exchanged := exchange state upstreamRequest upstream
      (exchanged.1, do
        let response ← exchanged.2
        normalizeHttpResponse crates response upstreamRequest.method state)

/-- The downstream 101 for the answer of the upstream. -/
def completeUpgrade (offer : WebSocketOffer) (answer : Except BoxError (Response Incoming)) :
    Except BoxError (Response (ProxyBody Incoming)) := do
  let response ← answer
  let selected ← validateWebsocketResponse response offer
  downstreamWebsocketResponse offer selected

def forwardWebsocket (crates : Crates Url) (request : Request Incoming) (state : ProxyState)
    (upstream : UpstreamRun Incoming) :
    List (Effect Incoming) × Except BoxError (Response (ProxyBody Incoming)) :=
  match validateWebsocketRequest crates request state.expectedOrigin with
  | .error error => ([], .error error)
  | .ok offer =>
      match buildUpstreamWebsocketRequest offer state with
      | .error error => ([], .error error)
      | .ok upstreamRequest =>
          let exchanged := exchange state upstreamRequest upstream
          match completeUpgrade offer exchanged.2 with
          | .error error => (exchanged.1, .error error)
          | .ok response =>
              if upstream.tunnelSpawned then (exchanged.1 ++ [.spawnTunnel], .ok response)
              else (exchanged.1, .error shuttingDown)

def forward (crates : Crates Url) (request : Request Incoming) (raw : RawAdmission)
    (state : ProxyState) (upstream : UpstreamRun Incoming) :
    List (Effect Incoming) × Except BoxError (Response (ProxyBody Incoming)) :=
  if raw.websocketUpgrade then forwardWebsocket crates request state upstream
  else forwardHttp crates request raw state upstream

theorem exchange_connect {state : ProxyState} {request : Request (ProxyBody Incoming)}
    {upstream : UpstreamRun Incoming} {address : SocketAddr}
    (hconnect : .connect address ∈ (exchange state request upstream).1) :
    address = state.upstream := by
  unfold exchange at hconnect
  split at hconnect
  · simpa using hconnect
  · simpa using hconnect

theorem forwardHttp_connect {crates : Crates Url} {request : Request Incoming}
    {raw : RawAdmission} {state : ProxyState} {upstream : UpstreamRun Incoming}
    {address : SocketAddr}
    (hconnect : .connect address ∈ (forwardHttp crates request raw state upstream).1) :
    address = state.upstream := by
  unfold forwardHttp at hconnect
  split at hconnect
  · simp at hconnect
  · exact exchange_connect hconnect

theorem forwardHttp_ok {crates : Crates Url} {request : Request Incoming} {raw : RawAdmission}
    {state : ProxyState} {upstream : UpstreamRun Incoming} {effects : List (Effect Incoming)}
    {response : Response (ProxyBody Incoming)}
    (hok : forwardHttp crates request raw state upstream = (effects, .ok response)) :
    ∃ upstreamRequest answer, normalizeHttpRequest crates request raw state = .ok upstreamRequest ∧
      normalizeHttpResponse crates answer upstreamRequest.method state = .ok response := by
  unfold forwardHttp at hok
  split at hok
  · cases hok
  next upstreamRequest hrequest =>
    obtain ⟨-, hanswer⟩ := Prod.ext_iff.mp hok
    obtain ⟨answer, -, hnormalized⟩ := bind_eq_ok_iff.mp hanswer
    exact ⟨upstreamRequest, answer, hrequest, hnormalized⟩

/-- A WebSocket upgrade connects only for a valid offer. -/
theorem forwardWebsocket_connect {crates : Crates Url} {request : Request Incoming}
    {state : ProxyState} {upstream : UpstreamRun Incoming} {address : SocketAddr}
    (hconnect : .connect address ∈ (forwardWebsocket crates request state upstream).1) :
    address = state.upstream ∧
      ∃ offer, validateWebsocketRequest crates request state.expectedOrigin = .ok offer := by
  unfold forwardWebsocket at hconnect
  split at hconnect
  · simp at hconnect
  next offer hoffer =>
    refine ⟨?_, offer, hoffer⟩
    split at hconnect
    · simp at hconnect
    · simp only at hconnect
      split at hconnect
      · exact exchange_connect hconnect
      · split at hconnect
        · exact exchange_connect (by simpa using hconnect)
        · exact exchange_connect hconnect

theorem forwardWebsocket_ok {crates : Crates Url} {request : Request Incoming}
    {state : ProxyState} {upstream : UpstreamRun Incoming} {effects : List (Effect Incoming)}
    {response : Response (ProxyBody Incoming)}
    (hok : forwardWebsocket crates request state upstream = (effects, .ok response)) :
    .spawnTunnel ∈ effects ∧
      ∃ offer selected, downstreamWebsocketResponse offer selected = .ok response := by
  unfold forwardWebsocket at hok
  split at hok
  · cases hok
  next offer _ =>
    split at hok
    · cases hok
    · simp only at hok
      split at hok
      · cases hok
      next completed hcompleted =>
        split at hok
        · obtain ⟨rfl, hresponse⟩ := Prod.ext_iff.mp hok
          cases hresponse
          simp only [completeUpgrade, bind_eq_ok_iff] at hcompleted
          obtain ⟨-, -, selected, -, hdownstream⟩ := hcompleted
          exact ⟨by simp, offer, selected, hdownstream⟩
        · cases hok

/-! ## The handler -/

/-- What one request leaves behind. -/
structure Handled (Incoming : Type) where
  consumed : Bool
  effects : List (Effect Incoming)
  response : Response (ProxyBody Incoming)
  deriving DecidableEq

def handleRequest (crates : Crates Url) (request : Request Incoming) (raw : RawAdmission)
    (state : ProxyState) (consumed : Bool) (upstream : UpstreamRun Incoming) : Handled Incoming :=
  if isBootstrap request then
    let (authenticated, consumed) := authenticateBootstrap request state consumed
    if authenticated then
      ⟨consumed, [], bootstrapResponse (request.method == Method.head) state.secrets.session⟩
    else ⟨consumed, [], unauthorized⟩
  else if referencesBootstrapRoute request.uri then ⟨consumed, [], badRequest⟩
  else if request.headers.containsKey bootstrapHeaderName then ⟨consumed, [], badRequest⟩
  else
    match validateOrigin request state.expectedOrigin raw.websocketUpgrade with
    | .error () => ⟨consumed, [], forbidden⟩
    | .ok () =>
        match authenticateAndStrip request.headers state.secrets.session with
        | (.error _, _) => ⟨consumed, [], unauthorized⟩
        | (.ok (), stripped) =>
            let (effects, answer) := forward crates { request with headers := stripped } raw state
              upstream
            match answer with
            | .error _ => ⟨consumed, effects, badGateway⟩
            | .ok response => ⟨consumed, effects, response⟩

/-! ## What one request can lead to -/

/-- The checks that stand before both forwarding paths. -/
structure PassesGate (request : Request Incoming) (raw : RawAdmission) (state : ProxyState) :
    Prop where
  route : isBootstrap request = false
  segments : referencesBootstrapRoute request.uri = false
  header : request.headers.containsKey bootstrapHeaderName = false
  origin : validateOrigin request state.expectedOrigin raw.websocketUpgrade = .ok ()
  authenticated : (authenticateAndStrip request.headers state.secrets.session).1 = .ok ()

/-- The request after its reserved cookie was removed. -/
def authenticatedRequest (request : Request Incoming) (state : ProxyState) : Request Incoming :=
  { request with headers := (authenticateAndStrip request.headers state.secrets.session).2 }

/-- A request that wins the bootstrap secret if the flag is still clear. -/
def isBootstrapAttempt (request : Request Incoming) (state : ProxyState) : Bool :=
  isBootstrap request && presentsBootstrap request state

/-- The four ways a request can be answered. -/
inductive HandlerOutcome (crates : Crates Url) (request : Request Incoming) (raw : RawAdmission)
    (state : ProxyState) (consumed : Bool) (upstream : UpstreamRun Incoming) :
    Handled Incoming → Prop
  | bootstrap (hattempt : isBootstrapAttempt request state = true) (hfresh : consumed = false) :
      HandlerOutcome crates request raw state consumed upstream
        ⟨true, [], bootstrapResponse (request.method == Method.head) state.secrets.session⟩
  | rejected {response : Response (ProxyBody Incoming)}
      (hfixed : response ∈ [unauthorized, badRequest, forbidden])
      (hgate : ¬PassesGate request raw state)
      (hattempt : isBootstrapAttempt request state = true → consumed = true) :
      HandlerOutcome crates request raw state consumed upstream ⟨consumed, [], response⟩
  | failed {effects : List (Effect Incoming)} {error : BoxError}
      (hgate : PassesGate request raw state)
      (hforward : forward crates (authenticatedRequest request state) raw state upstream =
        (effects, .error error)) :
      HandlerOutcome crates request raw state consumed upstream ⟨consumed, effects, badGateway⟩
  | forwarded {effects : List (Effect Incoming)} {response : Response (ProxyBody Incoming)}
      (hgate : PassesGate request raw state)
      (hforward : forward crates (authenticatedRequest request state) raw state upstream =
        (effects, .ok response)) :
      HandlerOutcome crates request raw state consumed upstream ⟨consumed, effects, response⟩

theorem handleRequest_outcome (crates : Crates Url) (request : Request Incoming)
    (raw : RawAdmission) (state : ProxyState) (consumed : Bool)
    (upstream : UpstreamRun Incoming) :
    HandlerOutcome crates request raw state consumed upstream
      (handleRequest crates request raw state consumed upstream) := by
  unfold handleRequest
  split
  next hroute =>
    have hclosed : ¬PassesGate request raw state := fun hgate => by simp [hgate.route] at hroute
    cases hpresents : presentsBootstrap request state with
    | false =>
        simp only [authenticateBootstrap, hpresents, Bool.false_eq_true, if_false]
        exact .rejected (by simp) hclosed (by simp [isBootstrapAttempt, hpresents])
    | true =>
        have hattempt : isBootstrapAttempt request state = true := by
          simp [isBootstrapAttempt, hroute, hpresents]
        cases consumed with
        | false =>
            simp only [authenticateBootstrap, hpresents, compareExchange, if_true]
            exact .bootstrap hattempt rfl
        | true =>
            simp only [authenticateBootstrap, hpresents, compareExchange, if_true]
            exact .rejected (by simp) hclosed fun _ => rfl
  next hroute =>
    have hnot : isBootstrapAttempt request state = true → consumed = true := by
      simp [isBootstrapAttempt, hroute]
    split
    next hsegments =>
      exact .rejected (by simp) (fun hgate => by simp [hgate.segments] at hsegments) hnot
    next hsegments =>
      split
      next hheader =>
        exact .rejected (by simp) (fun hgate => by simp [hgate.header] at hheader) hnot
      next hheader =>
        split
        next horigin =>
          exact .rejected (by simp) (fun hgate => by simp [hgate.origin] at horigin) hnot
        next horigin =>
          split
          next error headers hstrip =>
            refine .rejected (by simp) (fun hgate => ?_) hnot
            simpa [hstrip] using hgate.authenticated
          next stripped hstrip =>
            -- past the five checks
            have hgate : PassesGate request raw state :=
              ⟨Bool.eq_false_iff.mpr hroute, Bool.eq_false_iff.mpr hsegments,
                Bool.eq_false_iff.mpr hheader, horigin, by rw [hstrip]⟩
            have hrequest : authenticatedRequest request state =
                { request with headers := stripped } := by
              rw [authenticatedRequest, hstrip]
            rw [← hrequest]
            cases hforward : forward crates (authenticatedRequest request state) raw state
              upstream with
            | mk effects answer =>
                cases answer with
                | error error => exact .failed hgate hforward
                | ok response => exact .forwarded hgate hforward

end Rpackit.Transport
