import Rpackit.Transport.Proxy.Handler

/-! # The gate in front of the upstream

A connection to the upstream is opened only for a request that passed every
check; every other request is answered by the proxy itself.
-/

namespace Rpackit.Transport

open Text Fallible

variable {Incoming Url : Type}

/-- The exact bootstrap route: a framing-free `GET` or `HEAD` without a query. -/
structure OnBootstrapRoute (request : Request Incoming) : Prop where
  method : request.method = asBytes "GET" ∨ request.method = asBytes "HEAD"
  path : request.uri.path = asBytes "/__rpackit_bootstrap"
  query : request.uri.query = none
  contentLength : request.headers.getAll (asBytes "content-length") = []
  transferEncoding : request.headers.getAll (asBytes "transfer-encoding") = []

theorem isBootstrap_iff {request : Request Incoming} :
    isBootstrap request = true ↔ OnBootstrapRoute request := by
  simp only [isBootstrap, Bool.and_eq_true, Bool.or_eq_true, beq_iff_eq, Option.isNone_iff_eq_none,
    Bool.not_eq_true', Multimap.containsKey_eq_false_iff]
  constructor
  · rintro ⟨⟨⟨⟨hmethod, hpath⟩, hquery⟩, hlength⟩, hencoding⟩
    exact ⟨hmethod, hpath, hquery, hlength, hencoding⟩
  · rintro ⟨hmethod, hpath, hquery, hlength, hencoding⟩
    exact ⟨⟨⟨⟨hmethod, hpath⟩, hquery⟩, hlength⟩, hencoding⟩

theorem referencesBootstrapRoute_eq_false_iff {uri : Uri} :
    referencesBootstrapRoute uri = false ↔
      ∀ segment ∈ (decodeUtf8Lossy (percentDecode uri.path)).splitOn '/',
        segment ≠ "__rpackit_bootstrap".toList := by
  rw [referencesBootstrapRoute, List.any_eq_false]
  exact forall₂_congr fun segment _ => not_congr beq_iff_eq

/-- Exactly one exact origin for an upgrade and for a method that may change
state; for the other methods it may also be absent. -/
structure OriginAccepted (request : Request Incoming) (expectedOrigin : Bytes)
    (websocket : Bool) : Prop where
  exact : ∀ origins, request.headers.getAll (asBytes "origin") = origins → origins ≠ [] →
    origins.map HeaderValue.bytes = [expectedOrigin]
  required : websocket = true ∨
      request.method ∉ [asBytes "GET", asBytes "HEAD", asBytes "OPTIONS"] →
    request.headers.getAll (asBytes "origin") ≠ []

theorem validateOrigin_eq_ok_iff {request : Request Incoming} {expectedOrigin : Bytes}
    {websocket : Bool} {u : Unit} :
    validateOrigin request expectedOrigin websocket = .ok u ↔
      OriginAccepted request expectedOrigin websocket := by
  have hunsafe : (!(request.method == Method.get || request.method == Method.head
      || request.method == Method.options)) = true ↔
      request.method ∉ [asBytes "GET", asBytes "HEAD", asBytes "OPTIONS"] := by
    simp [Method.get, Method.head, Method.options, and_assoc]
  unfold validateOrigin
  simp only [Bool.or_eq_true, hunsafe]
  split
  next hrequired =>
    rw [rejectIf_eq_ok_iff, bne_eq_false_iff_eq]
    constructor
    · intro horigin
      refine ⟨?_, fun _ hnil => ?_⟩
      · rintro _ rfl -
        exact horigin
      · rw [show Header.origin = asBytes "origin" from rfl, hnil] at horigin
        cases horigin
    · rintro ⟨hexact, hpresent⟩
      exact hexact _ rfl (hpresent hrequired)
  next hoptional =>
    simp only [rejectIf_eq_ok_iff, Bool.and_eq_false_iff, bne_eq_false_iff_eq, List.map_eq_nil_iff]
    constructor
    · intro horigin
      refine ⟨?_, fun hrequired => absurd hrequired hoptional⟩
      rintro _ rfl hne
      exact horigin.resolve_left hne
    · rintro ⟨hexact, -⟩
      exact or_iff_not_imp_left.mpr (hexact _ rfl)

/-- Everything a request must satisfy before the upstream is contacted. -/
structure MayConnect (crates : Crates Url) (request : Request Incoming) (raw : RawAdmission)
    (state : ProxyState) : Prop where
  route : ¬OnBootstrapRoute request
  segments : ∀ segment ∈ (decodeUtf8Lossy (percentDecode request.uri.path)).splitOn '/',
    segment ≠ "__rpackit_bootstrap".toList
  header : request.headers.getAll (asBytes "x-rpackit-bootstrap") = []
  origin : OriginAccepted request state.expectedOrigin raw.websocketUpgrade
  authenticated : (authenticateAndStrip request.headers state.secrets.session).1 = .ok ()
  upgrade : raw.websocketUpgrade = true → ∃ offer, validateWebsocketRequest crates
    (authenticatedRequest request state) state.expectedOrigin = .ok offer

theorem passesGate_iff {request : Request Incoming} {raw : RawAdmission} {state : ProxyState} :
    PassesGate request raw state ↔
      ¬OnBootstrapRoute request ∧
      (∀ segment ∈ (decodeUtf8Lossy (percentDecode request.uri.path)).splitOn '/',
        segment ≠ "__rpackit_bootstrap".toList) ∧
      request.headers.getAll (asBytes "x-rpackit-bootstrap") = [] ∧
      OriginAccepted request state.expectedOrigin raw.websocketUpgrade ∧
      (authenticateAndStrip request.headers state.secrets.session).1 = .ok () := by
  rw [← isBootstrap_iff, Bool.not_eq_true, ← referencesBootstrapRoute_eq_false_iff,
    ← validateOrigin_eq_ok_iff (u := ()), ← Multimap.containsKey_eq_false_iff]
  constructor
  · rintro ⟨hroute, hsegments, hheader, horigin, hauthenticated⟩
    exact ⟨hroute, hsegments, hheader, horigin, hauthenticated⟩
  · rintro ⟨hroute, hsegments, hheader, horigin, hauthenticated⟩
    exact ⟨hroute, hsegments, hheader, horigin, hauthenticated⟩

theorem forward_connect {crates : Crates Url} {request : Request Incoming} {raw : RawAdmission}
    {state : ProxyState} {upstream : UpstreamRun Incoming} {address : SocketAddr}
    (hconnect : .connect address ∈ (forward crates request raw state upstream).1) :
    address = state.upstream ∧ (raw.websocketUpgrade = true →
      ∃ offer, validateWebsocketRequest crates request state.expectedOrigin = .ok offer) := by
  unfold forward at hconnect
  split at hconnect
  next =>
    obtain ⟨haddress, hoffer⟩ := forwardWebsocket_connect hconnect
    exact ⟨haddress, fun _ => hoffer⟩
  next hplain => exact ⟨forwardHttp_connect hconnect, fun hupgrade => absurd hupgrade hplain⟩

/-- An upgrade without a valid offer fails before anything is sent. -/
theorem forward_invalid_upgrade {crates : Crates Url} {request : Request Incoming}
    {raw : RawAdmission} {state : ProxyState} {upstream : UpstreamRun Incoming}
    (hupgrade : raw.websocketUpgrade = true)
    (hinvalid : ¬∃ offer, validateWebsocketRequest crates request state.expectedOrigin =
      .ok offer) :
    ∃ error, forward crates request raw state upstream = ([], .error error) := by
  rw [forward, if_pos hupgrade, forwardWebsocket]
  split
  next error _ => exact ⟨error, rfl⟩
  next offer hoffer => exact absurd ⟨offer, hoffer⟩ hinvalid

/-- A response whose head and body the proxy makes up itself. -/
def LocallyGenerated (session : Secret) (response : Response (ProxyBody Incoming)) : Prop :=
  (∃ status text, response = fixedResponse status text) ∨
    ∃ headOnly, response = bootstrapResponse headOnly session

theorem locallyGenerated_of_mem {session : Secret} {response : Response (ProxyBody Incoming)}
    (hmem : response ∈ [unauthorized, badRequest, forbidden]) :
    LocallyGenerated session response := by
  simp only [List.mem_cons, List.not_mem_nil, or_false] at hmem
  rcases hmem with rfl | rfl | rfl <;> exact .inl ⟨_, _, rfl⟩

/-- The upstream is contacted only for a request that passed every check, and a
request that failed one is answered locally without contacting anything. -/
theorem handleRequest_connect (crates : Crates Url) (request : Request Incoming)
    (raw : RawAdmission) (state : ProxyState) (consumed : Bool)
    (upstream : UpstreamRun Incoming) :
    let handled := handleRequest crates request raw state consumed upstream
    (∀ address, .connect address ∈ handled.effects →
      address = state.upstream ∧ MayConnect crates request raw state) ∧
    (¬MayConnect crates request raw state →
      handled.effects = [] ∧ LocallyGenerated state.secrets.session handled.response) := by
  have hmay : PassesGate request raw state → (raw.websocketUpgrade = true →
      ∃ offer, validateWebsocketRequest crates (authenticatedRequest request state)
        state.expectedOrigin = .ok offer) → MayConnect crates request raw state := by
    intro hgate hupgrade
    obtain ⟨hroute, hsegments, hheader, horigin, hauthenticated⟩ := passesGate_iff.mp hgate
    exact ⟨hroute, hsegments, hheader, horigin, hauthenticated, hupgrade⟩
  -- past the gate, only an upgrade without a valid offer may not connect
  have hrefused : PassesGate request raw state → ¬MayConnect crates request raw state →
      ∃ error, forward crates (authenticatedRequest request state) raw state upstream =
        ([], .error error) := by
    intro hgate hnot
    have hupgrade : ¬(raw.websocketUpgrade = true → _) := fun h => hnot (hmay hgate h)
    rw [Classical.not_imp] at hupgrade
    exact forward_invalid_upgrade hupgrade.1 hupgrade.2
  intro handled
  have houtcome : HandlerOutcome crates request raw state consumed upstream handled :=
    handleRequest_outcome crates request raw state consumed upstream
  clear_value handled
  cases houtcome with
  | bootstrap => exact ⟨by simp, fun _ => ⟨rfl, .inr ⟨_, rfl⟩⟩⟩
  | rejected hfixed => exact ⟨by simp, fun _ => ⟨rfl, locallyGenerated_of_mem hfixed⟩⟩
  | failed hgate hforward =>
      refine ⟨fun address hconnect => ?_, fun hnot => ?_⟩
      · obtain ⟨haddress, hupgrade⟩ := forward_connect (by rw [hforward]; exact hconnect)
        exact ⟨haddress, hmay hgate hupgrade⟩
      · obtain ⟨error, hempty⟩ := hrefused hgate hnot
        rw [hempty] at hforward
        cases hforward
        exact ⟨rfl, .inl ⟨_, _, rfl⟩⟩
  | forwarded hgate hforward =>
      refine ⟨fun address hconnect => ?_, fun hnot => ?_⟩
      · obtain ⟨haddress, hupgrade⟩ := forward_connect (by rw [hforward]; exact hconnect)
        exact ⟨haddress, hmay hgate hupgrade⟩
      · obtain ⟨error, hempty⟩ := hrefused hgate hnot
        rw [hempty] at hforward
        cases hforward

end Rpackit.Transport
