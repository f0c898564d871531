import Rpackit.Transport.Proxy.Handler

/-! # Negotiated upgrades

Two peers take part in an upgrade: the client, whose request the proxy replaces by its own,
and the upstream, whose answer the proxy replaces by its own. A tunnel opens only between
peers that agreed on the key and on the subprotocol.
-/

namespace Rpackit.Transport

open Text Fallible

variable {Incoming Url : Type}

/-! ## Single fields -/

theorem requireSingleExact_eq_ok_iff {headers : HeaderMap} {name : HeaderName} {expected : Bytes}
    {caseInsensitive : Bool} {u : Unit} :
    requireSingleExact headers name expected caseInsensitive = .ok u ↔
      ∃ value, headers.getAll name = [value] ∧
        (if caseInsensitive then eqIgnoreAsciiCase value.bytes expected
          else value.bytes == expected) = true := by
  unfold requireSingleExact
  split
  next value hvalue =>
    rw [rejectIf_eq_ok_iff, Bool.not_eq_false', hvalue]
    constructor
    · exact fun hmatches => ⟨value, rfl, hmatches⟩
    · rintro ⟨other, hother, hmatches⟩
      cases hother
      exact hmatches
  next hnot =>
    constructor
    · intro hok
      cases hok
    · rintro ⟨value, hvalue, -⟩
      exact absurd hvalue (hnot value)

/-! ## Subprotocols -/

/-- The subprotocols of a header map: the trimmed items of its only field, which are
distinct tokens, or none without the field. -/
inductive OffersProtocols (headers : HeaderMap) : List Bytes → Prop
  | absent (hnone : headers.getAll Header.secWebsocketProtocol = []) : OffersProtocols headers []
  | listed {value : HeaderValue}
      (hvalue : headers.getAll Header.secWebsocketProtocol = [value])
      (hvisible : ∀ b ∈ value.bytes, isVisibleAscii b = true)
      (htokens : ∀ protocol ∈ (value.bytes.splitOn comma).map trim,
        protocol ≠ [] ∧ ∀ b ∈ protocol, isTokenByte b = true)
      (hdistinct : ((value.bytes.splitOn comma).map trim).Nodup) :
      OffersProtocols headers ((value.bytes.splitOn comma).map trim)

theorem pushProtocol_eq_ok_iff {protocols next : List Bytes} {item : Bytes} :
    pushProtocol protocols item = .ok next ↔ trim item ≠ [] ∧
      (∀ b ∈ trim item, isTokenByte b = true) ∧ trim item ∉ protocols ∧
      next = protocols ++ [trim item] := by
  simp only [pushProtocol, rejectIf_bind_eq_ok_iff, pure_eq_ok_iff, Bool.or_eq_false_iff,
    beq_eq_false_iff_ne, Bool.not_eq_false', List.all_eq_true, List.contains_eq_mem,
    decide_eq_false_iff_not, and_assoc]

theorem foldlM_pushProtocol_eq_ok_iff {protocols next : List Bytes} {items : List Bytes}
    (hnodup : protocols.Nodup) :
    items.foldlM pushProtocol protocols = .ok next ↔
      (∀ protocol ∈ items.map trim, protocol ≠ [] ∧ ∀ b ∈ protocol, isTokenByte b = true) ∧
      (protocols ++ items.map trim).Nodup ∧ next = protocols ++ items.map trim := by
  induction items generalizing protocols with
  | nil => simp [pure_eq_ok_iff, hnodup]
  | cons item rest ih =>
      rw [List.foldlM_cons, bind_eq_ok_iff, List.map_cons, List.forall_mem_cons,
        List.append_cons]
      constructor
      · rintro ⟨middle, hpush, hrest⟩
        obtain ⟨hne, htoken, hfresh, rfl⟩ := pushProtocol_eq_ok_iff.mp hpush
        have hpushed : (protocols ++ [trim item]).Nodup :=
          List.nodup_append.mpr ⟨hnodup, List.nodup_singleton _, by
            rintro a ha b hb rfl
            exact hfresh (List.mem_singleton.mp hb ▸ ha)⟩
        obtain ⟨htokens, hdistinct, rfl⟩ := (ih hpushed).mp hrest
        exact ⟨⟨⟨hne, htoken⟩, htokens⟩, hdistinct, rfl⟩
      · rintro ⟨⟨⟨hne, htoken⟩, htokens⟩, hdistinct, rfl⟩
        have hpushed : (protocols ++ [trim item]).Nodup := (List.nodup_append.mp hdistinct).1
        have hfresh : trim item ∉ protocols := fun hmem =>
          (List.nodup_append.mp hpushed).2.2 _ hmem _ (List.mem_singleton_self _) rfl
        exact ⟨_, pushProtocol_eq_ok_iff.mpr ⟨hne, htoken, hfresh, rfl⟩,
          (ih hpushed).mpr ⟨htokens, hdistinct, rfl⟩⟩

theorem parseProtocols_eq_ok_iff {headers : HeaderMap} {protocols : List Bytes} :
    parseProtocols headers = .ok protocols ↔ OffersProtocols headers protocols := by
  unfold parseProtocols
  split
  next hnone =>
    constructor
    · rintro ⟨⟩
      exact .absent hnone
    · intro hoffers
      cases hoffers with
      | absent => rfl
      | listed hvalue => simp [hnone] at hvalue
  next value hvalue =>
    simp only [okOr_bind_eq_ok_iff, HeaderValue.toStr?_eq_some_iff]
    constructor
    · rintro ⟨text, ⟨rfl, hvisible⟩, hfold⟩
      obtain ⟨htokens, hdistinct, rfl⟩ := (foldlM_pushProtocol_eq_ok_iff List.nodup_nil).mp hfold
      exact .listed hvalue hvisible htokens hdistinct
    · intro hoffers
      cases hoffers with
      | absent hnone => simp [hvalue] at hnone
      | listed hother hvisible htokens hdistinct =>
          cases hvalue.symm.trans hother
          exact ⟨_, ⟨rfl, hvisible⟩,
            (foldlM_pushProtocol_eq_ok_iff List.nodup_nil).mpr ⟨htokens, hdistinct, rfl⟩⟩
  next hnone hnot =>
    constructor
    · intro hok
      cases hok
    · intro hoffers
      cases hoffers with
      | absent habsent => exact absurd habsent hnone
      | listed hvalue => exact absurd hvalue (hnot _)

theorem OffersProtocols.wellFormed {headers : HeaderMap} {protocols : List Bytes}
    (hoffers : OffersProtocols headers protocols) : protocols.Nodup ∧
      ∀ protocol ∈ protocols, protocol ≠ [] ∧ ∀ b ∈ protocol, isTokenByte b = true := by
  cases hoffers with
  | absent => exact ⟨List.nodup_nil, nofun⟩
  | listed _ _ htokens hdistinct => exact ⟨hdistinct, htokens⟩

/-- A list of distinct tokens that is joined and sent is the list that is read back. -/
theorem OffersProtocols.of_intercalate {headers : HeaderMap} {value : HeaderValue}
    {protocols : List Bytes} (hne : protocols ≠ []) (hdistinct : protocols.Nodup)
    (htokens : ∀ protocol ∈ protocols, protocol ≠ [] ∧ ∀ b ∈ protocol, isTokenByte b = true)
    (hvalue : headers.getAll Header.secWebsocketProtocol = [value])
    (hbytes : value.bytes = [comma, space].intercalate protocols) :
    OffersProtocols headers protocols := by
  have hitems : (value.bytes.splitOn comma).map trim = protocols := by
    have hcomma : ∀ protocol ∈ protocols, comma ∉ protocol := fun protocol hmem =>
      not_mem_of_isTokenByte (htokens protocol hmem).2 (by decide)
    rw [hbytes, map_trim_splitOn_intercalate (by decide) (by decide) hne hcomma]
    refine (List.map_congr_left fun protocol hmem => ?_).trans (List.map_id _)
    exact trim_token (htokens protocol hmem).2
  have hvisible : ∀ b ∈ value.bytes, isVisibleAscii b = true := by
    intro b hb
    rw [hbytes] at hb
    rcases mem_of_mem_intercalate hb with hseparator | ⟨protocol, hprotocol, hmem⟩
    · have hall : ∀ b ∈ [comma, space], isVisibleAscii b = true :=
        List.all_eq_true.mp (by decide)
      exact hall b hseparator
    · exact isVisibleAscii_of_isTokenByte ((htokens protocol hprotocol).2 b hmem)
  have hlisted := OffersProtocols.listed hvalue hvisible (by rwa [hitems]) (by rwa [hitems])
  rwa [hitems] at hlisted

/-! ## Both sides of an upgrade -/

/-- An upgrade request whose offer is `offer`. -/
structure OffersUpgrade (crates : Crates Url) (request : Request Incoming) (expectedOrigin : Bytes)
    (offer : WebSocketOffer) : Prop where
  method : request.method = Method.get
  version : request.version = .http11
  upgrade : ∃ value, request.headers.getAll Header.upgrade = [value] ∧
    eqIgnoreAsciiCase value.bytes (asBytes "websocket") = true
  websocketVersion : ∃ value, request.headers.getAll Header.secWebsocketVersion = [value] ∧
    value.bytes = asBytes "13"
  origin : ∃ value, request.headers.getAll Header.origin = [value] ∧ value.bytes = expectedOrigin
  key : request.headers.getAll Header.secWebsocketKey = [offer.key]
  nonce : ∃ decoded, crates.base64Decode offer.key.bytes = some decoded ∧ decoded.length = 16
  unframed : ∀ name ∈ [Header.contentLength, Header.transferEncoding, Header.trailer],
    request.headers.getAll name = []
  accept : offer.expectedAccept.bytes =
    crates.base64Encode (crates.sha1 (offer.key.bytes ++ websocketGuid))
  protocols : OffersProtocols request.headers offer.protocols

/-- An answer that completes the offer with this subprotocol. -/
structure CompletesUpgrade {B : Type} (answer : Response B) (offer : WebSocketOffer)
    (selected : Option Bytes) : Prop where
  status : answer.status = Status.switchingProtocols
  version : answer.version = .http11
  plain : ∀ name ∈ [Header.contentLength, Header.transferEncoding, Header.secWebsocketExtensions],
    answer.headers.getAll name = []
  connection : ∃ value, answer.headers.getAll Header.connection = [value] ∧
    eqIgnoreAsciiCase value.bytes (asBytes "upgrade") = true
  upgrade : ∃ value, answer.headers.getAll Header.upgrade = [value] ∧
    eqIgnoreAsciiCase value.bytes (asBytes "websocket") = true
  accept : ∃ value, answer.headers.getAll Header.secWebsocketAccept = [value] ∧
    value.bytes = offer.expectedAccept.bytes
  protocol : (answer.headers.getAll Header.secWebsocketProtocol).map HeaderValue.bytes =
    selected.toList
  offered : ∀ protocol ∈ selected, protocol ∈ offer.protocols

/-- The downstream 101: fixed fields, the accept value, and the selected subprotocol. -/
structure SwitchesProtocols (response : Response (ProxyBody Incoming)) (offer : WebSocketOffer)
    (selected : Option Bytes) : Prop where
  status : response.status = Status.switchingProtocols
  version : response.version = .http11
  body : response.body = .empty
  connection : (response.headers.getAll Header.connection).map HeaderValue.bytes =
    [asBytes "Upgrade"]
  upgrade : (response.headers.getAll Header.upgrade).map HeaderValue.bytes = [asBytes "websocket"]
  accept : response.headers.getAll Header.secWebsocketAccept = [offer.expectedAccept]
  protocol : (response.headers.getAll Header.secWebsocketProtocol).map HeaderValue.bytes =
    selected.toList
  others : ∀ name, name ∉ [Header.connection, Header.upgrade, Header.secWebsocketAccept,
    Header.secWebsocketProtocol] → response.headers.getAll name = []

theorem validateWebsocketRequest_offers {crates : Crates Url} {request : Request Incoming}
    {expectedOrigin : Bytes} {offer : WebSocketOffer}
    (hok : validateWebsocketRequest crates request expectedOrigin = .ok offer) :
    OffersUpgrade crates request expectedOrigin offer := by
  simp only [validateWebsocketRequest, bind_eq_ok_iff, pure_eq_ok_iff, rejectIf_eq_ok_iff,
    requireSingleExact_eq_ok_iff, parseProtocols_eq_ok_iff, Bool.or_eq_false_iff,
    bne_eq_false_iff_eq, Multimap.containsKey_eq_false_iff] at hok
  obtain ⟨-, ⟨⟨⟨⟨hmethod, hversion⟩, hlength⟩, hencoding⟩, htrailer⟩, -, hupgrade, -, hwebsocket, -,
    horigin, key, hkey, protocols, hprotocols, -, -, accept, haccept, path, -, rfl⟩ := hok
  have hwebsocketKey : request.headers.getAll Header.secWebsocketKey = [key] ∧
      ∃ decoded, crates.base64Decode key.bytes = some decoded ∧ decoded.length = 16 := by
    unfold websocketKey at hkey
    split at hkey
    next only hvalue =>
      simp only [okOr_bind_eq_ok_iff, rejectIf_bind_eq_ok_iff, pure_eq_ok_iff,
        bne_eq_false_iff_eq] at hkey
      obtain ⟨decoded, hdecoded, hsize, rfl⟩ := hkey
      exact ⟨hvalue, decoded, hdecoded, hsize⟩
    · cases hkey
  have hunframed : ∀ name ∈ [Header.contentLength, Header.transferEncoding, Header.trailer],
      request.headers.getAll name = [] := by
    simp only [List.forall_mem_cons, List.not_mem_nil, false_implies, implies_true, and_true]
    exact ⟨hlength, hencoding, htrailer⟩
  have hexpected : accept.bytes =
      crates.base64Encode (crates.sha1 (key.bytes ++ websocketGuid)) :=
    HeaderValue.fromBytes?_eq_some_iff.mp (okOr_eq_ok_iff.mp haccept)
  obtain ⟨value, hvalue, hthirteen⟩ := hwebsocket
  obtain ⟨source, hsource, hsame⟩ := horigin
  exact ⟨hmethod, hversion, hupgrade, ⟨value, hvalue, beq_iff_eq.mp hthirteen⟩,
    ⟨source, hsource, beq_iff_eq.mp hsame⟩, hwebsocketKey.1, hwebsocketKey.2, hunframed, hexpected,
    hprotocols⟩

theorem validateWebsocketResponse_completes {B : Type} {answer : Response B}
    {offer : WebSocketOffer} {selected : Option Bytes}
    (hok : validateWebsocketResponse answer offer = .ok selected) :
    CompletesUpgrade answer offer selected := by
  simp only [validateWebsocketResponse, bind_eq_ok_iff, rejectIf_eq_ok_iff,
    requireSingleExact_eq_ok_iff, Bool.or_eq_false_iff, bne_eq_false_iff_eq,
    Multimap.containsKey_eq_false_iff] at hok
  obtain ⟨-, ⟨⟨⟨⟨hstatus, hversion⟩, hlength⟩, hencoding⟩, hextensions⟩, -, hconnection, -,
    hupgrade,
    -, haccept, hselected⟩ := hok
  have hplain : ∀ name ∈
      [Header.contentLength, Header.transferEncoding, Header.secWebsocketExtensions],
      answer.headers.getAll name = [] := by
    simp only [List.forall_mem_cons, List.not_mem_nil, false_implies, implies_true, and_true]
    exact ⟨hlength, hencoding, hextensions⟩
  -- a subprotocol is passed on only when it is one of those that were offered
  have hprotocol : (answer.headers.getAll Header.secWebsocketProtocol).map HeaderValue.bytes =
      selected.toList ∧ ∀ protocol ∈ selected, protocol ∈ offer.protocols := by
    unfold selectedProtocol at hselected
    split at hselected
    next hnone =>
      cases hselected
      rw [hnone]
      exact ⟨rfl, fun _ hmem => by cases hmem⟩
    next value hvalue =>
      simp only [okOr_bind_eq_ok_iff, rejectIf_bind_eq_ok_iff, pure_eq_ok_iff,
        HeaderValue.toStr?_eq_some_iff, Bool.not_eq_false', List.contains_eq_mem,
        decide_eq_true_eq] at hselected
      obtain ⟨protocol, ⟨rfl, -⟩, hoffered, rfl⟩ := hselected
      rw [hvalue]
      refine ⟨rfl, fun protocol hmem => ?_⟩
      cases hmem
      exact hoffered
    · cases hselected
  obtain ⟨value, hvalue, hsame⟩ := haccept
  exact ⟨hstatus, hversion, hplain, hconnection, hupgrade, ⟨value, hvalue, beq_iff_eq.mp hsame⟩,
    hprotocol.1, hprotocol.2⟩

theorem downstreamWebsocketResponse_switches {offer : WebSocketOffer} {selected : Option Bytes}
    {response : Response (ProxyBody Incoming)}
    (hok : downstreamWebsocketResponse offer selected = .ok response) :
    SwitchesProtocols response offer selected := by
  obtain ⟨headers, hheaders, hresponse⟩ := bind_eq_ok_iff.mp hok
  rw [pure_eq_ok_iff.mp hresponse]
  -- the subprotocol is the only header that is not fixed
  have hfixed : ∀ name, name ≠ Header.secWebsocketProtocol →
      headers.getAll name = (((Multimap.empty.insert Header.connection
        (.fromStatic "Upgrade" (by decide))).insert Header.upgrade
        (.fromStatic "websocket" (by decide))).insert Header.secWebsocketAccept
          offer.expectedAccept).getAll name := by
    intro name hname
    unfold selectedProtocolHeaders at hheaders
    split at hheaders
    · cases hheaders
      rfl
    · obtain ⟨value, -, hinsert⟩ := okOr_bind_eq_ok_iff.mp hheaders
      rw [pure_eq_ok_iff.mp hinsert, Multimap.getAll_insert_of_ne _ _ hname]
  have hprotocol : (headers.getAll Header.secWebsocketProtocol).map HeaderValue.bytes =
      selected.toList := by
    unfold selectedProtocolHeaders at hheaders
    split at hheaders
    · cases hheaders
      simp (disch := decide) only [Multimap.getAll_insert_of_ne, Multimap.getAll_empty,
        List.map_nil, Option.toList_none]
    · obtain ⟨value, hvalue, hinsert⟩ := okOr_bind_eq_ok_iff.mp hheaders
      rw [pure_eq_ok_iff.mp hinsert, Multimap.getAll_insert_self, List.map_singleton,
        HeaderValue.fromBytes?_eq_some_iff.mp hvalue]
      rfl
  refine ⟨rfl, rfl, rfl, ?_, ?_, ?_, hprotocol, fun name hname => ?_⟩
  · change (headers.getAll Header.connection).map _ = _
    rw [hfixed _ (by decide), Multimap.getAll_insert_of_ne _ _ (by decide),
      Multimap.getAll_insert_of_ne _ _ (by decide), Multimap.getAll_insert_self]
    rfl
  · change (headers.getAll Header.upgrade).map _ = _
    rw [hfixed _ (by decide), Multimap.getAll_insert_of_ne _ _ (by decide),
      Multimap.getAll_insert_self]
    rfl
  · change headers.getAll Header.secWebsocketAccept = _
    rw [hfixed _ (by decide), Multimap.getAll_insert_self]
  · simp only [List.mem_cons, List.not_mem_nil, or_false, not_or] at hname
    obtain ⟨hconnection, hupgrade, haccept, hother⟩ := hname
    change headers.getAll name = []
    rw [hfixed _ hother, Multimap.getAll_insert_of_ne _ _ haccept,
      Multimap.getAll_insert_of_ne _ _ hupgrade, Multimap.getAll_insert_of_ne _ _ hconnection,
      Multimap.getAll_empty]

/-! ## What the handler lets through -/

/-- The cookie is inserted under another name. -/
theorem getAll_applicationCookie (offered : HeaderMap) (cookie : Option HeaderValue) :
    (match cookie with
      | none => offered
      | some cookie => offered.insert Header.cookie cookie).getAll Header.secWebsocketProtocol =
      offered.getAll Header.secWebsocketProtocol := by
  cases cookie with
  | none => rfl
  | some cookie => exact Multimap.getAll_insert_of_ne _ _ (by decide)

/-- The subprotocols sent upstream are those of the offer, in order. -/
theorem buildUpstreamWebsocketRequest_protocols {offer : WebSocketOffer} {state : ProxyState}
    {sent : Request (ProxyBody Incoming)} {headers : HeaderMap}
    (hoffer : OffersProtocols headers offer.protocols)
    (hok : buildUpstreamWebsocketRequest offer state = .ok sent) :
    OffersProtocols sent.headers offer.protocols := by
  simp only [buildUpstreamWebsocketRequest, bind_eq_ok_iff, okOr_eq_ok_iff, pure_eq_ok_iff] at hok
  obtain ⟨host, -, origin, -, offered, hoffered, secret, -, rfl⟩ := hok
  -- the secret is inserted under another name too
  have hsent : ∀ authenticated : HeaderMap, (authenticated.insert protectedHeader secret).getAll
      Header.secWebsocketProtocol = authenticated.getAll Header.secWebsocketProtocol :=
    fun authenticated => Multimap.getAll_insert_of_ne _ _ (by decide)
  have hall := (hsent _).trans (getAll_applicationCookie offered offer.applicationCookie)
  unfold offeredProtocolHeaders at hoffered
  by_cases hnone : offer.protocols = []
  · rw [if_pos hnone] at hoffered
    cases hoffered
    have hfixed : (fixedUpgradeHeaders host offer.key origin).getAll
        Header.secWebsocketProtocol = [] := by
      simp (disch := decide) only [fixedUpgradeHeaders, Multimap.getAll_insert_of_ne,
        Multimap.getAll_empty]
    rw [hnone]
    exact .absent (hall.trans hfixed)
  · rw [if_neg hnone] at hoffered
    obtain ⟨value, hvalue, hinsert⟩ := okOr_bind_eq_ok_iff.mp hoffered
    obtain rfl := pure_eq_ok_iff.mp hinsert
    obtain ⟨hdistinct, htokens⟩ := hoffer.wellFormed
    refine .of_intercalate hnone hdistinct htokens
      (hall.trans (Multimap.getAll_insert_self _ _ _)) ?_
    exact HeaderValue.fromBytes?_eq_some_iff.mp hvalue

theorem exchange_sendRequest {state : ProxyState} {request sent : Request (ProxyBody Incoming)}
    {upstream : UpstreamRun Incoming}
    (hsent : .sendRequest sent ∈ (exchange state request upstream).1) : sent = request := by
  unfold exchange at hsent
  split at hsent
  · simp at hsent
  · simpa using hsent

theorem forwardWebsocket_sendRequest {crates : Crates Url} {request : Request Incoming}
    {state : ProxyState} {upstream : UpstreamRun Incoming} {sent : Request (ProxyBody Incoming)}
    (hsent : .sendRequest sent ∈ (forwardWebsocket crates request state upstream).1) :
    ∃ offer, validateWebsocketRequest crates request state.expectedOrigin = .ok offer ∧
      buildUpstreamWebsocketRequest offer state = .ok sent := by
  unfold forwardWebsocket at hsent
  split at hsent
  · simp at hsent
  next offer hoffer =>
    split at hsent
    · simp at hsent
    next upstreamRequest hbuild =>
      have hexchange : .sendRequest sent ∈ (exchange state upstreamRequest upstream).1 := by
        dsimp only at hsent
        split at hsent
        · exact hsent
        · split at hsent
          · simpa using hsent
          · exact hsent
      obtain rfl := exchange_sendRequest hexchange
      exact ⟨offer, hoffer, hbuild⟩

/-- A completed upgrade is the answer of the upstream to a valid offer. -/
theorem forwardWebsocket_completed {crates : Crates Url} {request : Request Incoming}
    {state : ProxyState} {upstream : UpstreamRun Incoming} {effects : List (Effect Incoming)}
    {response : Response (ProxyBody Incoming)}
    (hok : forwardWebsocket crates request state upstream = (effects, .ok response)) :
    ∃ offer answer selected,
      validateWebsocketRequest crates request state.expectedOrigin = .ok offer ∧
      upstream.answer = .ok answer ∧ validateWebsocketResponse answer offer = .ok selected ∧
      downstreamWebsocketResponse offer selected = .ok response := by
  unfold forwardWebsocket at hok
  split at hok
  · cases hok
  next offer hoffer =>
    split at hok
    · cases hok
    next upstreamRequest _ =>
      dsimp only at hok
      split at hok
      · cases hok
      next completed hcompleted =>
        split at hok
        next =>
          obtain ⟨-, hresponse⟩ := Prod.ext_iff.mp hok
          cases hresponse
          simp only [completeUpgrade, bind_eq_ok_iff] at hcompleted
          obtain ⟨answer, hexchanged, selected, hselected, hdownstream⟩ := hcompleted
          refine ⟨offer, answer, selected, hoffer, ?_, hselected, hdownstream⟩
          unfold exchange at hexchanged
          split at hexchanged
          · cases hexchanged
          · exact hexchanged
        · cases hok

/-- Authentication changes the cookies only. -/
theorem authenticatedRequest_getAll {request : Request Incoming} {state : ProxyState}
    {name : HeaderName} (hname : name ≠ Header.cookie)
    (hok : (authenticateAndStrip request.headers state.secrets.session).1 = .ok ()) :
    (authenticatedRequest request state).headers.getAll name = request.headers.getAll name :=
  authenticateAndStrip_getAll_of_ne hname hok

theorem OffersUpgrade.of_authenticated {crates : Crates Url} {request : Request Incoming}
    {state : ProxyState} {expectedOrigin : Bytes} {offer : WebSocketOffer}
    (hok : (authenticateAndStrip request.headers state.secrets.session).1 = .ok ())
    (hoffers : OffersUpgrade crates (authenticatedRequest request state) expectedOrigin offer) :
    OffersUpgrade crates request expectedOrigin offer := by
  have hsame : ∀ name, name ≠ Header.cookie →
      (authenticatedRequest request state).headers.getAll name = request.headers.getAll name :=
    fun name hname => authenticatedRequest_getAll hname hok
  obtain ⟨hmethod, hversion, hupgrade, hwebsocket, horigin, hkey, hnonce, hunframed, haccept,
    hprotocols⟩ := hoffers
  rw [hsame _ (by decide)] at hupgrade hwebsocket horigin hkey
  refine ⟨hmethod, hversion, hupgrade, hwebsocket, horigin, hkey, hnonce, fun name hname => ?_,
    haccept, ?_⟩
  · have hother : name ≠ Header.cookie := by
      rintro rfl
      exact absurd hname (by decide)
    rw [← hsame name hother]
    exact hunframed name hname
  · have hfield := hsame Header.secWebsocketProtocol (by decide)
    generalize hlist : offer.protocols = protocols at hprotocols ⊢
    cases hprotocols with
    | absent hnone => exact .absent (hfield ▸ hnone)
    | listed hvalue hvisible htokens hdistinct =>
        exact .listed (hfield ▸ hvalue) hvisible htokens hdistinct

theorem normalizeHttpResponse_not_informational {crates : Crates Url}
    {response : Response Incoming} {method : Method} {state : ProxyState}
    {normalized : Response (ProxyBody Incoming)}
    (hok : normalizeHttpResponse crates response method state = .ok normalized) :
    isInformational normalized.status = false := by
  obtain ⟨steps⟩ := normalizeHttpResponse_steps hok
  rw [steps.result]
  exact steps.final

/-- A downstream 101 means that the client made one well-formed offer, that the upstream
completed this very offer, and that the 101 tells nothing else of the upstream. The
subprotocols that are forwarded are read back as the ones the client offered. -/
theorem upgrade_is_negotiated (crates : Crates Url) (request : Request Incoming)
    (raw : RawAdmission) (state : ProxyState) (consumed : Bool) (upstream : UpstreamRun Incoming) :
    let handled := handleRequest crates request raw state consumed upstream
    (handled.response.status = Status.switchingProtocols → ∃ offer answer selected,
      OffersUpgrade crates request state.expectedOrigin offer ∧ upstream.answer = .ok answer ∧
      CompletesUpgrade answer offer selected ∧ SwitchesProtocols handled.response offer selected) ∧
    ∀ sent, raw.websocketUpgrade = true → .sendRequest sent ∈ handled.effects →
      ∃ protocols, OffersProtocols request.headers protocols ∧
        parseProtocols sent.headers = .ok protocols := by
  intro handled
  have houtcome : HandlerOutcome crates request raw state consumed upstream handled :=
    handleRequest_outcome crates request raw state consumed upstream
  generalize handled = answered at houtcome ⊢
  -- an upgrade is only sent past the gate, where it was built from the offer
  have hsent : ∀ {effects : List (Effect Incoming)}
      {answer : Except BoxError (Response (ProxyBody Incoming))},
      PassesGate request raw state →
      forward crates (authenticatedRequest request state) raw state upstream = (effects, answer) →
      ∀ sent, raw.websocketUpgrade = true → .sendRequest sent ∈ effects →
        ∃ protocols, OffersProtocols request.headers protocols ∧
          parseProtocols sent.headers = .ok protocols := by
    intro effects answer hgate hforward sent hupgrade hmem
    rw [forward, if_pos hupgrade] at hforward
    have hmem' : .sendRequest sent ∈
        (forwardWebsocket crates (authenticatedRequest request state) state upstream).1 := by
      rw [hforward]
      exact hmem
    obtain ⟨offer, hoffer, hbuild⟩ := forwardWebsocket_sendRequest hmem'
    have hoffers := (validateWebsocketRequest_offers hoffer).of_authenticated hgate.authenticated
    exact ⟨offer.protocols, hoffers.protocols, parseProtocols_eq_ok_iff.mpr
      (buildUpstreamWebsocketRequest_protocols hoffers.protocols hbuild)⟩
  -- every other answer has a status of its own
  cases houtcome with
  | bootstrap =>
      refine ⟨fun hstatus => ?_, fun _ _ hmem => by simp at hmem⟩
      have hok : Status.ok = Status.switchingProtocols := hstatus
      exact absurd hok (by decide)
  | rejected hfixed =>
      refine ⟨fun hstatus => ?_, fun _ _ hmem => by simp at hmem⟩
      simp only [List.mem_cons, List.not_mem_nil, or_false] at hfixed
      rcases hfixed with rfl | rfl | rfl
      · have hunauthorized : Status.unauthorized = Status.switchingProtocols := hstatus
        exact absurd hunauthorized (by decide)
      · have hbadRequest : Status.badRequest = Status.switchingProtocols := hstatus
        exact absurd hbadRequest (by decide)
      · have hforbidden : Status.forbidden = Status.switchingProtocols := hstatus
        exact absurd hforbidden (by decide)
  | failed hgate hforward =>
      refine ⟨fun hstatus => ?_, hsent hgate hforward⟩
      have hbadGateway : Status.badGateway = Status.switchingProtocols := hstatus
      exact absurd hbadGateway (by decide)
  | @forwarded effects response hgate hforward =>
      refine ⟨fun hstatus => ?_, hsent hgate hforward⟩
      by_cases hupgrade : raw.websocketUpgrade = true
      · rw [forward, if_pos hupgrade] at hforward
        obtain ⟨offer, answer, selected, hoffer, hanswer, hselected, hdownstream⟩ :=
          forwardWebsocket_completed hforward
        exact ⟨offer, answer, selected,
          (validateWebsocketRequest_offers hoffer).of_authenticated hgate.authenticated, hanswer,
          validateWebsocketResponse_completes hselected,
          downstreamWebsocketResponse_switches hdownstream⟩
      · rw [forward, if_neg hupgrade] at hforward
        obtain ⟨upstreamRequest, answer, -, hnormalized⟩ := forwardHttp_ok hforward
        have hnot := normalizeHttpResponse_not_informational hnormalized
        rw [show response.status = Status.switchingProtocols from hstatus] at hnot
        exact absurd hnot (by decide)

/-! ## An upgrade that succeeds -/

section Fixture

def upgradeState : ProxyState := .fixture 17 49152 49153

def upgradeKey : HeaderValue := .fromStatic "dGhlIHNhbXBsZSBub25jZQ==" (by decide)

/-- The digest of the key and the fixed text behind it. -/
def upgradeDigest : Bytes :=
  [0xB3, 0x7A, 0x4F, 0x2C, 0xC0, 0x62, 0x4F, 0x16, 0x90, 0xF6, 0x46, 0x06, 0xCF, 0x38, 0x59, 0x45,
    0xB2, 0xBE, 0xC4, 0xEA]

def upgradeAccept : HeaderValue := .fromStatic "s3pPLMBiTxaQ9kYGzzhZRbK+xOo=" (by decide)

/-- The crates on this upgrade, as tables. -/
def upgradeCrates : Crates Unit :=
  { Crates.unavailable with
    uriFromStr := fun text => if text = asBytes "/ws" then some ⟨none, some ⟨text, none⟩⟩ else none
    base64Decode := fun text =>
      if text = upgradeKey.bytes then some (asBytes "the sample nonce") else none
    sha1 := fun text => if text = upgradeKey.bytes ++ websocketGuid then upgradeDigest else []
    base64Encode := fun bytes => if bytes = upgradeDigest then upgradeAccept.bytes else [] }

theorem valid_upgrade : (asBytes "Upgrade").all isHeaderValueByte = true := by decide

theorem valid_version : (asBytes "13").all isHeaderValueByte = true := by decide

theorem valid_websocket : (asBytes "websocket").all isHeaderValueByte = true := by decide

def upgradeRequest : Request Unit where
  method := Method.get
  uri := ⟨none, some ⟨asBytes "/ws", none⟩⟩
  version := .http11
  headers := ⟨[(Header.host, ⟨upgradeState.expectedAuthority, by decide⟩),
    (Header.origin, ⟨upgradeState.expectedOrigin, by decide⟩),
    (Header.cookie, ⟨sessionPair upgradeState.secrets.session, by decide⟩),
    (Header.connection, .fromStatic "Upgrade" valid_upgrade),
    (Header.upgrade, .fromStatic "WebSocket" (by decide)),
    (Header.secWebsocketVersion, .fromStatic "13" valid_version),
    (Header.secWebsocketKey, upgradeKey),
    (Header.secWebsocketProtocol, .fromStatic "v2.echo ,v1.echo" (by decide))]⟩
  body := ()

def upgradeAnswer : Response Unit where
  status := Status.switchingProtocols
  version := .http11
  headers := ⟨[(Header.connection, .fromStatic "upgrade" (by decide)),
    (Header.upgrade, .fromStatic "websocket" valid_websocket),
    (Header.secWebsocketAccept, upgradeAccept),
    (Header.secWebsocketProtocol, .fromStatic "v1.echo" (by decide)),
    (asBytes "server", .fromStatic "httpuv" (by decide))]⟩
  body := ()

def upgradeRun : UpstreamRun Unit := ⟨.ok (), .ok (), true, .ok (), .ok upgradeAnswer, true⟩

theorem upgrade_is_negotiated_echo :
    let handled := handleRequest upgradeCrates upgradeRequest ⟨[Header.upgrade], true⟩ upgradeState
      true upgradeRun
    handled.response.status = Status.switchingProtocols ∧ ∃ offer selected,
      OffersUpgrade upgradeCrates upgradeRequest upgradeState.expectedOrigin offer ∧
      CompletesUpgrade upgradeAnswer offer selected ∧
      SwitchesProtocols handled.response offer selected := by
  intro handled
  have hstatus : handled.response.status = Status.switchingProtocols := by decide +kernel
  obtain ⟨offer, answer, selected, hoffers, hanswer, hcompletes, hswitches⟩ :=
    (upgrade_is_negotiated upgradeCrates upgradeRequest ⟨[Header.upgrade], true⟩ upgradeState true
      upgradeRun).1 hstatus
  cases hanswer
  exact ⟨hstatus, offer, selected, hoffers, hcompletes, hswitches⟩

end Fixture

end Rpackit.Transport
