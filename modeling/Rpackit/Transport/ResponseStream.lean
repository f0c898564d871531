import Rpackit.Transport.Proxy.Response
import Rpackit.Transport.ResponseFilter

/-! # Response bodies on their way downstream

The head policy and the body guard agree on one length. A run of the guard over
any upstream frames forwards a prefix of their bytes, ends cleanly only at the
declared length, and is silent after its first error or end.
-/

namespace Rpackit.Transport

open Text Fallible

variable {ε : Type}

/-! ## Upstream bodies as lists -/

/-- The answers of an upstream body, in order; a body that said everything is pending. -/
abbrev UpstreamFrames (ε : Type) := List (FramePoll ε)

def pollUpstream : UpstreamFrames ε → FramePoll ε × UpstreamFrames ε
  | [] => (.pending, [])
  | answer :: rest => (answer, rest)

/-- What polls of such a body read, and what they leave. -/
theorem first_pollUpstream (count : Nat) (frames : UpstreamFrames ε) :
    Poll.first pollUpstream count frames =
      (frames.take count ++ List.replicate (count - frames.length) .pending,
        frames.drop count) := by
  induction count generalizing frames with
  | zero => simp
  | succ count ih =>
      cases frames with
      | nil => simp [pollUpstream, ih, List.replicate_succ]
      | cons answer rest => simp [pollUpstream, ih]

theorem dataBytes_first_pollUpstream (count : Nat) (frames : UpstreamFrames ε) :
    dataBytes (Poll.first pollUpstream count frames).1 = dataBytes (frames.take count) := by
  rw [first_pollUpstream, dataBytes_append, dataBytes_replicate rfl, List.append_nil]

theorem end_mem_first_pollUpstream (count : Nat) (frames : UpstreamFrames ε) :
    .ready none ∈ (Poll.first pollUpstream count frames).1 ↔ .ready none ∈ frames.take count := by
  rw [first_pollUpstream, List.mem_append, or_iff_left]
  intro hmem
  cases List.eq_of_mem_replicate hmem

/-! ## The head and the guard -/

/-- The guard of a forwarded response body. -/
def ProxyBody.responseGuard? {Incoming : Type} :
    ProxyBody Incoming → Option (ResponseBodyGuard Incoming)
  | .identity guard => some guard
  | .decoded guard _ _ => some guard
  | _ => none

/-- Responses whose head rules out a body. -/
def ForbidsBody (requestMethod : Method) (status : Nat) : Prop :=
  requestMethod = Method.head ∨ status = Status.noContent ∨ status = Status.resetContent
    ∨ status = Status.notModified

theorem validateResponseBodyHead_ok {requestMethod : Method} {status : Nat} {headers : HeaderMap}
    {limit : Nat} {policy : ResponseBodyPolicy}
    (hok : validateResponseBodyHead requestMethod status headers limit = .ok policy) :
    ∃ declared, declaredResponseLength headers = .ok declared ∧
      ((ForbidsBody requestMethod status ∧ policy = .forbidden declared) ∨
        (¬ForbidsBody requestMethod status ∧ policy = .streaming declared)) := by
  simp only [validateResponseBodyHead, bind_eq_ok_iff, rejectIf_eq_ok_iff] at hok
  obtain ⟨-, -, declared, hdeclared, -, -, -, -, hok⟩ := hok
  refine ⟨declared, hdeclared, ?_⟩
  split at hok
  next hforbids => exact .inl ⟨hforbids, pure_eq_ok_iff.mp hok⟩
  next hallows =>
    simp only [bind_eq_ok_iff, pure_eq_ok_iff] at hok
    obtain ⟨-, -, hpolicy⟩ := hok
    exact .inr ⟨hallows, hpolicy⟩

theorem declaredResponseLength_of_getAll {headers : HeaderMap} {declared : Option Nat}
    {value : HeaderValue} {length : Nat} (hok : declaredResponseLength headers = .ok declared)
    (hvalue : headers.getAll Header.contentLength = [value])
    (hlength : parseU64 value.bytes = some length) : declared = some length := by
  simp only [declaredResponseLength, hvalue, okOr_bind_eq_ok_iff, pure_eq_ok_iff,
    HeaderValue.toStr?_eq_some_iff] at hok
  obtain ⟨_, ⟨rfl, -⟩, parsed, hparsed, rfl⟩ := hok
  rw [← hparsed, hlength]

variable {Url Incoming : Type}

/-- The guard of a normalized response starts fresh, within the limits, and with
the length its head declares. -/
structure FreshGuard (requestMethod : Method) (response : Response Incoming) (state : ProxyState)
    (downstream : Response (ProxyBody Incoming)) (guard : ResponseBodyGuard Incoming) : Prop where
  inner : guard.inner = response.body
  live : guard.terminal = false
  count : guard.bytesForwarded = 0
  withinLimit : guard.maxBodyBytes ≤ state.limits.maxResponseBodyBytes
  withinDecodedLimit : downstream.body = .identity guard →
    guard.maxBodyBytes ≤ state.limits.maxDecodedResponseBodyBytes
  bodiless : ForbidsBody requestMethod response.status → guard.maxBodyBytes = 0
  declared : ¬ForbidsBody requestMethod response.status → ∀ value length,
    downstream.headers.getAll Header.contentLength = [value] →
    parseU64 value.bytes = some length → guard.declaredLength = some length

/-- The head that goes downstream keeps the upstream length unless it is decoded. -/
theorem ResponseSteps.contentLength {crates : Crates Url} {response : Response Incoming}
    {requestMethod : Method} {state : ProxyState} {downstream : Response (ProxyBody Incoming)}
    (steps : ResponseSteps crates response requestMethod state downstream) :
    steps.located.getAll Header.contentLength = response.headers.getAll Header.contentLength := by
  rw [rewriteLocation_getAll_of_ne (by decide) steps.locate,
    normalizeSetCookieHeaders_getAll_of_ne (by decide) steps.cookie,
    Multimap.getAll_insert_of_ne _ _ (by decide),
    stripResponseHeaders_getAll (by decide) (by decide) steps.strip]

theorem normalizeHttpResponse_guard {crates : Crates Url} {response : Response Incoming}
    {requestMethod : Method} {state : ProxyState} {downstream : Response (ProxyBody Incoming)}
    (hok : normalizeHttpResponse crates response requestMethod state = .ok downstream) :
    ∃ guard, downstream.body.responseGuard? = some guard ∧
      FreshGuard requestMethod response state downstream guard := by
  obtain ⟨steps⟩ := normalizeHttpResponse_steps hok
  obtain ⟨declared, hdeclared, ⟨hforbids, hpolicy⟩ | ⟨hallows, hpolicy⟩⟩ :=
    validateResponseBodyHead_ok steps.validated
  · have hresult := steps.result
    simp only [hpolicy, attachBody] at hresult
    have hbody := congrArg Response.body hresult
    refine ⟨.forbidden response.body declared, by rw [hbody]; rfl, ?_⟩
    exact ⟨rfl, rfl, rfl, Nat.zero_le _, fun _ => Nat.zero_le _, fun _ => rfl,
      fun hallows => absurd hforbids hallows⟩
  · have hresult := steps.result
    by_cases hcodings : steps.codings = []
    · simp only [hpolicy, attachBody, hcodings, if_true] at hresult
      have hbody := congrArg Response.body hresult
      have hheaders := congrArg Response.headers hresult
      refine ⟨.streaming response.body declared
        (encodedBodyLimit [] state.limits) state.limits, by rw [hbody]; rfl, ?_⟩
      refine ⟨rfl, rfl, rfl, Nat.min_le_left _ _, fun _ => Nat.min_le_right _ _,
        fun hforbids => absurd hforbids hallows, fun _ value length hvalue hlength => ?_⟩
      rw [hheaders, Multimap.getAll_remove_of_ne _ (by decide), steps.contentLength] at hvalue
      exact declaredResponseLength_of_getAll hdeclared hvalue hlength
    · simp only [hpolicy, attachBody, if_neg hcodings] at hresult
      have hbody := congrArg Response.body hresult
      have hheaders := congrArg Response.headers hresult
      refine ⟨.streaming response.body declared
        (encodedBodyLimit steps.codings state.limits) state.limits, by rw [hbody]; rfl, ?_⟩
      refine ⟨rfl, rfl, rfl, (if_neg hcodings).le, fun hidentity => ?_,
        fun hforbids => absurd hforbids hallows, fun _ value length hvalue => ?_⟩
      · rw [hbody] at hidentity
        cases hidentity
      -- a coded body is decoded, and its length is not forwarded
      · have hnone : downstream.headers.getAll Header.contentLength = [] := by
          rw [hheaders]
          exact Multimap.getAll_removeMany_of_mem _ (by decide)
        rw [hnone] at hvalue
        cases hvalue

/-- What a downstream body answers, given the upstream answers it read. -/
structure FaithfulStream (requestMethod : Method) (response : Response (UpstreamFrames ε))
    (state : ProxyState) (downstream : Response (ProxyBody (UpstreamFrames ε)))
    (read : UpstreamFrames ε) (answers : List (FramePoll IoError)) : Prop where
  declared : ¬ForbidsBody requestMethod response.status → ∀ value length,
    downstream.headers.getAll Header.contentLength = [value] →
    parseU64 value.bytes = some length →
    (dataBytes answers).length ≤ length ∧
      (EndsCleanly answers ↔ .ready none ∈ read ∧ (dataBytes answers).length = length)
  bodiless : ForbidsBody requestMethod response.status →
    ∀ bytes, .ready (some (.ok (.data bytes))) ∈ answers → bytes = []
  noTrailers : ∀ fields, .ready (some (.ok (.trailers fields))) ∉ answers
  forwarded : dataBytes answers <+: dataBytes response.body
  withinLimit : (dataBytes answers).length ≤ state.limits.maxResponseBodyBytes
  withinDecodedLimit : ∀ guard, downstream.body = .identity guard →
    (dataBytes answers).length ≤ state.limits.maxDecodedResponseBodyBytes
  latched : answers.Pairwise fun earlier later => isFinal earlier = true → later = .ready none

/-- A normalized response streams faithfully: whatever the upstream body answers
and however the timers fire, what goes downstream agrees with the head. -/
theorem normalized_response_streams {crates : Crates Url}
    {response : Response (UpstreamFrames ε)} {requestMethod : Method} {state : ProxyState}
    {downstream : Response (ProxyBody (UpstreamFrames ε))}
    (hok : normalizeHttpResponse crates response requestMethod state = .ok downstream) :
    ∃ guard, downstream.body.responseGuard? = some guard ∧ ∀ ticks, ∃ read,
      response.body = read ++
        (Poll.run (ResponseBodyGuard.pollFrame pollUpstream) ticks guard).2.inner ∧
      FaithfulStream requestMethod response state downstream read
        (Poll.run (ResponseBodyGuard.pollFrame pollUpstream) ticks guard).1 := by
  obtain ⟨guard, hguard, hfresh⟩ := normalizeHttpResponse_guard hok
  refine ⟨guard, hguard, fun ticks => ?_⟩
  have hfilters : (ResponseBodyGuard.filter (UpstreamFrames ε)).Filters pollUpstream
      (ResponseBodyGuard.pollFrame pollUpstream) := ResponseBodyGuard.filters pollUpstream
  obtain ⟨count, hinner, hforwarded, hlimit, hbound, hends, -, hdata, hlatched⟩ :=
    hfilters.run_filtered ticks hfresh.live
  simp only [ResponseBodyGuard.filter_inner, ResponseBodyGuard.filter_bytesForwarded,
    ResponseBodyGuard.filter_maxBodyBytes, ResponseBodyGuard.filter_declaredLength,
    hfresh.inner, hfresh.count, Nat.zero_le, forall_const, Nat.zero_add,
    dataBytes_first_pollUpstream, end_mem_first_pollUpstream]
    at hinner hforwarded hlimit hbound hends
  rw [first_pollUpstream] at hinner
  refine ⟨response.body.take count, ?_, ?_, ?_, ?_, ?_, hlimit.trans hfresh.withinLimit, ?_,
    hlatched⟩
  · rw [hinner, List.take_append_drop]
  · intro hallows value length hvalue hlength
    have hdeclared := hfresh.declared hallows value length hvalue hlength
    simp only [hdeclared, Option.mem_some_iff, forall_eq'] at hbound hends
    exact ⟨hbound, hends⟩
  · intro hforbids bytes hmem
    rw [hfresh.bodiless hforbids, Nat.le_zero, List.length_eq_zero_iff] at hlimit
    exact List.flatMap_eq_nil_iff.mp hlimit _ hmem
  · intro fields hmem
    obtain ⟨bytes, hbytes, -⟩ := hdata _ hmem
    cases hbytes
  · apply hforwarded.trans
    conv_rhs => rw [← List.take_append_drop count response.body, dataBytes_append]
    exact List.prefix_append _ _
  · intro identityGuard hidentity
    have hsame : guard = identityGuard := by
      rw [hidentity] at hguard
      exact (Option.some.inj hguard).symm
    exact hlimit.trans (hfresh.withinDecodedLimit (hsame ▸ hidentity))

/-- A response of three bytes in two frames. -/
def threeByteResponse : Response (UpstreamFrames Unit) where
  status := Status.ok
  version := .http11
  headers := Multimap.empty.append Header.contentLength (.fromStatic "3" (by decide))
  body := [.ready (some (.ok (.data (asBytes "ab")))), .pending,
    .ready (some (.ok (.data (asBytes "c")))), .ready none]

/-- Five polls of the three-byte response: its bytes are forwarded, then it ends
cleanly and stays ended. -/
theorem normalized_response_streams_three_bytes :
    ∃ downstream guard read, normalizeHttpResponse Crates.unavailable threeByteResponse Method.get
        (ProxyState.fixture 7 8080 8081) = .ok downstream ∧
      downstream.body.responseGuard? = some guard ∧
      (Poll.run (ResponseBodyGuard.pollFrame pollUpstream)
        (List.replicate 5 ⟨0, false, false⟩) guard).1 =
        [.ready (some (.ok (.data (asBytes "ab")))), .pending,
          .ready (some (.ok (.data (asBytes "c")))), .ready none, .ready none] ∧
      FaithfulStream Method.get threeByteResponse (ProxyState.fixture 7 8080 8081) downstream read
        (Poll.run (ResponseBodyGuard.pollFrame pollUpstream)
          (List.replicate 5 ⟨0, false, false⟩) guard).1 := by
  have hok : normalizeHttpResponse Crates.unavailable threeByteResponse Method.get
      (ProxyState.fixture 7 8080 8081) = .ok
        { status := Status.ok
          version := .http11
          headers := (threeByteResponse.headers.insert Header.connection connectionClose).remove
            Header.contentEncoding
          body := .identity (.streaming threeByteResponse.body (some 3)
            (encodedBodyLimit [] defaultLimits) defaultLimits) } := by rfl
  obtain ⟨guard, hguard, hstream⟩ := normalized_response_streams hok
  obtain rfl := Option.some.inj hguard
  obtain ⟨read, -, hfaithful⟩ := hstream (List.replicate 5 ⟨0, false, false⟩)
  exact ⟨_, _, read, hok, rfl, by decide +kernel, hfaithful⟩

end Rpackit.Transport
