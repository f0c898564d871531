import Rpackit.Library.Runs
import Rpackit.Transport.Gate

/-! # The one-time bootstrap secret

Concurrent requests race on one flag. The steps of a request up to its
compare-exchange, the compare-exchange itself and the response after it are
interleaved with those of every other request; what a request that does not
present the secret does is one step of `handleRequest`.
-/

namespace Rpackit.Transport

open Text Fallible

variable {Incoming Url : Type}

/-! ## Who carries the session credential -/

/-- A `Set-Cookie` field that starts with the session pair. -/
def CarriesSessionCookie (session : Secret) (response : Response (ProxyBody Incoming)) : Prop :=
  ∃ value ∈ response.headers.getAll (asBytes "set-cookie"), sessionPair session <+: value.bytes

theorem sessionCookieText_isSome (session : Secret) :
    ∃ cookie, HeaderValue.fromBytes? (sessionCookieText session) = some cookie ∧
      cookie.bytes = sessionCookieText session := by
  refine HeaderValue.fromBytes?_isSome_of_visible fun b hb => ?_
  have hfixed : ∀ b ∈ sessionCookieName ++ equals :: asBytes "; Path=/; HttpOnly; SameSite=Strict",
      isVisibleAscii b = true := List.all_eq_true.mp (by decide)
  simp only [sessionCookieText, sessionPair, List.mem_append, List.mem_cons] at hb
  rcases hb with (hname | rfl | hvalue) | hattributes
  · exact hfixed b (List.mem_append_left _ hname)
  · decide
  · exact Secret.isVisibleAscii_of_mem_value hvalue
  · exact hfixed b (List.mem_append_right _ (List.mem_cons_of_mem _ hattributes))

theorem bootstrapResponse_carriesSessionCookie (headOnly : Bool) (session : Secret) :
    CarriesSessionCookie session
      (bootstrapResponse headOnly session : Response (ProxyBody Incoming)) := by
  obtain ⟨cookie, hcookie, hbytes⟩ := sessionCookieText_isSome session
  refine ⟨cookie, ?_, hbytes ▸ List.prefix_append _ _⟩
  rw [bootstrapResponse, hcookie]
  change cookie ∈ (bootstrapHeaders.insert Header.setCookie cookie).getAll Header.setCookie
  rw [Multimap.getAll_insert_self]
  exact List.mem_singleton_self cookie

theorem not_carriesSessionCookie_of_nil {session : Secret}
    {response : Response (ProxyBody Incoming)}
    (hnil : response.headers.getAll Header.setCookie = []) :
    ¬CarriesSessionCookie session response := by
  rintro ⟨value, hmem, -⟩
  change value ∈ response.headers.getAll Header.setCookie at hmem
  rw [hnil] at hmem
  cases hmem

theorem fixedResponse_not_carriesSessionCookie (session : Secret) (status : Nat) (text : String) :
    ¬CarriesSessionCookie session (fixedResponse status text : Response (ProxyBody Incoming)) := by
  apply not_carriesSessionCookie_of_nil
  change (((Multimap.empty.insert Header.contentType _).insert Header.cacheControl _).insert
    Header.connection connectionClose).getAll Header.setCookie = []
  rw [Multimap.getAll_insert_of_ne _ _ (by decide), Multimap.getAll_insert_of_ne _ _ (by decide),
    Multimap.getAll_insert_of_ne _ _ (by decide)]
  rfl

/-- The upstream cannot set the session name. -/
theorem normalizeHttpResponse_not_carriesSessionCookie {crates : Crates Url}
    {response : Response Incoming} {requestMethod : Method} {state : ProxyState}
    {downstream : Response (ProxyBody Incoming)} (session : Secret)
    (hok : normalizeHttpResponse crates response requestMethod state = .ok downstream) :
    ¬CarriesSessionCookie session downstream := by
  obtain ⟨steps⟩ := normalizeHttpResponse_steps hok
  rintro ⟨value, hmem, hleads⟩
  rw [steps.result] at hmem
  change value ∈ (attachBody _ _ _ _ _).1.getAll Header.setCookie at hmem
  rw [attachBody_getAll (by decide), rewriteLocation_getAll_of_ne (by decide) steps.locate] at hmem
  obtain ⟨original, -, hvalue⟩ :=
    exists_of_mem_mapM (normalizeSetCookieHeaders_getAll steps.cookie) hmem
  obtain ⟨accepted⟩ := normalizeSetCookie_accepted hvalue
  refine accepted.not_session (List.IsPrefix.trans ⟨session.value, ?_⟩ hleads)
  rw [List.append_assoc, List.singleton_append, sessionPair]

theorem downstreamWebsocketResponse_not_carriesSessionCookie {offer : WebSocketOffer}
    {selected : Option Bytes} {response : Response (ProxyBody Incoming)} (session : Secret)
    (hok : downstreamWebsocketResponse offer selected = .ok response) :
    ¬CarriesSessionCookie session response := by
  apply not_carriesSessionCookie_of_nil
  obtain ⟨headers, hheaders, hresponse⟩ := bind_eq_ok_iff.mp hok
  rw [pure_eq_ok_iff.mp hresponse]
  change headers.getAll Header.setCookie = []
  have hfixed (value : HeaderValue) : (((Multimap.empty.insert Header.connection
      (.fromStatic "Upgrade" (by decide))).insert Header.upgrade
      (.fromStatic "websocket" (by decide))).insert Header.secWebsocketAccept value).getAll
        Header.setCookie = [] := by
    rw [Multimap.getAll_insert_of_ne _ _ (by decide), Multimap.getAll_insert_of_ne _ _ (by decide),
      Multimap.getAll_insert_of_ne _ _ (by decide)]
    rfl
  unfold selectedProtocolHeaders at hheaders
  split at hheaders
  · cases hheaders
    exact hfixed _
  · obtain ⟨value, -, hinsert⟩ := okOr_bind_eq_ok_iff.mp hheaders
    rw [pure_eq_ok_iff.mp hinsert, Multimap.getAll_insert_of_ne _ _ (by decide)]
    exact hfixed _

theorem forward_not_carriesSessionCookie {crates : Crates Url} {request : Request Incoming}
    {raw : RawAdmission} {state : ProxyState} {upstream : UpstreamRun Incoming}
    {effects : List (Effect Incoming)} {response : Response (ProxyBody Incoming)}
    (session : Secret)
    (hok : forward crates request raw state upstream = (effects, .ok response)) :
    ¬CarriesSessionCookie session response := by
  unfold forward at hok
  split at hok
  · obtain ⟨-, offer, selected, hdownstream⟩ := forwardWebsocket_ok hok
    exact downstreamWebsocketResponse_not_carriesSessionCookie session hdownstream
  · obtain ⟨upstreamRequest, answer, -, hnormalized⟩ := forwardHttp_ok hok
    exact normalizeHttpResponse_not_carriesSessionCookie session hnormalized

/-- A response carries the session credential only as the answer to an attempt
that found the flag clear. -/
theorem handlerOutcome_carriesSessionCookie {crates : Crates Url} {request : Request Incoming}
    {raw : RawAdmission} {state : ProxyState} {consumed : Bool} {upstream : UpstreamRun Incoming}
    {handled : Handled Incoming}
    (houtcome : HandlerOutcome crates request raw state consumed upstream handled)
    (hcarries : CarriesSessionCookie state.secrets.session handled.response) :
    isBootstrapAttempt request state = true ∧ consumed = false := by
  cases houtcome with
  | bootstrap hattempt hfresh => exact ⟨hattempt, hfresh⟩
  | rejected hfixed =>
      simp only [List.mem_cons, List.not_mem_nil, or_false] at hfixed
      rcases hfixed with rfl | rfl | rfl <;>
        exact absurd hcarries (fixedResponse_not_carriesSessionCookie _ _ _)
  | failed => exact absurd hcarries (fixedResponse_not_carriesSessionCookie _ _ _)
  | forwarded _ hforward =>
      exact absurd hcarries (forward_not_carriesSessionCookie _ hforward)

/-! ## Interleaved requests -/

/-- Where one request stands. No await lies between the check of the presented
secret and the response, so only a request that was not polled yet and one that
is being forwarded can be cancelled. -/
inductive Phase (Incoming : Type) where
  | received
  | exchanging
  | responding (won : Bool)
  | handling
  | answered (response : Response (ProxyBody Incoming))
  | cancelled

structure RequestTask (Incoming : Type) where
  request : Request Incoming
  raw : RawAdmission
  phase : Phase Incoming

/-- The flag of one proxy and the requests it received, by task. -/
structure Lifetime (Incoming : Type) where
  consumed : Bool
  tasks : Nat → Option (RequestTask Incoming)

namespace Lifetime

def start : Lifetime Incoming := ⟨false, fun _ => none⟩

def setTask (lifetime : Lifetime Incoming) (id : Nat) (task : RequestTask Incoming) :
    Lifetime Incoming :=
  { lifetime with tasks := Function.update lifetime.tasks id (some task) }

def setConsumed (lifetime : Lifetime Incoming) (consumed : Bool) : Lifetime Incoming :=
  { lifetime with consumed }

@[simp] theorem setTask_tasks_self (lifetime : Lifetime Incoming) (id : Nat)
    (task : RequestTask Incoming) : (lifetime.setTask id task).tasks id = some task :=
  Function.update_self ..

@[simp] theorem setTask_tasks_of_ne (lifetime : Lifetime Incoming) {id other : Nat}
    (task : RequestTask Incoming) (hne : other ≠ id) :
    (lifetime.setTask id task).tasks other = lifetime.tasks other :=
  Function.update_of_ne hne ..

@[simp] theorem setTask_consumed (lifetime : Lifetime Incoming) (id : Nat)
    (task : RequestTask Incoming) : (lifetime.setTask id task).consumed = lifetime.consumed := rfl

@[simp] theorem setConsumed_tasks (lifetime : Lifetime Incoming) (consumed : Bool) :
    (lifetime.setConsumed consumed).tasks = lifetime.tasks := rfl

@[simp] theorem setConsumed_consumed (lifetime : Lifetime Incoming) (consumed : Bool) :
    (lifetime.setConsumed consumed).consumed = consumed := rfl

@[simp] theorem setTask_setTask (lifetime : Lifetime Incoming) (id : Nat)
    (first second : RequestTask Incoming) :
    (lifetime.setTask id first).setTask id second = lifetime.setTask id second := by
  simp only [setTask, Function.update_idem]

@[simp] theorem setConsumed_setTask (lifetime : Lifetime Incoming) (consumed : Bool) (id : Nat)
    (task : RequestTask Incoming) :
    (lifetime.setConsumed consumed).setTask id task =
      (lifetime.setTask id task).setConsumed consumed := rfl

theorem setTask_setConsumed_self {lifetime : Lifetime Incoming} {consumed : Bool}
    (hsame : consumed = lifetime.consumed) (id : Nat) (task : RequestTask Incoming) :
    (lifetime.setTask id task).setConsumed consumed = lifetime.setTask id task := by
  rw [hsame]
  rfl

end Lifetime

inductive LifetimeEvent (Incoming : Type) where
  | arrive (id : Nat) (request : Request Incoming) (raw : RawAdmission)
  | check (id : Nat)
  | exchange (id : Nat)
  | respond (id : Nat)
  | handle (id : Nat) (upstream : UpstreamRun Incoming)
  | cancel (id : Nat)

/-- The response to an attempt whose compare-exchange succeeded or failed. -/
def attemptResponse (won : Bool) (request : Request Incoming) (state : ProxyState) :
    Response (ProxyBody Incoming) :=
  if won then bootstrapResponse (request.method == Method.head) state.secrets.session
  else unauthorized

/-- `handle_request` in steps; tasks step in any order. -/
inductive LifetimeStep (crates : Crates Url) (state : ProxyState) :
    Lifetime Incoming → LifetimeEvent Incoming → Lifetime Incoming → Prop
  | arrive {lifetime : Lifetime Incoming} {id : Nat} {request : Request Incoming}
      {raw : RawAdmission} (hfresh : lifetime.tasks id = none) :
      LifetimeStep crates state lifetime (.arrive id request raw)
        (lifetime.setTask id ⟨request, raw, .received⟩)
  | present {lifetime : Lifetime Incoming} {id : Nat} {task : RequestTask Incoming}
      (htask : lifetime.tasks id = some task) (hphase : task.phase = .received)
      (hattempt : isBootstrapAttempt task.request state = true) :
      LifetimeStep crates state lifetime (.check id)
        (lifetime.setTask id { task with phase := .exchanging })
  | pass {lifetime : Lifetime Incoming} {id : Nat} {task : RequestTask Incoming}
      (htask : lifetime.tasks id = some task) (hphase : task.phase = .received)
      (hattempt : isBootstrapAttempt task.request state = false) :
      LifetimeStep crates state lifetime (.check id)
        (lifetime.setTask id { task with phase := .handling })
  | exchange {lifetime : Lifetime Incoming} {id : Nat} {task : RequestTask Incoming}
      (htask : lifetime.tasks id = some task) (hphase : task.phase = .exchanging) :
      LifetimeStep crates state lifetime (.exchange id)
        ((lifetime.setTask id
          { task with phase := .responding (compareExchange lifetime.consumed).1 }).setConsumed
          (compareExchange lifetime.consumed).2)
  | respond {lifetime : Lifetime Incoming} {id : Nat} {task : RequestTask Incoming} {won : Bool}
      (htask : lifetime.tasks id = some task) (hphase : task.phase = .responding won) :
      LifetimeStep crates state lifetime (.respond id)
        (lifetime.setTask id
          { task with phase := .answered (attemptResponse won task.request state) })
  | handle {lifetime : Lifetime Incoming} {id : Nat} {task : RequestTask Incoming}
      {upstream : UpstreamRun Incoming} (htask : lifetime.tasks id = some task)
      (hphase : task.phase = .handling) :
      LifetimeStep crates state lifetime (.handle id upstream)
        (let handled := handleRequest crates task.request task.raw state lifetime.consumed upstream
        (lifetime.setTask id { task with phase := .answered handled.response }).setConsumed
          handled.consumed)
  | cancel {lifetime : Lifetime Incoming} {id : Nat} {task : RequestTask Incoming}
      (htask : lifetime.tasks id = some task)
      (hphase : task.phase = .received ∨ task.phase = .handling) :
      LifetimeStep crates state lifetime (.cancel id)
        (lifetime.setTask id { task with phase := .cancelled })

theorem LifetimeStep.unique {crates : Crates Url} {state : ProxyState}
    {lifetime first second : Lifetime Incoming} {event : LifetimeEvent Incoming}
    (hfirst : LifetimeStep crates state lifetime event first)
    (hsecond : LifetimeStep crates state lifetime event second) : first = second := by
  cases hfirst <;> cases hsecond <;> simp_all

/-- What `handleRequest` does with an attempt. -/
theorem handleRequest_attempt (crates : Crates Url) {state : ProxyState}
    {task : RequestTask Incoming} (consumed : Bool) (upstream : UpstreamRun Incoming)
    (hattempt : isBootstrapAttempt task.request state = true) :
    handleRequest crates task.request task.raw state consumed upstream =
      ⟨(compareExchange consumed).2, [],
        attemptResponse (compareExchange consumed).1 task.request state⟩ := by
  obtain ⟨hroute, hpresents⟩ := (Bool.and_eq_true _ _).mp hattempt
  simp only [handleRequest, hroute, authenticateBootstrap, hpresents, if_true]
  cases consumed <;> rfl

/-- The three steps of an attempt, with none of another request between them. -/
theorem attempt_run {crates : Crates Url} {state : ProxyState} {lifetime : Lifetime Incoming}
    {id : Nat} {task : RequestTask Incoming} (htask : lifetime.tasks id = some task)
    (hphase : task.phase = .received) (hattempt : isBootstrapAttempt task.request state = true) :
    let response := attemptResponse (compareExchange lifetime.consumed).1 task.request state
    Run (LifetimeStep crates state) lifetime [.check id, .exchange id, .respond id]
      ((lifetime.setTask id { task with phase := .answered response }).setConsumed
        (compareExchange lifetime.consumed).2) := by
  let exchanging : RequestTask Incoming := { task with phase := .exchanging }
  let responding : RequestTask Incoming :=
    { task with phase := .responding (compareExchange lifetime.consumed).1 }
  let exchanged := (lifetime.setTask id responding).setConsumed
    (compareExchange lifetime.consumed).2
  have hexchange : LifetimeStep crates state (lifetime.setTask id exchanging) (.exchange id)
      exchanged := by
    have hstep : LifetimeStep crates state (lifetime.setTask id exchanging) (.exchange id) _ :=
      .exchange (Lifetime.setTask_tasks_self lifetime id exchanging) rfl
    rwa [Lifetime.setTask_setTask, Lifetime.setTask_consumed] at hstep
  have hrespond : LifetimeStep crates state exchanged (.respond id) _ :=
    .respond (Lifetime.setTask_tasks_self lifetime id responding) rfl
  rw [Lifetime.setConsumed_setTask, Lifetime.setTask_setTask] at hrespond
  exact .cons (.present htask hphase hattempt) (.cons hexchange (.single hrespond))

/-- An attempt run without interruption does what `handleRequest` does. -/
theorem attempt_refines_handleRequest {crates : Crates Url} {state : ProxyState}
    {lifetime : Lifetime Incoming} {id : Nat} {task : RequestTask Incoming}
    (upstream : UpstreamRun Incoming) (htask : lifetime.tasks id = some task)
    (hphase : task.phase = .received) (hattempt : isBootstrapAttempt task.request state = true) :
    let handled := handleRequest crates task.request task.raw state lifetime.consumed upstream
    handled.effects = [] ∧ ∀ next,
      Run (LifetimeStep crates state) lifetime [.check id, .exchange id, .respond id] next ↔
        next = (lifetime.setTask id
          { task with phase := .answered handled.response }).setConsumed handled.consumed := by
  rw [handleRequest_attempt crates lifetime.consumed upstream hattempt]
  have hrun := @attempt_run _ _ crates _ _ _ _ htask hphase hattempt
  refine ⟨rfl, fun next => ⟨fun hother => ?_, ?_⟩⟩
  · exact hother.unique hrun fun _ _ _ _ => LifetimeStep.unique
  · rintro rfl
    exact hrun

theorem handleRequest_consumed {crates : Crates Url} {request : Request Incoming}
    {raw : RawAdmission} {state : ProxyState} {consumed : Bool} {upstream : UpstreamRun Incoming}
    {handled : Handled Incoming}
    (houtcome : HandlerOutcome crates request raw state consumed upstream handled)
    (hattempt : isBootstrapAttempt request state = false) : handled.consumed = consumed := by
  cases houtcome with
  | bootstrap hpresented => simp [hattempt] at hpresented
  | rejected => rfl
  | failed => rfl
  | forwarded => rfl

/-! ## The invariant -/

/-- A request that cleared the flag, or that was handed the session credential. -/
def RequestTask.HasWon (session : Secret) (task : RequestTask Incoming) : Prop :=
  task.phase = .responding true ∨
    ∃ response, task.phase = .answered response ∧ CarriesSessionCookie session response

/-- What the phase of one request says about it and about the flag. -/
def RequestTask.Sound (state : ProxyState) (consumed : Bool) (task : RequestTask Incoming) :
    Prop :=
  match task.phase with
  | .received | .cancelled => True
  | .exchanging => isBootstrapAttempt task.request state = true
  | .responding won =>
      isBootstrapAttempt task.request state = true ∧ (won = false → consumed = true)
  | .handling => isBootstrapAttempt task.request state = false
  | .answered response =>
      if isBootstrapAttempt task.request state then
        response = bootstrapResponse (task.request.method == Method.head) state.secrets.session ∨
          (response = unauthorized ∧ consumed = true)
      else ¬CarriesSessionCookie state.secrets.session response

theorem RequestTask.Sound.mono {state : ProxyState} {consumed : Bool}
    {task : RequestTask Incoming} (hsound : task.Sound state consumed) :
    task.Sound state true := by
  unfold RequestTask.Sound at hsound ⊢
  cases hphase : task.phase with
  | received => trivial
  | cancelled => trivial
  | exchanging => simpa only [hphase] using hsound
  | handling => simpa only [hphase] using hsound
  | responding won =>
      simp only [hphase] at hsound ⊢
      exact ⟨hsound.1, fun _ => trivial⟩
  | answered response =>
      simp only [hphase] at hsound ⊢
      split
      next hattempt =>
        rw [if_pos hattempt] at hsound
        exact hsound.imp_right fun hlost => ⟨hlost.1, trivial⟩
      next hattempt => rwa [if_neg hattempt] at hsound

structure LifetimeInv (state : ProxyState) (lifetime : Lifetime Incoming) : Prop where
  flag : lifetime.consumed = true ↔
    ∃ id task, lifetime.tasks id = some task ∧ task.HasWon state.secrets.session
  unique : ∀ {i j : Nat} {task other : RequestTask Incoming}, lifetime.tasks i = some task →
    lifetime.tasks j = some other → task.HasWon state.secrets.session →
    other.HasWon state.secrets.session → i = j
  sound : ∀ {id : Nat} {task : RequestTask Incoming}, lifetime.tasks id = some task →
    task.Sound state lifetime.consumed

theorem lifetimeInv_start (state : ProxyState) :
    LifetimeInv state (Lifetime.start : Lifetime Incoming) := by
  refine ⟨⟨fun h => (by cases h), ?_⟩, ?_, ?_⟩
  · rintro ⟨id, task, htask, -⟩
    cases htask
  · intro i j task other htask
    cases htask
  · intro id task htask
    cases htask

/-- A task may change as long as it does not start or stop to be the winner. -/
theorem LifetimeInv.setTask {state : ProxyState} {lifetime : Lifetime Incoming} {id : Nat}
    {next : RequestTask Incoming} (hinv : LifetimeInv state lifetime)
    (hwon : next.HasWon state.secrets.session ↔
      ∃ task, lifetime.tasks id = some task ∧ task.HasWon state.secrets.session)
    (hsound : next.Sound state lifetime.consumed) :
    LifetimeInv state (lifetime.setTask id next) := by
  -- a winner afterwards was one before, and the other way round
  have hback : ∀ {j : Nat} {other : RequestTask Incoming},
      (lifetime.setTask id next).tasks j = some other → other.HasWon state.secrets.session →
      ∃ task, lifetime.tasks j = some task ∧ task.HasWon state.secrets.session := by
    intro j other hother hwins
    by_cases hid : j = id
    · subst hid
      rw [Lifetime.setTask_tasks_self, Option.some.injEq] at hother
      exact hwon.mp (hother ▸ hwins)
    · rw [Lifetime.setTask_tasks_of_ne _ _ hid] at hother
      exact ⟨other, hother, hwins⟩
  refine ⟨⟨fun hconsumed => ?_, ?_⟩, ?_, ?_⟩
  · obtain ⟨j, task, htask, hwins⟩ := hinv.flag.mp hconsumed
    by_cases hid : j = id
    · subst hid
      exact ⟨j, next, Lifetime.setTask_tasks_self .., hwon.mpr ⟨task, htask, hwins⟩⟩
    · exact ⟨j, task, by rw [Lifetime.setTask_tasks_of_ne _ _ hid, htask], hwins⟩
  · rintro ⟨j, other, hother, hwins⟩
    obtain ⟨task, htask, htaskWon⟩ := hback hother hwins
    exact hinv.flag.mpr ⟨j, task, htask, htaskWon⟩
  · intro i j task other htask hother hwins hotherWins
    obtain ⟨before, hbefore, hbeforeWon⟩ := hback htask hwins
    obtain ⟨beforeOther, hbeforeOther, hbeforeOtherWon⟩ := hback hother hotherWins
    exact hinv.unique hbefore hbeforeOther hbeforeWon hbeforeOtherWon
  · intro j other hother
    by_cases hid : j = id
    · subst hid
      rw [Lifetime.setTask_tasks_self, Option.some.injEq] at hother
      exact hother ▸ hsound
    · rw [Lifetime.setTask_tasks_of_ne _ _ hid] at hother
      exact hinv.sound hother

theorem unauthorized_not_carriesSessionCookie (session : Secret) :
    ¬CarriesSessionCookie session (unauthorized : Response (ProxyBody Incoming)) :=
  fixedResponse_not_carriesSessionCookie session _ _

/-- The compare-exchange of the first attempt makes it the winner. -/
theorem LifetimeInv.win {state : ProxyState} {lifetime : Lifetime Incoming} {id : Nat}
    {task : RequestTask Incoming} (hinv : LifetimeInv state lifetime)
    (hclear : lifetime.consumed = false)
    (hattempt : isBootstrapAttempt task.request state = true) :
    LifetimeInv state
      ((lifetime.setTask id { task with phase := .responding true }).setConsumed true) := by
  have hnone : ∀ {j : Nat} {other : RequestTask Incoming}, lifetime.tasks j = some other →
      ¬other.HasWon state.secrets.session := by
    intro j other hother hwins
    rw [hinv.flag.mpr ⟨j, other, hother, hwins⟩] at hclear
    cases hclear
  have honly : ∀ {j : Nat} {other : RequestTask Incoming},
      (lifetime.setTask id { task with phase := .responding true }).tasks j = some other →
      other.HasWon state.secrets.session → j = id := by
    intro j other hother hwins
    by_contra hid
    rw [Lifetime.setTask_tasks_of_ne _ _ hid] at hother
    exact hnone hother hwins
  refine ⟨⟨fun _ => ⟨id, _, Lifetime.setTask_tasks_self .., .inl rfl⟩, fun _ => rfl⟩, ?_, ?_⟩
  · intro i j first second hfirst hsecond hfirstWon hsecondWon
    rw [honly hfirst hfirstWon, honly hsecond hsecondWon]
  · intro j other hother
    by_cases hid : j = id
    · subst hid
      rw [Lifetime.setConsumed_tasks, Lifetime.setTask_tasks_self, Option.some.injEq] at hother
      rw [← hother]
      exact ⟨hattempt, fun _ => rfl⟩
    · rw [Lifetime.setConsumed_tasks, Lifetime.setTask_tasks_of_ne _ _ hid] at hother
      exact (hinv.sound hother).mono

theorem lifetimeInv_step {crates : Crates Url} {state : ProxyState}
    {lifetime next : Lifetime Incoming} {event : LifetimeEvent Incoming}
    (hinv : LifetimeInv state lifetime)
    (hstep : LifetimeStep crates state lifetime event next) : LifetimeInv state next := by
  -- a task outside the winning phases is not the winner
  have hidle : ∀ {id : Nat} {task : RequestTask Incoming}, lifetime.tasks id = some task →
      task.phase ≠ .responding true → (∀ response, task.phase ≠ .answered response) →
      ¬∃ before, lifetime.tasks id = some before ∧ before.HasWon state.secrets.session := by
    rintro id task htask hresponding hanswered ⟨before, hbefore, hwins⟩
    rw [htask, Option.some.injEq] at hbefore
    subst hbefore
    rcases hwins with hwin | ⟨response, hresponse, -⟩
    · exact hresponding hwin
    · exact hanswered response hresponse
  cases hstep with
  | arrive hfresh =>
      refine hinv.setTask ?_ trivial
      simp [RequestTask.HasWon, hfresh]
  | present htask hphase hattempt =>
      refine hinv.setTask ?_ hattempt
      simpa [RequestTask.HasWon] using hidle htask (by simp [hphase]) (by simp [hphase])
  | pass htask hphase hattempt =>
      refine hinv.setTask ?_ hattempt
      simpa [RequestTask.HasWon] using hidle htask (by simp [hphase]) (by simp [hphase])
  | @exchange id task htask hphase =>
      have hattempt : isBootstrapAttempt task.request state = true := by
        simpa [RequestTask.Sound, hphase] using hinv.sound htask
      cases hconsumed : lifetime.consumed with
      | false => exact hinv.win hconsumed hattempt
      | true =>
          have hlost : LifetimeInv state
              (lifetime.setTask id { task with phase := .responding false }) := by
            refine hinv.setTask ?_ ⟨hattempt, fun _ => hconsumed⟩
            simpa [RequestTask.HasWon] using hidle htask (by simp [hphase]) (by simp [hphase])
          rw [Lifetime.setTask_setConsumed_self (by rw [hconsumed]; rfl)]
          exact hlost
  | @respond id task won htask hphase =>
      have hsound := hinv.sound htask
      simp only [RequestTask.Sound, hphase] at hsound
      obtain ⟨hattempt, hconsumed⟩ := hsound
      cases won with
      | true =>
          refine hinv.setTask ⟨fun _ => ⟨task, htask, .inl hphase⟩, fun _ => ?_⟩ ?_
          · exact .inr ⟨_, rfl, bootstrapResponse_carriesSessionCookie _ _⟩
          · simp [RequestTask.Sound, hattempt, attemptResponse]
      | false =>
          refine hinv.setTask ?_ ?_
          · have hnot := hidle htask (by simp [hphase]) (by simp [hphase])
            simpa [RequestTask.HasWon, attemptResponse,
              unauthorized_not_carriesSessionCookie] using hnot
          · simp [RequestTask.Sound, hattempt, attemptResponse, hconsumed rfl]
  | @handle id task upstream htask hphase =>
      have hattempt : isBootstrapAttempt task.request state = false := by
        simpa [RequestTask.Sound, hphase] using hinv.sound htask
      have houtcome := handleRequest_outcome crates task.request task.raw state lifetime.consumed
        upstream
      have hplain : ¬CarriesSessionCookie state.secrets.session
          (handleRequest crates task.request task.raw state lifetime.consumed
            upstream).response := by
        intro hcarries
        rw [(handlerOutcome_carriesSessionCookie houtcome hcarries).1] at hattempt
        cases hattempt
      dsimp only
      rw [Lifetime.setTask_setConsumed_self (handleRequest_consumed houtcome hattempt)]
      refine hinv.setTask ?_ ?_
      · have hnot := hidle htask (by simp [hphase]) (by simp [hphase])
        simpa [RequestTask.HasWon, hplain] using hnot
      · simp [RequestTask.Sound, hattempt, hplain]
  | cancel htask hphase =>
      refine hinv.setTask ?_ trivial
      have hnot := hidle htask (by rcases hphase with h | h <;> simp [h])
        (by rcases hphase with h | h <;> simp [h])
      simpa [RequestTask.HasWon] using hnot

theorem lifetimeInv_run {crates : Crates Url} {state : ProxyState}
    {labels : List (LifetimeEvent Incoming)} {lifetime : Lifetime Incoming}
    (hrun : Run (LifetimeStep crates state) Lifetime.start labels lifetime) :
    LifetimeInv state lifetime := by
  have hkeep : ∀ before (event : LifetimeEvent Incoming) after, LifetimeInv state before →
      LifetimeStep crates state before event after → LifetimeInv state after :=
    fun _ _ _ hinv hstep => lifetimeInv_step hinv hstep
  exact hrun.invariant hkeep (lifetimeInv_start state)

/-! ## One issue, and no loss -/

/-- A request with exactly one bootstrap field, equal to the secret, on the exact
bootstrap route. -/
structure PresentsSecret (request : Request Incoming) (state : ProxyState) : Prop where
  route : OnBootstrapRoute request
  secret : ∃ value, request.headers.getAll (asBytes "x-rpackit-bootstrap") = [value] ∧
    value.bytes = state.secrets.bootstrap.value

theorem isBootstrapAttempt_iff {request : Request Incoming} {state : ProxyState} :
    isBootstrapAttempt request state = true ↔ PresentsSecret request state := by
  have hpresents : presentsBootstrap request state = true ↔
      ∃ value, request.headers.getAll (asBytes "x-rpackit-bootstrap") = [value] ∧
        value.bytes = state.secrets.bootstrap.value := by
    unfold presentsBootstrap
    split
    next value hvalues =>
      rw [Secret.matchesCandidate_iff]
      constructor
      · exact fun hbytes => ⟨value, hvalues, hbytes⟩
      · rintro ⟨other, hother, hbytes⟩
        rw [show asBytes "x-rpackit-bootstrap" = bootstrapHeaderName from rfl, hvalues] at hother
        cases hother
        exact hbytes
    next hnot =>
      constructor
      · rintro ⟨⟩
      · rintro ⟨value, hvalues, -⟩
        exact absurd hvalues (hnot value)
  rw [isBootstrapAttempt, Bool.and_eq_true, isBootstrap_iff, hpresents]
  exact ⟨fun h => ⟨h.1, h.2⟩, fun h => ⟨h.route, h.secret⟩⟩

/-- What holds of the bootstrap secret in one state of a proxy's lifetime. -/
structure BootstrapSecretSafe (crates : Crates Url) (state : ProxyState)
    (lifetime : Lifetime Incoming) : Prop where
  /-- At most one response carries the session credential. -/
  once : ∀ i j task other response otherResponse,
    lifetime.tasks i = some task → task.phase = .answered response →
    CarriesSessionCookie state.secrets.session response →
    lifetime.tasks j = some other → other.phase = .answered otherResponse →
    CarriesSessionCookie state.secrets.session otherResponse → i = j
  /-- It is the bootstrap response to a request that presented the secret. -/
  presented : ∀ i task response,
    lifetime.tasks i = some task → task.phase = .answered response →
    CarriesSessionCookie state.secrets.session response →
    PresentsSecret task.request state ∧ response =
      bootstrapResponse (task.request.method == Method.head) state.secrets.session
  /-- Only a request that presented the secret sets the flag, and it wins by that. -/
  unburnt : lifetime.consumed = true → ∃ i task, lifetime.tasks i = some task ∧
    PresentsSecret task.request state ∧ task.HasWon state.secrets.session
  /-- A request that presented the secret is refused only after another one won. -/
  refused : ∀ i task response,
    lifetime.tasks i = some task → task.phase = .answered response →
    PresentsSecret task.request state →
    response = bootstrapResponse (task.request.method == Method.head) state.secrets.session ∨
      ∃ j other, j ≠ i ∧ lifetime.tasks j = some other ∧ PresentsSecret other.request state ∧
        other.HasWon state.secrets.session
  /-- An attempt that no other request interrupts does what `handleRequest` does at once. -/
  refines : ∀ i task upstream,
    lifetime.tasks i = some task → task.phase = .received → PresentsSecret task.request state →
    let handled := handleRequest crates task.request task.raw state lifetime.consumed upstream
    handled.effects = [] ∧ ∀ next,
      Run (LifetimeStep crates state) lifetime [.check i, .exchange i, .respond i] next ↔
        next = (lifetime.setTask i
          { task with phase := .answered handled.response }).setConsumed handled.consumed
  /-- The first request that presents the secret can always complete and succeed. -/
  available : ∀ i task,
    lifetime.tasks i = some task → task.phase = .received → PresentsSecret task.request state →
    (∀ j other, lifetime.tasks j = some other → PresentsSecret other.request state → j = i) →
    ∃ next, Run (LifetimeStep crates state) lifetime [.check i, .exchange i, .respond i] next ∧
      next.tasks i = some ⟨task.request, task.raw, .answered
        (bootstrapResponse (task.request.method == Method.head) state.secrets.session)⟩

theorem LifetimeInv.attempt_of_hasWon {state : ProxyState} {lifetime : Lifetime Incoming}
    {id : Nat} {task : RequestTask Incoming} (hinv : LifetimeInv state lifetime)
    (htask : lifetime.tasks id = some task) (hwon : task.HasWon state.secrets.session) :
    isBootstrapAttempt task.request state = true := by
  have hsound := hinv.sound htask
  unfold RequestTask.Sound at hsound
  rcases hwon with hphase | ⟨response, hphase, hcarries⟩
  · rw [hphase] at hsound
    exact hsound.1
  · rw [hphase] at hsound
    by_contra hattempt
    dsimp only at hsound
    rw [if_neg hattempt] at hsound
    exact hsound hcarries

theorem LifetimeInv.available {crates : Crates Url} {state : ProxyState}
    {lifetime : Lifetime Incoming} {id : Nat} {task : RequestTask Incoming}
    (hclear : lifetime.consumed = false) (htask : lifetime.tasks id = some task)
    (hphase : task.phase = .received) (hattempt : isBootstrapAttempt task.request state = true) :
    ∃ next, Run (LifetimeStep crates state) lifetime [.check id, .exchange id, .respond id] next ∧
      next.tasks id = some ⟨task.request, task.raw, .answered
        (bootstrapResponse (task.request.method == Method.head) state.secrets.session)⟩ := by
  have hrun := @attempt_run _ _ crates state _ _ _ htask hphase hattempt
  rw [hclear] at hrun
  exact ⟨_, hrun, Lifetime.setTask_tasks_self ..⟩

/-- Over every interleaving of any number of requests the session credential is
issued at most once, to a request that presented the secret, and a request that
does not present it never uses it up. -/
theorem bootstrap_secret_safe {crates : Crates Url} {state : ProxyState}
    {labels : List (LifetimeEvent Incoming)} {lifetime : Lifetime Incoming}
    (hrun : Run (LifetimeStep crates state) Lifetime.start labels lifetime) :
    BootstrapSecretSafe crates state lifetime := by
  have hinv := lifetimeInv_run hrun
  -- an attempt that was answered has won the cookie, or lost to one that won
  have hanswered : ∀ {i : Nat} {task : RequestTask Incoming}
      {response : Response (ProxyBody Incoming)}, lifetime.tasks i = some task →
      task.phase = .answered response → isBootstrapAttempt task.request state = true →
      response = bootstrapResponse (task.request.method == Method.head) state.secrets.session ∨
        (response = unauthorized ∧ lifetime.consumed = true) := by
    intro i task response htask hphase hattempt
    have hsound := hinv.sound htask
    unfold RequestTask.Sound at hsound
    rw [hphase] at hsound
    dsimp only at hsound
    rwa [if_pos hattempt] at hsound
  constructor
  case once =>
    intro i j task other response otherResponse htask hphase hcarries hother hotherPhase hother'
    exact hinv.unique htask hother (.inr ⟨response, hphase, hcarries⟩)
      (.inr ⟨otherResponse, hotherPhase, hother'⟩)
  case presented =>
    intro i task response htask hphase hcarries
    have hattempt := hinv.attempt_of_hasWon htask (.inr ⟨response, hphase, hcarries⟩)
    refine ⟨isBootstrapAttempt_iff.mp hattempt, ?_⟩
    rcases hanswered htask hphase hattempt with hissued | ⟨rfl, -⟩
    · exact hissued
    · exact absurd hcarries (unauthorized_not_carriesSessionCookie _)
  case unburnt =>
    intro hconsumed
    obtain ⟨i, task, htask, hwon⟩ := hinv.flag.mp hconsumed
    exact ⟨i, task, htask, isBootstrapAttempt_iff.mp (hinv.attempt_of_hasWon htask hwon), hwon⟩
  case refused =>
    intro i task response htask hphase hpresents
    apply (hanswered htask hphase (isBootstrapAttempt_iff.mpr hpresents)).imp_right
    rintro ⟨rfl, hconsumed⟩
    obtain ⟨j, other, hother, hwon⟩ := hinv.flag.mp hconsumed
    refine ⟨j, other, ?_, hother,
      isBootstrapAttempt_iff.mp (hinv.attempt_of_hasWon hother hwon), hwon⟩
    rintro rfl
    rw [htask, Option.some.injEq] at hother
    subst hother
    rcases hwon with hwin | ⟨response, hresponse, hcarries⟩
    · rw [hphase] at hwin
      cases hwin
    · rw [hphase] at hresponse
      cases hresponse
      exact unauthorized_not_carriesSessionCookie _ hcarries
  case refines =>
    intro i task upstream htask hphase hpresents
    exact attempt_refines_handleRequest upstream htask hphase (isBootstrapAttempt_iff.mpr hpresents)
  case available =>
    intro i task htask hphase hpresents honly
    refine LifetimeInv.available ?_ htask hphase (isBootstrapAttempt_iff.mpr hpresents)
    rw [Bool.eq_false_iff]
    intro hset
    obtain ⟨j, other, hother, hwon⟩ := hinv.flag.mp hset
    obtain rfl := honly j other hother
      (isBootstrapAttempt_iff.mp (hinv.attempt_of_hasWon hother hwon))
    rw [htask, Option.some.injEq] at hother
    subst hother
    rcases hwon with hwin | ⟨response, hresponse, -⟩
    · rw [hphase] at hwin
      cases hwin
    · rw [hphase] at hresponse
      cases hresponse

/-- A `GET` of the bootstrap route with one bootstrap field. -/
def bootstrapRequest (value : HeaderValue) : Request Unit where
  method := Method.get
  uri := ⟨none, some ⟨bootstrapPath, none⟩⟩
  version := .http11
  headers := Multimap.empty.insert bootstrapHeaderName value
  body := ()

/-- A wrong value that is followed by the right one leaves the secret to it. -/
theorem bootstrap_secret_safe_wrong_then_right :
    let state := ProxyState.fixture 17 49152 49153
    let raw : RawAdmission := ⟨[], false⟩
    let wrong := bootstrapRequest (.fromStatic "wrong" (by decide))
    let right := bootstrapRequest ⟨state.secrets.bootstrap.value, by decide⟩
    ∃ lifetime, Run (LifetimeStep Crates.unavailable state) Lifetime.start
        [.arrive 0 wrong raw, .arrive 1 right raw, .check 0, .handle 0 .refused, .check 1,
          .exchange 1, .respond 1] lifetime ∧
      BootstrapSecretSafe Crates.unavailable state lifetime ∧
      lifetime.tasks 1 = some ⟨right, raw,
        .answered (bootstrapResponse false state.secrets.session)⟩ := by
  intro state raw wrong right
  have hrun : ∃ lifetime, Run (LifetimeStep Crates.unavailable state) Lifetime.start
      [.arrive 0 wrong raw, .arrive 1 right raw, .check 0, .handle 0 .refused, .check 1,
        .exchange 1, .respond 1] lifetime ∧
      lifetime.tasks 1 = some ⟨right, raw,
        .answered (bootstrapResponse false state.secrets.session)⟩ :=
    ⟨_, .cons (.arrive rfl) (.cons (.arrive rfl) (.cons (.pass rfl rfl (by decide))
      (.cons (.handle rfl rfl) (.cons (.present rfl rfl (by decide))
        (.cons (.exchange rfl rfl) (.single (.respond rfl rfl))))))), rfl⟩
  obtain ⟨lifetime, hrun, hright⟩ := hrun
  exact ⟨lifetime, hrun, bootstrap_secret_safe hrun, hright⟩

end Rpackit.Transport
