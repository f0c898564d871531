import Rpackit.Library.Runs
import Rpackit.Library.WebUrl
import Rpackit.Transport.State

/-! # The startup of the web view

The page-load callbacks and the worker that checks the session cookie share one
atomic state and one sender. Each access to them is a step of its own, so a run is
any interleaving of any number of callbacks with the worker; what the browser
answers is free. The log keeps what an observer sees, in order.
-/

namespace Rpackit.Webview

open Text WebUrl Transport

/-! ## The fixed parts of a launch -/

structure StartupLaunch where
  bootstrapUrl : UrlRecord
  rootUrl : UrlRecord
  session : Secret
  showAfterReady : Bool
  deriving DecidableEq

/-- A URL without a password has an empty one here. -/
def sameOrigin (url expected : UrlRecord) : Bool :=
  url.scheme == expected.scheme && url.host == expected.host && url.port == expected.port
    && url.username == [] && url.password == []

inductive SameSite where
  | strict
  | lax
  | none
  deriving DecidableEq, Repr

inductive Expiration where
  | session
  | dateTime (seconds : Int)
  deriving DecidableEq, Repr

/-- A cookie as the browser hands it out. -/
structure BrowserCookie where
  name : Bytes
  value : Bytes
  httpOnly : Option Bool
  sameSite : Option SameSite
  path : Option Bytes
  maxAge : Option Int
  expires : Option Expiration
  secure : Option Bool
  deriving DecidableEq, Repr

def sessionCookieIsExact (cookies : List BrowserCookie) (session : Secret) : Bool :=
  match cookies.filter fun cookie => cookie.name == sessionCookieName with
  | [cookie] =>
      cookie.httpOnly == some true
        && cookie.sameSite == some .strict
        && cookie.path == some [slash]
        && cookie.maxAge.isNone
        && (cookie.expires == Option.none || cookie.expires == some .session)
        && cookie.secure != some true
        && session.matchesCandidate cookie.value
  | _ => false

inductive StartupFailure where
  | cookie
  | navigation
  | show
  deriving DecidableEq, Repr

/-! ## The shared state -/

/-- What an observer of the startup sees. -/
inductive Event where
  | workerStarted (url : UrlRecord)
  | cookieVerified (cookies : List BrowserCookie)
  | showCalled (url : UrlRecord)
  | delivered (result : Except StartupFailure Unit)
  deriving DecidableEq

/-- Where the worker is: before which of its steps. -/
inductive Worker where
  | idle
  | checking
  | rejected
  | rejectionStored
  | verified
  | navigating
  | navigationFailed
  | navigationStored
  | finished
  deriving DecidableEq, Repr

structure Shared where
  flag : Nat
  worker : Worker
  senderPresent : Bool
  receiverAlive : Bool
  log : List Event
  deriving DecidableEq

/-- `signal_startup`: the first caller takes the sender. -/
def Shared.signalStartup (shared : Shared) (result : Except StartupFailure Unit) : Shared :=
  if shared.senderPresent then
    { shared with
      senderPresent := false
      log := if shared.receiverAlive then shared.log ++ [.delivered result] else shared.log }
  else shared

/-! ## The two parties -/

/-- Where a callback is: before which of its steps. -/
inductive Progress where
  | entered
  | exchanging
  | won
  | showFailed
  | failureStored
  | ready
  | returned
  deriving DecidableEq, Repr

/-- The next step of a callback for a finished page; `shown` is what `show` answers. -/
def pageStep (launch : StartupLaunch) (url : UrlRecord) (shown : Bool) (progress : Progress)
    (shared : Shared) : Progress × Shared :=
  match progress with
  | .entered =>
      if url = launch.bootstrapUrl ∧ shared.flag = 0 then
        -- the callback that wins this exchange spawns the worker
        (.returned, { shared with
          flag := 1
          worker := .checking
          log := shared.log ++ [.workerStarted url] })
      else if shared.flag = 2 ∧ sameOrigin url launch.rootUrl = true ∧ url ≠ launch.bootstrapUrl
      then (.exchanging, shared)
      else (.returned, shared)
  | .exchanging =>
      if shared.flag = 2 then (.won, { shared with flag := 3 }) else (.returned, shared)
  | .won =>
      if launch.showAfterReady then
        (if shown then .ready else .showFailed,
          { shared with log := shared.log ++ [.showCalled url] })
      else (.ready, shared)
  | .showFailed => (.failureStored, { shared with flag := 4 })
  | .failureStored => (.returned, shared.signalStartup (.error .show))
  | .ready => (.returned, shared.signalStartup (.ok ()))
  | .returned => (.returned, shared)

/-- The next step of the worker, with the answers of `cookies_for_url` and `navigate`. -/
def workerStep (launch : StartupLaunch) (cookies : Option (List BrowserCookie)) (navigated : Bool)
    (shared : Shared) : Shared :=
  match shared.worker with
  | .checking =>
      match cookies with
      | none => { shared with worker := .rejected }
      | some cookies =>
          if sessionCookieIsExact cookies launch.session then
            { shared with
              worker := .verified
              log := shared.log ++ [.cookieVerified cookies] }
          else { shared with worker := .rejected }
  | .rejected => { shared with flag := 4, worker := .rejectionStored }
  | .rejectionStored => { shared.signalStartup (.error .cookie) with worker := .finished }
  | .verified => { shared with flag := 2, worker := .navigating }
  | .navigating =>
      { shared with worker := if navigated then .finished else .navigationFailed }
  | .navigationFailed => { shared with flag := 4, worker := .navigationStored }
  | .navigationStored => { shared.signalStartup (.error .navigation) with worker := .finished }
  | .idle => shared
  | .finished => shared

structure Callback where
  url : UrlRecord
  progress : Progress
  deriving DecidableEq

structure StartupState where
  shared : Shared
  callbacks : List Callback
  deriving DecidableEq

inductive StartupAction where
  | pageFinished (url : UrlRecord)
  | page (index : Nat) (shown : Bool)
  | worker (cookies : Option (List BrowserCookie)) (navigated : Bool)
  | dropReceiver
  deriving DecidableEq

def startupStep (launch : StartupLaunch) (action : StartupAction) (state : StartupState) :
    StartupState :=
  match action with
  | .pageFinished url => { state with callbacks := state.callbacks ++ [⟨url, .entered⟩] }
  | .page index shown =>
      match state.callbacks[index]? with
      | none => state
      | some callback =>
          let (progress, shared) :=
            pageStep launch callback.url shown callback.progress state.shared
          ⟨shared, state.callbacks.set index { callback with progress }⟩
  | .worker cookies navigated =>
      { state with shared := workerStep launch cookies navigated state.shared }
  | .dropReceiver => { state with shared := { state.shared with receiverAlive := false } }

def startupStart : StartupState := ⟨⟨0, .idle, true, true, []⟩, []⟩

/-! ## What a run may show -/

def Event.isShow : Event → Bool
  | .showCalled _ => true
  | _ => false

/-- An event that may follow the past of a log. -/
def Allowed (launch : StartupLaunch) (past : List Event) : Event → Prop
  | .workerStarted url => url = launch.bootstrapUrl ∧ ∀ earlier, .workerStarted earlier ∉ past
  | .cookieVerified cookies => sessionCookieIsExact cookies launch.session = true
  | .showCalled url => sameOrigin url launch.rootUrl = true ∧ url ≠ launch.bootstrapUrl ∧
      (∃ cookies, .cookieVerified cookies ∈ past) ∧ ∀ earlier, .showCalled earlier ∉ past
  | .delivered _ => ∀ earlier, .delivered earlier ∉ past

def StartupLog (launch : StartupLaunch) (log : List Event) : Prop :=
  ∀ past event, past ++ [event] <+: log → Allowed launch past event

def NoShowAfterError (log : List Event) : Prop :=
  ∀ past url, past ++ [.showCalled url] <+: log → ∀ failure, .delivered (.error failure) ∉ past

section Log

variable {launch : StartupLaunch} {log past : List Event} {event : Event}

theorem StartupLog.snoc (hlog : StartupLog launch log) (hallowed : Allowed launch log event) :
    StartupLog launch (log ++ [event]) := by
  intro past next hpast
  obtain heq | hearlier := List.prefix_concat_iff.mp hpast
  · obtain ⟨rfl, rfl⟩ := List.append_singleton_inj.mp heq
    exact hallowed
  · exact hlog past next hearlier

theorem NoShowAfterError.snoc (hlog : NoShowAfterError log)
    (hevent : event.isShow = true → ∀ failure, .delivered (.error failure) ∉ log) :
    NoShowAfterError (log ++ [event]) := by
  intro past url hpast
  obtain heq | hearlier := List.prefix_concat_iff.mp hpast
  · obtain ⟨rfl, rfl⟩ := List.append_singleton_inj.mp heq
    exact hevent rfl
  · exact hlog past url hearlier

theorem countP_isShow_eq_zero_iff :
    log.countP Event.isShow = 0 ↔ ∀ url, .showCalled url ∉ log := by
  rw [List.countP_eq_zero]
  constructor
  · intro hnone url hmem
    exact hnone _ hmem rfl
  · intro hnone event hmem
    cases event with
    | showCalled url => exact absurd hmem (hnone url)
    | workerStarted url => exact Bool.false_ne_true
    | cookieVerified cookies => exact Bool.false_ne_true
    | delivered result => exact Bool.false_ne_true

end Log

/-! ## The invariant -/

/-- The flags a worker can meet when so many callbacks have still to show the window. -/
def Worker.Fits (flag waiting : Nat) : Worker → Prop
  | .idle => flag = 0
  | .checking => flag = 1
  | .rejected => flag = 1
  | .verified => flag = 1
  | .rejectionStored => flag = 4 ∧ waiting = 0
  | .navigating => 2 ≤ flag
  | .navigationFailed => 2 ≤ flag
  | .navigationStored => flag = 4
  | .finished => 2 ≤ flag

/-- What the position of a callback says. -/
def Callback.Fits (launch : StartupLaunch) (shared : Shared) (callback : Callback) : Prop :=
  match callback.progress with
  | .exchanging => sameOrigin callback.url launch.rootUrl = true ∧
      callback.url ≠ launch.bootstrapUrl
  | .won => sameOrigin callback.url launch.rootUrl = true ∧
      callback.url ≠ launch.bootstrapUrl ∧ 3 ≤ shared.flag
  | .showFailed => 3 ≤ shared.flag ∧ 0 < shared.log.countP Event.isShow
  | .failureStored => shared.flag = 4 ∧ 0 < shared.log.countP Event.isShow
  | _ => True

/-- The shared state when so many callbacks have still to show the window. -/
structure SharedInv (launch : StartupLaunch) (shared : Shared) (waiting : Nat) : Prop where
  log : StartupLog launch shared.log
  worker : shared.worker.Fits shared.flag waiting
  single : waiting + shared.log.countP Event.isShow ≤ 1
  closed : shared.flag ≤ 2 → waiting + shared.log.countP Event.isShow = 0
  verified : shared.worker = .verified ∨ shared.flag = 2 ∨ 0 < waiting →
    ∃ cookies, .cookieVerified cookies ∈ shared.log
  sender : shared.senderPresent = true → ∀ result, .delivered result ∉ shared.log
  idle : shared.worker = .idle → ∀ url, .workerStarted url ∉ shared.log

/-- A later shared state. -/
structure Shared.Extends (shared later : Shared) : Prop where
  late : 3 ≤ shared.flag → 3 ≤ later.flag
  failed : shared.flag = 4 → later.flag = 4
  log : shared.log <+: later.log

variable {launch : StartupLaunch} {shared later : Shared} {waiting : Nat}

theorem Callback.Fits.extends {callback : Callback} (hfits : callback.Fits launch shared)
    (hextends : shared.Extends later) : callback.Fits launch later := by
  have hshows : shared.log.countP Event.isShow ≤ later.log.countP Event.isShow :=
    hextends.log.sublist.countP_le
  unfold Callback.Fits at hfits ⊢
  split at hfits
  next => exact hfits
  next => exact ⟨hfits.1, hfits.2.1, hextends.late hfits.2.2⟩
  next => exact ⟨hextends.late hfits.1, by omega⟩
  next => exact ⟨hextends.failed hfits.1, by omega⟩
  next => trivial

/-! ## One step -/

theorem Shared.Extends.refl (shared : Shared) : shared.Extends shared :=
  ⟨id, id, List.prefix_rfl⟩

theorem signalStartup_extends (shared : Shared) (result : Except StartupFailure Unit) :
    shared.Extends (shared.signalStartup result) := by
  unfold Shared.signalStartup
  split
  · split
    · exact ⟨id, id, List.prefix_append _ _⟩
    · exact ⟨id, id, List.prefix_rfl⟩
  · exact .refl shared

/-- Whoever signals, at most one result is delivered. -/
theorem SharedInv.signalStartup (hinv : SharedInv launch shared waiting)
    (result : Except StartupFailure Unit) :
    SharedInv launch (shared.signalStartup result) waiting := by
  unfold Shared.signalStartup
  split
  next hpresent =>
    split
    · refine ⟨hinv.log.snoc (hinv.sender hpresent), hinv.worker, ?_, ?_, ?_, ?_, ?_⟩
      · simpa [List.countP_append, Event.isShow] using hinv.single
      · simpa [List.countP_append, Event.isShow] using hinv.closed
      · intro hpast
        obtain ⟨cookies, hverified⟩ := hinv.verified hpast
        exact ⟨cookies, List.mem_append_left _ hverified⟩
      · exact fun habsent => absurd habsent Bool.false_ne_true
      · intro hidle url
        simpa using hinv.idle hidle url
    · exact ⟨hinv.log, hinv.worker, hinv.single, hinv.closed, hinv.verified,
        fun habsent => absurd habsent Bool.false_ne_true, hinv.idle⟩
  next => exact hinv

theorem Worker.Fits.idle {worker : Worker} (hfits : worker.Fits 0 waiting) : worker = .idle := by
  cases worker <;> first | rfl | exact absurd hfits (by simp [Worker.Fits])

/-- While the flag is 2 the worker is at its navigation or past it. -/
theorem Worker.Fits.exchanged {worker : Worker} (hfits : worker.Fits 2 waiting) (more : Nat) :
    worker.Fits 3 more := by
  cases worker <;> simp [Worker.Fits] at hfits ⊢

/-- After the exchange a failure may be stored at any time. -/
theorem Worker.Fits.stored {worker : Worker} {flag less : Nat} (hfits : worker.Fits flag waiting)
    (hflag : 3 ≤ flag) (hless : less ≤ waiting) :
    worker.Fits flag less ∧ worker.Fits 4 less := by
  cases worker with
  | rejectionStored =>
      have hnone : less = 0 := Nat.le_zero.mp (hfits.2 ▸ hless)
      exact ⟨⟨hfits.1, hnone⟩, rfl, hnone⟩
  | navigating => exact ⟨hfits, (by decide : 2 ≤ 4)⟩
  | navigationFailed => exact ⟨hfits, (by decide : 2 ≤ 4)⟩
  | finished => exact ⟨hfits, (by decide : 2 ≤ 4)⟩
  | navigationStored => exact ⟨hfits, rfl⟩
  | idle => exact absurd (hfits ▸ hflag) (by decide)
  | checking => exact absurd (hfits ▸ hflag) (by decide)
  | rejected => exact absurd (hfits ▸ hflag) (by decide)
  | verified => exact absurd (hfits ▸ hflag) (by decide)

/-! ### The callbacks -/

/-- Only the first exchange starts a worker. -/
theorem SharedInv.claim (hinv : SharedInv launch shared waiting) (hflag : shared.flag = 0)
    {url : UrlRecord} (hurl : url = launch.bootstrapUrl) :
    SharedInv launch { shared with
      flag := 1
      worker := .checking
      log := shared.log ++ [.workerStarted url] } waiting := by
  have hclosed := hinv.closed (by omega)
  have hidle : shared.worker = .idle := (hflag ▸ hinv.worker).idle
  refine ⟨hinv.log.snoc ⟨hurl, hinv.idle hidle⟩, rfl, ?_, ?_, ?_, ?_, ?_⟩
  · simpa [List.countP_append, Event.isShow] using hinv.single
  · intro _
    simpa [List.countP_append, Event.isShow] using hclosed
  · rintro (hverified | hopen | hsome)
    · cases hverified
    · cases hopen
    · omega
  · intro hpresent result
    simpa using hinv.sender hpresent result
  · intro hfalse
    cases hfalse

theorem SharedInv.exchange (hinv : SharedInv launch shared waiting) (hflag : shared.flag = 2) :
    SharedInv launch { shared with flag := 3 } (waiting + 1) where
  log := hinv.log
  worker := (hflag ▸ hinv.worker).exchanged _
  single := by
    have hclosed := hinv.closed (by omega)
    dsimp only
    omega
  closed hlow := absurd hlow (by decide : ¬3 ≤ 2)
  verified _ := hinv.verified (.inr (.inl hflag))
  sender := hinv.sender
  idle := hinv.idle

/-- The one callback that won shows the window. -/
theorem SharedInv.showCalled (hinv : SharedInv launch shared waiting) (hflag : 3 ≤ shared.flag)
    (hwaiting : 0 < waiting) {url : UrlRecord} (horigin : sameOrigin url launch.rootUrl = true)
    (hbootstrap : url ≠ launch.bootstrapUrl) :
    SharedInv launch { shared with log := shared.log ++ [.showCalled url] } (waiting - 1) := by
  have hsingle := hinv.single
  have hnone : shared.log.countP Event.isShow = 0 := by omega
  obtain ⟨cookies, hverified⟩ := hinv.verified (.inr (.inr hwaiting))
  have hallowed : Allowed launch shared.log (.showCalled url) :=
    ⟨horigin, hbootstrap, ⟨cookies, hverified⟩, countP_isShow_eq_zero_iff.mp hnone⟩
  refine ⟨hinv.log.snoc hallowed, (hinv.worker.stored hflag (Nat.sub_le waiting 1)).1,
    ?_, ?_, ?_, ?_, ?_⟩
  · simp only [List.countP_append, List.countP_singleton, Event.isShow, if_true]
    omega
  · exact fun hlow => absurd (hflag.trans hlow) (by decide)
  · exact fun _ => ⟨cookies, List.mem_append_left _ hverified⟩
  · intro hpresent result
    simpa using hinv.sender hpresent result
  · intro hidle url
    simpa using hinv.idle hidle url

/-- A window that stays hidden. -/
theorem SharedInv.skipShow (hinv : SharedInv launch shared waiting) (hflag : 3 ≤ shared.flag)
    (hwaiting : 0 < waiting) : SharedInv launch shared (waiting - 1) where
  log := hinv.log
  worker := (hinv.worker.stored hflag (Nat.sub_le waiting 1)).1
  single := by
    have hsingle := hinv.single
    omega
  closed hlow := absurd (hflag.trans hlow) (by decide)
  verified _ := hinv.verified (.inr (.inr hwaiting))
  sender := hinv.sender
  idle := hinv.idle

theorem SharedInv.storeFailure (hinv : SharedInv launch shared waiting) (hflag : 3 ≤ shared.flag) :
    SharedInv launch { shared with flag := 4 } waiting where
  log := hinv.log
  worker := (hinv.worker.stored hflag le_rfl).2
  single := hinv.single
  closed hlow := absurd hlow (by decide : ¬4 ≤ 2)
  verified := by
    rintro (hverified | hopen | hsome)
    · exact hinv.verified (.inl hverified)
    · cases hopen
    · exact hinv.verified (.inr (.inr hsome))
  sender := hinv.sender
  idle := hinv.idle

/-- Whether a callback has still to show the window, as a number. -/
def Progress.waits : Progress → Nat
  | .won => 1
  | _ => 0

theorem pageStep_keeps {url : UrlRecord} {progress : Progress} (shown : Bool)
    (hinv : SharedInv launch shared waiting)
    (hfits : Callback.Fits launch shared ⟨url, progress⟩) (hwaits : progress.waits ≤ waiting) :
    shared.Extends (pageStep launch url shown progress shared).2 ∧
      Callback.Fits launch (pageStep launch url shown progress shared).2
        ⟨url, (pageStep launch url shown progress shared).1⟩ ∧
      SharedInv launch (pageStep launch url shown progress shared).2
        (waiting - progress.waits + (pageStep launch url shown progress shared).1.waits) := by
  cases progress with
  | entered =>
      simp only [pageStep]
      split
      next hclaim =>
        obtain ⟨hurl, hflag⟩ := hclaim
        refine ⟨⟨?_, ?_, List.prefix_append _ _⟩, trivial, hinv.claim hflag hurl⟩
        · omega
        · omega
      next =>
        split
        next hpage => exact ⟨.refl shared, hpage.2, hinv⟩
        next => exact ⟨.refl shared, trivial, hinv⟩
  | exchanging =>
      simp only [pageStep]
      split
      next hflag =>
        refine ⟨⟨fun _ => le_rfl, ?_, List.prefix_rfl⟩, ⟨hfits.1, hfits.2, le_rfl⟩,
          hinv.exchange hflag⟩
        omega
      next => exact ⟨.refl shared, trivial, hinv⟩
  | won =>
      obtain ⟨horigin, hbootstrap, hflag⟩ := hfits
      simp only [pageStep]
      split
      next =>
        have hshown := hinv.showCalled hflag hwaits horigin hbootstrap
        cases shown with
        | true => exact ⟨⟨id, id, List.prefix_append _ _⟩, trivial, hshown⟩
        | false =>
            refine ⟨⟨id, id, List.prefix_append _ _⟩, ⟨hflag, ?_⟩, hshown⟩
            simp [List.countP_append, Event.isShow]
      next => exact ⟨.refl shared, trivial, hinv.skipShow hflag hwaits⟩
  | showFailed =>
      obtain ⟨hflag, hshown⟩ := hfits
      exact ⟨⟨fun _ => (by decide : 3 ≤ 4), fun _ => rfl, List.prefix_rfl⟩, ⟨rfl, hshown⟩,
        hinv.storeFailure hflag⟩
  | failureStored =>
      exact ⟨signalStartup_extends shared _, trivial, hinv.signalStartup _⟩
  | ready => exact ⟨signalStartup_extends shared _, trivial, hinv.signalStartup _⟩
  | returned => exact ⟨.refl shared, trivial, hinv⟩

/-! ### The worker -/

theorem SharedInv.verify (hinv : SharedInv launch shared waiting) (hflag : shared.flag = 1)
    {cookies : List BrowserCookie}
    (hexact : sessionCookieIsExact cookies launch.session = true) :
    SharedInv launch { shared with
      worker := .verified
      log := shared.log ++ [.cookieVerified cookies] } waiting where
  log := hinv.log.snoc hexact
  worker := hflag
  single := by simpa [List.countP_append, Event.isShow] using hinv.single
  closed := by simpa [List.countP_append, Event.isShow] using hinv.closed
  verified _ := ⟨cookies, List.mem_append_right _ List.mem_cons_self⟩
  sender hpresent result := by simpa using hinv.sender hpresent result
  idle hfalse := by cases hfalse

/-- The worker goes on, with another flag or with the same one. -/
theorem SharedInv.advance (hinv : SharedInv launch shared waiting) {flag : Nat} {worker : Worker}
    (hfits : worker.Fits flag waiting) (hworker : worker ≠ .verified ∧ worker ≠ .idle)
    (hlow : flag ≤ 2 → shared.flag ≤ 2)
    (hopen : flag = 2 → shared.flag = 2 ∨ shared.worker = .verified) :
    SharedInv launch { shared with flag, worker } waiting where
  log := hinv.log
  worker := hfits
  single := hinv.single
  closed hflag := hinv.closed (hlow hflag)
  verified := by
    rintro (hverified | hflag | hsome)
    · exact absurd hverified hworker.1
    · exact hinv.verified ((hopen hflag).elim (fun heq => .inr (.inl heq)) .inl)
    · exact hinv.verified (.inr (.inr hsome))
  sender := hinv.sender
  idle hidle := absurd hidle hworker.2

theorem SharedInv.finish (hinv : SharedInv launch shared waiting) (hflag : 2 ≤ shared.flag) :
    SharedInv launch { shared with worker := .finished } waiting :=
  hinv.advance hflag ⟨by decide, by decide⟩ id .inl

theorem signalStartup_flag (shared : Shared) (result : Except StartupFailure Unit) :
    (shared.signalStartup result).flag = shared.flag := by
  unfold Shared.signalStartup
  split <;> rfl

/-- The worker reports its failure, which it has stored. -/
theorem SharedInv.report (hinv : SharedInv launch shared waiting) (hflag : shared.flag = 4)
    (failure : StartupFailure) :
    shared.Extends { shared.signalStartup (.error failure) with worker := .finished } ∧
      SharedInv launch { shared.signalStartup (.error failure) with worker := .finished }
        waiting := by
  have hextends := signalStartup_extends shared (.error failure)
  refine ⟨⟨hextends.late, hextends.failed, hextends.log⟩,
    (hinv.signalStartup (.error failure)).finish ?_⟩
  rw [signalStartup_flag]
  omega

theorem workerStep_keeps (cookies : Option (List BrowserCookie)) (navigated : Bool)
    (hinv : SharedInv launch shared waiting) :
    shared.Extends (workerStep launch cookies navigated shared) ∧
      SharedInv launch (workerStep launch cookies navigated shared) waiting := by
  have hfits := hinv.worker
  unfold workerStep
  split
  next hworker =>
    rw [hworker] at hfits
    have hflag : shared.flag = 1 := hfits
    have hrejected : SharedInv launch { shared with worker := .rejected } waiting :=
      hinv.advance hflag ⟨by decide, by decide⟩ id .inl
    split
    · exact ⟨⟨id, id, List.prefix_rfl⟩, hrejected⟩
    next found =>
      split
      next hexact => exact ⟨⟨id, id, List.prefix_append _ _⟩, hinv.verify hflag hexact⟩
      next => exact ⟨⟨id, id, List.prefix_rfl⟩, hrejected⟩
  next hworker =>
    rw [hworker] at hfits
    have hflag : shared.flag = 1 := hfits
    have hnone := hinv.closed (by omega)
    refine ⟨⟨fun _ => (by decide : 3 ≤ 4), fun _ => rfl, List.prefix_rfl⟩,
      hinv.advance ⟨rfl, by omega⟩ ⟨by decide, by decide⟩ (fun _ => by omega) (fun heq => ?_)⟩
    cases heq
  next hworker =>
    rw [hworker] at hfits
    exact hinv.report hfits.1 .cookie
  next hworker =>
    rw [hworker] at hfits
    have hflag : shared.flag = 1 := hfits
    refine ⟨⟨fun _ => by omega, fun _ => by omega, List.prefix_rfl⟩,
      hinv.advance (le_refl 2) ⟨by decide, by decide⟩ (fun _ => by omega) fun _ => .inr hworker⟩
  next hworker =>
    rw [hworker] at hfits
    refine ⟨⟨id, id, List.prefix_rfl⟩, ?_⟩
    cases navigated with
    | true => exact hinv.advance hfits ⟨by decide, by decide⟩ id .inl
    | false => exact hinv.advance hfits ⟨by decide, by decide⟩ id .inl
  next hworker =>
    rw [hworker] at hfits
    refine ⟨⟨fun _ => (by decide : 3 ≤ 4), fun _ => rfl, List.prefix_rfl⟩,
      hinv.advance rfl ⟨by decide, by decide⟩ (fun hlow => ?_) (fun heq => ?_)⟩
    · exact absurd hlow (by decide)
    · cases heq
  next hworker =>
    rw [hworker] at hfits
    exact hinv.report hfits .navigation
  next => exact ⟨.refl shared, hinv⟩
  next => exact ⟨.refl shared, hinv⟩

/-! ## Errors -/

/-- After a delivered error the flag is 4 and no callback has still to show the window. -/
structure ErrorInv (launch : StartupLaunch) (shared : Shared) (waiting : Nat) : Prop where
  log : NoShowAfterError shared.log
  failed : launch.showAfterReady = true → ∀ failure, .delivered (.error failure) ∈ shared.log →
    shared.flag = 4 ∧ waiting = 0

theorem ErrorInv.snoc (herrors : ErrorInv launch shared waiting) {flag less : Nat}
    {worker : Worker} {event : Event}
    (hshow : event.isShow = true → ∀ failure, .delivered (.error failure) ∉ shared.log)
    (hevent : ∀ failure, event ≠ .delivered (.error failure))
    (hflag : launch.showAfterReady = true → shared.flag = 4 → waiting = 0 → flag = 4 ∧ less = 0) :
    ErrorInv launch { shared with flag, worker, log := shared.log ++ [event] } less where
  log := herrors.log.snoc hshow
  failed hafter failure hmem := by
    obtain hearlier | hlast := List.mem_append.mp hmem
    · obtain ⟨hfour, hnone⟩ := herrors.failed hafter failure hearlier
      exact hflag hafter hfour hnone
    · exact absurd (List.mem_singleton.mp hlast).symm (hevent failure)

theorem ErrorInv.advance (herrors : ErrorInv launch shared waiting) {flag less : Nat}
    {worker : Worker}
    (hflag : launch.showAfterReady = true → shared.flag = 4 → waiting = 0 → flag = 4 ∧ less = 0) :
    ErrorInv launch { shared with flag, worker } less where
  log := herrors.log
  failed hafter failure hmem := by
    obtain ⟨hfour, hnone⟩ := herrors.failed hafter failure hmem
    exact hflag hafter hfour hnone

/-- A delivered error finds the flag at 4 and no callback before its `show`. -/
theorem ErrorInv.signalStartup (herrors : ErrorInv launch shared waiting)
    {result : Except StartupFailure Unit}
    (hresult : ∀ failure, result = .error failure → shared.senderPresent = true →
      shared.receiverAlive = true → launch.showAfterReady = true →
      shared.flag = 4 ∧ waiting = 0) :
    ErrorInv launch (shared.signalStartup result) waiting := by
  unfold Shared.signalStartup
  split
  next hpresent =>
    split
    next halive =>
      refine ⟨herrors.log.snoc fun hshow => absurd hshow Bool.false_ne_true, ?_⟩
      intro hafter failure hmem
      obtain hearlier | hlast := List.mem_append.mp hmem
      · exact herrors.failed hafter failure hearlier
      · obtain heq := Event.delivered.inj (List.mem_singleton.mp hlast)
        exact hresult failure heq.symm hpresent halive hafter
    next => exact ⟨herrors.log, herrors.failed⟩
  next => exact herrors

theorem pageStep_keepsErrors {url : UrlRecord} {progress : Progress} (shown : Bool)
    (hinv : SharedInv launch shared waiting)
    (hfits : Callback.Fits launch shared ⟨url, progress⟩) (hwaits : progress.waits ≤ waiting)
    (herrors : ErrorInv launch shared waiting) :
    ErrorInv launch (pageStep launch url shown progress shared).2
      (waiting - progress.waits + (pageStep launch url shown progress shared).1.waits) := by
  cases progress with
  | entered =>
      simp only [pageStep]
      split
      next hclaim =>
        refine herrors.snoc (fun hshow => absurd hshow Bool.false_ne_true)
          (fun failure heq => by cases heq) (fun _ hfour _ => ?_)
        omega
      next =>
        split
        next => exact herrors
        next => exact herrors
  | exchanging =>
      simp only [pageStep]
      split
      next hflag =>
        refine herrors.advance fun _ hfour _ => ?_
        omega
      next => exact herrors
  | won =>
      have hwaiting : 0 < waiting := hwaits
      simp only [pageStep]
      split
      next hafter =>
        -- an error that was delivered would leave no callback here
        have hnoError : ∀ failure, .delivered (.error failure) ∉ shared.log := by
          intro failure hmem
          have hnone := (herrors.failed hafter failure hmem).2
          omega
        exact herrors.snoc (fun _ => hnoError) (fun failure heq => by cases heq)
          fun _ _ hnone => absurd hnone (by omega)
      next hhidden =>
        exact ⟨herrors.log, fun hafter => absurd hafter hhidden⟩
  | showFailed => exact herrors.advance fun _ _ hnone => ⟨rfl, hnone⟩
  | failureStored =>
      refine herrors.signalStartup fun failure _ _ _ _ => ⟨hfits.1, ?_⟩
      have hsingle := hinv.single
      have hshown := hfits.2
      omega
  | ready => exact herrors.signalStartup fun failure heq => by cases heq
  | returned => exact herrors

theorem workerStep_keepsErrors (cookies : Option (List BrowserCookie)) (navigated : Bool)
    (hinv : SharedInv launch shared waiting) (herrors : ErrorInv launch shared waiting)
    (horderly : shared.worker = .navigationStored → shared.senderPresent = true →
      shared.receiverAlive = true → launch.showAfterReady = true → waiting = 0) :
    ErrorInv launch (workerStep launch cookies navigated shared) waiting := by
  have hfits := hinv.worker
  have hkept : ∀ worker, ErrorInv launch { shared with worker } waiting :=
    fun worker => herrors.advance fun _ hfour hnone => ⟨hfour, hnone⟩
  unfold workerStep
  split
  next hworker =>
    split
    · exact hkept .rejected
    · split
      next =>
        exact herrors.snoc (fun hshow => absurd hshow Bool.false_ne_true)
          (fun failure heq => by cases heq) fun _ hfour hnone => ⟨hfour, hnone⟩
      next => exact hkept .rejected
  next => exact herrors.advance fun _ _ hnone => ⟨rfl, hnone⟩
  next hworker =>
    rw [hworker] at hfits
    have hsignalled : ErrorInv launch (shared.signalStartup (.error .cookie)) waiting :=
      herrors.signalStartup fun _ _ _ _ _ => hfits
    exact hsignalled.advance fun _ hfour hnone => ⟨hfour, hnone⟩
  next hworker =>
    rw [hworker] at hfits
    have hflag : shared.flag = 1 := hfits
    refine herrors.advance fun _ hfour _ => ?_
    omega
  next => exact hkept _
  next => exact herrors.advance fun _ _ hnone => ⟨rfl, hnone⟩
  next hworker =>
    rw [hworker] at hfits
    have hsignalled : ErrorInv launch (shared.signalStartup (.error .navigation)) waiting :=
      herrors.signalStartup fun _ _ hpresent halive hafter =>
        ⟨hfits, horderly hworker hpresent halive hafter⟩
    exact hsignalled.advance fun _ hfour hnone => ⟨hfour, hnone⟩
  next => exact herrors
  next => exact herrors

/-! ## Runs -/

def Callback.isWaiting (callback : Callback) : Bool := callback.progress == .won

/-- The callbacks that have still to show the window. -/
def waitingCallbacks (callbacks : List Callback) : Nat := callbacks.countP Callback.isWaiting

theorem waits_eq (callback : Callback) :
    callback.progress.waits = if callback.isWaiting then 1 else 0 := by
  obtain ⟨url, progress⟩ := callback
  cases progress <;> rfl

/-- A callback at an index, counted before and after its step. -/
theorem waitingCallbacks_set {callbacks : List Callback} {index : Nat} {callback : Callback}
    (hget : callbacks[index]? = some callback) (progress : Progress) :
    callback.progress.waits ≤ waitingCallbacks callbacks ∧
      waitingCallbacks (callbacks.set index { callback with progress }) =
        waitingCallbacks callbacks - callback.progress.waits + progress.waits := by
  obtain ⟨hindex, hcallback⟩ := List.getElem?_eq_some_iff.mp hget
  constructor
  · rw [waits_eq, waitingCallbacks]
    split
    next hwaiting => exact List.countP_pos_iff.mpr ⟨callback, List.mem_of_getElem? hget, hwaiting⟩
    next => exact Nat.zero_le _
  · rw [waitingCallbacks, List.countP_set hindex, hcallback, waits_eq callback,
      show progress.waits = _ from waits_eq { callback with progress }, waitingCallbacks]

/-- The shared state fits all callbacks. -/
structure StartupInv (launch : StartupLaunch) (state : StartupState) : Prop where
  shared : SharedInv launch state.shared (waitingCallbacks state.callbacks)
  callbacks : ∀ callback ∈ state.callbacks, callback.Fits launch state.shared

def StartupErrors (launch : StartupLaunch) (state : StartupState) : Prop :=
  ErrorInv launch state.shared (waitingCallbacks state.callbacks)

/-- The worker does not signal its failed navigation to a live receiver while a callback that
won the exchange has still to show the window. -/
def Orderly (launch : StartupLaunch) (state : StartupState) (action : StartupAction) : Prop :=
  ∀ cookies navigated, action = .worker cookies navigated →
    state.shared.worker = .navigationStored → state.shared.senderPresent = true →
    state.shared.receiverAlive = true → launch.showAfterReady = true →
    ∀ callback ∈ state.callbacks, callback.progress ≠ .won

def Steps (launch : StartupLaunch) (state : StartupState) (action : StartupAction)
    (next : StartupState) : Prop := next = startupStep launch action state

def OrderlySteps (launch : StartupLaunch) (state : StartupState) (action : StartupAction)
    (next : StartupState) : Prop := Orderly launch state action ∧ Steps launch state action next

theorem startupInv_start (launch : StartupLaunch) : StartupInv launch startupStart where
  shared := by
    refine ⟨fun past event hpast => ?_, rfl, Nat.zero_le 1, fun _ => rfl, ?_,
      fun _ result => List.not_mem_nil, fun _ url => List.not_mem_nil⟩
    · exact absurd (List.prefix_nil.mp hpast) (by simp)
    · rintro (hverified | hopen | hsome)
      · cases hverified
      · cases hopen
      · cases hsome
  callbacks := fun callback hmem => absurd hmem List.not_mem_nil

theorem startupErrors_start (launch : StartupLaunch) : StartupErrors launch startupStart where
  log := fun past url hpast => absurd (List.prefix_nil.mp hpast) (by simp)
  failed := fun _ failure hmem => absurd hmem List.not_mem_nil

variable {state next : StartupState} {action : StartupAction}

theorem waitingCallbacks_append (callbacks : List Callback) (url : UrlRecord) :
    waitingCallbacks (callbacks ++ [⟨url, .entered⟩]) = waitingCallbacks callbacks := by
  rw [waitingCallbacks, List.countP_append]
  rfl

/-- A page step with the callback that takes it. -/
theorem startupStep_page {index : Nat} {callback : Callback} (shown : Bool)
    (hget : state.callbacks[index]? = some callback) :
    startupStep launch (.page index shown) state =
      ⟨(pageStep launch callback.url shown callback.progress state.shared).2,
        state.callbacks.set index { callback with
          progress := (pageStep launch callback.url shown callback.progress state.shared).1 }⟩ := by
  simp only [startupStep, hget]

theorem StartupInv.step (hinv : StartupInv launch state) (hstep : Steps launch state action next) :
    StartupInv launch next := by
  obtain rfl : next = startupStep launch action state := hstep
  cases action with
  | pageFinished url =>
      constructor
      · rw [startupStep, waitingCallbacks_append]
        exact hinv.shared
      · intro callback hmem
        obtain hearlier | hlast := List.mem_append.mp hmem
        · exact hinv.callbacks callback hearlier
        · obtain rfl := List.mem_singleton.mp hlast
          trivial
  | page index shown =>
      cases hget : state.callbacks[index]? with
      | none =>
          simp only [startupStep, hget]
          exact hinv
      | some callback =>
          have hfits := hinv.callbacks callback (List.mem_of_getElem? hget)
          obtain ⟨hwaits, hset⟩ := waitingCallbacks_set hget
            (pageStep launch callback.url shown callback.progress state.shared).1
          obtain ⟨hextends, hnext, hshared⟩ := pageStep_keeps shown hinv.shared hfits hwaits
          rw [startupStep_page shown hget]
          refine ⟨hset ▸ hshared, fun other hmem => ?_⟩
          obtain hearlier | rfl := List.mem_or_eq_of_mem_set hmem
          · exact (hinv.callbacks other hearlier).extends hextends
          · exact hnext
  | worker cookies navigated =>
      obtain ⟨hextends, hshared⟩ := workerStep_keeps cookies navigated hinv.shared
      exact ⟨hshared, fun callback hmem => (hinv.callbacks callback hmem).extends hextends⟩
  | dropReceiver =>
      refine ⟨⟨hinv.shared.log, hinv.shared.worker, hinv.shared.single, hinv.shared.closed,
        hinv.shared.verified, hinv.shared.sender, hinv.shared.idle⟩, fun callback hmem => ?_⟩
      exact (hinv.callbacks callback hmem).extends ⟨id, id, List.prefix_rfl⟩

theorem StartupErrors.step (herrors : StartupErrors launch state) (hinv : StartupInv launch state)
    (hstep : OrderlySteps launch state action next) : StartupErrors launch next := by
  obtain ⟨horderly, rfl⟩ := hstep
  unfold StartupErrors at herrors ⊢
  cases action with
  | pageFinished url =>
      rw [startupStep, waitingCallbacks_append]
      exact herrors
  | page index shown =>
      cases hget : state.callbacks[index]? with
      | none =>
          simp only [startupStep, hget]
          exact herrors
      | some callback =>
          have hfits := hinv.callbacks callback (List.mem_of_getElem? hget)
          obtain ⟨hwaits, hset⟩ := waitingCallbacks_set hget
            (pageStep launch callback.url shown callback.progress state.shared).1
          rw [startupStep_page shown hget]
          exact hset ▸ pageStep_keepsErrors shown hinv.shared hfits hwaits herrors
  | worker cookies navigated =>
      refine workerStep_keepsErrors cookies navigated hinv.shared herrors ?_
      intro hworker hpresent halive hafter
      rw [waitingCallbacks, List.countP_eq_zero]
      intro callback hmem hwaiting
      exact horderly cookies navigated rfl hworker hpresent halive hafter callback hmem
        (beq_iff_eq.mp hwaiting)
  | dropReceiver => exact ⟨herrors.log, herrors.failed⟩

/-- In every run the worker is started once and by the bootstrap URL, the window is shown once,
after the exact cookie was verified and on another page of the same origin, and one result is
delivered. If the steps are orderly, the window is not shown after an error was delivered. -/
theorem startup_runs_safe (launch : StartupLaunch) (actions : List StartupAction)
    (state : StartupState) :
    (Run (Steps launch) startupStart actions state → StartupLog launch state.shared.log) ∧
      (Run (OrderlySteps launch) startupStart actions state →
        StartupLog launch state.shared.log ∧ NoShowAfterError state.shared.log) := by
  constructor
  · intro hrun
    have hinv := hrun.invariant (fun _ _ _ hinv hstep => StartupInv.step hinv hstep)
      (startupInv_start launch)
    exact hinv.shared.log
  · intro hrun
    obtain ⟨hinv, herrors⟩ := hrun.invariant
      (fun _ _ _ hboth hstep => And.intro (StartupInv.step hboth.1 hstep.2)
        (StartupErrors.step hboth.2 hboth.1 hstep))
      (And.intro (startupInv_start launch) (startupErrors_start launch))
    exact ⟨hinv.shared.log, herrors.log⟩

/-! ## A window shown after the failure -/

def localUrl (path : String) : UrlRecord where
  scheme := asBytes "http"
  username := []
  password := []
  host := some (asBytes "127.0.0.1")
  port := some 4000
  path := asBytes path
  query := none
  fragment := none

def localLaunch : StartupLaunch where
  bootstrapUrl := localUrl "/_rpackit/bootstrap"
  rootUrl := localUrl "/"
  session := ⟨List.replicate 32 7, rfl⟩
  showAfterReady := true

def exactCookie : BrowserCookie where
  name := sessionCookieName
  value := localLaunch.session.value
  httpOnly := some true
  sameSite := some .strict
  path := some [slash]
  maxAge := none
  expires := none
  secure := none

/-- The worker verifies the cookie, the root page wins the exchange before the navigation of the
worker fails, and shows the window after the worker has signalled that failure. -/
def lateShow : List StartupAction :=
  [.pageFinished localLaunch.bootstrapUrl, .page 0 true,
    .worker (some [exactCookie]) true, .worker none true,
    .pageFinished localLaunch.rootUrl, .page 1 true, .page 1 true,
    .worker none false, .worker none false, .worker none false,
    .page 1 true]

/-- The worker verifies the cookie and navigates, and the root page shows the window and signals
that. -/
def shownWindow : List StartupAction :=
  [.pageFinished localLaunch.bootstrapUrl, .page 0 true,
    .worker (some [exactCookie]) true, .worker none true, .worker none true,
    .pageFinished localLaunch.rootUrl, .page 1 true, .page 1 true, .page 1 true, .page 1 true]

theorem run_foldl (launch : StartupLaunch) (actions : List StartupAction) (state : StartupState) :
    Run (Steps launch) state actions
      (actions.foldl (fun reached action => startupStep launch action reached) state) := by
  induction actions generalizing state with
  | nil => exact .nil state
  | cons action rest ih => exact .cons rfl (ih (startupStep launch action state))

/-- A run in which no failed navigation is ever signalled is orderly. -/
theorem orderlyRun_foldl (launch : StartupLaunch) (actions : List StartupAction)
    (state : StartupState)
    (hworker : ∀ count < actions.length, ((actions.take count).foldl
      (fun reached action => startupStep launch action reached) state).shared.worker ≠
        .navigationStored) :
    Run (OrderlySteps launch) state actions
      (actions.foldl (fun reached action => startupStep launch action reached) state) := by
  induction actions generalizing state with
  | nil => exact .nil state
  | cons action rest ih =>
      have hhere : state.shared.worker ≠ .navigationStored := hworker 0 (Nat.succ_pos _)
      refine .cons ⟨fun _ _ _ hstored => absurd hstored hhere, rfl⟩ (ih _ fun count hcount => ?_)
      exact hworker (count + 1) (Nat.succ_lt_succ hcount)

/-- The orderly run ends with the success of the startup. -/
theorem startup_runs_safe_local :
    let stop := fun actions : List StartupAction =>
      actions.foldl (fun reached action => startupStep localLaunch action reached) startupStart
    StartupLog localLaunch (stop lateShow).shared.log ∧
      (stop shownWindow).shared.log = [.workerStarted localLaunch.bootstrapUrl,
        .cookieVerified [exactCookie], .showCalled localLaunch.rootUrl, .delivered (.ok ())] ∧
      StartupLog localLaunch (stop shownWindow).shared.log ∧
      NoShowAfterError (stop shownWindow).shared.log := by
  intro stop
  have hrun : Run (OrderlySteps localLaunch) startupStart shownWindow (stop shownWindow) :=
    orderlyRun_foldl localLaunch shownWindow startupStart (by decide +kernel)
  exact ⟨(startup_runs_safe localLaunch lateShow _).1 (run_foldl localLaunch lateShow _),
    by decide +kernel, (startup_runs_safe localLaunch shownWindow _).2 hrun⟩

/-- A run in which the window is shown after an error was delivered. -/
theorem lateShow_shows_after_error :
    ∃ state, Run (Steps localLaunch) startupStart lateShow state ∧
      state.shared.log = [.workerStarted localLaunch.bootstrapUrl, .cookieVerified [exactCookie],
        .delivered (.error .navigation), .showCalled localLaunch.rootUrl] ∧
      ¬NoShowAfterError state.shared.log := by
  have hlog : (lateShow.foldl (fun reached action => startupStep localLaunch action reached)
      startupStart).shared.log = [.workerStarted localLaunch.bootstrapUrl,
        .cookieVerified [exactCookie], .delivered (.error .navigation),
        .showCalled localLaunch.rootUrl] := by decide +kernel
  refine ⟨_, run_foldl localLaunch lateShow startupStart, hlog, ?_⟩
  rw [hlog]
  intro hnone
  refine hnone [.workerStarted localLaunch.bootstrapUrl, .cookieVerified [exactCookie],
    .delivered (.error .navigation)] localLaunch.rootUrl List.prefix_rfl .navigation ?_
  simp

end Rpackit.Webview
