import Rpackit.Library.Program
import Rpackit.Webview.Profile
import Rpackit.Webview.Startup

/-! # The owner of the web view

The owner has the window and the profile directory. A shutdown deletes the session cookie,
clears the browsing data, destroys the window and then removes the directory. What it could
not remove can be tried again, and dropping the owner tries a last time. The window and the
system are free in their answers; the calls that reach them are kept in order.
-/

namespace Rpackit.Webview

open Transport

/-! ## State and errors -/

/-- What the owner asks of the window and of the file system. -/
inductive NativeCall where
  | hide
  | cookiesForUrl
  | deleteCookie (cookie : BrowserCookie)
  | clearAllBrowsingData
  | destroy
  | removeDirAll (path : WindowsPath)
  deriving DecidableEq

/-- The window and the profile, as long as they are owned. -/
structure SecureWebviewOwner (V : Type) where
  window : Option V
  profile : ScopedProfile
  profileCleanupTimeout : Nat

structure OwnerState (V : Type) where
  owner : SecureWebviewOwner V
  calls : List NativeCall

/-- The failures of `WebviewError` that an owner has after its launch. -/
inductive OwnerError where
  | ownerNotRunning
  | ownerStillRunning
  | windowHide
  | cleanup
  | profile (error : WebviewError)
  deriving DecidableEq, Repr

structure WebviewShutdownReport where
  sessionCookieAbsent : Bool
  browsingDataClearQueued : Bool
  windowDestroyed : Bool
  profileRemoved : Bool
  deriving DecidableEq, Repr

/-- A removal whose attempts are not at an end keeps running. -/
inductive OwnerStop where
  | failed (error : OwnerError)
  | running
  deriving DecidableEq, Repr

abbrev Owned (V α : Type) := Program (OwnerState V) OwnerStop α

/-- What the window answers to one operation: to `hide`, to the first listing of the cookies,
to the deletions and the further listings in their order, and to the last two calls. -/
structure WindowAnswers where
  hidden : Bool
  cookies : Option (List BrowserCookie)
  deleted : Nat → Bool
  remaining : Nat → Option (List BrowserCookie)
  cleared : Bool
  destroyed : Bool

/-! ## Operations -/

def isSessionCookie (cookie : BrowserCookie) : Bool := cookie.name == sessionCookieName

namespace SecureWebviewOwner

variable {V ε α : Type}

def failed (error : OwnerError) : Owned V α := Program.fail (.failed error)

def record (call : NativeCall) : Program (OwnerState V) ε Unit :=
  Program.modify fun state => { state with calls := state.calls ++ [call] }

def takeWindow : Owned V Unit :=
  Program.modify fun state => { state with owner := { state.owner with window := none } }

def hide (answers : WindowAnswers) : Owned V Unit := do
  let state ← Program.get
  match state.owner.window with
  | none => failed .ownerNotRunning
  | some _ => do
      record .hide
      if answers.hidden then return () else failed .windowHide

/-- The first deletion that fails ends it; a failed call has no value here. -/
def deleteCookies (deleted : Nat → Bool) :
    Nat → List BrowserCookie → Program (OwnerState V) Unit Unit
  | _, [] => return ()
  | index, cookie :: rest => do
      record (.deleteCookie cookie)
      if deleted index then deleteCookies deleted (index + 1) rest else Program.fail ()

def awaitAbsence (remaining : Nat → Option (List BrowserCookie)) :
    Nat → Nat → Program (OwnerState V) Unit Bool
  | _, 0 => return false
  | index, left + 1 => do
      record .cookiesForUrl
      match remaining index with
      | none => Program.fail ()
      | some cookies =>
          if cookies.any isSessionCookie then awaitAbsence remaining (index + 1) left
          else return true

def deleteSessionCookie (answers : WindowAnswers) : Program (OwnerState V) Unit Bool := do
  record .cookiesForUrl
  match answers.cookies with
  | none => Program.fail ()
  | some cookies => do
      deleteCookies answers.deleted 0 (cookies.filter isSessionCookie)
      awaitAbsence answers.remaining 0 20

/-- The three answers that a shutdown gets from the window, if there is one. -/
def closeWindow (answers : WindowAnswers) : Owned V (Bool × Bool × Bool) := do
  let state ← Program.get
  match state.owner.window with
  | none => return (false, false, false)
  | some _ => do
      takeWindow
      let deleted ← (deleteSessionCookie answers).attempt
      record .clearAllBrowsingData
      record .destroy
      return (deleted == .ok true, answers.cleared, answers.destroyed)

/-- `remove_bounded` over the attempts that the system answers. -/
def removeProfile (start : Nat) (attempts : List Attempt) :
    Owned V (Except WebviewError Unit) := do
  let state ← Program.get
  let cleanup := removeBounded state.owner.profile state.owner.profileCleanupTimeout start attempts
  Program.modify fun state => {
    owner := { state.owner with profile := cleanup.profile }
    calls := state.calls ++ cleanup.removals.map .removeDirAll }
  match cleanup.result with
  | none => Program.fail .running
  | some result => return result

def shutdown (answers : WindowAnswers) (start : Nat) (attempts : List Attempt) :
    Owned V WebviewShutdownReport := do
  let state ← Program.get
  if state.owner.window.isNone && state.owner.profile.path.isNone then failed .ownerNotRunning
  else do
    let (absent, cleared, destroyed) ← closeWindow answers
    let removed ← removeProfile start attempts
    let report : WebviewShutdownReport := ⟨absent, cleared, destroyed, removed == .ok ()⟩
    if report = ⟨true, true, true, true⟩ then return report else failed .cleanup

def retryProfileCleanup (start : Nat) (attempts : List Attempt) : Owned V Unit := do
  let state ← Program.get
  if state.owner.window.isSome then failed .ownerStillRunning
  else if state.owner.profile.path.isNone then failed .ownerNotRunning
  else do
    let removed ← removeProfile start attempts
    Program.ofExcept (removed.mapError fun error => .failed (.profile error))

/-- The drop of the owner, and then that of its profile, which makes one attempt. -/
def drop (attempt : Attempt) (state : OwnerState V) : OwnerState V :=
  let closed : List NativeCall :=
    match state.owner.window with
    | some _ => [.hide, .destroy]
    | none => []
  match state.owner.profile.path with
  | none => {
      owner := { state.owner with window := none }
      calls := state.calls ++ closed }
  | some path =>
      let once := removeProfileOnce state.owner.profile.parent path attempt
      let left := if once.1 = .ok () then none else some path
      { owner := { state.owner with
          window := none
          profile := { state.owner.profile with path := left } }
        calls := state.calls ++ closed ++ once.2.map .removeDirAll }

end SecureWebviewOwner

/-! ## Runs -/

inductive OwnerCall where
  | hide
  | shutdown
  | retryProfileCleanup
  deriving DecidableEq, Repr

/-- An operation with what it met, and its outcome. Only a shutdown answers with a report. -/
structure OwnerAnswered where
  call : OwnerCall
  answers : WindowAnswers
  start : Nat
  attempts : List Attempt
  outcome : Except OwnerError (Option WebviewShutdownReport)

variable {V : Type}

def OwnerCall.run (answers : WindowAnswers) (start : Nat) (attempts : List Attempt) :
    OwnerCall → Owned V (Option WebviewShutdownReport)
  | .hide => do
      SecureWebviewOwner.hide answers
      return none
  | .shutdown => do
      let report ← SecureWebviewOwner.shutdown answers start attempts
      return some report
  | .retryProfileCleanup => do
      SecureWebviewOwner.retryProfileCleanup start attempts
      return none

/-- An operation that came back. -/
def OwnerStep (state : OwnerState V) (answered : OwnerAnswered) (next : OwnerState V) : Prop :=
  answered.call.run answered.answers answered.start answered.attempts state =
    (answered.outcome.mapError OwnerStop.failed, next)

/-- A launched owner; nothing was asked of its window yet. -/
def launchedOwner (window : V) (parent path : WindowsPath) (profileCleanupTimeout : Nat) :
    OwnerState V where
  owner := ⟨some window, ⟨parent, some path⟩, profileCleanupTimeout⟩
  calls := []

/-! ## The calls in their order -/

/-- A call that the window gets before it is destroyed. -/
def NativeCall.isLive : NativeCall → Bool
  | .destroy => false
  | .removeDirAll _ => false
  | _ => true

/-- The window is destroyed once. It gets nothing afterwards, and nothing is removed before. -/
def Closed (path : WindowsPath) (calls : List NativeCall) : Prop :=
  ∃ live removals, calls = live ++ .destroy :: removals ∧ (∀ call ∈ live, call.isLive = true) ∧
    ∀ call ∈ removals, call = .removeDirAll path

/-- The session cookies that were listed are deleted, and a later listing has none. -/
structure WindowAnswers.DeletesSession (answers : WindowAnswers) : Prop where
  deleted : ∃ cookies, answers.cookies = some cookies ∧
    ∀ index < (cookies.filter isSessionCookie).length, answers.deleted index = true
  absent : ∃ index < 20, ∃ cookies, answers.remaining index = some cookies ∧
    cookies.any isSessionCookie = false

/-- What an owner is like between its operations. -/
inductive Tidy (parent path : WindowsPath) (state : OwnerState V) : Prop
  | open (window : V) (hwindow : state.owner.window = some window)
      (hprofile : state.owner.profile = ⟨parent, some path⟩)
      (hlive : ∀ call ∈ state.calls, call.isLive = true)
  | closed (hwindow : state.owner.window = none)
      (hprofile : state.owner.profile = ⟨parent, some path⟩ ∨
        state.owner.profile = ⟨parent, none⟩)
      (hclosed : Closed path state.calls)

/-- The owner has neither a window nor a profile. -/
def Over (state : OwnerState V) : Prop :=
  state.owner.window = none ∧ state.owner.profile.path = none

section Calls

variable {ε : Type} {state next : OwnerState V} {answers : WindowAnswers}

/-- The owner stays as it is, and only live calls are made. -/
def Asks (state next : OwnerState V) : Prop :=
  next.owner = state.owner ∧
    ∃ live, next.calls = state.calls ++ live ∧ ∀ call ∈ live, call.isLive = true

theorem Asks.refl (state : OwnerState V) : Asks state state :=
  ⟨rfl, [], (List.append_nil _).symm, List.forall_mem_nil _⟩

theorem Asks.trans (a b c : OwnerState V) (hfirst : Asks a b) (hsecond : Asks b c) : Asks a c := by
  obtain ⟨howner, first, hfirst, hlive⟩ := hfirst
  obtain ⟨howner', second, hsecond, hlive'⟩ := hsecond
  refine ⟨howner'.trans howner, first ++ second, ?_, ?_⟩
  · rw [hsecond, hfirst, List.append_assoc]
  · intro call hcall
    obtain hcall | hcall := List.mem_append.mp hcall
    · exact hlive call hcall
    · exact hlive' call hcall

theorem within_record {call : NativeCall} (hlive : call.isLive = true) :
    (SecureWebviewOwner.record call : Program (OwnerState V) ε Unit).Within Asks :=
  fun _ => ⟨rfl, [call], rfl, List.forall_mem_singleton.mpr hlive⟩

theorem within_deleteCookies (deleted : Nat → Bool) (index : Nat) (cookies : List BrowserCookie) :
    (SecureWebviewOwner.deleteCookies deleted index cookies :
      Program (OwnerState V) Unit Unit).Within Asks := by
  induction cookies generalizing index with
  | nil => exact Program.within_pure Asks.refl ()
  | cons cookie rest ih =>
      refine .bind Asks.trans (within_record rfl) fun _ => ?_
      split
      next => exact ih (index + 1)
      next => exact Program.within_fail Asks.refl ()

theorem within_awaitAbsence (remaining : Nat → Option (List BrowserCookie)) (index left : Nat) :
    (SecureWebviewOwner.awaitAbsence remaining index left :
      Program (OwnerState V) Unit Bool).Within Asks := by
  induction left generalizing index with
  | zero => exact Program.within_pure Asks.refl false
  | succ left ih =>
      refine .bind Asks.trans (within_record rfl) fun _ => ?_
      split
      next => exact Program.within_fail Asks.refl ()
      next cookies =>
        split
        next => exact ih (index + 1)
        next => exact Program.within_pure Asks.refl true

theorem within_deleteSessionCookie (answers : WindowAnswers) :
    (SecureWebviewOwner.deleteSessionCookie answers :
      Program (OwnerState V) Unit Bool).Within Asks := by
  refine .bind Asks.trans (within_record rfl) fun _ => ?_
  split
  next => exact Program.within_fail Asks.refl ()
  next cookies =>
    exact .bind Asks.trans (within_deleteCookies _ _ _) fun _ =>
      within_awaitAbsence _ _ _

theorem deleteCookies_ok {deleted : Nat → Bool} {index : Nat} {cookies : List BrowserCookie}
    (hrun : SecureWebviewOwner.deleteCookies deleted index cookies state = (.ok (), next)) :
    ∀ other < cookies.length, deleted (index + other) = true := by
  induction cookies generalizing index state with
  | nil => exact fun _ hother => absurd hother (Nat.not_lt_zero _)
  | cons cookie rest ih =>
      obtain ⟨_, recorded, -, hrest⟩ := Program.bind_eq_ok_iff.mp hrun
      split at hrest
      next hdeleted =>
        intro other hother
        cases other with
        | zero => exact hdeleted
        | succ other =>
            have hlater := ih hrest other (Nat.lt_of_succ_lt_succ hother)
            rwa [Nat.add_assoc, Nat.add_comm 1 other] at hlater
      next => exact absurd hrest Program.fail_ne_ok

theorem awaitAbsence_ok {remaining : Nat → Option (List BrowserCookie)} {index left : Nat}
    (hrun : SecureWebviewOwner.awaitAbsence remaining index left state = (.ok true, next)) :
    ∃ other < left, ∃ cookies, remaining (index + other) = some cookies ∧
      cookies.any isSessionCookie = false := by
  induction left generalizing index state with
  | zero =>
      obtain ⟨hfalse, -⟩ := Program.pure_eq_ok_iff.mp hrun
      cases hfalse
  | succ left ih =>
      obtain ⟨_, recorded, -, hrest⟩ := Program.bind_eq_ok_iff.mp hrun
      cases hcookies : remaining index with
      | none =>
          rw [hcookies] at hrest
          exact absurd hrest Program.fail_ne_ok
      | some cookies =>
          rw [hcookies] at hrest
          dsimp only at hrest
          split at hrest
          next =>
            obtain ⟨other, hother, found, hfound, habsent⟩ := ih hrest
            refine ⟨other + 1, Nat.succ_lt_succ hother, found, ?_, habsent⟩
            rwa [Nat.add_assoc, Nat.add_comm 1 other] at hfound
          next hnone =>
            exact ⟨0, Nat.succ_pos left, cookies, hcookies, Bool.not_eq_true _ ▸ hnone⟩

theorem deleteSessionCookie_ok
    (hrun : SecureWebviewOwner.deleteSessionCookie answers state = (.ok true, next)) :
    answers.DeletesSession := by
  obtain ⟨_, recorded, -, hrest⟩ := Program.bind_eq_ok_iff.mp hrun
  cases hcookies : answers.cookies with
  | none =>
      rw [hcookies] at hrest
      exact absurd hrest Program.fail_ne_ok
  | some cookies =>
      rw [hcookies] at hrest
      obtain ⟨_, deleted, hdeleted, habsent⟩ := Program.bind_eq_ok_iff.mp hrest
      refine ⟨⟨cookies, hcookies, fun index hindex => ?_⟩, ?_⟩
      · have hone := deleteCookies_ok hdeleted index hindex
        rwa [Nat.zero_add] at hone
      · obtain ⟨index, hindex, found, hfound, hnone⟩ := awaitAbsence_ok habsent
        rw [Nat.zero_add] at hfound
        exact ⟨index, hindex, found, hfound, hnone⟩

end Calls

/-! ## What an operation leaves -/

section Operations

variable {parent path : WindowsPath} {state : OwnerState V} {answers : WindowAnswers}
  {start : Nat} {attempts : List Attempt}

theorem Closed.append {calls later : List NativeCall} (hclosed : Closed path calls)
    (hlater : ∀ call ∈ later, call = .removeDirAll path) : Closed path (calls ++ later) := by
  obtain ⟨live, removals, rfl, hlive, hremovals⟩ := hclosed
  refine ⟨live, removals ++ later, by simp, hlive, fun call hcall => ?_⟩
  obtain hcall | hcall := List.mem_append.mp hcall
  · exact hremovals call hcall
  · exact hlater call hcall

theorem removeLoop_profile (profile : ScopedProfile) (path : WindowsPath) (deadline : Nat)
    (attempts : List Attempt) :
    (removeLoop profile path deadline attempts).profile =
        (if (removeLoop profile path deadline attempts).result = some (.ok ()) then
          { profile with path := none } else profile) ∧
      ∀ removed ∈ (removeLoop profile path deadline attempts).removals, removed = path := by
  induction attempts with
  | nil => exact ⟨rfl, List.forall_mem_nil _⟩
  | cons attempt rest ih =>
      have honce : ∀ removed ∈ (removeProfileOnce profile.parent path attempt).2,
          removed = path := fun removed hremoved => (Attempt.mem_removals hremoved).1
      rw [removeLoop]
      split
      next => exact ⟨rfl, honce⟩
      next => exact ⟨rfl, honce⟩
      next =>
        refine ⟨ih.1, fun removed hremoved => ?_⟩
        obtain hremoved | hremoved := List.mem_append.mp hremoved
        · exact honce removed hremoved
        · exact ih.2 removed hremoved

/-- What a bounded removal leaves of a profile that is at `path`, or was there. -/
theorem removeBounded_leaves {profile : ScopedProfile} (start : Nat) (attempts : List Attempt)
    (timeout : Nat) (hprofile : profile = ⟨parent, some path⟩ ∨ profile = ⟨parent, none⟩) :
    ((removeBounded profile timeout start attempts).profile = ⟨parent, some path⟩ ∨
        (removeBounded profile timeout start attempts).profile = ⟨parent, none⟩) ∧
      ((removeBounded profile timeout start attempts).result = some (.ok ()) →
        (removeBounded profile timeout start attempts).profile.path = none) ∧
      ∀ removed ∈ (removeBounded profile timeout start attempts).removals, removed = path := by
  obtain rfl | rfl := hprofile
  · obtain ⟨hleft, hremovals⟩ := removeLoop_profile ⟨parent, some path⟩ path (start + timeout)
      attempts
    rw [show removeBounded ⟨parent, some path⟩ timeout start attempts =
      removeLoop ⟨parent, some path⟩ path (start + timeout) attempts from rfl, hleft]
    refine ⟨?_, fun hok => by rw [if_pos hok], hremovals⟩
    split
    · exact .inr rfl
    · exact .inl rfl
  · exact ⟨.inr rfl, fun _ => rfl, List.forall_mem_nil _⟩

theorem ensures_removeProfile (hwindow : state.owner.window = none)
    (hprofile : state.owner.profile = ⟨parent, some path⟩ ∨ state.owner.profile = ⟨parent, none⟩)
    (hclosed : Closed path state.calls) :
    (SecureWebviewOwner.removeProfile start attempts).Ensures state
      (fun removed next => next.owner.window = none ∧ Tidy parent path next ∧
        (removed = .ok () → next.owner.profile.path = none ∧
          (state.owner.profile = ⟨parent, some path⟩ →
            ∃ attempt ∈ attempts, attempt.present = false)))
      fun stop _ => stop = .running := by
  obtain ⟨hleft, hok, hremovals⟩ := removeBounded_leaves start attempts
    state.owner.profileCleanupTimeout hprofile
  refine Program.ensures_bind_of_eq (s := state) rfl ?_
  refine Program.ensures_bind_of_eq (a := ()) rfl ?_
  have hgone : (removeBounded state.owner.profile state.owner.profileCleanupTimeout start
      attempts).result = some (.ok ()) → state.owner.profile = ⟨parent, some path⟩ →
        ∃ attempt ∈ attempts, attempt.present = false := by
    intro hremoved hsome
    rw [hsome] at hremoved
    exact gone_of_removed hremoved
  generalize removeBounded state.owner.profile state.owner.profileCleanupTimeout start attempts =
    cleanup at hleft hok hremovals hgone ⊢
  have htidy : Tidy parent path (⟨{ state.owner with profile := cleanup.profile },
      state.calls ++ cleanup.removals.map .removeDirAll⟩ : OwnerState V) := by
    refine .closed hwindow hleft (hclosed.append fun call hcall => ?_)
    obtain ⟨removed, hremoved, rfl⟩ := List.mem_map.mp hcall
    rw [hremovals removed hremoved]
  cases hresult : cleanup.result with
  | none => exact rfl
  | some result =>
      exact ⟨hwindow, htidy, fun heq => ⟨hok (heq ▸ hresult), hgone (heq ▸ hresult)⟩⟩

theorem ensures_closeWindow (htidy : Tidy parent path state) :
    (SecureWebviewOwner.closeWindow answers).Ensures state
      (fun flags next => next.owner.window = none ∧
        (next.owner.profile = ⟨parent, some path⟩ ∨ next.owner.profile = ⟨parent, none⟩) ∧
        Closed path next.calls ∧
        (flags = (true, true, true) → state.owner.window ≠ none ∧
          next.owner.profile = ⟨parent, some path⟩ ∧ answers.DeletesSession ∧
          answers.cleared = true ∧ answers.destroyed = true))
      fun _ _ => False := by
  refine Program.ensures_bind_of_eq (s := state) rfl ?_
  cases htidy with
  | closed hwindow hprofile hclosed =>
      rw [hwindow]
      refine ⟨hwindow, hprofile, hclosed, fun hflags => ?_⟩
      cases hflags
  | «open» window hwindow hprofile hlive =>
      rw [hwindow]
      refine Program.ensures_bind_of_eq (a := ()) rfl ?_
      set taken : OwnerState V := { state with owner := { state.owner with window := none } }
      rcases hdelete : SecureWebviewOwner.deleteSessionCookie answers taken with ⟨deleted, asked⟩
      obtain ⟨howner, live, hcalls, hall⟩ := (within_deleteSessionCookie answers).moved hdelete
      refine Program.ensures_bind_of_eq (Program.attempt_eq_ok_iff.mpr hdelete) ?_
      refine Program.ensures_bind_of_eq (a := ()) rfl (Program.ensures_bind_of_eq (a := ()) rfl ?_)
      have hkept := (congrArg SecureWebviewOwner.profile howner).trans hprofile
      refine ⟨congrArg SecureWebviewOwner.window howner, .inl hkept,
        ⟨state.calls ++ live ++ [.clearAllBrowsingData], [], ?_, ?_, List.forall_mem_nil _⟩,
        fun hflags => ?_⟩
      · exact congrArg (· ++ [.clearAllBrowsingData] ++ [.destroy]) hcalls
      · intro call hcall
        simp only [List.mem_append, List.mem_singleton] at hcall
        obtain (hcall | hcall) | rfl := hcall
        · exact hlive call hcall
        · exact hall call hcall
        · rfl
      · obtain ⟨hdeleted, hcleared, hdestroyed⟩ := by simpa using hflags
        subst hdeleted
        exact ⟨by simp, hkept, deleteSessionCookie_ok hdelete, hcleared, hdestroyed⟩

/-- What a report stands for: what the window answered, and that the profile was seen gone. -/
structure Reported (answers : WindowAnswers) (attempts : List Attempt)
    (report : WebviewShutdownReport) : Prop where
  complete : report = ⟨true, true, true, true⟩
  session : answers.DeletesSession
  cleared : answers.cleared = true
  destroyed : answers.destroyed = true
  removed : ∃ attempt ∈ attempts, attempt.present = false

theorem ensures_shutdown (htidy : Tidy parent path state) :
    (SecureWebviewOwner.shutdown answers start attempts).Ensures state
      (fun report next => Tidy parent path next ∧ Over next ∧ state.owner.window ≠ none ∧
        Reported answers attempts report)
      fun stop next => stop = .running ∨ (Tidy parent path next ∧ next.owner.window = none) := by
  refine Program.ensures_bind_of_eq (s := state) rfl ?_
  split
  next hover =>
    rw [Bool.and_eq_true, Option.isNone_iff_eq_none] at hover
    exact .inr ⟨htidy, hover.1⟩
  next =>
    refine .bind (.mono (ensures_closeWindow htidy) (fun _ _ h => h) fun _ _ h => h.elim) ?_
    rintro ⟨absent, cleared, destroyed⟩ closed ⟨hwindow, hprofile, hclosed, hflags⟩
    refine .bind (.mono (ensures_removeProfile hwindow hprofile hclosed) (fun _ _ h => h)
      fun _ _ => .inl) ?_
    rintro removed left ⟨hgone, hleft, hremoved⟩
    dsimp only
    split
    next hreport =>
      simp only [WebviewShutdownReport.mk.injEq, beq_iff_eq] at hreport
      obtain ⟨rfl, rfl, rfl, rfl⟩ := hreport
      obtain ⟨hsome, hprofile, hdeletes, hcleared, hdestroyed⟩ := hflags rfl
      obtain ⟨hnone, habsent⟩ := hremoved rfl
      exact ⟨hleft, ⟨hgone, hnone⟩, hsome, rfl, hdeletes, hcleared, hdestroyed,
        habsent hprofile⟩
    next => exact .inr ⟨hleft, hgone⟩

theorem ensures_retryProfileCleanup (htidy : Tidy parent path state) :
    (SecureWebviewOwner.retryProfileCleanup start attempts).Ensures state
      (fun _ next => Tidy parent path next ∧ next.owner.window = none)
      fun stop next => stop = .running ∨
        (Tidy parent path next ∧ (state.owner.window = none → next.owner.window = none)) := by
  refine Program.ensures_bind_of_eq (s := state) rfl ?_
  split
  next => exact .inr ⟨htidy, id⟩
  next hclosed =>
    split
    next => exact .inr ⟨htidy, id⟩
    next =>
      cases htidy with
      | «open» window hwindow => exact absurd (by rw [hwindow]; rfl) hclosed
      | closed hwindow hprofile hcalls =>
          refine .bind (.mono (ensures_removeProfile hwindow hprofile hcalls) (fun _ _ h => h)
            fun _ _ => .inl) ?_
          rintro removed left ⟨hgone, hleft, -⟩
          cases removed with
          | ok _ => exact ⟨hleft, hgone⟩
          | error error => exact .inr ⟨hleft, fun _ => hgone⟩

theorem ensures_hide (htidy : Tidy parent path state) :
    (SecureWebviewOwner.hide answers).Ensures state
      (fun _ next => Tidy parent path next ∧ next.owner = state.owner)
      fun _ next => Tidy parent path next ∧ next.owner = state.owner := by
  refine Program.ensures_bind_of_eq (s := state) rfl ?_
  cases htidy with
  | closed hwindow hprofile hcalls =>
      rw [hwindow]
      exact ⟨.closed hwindow hprofile hcalls, rfl⟩
  | «open» window hwindow hprofile hlive =>
      rw [hwindow]
      refine Program.ensures_bind_of_eq (a := ()) rfl ?_
      have hrecorded : Tidy parent path { state with calls := state.calls ++ [.hide] } :=
        .open window hwindow hprofile fun call hcall => by
          obtain hcall | hcall := List.mem_append.mp hcall
          · exact hlive call hcall
          · rw [List.mem_singleton.mp hcall]
            rfl
      split
      next => exact ⟨hrecorded, rfl⟩
      next => exact ⟨hrecorded, rfl⟩

/-- What every operation leaves. The window is not there after a shutdown, nor again later. -/
structure Left (parent path : WindowsPath) (call : OwnerCall) (state next : OwnerState V) :
    Prop where
  tidy : Tidy parent path next
  window : state.owner.window = none ∨ call = .shutdown → next.owner.window = none

theorem ensures_run (answers : WindowAnswers) (start : Nat) (attempts : List Attempt)
    (call : OwnerCall) (htidy : Tidy parent path state) :
    (call.run answers start attempts).Ensures state
      (fun answer next => Left parent path call state next ∧ ∀ report, answer = some report →
        call = .shutdown ∧ Over next ∧ state.owner.window ≠ none ∧
          Reported answers attempts report)
      fun stop next => stop = .running ∨ Left parent path call state next := by
  have hnot : ∀ {call : OwnerCall} {next : OwnerState V}, call ≠ .shutdown →
      (state.owner.window = none → next.owner.window = none) →
        state.owner.window = none ∨ call = .shutdown → next.owner.window = none := by
    rintro call next hcall hkept (hnone | rfl)
    · exact hkept hnone
    · exact absurd rfl hcall
  cases call with
  | hide =>
      refine .bind (.mono (ensures_hide htidy) (fun _ _ h => h) fun _ next ⟨hleft, howner⟩ =>
        .inr ⟨hleft, hnot (by simp) fun hnone => howner ▸ hnone⟩) ?_
      rintro _ next ⟨hleft, howner⟩
      refine ⟨⟨hleft, hnot (by simp) fun hnone => howner ▸ hnone⟩, ?_⟩
      rintro report ⟨⟩
  | shutdown =>
      refine .bind (.mono (ensures_shutdown htidy) (fun _ _ h => h) fun _ next hfail =>
        hfail.imp id fun ⟨hleft, hgone⟩ => ⟨hleft, fun _ => hgone⟩) ?_
      rintro report next ⟨hleft, hover, hsome, hreported⟩
      refine ⟨⟨hleft, fun _ => hover.1⟩, ?_⟩
      rintro _ ⟨⟩
      exact ⟨rfl, hover, hsome, hreported⟩
  | retryProfileCleanup =>
      refine .bind (.mono (ensures_retryProfileCleanup htidy) (fun _ _ h => h) fun _ next hfail =>
        hfail.imp id fun ⟨hleft, hkept⟩ => ⟨hleft, hnot (by simp) hkept⟩) ?_
      rintro _ next ⟨hleft, hgone⟩
      refine ⟨⟨hleft, fun _ => hgone⟩, ?_⟩
      rintro report ⟨⟩

end Operations

/-! ## Runs end cleanly -/

variable {parent path : WindowsPath} {state next : OwnerState V} {answered : OwnerAnswered}
  {calls : List OwnerAnswered}

/-- One operation. -/
theorem OwnerStep.left (hstep : OwnerStep state answered next) (htidy : Tidy parent path state) :
    Left parent path answered.call state next ∧
      ∀ report, answered.outcome = .ok (some report) →
        answered.call = .shutdown ∧ Over next ∧ state.owner.window ≠ none ∧
          Reported answered.answers answered.attempts report := by
  have hrun := ensures_run answered.answers answered.start answered.attempts
    answered.call htidy
  unfold Program.Ensures at hrun
  rw [show answered.call.run answered.answers answered.start answered.attempts state = _
    from hstep] at hrun
  cases houtcome : answered.outcome with
  | ok answer =>
      rw [houtcome] at hrun
      exact ⟨hrun.1, fun report hreport => hrun.2 report (Except.ok.inj hreport)⟩
  | error error =>
      rw [houtcome] at hrun
      obtain hrunning | hleft := hrun
      · cases hrunning
      · exact ⟨hleft, fun report hreport => by cases hreport⟩

/-- An owner without a window and a profile refuses everything. -/
theorem OwnerStep.over (hstep : OwnerStep state answered next) (hover : Over state) :
    next = state ∧ answered.outcome = .error .ownerNotRunning := by
  obtain ⟨call, answers, start, attempts, outcome⟩ := answered
  obtain ⟨⟨window, profile, timeout⟩, made⟩ := state
  obtain ⟨rfl, hpath⟩ := hover
  obtain ⟨parent, path⟩ := profile
  obtain rfl : path = none := hpath
  have hrefused : call.run answers start attempts
      (⟨⟨none, ⟨parent, none⟩, timeout⟩, made⟩ : OwnerState V) =
        (.error (.failed .ownerNotRunning), ⟨⟨none, ⟨parent, none⟩, timeout⟩, made⟩) := by
    cases call <;> rfl
  obtain ⟨houtcome, rfl⟩ := Prod.mk.inj (hrefused.symm.trans hstep)
  refine ⟨rfl, ?_⟩
  cases outcome with
  | ok answer => cases houtcome
  | error error =>
      cases houtcome
      rfl

theorem tidy_of_run (hrun : Run OwnerStep state calls next) (htidy : Tidy parent path state) :
    Tidy parent path next := by
  refine hrun.invariant ?_ htidy
  intro _ _ _ hbefore hstep
  exact (OwnerStep.left hstep hbefore).1.tidy

theorem window_of_run (hrun : Run OwnerStep state calls next) (htidy : Tidy parent path state)
    (hwindow : state.owner.window = none ∨ ∃ answered ∈ calls, answered.call = .shutdown) :
    next.owner.window = none := by
  induction hrun with
  | nil =>
      obtain hnone | ⟨answered, hmem, -⟩ := hwindow
      · exact hnone
      · cases hmem
  | cons hstep hrest ih =>
      obtain ⟨hleft, -⟩ := OwnerStep.left hstep htidy
      refine ih hleft.tidy ?_
      obtain hnone | ⟨answered, hmem, hcall⟩ := hwindow
      · exact .inl (hleft.window (.inl hnone))
      · obtain rfl | hmem := List.mem_cons.mp hmem
        · exact .inl (hleft.window (.inr hcall))
        · exact .inr ⟨answered, hmem, hcall⟩

theorem over_of_run (hrun : Run OwnerStep state calls next) (hover : Over state) :
    next = state ∧ ∀ answered ∈ calls, answered.outcome = .error .ownerNotRunning := by
  induction hrun with
  | nil => exact ⟨rfl, List.forall_mem_nil _⟩
  | cons hstep hrest ih =>
      obtain ⟨rfl, houtcome⟩ := OwnerStep.over hstep hover
      obtain ⟨hsame, hrefused⟩ := ih hover
      exact ⟨hsame, List.forall_mem_cons.mpr ⟨houtcome, hrefused⟩⟩

theorem closed_drop (htidy : Tidy parent path state) (attempt : Attempt) :
    Closed path (SecureWebviewOwner.drop attempt state).calls := by
  have honce : ∀ call ∈ (removeProfileOnce parent path attempt).2.map NativeCall.removeDirAll,
      call = .removeDirAll path := by
    intro call hcall
    obtain ⟨removed, hremoved, rfl⟩ := List.mem_map.mp hcall
    rw [(Attempt.mem_removals hremoved).1]
  cases htidy with
  | «open» window hwindow hprofile hlive =>
      simp only [SecureWebviewOwner.drop, hwindow, hprofile]
      refine ⟨state.calls ++ [.hide], _, ?_, ?_, honce⟩
      · simp
      · intro call hcall
        obtain hcall | hcall := List.mem_append.mp hcall
        · exact hlive call hcall
        · rw [List.mem_singleton.mp hcall]
          rfl
  | closed hwindow hprofile hcalls =>
      obtain hprofile | hprofile := hprofile
      · simp only [SecureWebviewOwner.drop, hwindow, hprofile, List.append_nil]
        exact hcalls.append honce
      · simp only [SecureWebviewOwner.drop, hwindow, hprofile, List.append_nil]
        exact hcalls

/-- Dropping an owner that has nothing left does nothing. -/
theorem drop_over (hover : Over state) (attempt : Attempt) :
    (SecureWebviewOwner.drop attempt state).calls = state.calls := by
  simp only [SecureWebviewOwner.drop, hover.1, hover.2, List.append_nil]

/-- In every run of an owner, from its launch to its drop, the window is destroyed exactly
once. It is asked for nothing afterwards, and only then is something removed, which is the
directory of the profile. A report comes from the first shutdown alone: the session cookie was
deleted and seen to be gone, everything was answered well, the profile was seen gone, and
nothing is left to be done. -/
theorem owner_runs_end_cleanly {window : V} {timeout : Nat}
    (hrun : Run OwnerStep (launchedOwner window parent path timeout) calls state)
    (attempt : Attempt) :
    Closed path (SecureWebviewOwner.drop attempt state).calls ∧
      ∀ before answered after report, calls = before ++ answered :: after →
        answered.outcome = .ok (some report) →
          answered.call = .shutdown ∧ Reported answered.answers answered.attempts report ∧
            (∀ earlier ∈ before, earlier.call ≠ .shutdown) ∧
            (∀ later ∈ after, later.outcome = .error .ownerNotRunning) ∧
            (SecureWebviewOwner.drop attempt state).calls = state.calls := by
  have hstart : Tidy parent path (launchedOwner window parent path timeout) :=
    .open window rfl rfl (List.forall_mem_nil _)
  refine ⟨closed_drop (tidy_of_run hrun hstart) attempt, ?_⟩
  rintro before answered after report rfl hreport
  obtain ⟨middle, hbefore, hrest⟩ := hrun.split
  cases hrest with
  | cons hstep hafter =>
      obtain ⟨-, hfacts⟩ := OwnerStep.left hstep (tidy_of_run hbefore hstart)
      obtain ⟨hcall, hover, hsome, hreported⟩ := hfacts report hreport
      obtain ⟨rfl, hrefused⟩ := over_of_run hafter hover
      refine ⟨hcall, hreported, fun earlier hearlier hcall => hsome ?_, hrefused, ?_⟩
      · exact window_of_run hbefore hstart (.inr ⟨earlier, hearlier, hcall⟩)
      · exact drop_over hover attempt

/-! ## A clean shutdown -/

def profileParent : WindowsPath := ⟨[.pathPrefix (.unc [65] [66]), .rootDir]⟩

def profilePath : WindowsPath :=
  ⟨[.pathPrefix (.unc [65] [66]), .rootDir, .normal (osString "rpackit-webview-a1")]⟩

/-- The directory is there, and is removed. -/
def removingAttempt : Attempt where
  tryExists := .ok true
  symlinkMetadata := .ok ⟨true, 0⟩
  removeDirAll := .ok ()
  joined := true
  now := 300
  present := false
  missing_gone := fun _ => rfl
  removed_gone := fun _ _ => rfl
  notFound_gone := fun _ _ => rfl

/-- The window had the session cookie, and lists none after its deletion. -/
def calmWindow : WindowAnswers where
  hidden := true
  cookies := some [exactCookie]
  deleted := fun _ => true
  remaining := fun _ => some []
  cleared := true
  destroyed := true

def cleanCalls : List OwnerAnswered :=
  [⟨.hide, calmWindow, 0, [], .ok none⟩,
    ⟨.shutdown, calmWindow, 10, [removingAttempt], .ok (some ⟨true, true, true, true⟩)⟩,
    ⟨.shutdown, calmWindow, 20, [], .error .ownerNotRunning⟩]

def cleanState : OwnerState Unit where
  owner := ⟨none, ⟨profileParent, none⟩, 1000⟩
  calls := [.hide, .cookiesForUrl, .deleteCookie exactCookie, .cookiesForUrl,
    .clearAllBrowsingData, .destroy, .removeDirAll profilePath]

theorem clean_run :
    Run OwnerStep (launchedOwner () profileParent profilePath 1000) cleanCalls cleanState :=
  .cons rfl (.cons rfl (.single rfl))

theorem owner_runs_end_cleanly_clean :
    Closed profilePath (SecureWebviewOwner.drop removingAttempt cleanState).calls ∧
      Reported calmWindow [removingAttempt] ⟨true, true, true, true⟩ := by
  have hends := owner_runs_end_cleanly clean_run removingAttempt
  exact ⟨hends.1, (hends.2 [_] _ [_] _ rfl rfl).2.1⟩

end Rpackit.Webview
