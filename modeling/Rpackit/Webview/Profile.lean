import Rpackit.Library.WindowsPath

/-! # Removal of the profile directory

While the handles of the browser close, the directory of its profile cannot always be
removed. The owner tries again until a deadline. The system is free in its answers; each
attempt has those that it gets if it asks.
-/

namespace Rpackit.Webview

/-- The failures of `WebviewError` that the removal has. -/
inductive WebviewError where
  | unsafeProfilePath
  | profileCleanupWorker
  | profileCleanup
  deriving DecidableEq, Repr

inductive IoErrorKind where
  | notFound
  | permissionDenied
  | other (code : UInt32)
  deriving DecidableEq, Repr

structure ProfileMetadata where
  isDir : Bool
  fileAttributes : UInt32
  deriving DecidableEq, Repr

structure ScopedProfile where
  parent : WindowsPath
  path : Option WindowsPath
  deriving DecidableEq, Repr

/-! ## One attempt -/

/-- What one attempt finds: the answers to `try_exists`, `symlink_metadata` and
`remove_dir_all`, whether its task is joined, the clock after it, and whether the directory
is still there. The answers that say that it is gone are right. -/
structure Attempt where
  tryExists : Except IoErrorKind Bool
  symlinkMetadata : Except IoErrorKind ProfileMetadata
  removeDirAll : Except IoErrorKind Unit
  joined : Bool
  now : Nat
  present : Bool
  missing_gone : tryExists = .ok false → present = false
  removed_gone : tryExists = .ok true → removeDirAll = .ok () → present = false
  notFound_gone : tryExists = .ok true → removeDirAll = .error .notFound → present = false

def profilePrefix : OsString := osString "rpackit-webview-"

def reparsePointAttribute : UInt32 := 0x400

def isReparsePoint (metadata : ProfileMetadata) : Bool :=
  metadata.fileAttributes &&& reparsePointAttribute != 0

/-- An ASCII letter, a digit or a hyphen; a name of other characters is refused in any encoding. -/
def isProfileCharacter (c : UInt16) : Bool :=
  (0x30 ≤ c && c ≤ 0x39) || (0x41 ≤ c && c ≤ 0x5A) || (0x61 ≤ c && c ≤ 0x7A) || c == 0x2D

def profilePathIsAllowed (parent path : WindowsPath)
    (symlinkMetadata : Except IoErrorKind ProfileMetadata) : Bool :=
  if path.parent ≠ some parent then false
  else match path.fileName with
    | none => false
    | some name =>
        if !profilePrefix.isPrefixOf name || decide (name.length ≤ profilePrefix.length) ||
            !name.all isProfileCharacter then false
        else match symlinkMetadata with
          | .error _ => false
          | .ok metadata => metadata.isDir && !isReparsePoint metadata

/-- The outcome of an attempt, and the paths that it gave to `remove_dir_all`. -/
def removeProfileOnce (parent path : WindowsPath) (attempt : Attempt) :
    Except IoErrorKind Unit × List WindowsPath :=
  match attempt.tryExists with
  | .error kind => (.error kind, [])
  | .ok false => (.ok (), [])
  | .ok true =>
      if profilePathIsAllowed parent path attempt.symlinkMetadata then
        match attempt.removeDirAll with
        | .ok () => (.ok (), [path])
        | .error .notFound => (.ok (), [path])
        | .error kind => (.error kind, [path])
      else (.error .permissionDenied, [])

/-! ## The loop -/

/-- The `match` of the loop; nothing for another attempt. -/
def settle (deadline : Nat) (attempt : Attempt) (answer : Except IoErrorKind Unit) :
    Option (Except WebviewError Unit) :=
  if attempt.joined then
    match answer with
    | .ok () => some (.ok ())
    | .error .permissionDenied => some (.error .unsafeProfilePath)
    | .error _ => if deadline ≤ attempt.now then some (.error .profileCleanup) else none
  else some (.error .profileCleanupWorker)

section Settle

variable {deadline : Nat} {attempt : Attempt} {answer : Except IoErrorKind Unit}
  {kind : IoErrorKind}

/-- Only a denial ends the loop before its deadline. -/
theorem settle_transient (hjoined : attempt.joined = true) (hkind : kind ≠ .permissionDenied) :
    settle deadline attempt (.error kind) =
      if deadline ≤ attempt.now then some (.error .profileCleanup) else none := by
  rw [settle, if_pos hjoined]
  exact hkind

theorem settle_eq_ok_iff :
    settle deadline attempt answer = some (.ok ()) ↔ attempt.joined = true ∧ answer = .ok () := by
  cases hjoined : attempt.joined with
  | false => simp [settle, hjoined]
  | true =>
      cases answer with
      | ok u => simp [settle, hjoined]
      | error kind =>
          by_cases hkind : kind = .permissionDenied
          · simp [settle, hjoined, hkind]
          · rw [settle_transient hjoined hkind]
            split <;> simp

theorem settle_eq_unsafe_iff :
    settle deadline attempt answer = some (.error .unsafeProfilePath) ↔
      attempt.joined = true ∧ answer = .error .permissionDenied := by
  cases hjoined : attempt.joined with
  | false => simp [settle, hjoined]
  | true =>
      cases answer with
      | ok u => simp [settle, hjoined]
      | error kind =>
          by_cases hkind : kind = .permissionDenied
          · simp [settle, hjoined, hkind]
          · rw [settle_transient hjoined hkind]
            split <;> simp [hkind]

end Settle

/-- What a call did so far. It has no result while it still waits for another attempt. -/
structure Cleanup where
  result : Option (Except WebviewError Unit)
  profile : ScopedProfile
  removals : List WindowsPath
  deriving DecidableEq, Repr

def removeLoop (profile : ScopedProfile) (path : WindowsPath) (deadline : Nat) :
    List Attempt → Cleanup
  | [] => ⟨none, profile, []⟩
  | attempt :: rest =>
      let once := removeProfileOnce profile.parent path attempt
      match settle deadline attempt once.1 with
      | some (.ok ()) => ⟨some (.ok ()), { profile with path := none }, once.2⟩
      | some (.error error) => ⟨some (.error error), profile, once.2⟩
      | none =>
          let later := removeLoop profile path deadline rest
          { later with removals := once.2 ++ later.removals }

/-- `remove_bounded` from the instant `start`, over the attempts that the system answers. -/
def removeBounded (profile : ScopedProfile) (timeout start : Nat) (attempts : List Attempt) :
    Cleanup :=
  match profile.path with
  | none => ⟨some (.ok ()), profile, []⟩
  | some path => removeLoop profile path (start + timeout) attempts

/-! ## Attempts that go on and the one that does not -/

section Loop

variable {profile : ScopedProfile} {path : WindowsPath} {deadline : Nat}
  {before after attempts : List Attempt} {attempt : Attempt}

/-- The loop makes another attempt after this one. -/
def Retried (profile : ScopedProfile) (path : WindowsPath) (deadline : Nat)
    (attempt : Attempt) : Prop :=
  settle deadline attempt (removeProfileOnce profile.parent path attempt).1 = none

/-- The attempts that are made: up to the first that is not retried. -/
def attemptsMade (profile : ScopedProfile) (path : WindowsPath) (deadline : Nat) :
    List Attempt → List Attempt
  | [] => []
  | attempt :: rest =>
      match settle deadline attempt (removeProfileOnce profile.parent path attempt).1 with
      | some _ => [attempt]
      | none => attempt :: attemptsMade profile path deadline rest

/-- Every run goes on to its end, or stops at an attempt. -/
theorem run_cases (profile : ScopedProfile) (path : WindowsPath) (deadline : Nat)
    (attempts : List Attempt) :
    (∀ attempt ∈ attempts, Retried profile path deadline attempt) ∨
      ∃ before attempt after, attempts = before ++ attempt :: after ∧
        (∀ earlier ∈ before, Retried profile path deadline earlier) ∧
          ¬Retried profile path deadline attempt := by
  induction attempts with
  | nil => exact .inl (List.forall_mem_nil _)
  | cons attempt rest ih =>
      by_cases hretried : Retried profile path deadline attempt
      · rcases ih with hall | ⟨before, last, after, hrest, hbefore, hlast⟩
        · exact .inl (List.forall_mem_cons.mpr ⟨hretried, hall⟩)
        · refine .inr ⟨attempt :: before, last, after, ?_, ?_, hlast⟩
          · rw [hrest, List.cons_append]
          · exact List.forall_mem_cons.mpr ⟨hretried, hbefore⟩
      · exact .inr ⟨[], attempt, rest, rfl, List.forall_mem_nil _, hretried⟩

theorem removeLoop_retried (hbefore : ∀ earlier ∈ before, Retried profile path deadline earlier)
    (after : List Attempt) :
    removeLoop profile path deadline (before ++ after) =
      { removeLoop profile path deadline after with
        removals := (before.flatMap fun earlier =>
          (removeProfileOnce profile.parent path earlier).2) ++
            (removeLoop profile path deadline after).removals } := by
  induction before with
  | nil => rfl
  | cons earlier rest ih =>
      obtain ⟨hearlier, hrest⟩ := List.forall_mem_cons.mp hbefore
      rw [List.cons_append, removeLoop, show settle deadline earlier _ = none from hearlier,
        ih hrest, List.flatMap_cons, List.append_assoc]

theorem attemptsMade_retried
    (hbefore : ∀ earlier ∈ before, Retried profile path deadline earlier) (after : List Attempt) :
    attemptsMade profile path deadline (before ++ after) =
      before ++ attemptsMade profile path deadline after := by
  induction before with
  | nil => rfl
  | cons earlier rest ih =>
      obtain ⟨hearlier, hrest⟩ := List.forall_mem_cons.mp hbefore
      rw [List.cons_append, attemptsMade, show settle deadline earlier _ = none from hearlier,
        ih hrest]
      rfl

/-- The result of the attempt that the loop stops at. -/
theorem removeLoop_stops (hstops : ¬Retried profile path deadline attempt)
    (after : List Attempt) :
    ∃ result, settle deadline attempt (removeProfileOnce profile.parent path attempt).1 =
        some result ∧
      removeLoop profile path deadline (attempt :: after) =
        ⟨some result, if result = .ok () then { profile with path := none } else profile,
          (removeProfileOnce profile.parent path attempt).2⟩ ∧
      attemptsMade profile path deadline (attempt :: after) = [attempt] := by
  cases hsettle : settle deadline attempt (removeProfileOnce profile.parent path attempt).1 with
  | none => exact absurd hsettle hstops
  | some result =>
      refine ⟨result, rfl, ?_, ?_⟩
      · rw [removeLoop, hsettle]
        cases result with
        | ok u => rfl
        | error error => rfl
      · rw [attemptsMade, hsettle]

end Loop

/-! ## What an attempt meets -/

namespace Attempt

/-- The path is not the scoped directory any more, or that cannot be told. -/
def ScopeFailed (parent path : WindowsPath) (attempt : Attempt) : Prop :=
  attempt.tryExists = .ok true ∧
    profilePathIsAllowed parent path attempt.symlinkMetadata = false

/-- The system fails a call of the removal. -/
def OsError (parent path : WindowsPath) (attempt : Attempt) (kind : IoErrorKind) : Prop :=
  attempt.tryExists = .error kind ∨
    (attempt.tryExists = .ok true ∧
      profilePathIsAllowed parent path attempt.symlinkMetadata = true ∧
        attempt.removeDirAll = .error kind ∧ kind ≠ .notFound)

variable {parent path : WindowsPath} {attempt : Attempt} {kind : IoErrorKind}

theorem ScopeFailed.once (hscope : attempt.ScopeFailed parent path) :
    removeProfileOnce parent path attempt = (.error .permissionDenied, []) := by
  rw [removeProfileOnce, hscope.1]
  simp only [hscope.2, Bool.false_eq_true, if_false]

theorem OsError.once (herror : attempt.OsError parent path kind) :
    (removeProfileOnce parent path attempt).1 = .error kind := by
  rcases herror with hexists | ⟨hexists, hallowed, hremove, hkind⟩
  · rw [removeProfileOnce, hexists]
  · rw [removeProfileOnce, hexists]
    cases kind with
    | notFound => exact absurd rfl hkind
    | permissionDenied => simp only [hallowed, if_true, hremove]
    | other code => simp only [hallowed, if_true, hremove]

theorem OsError.not_scopeFailed (herror : attempt.OsError parent path kind) :
    ¬attempt.ScopeFailed parent path := by
  intro hscope
  rcases herror with hexists | ⟨-, hallowed, -⟩
  · rw [hscope.1] at hexists
    cases hexists
  · rw [hscope.2] at hallowed
    cases hallowed

/-- An attempt removes the directory or finds it gone, fails the check, or meets an error of
the system; it removes only what passed the check. -/
theorem once_cases (parent path : WindowsPath) (attempt : Attempt) :
    ((removeProfileOnce parent path attempt).1 = .ok () ∧ attempt.present = false) ∨
      attempt.ScopeFailed parent path ∨ ∃ kind, attempt.OsError parent path kind := by
  cases hexists : attempt.tryExists with
  | error kind => exact .inr (.inr ⟨kind, .inl hexists⟩)
  | ok found =>
      cases found with
      | false =>
          rw [removeProfileOnce, hexists]
          exact .inl ⟨rfl, attempt.missing_gone hexists⟩
      | true =>
          cases hallowed : profilePathIsAllowed parent path attempt.symlinkMetadata with
          | false => exact .inr (.inl ⟨hexists, hallowed⟩)
          | true =>
              cases hremove : attempt.removeDirAll with
              | ok u =>
                  have honce : (removeProfileOnce parent path attempt).1 = .ok () := by
                    rw [removeProfileOnce, hexists]
                    simp only [hallowed, if_true, hremove]
                  exact .inl ⟨honce, attempt.removed_gone hexists hremove⟩
              | error kind =>
                  by_cases hkind : kind = .notFound
                  · rw [hkind] at hremove
                    have honce : (removeProfileOnce parent path attempt).1 = .ok () := by
                      rw [removeProfileOnce, hexists]
                      simp only [hallowed, if_true, hremove]
                    exact .inl ⟨honce, attempt.notFound_gone hexists hremove⟩
                  · exact .inr (.inr ⟨kind, .inr ⟨hexists, hallowed, hremove, hkind⟩⟩)

theorem mem_removals {removed : WindowsPath}
    (hremoved : removed ∈ (removeProfileOnce parent path attempt).2) :
    removed = path ∧ profilePathIsAllowed parent path attempt.symlinkMetadata = true := by
  unfold removeProfileOnce at hremoved
  split at hremoved
  · cases hremoved
  · cases hremoved
  · split at hremoved
    next hallowed =>
      split at hremoved
      all_goals exact ⟨List.mem_singleton.mp hremoved, hallowed⟩
    next => cases hremoved

end Attempt

/-! ## A bounded removal -/

section Bounded

variable {parent path : WindowsPath} {timeout start : Nat}
  {before after attempts : List Attempt} {attempt : Attempt} {kind : IoErrorKind}

/-- The system fails an attempt, and its deadline is still to come. -/
def FailsInTime (parent path : WindowsPath) (deadline : Nat) (attempt : Attempt) : Prop :=
  attempt.joined = true ∧ (∃ kind, attempt.OsError parent path kind) ∧ attempt.now < deadline

/-- The attempts of a call. -/
abbrev callAttempts (parent path : WindowsPath) (timeout start : Nat) (attempts : List Attempt) :
    List Attempt :=
  attemptsMade ⟨parent, some path⟩ path (start + timeout) attempts

/-- What a bounded removal promises, over whatever its attempts meet. -/
structure CleansUp (parent path : WindowsPath) (timeout start : Nat) (attempts : List Attempt) :
    Prop where
  unsafe_only : (removeBounded ⟨parent, some path⟩ timeout start attempts).result =
      some (.error .unsafeProfilePath) →
    ∃ attempt ∈ callAttempts parent path timeout start attempts, attempt.ScopeFailed parent path
  retried : ∀ before after, attempts = before ++ after →
    (∀ earlier ∈ before, FailsInTime parent path (start + timeout) earlier) →
      (removeBounded ⟨parent, some path⟩ timeout start before).result = none
  succeeds : ∀ before attempt after, attempts = before ++ attempt :: after →
    (∀ earlier ∈ before, FailsInTime parent path (start + timeout) earlier) →
      attempt.joined = true → (removeProfileOnce parent path attempt).1 = .ok () →
        (removeBounded ⟨parent, some path⟩ timeout start attempts).result = some (.ok ())
  removed : (removeBounded ⟨parent, some path⟩ timeout start attempts).profile.path = none ↔
    (removeBounded ⟨parent, some path⟩ timeout start attempts).result = some (.ok ()) ∧
      ∃ last, (callAttempts parent path timeout start attempts).getLast? = some last ∧
        last.present = false
  removals : (removeBounded ⟨parent, some path⟩ timeout start attempts).removals =
    (callAttempts parent path timeout start attempts).flatMap fun attempt =>
      (removeProfileOnce parent path attempt).2
  confined : ∀ attempt ∈ callAttempts parent path timeout start attempts,
    ∀ removed ∈ (removeProfileOnce parent path attempt).2,
      removed = path ∧ profilePathIsAllowed parent path attempt.symlinkMetadata = true

/-- A call of the system is denied in an attempt whose answer arrives. -/
def Denied (parent path : WindowsPath) (attempt : Attempt) : Prop :=
  attempt.joined = true ∧ attempt.OsError parent path .permissionDenied

theorem retried_of_failsInTime {deadline : Nat} (hfails : FailsInTime parent path deadline attempt)
    (hallowed : ¬Denied parent path attempt) :
    Retried ⟨parent, some path⟩ path deadline attempt := by
  obtain ⟨hjoined, ⟨kind, herror⟩, htime⟩ := hfails
  have hkind : kind ≠ .permissionDenied := by
    intro hdenied
    rw [hdenied] at herror
    exact hallowed ⟨hjoined, herror⟩
  rw [Retried, herror.once, settle_transient hjoined hkind, if_neg (Nat.not_le.mpr htime)]

theorem not_retried_of_permissionDenied {profile : ScopedProfile} {deadline : Nat}
    (honce : (removeProfileOnce profile.parent path attempt).1 = .error .permissionDenied) :
    ¬Retried profile path deadline attempt := by
  rw [Retried, honce, settle]
  cases attempt.joined with
  | true => exact Option.some_ne_none _
  | false => exact Option.some_ne_none _

/-- Without a denial every failure in time is retried. -/
theorem forall_retried (hallowed : ∀ attempt ∈ callAttempts parent path timeout start attempts,
      ¬Denied parent path attempt)
    (hattempts : attempts = before ++ after)
    (hbefore : ∀ earlier ∈ before, FailsInTime parent path (start + timeout) earlier) :
    ∀ earlier ∈ before, Retried ⟨parent, some path⟩ path (start + timeout) earlier := by
  rcases run_cases ⟨parent, some path⟩ path (start + timeout) before with
    hall | ⟨first, stopped, later, hsplit, hfirst, hstopped⟩
  · exact hall
  · -- the attempt that stops is made, and it fails in time
    have hmade : stopped ∈ callAttempts parent path timeout start attempts := by
      obtain ⟨_, -, -, hone⟩ := removeLoop_stops hstopped (later ++ after)
      rw [hattempts, hsplit, List.append_assoc, List.cons_append, callAttempts,
        attemptsMade_retried hfirst, hone]
      exact List.mem_append_right _ List.mem_cons_self
    have hfails := hbefore stopped (by rw [hsplit]; simp)
    exact absurd (retried_of_failsInTime hfails (hallowed stopped hmade)) hstopped

/-- The result of an attempt that is not denied. -/
theorem scopeFailed_of_unsafe {deadline : Nat} (hallowed : ¬Denied parent path attempt)
    (hsettle : settle deadline attempt (removeProfileOnce parent path attempt).1 =
      some (.error .unsafeProfilePath)) : attempt.ScopeFailed parent path := by
  obtain ⟨hjoined, honce⟩ := settle_eq_unsafe_iff.mp hsettle
  rcases attempt.once_cases parent path with ⟨hremoved, -⟩ | hscope | ⟨kind, herror⟩
  · rw [hremoved] at honce
    cases honce
  · exact hscope
  · rw [herror.once] at honce
    cases honce
    exact absurd ⟨hjoined, herror⟩ hallowed

theorem gone_of_ok {deadline : Nat}
    (hsettle : settle deadline attempt (removeProfileOnce parent path attempt).1 =
      some (.ok ())) : attempt.present = false := by
  obtain ⟨-, honce⟩ := settle_eq_ok_iff.mp hsettle
  rcases attempt.once_cases parent path with ⟨-, hgone⟩ | hscope | ⟨kind, herror⟩
  · exact hgone
  · rw [hscope.once] at honce
    cases honce
  · rw [herror.once] at honce
    cases honce

/-- The loop over attempts that are all retried. -/
theorem removeBounded_retried
    (hall : ∀ attempt ∈ attempts, Retried ⟨parent, some path⟩ path (start + timeout) attempt) :
    removeBounded ⟨parent, some path⟩ timeout start attempts =
        ⟨none, ⟨parent, some path⟩,
          attempts.flatMap fun attempt => (removeProfileOnce parent path attempt).2⟩ ∧
      callAttempts parent path timeout start attempts = attempts := by
  have hloop := removeLoop_retried hall []
  have hmade := attemptsMade_retried hall []
  rw [List.append_nil] at hloop hmade
  refine ⟨?_, by rw [callAttempts, hmade]; exact List.append_nil attempts⟩
  change removeLoop ⟨parent, some path⟩ path (start + timeout) attempts = _
  rw [hloop, removeLoop, List.append_nil]

/-- The loop up to the attempt that it stops at. -/
theorem removeBounded_stops
    (hbefore : ∀ earlier ∈ before, Retried ⟨parent, some path⟩ path (start + timeout) earlier)
    (hstops : ¬Retried ⟨parent, some path⟩ path (start + timeout) attempt)
    (after : List Attempt) :
    ∃ result,
      settle (start + timeout) attempt (removeProfileOnce parent path attempt).1 = some result ∧
      removeBounded ⟨parent, some path⟩ timeout start (before ++ attempt :: after) =
        ⟨some result, if result = .ok () then ⟨parent, none⟩ else ⟨parent, some path⟩,
          (before ++ [attempt]).flatMap fun made => (removeProfileOnce parent path made).2⟩ ∧
      callAttempts parent path timeout start (before ++ attempt :: after) =
        before ++ [attempt] := by
  obtain ⟨result, hsettle, hloop, hmade⟩ := removeLoop_stops hstops after
  refine ⟨result, hsettle, ?_, ?_⟩
  · change removeLoop ⟨parent, some path⟩ path (start + timeout) _ = _
    rw [removeLoop_retried hbefore, hloop, List.flatMap_append, List.flatMap_singleton]
  · rw [callAttempts, attemptsMade_retried hbefore, hmade]

/-- A removal that answers well saw the directory gone. -/
theorem gone_of_removed
    (hremoved : (removeBounded ⟨parent, some path⟩ timeout start attempts).result =
      some (.ok ())) : ∃ attempt ∈ attempts, attempt.present = false := by
  rcases run_cases ⟨parent, some path⟩ path (start + timeout) attempts with
    hall | ⟨before, attempt, after, rfl, hbefore, hstops⟩
  · rw [(removeBounded_retried hall).1] at hremoved
    cases hremoved
  · obtain ⟨result, hsettle, hrun, -⟩ := removeBounded_stops hbefore hstops after
    rw [hrun] at hremoved
    rw [Option.some.inj hremoved] at hsettle
    exact ⟨attempt, List.mem_append_right _ List.mem_cons_self, gone_of_ok hsettle⟩

theorem cleansUp_of_allowed
    (hallowed : ∀ attempt ∈ callAttempts parent path timeout start attempts,
      ¬Denied parent path attempt) : CleansUp parent path timeout start attempts := by
  have hretried : ∀ before after, attempts = before ++ after →
      (∀ earlier ∈ before, FailsInTime parent path (start + timeout) earlier) →
        ∀ earlier ∈ before, Retried ⟨parent, some path⟩ path (start + timeout) earlier :=
    fun before after hattempts hbefore => forall_retried hallowed hattempts hbefore
  have hsucceeds : ∀ before attempt after, attempts = before ++ attempt :: after →
      (∀ earlier ∈ before, FailsInTime parent path (start + timeout) earlier) →
        attempt.joined = true → (removeProfileOnce parent path attempt).1 = .ok () →
          (removeBounded ⟨parent, some path⟩ timeout start attempts).result = some (.ok ()) := by
    intro before attempt after hattempts hbefore hjoined honce
    have hsettle : settle (start + timeout) attempt (removeProfileOnce parent path attempt).1 =
        some (.ok ()) := settle_eq_ok_iff.mpr ⟨hjoined, honce⟩
    have hstops : ¬Retried ⟨parent, some path⟩ path (start + timeout) attempt := by
      rw [Retried, hsettle]
      exact Option.some_ne_none _
    obtain ⟨result, hresult, hrun, -⟩ :=
      removeBounded_stops (hretried before _ hattempts hbefore) hstops after
    rw [hattempts, hrun, ← hresult, hsettle]
  rcases run_cases ⟨parent, some path⟩ path (start + timeout) attempts with
    hall | ⟨before, attempt, after, rfl, hbefore, hstops⟩
  · obtain ⟨hrun, hmade⟩ := removeBounded_retried hall
    refine ⟨?_, ?_, hsucceeds, ?_, ?_, fun _ _ _ => Attempt.mem_removals⟩
    · intro hunsafe
      rw [hrun] at hunsafe
      cases hunsafe
    · intro before after hattempts hbefore
      rw [(removeBounded_retried (hretried before after hattempts hbefore)).1]
    · rw [hrun]
      simp
    · rw [hrun, hmade]
  · obtain ⟨result, hsettle, hrun, hmade⟩ := removeBounded_stops hbefore hstops after
    have hlast : attempt ∈ callAttempts parent path timeout start (before ++ attempt :: after) := by
      rw [hmade]
      exact List.mem_append_right _ List.mem_cons_self
    refine ⟨?_, ?_, hsucceeds, ?_, ?_, fun _ _ _ => Attempt.mem_removals⟩
    · intro hunsafe
      rw [hrun] at hunsafe
      rw [Option.some.inj hunsafe] at hsettle
      exact ⟨attempt, hlast, scopeFailed_of_unsafe (hallowed attempt hlast) hsettle⟩
    · intro earlier later hattempts hearlier
      rw [(removeBounded_retried (hretried earlier later hattempts hearlier)).1]
    · rw [hrun, hmade, List.getLast?_concat]
      by_cases hok : result = .ok ()
      · rw [hok] at hsettle
        simp [hok, gone_of_ok hsettle]
      · simp [hok]
    · rw [hrun, hmade]

/-- The bounded removal keeps its promise exactly if the system denies no call of it. -/
theorem removeBounded_cleansUp_iff (parent path : WindowsPath) (timeout start : Nat)
    (attempts : List Attempt) :
    CleansUp parent path timeout start attempts ↔
      ∀ attempt ∈ callAttempts parent path timeout start attempts,
        ¬Denied parent path attempt := by
  refine ⟨?_, cleansUp_of_allowed⟩
  intro hclean attempt hattempt hdenied
  have hstops : ¬Retried ⟨parent, some path⟩ path (start + timeout) attempt :=
    not_retried_of_permissionDenied hdenied.2.once
  rcases run_cases ⟨parent, some path⟩ path (start + timeout) attempts with
    hall | ⟨before, last, after, rfl, hbefore, hlast⟩
  · rw [(removeBounded_retried hall).2] at hattempt
    exact hstops (hall attempt hattempt)
  · obtain ⟨result, hsettle, hrun, hmade⟩ := removeBounded_stops hbefore hlast after
    -- what was retried was neither denied nor out of scope
    have hsame : attempt = last := by
      rw [hmade] at hattempt
      rcases List.mem_append.mp hattempt with hearlier | hattempt
      · exact absurd (hbefore attempt hearlier) hstops
      · exact List.mem_singleton.mp hattempt
    rw [← hsame, settle_eq_unsafe_iff.mpr ⟨hdenied.1, hdenied.2.once⟩] at hsettle
    have hunsafe : (removeBounded ⟨parent, some path⟩ timeout start
        (before ++ last :: after)).result = some (.error .unsafeProfilePath) := by
      rw [hrun, ← hsettle]
    obtain ⟨failed, hfailed, hscope⟩ := hclean.unsafe_only hunsafe
    rw [hmade] at hfailed
    rcases List.mem_append.mp hfailed with hearlier | hfailed
    · refine not_retried_of_permissionDenied ?_ (hbefore failed hearlier)
      exact congrArg Prod.fst hscope.once
    · rw [List.mem_singleton.mp hfailed, ← hsame] at hscope
      exact hdenied.2.not_scopeFailed hscope

end Bounded

/-- A directory on a share, and a profile in it. -/
def tempParent : WindowsPath :=
  ⟨[.pathPrefix (.verbatimUnc (osString "home") (osString "user")), .rootDir,
    .normal (osString "Temp")]⟩
def tempProfile : WindowsPath := tempParent.push (osString "rpackit-webview-a1")

/-- A handle is still open, and the system denies the removal. -/
def deniedAttempt : Attempt where
  tryExists := .ok true
  symlinkMetadata := .ok ⟨true, 0x10⟩
  removeDirAll := .error .permissionDenied
  joined := true
  now := 0
  present := true
  missing_gone := fun hmissing => by cases hmissing
  removed_gone := fun _ hremoved => by cases hremoved
  notFound_gone := fun _ hmissing => by cases hmissing

/-- The handle is closed. -/
def freeAttempt : Attempt where
  tryExists := .ok true
  symlinkMetadata := .ok ⟨true, 0x10⟩
  removeDirAll := .ok ()
  joined := true
  now := 1
  present := false
  missing_gone := fun _ => rfl
  removed_gone := fun _ _ => rfl
  notFound_gone := fun _ _ => rfl

/-- The denial of the first attempt ends the call, although the second would succeed. -/
theorem removeBounded_denied :
    (removeBounded ⟨tempParent, some tempProfile⟩ 2000 0 [deniedAttempt, freeAttempt]).result =
        some (.error .unsafeProfilePath) ∧
      (removeProfileOnce tempParent tempProfile freeAttempt).1 = .ok () ∧
      ¬CleansUp tempParent tempProfile 2000 0 [deniedAttempt, freeAttempt] := by
  have hallowed : profilePathIsAllowed tempParent tempProfile (.ok ⟨true, 0x10⟩) = true := by
    decide +kernel
  have honce : removeProfileOnce tempParent tempProfile deniedAttempt =
      (.error .permissionDenied, [tempProfile]) := by
    unfold removeProfileOnce deniedAttempt
    simp only [hallowed, if_true]
  have hresult : (removeBounded ⟨tempParent, some tempProfile⟩ 2000 0
      [deniedAttempt, freeAttempt]).result = some (.error .unsafeProfilePath) := by
    change (removeLoop ⟨tempParent, some tempProfile⟩ tempProfile 2000 _).result = _
    simp only [removeLoop, honce]
    rfl
  refine ⟨hresult, ?_, ?_⟩
  · unfold removeProfileOnce freeAttempt
    simp only [hallowed, if_true]
  · intro hclean
    obtain ⟨attempt, hattempt, hscope⟩ := hclean.unsafe_only hresult
    have hmade : callAttempts tempParent tempProfile 2000 0 [deniedAttempt, freeAttempt] =
        [deniedAttempt] := by
      simp only [attemptsMade, honce]
      rfl
    rw [hmade, List.mem_singleton] at hattempt
    rw [hattempt] at hscope
    have hfailed := hallowed.symm.trans hscope.2
    cases hfailed

end Rpackit.Webview
