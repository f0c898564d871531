import Rpackit.Lifecycle.Launch

/-! # The startup deadline

The readiness loop looks at the clock before an attempt and after a refused one. Within an
attempt every read has its own timeout, so the attempt may end after the deadline, and an
answer that is accepted then is not checked against it.
-/

namespace Rpackit.Lifecycle

open Text Launcher Transport Rpackit.Bundle
open Program (fail)

variable {W : Type} {world : World W} {clock : W → Nat}

/-! ## Time -/

/-- The owner reads this clock, and no call turns it back. -/
structure World.Clocked (world : World W) (clock : W → Nat) : Prop where
  reads : ∀ w, (world.now w).1 = clock w
  monotone : ∀ {w later}, world.Call w later → clock w ≤ clock later

/-- The time from one state of the operating system to another. -/
def spent (clock : W → Nat) (w later : W) : Nat := clock later - clock w

theorem World.Clocked.add_spent (hclock : world.Clocked clock) {w later : W}
    (hcall : world.Call w later) : clock w + spent clock w later = clock later :=
  Nat.add_sub_cancel' (hclock.monotone hcall)

/-! ## Answers to the readiness request -/

/-- What the port sends up to the end of a status line, and how long that takes. -/
structure ReadinessAnswer where
  line : Option Bytes
  time : Nat

namespace ReadinessAnswer

def accepted (answer : ReadinessAnswer) : Bool := answer.line.any successStatusLine

def after (answer : ReadinessAnswer) (time : Nat) : ReadinessAnswer :=
  { answer with time := time + answer.time }

end ReadinessAnswer

/-- The port, the secret and the timeout of one attempt. -/
structure ReadinessAttempt where
  port : UInt16
  secret : Secret
  timeout : Nat

namespace World

/-- The bytes of a status line, and the time that the reads of them take together. -/
def statusLine (world : World W) (clock : W → Nat) : Nat → Bytes → W → ReadinessAnswer
  | 0, _, _ => ⟨none, 0⟩
  | remaining + 1, line, w =>
      let time := spent clock w (world.readByte w).2
      match (world.readByte w).1 with
      | none => ⟨none, time⟩
      | some byte =>
          let extended := line ++ [byte]
          if [carriageReturn, lineFeed].isSuffixOf extended then
            ⟨some (extended.take (extended.length - 2)), time⟩
          else (world.statusLine clock remaining extended (world.readByte w).2).after time

/-- A call that has to succeed before the rest of an answer. -/
def following (clock : W → Nat) (w : W) (called : Bool × W) (rest : W → ReadinessAnswer) :
    ReadinessAnswer :=
  if called.1 then (rest called.2).after (spent clock w called.2)
  else ⟨none, spent clock w called.2⟩

/-- The answer to an attempt: its time is that of the connection, of the two timeouts that
are set, of the request and of every byte that is read. -/
def answer (world : World W) (clock : W → Nat) (attempt : ReadinessAttempt) (w : W) :
    ReadinessAnswer :=
  following clock w (world.connect attempt.port attempt.timeout w) fun connected =>
    following clock connected (world.setReadTimeout attempt.timeout connected) fun reading =>
      following clock reading (world.setWriteTimeout attempt.timeout reading) fun writing =>
        following clock writing
          (world.writeAll (readinessRequest attempt.port attempt.secret) writing) fun written =>
            world.statusLine clock statusLineMaxBytes [] written

end World

/-- The owner asks as the attempt says. -/
def ReadinessAttempt.ask (world : World W) (attempt : ReadinessAttempt) : Owner W Bool :=
  authenticatedHttpReady world attempt.port attempt.secret attempt.timeout

/-- The program says yes exactly to an accepted answer, after the time of the answer. -/
def Answers (clock : W → Nat) (x : Owner W Bool) (answer : W → ReadinessAnswer) : Prop :=
  ∀ ⦃start stop : Machine W⦄ ⦃outcome : Except Stop Bool⦄, x start = (outcome, stop) →
    (outcome = .ok true ↔ (answer start.world).accepted = true) ∧
      (outcome = .ok true → clock stop.world = clock start.world + (answer start.world).time)

theorem answers_observe {x : Owner W Bool} {answer : W → ReadinessAnswer}
    (hx : Answers clock x answer) (observation : Observation) :
    Answers clock (do observe observation; x) answer := by
  intro start stop outcome hrun
  have hobserve : (do observe observation; x) start = x (start.observes observation) := rfl
  rw [hobserve] at hrun
  have hanswers := hx hrun
  exact hanswers

/-- A call that fails is the end of the answer. -/
theorem answers_call {call : W → Bool × W} (hcall : ∀ w, clock w ≤ clock (call w).2)
    {refuse x : Owner W Bool} (hrefuse : ∀ start stop, refuse start ≠ (.ok true, stop))
    {answer : W → ReadinessAnswer} (hx : Answers clock x answer) :
    Answers clock (do
        let called ← ask call
        if !called then refuse else x)
      fun w => World.following clock w (call w) answer := by
  intro start stop outcome hrun
  have hask : (ask call : Owner W Bool) start =
    (.ok (call start.world).1, start.calls (call start.world).2) := rfl
  rw [Program.bind_of_ok hask] at hrun
  unfold World.following
  dsimp only
  have htime : clock start.world + spent clock start.world (call start.world).2 =
    clock (call start.world).2 := Nat.add_sub_cancel' (hcall start.world)
  by_cases hcalled : (call start.world).1 = true
  · rw [hcalled] at hrun
    obtain ⟨haccepted, hclocked⟩ := hx hrun
    rw [if_pos hcalled]
    refine ⟨haccepted, fun hok => ?_⟩
    rw [hclocked hok]
    change clock (call start.world).2 + _ = _
    rw [← htime, Nat.add_assoc]
    rfl
  · rw [Bool.not_eq_true] at hcalled
    rw [hcalled] at hrun
    have hnot : outcome ≠ .ok true := by
      rintro rfl
      exact hrefuse _ _ hrun
    rw [if_neg (by rw [hcalled]; exact Bool.false_ne_true)]
    exact ⟨⟨fun hok => absurd hok hnot, nofun⟩, fun hok => absurd hok hnot⟩

/-- A read of the status line takes the time of every byte of it. -/
theorem answers_readStatusLine (hclock : world.Clocked clock) (remaining : Nat) (line : Bytes) :
    Answers clock (readStatusLine world remaining line)
      (world.statusLine clock remaining line) := by
  induction remaining generalizing line with
  | zero =>
      intro start stop outcome hrun
      cases hrun
      exact ⟨⟨nofun, nofun⟩, nofun⟩
  | succ remaining ih =>
      intro start stop outcome hrun
      have htime := hclock.add_spent (.readByte start.world)
      have hread : (ask world.readByte : Owner W (Option UInt8)) start =
        (.ok (world.readByte start.world).1, start.calls (world.readByte start.world).2) := rfl
      rw [readStatusLine, Program.bind_of_ok hread] at hrun
      unfold World.statusLine
      dsimp only
      rcases hbyte : (world.readByte start.world).1 with _ | byte
      · rw [hbyte] at hrun
        cases hrun
        exact ⟨⟨nofun, nofun⟩, nofun⟩
      rw [hbyte] at hrun
      dsimp only at hrun ⊢
      by_cases hend : [carriageReturn, lineFeed].isSuffixOf (line ++ [byte]) = true
      · rw [if_pos hend] at hrun ⊢
        cases hrun
        refine ⟨?_, fun _ => htime.symm⟩
        rw [ReadinessAnswer.accepted, Except.ok.injEq]
        rfl
      · rw [if_neg hend] at hrun ⊢
        obtain ⟨haccepted, hclocked⟩ := ih _ hrun
        refine ⟨haccepted, fun hok => ?_⟩
        rw [hclocked hok]
        change clock (world.readByte start.world).2 + _ = _
        rw [← htime, Nat.add_assoc]
        rfl

theorem answers_attempt (hclock : world.Clocked clock) (attempt : ReadinessAttempt) :
    Answers clock (attempt.ask world) (world.answer clock attempt) := by
  have hno : ∀ start stop : Machine W,
      (pure false : Owner W Bool) start ≠ (.ok true, stop) := by
    intro start stop hrun
    cases hrun
  refine answers_call (fun w => hclock.monotone (.connect _ _ w)) hno ?_
  refine answers_observe ?_ _
  refine answers_call (fun w => hclock.monotone (.setReadTimeout _ w))
    (fun _ _ => Program.fail_ne_ok) ?_
  refine answers_call (fun w => hclock.monotone (.setWriteTimeout _ w))
    (fun _ _ => Program.fail_ne_ok) ?_
  refine answers_call (fun w => hclock.monotone (.writeAll _ w)) hno ?_
  exact answers_observe (answers_readStatusLine hclock _ _) _

/-! ## The readiness loop, one attempt at a time -/

variable (world : World W)

/-- What the loop does before an attempt: every gate again, and the time that is left. -/
def beginAttempt (startupDeadline fuel : Nat) : Owner W ReadinessAttempt := do
  ensureProcessesAliveBeforeReady world
  drainMonitor world true fuel
  let now ← readClock world
  if startupDeadline - now = 0 then failed .readinessTimeout
  else do
    let owner ← readOwner
    let secret ← okOrFail owner.upstreamSecret .ownerNotRunning
    return ⟨owner.upstreamPort, secret,
      min owner.limits.readinessIoTimeout (startupDeadline - now)⟩

/-- What the loop does after a refused attempt. -/
def pauseAttempts (startupDeadline : Nat) : Owner W Unit := do
  let now ← readClock world
  if now ≥ startupDeadline then failed .readinessTimeout
  else do
    let pause ← remainingPoll world startupDeadline
    sleepFor world pause

/-- An attempt and what the loop makes of its answer. -/
def completeAttempt (startupDeadline fuel : Nat) (attempt : ReadinessAttempt) : Owner W Unit := do
  let ready ← attempt.ask world
  if ready then return ()
  else do
    pauseAttempts world startupDeadline
    waitForAuthenticatedReadiness world startupDeadline fuel

theorem waitForAuthenticatedReadiness_succ (startupDeadline fuel : Nat) :
    waitForAuthenticatedReadiness world startupDeadline (fuel + 1) =
      beginAttempt world startupDeadline fuel >>= completeAttempt world startupDeadline fuel := by
  rw [waitForAuthenticatedReadiness, beginAttempt]
  simp only [Program.bind_assoc]
  congr
  funext _
  congr
  funext _
  congr
  funext now
  split
  · rfl
  · simp only [Program.bind_assoc]
    congr
    funext owner
    congr
    funext secret
    rw [Program.pure_bind]
    unfold completeAttempt pauseAttempts
    simp only [Program.bind_assoc]
    congr
    funext ready
    split
    · rfl
    · congr
      funext now
      split
      · rfl
      · simp only [Program.bind_assoc]

/-- The startup up to its readiness loop, with the fuel that is left. -/
def untilListening (startupDeadline : Nat) : Nat → Owner W Nat
  | 0 => fail .running
  | fuel + 1 => do
      ensureWrapperAliveBeforeReady world
      let now ← readClock world
      if now ≥ startupDeadline then failed .readinessTimeout
      else do
        let timeout ← remainingPoll world startupDeadline
        let received ← receive world timeout
        match received with
        | .message (.stdoutEnded state ignoredLines) => do
            explainStreamEnd world state ignoredLines
            failed .protocolStreamEnded
        | .message message => do
            let event ← applyMonitor message true
            match event with
            | some (.starting _) => do
                verifyTokenConsumed world
                untilListening startupDeadline fuel
            | some (.listening pid) => do
                verifyTokenConsumed world
                let process ← processRef
                let runtime ← liftNative (captureJobMember world process pid)
                modifyOwner fun owner => { owner with runtime := some runtime }
                waitForListener world startupDeadline fuel
                return fuel
            | some .stopping => failed .stoppedBeforeReadiness
            | some (.stopped _) => failed .stoppedBeforeReadiness
            | some (.launcherFailed phase) => failed (.launcherReportedFailure phase)
            | none => untilListening startupDeadline fuel
        | .nothing => untilListening startupDeadline fuel
        | .disconnected => failed .monitorDisconnected

/-- The readiness loop, and the state after it. -/
def enterReady (startupDeadline fuel : Nat) : Owner W Unit := do
  waitForAuthenticatedReadiness world startupDeadline fuel
  enter .ready

theorem explainStreamEnd_bind {α : Type} (state : LifecycleState) (ignoredLines : Nat)
    (f : α → Owner W Unit) :
    (do
        explainStreamEnd world state ignoredLines
        failed .protocolStreamEnded) >>= f =
      explainStreamEnd world state ignoredLines := by
  unfold explainStreamEnd
  simp only [Program.bind_assoc]
  congr
  funext _
  congr
  funext process
  congr
  funext owner
  congr
  funext exitCode
  cases exitCode with
  | none => rfl
  | some exitCode => rfl

theorem waitForEvents_eq (startupDeadline fuel : Nat) :
    waitForEvents world startupDeadline fuel =
      untilListening world startupDeadline fuel >>= enterReady world startupDeadline := by
  induction fuel with
  | zero => rfl
  | succ fuel ih =>
      -- the two loops differ only in where the events after `listening` are awaited
      have hevent : ∀ event : Option MonitorEvent,
          (match event with
            | some (.starting _) => do
                verifyTokenConsumed world
                waitForEvents world startupDeadline fuel
            | some (.listening pid) => becomeReady world startupDeadline pid fuel
            | some .stopping => failed .stoppedBeforeReadiness
            | some (.stopped _) => failed .stoppedBeforeReadiness
            | some (.launcherFailed phase) => failed (.launcherReportedFailure phase)
            | none => waitForEvents world startupDeadline fuel) =
          (match event with
            | some (.starting _) => do
                verifyTokenConsumed world
                untilListening world startupDeadline fuel
            | some (.listening pid) => do
                verifyTokenConsumed world
                let process ← processRef
                let runtime ← liftNative (captureJobMember world process pid)
                modifyOwner fun owner => { owner with runtime := some runtime }
                waitForListener world startupDeadline fuel
                return fuel
            | some .stopping => failed .stoppedBeforeReadiness
            | some (.stopped _) => failed .stoppedBeforeReadiness
            | some (.launcherFailed phase) => failed (.launcherReportedFailure phase)
            | none => untilListening world startupDeadline fuel) >>=
              enterReady world startupDeadline := by
        intro event
        match event with
        | some (.starting pid) =>
            dsimp only
            rw [Program.bind_assoc, ih]
        | some (.listening pid) =>
            dsimp only
            rw [becomeReady]
            simp only [Program.bind_assoc]
            rfl
        | some .stopping => rfl
        | some (.stopped pid) => rfl
        | some (.launcherFailed phase) => rfl
        | none => exact ih
      rw [waitForEvents, untilListening]
      simp only [Program.bind_assoc]
      congr
      funext _
      congr
      funext now
      split
      · rfl
      simp only [Program.bind_assoc]
      congr
      funext timeout
      congr
      funext received
      cases received with
      | nothing => exact ih
      | disconnected => rfl
      | message message =>
          cases message with
          | stdoutEnded state ignoredLines =>
              exact (explainStreamEnd_bind world state ignoredLines _).symm
          | _ =>
              dsimp only
              rw [Program.bind_assoc]
              congr
              funext event
              exact hevent event

/-! ## The attempts of a startup -/

/-- The attempts that a loop from `before` makes, and the machines it asks from. -/
inductive Attempted (startupDeadline : Nat) :
    Nat → Machine W → ReadinessAttempt → Machine W → Prop
  | first {fuel : Nat} {before asked : Machine W} {attempt : ReadinessAttempt}
      (hbegin : beginAttempt world startupDeadline fuel before = (.ok attempt, asked)) :
      Attempted startupDeadline (fuel + 1) before attempt asked
  | later {fuel : Nat} {before refusing refused next asked : Machine W}
      {attempt earlier : ReadinessAttempt}
      (hbegin : beginAttempt world startupDeadline fuel before = (.ok earlier, refusing))
      (hrefused : earlier.ask world refusing = (.ok false, refused))
      (hpause : pauseAttempts world startupDeadline refused = (.ok (), next))
      (hlater : Attempted startupDeadline fuel next attempt asked) :
      Attempted startupDeadline (fuel + 1) before attempt asked

/-- The attempts that a startup makes. -/
def StartupAttempt (fuel : Nat) (start : Machine W) (attempt : ReadinessAttempt)
    (asked : Machine W) : Prop :=
  ∃ startupDeadline noted rest listening,
    checkedDeadline world start.owner.limits.startupTimeout start =
      (.ok startupDeadline, noted) ∧
    untilListening world startupDeadline fuel noted = (.ok rest, listening) ∧
    Attempted world startupDeadline rest listening attempt asked

variable {world}

/-- The loop of a run continues from each of its attempts. -/
theorem Attempted.completes {startupDeadline fuel : Nat} {before asked : Machine W}
    {attempt : ReadinessAttempt}
    (hattempted : Attempted world startupDeadline fuel before attempt asked) :
    ∃ rest, waitForAuthenticatedReadiness world startupDeadline fuel before =
      completeAttempt world startupDeadline rest attempt asked := by
  induction hattempted with
  | first hbegin => exact ⟨_, by rw [waitForAuthenticatedReadiness_succ, Program.bind_of_ok hbegin]⟩
  | later hbegin hrefused hpause hlater ih =>
      obtain ⟨rest, hrest⟩ := ih
      refine ⟨rest, ?_⟩
      rw [waitForAuthenticatedReadiness_succ, Program.bind_of_ok hbegin, completeAttempt,
        Program.bind_of_ok hrefused, if_neg Bool.false_ne_true, Program.bind_of_ok hpause, hrest]

/-- A loop ends well in one of its attempts. -/
theorem attempted_of_ok {startupDeadline fuel : Nat} {before stop : Machine W}
    (hrun : waitForAuthenticatedReadiness world startupDeadline fuel before = (.ok (), stop)) :
    ∃ attempt asked, Attempted world startupDeadline fuel before attempt asked ∧
      attempt.ask world asked = (.ok true, stop) := by
  induction fuel generalizing before with
  | zero => cases hrun
  | succ fuel ih =>
      rw [waitForAuthenticatedReadiness_succ] at hrun
      obtain ⟨attempt, asked, hbegin, hrun⟩ := Program.bind_eq_ok_iff.mp hrun
      obtain ⟨ready, answered, hasked, hrun⟩ := Program.bind_eq_ok_iff.mp hrun
      cases ready with
      | true =>
          cases hrun
          exact ⟨attempt, asked, .first hbegin, hasked⟩
      | false =>
          rw [if_neg Bool.false_ne_true] at hrun
          obtain ⟨_, next, hpause, hrun⟩ := Program.bind_eq_ok_iff.mp hrun
          obtain ⟨last, lastAsked, hlast, hok⟩ := ih hrun
          exact ⟨last, lastAsked, .later hbegin hasked hpause hlast, hok⟩

theorem waitUntilReady_eq {fuel startupDeadline : Nat} {start noted : Machine W}
    (hdeadline : checkedDeadline world start.owner.limits.startupTimeout start =
      (.ok startupDeadline, noted)) :
    waitUntilReady world fuel start =
      (untilListening world startupDeadline fuel >>= enterReady world startupDeadline) noted := by
  rw [waitUntilReady, readOwner_bind, Program.bind_of_ok hdeadline, waitForEvents_eq]

theorem checkedDeadline_eq_ok (hclock : world.Clocked clock) {duration startupDeadline : Nat}
    {start noted : Machine W}
    (hdeadline : checkedDeadline world duration start = (.ok startupDeadline, noted)) :
    startupDeadline = clock start.world + duration := by
  obtain ⟨now, read, hnow, hdeadline⟩ := Program.bind_eq_ok_iff.mp hdeadline
  split at hdeadline
  · cases hnow
    rw [← (Program.pure_eq_ok_iff.mp hdeadline).1, hclock.reads]
  · cases hdeadline

/-- A startup that answers has an accepted attempt, and ends with it. -/
theorem startupAttempt_of_ok {fuel : Nat} {start stop : Machine W}
    (hrun : waitUntilReady world fuel start = (.ok (), stop)) :
    ∃ attempt asked answered, StartupAttempt world fuel start attempt asked ∧
      attempt.ask world asked = (.ok true, answered) ∧ answered.world = stop.world := by
  have hwait := hrun
  rw [waitUntilReady, readOwner_bind] at hwait
  obtain ⟨startupDeadline, noted, hdeadline, -⟩ := Program.bind_eq_ok_iff.mp hwait
  rw [waitUntilReady_eq hdeadline] at hrun
  obtain ⟨rest, listening, hlistening, hrun⟩ := Program.bind_eq_ok_iff.mp hrun
  obtain ⟨_, answered, hloop, hentered⟩ := Program.bind_eq_ok_iff.mp hrun
  obtain ⟨attempt, asked, hattempted, hok⟩ := attempted_of_ok hloop
  refine ⟨attempt, asked, answered,
    ⟨startupDeadline, noted, rest, listening, hdeadline, hlistening, hattempted⟩, hok, ?_⟩
  cases hentered
  rfl

/-- From an attempt of a startup on, the run is that of its answer. -/
theorem StartupAttempt.completes {fuel : Nat} {start stop asked : Machine W}
    {outcome : Except Stop Unit} {attempt : ReadinessAttempt}
    (hattempt : StartupAttempt world fuel start attempt asked) (hclock : world.Clocked clock)
    (hrun : waitUntilReady world fuel start = (outcome, stop)) :
    ∃ rest, (do
      completeAttempt world (clock start.world + start.owner.limits.startupTimeout) rest attempt
      enter .ready) asked = (outcome, stop) := by
  obtain ⟨startupDeadline, noted, rest, listening, hdeadline, hlistening, hattempted⟩ :=
    hattempt
  obtain ⟨fuel', hcompletes⟩ := hattempted.completes
  rw [waitUntilReady_eq hdeadline, Program.bind_of_ok hlistening, enterReady] at hrun
  rw [← checkedDeadline_eq_ok hclock hdeadline]
  refine ⟨fuel', ?_⟩
  have hbind : ∀ x : Owner W Unit, ∀ machine, (do x; enter .ready) machine =
      Program.bind x (fun _ => enter .ready) machine := fun _ _ => rfl
  rw [hbind, Program.bind] at hrun ⊢
  rw [← hcompletes]
  exact hrun

theorem StartupAttempt.of_accepted {fuel : Nat} {start stop asked answered : Machine W}
    {outcome : Except Stop Unit} {attempt : ReadinessAttempt}
    (hattempt : StartupAttempt world fuel start attempt asked) (hclock : world.Clocked clock)
    (hrun : waitUntilReady world fuel start = (outcome, stop))
    (hasked : attempt.ask world asked = (.ok true, answered)) :
    outcome = .ok () ∧ stop.world = answered.world := by
  obtain ⟨rest, hcompletes⟩ := hattempt.completes hclock hrun
  rw [completeAttempt, Program.bind_assoc, Program.bind_of_ok hasked] at hcompletes
  cases hcompletes
  exact ⟨rfl, rfl⟩

theorem StartupAttempt.of_refused {fuel : Nat} {start stop asked refused : Machine W}
    {outcome : Except Stop Unit} {attempt : ReadinessAttempt}
    (hattempt : StartupAttempt world fuel start attempt asked) (hclock : world.Clocked clock)
    (hrun : waitUntilReady world fuel start = (outcome, stop))
    (hasked : attempt.ask world asked = (.ok false, refused))
    (hlate : clock start.world + start.owner.limits.startupTimeout ≤ clock refused.world) :
    outcome = .error (.failed .readinessTimeout) := by
  obtain ⟨rest, hcompletes⟩ := hattempt.completes hclock hrun
  have hnow : readClock world refused =
    (.ok (world.now refused.world).1, refused.calls (world.now refused.world).2) := rfl
  rw [completeAttempt, Program.bind_assoc, Program.bind_of_ok hasked,
    if_neg Bool.false_ne_true, Program.bind_assoc, pauseAttempts, Program.bind_assoc,
    Program.bind_of_ok hnow, if_pos (by rw [hclock.reads]; exact hlate)] at hcompletes
  cases hcompletes
  rfl

/-- An owner enters the ready state exactly in the runs that answer. -/
theorem entered_ready_iff {fuel : Nat} {start stop : Machine W} {outcome : Except Stop Unit}
    (hstate : start.owner.ownerState = .starting) (hnew : .entered .ready ∉ start.log)
    (hrun : waitUntilReady world fuel start = (outcome, stop)) :
    .entered .ready ∈ stop.log ↔ outcome = .ok () := by
  have hensures : (waitUntilReady world fuel).Ensures start _ _ :=
    readies_waitUntilReady fuel start hstate rfl
  unfold Program.Ensures at hensures
  rw [hrun] at hensures
  cases outcome with
  | ok a =>
      obtain ⟨seen, hready, -⟩ := hensures
      rw [hready.log]
      simp
  | error error =>
      obtain ⟨seen, hlog, hnot⟩ := hensures
      rw [hlog, List.mem_append]
      exact ⟨fun hmem => (hmem.elim hnew hnot).elim, nofun⟩

/-- The deadline of a startup that begins now. -/
def deadlineFrom (clock : W → Nat) (start : Machine W) : Nat :=
  clock start.world + start.owner.limits.startupTimeout

/-- The owner is ready by the deadline, and a response that completes later is a timeout. -/
structure ReadyByDeadline (world : World W) (clock : W → Nat) (fuel : Nat)
    (start stop : Machine W) (outcome : Except Stop Unit) : Prop where
  ready : .entered .ready ∈ stop.log → clock stop.world ≤ deadlineFrom clock start
  late : ∀ attempt asked accepted answered, StartupAttempt world fuel start attempt asked →
    attempt.ask world asked = (.ok accepted, answered) →
    deadlineFrom clock start < clock answered.world →
    outcome = .error (.failed .readinessTimeout)

/-- The connection, the request and all bytes of every accepted answer fit in what is left
of the startup when its attempt begins. -/
def AcceptedInTime (world : World W) (clock : W → Nat) (fuel : Nat) (start : Machine W) : Prop :=
  ∀ attempt asked, StartupAttempt world fuel start attempt asked →
    (world.answer clock attempt asked.world).accepted = true →
    clock asked.world + (world.answer clock attempt asked.world).time ≤ deadlineFrom clock start

/-- Every run of a startup keeps its deadline exactly if every answer that it accepts
completes in time. -/
theorem ready_by_deadline_iff (hclock : world.Clocked clock) {fuel : Nat}
    {start stop : Machine W} {outcome : Except Stop Unit}
    (hstate : start.owner.ownerState = .starting) (hnew : .entered .ready ∉ start.log)
    (hrun : waitUntilReady world fuel start = (outcome, stop)) :
    ReadyByDeadline world clock fuel start stop outcome ↔
      AcceptedInTime world clock fuel start := by
  have hentered := entered_ready_iff hstate hnew hrun
  constructor
  · intro hby attempt asked hattempt haccepted
    rcases hasked : attempt.ask world asked with ⟨answer, answered⟩
    obtain ⟨hanswer, hclocked⟩ := answers_attempt hclock attempt hasked
    have hyes := hanswer.mpr haccepted
    rw [hyes] at hasked
    obtain ⟨hok, hworld⟩ := hattempt.of_accepted hclock hrun hasked
    have htime := hby.ready (hentered.mpr hok)
    rwa [hworld, hclocked hyes] at htime
  · intro htime
    -- an accepted answer is dated when it was asked for, so its attempt was in time
    have hin_time : ∀ attempt asked answered, StartupAttempt world fuel start attempt asked →
        attempt.ask world asked = (.ok true, answered) →
        clock answered.world ≤ deadlineFrom clock start := by
      intro attempt asked answered hattempt hasked
      obtain ⟨hanswer, hclocked⟩ := answers_attempt hclock attempt hasked
      rw [hclocked rfl]
      exact htime attempt asked hattempt (hanswer.mp rfl)
    constructor
    · intro hmem
      rw [hentered.mp hmem] at hrun
      obtain ⟨attempt, asked, answered, hattempt, hasked, hworld⟩ := startupAttempt_of_ok hrun
      rw [← hworld]
      exact hin_time attempt asked answered hattempt hasked
    · intro attempt asked accepted answered hattempt hasked hlate
      cases accepted with
      | true =>
          exact absurd (hin_time attempt asked answered hattempt hasked) (Nat.not_le.mpr hlate)
      | false => exact hattempt.of_refused hclock hrun hasked (Nat.le_of_lt hlate)

/-! ## A slow answer -/

section Fixture

/-- The connect, every read and the write take at most the timeout given for them. -/
structure World.Timely (world : World W) (clock readTimeout writeTimeout : W → Nat) : Prop where
  connect : ∀ port timeout w, clock (world.connect port timeout w).2 ≤ clock w + timeout
  readSet : ∀ timeout w, readTimeout (world.setReadTimeout timeout w).2 = timeout
  readKept : ∀ timeout w, readTimeout (world.setWriteTimeout timeout w).2 = readTimeout w ∧
    (∀ bytes, readTimeout (world.writeAll bytes w).2 = readTimeout w) ∧
    readTimeout (world.readByte w).2 = readTimeout w
  writeSet : ∀ timeout w, writeTimeout (world.setWriteTimeout timeout w).2 = timeout
  write : ∀ bytes w, clock (world.writeAll bytes w).2 ≤ clock w + writeTimeout w
  read : ∀ w, clock (world.readByte w).2 ≤ clock w + readTimeout w

structure Slow where
  time : Nat
  answer : Bytes
  readTimeout : Nat
  writeTimeout : Nat
  deriving DecidableEq, Repr

/-- Every process lives, the runtime listens, and its answer comes one byte a second. -/
def slowWorld : World Slow where
  instantLimit := 2 ^ 63
  now w := (w.time, w)
  sleep duration w := { w with time := w.time + duration }
  arrival _ w := (.arrived, w)
  wait _ _ w := (.ok none, w)
  openProcess _ w := (.ok 8, w)
  creationTime _ w := (.ok 1, w)
  isAlive _ w := (.ok true, w)
  isInJob _ _ w := (.ok true, w)
  tcpListenerTable family w := (.ok (fixtureTable family), w)
  tokenExists _ w := (some false, w)
  connect _ _ w := (true, w)
  setReadTimeout timeout w := (true, { w with readTimeout := timeout })
  setWriteTimeout timeout w := (true, { w with writeTimeout := timeout })
  writeAll _ w := (true, w)
  readByte w := (w.answer.head?, { w with
    time := w.time + min (seconds 1) w.readTimeout, answer := w.answer.tail })
  terminate _ w := (.ok (), w)
  activeProcessCount _ w := (.ok 0, w)
  joinStdout w := (true, w)
  joinStderr w := (some 0, w)
  verifySecurity w := (.ok (), w)
  cleanupSession w := (.ok (), w)
  createControlFile _ w := (.ok (), w)
  createSession w := (.ok fixtureSession, w)
  writeTokenFile _ _ w := (.ok (), w)
  createProcess _ w := (.ok fixtureLaunched, w)
  startMonitors _ w := (.ok (), w)

theorem slowWorld_clocked : slowWorld.Clocked Slow.time where
  reads := fun _ => rfl
  monotone := by
    intro w later hcall
    cases hcall with
    | sleep duration => exact Nat.le_add_right _ _
    | readByte => exact Nat.le_add_right _ _
    | _ => exact Nat.le_refl _

theorem slowWorld_timely : slowWorld.Timely Slow.time Slow.readTimeout Slow.writeTimeout where
  connect := fun _ _ _ => Nat.le_add_right _ _
  readSet := fun _ _ => rfl
  readKept := fun _ _ => ⟨rfl, fun _ => rfl, rfl⟩
  writeSet := fun _ _ => rfl
  write := fun _ _ => Nat.le_add_right _ _
  read := fun _ => Nat.add_le_add_left (Nat.min_le_right _ _) _

/-- The owner of a launch when it begins to wait, and the answer that it will get. -/
def slowStart (answer : Bytes) : Machine Slow :=
  ⟨RuntimeOwner.new fixturePort fixtureSecret .default fixtureSession fixtureProcess,
    monitorStdout fixtureJson fixturePort fixtureStdout, ⟨0, answer, 0, 0⟩, []⟩

def promptStart : Machine Slow := slowStart (asBytes "HTTP/1.1 200 OK\r\n")

/-- An answer of 17 bytes, one byte a second, is in time. -/
theorem ready_by_deadline_iff_prompt :
    .entered .ready ∈ (waitUntilReady slowWorld 4 promptStart).2.log ∧
    AcceptedInTime slowWorld Slow.time 4 promptStart := by
  have hanswers : (waitUntilReady slowWorld 4 promptStart).1 = .ok () ∧
      .entered .ready ∈ (waitUntilReady slowWorld 4 promptStart).2.log ∧
      (waitUntilReady slowWorld 4 promptStart).2.world.time ≤
        deadlineFrom Slow.time promptStart := by
    rw [promptStart, slowStart, monitorStdout_fixture]
    decide +kernel
  obtain ⟨hok, hmem, htime⟩ := hanswers
  have hrun : waitUntilReady slowWorld 4 promptStart =
      (.ok (), (waitUntilReady slowWorld 4 promptStart).2) := by
    rw [← hok]
  refine ⟨hmem, (ready_by_deadline_iff slowWorld_clocked rfl (by simp [promptStart, slowStart])
    hrun).mp ⟨fun _ => htime, fun attempt asked accepted answered hattempt hasked hlate => ?_⟩⟩
  cases accepted with
  | true =>
      obtain ⟨-, hworld⟩ := hattempt.of_accepted slowWorld_clocked hrun hasked
      rw [← hworld] at hlate
      exact absurd htime (Nat.not_le.mpr hlate)
  | false => exact hattempt.of_refused slowWorld_clocked hrun hasked (Nat.le_of_lt hlate)

def longStatusLine : Bytes := asBytes "HTTP/1.1 200 " ++ List.replicate 25 120 ++ asBytes "\r\n"

def slowRun : Except Stop Unit × Machine Slow :=
  superviseStartup slowWorld 4 (slowStart longStatusLine)

/-- A status line of 40 bytes, one byte a second, makes the owner ready after 40 seconds. -/
theorem ready_after_deadline :
    slowWorld.Clocked Slow.time ∧ slowWorld.Timely Slow.time Slow.readTimeout Slow.writeTimeout ∧
    launchValidatedInner slowWorld (fixturePlatform (.directory false)) 4 fixtureBundle
      fixturePort fixtureSecret .default (monitorStdout fixtureJson fixturePort fixtureStdout)
      ⟨0, longStatusLine, 0, 0⟩ = .owned (.ok ()) slowRun.2 ∧
    waitUntilReady slowWorld 4 (slowStart longStatusLine) = (.ok (), slowRun.2) ∧
    .entered .ready ∈ slowRun.2.log ∧ slowRun.2.owner.ownerState = .ready ∧
    deadlineFrom Slow.time (slowStart longStatusLine) = seconds 30 ∧
    slowRun.2.world.time = seconds 40 ∧
    ¬ ReadyByDeadline slowWorld Slow.time 4 (slowStart longStatusLine) slowRun.2 (.ok ()) := by
  have hanswers : slowRun.1 = .ok () ∧ .entered .ready ∈ slowRun.2.log ∧
      slowRun.2.owner.ownerState = .ready ∧
      deadlineFrom Slow.time (slowStart longStatusLine) = seconds 30 ∧
      slowRun.2.world.time = seconds 40 := by
    rw [slowRun, slowStart, monitorStdout_fixture]
    decide +kernel
  obtain ⟨hok, hmem, hready, hdeadline, htime⟩ := hanswers
  have hcommand : launchCommand (fixturePlatform (.directory false)) fixtureBundle fixturePort
      fixtureSession = .ok fixtureCommand := fixture_command
  have hlaunch : launchValidatedInner slowWorld (fixturePlatform (.directory false)) 4 fixtureBundle
      fixturePort fixtureSecret .default (monitorStdout fixtureJson fixturePort fixtureStdout)
      ⟨0, longStatusLine, 0, 0⟩ = .owned slowRun.1 slowRun.2 := by
    rw [slowRun, slowStart]
    simp only [launchValidatedInner, slowWorld, hcommand]
    rfl
  have hrun : superviseStartup slowWorld 4 (slowStart longStatusLine) =
      (slowRun.1, slowRun.2) := by rw [slowRun]
  rw [hok] at hlaunch hrun
  refine ⟨slowWorld_clocked, slowWorld_timely, hlaunch, waitUntilReady_of_supervised hrun, hmem,
    hready, hdeadline, htime, fun hby => ?_⟩
  have hlate := hby.ready hmem
  rw [hdeadline, htime] at hlate
  exact absurd hlate (by decide)

end Fixture

end Rpackit.Lifecycle
