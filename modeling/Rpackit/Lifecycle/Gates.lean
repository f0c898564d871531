import Rpackit.Lifecycle.Progress

/-! # The gates of a startup

One specification for each program of the owner: which observations stand behind
its value. A gate that is not passed is an error, and the errors end the startup;
only a listener that is not there yet is polled again.
-/

namespace Rpackit.Lifecycle

open Text Launcher Transport
open Program (fail)
open Rpackit.Windows (AddressFamily JobMemberProcess JobProcess LaunchError ListenerRow exactRows
  rowsOnPort)

variable {W : Type} {α β : Type} {handles : Handles} {world : World W}

/-! ## Native checks -/

/-- Progress of a native check. A missing listener leaves a benign record. -/
def Checks (handles : Handles) (x : Native W α) (Q : α → List Observation → Prop) : Prop :=
  Advances handles x Q fun error seen => error = .expectedListenerNotFound → Benign seen

theorem Checks.mono {x : Native W α} {Q Q' : α → List Observation → Prop} (hx : Checks handles x Q)
    (hQ : ∀ a seen, Q a seen → Q' a seen) : Checks handles x Q' :=
  Advances.mono hx hQ fun _ _ h => h

theorem Checks.bind {x : Native W α} {f : α → Native W β} {Q : α → List Observation → Prop}
    {R : β → List Observation → Prop} (hx : Checks handles x Q)
    (hbenign : ∀ a first, Q a first → Benign first)
    (hf : ∀ a first, Q a first → Checks handles (f a) fun b second => R b (first ++ second)) :
    Checks handles (x >>= f) R :=
  Advances.bind hx (fun _ _ h => h) fun a first hQ =>
    Advances.mono (hf a first hQ) (fun _ _ h => h) fun _ _ h heq =>
      (hbenign a first hQ).append (h heq)

theorem checks_askNative (call : W → Except LaunchError α × W) :
    Checks handles (askNative call) fun _ seen => seen = [] := by
  refine Advances.bind (advances_ask _) (fun _ _ h => h) ?_
  rintro answer _ rfl
  cases answer with
  | ok a => exact advances_pure rfl
  | error error => exact advances_fail fun _ => benign_nil

theorem checks_readListenerTable (family : AddressFamily)
    (rows : List UInt64 → Except LaunchError α) :
    Checks handles (readListenerTable world family rows) fun _ seen => seen = [] := by
  refine (checks_askNative _).bind (fun _ _ h => h ▸ benign_nil) ?_
  rintro table _ rfl
  cases rows table with
  | ok listed => exact advances_pure rfl
  | error error => exact advances_fail fun _ => benign_nil

theorem checks_observe (observation : Observation) (hready : observation ≠ .entered .ready)
    (hchannel : received [observation] = []) :
    Checks handles (observe observation : Native W Unit) fun _ seen => seen = [observation] :=
  advances_observe observation hready hchannel

theorem makes_liftNative {x : Native W α} {Q : α → List Observation → Prop}
    (hx : Checks handles x Q) : Makes handles (liftNative x) Q := fun start hstate hhandles =>
  Program.Ensures.mapError ((hx start hstate hhandles).mono (fun _ _ h => h)
    fun _ _ h => h.imp fun _ h => ⟨h.1, trivial⟩)

/-- An answer that is recorded and must be positive. -/
theorem checks_required {call : W → Except LaunchError Bool × W} {record : Bool → Observation}
    {error : LaunchError} (hready : ∀ answer, record answer ≠ .entered .ready)
    (hchannel : ∀ answer, received [record answer] = [])
    (hbenign : (record true).isBenign = true) (herror : error ≠ .expectedListenerNotFound) :
    Checks handles (do
      let answer ← askNative call
      observe (record answer)
      if answer then return () else fail error : Native W Unit)
      fun _ seen => Gate [record true] seen := by
  refine Advances.bind (checks_askNative call) (fun _ _ h => h) ?_
  rintro answer _ rfl
  refine Advances.bind (advances_observe _ (hready answer) (hchannel answer)) (fun _ _ h => h) ?_
  rintro _ _ rfl
  cases answer with
  | true => exact advances_pure (Gate.single hbenign)
  | false => exact advances_fail fun heq => absurd heq herror

theorem checks_requireAlive (handle : Nat) : Checks handles (requireAlive world handle)
    fun _ seen => Gate [.alive handle true] seen :=
  checks_required nofun (fun _ => rfl) rfl nofun

theorem checks_requireInJob (handle job : Nat) : Checks handles (requireInJob world handle job)
    fun _ seen => Gate [.inJob handle job true] seen :=
  checks_required nofun (fun _ => rfl) rfl nofun

/-- The observations of a captured process: opened, alive and in the Job. -/
def captureMilestones (process : JobProcess) (member : JobMemberProcess) : List Observation :=
  [.opened member.identity.pid member.process, .alive member.process true,
    .inJob member.process process.job true, .alive member.process true]

theorem checks_captureJobMember (process : JobProcess) (pid : UInt32) :
    Checks handles (captureJobMember world process pid) fun member seen =>
      member.identity.pid = pid ∧ Gate (captureMilestones process member) seen := by
  unfold captureJobMember
  split
  · exact advances_fail nofun
  refine (checks_askNative _).bind (fun _ _ h => h ▸ benign_nil) ?_
  rintro handle _ rfl
  have hopened : Gate [.opened pid handle] [.opened pid handle] := Gate.single rfl
  refine (checks_observe (.opened pid handle) nofun rfl).bind (fun _ _ h => h ▸ hopened.benign) ?_
  rintro _ _ rfl
  refine (checks_requireAlive handle).bind (fun _ _ h => h.benign) fun _ first hfirst => ?_
  refine (checks_askNative _).bind (fun _ _ h => h ▸ benign_nil) ?_
  rintro creationTime _ rfl
  refine (checks_requireInJob handle process.job).bind (fun _ _ h => h.benign)
    fun _ inside hinside => ?_
  refine (checks_requireAlive handle).bind (fun _ _ h => h.benign) fun _ last hlast => ?_
  refine advances_pure ⟨rfl, ?_⟩
  have hall := hopened.append (hfirst.append (hinside.append hlast))
  simpa [captureMilestones] using hall

/-- Exactly one listener row is on the port, the loopback row of the process, and
no IPv6 listener is. -/
structure OwnsListener (ipv4 : List ListenerRow) (ipv6 : List UInt16) (port : UInt16)
    (pid : UInt32) : Prop where
  exact : exactRows ipv4 port pid = 1
  alone : rowsOnPort ipv4 port = 1
  noIpv6 : port ∉ ipv6

def listenerMilestones (process : JobProcess) (member : JobMemberProcess)
    (ipv4 : List ListenerRow) (ipv6 : List UInt16) : List Observation :=
  [.alive member.process true, .inJob member.process process.job true, .listeners ipv4 ipv6,
    .inJob member.process process.job true, .alive member.process true]

theorem checks_verifyIpv4Listener (process : JobProcess) (member : JobMemberProcess)
    (port : UInt16) : Checks handles (verifyIpv4Listener world process member port) fun _ seen =>
      ∃ ipv4 ipv6, OwnsListener ipv4 ipv6 port member.identity.pid ∧
        Gate (listenerMilestones process member ipv4 ipv6) seen := by
  unfold verifyIpv4Listener
  split
  · exact advances_fail nofun
  refine (checks_requireAlive _).bind (fun _ _ h => h.benign) fun _ first hfirst => ?_
  refine (checks_requireInJob _ _).bind (fun _ _ h => h.benign) fun _ inside hinside => ?_
  refine (checks_readListenerTable .inet _).bind (fun _ _ h => h ▸ benign_nil) ?_
  rintro ipv4 _ rfl
  refine (checks_readListenerTable .inet6 _).bind (fun _ _ h => h ▸ benign_nil) ?_
  rintro ipv6 _ rfl
  have htable : Gate [.listeners ipv4 ipv6] [.listeners ipv4 ipv6] := Gate.single rfl
  refine (checks_observe (.listeners ipv4 ipv6) nofun rfl).bind (fun _ _ h => h ▸ htable.benign) ?_
  rintro _ _ rfl
  dsimp only
  split
  · exact advances_fail nofun
  next hconflict =>
    split
    · exact advances_fail fun _ => benign_nil
    next hexact =>
      refine (checks_requireInJob _ _).bind (fun _ _ h => h.benign) fun _ again hagain => ?_
      apply (checks_requireAlive _).mono
      intro _ last hlast
      simp only [not_or, not_lt, not_not] at hconflict
      have hone : exactRows ipv4 port member.identity.pid = 1 := by omega
      refine ⟨ipv4, ipv6, ⟨hone, hconflict.1.trans hone, List.count_eq_zero.mp hconflict.2.2⟩, ?_⟩
      have hall := hfirst.append (hinside.append (htable.append (hagain.append hlast)))
      simpa [listenerMilestones] using hall

/-! ## The owner's own gates -/

theorem makes_verifyTokenConsumed : Makes handles (verifyTokenConsumed world)
    fun _ seen => seen = [.tokenExists false] := by
  apply makes_sessionRef.bindSilent
  intro session _
  apply (makes_ask _).bindSilent
  intro present _
  cases present with
  | none => exact makes_failed
  | some present =>
      apply (makes_observe (.tokenExists present) nofun rfl).bind
      rintro _ _ rfl
      cases present with
      | true => exact makes_failed
      | false => exact makes_pure rfl

theorem makes_waitForProcess (handle timeout : Nat) :
    Makes handles (liftNative (waitForProcess world handle timeout)) fun exitCode seen =>
      seen = [.waited handle exitCode] := by
  refine makes_liftNative (Advances.bind (checks_askNative _) (fun _ _ h => h) ?_)
  rintro exitCode _ rfl
  refine Advances.bind (advances_observe (.waited handle exitCode) nofun rfl) (fun _ _ h => h) ?_
  rintro _ _ rfl
  exact advances_pure rfl

theorem makes_ensureWrapperAlive : Makes handles (ensureWrapperAliveBeforeReady world)
    fun _ seen => ∃ process, handles.process = some process ∧
      seen = [.waited process.process none] := by
  apply makes_processRef.bindSilent
  intro process hprocess
  apply (makes_waitForProcess _ _).bind
  rintro exitCode _ rfl
  cases exitCode with
  | some exitCode => exact makes_failed
  | none => exact makes_pure ⟨process, hprocess, rfl⟩

theorem makes_ensureProcessesAlive : Makes handles (ensureProcessesAliveBeforeReady world)
    fun _ seen => ∃ process member, handles.process = some process ∧
      handles.runtime = some member ∧
      Gate [.waited process.process none, .waited member.process none] seen := by
  apply makes_ensureWrapperAlive.bind
  rintro _ _ ⟨process, hprocess, rfl⟩
  apply makes_runtimeRef.bindSilent
  intro member hmember
  apply (makes_waitForProcess _ _).bind
  rintro exitCode _ rfl
  cases exitCode with
  | some exitCode => exact makes_failed
  | none =>
      have hwrapper : Gate [.waited process.process none] [.waited process.process none] :=
        Gate.single rfl
      exact makes_pure ⟨process, member, hprocess, hmember, hwrapper.append (Gate.single rfl)⟩

/-! ## The monitor channel -/

theorem makes_receive (timeout : Nat) : Makes handles (receive world timeout) fun answer seen =>
    (∃ message, answer = .message message ∧ seen = [.received message]) ∨
      ((∀ message, answer ≠ .message message) ∧ seen = []) := by
  intro start hstate hhandles
  unfold Program.Ensures
  rcases receive_cases world timeout start with
    ⟨message, rest, hchannel, hreceive⟩ | ⟨-, hreceive⟩ | ⟨-, hreceive⟩
  · rw [hreceive]
    exact ⟨[.received message], ⟨rfl, hchannel, by simp, rfl, rfl⟩, .inl ⟨message, rfl, rfl⟩⟩
  · rw [hreceive]
    exact ⟨[], ⟨(List.append_nil _).symm, rfl, by simp, rfl, rfl⟩, .inr ⟨nofun, rfl⟩⟩
  · rw [hreceive]
    exact ⟨[], ⟨(List.append_nil _).symm, rfl, by simp, rfl, rfl⟩, .inr ⟨nofun, rfl⟩⟩

/-- A strict owner that starts keeps events only. -/
theorem makes_applyMonitor (message : MonitorMessage) :
    Makes handles (applyMonitor message true : Owner W (Option MonitorEvent)) fun event seen =>
      seen = [] ∧ ∃ state launched, message = .event state launched ∧ event = some launched := by
  cases message with
  | event state event =>
      refine Makes.bind (advances_modifyOwner fun _ => ⟨rfl, rfl⟩) ?_
      rintro _ _ rfl
      exact makes_pure ⟨rfl, state, event, rfl, rfl⟩
  | protocolFailure error => exact makes_failed
  | stdoutReadFailure => exact makes_failed
  | stderrReadFailure => exact makes_failed
  | stdoutEnded state ignoredLines =>
      refine Makes.bind (advances_modifyOwner fun _ => ⟨rfl, rfl⟩) ?_
      rintro _ _ rfl
      apply makes_readOwner.bindSilent
      rintro owner ⟨hstate, -⟩
      rw [if_pos ⟨rfl, by rw [hstate]; nofun⟩]
      exact makes_failed

/-- A strict drain of a starting owner passes over startup events only. -/
theorem makes_checkDrained (state : LifecycleState) (event : MonitorEvent) :
    Makes handles (checkDrained (some event) : Owner W Unit) fun _ seen =>
      seen = [] ∧ (MonitorMessage.event state event).isStartup = true := by
  apply makes_readOwner.bindSilent
  rintro owner ⟨hstate, -⟩
  cases event with
  | starting pid => exact makes_pure ⟨rfl, rfl⟩
  | listening pid => exact makes_pure ⟨rfl, rfl⟩
  | launcherFailed phase => exact makes_failed
  | stopping =>
      dsimp only
      rw [if_pos (by rw [hstate]; nofun)]
      exact makes_failed
  | stopped pid =>
      dsimp only
      rw [if_pos (by rw [hstate]; nofun)]
      exact makes_failed

theorem makes_drainMonitor (fuel : Nat) : Makes handles (drainMonitor world true fuel)
    fun _ seen => Benign seen := by
  induction fuel with
  | zero => exact makes_running
  | succ fuel ih =>
      apply (makes_receive 0).bind
      rintro answer _ (⟨message, rfl, rfl⟩ | ⟨hnone, rfl⟩)
      · apply (makes_applyMonitor message).bind
        rintro _ _ ⟨rfl, state, event, rfl, rfl⟩
        apply (makes_checkDrained state event).bind
        rintro _ _ ⟨rfl, hstartup⟩
        apply ih.mono
        intro _ later hlater
        have hmessage : Gate [.received (.event state event)] [.received (.event state event)] :=
          Gate.single hstartup
        exact hmessage.benign.append hlater
      · cases answer with
        | message message => exact absurd rfl (hnone message)
        | nothing => exact makes_pure benign_nil
        | disconnected =>
            apply makes_readOwner.bindSilent
            rintro owner ⟨hstate, -⟩
            rw [if_pos ⟨rfl, by rw [hstate]; nofun⟩]
            exact makes_failed

/-! ## Listener and readiness -/

theorem makes_readClock : Makes handles (readClock world) fun _ seen => seen = [] ∧ True :=
  makes_ask _

theorem makes_sleepFor (duration : Nat) :
    Makes handles (sleepFor world duration) fun _ seen => seen = [] ∧ True := makes_ask _

theorem makes_remainingPoll (deadline : Nat) :
    Makes handles (remainingPoll world deadline) fun _ seen => seen = [] ∧ True := by
  apply makes_readClock.bindSilent
  intro now _
  apply makes_readOwner.bindSilent
  intro owner _
  exact makes_pure ⟨rfl, trivial⟩

theorem makes_checkedDeadline (duration : Nat) :
    Makes handles (checkedDeadline world duration) fun _ seen => seen = [] ∧ True := by
  apply makes_readClock.bindSilent
  intro now _
  split
  · exact makes_pure ⟨rfl, trivial⟩
  · exact makes_failed

/-- The gates of a process whose listener is verified. -/
structure ListenerVerified (handles : Handles) (seen : List Observation) (process : JobProcess)
    (member : JobMemberProcess) (ipv4 : List ListenerRow) (ipv6 : List UInt16) : Prop where
  launched : handles.process = some process
  captured : handles.runtime = some member
  owns : OwnsListener ipv4 ipv6 handles.upstreamPort member.identity.pid
  gate : Gate (listenerMilestones process member ipv4 ipv6) seen

/-- A table without the listener reads no more than a poll may read. -/
theorem makes_verified (process : JobProcess) (member : JobMemberProcess) (port : UInt16) :
    Makes handles ((verifyIpv4Listener world process member port).attempt : Owner W _)
      fun outcome seen => match outcome with
        | .ok () => ∃ ipv4 ipv6, OwnsListener ipv4 ipv6 port member.identity.pid ∧
            Gate (listenerMilestones process member ipv4 ipv6) seen
        | .error error => error = .expectedListenerNotFound → Benign seen := by
  intro start hstate hhandles
  refine (Program.Ensures.attempt
    (checks_verifyIpv4Listener process member _ start hstate hhandles)).mono ?_ fun _ _ h => h
  intro outcome stop h
  cases outcome <;> exact h

theorem makes_pollListener (listenerDeadline fuel : Nat) :
    Makes handles (pollListener world listenerDeadline fuel) fun _ seen =>
      ∃ process member ipv4 ipv6, ListenerVerified handles seen process member ipv4 ipv6 := by
  induction fuel with
  | zero => exact makes_running
  | succ fuel ih =>
      apply makes_ensureProcessesAlive.bind
      rintro _ alive ⟨_, _, -, -, halive⟩
      apply (makes_drainMonitor fuel).bind
      intro _ drained hdrained
      apply makes_processRef.bindSilent
      intro process hprocess
      apply makes_runtimeRef.bindSilent
      intro member hmember
      apply makes_readOwner.bindSilent
      rintro owner ⟨-, howner⟩
      apply (makes_verified process member owner.upstreamPort).bind
      intro outcome verified hverified
      have hbefore := halive.benign.append hdrained
      cases outcome with
      | ok _ =>
          obtain ⟨ipv4, ipv6, howns, hgate⟩ := hverified
          refine makes_pure ⟨process, member, ipv4, ipv6, hprocess, hmember, ?_, ?_⟩
          · rw [← howner]
            exact howns
          · rw [List.append_nil, ← List.append_assoc]
            exact Gate.after hbefore hgate
      | error error =>
          cases error with
          | expectedListenerNotFound =>
              apply makes_readClock.bindSilent
              intro now _
              split
              · apply (makes_remainingPoll _).bindSilent
                intro pause _
                apply (makes_sleepFor _).bindSilent
                intro _ _
                apply ih.mono
                rintro _ later ⟨process, member, ipv4, ipv6, hprocess, hmember, howns, hgate⟩
                refine ⟨process, member, ipv4, ipv6, hprocess, hmember, howns, ?_⟩
                rw [← List.append_assoc, ← List.append_assoc]
                exact Gate.after (hbefore.append (hverified rfl)) hgate
              · exact makes_failed
          | _ => exact makes_failed

theorem makes_waitForListener (startupDeadline fuel : Nat) :
    Makes handles (waitForListener world startupDeadline fuel) fun _ seen =>
      ∃ process member ipv4 ipv6, ListenerVerified handles seen process member ipv4 ipv6 := by
  apply makes_readOwner.bindSilent
  intro owner _
  apply (makes_checkedDeadline _).bindSilent
  intro deadline _
  exact makes_pollListener _ _

theorem makes_readStatusLine (remaining : Nat) (line : Bytes) :
    Makes handles (readStatusLine world remaining line) fun success seen => Benign seen ∧
      (success = true → ∃ text, successStatusLine text = true ∧ Gate [.statusLine text] seen) := by
  induction remaining generalizing line with
  | zero => exact makes_pure ⟨benign_nil, nofun⟩
  | succ remaining ih =>
      apply (makes_ask _).bindSilent
      intro byte _
      cases byte with
      | none => exact makes_pure ⟨benign_nil, nofun⟩
      | some byte =>
          dsimp only
          split
          · apply (makes_observe (.statusLine _) nofun rfl).bind
            rintro _ _ rfl
            exact makes_pure ⟨(Gate.single rfl).benign, fun hsuccess =>
              ⟨_, hsuccess, Gate.single rfl⟩⟩
          · exact ih _

def httpMilestones (port : UInt16) (secret : Secret) (text : Bytes) : List Observation :=
  [.connected port, .sent (readinessRequest port secret), .statusLine text]

theorem makes_authenticatedHttpReady (port : UInt16) (secret : Secret) (timeout : Nat) :
    Makes handles (authenticatedHttpReady world port secret timeout) fun success seen =>
      Benign seen ∧ (success = true → ∃ text, successStatusLine text = true ∧
        Gate (httpMilestones port secret text) seen) := by
  have hconnected : Gate [.connected port] [.connected port] := Gate.single rfl
  have hsent : Gate [.sent (readinessRequest port secret)] [.sent (readinessRequest port secret)] :=
    Gate.single rfl
  apply (makes_ask _).bindSilent
  intro connected _
  split
  · exact makes_pure ⟨benign_nil, nofun⟩
  apply (makes_observe (.connected port) nofun rfl).bind
  rintro _ _ rfl
  apply (makes_ask _).bindSilent
  intro readTimeoutSet _
  split
  · exact makes_failed
  apply (makes_ask _).bindSilent
  intro writeTimeoutSet _
  split
  · exact makes_failed
  apply (makes_ask _).bindSilent
  intro written _
  split
  · exact makes_pure ⟨hconnected.benign, nofun⟩
  apply (makes_observe (.sent _) nofun rfl).bind
  rintro _ _ rfl
  apply (makes_readStatusLine _ _).mono
  rintro success later ⟨hbenign, hline⟩
  refine ⟨hconnected.benign.append (hsent.benign.append hbenign), fun hsuccess => ?_⟩
  obtain ⟨text, htext, hgate⟩ := hline hsuccess
  exact ⟨text, htext, hconnected.append (hsent.append hgate)⟩

/-- The last gate: both processes are alive, and the port answers the secret. -/
structure Authenticated (handles : Handles) (seen : List Observation) (process : JobProcess)
    (member : JobMemberProcess) (secret : Secret) (text : Bytes) : Prop where
  launched : handles.process = some process
  captured : handles.runtime = some member
  authority : handles.upstreamSecret = some secret
  success : successStatusLine text = true
  gate : Gate ([.waited process.process none, .waited member.process none] ++
    httpMilestones handles.upstreamPort secret text) seen

theorem makes_waitForAuthenticatedReadiness (startupDeadline fuel : Nat) :
    Makes handles (waitForAuthenticatedReadiness world startupDeadline fuel) fun _ seen =>
      ∃ process member secret text, Authenticated handles seen process member secret text := by
  induction fuel with
  | zero => exact makes_running
  | succ fuel ih =>
      apply makes_ensureProcessesAlive.bind
      rintro _ alive ⟨process, member, hprocess, hmember, halive⟩
      apply (makes_drainMonitor fuel).bind
      intro _ drained hdrained
      apply makes_readClock.bindSilent
      intro now _
      split
      · exact makes_failed
      apply makes_readOwner.bindSilent
      rintro owner ⟨-, rfl⟩
      apply makes_okOrFail.bindSilent
      intro secret hsecret
      apply (makes_authenticatedHttpReady _ _ _).bind
      rintro success answered ⟨hbenign, hanswer⟩
      split
      next hsuccess =>
        obtain ⟨text, htext, hgate⟩ := hanswer hsuccess
        refine makes_pure ⟨process, member, secret, text, hprocess, hmember, hsecret, htext, ?_⟩
        rw [List.append_nil]
        exact halive.append (Gate.after hdrained hgate)
      next =>
        apply makes_readClock.bindSilent
        intro now _
        split
        · exact makes_failed
        apply (makes_remainingPoll _).bindSilent
        intro pause _
        apply (makes_sleepFor _).bindSilent
        intro _ _
        apply ih.mono
        rintro _ later ⟨process, member, secret, text, hprocess, hmember, hsecret, htext, hgate⟩
        refine ⟨process, member, secret, text, hprocess, hmember, hsecret, htext, ?_⟩
        rw [← List.append_assoc, ← List.append_assoc]
        -- the observations of a refused attempt stand before those of the later one
        exact Gate.after ((halive.benign.append hdrained).append hbenign) hgate

end Rpackit.Lifecycle
