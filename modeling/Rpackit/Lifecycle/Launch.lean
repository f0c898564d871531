import Rpackit.Lifecycle.Interpreter
import Rpackit.Lifecycle.Readiness

/-! # Launch

The startup events of a ready launch come from its launcher: the channel carries
the messages of both monitor threads in any interleaving, and what the owner
consumed is a prefix of it.
-/

namespace Rpackit.Lifecycle

open Text Launcher Transport Rpackit.Bundle
open Rpackit.Windows (AddressFamily JobProcess ipv4TableRows ipv6TablePorts localhost)

variable {W : Type} {world : World W}

/-! ## What the owner consumed -/

theorem drainStderr_not_startup {total : Nat} {reads : List PipeRead} {message : MonitorMessage}
    (hmem : message ∈ (drainStderr total reads).1) : message.isStartup = false := by
  induction reads generalizing total with
  | nil => cases hmem
  | cons read reads ih =>
      match read with
      | .failed => rw [List.mem_singleton.mp hmem]; rfl
      | .chunk [] => cases hmem
      | .chunk (byte :: bytes) => exact ih hmem

theorem Benign.isStartup_of_mem_received {seen : List Observation} (hseen : Benign seen)
    {message : MonitorMessage} (hmem : message ∈ received seen) : message.isStartup = true :=
  hseen _ (mem_received.mp hmem)

/-- Startup messages on the channel came from standard output. -/
theorem prefix_monitorStdout {json : JsonDecoder} {port : UInt16} {stdout stderr : List PipeRead}
    {channel taken rest : List MonitorMessage}
    (hchannel : Interleaving (monitorStdout json port stdout) (drainStderr 0 stderr).1 channel)
    (htaken : channel = taken ++ rest) (hstartup : ∀ message ∈ taken, message.isStartup = true) :
    taken <+: monitorStdout json port stdout := by
  refine hchannel.prefix_left ⟨rest, htaken.symm⟩ fun message hmem hstderr => ?_
  have hnot := drainStderr_not_startup hstderr
  rw [hstartup message hmem] at hnot
  cases hnot

/-! ## Ready launches -/

/-- The observations of a ready launch whose process has this pid, in their order. -/
def startupMilestones (evidence : Evidence) (port : UInt16) (pid : UInt32) : List Observation :=
  [.received (.event .starting (.starting pid)), .tokenExists false,
    .received (.event .listening (.listening pid))] ++ evidence.milestones port

/-- A ready owner: the launcher's first two events name the selected port and one
process, every gate was passed in order, and nothing spoke against readiness. -/
structure ReadyOwner (json : JsonDecoder) (port : UInt16) (secret : Secret)
    (stdout : List PipeRead) (machine : Machine W) (evidence : Evidence) (seen : List Observation)
    (starting : StartingEvent) (listening : ListeningEvent) : Prop where
  ownerState : machine.owner.ownerState = .ready
  events : ∃ later, decodedEvents json .withDefaultLimit stdout =
    .starting starting :: .listening listening :: later
  startingPort : starting.port = port
  listeningPort : listening.port = port
  samePid : starting.pid = listening.pid
  owned : machine.owner.process = some evidence.process
  captured : machine.owner.runtime = some evidence.member
  identity : evidence.member.identity.pid = listening.pid
  owns : OwnsListener evidence.ipv4 evidence.ipv6 port listening.pid
  authority : evidence.secret = secret
  success : successStatusLine evidence.statusLine = true
  consumed : received seen = [.event .starting (.starting listening.pid),
    .event .listening (.listening listening.pid)]
  log : machine.log = seen ++ [.entered .ready]
  benign : Benign seen
  passed : (startupMilestones evidence port listening.pid).Sublist seen

/-- The `starting` event of a launch is the message before its `listening` event. -/
theorem received_waits {waits later : List Observation} {pid : UInt32} {state : LifecycleState}
    (hreceived : received (waits ++ .received (.event state (.listening pid)) :: later) =
      [.event .starting (.starting pid), .event .listening (.listening pid)]) :
    received waits = [.event .starting (.starting pid)] ∧ state = .listening := by
  simp only [received_append, received] at hreceived
  rcases hwaits : received waits with _ | ⟨first, _ | ⟨second, rest⟩⟩
  · rw [hwaits] at hreceived
    simp at hreceived
  · rw [hwaits] at hreceived
    simp only [List.cons_append, List.nil_append, List.cons.injEq, MonitorMessage.event.injEq]
      at hreceived
    exact ⟨by rw [hreceived.1], hreceived.2.1.1⟩
  · rw [hwaits] at hreceived
    simp at hreceived

theorem readyOwner_of_listened {json : JsonDecoder} {stdout stderr : List PipeRead}
    {start stop : Machine W} {secret : Secret} {evidence : Evidence} {pid : UInt32}
    {state : LifecycleState} {waits later seen : List Observation}
    (hsecret : start.owner.upstreamSecret = some secret) (hlog : start.log = [])
    (hchannel : Interleaving (monitorStdout json start.owner.upstreamPort stdout)
      (drainStderr 0 stderr).1 start.channel) (hrun : ReadyRun start stop seen)
    (hlistened : Listened evidence start.owner.handles pid stop.owner state waits later seen) :
    ∃ starting listening, ReadyOwner json start.owner.upstreamPort secret stdout stop evidence seen
      starting listening := by
  obtain ⟨rfl, hwaits, hstarts, hholds, hgate⟩ := hlistened
  have hmessage : Gate [.received (.event state (.listening pid))]
      [.received (.event state (.listening pid))] := Gate.single rfl
  have hbenign : Benign (waits ++ ([.received (.event state (.listening pid))] ++ later)) :=
    hwaits.append (hmessage.benign.append hgate.benign)
  have hstartup : ∀ message ∈ received _, message.isStartup = true := fun _ =>
    hbenign.isStartup_of_mem_received
  have hlistening : MonitorMessage.event state (.listening pid) ∈
      received (waits ++ .received (.event state (.listening pid)) :: later) := by
    simp [received]
  obtain ⟨starting, listening, events, hevents, hport, hlisteningPort, hpid, rfl, hreceived⟩ :=
    startup_messages (prefix_monitorStdout hchannel hrun.channel hstartup) hstartup hlistening
  obtain ⟨hfirst, rfl⟩ := received_waits hreceived
  have hstarted := hstarts .starting listening.pid (mem_received.mp (by rw [hfirst]; simp))
  refine ⟨starting, listening, hrun.ownerState, ⟨events, hevents⟩, hport, hlisteningPort, hpid,
    hholds.owned, hholds.captured, hholds.identity, hholds.owns, ?_, hholds.success, hreceived, ?_,
    hbenign, ?_⟩
  · exact Option.some.inj (hholds.authority.symm.trans hsecret)
  · rw [hrun.log, hlog, List.nil_append]
  · exact hstarted.append (hgate.passed.cons_cons _)

/-- A process that some launch created, with its pipes taken. -/
def World.Created (world : World W) (process : JobProcess) : Prop :=
  ∃ command w launched, (world.createProcess command w).1 = .ok launched ∧
    process = launched.takeStdout.2.takeStderr.2

/-- A created process with its monitors started, and the operating system after that. -/
def World.Started (world : World W) (process : JobProcess) (started : W) : Prop :=
  ∃ command w launched created, world.createProcess command w = (.ok launched, created) ∧
    world.startMonitors launched created = (.ok (), started) ∧
    process = launched.takeStdout.2.takeStderr.2

theorem World.Started.created {process : JobProcess} {started : W}
    (hstarted : world.Started process started) : world.Created process := by
  obtain ⟨command, w, launched, created, hcreated, -, hprocess⟩ := hstarted
  exact ⟨command, w, launched, congrArg Prod.fst hcreated, hprocess⟩

/-- A launch that had an owner is a supervised startup of it. -/
theorem launchValidatedInner_owned {platform : Platform} {fuel : Nat} {bundle : ValidatedBundle}
    {port : UInt16} {secret : Secret} {limits : LifecycleLimits} {channel : List MonitorMessage}
    {w : W} {outcome : Except Stop Unit} {machine : Machine W}
    (hlaunch : launchValidatedInner world platform fuel bundle port secret limits channel w =
      .owned outcome machine) :
    ∃ session process started, world.Started process started ∧ superviseStartup world fuel
      ⟨RuntimeOwner.new port secret limits session process, channel, started, []⟩ =
        (outcome, machine) := by
  have hrefused : ∀ primary w, refusePrelaunch world primary w ≠ .owned outcome machine := by
    intro primary w hrefuse
    unfold refusePrelaunch at hrefuse
    split at hrefuse
    · cases hrefuse
    · cases hrefuse
  unfold launchValidatedInner at hlaunch
  split at hlaunch
  · cases hlaunch
  split at hlaunch
  · exact absurd hlaunch (hrefused _ _)
  split at hlaunch
  · exact absurd hlaunch (hrefused _ _)
  split at hlaunch
  · exact absurd hlaunch (hrefused _ _)
  next process created hcreated =>
    split at hlaunch
    · cases hlaunch
    next started hstarted =>
      obtain ⟨rfl, rfl⟩ := Launch.owned.inj hlaunch
      exact ⟨_, _, started, ⟨_, _, process, created, hcreated, hstarted, rfl⟩, rfl⟩

/-- A supervised startup succeeds only as the startup itself. -/
theorem waitUntilReady_of_supervised {fuel : Nat} {start stop : Machine W}
    (hrun : superviseStartup world fuel start = (.ok (), stop)) :
    waitUntilReady world fuel start = (.ok (), stop) := by
  obtain ⟨outcome, middle, hready, hrun⟩ := Program.bind_eq_ok_iff.mp hrun
  rw [Program.attempt_eq_ok_iff] at hready
  match outcome with
  | .ok () =>
      cases hrun
      exact hready
  | .error .running => cases hrun
  | .error (.failed primary) =>
      obtain ⟨cleanup, cleaned, -, hrun⟩ := Program.bind_eq_ok_iff.mp hrun
      cases hrun

/-- A launch either left a ready owner that passed every gate, or its owner never entered
the ready state. -/
theorem readyOwner_of_launched {json : JsonDecoder} {platform : Platform} {fuel : Nat}
    {bundle : ValidatedBundle} {port : UInt16} {secret : Secret} {limits : LifecycleLimits}
    {stdout stderr : List PipeRead} {channel : List MonitorMessage} {w : W}
    {outcome : Except Stop Unit} {machine : Machine W}
    (hchannel : Interleaving (monitorStdout json port stdout) (drainStderr 0 stderr).1 channel)
    (hlaunch : launchValidatedInner world platform fuel bundle port secret limits channel w =
      .owned outcome machine) :
    (outcome = .ok () ∧ ∃ evidence seen starting listening,
      ReadyOwner json port secret stdout machine evidence seen starting listening) ∨
    ((∃ error, outcome = .error error) ∧ .entered .ready ∉ machine.log) := by
  obtain ⟨session, process, started, -, hrun⟩ := launchValidatedInner_owned hlaunch
  have hensures : (superviseStartup world fuel).Ensures
      ⟨RuntimeOwner.new port secret limits session process, channel, started, []⟩ _ _ :=
    readies_superviseStartup fuel _ rfl rfl
  unfold Program.Ensures at hensures
  rw [hrun] at hensures
  cases outcome with
  | ok a =>
      obtain ⟨seen, hready, evidence, pid, state, waits, later, hlistened⟩ := hensures
      obtain ⟨starting, listening, howner⟩ :=
        readyOwner_of_listened rfl rfl hchannel hready hlistened
      exact .inl ⟨rfl, evidence, seen, starting, listening, howner⟩
  | error error =>
      obtain ⟨seen, hlog, hnot⟩ := hensures
      refine .inr ⟨⟨error, rfl⟩, ?_⟩
      rw [hlog]
      exact hnot

/-- Every launch that returns a ready owner, and every one whose owner ever entered
the ready state, passed every gate in order. -/
theorem launch_passes_every_gate (json : JsonDecoder) {platform : Platform} {fuel : Nat}
    {bundle : ValidatedBundle} {port : UInt16} {secret : Secret} {limits : LifecycleLimits}
    {stdout stderr : List PipeRead}
    {channel : List MonitorMessage} {w : W} {outcome : Except Stop Unit} {machine : Machine W}
    (hchannel : Interleaving (monitorStdout json port stdout) (drainStderr 0 stderr).1 channel)
    (hlaunch : launchValidatedInner world platform fuel bundle port secret limits channel w =
      .owned outcome machine)
    (hready : outcome = .ok () ∨ .entered .ready ∈ machine.log) :
    outcome = .ok () ∧ ∃ evidence seen starting listening,
      ReadyOwner json port secret stdout machine evidence seen starting listening := by
  rcases readyOwner_of_launched hchannel hlaunch with hpassed | ⟨⟨error, rfl⟩, hnot⟩
  · exact hpassed
  · rcases hready with hok | hmem
    · cases hok
    · exact absurd hmem hnot

/-! ## A launch that becomes ready -/

section Fixture

def fixturePort : UInt16 := 49152
def fixturePid : UInt32 := 4242

def startingJson : Bytes :=
  ["\x7b\"protocol_version\":\"2\",\"event\":\"starting\",",
    "\"timestamp\":\"2026-07-27 00:00:00 UTC\",\"pid\":4242,",
    "\"host\":\"127.0.0.1\",\"port\":49152,",
    "\"token_enforced\":true,\"graceful_stop\":true\x7d"].flatMap asBytes

def listeningJson : Bytes :=
  ["\x7b\"protocol_version\":\"2\",\"event\":\"listening\",",
    "\"timestamp\":\"2026-07-27 00:00:01 UTC\",\"pid\":4242,",
    "\"host\":\"127.0.0.1\",\"port\":49152,\"token_enforced\":true\x7d"].flatMap asBytes

/-- The standard output of the launcher: one chunk with both events. -/
def fixtureStdout : List PipeRead :=
  [.chunk (eventPrefix ++ startingJson ++ [lineFeed] ++ eventPrefix ++ listeningJson ++ [lineFeed])]

/-- The two objects above, field by field. -/
def fixtureJson : JsonDecoder := fun payload =>
  if payload = startingJson then
    some ⟨"2", "starting", some "2026-07-27 00:00:00 UTC", some fixturePid, some "127.0.0.1",
      some fixturePort, some true, some true, none, none, none⟩
  else if payload = listeningJson then
    some ⟨"2", "listening", some "2026-07-27 00:00:01 UTC", some fixturePid, some "127.0.0.1",
      some fixturePort, some true, none, none, none, none⟩
  else none

theorem monitorStdout_fixture : monitorStdout fixtureJson fixturePort fixtureStdout =
    [.event .starting (.starting fixturePid), .event .listening (.listening fixturePid)] := by
  decide +kernel

/-- One row, the loopback listener of the runtime, and no row of the other family. -/
def fixtureTable : AddressFamily → List UInt64
  | .inet => [0x0000000200000001, 0x000000C00100007F, 0, fixturePid.toUInt64]
  | .inet6 => [0]

theorem fixtureTable_rows :
    ipv4TableRows (fixtureTable .inet) = .ok [⟨fixturePort, localhost, fixturePid, true⟩] ∧
      ipv6TablePorts (fixtureTable .inet6) = .ok [] := by
  constructor
  all_goals decide +kernel

def fixtureLaunched : JobProcess := ⟨4, 5, some 6, some 7, ⟨fixturePid, 1⟩⟩

/-- What is left of it when its pipes are taken. -/
def fixtureProcess : JobProcess := ⟨4, 5, none, none, ⟨fixturePid, 1⟩⟩

/-- Every process lives, the runtime listens, and the answer of its port is the state. -/
def fixtureWorld : World Bytes where
  instantLimit := 2 ^ 63
  now w := (0, w)
  sleep _ w := w
  arrival _ w := (.arrived, w)
  wait _ _ w := (.ok none, w)
  openProcess _ w := (.ok 8, w)
  creationTime _ w := (.ok 1, w)
  isAlive _ w := (.ok true, w)
  isInJob _ _ w := (.ok true, w)
  tcpListenerTable family w := (.ok (fixtureTable family), w)
  tokenExists _ w := (some false, w)
  connect _ _ w := (true, w)
  setReadTimeout _ w := (true, w)
  setWriteTimeout _ w := (true, w)
  writeAll _ w := (true, w)
  readByte w := (w.head?, w.tail)
  terminate _ w := (.ok (), w)
  activeProcessCount _ w := (.ok 0, w)
  joinStdout w := (true, w)
  joinStderr w := (some 0, w)
  verifySecurity w := (.ok (), w)
  cleanupSession w := (.ok (), w)
  createControlFile _ w := (.ok (), w)
  createSession w := (.ok fixtureSession, w)
  writeTokenFile _ _ w := (.ok (), w)
  createProcess _ w := (.ok fixtureLaunched, w)
  startMonitors _ w := (.ok (), w)

def fixtureSecret : Secret := ⟨List.replicate 32 7, by decide⟩

def fixtureRun : Except Stop Unit × Machine Bytes :=
  superviseStartup fixtureWorld 4 ⟨RuntimeOwner.new fixturePort fixtureSecret .default
    fixtureSession fixtureProcess, monitorStdout fixtureJson fixturePort fixtureStdout,
    asBytes "HTTP/1.1 200 OK\r\n", []⟩

theorem fixtureRun_launched : launchValidatedInner fixtureWorld (fixturePlatform (.directory false))
    4 fixtureBundle fixturePort fixtureSecret .default
    (monitorStdout fixtureJson fixturePort fixtureStdout) (asBytes "HTTP/1.1 200 OK\r\n") =
      .owned fixtureRun.1 fixtureRun.2 := by
  have hcommand : launchCommand (fixturePlatform (.directory false)) fixtureBundle fixturePort
      fixtureSession = .ok fixtureCommand := fixture_command
  simp only [launchValidatedInner, fixtureWorld, hcommand]
  rfl

theorem launch_passes_every_gate_fixture : fixtureRun.1 = .ok () ∧
    ∃ evidence seen starting listening, ReadyOwner fixtureJson fixturePort fixtureSecret
      fixtureStdout fixtureRun.2 evidence seen starting listening := by
  have hstderr : (drainStderr 0 []).1 = [] := rfl
  have hchannel := Interleaving.nil_right (monitorStdout fixtureJson fixturePort fixtureStdout)
  rw [← hstderr] at hchannel
  have hok : fixtureRun.1 = .ok () := by
    rw [fixtureRun, monitorStdout_fixture]
    decide +kernel
  exact launch_passes_every_gate fixtureJson hchannel fixtureRun_launched (.inl hok)

end Fixture

end Rpackit.Lifecycle
