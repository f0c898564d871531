import Rpackit.Lifecycle.Launch

/-! # Process identity

A ready owner holds two identities with creation times: one of the process it created, one
of the process that the launcher reported. A pid is not used again while its process is
held, so the two are equal exactly if the launcher reported the created process. Nothing in
a launch compares them.
-/

namespace Rpackit.Lifecycle

open Text Launcher Transport Rpackit.Bundle
open Rpackit.Windows (JobMemberProcess JobProcess LaunchError ProcessIdentity)

variable {W : Type} {world : World W}

/-! ## Identities -/

namespace RuntimeOwner

def runtimeIdentity (owner : RuntimeOwner) : Option ProcessIdentity :=
  owner.runtime.map fun runtime => runtime.identity

def launchIdentity (owner : RuntimeOwner) : Option ProcessIdentity :=
  owner.process.map fun process => process.identity

end RuntimeOwner

/-- Whoever opens the pid of a started process while it is held finds that process. -/
def World.KeepsPids (world : World W) : Prop :=
  ∀ process started, world.Started process started →
    ∀ asked handle opened, world.Reaches started asked →
      world.openProcess process.identity.pid asked = (.ok handle, opened) →
      ∀ later creationTime, world.Reaches opened later →
        (world.creationTime handle later).1 = .ok creationTime →
        creationTime = process.identity.creationTime

/-! ## Where a captured process comes from -/

/-- The pid of the process was opened since, and its creation time read from that handle. -/
def Opened (world : World W) (start : W) (member : JobMemberProcess) : Prop :=
  ∃ asked opened later, world.Reaches start asked ∧
    world.openProcess member.identity.pid asked = (.ok member.process, opened) ∧
    world.Reaches opened later ∧
    (world.creationTime member.process later).1 = .ok member.identity.creationTime

theorem Opened.after {start middle : W} {member : JobMemberProcess}
    (hopened : Opened world middle member) (hreaches : world.Reaches start middle) :
    Opened world start member := by
  obtain ⟨asked, opened, later, hasked, hhandle, hlater, htime⟩ := hopened
  exact ⟨asked, opened, later, hreaches.trans hasked, hhandle, hlater, htime⟩

theorem askNative_eq_ok {α : Type} {call : W → Except LaunchError α × W} {a : α}
    {start stop : Machine W} (hrun : askNative call start = (.ok a, stop)) :
    call start.world = (.ok a, stop.world) := by
  have hask : askNative call start =
      ((call start.world).1, start.calls (call start.world).2) := by
    change (Program.ofExcept (call start.world).1 (start.calls (call start.world).2)) = _
    rfl
  rw [hask] at hrun
  obtain ⟨hanswer, rfl⟩ := Prod.mk.inj hrun
  exact Prod.ext hanswer rfl

theorem captureJobMember_opened {process : JobProcess} {pid : UInt32} {member : JobMemberProcess}
    {before after : Machine W}
    (hrun : captureJobMember world process pid before = (.ok member, after)) :
    Opened world before.world member := by
  have hframe : ∀ {handle : Nat} {start stop : Machine W},
      requireAlive world handle start = (.ok (), stop) → world.Reaches start.world stop.world := by
    intro handle start stop halive
    obtain ⟨seen, hfollows⟩ := (closed_followed.requireAlive handle).moved halive
    exact hfollows.world
  unfold captureJobMember at hrun
  split at hrun
  · cases hrun
  obtain ⟨handle, opened, hopen, hrun⟩ := Program.bind_eq_ok_iff.mp hrun
  obtain ⟨_, noted, hnoted, hrun⟩ := Program.bind_eq_ok_iff.mp hrun
  obtain ⟨_, alive, halive, hrun⟩ := Program.bind_eq_ok_iff.mp hrun
  obtain ⟨creationTime, read, hread, hrun⟩ := Program.bind_eq_ok_iff.mp hrun
  obtain ⟨_, joined, -, hrun⟩ := Program.bind_eq_ok_iff.mp hrun
  obtain ⟨_, last, -, hrun⟩ := Program.bind_eq_ok_iff.mp hrun
  obtain ⟨rfl, -⟩ := Program.pure_eq_ok_iff.mp hrun
  have hsame : noted.world = opened.world := by
    cases hnoted
    rfl
  refine ⟨before.world, opened.world, alive.world, .refl, askNative_eq_ok hopen, ?_, ?_⟩
  · rw [← hsame]
    exact hframe halive
  · rw [askNative_eq_ok hread]

theorem asks_owner : Asks world fun start stop => stop.owner = start.owner where
  refl := fun _ => rfl
  trans := fun hfirst hsecond => hsecond.trans hfirst
  call := fun _ => rfl
  plain := fun _ _ _ => rfl

/-- The process stays, and a runtime that is new was opened on the way. -/
structure Captures (world : World W) (start stop : Machine W) : Prop where
  reaches : world.Reaches start.world stop.world
  process : stop.owner.process = start.owner.process
  runtime : stop.owner.runtime = start.owner.runtime ∨
    ∃ member, stop.owner.runtime = some member ∧ Opened world start.world member

theorem startupClosed_captures : StartupClosed world (Captures world) where
  refl := fun machine => ⟨.refl, rfl, .inl rfl⟩
  trans := by
    intro start middle stop hfirst hsecond
    refine ⟨hfirst.reaches.trans hsecond.reaches, hsecond.process.trans hfirst.process, ?_⟩
    rcases hsecond.runtime with hkept | ⟨member, hruntime, hopened⟩
    · rw [hkept]
      exact hfirst.runtime
    · exact .inr ⟨member, hruntime, hopened.after hfirst.reaches⟩
  call := fun hcall => ⟨.single hcall, rfl, .inl rfl⟩
  plain := fun machine _ _ => ⟨.refl, rfl, .inl rfl⟩
  take := by
    intro machine message rest hchannel
    refine ⟨.refl, ?_, .inl ?_⟩
    · cases message <;> rfl
    · cases message <;> rfl
  capture := by
    intro process pid member before after hrun
    obtain ⟨seen, hfollows⟩ := (closed_followed.captureJobMember process pid).moved hrun
    have howner : after.owner = before.owner := (asks_owner.captureJobMember process pid).moved hrun
    have hprocess : after.owner.process = before.owner.process :=
      congrArg RuntimeOwner.process howner
    exact ⟨hfollows.world, hprocess, .inr ⟨member, rfl, captureJobMember_opened hrun⟩⟩
  ready := fun machine => ⟨.refl, rfl, .inl rfl⟩

/-! ## Every launch -/

/-- In every launch that returns a ready owner, the captured runtime is the created process
exactly if the `listening` event of the launcher names its pid. -/
theorem runtime_identity_iff {json : JsonDecoder} {port : UInt16} {stdout stderr : List PipeRead}
    {platform : Platform} {fuel : Nat} {bundle : ValidatedBundle} {secret : Secret}
    {limits : LifecycleLimits} {channel : List MonitorMessage} {w : W} {machine : Machine W}
    (hchannel : Interleaving (monitorStdout json port stdout) (drainStderr 0 stderr).1 channel)
    (hpids : world.KeepsPids)
    (hlaunch : launchValidatedInner world platform fuel bundle port secret limits channel w =
      .owned (.ok ()) machine) :
    ∃ process starting listening later, machine.owner.process = some process ∧
      world.Created process ∧ decodedEvents json .withDefaultLimit stdout =
        .starting starting :: .listening listening :: later ∧
      (machine.owner.runtimeIdentity = machine.owner.launchIdentity ↔
        listening.pid = process.identity.pid) := by
  obtain ⟨session, process, started, hstarted, hrun⟩ := launchValidatedInner_owned hlaunch
  have hcaptures := (startupClosed_captures.within_waitUntilReady fuel).moved
    (waitUntilReady_of_supervised hrun)
  obtain ⟨-, evidence, seen, starting, listening, hready⟩ :=
    (readyOwner_of_launched hchannel hlaunch).resolve_right fun hfailed => by
      obtain ⟨⟨error, herror⟩, -⟩ := hfailed
      cases herror
  obtain ⟨later, hevents⟩ := hready.events
  have hprocess : machine.owner.process = some process := hcaptures.process
  refine ⟨process, starting, listening, later, hprocess, hstarted.created, hevents, ?_⟩
  have hruntimeIdentity : machine.owner.runtimeIdentity = some evidence.member.identity := by
    rw [RuntimeOwner.runtimeIdentity, hready.captured]
    rfl
  have hlaunchIdentity : machine.owner.launchIdentity = some process.identity := by
    rw [RuntimeOwner.launchIdentity, hprocess]
    rfl
  rw [hruntimeIdentity, hlaunchIdentity, Option.some.injEq, ← hready.identity]
  refine ⟨fun hsame => congrArg ProcessIdentity.pid hsame, fun hpid => ?_⟩
  -- no runtime was held at the start, so the member was opened by its pid
  obtain ⟨member, hmember, asked, opened, read, hasked, hhandle, hread, htime⟩ :=
    hcaptures.runtime.resolve_left fun hkept => by
      rw [hready.captured] at hkept
      cases hkept
  obtain rfl := Option.some.inj (hready.captured.symm.trans hmember)
  rw [hpid] at hhandle
  have hcreation : evidence.member.identity.creationTime = process.identity.creationTime :=
    hpids process started hstarted asked _ opened hasked hhandle read _ hread htime
  rcases hidentity : evidence.member.identity with ⟨pid, creationTime⟩
  rw [hidentity] at hpid hcreation
  obtain rfl : pid = process.identity.pid := hpid
  obtain rfl : creationTime = process.identity.creationTime := hcreation
  rfl

/-! ## The process of another pid -/

section Fixture

/-- A launch that creates one process, while the launcher reports another one of the Job. -/
def descendantWorld : World Bytes :=
  { fixtureWorld with createProcess := fun _ w => (.ok ⟨4, 5, some 6, some 7, ⟨1000, 1⟩⟩, w) }

theorem fixtureWorld_keepsPids : fixtureWorld.KeepsPids := by
  intro process started hstarted asked handle opened _ _ later creationTime _ hread
  obtain ⟨command, w, launched, created, hcreated, -, rfl⟩ := hstarted
  cases hcreated
  cases hread
  rfl

theorem descendantWorld_keepsPids : descendantWorld.KeepsPids := by
  intro process started hstarted asked handle opened _ _ later creationTime _ hread
  obtain ⟨command, w, launched, created, hcreated, -, rfl⟩ := hstarted
  cases hcreated
  cases hread
  rfl

theorem runtime_identity_iff_fixture : ∃ process starting listening later,
    fixtureRun.2.owner.process = some process ∧ fixtureWorld.Created process ∧
      decodedEvents fixtureJson .withDefaultLimit fixtureStdout =
        .starting starting :: .listening listening :: later ∧
      (fixtureRun.2.owner.runtimeIdentity = fixtureRun.2.owner.launchIdentity ↔
        listening.pid = process.identity.pid) := by
  have hstderr : (drainStderr 0 []).1 = [] := rfl
  have hchannel := Interleaving.nil_right (monitorStdout fixtureJson fixturePort fixtureStdout)
  rw [← hstderr] at hchannel
  have hok : fixtureRun.1 = .ok () := by
    rw [fixtureRun, monitorStdout_fixture]
    decide +kernel
  have hlaunch := fixtureRun_launched
  rw [hok] at hlaunch
  exact runtime_identity_iff hchannel fixtureWorld_keepsPids hlaunch

def descendantRun : Except Stop Unit × Machine Bytes :=
  superviseStartup descendantWorld 4 ⟨RuntimeOwner.new fixturePort fixtureSecret .default
    fixtureSession ⟨4, 5, none, none, ⟨1000, 1⟩⟩,
    monitorStdout fixtureJson fixturePort fixtureStdout, asBytes "HTTP/1.1 200 OK\r\n", []⟩

/-- The reported process is captured and listens; the owner is ready with two identities. -/
theorem descendant_captured : descendantWorld.KeepsPids ∧
    launchValidatedInner descendantWorld (fixturePlatform (.directory false)) 4 fixtureBundle
      fixturePort fixtureSecret .default (monitorStdout fixtureJson fixturePort fixtureStdout)
      (asBytes "HTTP/1.1 200 OK\r\n") = .owned (.ok ()) descendantRun.2 ∧
    descendantRun.2.owner.runtimeIdentity = some ⟨fixturePid, 1⟩ ∧
    descendantRun.2.owner.launchIdentity = some ⟨1000, 1⟩ ∧
    descendantRun.2.owner.runtimeIdentity ≠ descendantRun.2.owner.launchIdentity := by
  have hanswers : descendantRun.1 = .ok () ∧
      descendantRun.2.owner.runtimeIdentity = some ⟨fixturePid, 1⟩ ∧
      descendantRun.2.owner.launchIdentity = some ⟨1000, 1⟩ := by
    rw [descendantRun, monitorStdout_fixture]
    decide +kernel
  obtain ⟨hok, hruntime, hlaunched⟩ := hanswers
  have hcommand : launchCommand (fixturePlatform (.directory false)) fixtureBundle fixturePort
      fixtureSession = .ok fixtureCommand := fixture_command
  have hlaunch : launchValidatedInner descendantWorld (fixturePlatform (.directory false)) 4
      fixtureBundle fixturePort fixtureSecret .default
      (monitorStdout fixtureJson fixturePort fixtureStdout) (asBytes "HTTP/1.1 200 OK\r\n") =
        .owned descendantRun.1 descendantRun.2 := by
    rw [descendantRun]
    simp only [launchValidatedInner, descendantWorld, fixtureWorld, hcommand, JobProcess.takeStdout,
      JobProcess.takeStderr]
  rw [hok] at hlaunch
  refine ⟨descendantWorld_keepsPids, hlaunch, hruntime, hlaunched, ?_⟩
  rw [hruntime, hlaunched]
  decide

end Fixture

end Rpackit.Lifecycle
