import Rpackit.Lifecycle.Record

/-! # Progress of a starting owner

Until it is ready a starting owner only extends its record, takes messages from
the channel in order, and keeps its handles. What a program observed on the way
to its value is the content of its specification.
-/

namespace Rpackit.Lifecycle

open Text Launcher Transport
open Program (fail)
open Rpackit.Windows (JobMemberProcess JobProcess)

variable {W : Type} {ε α β : Type}

/-! ## Records -/

/-- An observation that does not speak against readiness. -/
def Observation.isBenign : Observation → Bool
  | .received message => message.isStartup
  | .waited _ exitCode => exitCode.isNone
  | .tokenExists present => !present
  | .alive _ answer => answer
  | .inJob _ _ member => member
  | .released _ => false
  | .removing _ => false
  | .entered _ => false
  | _ => true

def Benign (seen : List Observation) : Prop := ∀ observation ∈ seen, observation.isBenign = true

@[simp] theorem benign_nil : Benign [] := by simp [Benign]

theorem Benign.append {first second : List Observation} (hfirst : Benign first)
    (hsecond : Benign second) : Benign (first ++ second) := by
  intro observation hmem
  exact (List.mem_append.mp hmem).elim (hfirst observation) (hsecond observation)

/-- A benign record that passed the milestones in their order. -/
structure Gate (milestones seen : List Observation) : Prop where
  benign : Benign seen
  passed : milestones.Sublist seen

theorem Gate.single {observation : Observation} (hbenign : observation.isBenign = true) :
    Gate [observation] [observation] :=
  ⟨fun _ hmem => List.mem_singleton.mp hmem ▸ hbenign, List.Sublist.refl _⟩

theorem Gate.append {first second seen later : List Observation} (hfirst : Gate first seen)
    (hsecond : Gate second later) : Gate (first ++ second) (seen ++ later) :=
  ⟨hfirst.benign.append hsecond.benign, hfirst.passed.append hsecond.passed⟩

theorem Gate.after {milestones seen later : List Observation} (hseen : Benign seen)
    (hlater : Gate milestones later) : Gate milestones (seen ++ later) :=
  ⟨hseen.append hlater.benign, hlater.passed.trans (List.sublist_append_right _ _)⟩

/-! ## Progress -/

/-- What a starting owner keeps. -/
structure Handles where
  upstreamPort : UInt16
  upstreamSecret : Option Secret
  process : Option JobProcess
  runtime : Option JobMemberProcess

def RuntimeOwner.handles (owner : RuntimeOwner) : Handles :=
  ⟨owner.upstreamPort, owner.upstreamSecret, owner.process, owner.runtime⟩

structure Progress (start stop : Machine W) (seen : List Observation) : Prop where
  log : stop.log = start.log ++ seen
  channel : start.channel = received seen ++ stop.channel
  notReady : .entered .ready ∉ seen
  ownerState : stop.owner.ownerState = start.owner.ownerState
  handles : stop.owner.handles = start.owner.handles

theorem Progress.refl (machine : Machine W) : Progress machine machine [] :=
  ⟨by simp, rfl, by simp, rfl, rfl⟩

theorem Progress.trans {start middle stop : Machine W} {first second : List Observation}
    (hfirst : Progress start middle first) (hsecond : Progress middle stop second) :
    Progress start stop (first ++ second) where
  log := by rw [hsecond.log, hfirst.log, List.append_assoc]
  channel := by rw [received_append, hfirst.channel, hsecond.channel, List.append_assoc]
  notReady := fun hmem =>
    (List.mem_append.mp hmem).elim hfirst.notReady hsecond.notReady
  ownerState := hsecond.ownerState.trans hfirst.ownerState
  handles := hsecond.handles.trans hfirst.handles

/-- From a starting owner with these handles, the program makes progress: its
value comes with a record in `Q`, its error with one in `F`. -/
def Advances (handles : Handles) (x : Program (Machine W) ε α)
    (Q : α → List Observation → Prop) (F : ε → List Observation → Prop) : Prop :=
  ∀ start : Machine W, start.owner.ownerState = .starting → start.owner.handles = handles →
    x.Ensures start (fun a stop => ∃ seen, Progress start stop seen ∧ Q a seen)
      fun error stop => ∃ seen, Progress start stop seen ∧ F error seen

variable {handles : Handles} {Q : α → List Observation → Prop} {F : ε → List Observation → Prop}

theorem Advances.mono {x : Program (Machine W) ε α} {Q' : α → List Observation → Prop}
    {F' : ε → List Observation → Prop} (hx : Advances handles x Q F)
    (hQ : ∀ a seen, Q a seen → Q' a seen) (hF : ∀ error seen, F error seen → F' error seen) :
    Advances handles x Q' F' := fun start hstate hhandles =>
  (hx start hstate hhandles).mono (fun a _ h => h.imp fun seen h => ⟨h.1, hQ a seen h.2⟩)
    fun error _ h => h.imp fun seen h => ⟨h.1, hF error seen h.2⟩

/-- Sequencing: the record of the second program follows that of the first. -/
theorem Advances.bind {x : Program (Machine W) ε α} {f : α → Program (Machine W) ε β}
    {R : β → List Observation → Prop} {F' : ε → List Observation → Prop}
    (hx : Advances handles x Q F') (hF : ∀ error seen, F' error seen → F error seen)
    (hf : ∀ a first, Q a first → Advances handles (f a) (fun b second => R b (first ++ second))
      fun error second => F error (first ++ second)) :
    Advances handles (x >>= f) R F := by
  intro start hstate hhandles
  refine Program.Ensures.bind ((hx start hstate hhandles).mono (fun _ _ h => h)
    fun error _ h => h.imp fun seen h => ⟨h.1, hF error seen h.2⟩) ?_
  rintro a middle ⟨first, hfirst, hQ⟩
  refine (hf a first hQ middle (hfirst.ownerState.trans hstate)
    (hfirst.handles.trans hhandles)).mono ?_ ?_
  · rintro b stop ⟨second, hsecond, hR⟩
    exact ⟨first ++ second, hfirst.trans hsecond, hR⟩
  · rintro error stop ⟨second, hsecond, hfail⟩
    exact ⟨first ++ second, hfirst.trans hsecond, hfail⟩

theorem advances_pure {a : α} (hQ : Q a []) :
    Advances handles (pure a : Program (Machine W) ε α) Q F := fun start _ _ =>
  ⟨[], Progress.refl start, hQ⟩

theorem advances_fail {error : ε} (hF : F error []) :
    Advances handles (fail error : Program (Machine W) ε α) Q F := fun start _ _ =>
  ⟨[], Progress.refl start, hF⟩

theorem advances_ask (call : W → α × W) :
    Advances handles (ask call : Program (Machine W) ε α) (fun _ seen => seen = []) F :=
  fun start _ _ => ⟨[], ⟨by simp, rfl, by simp, rfl, rfl⟩, rfl⟩

theorem advances_observe (observation : Observation) (hready : observation ≠ .entered .ready)
    (hchannel : received [observation] = []) :
    Advances handles (observe observation : Program (Machine W) ε Unit)
      (fun _ seen => seen = [observation]) F :=
  fun start _ _ => ⟨[observation], ⟨rfl, by rw [hchannel]; rfl, by simpa using hready.symm, rfl,
    rfl⟩, rfl⟩

theorem advances_modifyOwner {f : RuntimeOwner → RuntimeOwner}
    (hf : ∀ owner, (f owner).ownerState = owner.ownerState ∧ (f owner).handles = owner.handles) :
    Advances handles (modifyOwner f : Program (Machine W) ε Unit) (fun _ seen => seen = []) F :=
  fun start _ _ => ⟨[], ⟨(List.append_nil _).symm, rfl, by simp, (hf _).1, (hf _).2⟩, rfl⟩

theorem advances_readOwner :
    Advances handles (readOwner : Program (Machine W) ε RuntimeOwner)
      (fun owner seen => seen = [] ∧ owner.ownerState = .starting ∧ owner.handles = handles) F :=
  fun start hstate hhandles => ⟨[], Progress.refl start, rfl, hstate, hhandles⟩

/-! ## Programs of the owner -/

/-- Progress of a program whose errors end the startup. -/
def Makes (handles : Handles) (x : Owner W α) (Q : α → List Observation → Prop) : Prop :=
  Advances handles x Q fun _ _ => True

theorem Makes.mono {x : Owner W α} {Q' : α → List Observation → Prop} (hx : Makes handles x Q)
    (hQ : ∀ a seen, Q a seen → Q' a seen) : Makes handles x Q' :=
  Advances.mono hx hQ fun _ _ _ => trivial

theorem Makes.bind {x : Owner W α} {f : α → Owner W β} {R : β → List Observation → Prop}
    (hx : Makes handles x Q)
    (hf : ∀ a first, Q a first → Makes handles (f a) fun b second => R b (first ++ second)) :
    Makes handles (x >>= f) R :=
  Advances.bind hx (fun _ _ _ => trivial) hf

/-- A first program that observes nothing. -/
theorem Makes.bindSilent {x : Owner W α} {f : α → Owner W β} {P : α → Prop}
    {R : β → List Observation → Prop} (hx : Makes handles x fun a seen => seen = [] ∧ P a)
    (hf : ∀ a, P a → Makes handles (f a) R) : Makes handles (x >>= f) R := by
  apply hx.bind
  rintro a _ ⟨rfl, hP⟩
  exact hf a hP

theorem makes_pure {a : α} (hQ : Q a []) : Makes handles (pure a : Owner W α) Q := advances_pure hQ

theorem makes_failed {error : LifecycleError} : Makes handles (failed error : Owner W α) Q :=
  advances_fail trivial

theorem makes_running : Makes handles (fail .running : Owner W α) Q := advances_fail trivial

theorem makes_ask (call : W → α × W) :
    Makes handles (ask call) fun _ seen => seen = [] ∧ True :=
  Advances.mono (advances_ask call) (fun _ _ h => ⟨h, trivial⟩) fun _ _ h => h

theorem makes_observe (observation : Observation) (hready : observation ≠ .entered .ready)
    (hchannel : received [observation] = []) :
    Makes handles (observe observation : Owner W Unit) fun _ seen => seen = [observation] :=
  advances_observe observation hready hchannel

theorem makes_readOwner : Makes handles (readOwner : Owner W RuntimeOwner) fun owner seen =>
    seen = [] ∧ owner.ownerState = .starting ∧ owner.handles = handles := advances_readOwner

theorem makes_okOrFail {value : Option α} {error : LifecycleError} :
    Makes handles (okOrFail value error : Owner W α) fun a seen => seen = [] ∧ value = some a := by
  cases value with
  | none => exact makes_failed
  | some a => exact makes_pure ⟨rfl, rfl⟩

theorem makes_processRef : Makes handles (processRef : Owner W JobProcess) fun process seen =>
    seen = [] ∧ handles.process = some process := by
  apply makes_readOwner.bindSilent
  rintro owner ⟨-, rfl⟩
  exact makes_okOrFail

theorem makes_runtimeRef : Makes handles (runtimeRef : Owner W JobMemberProcess) fun runtime seen =>
    seen = [] ∧ handles.runtime = some runtime := by
  apply makes_readOwner.bindSilent
  rintro owner ⟨-, rfl⟩
  exact makes_okOrFail

theorem makes_sessionRef : Makes handles (sessionRef : Owner W PrivateSession) fun _ seen =>
    seen = [] ∧ True := by
  apply makes_readOwner.bindSilent
  intro owner _
  exact makes_okOrFail.mono fun _ _ h => ⟨h.1, trivial⟩

end Rpackit.Lifecycle
