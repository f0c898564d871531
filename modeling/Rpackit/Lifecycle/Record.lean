import Mathlib.Logic.Relation
import Rpackit.Lifecycle.Frame

/-! # The record of an owner

Every program of the owner extends its record. The messages in the record were taken
from the channel in order, and they are all that the owner knows of the launcher.
-/

namespace Rpackit.Lifecycle

variable {W : Type} {world : World W}

/-! ## Records -/

/-- The messages a record received. -/
def received : List Observation → List MonitorMessage
  | [] => []
  | .received message :: rest => message :: received rest
  | _ :: rest => received rest

@[simp] theorem received_append (first second : List Observation) :
    received (first ++ second) = received first ++ received second := by
  induction first with
  | nil => rfl
  | cons observation rest ih => cases observation <;> simp [received, ih]

theorem mem_received {seen : List Observation} {message : MonitorMessage} :
    message ∈ received seen ↔ .received message ∈ seen := by
  induction seen with
  | nil => simp [received]
  | cons observation rest ih => cases observation <;> simp [received, ih]

/-! ## Following the record -/

/-- What an owner that takes these messages knows. -/
def MonitorView.after (view : MonitorView) (messages : List MonitorMessage) : MonitorView :=
  messages.foldl MonitorView.noted view

/-- States of the operating system that calls of an owner lead to. -/
def World.Reaches (world : World W) : W → W → Prop := Relation.ReflTransGen world.Call

/-- A machine and a later one of the same owner: what it received was taken from the
channel in order and is all that it learned. -/
structure Follows (world : World W) (start stop : Machine W) (seen : List Observation) : Prop where
  log : stop.log = start.log ++ seen
  channel : start.channel = received seen ++ stop.channel
  view : stop.owner.view = start.owner.view.after (received seen)
  world : world.Reaches start.world stop.world

/-- Some record lies between two machines of an owner. -/
def Followed (world : World W) (start stop : Machine W) : Prop :=
  ∃ seen, Follows world start stop seen

theorem Follows.refl (machine : Machine W) : Follows world machine machine [] where
  log := (List.append_nil _).symm
  channel := rfl
  view := rfl
  world := .refl

theorem Follows.trans {start middle stop : Machine W} {first second : List Observation}
    (hfirst : Follows world start middle first) (hsecond : Follows world middle stop second) :
    Follows world start stop (first ++ second) where
  log := by rw [hsecond.log, hfirst.log, List.append_assoc]
  channel := by rw [received_append, hfirst.channel, hsecond.channel, List.append_assoc]
  view := by
    rw [hsecond.view, hfirst.view, received_append, MonitorView.after, MonitorView.after,
      ← List.foldl_append]
    rfl
  world := hfirst.world.trans hsecond.world

/-- An observation that is not a message. -/
theorem Follows.observed (machine : Machine W) {observation : Observation}
    (hmessage : received [observation] = []) :
    Follows world machine (machine.observes observation) [observation] where
  log := rfl
  channel := by rw [hmessage]; rfl
  view := by rw [hmessage]; rfl
  world := .refl

/-- What the owner holds may change without a message. -/
theorem Follows.held (machine : Machine W) {owner : RuntimeOwner}
    (hview : owner.view = machine.owner.view) : Follows world machine (machine.owns owner) [] where
  log := (List.append_nil _).symm
  channel := rfl
  view := hview
  world := .refl

theorem closed_followed : Closed world (Followed world) where
  refl := fun machine => ⟨[], .refl machine⟩
  trans := fun ⟨first, hfirst⟩ ⟨second, hsecond⟩ => ⟨first ++ second, hfirst.trans hsecond⟩
  call := fun hcall => ⟨[], (List.append_nil _).symm, rfl, rfl, .single hcall⟩
  plain := fun machine observation hplain =>
    ⟨[observation], .observed machine (by cases observation <;> first | rfl | cases hplain)⟩
  take := fun hchannel => ⟨[.received _], rfl, hchannel, RuntimeOwner.view_noted _ _, .refl⟩

theorem startupClosed_followed : StartupClosed world (Followed world) where
  toClosed := closed_followed
  capture := by
    intro process pid member before after hrun
    have hcaptured : Followed world before (captureJobMember world process pid before).2 :=
      closed_followed.captureJobMember process pid before
    rw [hrun] at hcaptured
    exact closed_followed.trans hcaptured ⟨[], .held after rfl⟩
  ready := fun machine =>
    ⟨[.entered .ready], (Follows.held machine (by rfl)).trans (.observed _ rfl)⟩

end Rpackit.Lifecycle
