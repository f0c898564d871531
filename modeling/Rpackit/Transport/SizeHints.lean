import Rpackit.Transport.RequestStream
import Rpackit.Transport.ResponseFilter

/-! # Size hints

Each guard tells how many bytes it may still yield, from the hint of its inner body,
its limit and its declared length. In every run that ends cleanly the hint is right
at every point, and a guard that says it is at its end yields no more data.
-/

namespace Rpackit.Transport

open Text

variable {B ε : Type}

/-! ## Hints -/

/-- `SizeHint`: its setters keep the lower bound below the upper one. -/
structure SizeHint where
  lower : Nat
  upper : Option Nat
  ordered : ∀ bound ∈ upper, lower ≤ bound

namespace SizeHint

def withExact (length : Nat) : SizeHint :=
  ⟨length, some length, fun _ hbound => (Option.some.inj hbound).le⟩

def withUpper (bound : Nat) : SizeHint := ⟨0, some bound, fun _ _ => Nat.zero_le _⟩

/-- The hint of an inner body, cut down to the bytes that the limit leaves. -/
def clamp (inner : SizeHint) (remaining : Nat) : SizeHint :=
  let lower := min inner.lower remaining
  let upper := min (inner.upper.getD remaining) remaining
  ⟨lower, some (max upper lower), fun _ hbound => (Option.some.inj hbound) ▸ le_max_right _ _⟩

/-- The bounds of a hint hold of a number of bytes. -/
structure Bounds (hint : SizeHint) (count : Nat) : Prop where
  lower : hint.lower ≤ count
  upper : ∀ bound ∈ hint.upper, count ≤ bound

theorem bounds_withExact (count : Nat) : (withExact count).Bounds count where
  lower := le_rfl
  upper _ hbound := (Option.some.inj hbound).le

theorem bounds_withUpper {count bound : Nat} (hbound : count ≤ bound) :
    (withUpper bound).Bounds count where
  lower := Nat.zero_le _
  upper _ hsame := (Option.some.inj hsame) ▸ hbound

/-- A count within the limit stays within the hint that is cut down to it. -/
theorem Bounds.clamp {inner : SizeHint} {count remaining : Nat} (hinner : inner.Bounds count)
    (hremaining : count ≤ remaining) : (inner.clamp remaining).Bounds count where
  lower := (min_le_left _ _).trans hinner.lower
  upper _ hbound := by
    obtain rfl := Option.some.inj hbound
    refine (le_min ?_ hremaining).trans (le_max_left _ _)
    cases hupper : inner.upper with
    | none => exact hremaining
    | some bound => exact hinner.upper bound hupper

end SizeHint

/-! ## The hints of the guards -/

def RequestBodyGuard.isEndStream (innerEnd : B → Bool) (guard : RequestBodyGuard B) : Bool :=
  guard.failed || guard.completed || innerEnd guard.inner

def RequestBodyGuard.sizeHint (innerHint : B → SizeHint) (guard : RequestBodyGuard B) : SizeHint :=
  if guard.failed || guard.completed then .withExact 0
  else (innerHint guard.inner).clamp (guard.maxBodyBytes - guard.bytesForwarded)

def ResponseBodyGuard.isEndStream (guard : ResponseBodyGuard B) : Bool := guard.terminal

def ResponseBodyGuard.sizeHint (guard : ResponseBodyGuard B) : SizeHint :=
  if guard.terminal then .withExact 0
  else
    match guard.sizeHintLength with
    | some declared => .withExact (declared - guard.bytesForwarded)
    | none => .withUpper (guard.maxBodyBytes - guard.bytesForwarded)

def DecodedBodyGuard.isEndStream (guard : DecodedBodyGuard B) : Bool := guard.terminal

def DecodedBodyGuard.sizeHint (innerHint : B → SizeHint) (guard : DecodedBodyGuard B) : SizeHint :=
  if guard.terminal then .withExact 0
  else (innerHint guard.inner).clamp (guard.maxBodyBytes - guard.bytesForwarded)

/-! ## Sound hints -/

/-- The hints of a body are sound from a state on: when the body goes on to end cleanly
its bytes are within the hint, and at its end it has no data frame left. -/
structure SoundAt (pollInner : B → FramePoll ε × B) (hint : SizeHint) (atEnd : Bool) (body : B) :
    Prop where
  bounds : ∀ count, EndsCleanly (Poll.first pollInner count body).1 →
    hint.Bounds (dataBytes (Poll.first pollInner count body).1).length
  atEnd : atEnd = true → ∀ count bytes,
    .ready (some (.ok (.data bytes))) ∉ (Poll.first pollInner count body).1

/-- The hints of a body are sound in every state that it reaches. -/
def SoundBody (pollInner : B → FramePoll ε × B) (innerHint : B → SizeHint) (innerEnd : B → Bool)
    (body : B) : Prop :=
  ∀ reached, SoundAt pollInner (innerHint (Poll.first pollInner reached body).2)
    (innerEnd (Poll.first pollInner reached body).2) (Poll.first pollInner reached body).2

/-- What a guard says of itself agrees with what it still answers. -/
structure SoundGuard (hint : SizeHint) (atEnd : Bool) (answers : List (FramePoll IoError)) :
    Prop where
  ordered : ∀ bound ∈ hint.upper, hint.lower ≤ bound
  lower : hint.lower ≤ (dataBytes answers).length
  upper : ∀ bound ∈ hint.upper, (dataBytes answers).length ≤ bound
  atEnd : atEnd = true → ∀ bytes, .ready (some (.ok (.data bytes))) ∉ answers

theorem SizeHint.Bounds.soundGuard {hint : SizeHint} {atEnd : Bool}
    {answers : List (FramePoll IoError)} (hbounds : hint.Bounds (dataBytes answers).length)
    (hatEnd : atEnd = true → ∀ bytes, .ready (some (.ok (.data bytes))) ∉ answers) :
    SoundGuard hint atEnd answers :=
  ⟨hint.ordered, hbounds.lower, hbounds.upper, hatEnd⟩

/-- A silent guard yields nothing. -/
theorem soundGuard_silent (atEnd : Bool) (count : Nat) :
    SoundGuard (.withExact 0) atEnd (List.replicate count (.ready none)) := by
  have hdata : dataBytes (List.replicate count (.ready none : FramePoll IoError)) = [] :=
    dataBytes_replicate rfl count
  apply SizeHint.Bounds.soundGuard
  · rw [hdata]
    exact SizeHint.bounds_withExact 0
  · intro _ bytes hmem
    cases List.eq_of_mem_replicate hmem

/-! ## Sound guards -/

section Runs

open BodyFilter

variable {G ι : Type} {filter : BodyFilter G B} {pollInner : B → FramePoll ε × B}
  {innerHint : B → SizeHint} {innerEnd : B → Bool} {inner : B}

/-- A live filter in a run that ends cleanly, hinting by its inner body and its limit. -/
theorem BodyFilter.CleanRest.clamp_bounds {start guard : G} {answers : List (FramePoll IoError)}
    {reached count : Nat} (hrest : CleanRest filter pollInner start guard answers reached count)
    (hinner : SoundBody pollInner innerHint innerEnd (filter.inner start)) :
    ((innerHint (filter.inner guard)).clamp
      (filter.maxBodyBytes start - filter.bytesForwarded guard)).Bounds
        (dataBytes answers).length := by
  have hsound := (hinner reached).bounds count
  rw [← hrest.inner] at hsound
  have hbounds := hsound hrest.ends
  rw [← hrest.forwards] at hbounds
  apply hbounds.clamp
  have hlimit := hrest.withinLimit
  omega

theorem BodyFilter.CleanRest.no_data {start guard : G} {answers : List (FramePoll IoError)}
    {reached count : Nat} (hrest : CleanRest filter pollInner start guard answers reached count)
    (hinner : SoundBody pollInner innerHint innerEnd (filter.inner start))
    (hend : innerEnd (filter.inner guard) = true) :
    ∀ bytes, .ready (some (.ok (.data bytes))) ∉ answers := by
  intro bytes hmem
  have hsound := (hinner reached).atEnd
  rw [← hrest.inner] at hsound
  exact hsound hend count bytes (hrest.frames bytes hmem)

theorem request_sound (hinner : SoundBody pollInner innerHint innerEnd inner)
    (limits : TransportLimits) (earlier later : List RequestTick)
    (hends : EndsCleanly (Poll.run (RequestBodyGuard.pollFrame pollInner) (earlier ++ later)
      (RequestBodyGuard.new inner limits)).1) :
    let guard := (Poll.run (RequestBodyGuard.pollFrame pollInner) earlier
      (RequestBodyGuard.new inner limits)).2
    SoundGuard (guard.sizeHint innerHint) (guard.isEndStream innerEnd)
      (Poll.run (RequestBodyGuard.pollFrame pollInner) later guard).1 := by
  intro guard
  have hfilters := RequestBodyGuard.filters pollInner
  have hmax : guard.maxBodyBytes = limits.maxRequestBodyBytes :=
    (hfilters.run_bounded earlier (Nat.zero_le _)).1
  cases hlive : (RequestBodyGuard.filter B).terminal guard with
  | true =>
      rw [hfilters.run_terminal later hlive, RequestBodyGuard.sizeHint, if_pos (by exact hlive)]
      exact soundGuard_silent _ _
  | false =>
      obtain ⟨reached, count, hrest⟩ :=
        hfilters.clean_rest rfl (Nat.zero_le _) earlier later hends hlive
      rw [RequestBodyGuard.sizeHint, if_neg (by exact Bool.eq_false_iff.mp hlive), hmax]
      apply (hrest.clamp_bounds hinner).soundGuard
      intro hend
      rw [RequestBodyGuard.isEndStream, show (guard.failed || guard.completed) = false from hlive,
        Bool.false_or] at hend
      exact hrest.no_data hinner hend

theorem response_sound (declaredLength : Option Nat) (maxBodyBytes : Nat)
    (limits : TransportLimits) (earlier later : List Tick)
    (hends : EndsCleanly (Poll.run (ResponseBodyGuard.pollFrame pollInner) (earlier ++ later)
      (ResponseBodyGuard.streaming inner declaredLength maxBodyBytes limits)).1) :
    let guard := (Poll.run (ResponseBodyGuard.pollFrame pollInner) earlier
      (ResponseBodyGuard.streaming inner declaredLength maxBodyBytes limits)).2
    SoundGuard guard.sizeHint guard.isEndStream
      (Poll.run (ResponseBodyGuard.pollFrame pollInner) later guard).1 := by
  intro guard
  have hfilters := ResponseBodyGuard.filters pollInner
  have hmax : guard.maxBodyBytes = maxBodyBytes :=
    (hfilters.run_bounded earlier (Nat.zero_le _)).1
  have hkeep : ∀ tick (state : ResponseBodyGuard B), state.sizeHintLength = declaredLength →
      (ResponseBodyGuard.pollFrame pollInner tick state).2.sizeHintLength = declaredLength :=
    fun _ _ hstate => (ResponseBodyGuard.sizeHintLength_pollFrame pollInner).trans hstate
  have hlength : guard.sizeHintLength = declaredLength := Poll.run_invariant hkeep earlier rfl
  cases hlive : (ResponseBodyGuard.filter B).terminal guard with
  | true =>
      rw [hfilters.run_terminal later hlive, ResponseBodyGuard.sizeHint, if_pos (by exact hlive)]
      exact soundGuard_silent _ _
  | false =>
      obtain ⟨reached, count, hrest⟩ :=
        hfilters.clean_rest rfl (Nat.zero_le _) earlier later hends hlive
      have hbounds : guard.sizeHint.Bounds
          (dataBytes (Poll.run (ResponseBodyGuard.pollFrame pollInner) later guard).1).length := by
        rw [ResponseBodyGuard.sizeHint, if_neg (by exact Bool.eq_false_iff.mp hlive), hlength, hmax]
        cases declaredLength with
        | none =>
            have hlimit := hrest.withinLimit
            exact SizeHint.bounds_withUpper (Nat.le_sub_of_add_le' hlimit)
        | some declared =>
            have hwhole : guard.bytesForwarded + _ = declared := hrest.declared declared rfl
            change (SizeHint.withExact (declared - guard.bytesForwarded)).Bounds _
            rw [Nat.sub_eq_of_eq_add' hwhole.symm]
            exact SizeHint.bounds_withExact _
      exact hbounds.soundGuard fun hend => absurd hend (Bool.eq_false_iff.mp hlive)

theorem decoded_sound (hinner : SoundBody pollInner innerHint innerEnd inner) (maxBodyBytes : Nat)
    (earlier later : List Unit)
    (hends : EndsCleanly (Poll.run (fun _ => DecodedBodyGuard.pollFrame pollInner)
      (earlier ++ later) (DecodedBodyGuard.new inner maxBodyBytes)).1) :
    let guard := (Poll.run (fun _ => DecodedBodyGuard.pollFrame pollInner) earlier
      (DecodedBodyGuard.new inner maxBodyBytes)).2
    SoundGuard (guard.sizeHint innerHint) guard.isEndStream
      (Poll.run (fun _ => DecodedBodyGuard.pollFrame pollInner) later guard).1 := by
  intro guard
  have hfilters := DecodedBodyGuard.filters pollInner
  have hmax : guard.maxBodyBytes = maxBodyBytes :=
    (hfilters.run_bounded earlier (Nat.zero_le _)).1
  cases hlive : (DecodedBodyGuard.filter B).terminal guard with
  | true =>
      rw [hfilters.run_terminal later hlive, DecodedBodyGuard.sizeHint, if_pos (by exact hlive)]
      exact soundGuard_silent _ _
  | false =>
      obtain ⟨reached, count, hrest⟩ :=
        hfilters.clean_rest rfl (Nat.zero_le _) earlier later hends hlive
      rw [DecodedBodyGuard.sizeHint, if_neg (by exact Bool.eq_false_iff.mp hlive), hmax]
      apply (hrest.clamp_bounds hinner).soundGuard
      exact fun hend => absurd hend (Bool.eq_false_iff.mp hlive)

/-- The hints of the three guards are sound at every point of a run that ends cleanly,
for every inner body with sound hints. -/
theorem guards_hint_soundly (hinner : SoundBody pollInner innerHint innerEnd inner)
    (limits : TransportLimits) :
    (∀ earlier later, EndsCleanly (Poll.run (RequestBodyGuard.pollFrame pollInner)
        (earlier ++ later) (RequestBodyGuard.new inner limits)).1 →
      let guard := (Poll.run (RequestBodyGuard.pollFrame pollInner) earlier
        (RequestBodyGuard.new inner limits)).2
      SoundGuard (guard.sizeHint innerHint) (guard.isEndStream innerEnd)
        (Poll.run (RequestBodyGuard.pollFrame pollInner) later guard).1) ∧
    (∀ declaredLength maxBodyBytes earlier later,
      EndsCleanly (Poll.run (ResponseBodyGuard.pollFrame pollInner) (earlier ++ later)
        (ResponseBodyGuard.streaming inner declaredLength maxBodyBytes limits)).1 →
      let guard := (Poll.run (ResponseBodyGuard.pollFrame pollInner) earlier
        (ResponseBodyGuard.streaming inner declaredLength maxBodyBytes limits)).2
      SoundGuard guard.sizeHint guard.isEndStream
        (Poll.run (ResponseBodyGuard.pollFrame pollInner) later guard).1) ∧
    ∀ maxBodyBytes earlier later,
      EndsCleanly (Poll.run (fun (_ : Unit) => DecodedBodyGuard.pollFrame pollInner)
        (earlier ++ later) (DecodedBodyGuard.new inner maxBodyBytes)).1 →
      let guard := (Poll.run (fun (_ : Unit) => DecodedBodyGuard.pollFrame pollInner) earlier
        (DecodedBodyGuard.new inner maxBodyBytes)).2
      SoundGuard (guard.sizeHint innerHint) guard.isEndStream
        (Poll.run (fun (_ : Unit) => DecodedBodyGuard.pollFrame pollInner) later guard).1 := by
  refine ⟨?_, ?_, ?_⟩
  · intro earlier later hends
    exact request_sound hinner limits earlier later hends
  · intro declaredLength maxBodyBytes earlier later hends
    exact response_sound declaredLength maxBodyBytes limits earlier later hends
  · intro maxBodyBytes earlier later hends
    exact decoded_sound hinner maxBodyBytes earlier later hends

end Runs

/-! ## A body of one frame -/

/-- `Full`: all bytes at once, then the end. -/
def pollFull : Bytes → FramePoll Unit × Bytes
  | [] => (.ready none, [])
  | first :: rest => (.ready (some (.ok (.data (first :: rest)))), [])

theorem first_pollFull_nil (count : Nat) :
    Poll.first pollFull count [] = (List.replicate count (.ready none), []) := by
  induction count with
  | zero => rfl
  | succ count ih => rw [Poll.first_succ, pollFull, ih, List.replicate_succ]

theorem dataBytes_first_pollFull {count : Nat} {body : Bytes}
    (hends : EndsCleanly (Poll.first pollFull count body).1) :
    dataBytes (Poll.first pollFull count body).1 = body := by
  cases body with
  | nil => rw [first_pollFull_nil, dataBytes_replicate rfl]
  | cons first rest =>
      cases count with
      | zero => cases hends
      | succ count =>
          rw [Poll.first_succ, pollFull, first_pollFull_nil, dataBytes_cons,
            dataBytes_replicate rfl, List.append_nil]
          rfl

/-- Its hints are exact. -/
theorem soundBody_full (body : Bytes) :
    SoundBody pollFull (fun rest => .withExact rest.length) List.isEmpty body := by
  intro reached
  generalize (Poll.first pollFull reached body).2 = rest
  constructor
  · intro count hends
    rw [dataBytes_first_pollFull hends]
    exact SizeHint.bounds_withExact _
  · intro hempty count bytes hmem
    rw [List.isEmpty_iff.mp hempty, first_pollFull_nil] at hmem
    cases List.eq_of_mem_replicate hmem

/-- A full request body of three bytes hints at three bytes, and yields them. -/
theorem guards_hint_soundly_full :
    (RequestBodyGuard.new (asBytes "abc") defaultLimits).sizeHint
        (fun rest => .withExact rest.length) = .withExact 3 ∧
      SoundGuard (.withExact 3) false
        (Poll.run (RequestBodyGuard.pollFrame pollFull)
          (List.replicate 2 ⟨⟨0, false, false⟩, false⟩)
          (RequestBodyGuard.new (asBytes "abc") defaultLimits)).1 := by
  have hsound := (guards_hint_soundly (soundBody_full (asBytes "abc")) defaultLimits).1 []
    (List.replicate 2 ⟨⟨0, false, false⟩, false⟩) (by unfold EndsCleanly; decide +kernel)
  exact ⟨rfl, hsound⟩

end Rpackit.Transport
