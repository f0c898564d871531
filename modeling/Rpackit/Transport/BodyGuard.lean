import Rpackit.Transport.ResponseBody

/-! # Guards as filters of a body

A body guard stands in front of an inner body. While it is live, a poll either
refuses without asking the inner body, or asks it once and forwards its answer,
rejects it or ends. After its first error or end the guard is silent. Whatever
follows from this alone is proved here for every such guard.
-/

namespace Rpackit.Transport

open Text

variable {ε : Type}

/-! ## Frames -/

def frameData : FramePoll ε → Bytes
  | .ready (some (.ok (.data bytes))) => bytes
  | _ => []

def dataBytes (answers : List (FramePoll ε)) : Bytes := answers.flatMap frameData

def isFinal : FramePoll ε → Bool
  | .ready none => true
  | .ready (some (.error _)) => true
  | _ => false

/-- The first error or end of a stream is an end. -/
def EndsCleanly (answers : List (FramePoll ε)) : Prop :=
  answers.find? isFinal = some (.ready none)

@[simp] theorem dataBytes_nil : dataBytes ([] : List (FramePoll ε)) = [] := rfl

@[simp] theorem dataBytes_cons (answer : FramePoll ε) (rest : List (FramePoll ε)) :
    dataBytes (answer :: rest) = frameData answer ++ dataBytes rest := rfl

@[simp] theorem dataBytes_append (first second : List (FramePoll ε)) :
    dataBytes (first ++ second) = dataBytes first ++ dataBytes second := List.flatMap_append

theorem dataBytes_replicate {answer : FramePoll ε} (hanswer : frameData answer = [])
    (count : Nat) : dataBytes (List.replicate count answer) = [] := by
  induction count with
  | zero => rfl
  | succ count ih => rw [List.replicate_succ, dataBytes_cons, ih, hanswer, List.append_nil]

theorem endsCleanly_cons_of_not_isFinal {answer : FramePoll ε} {rest : List (FramePoll ε)}
    (hanswer : isFinal answer = false) : EndsCleanly (answer :: rest) ↔ EndsCleanly rest := by
  rw [EndsCleanly, EndsCleanly, List.find?_cons_of_neg (by simp [hanswer])]

theorem endsCleanly_cons_of_isFinal {answer : FramePoll ε} {rest : List (FramePoll ε)}
    (hanswer : isFinal answer = true) : EndsCleanly (answer :: rest) ↔ answer = .ready none := by
  rw [EndsCleanly, List.find?_cons_of_pos hanswer, Option.some.injEq]

theorem endsCleanly_of_mem {answers : List (FramePoll ε)} (hend : .ready none ∈ answers)
    (hsound : ∀ error, .ready (some (.error error)) ∉ answers) : EndsCleanly answers := by
  induction answers with
  | nil => cases hend
  | cons answer rest ih =>
      cases hfinal : isFinal answer with
      | true =>
          rw [endsCleanly_cons_of_isFinal hfinal]
          match answer with
          | .ready none => rfl
          | .ready (some (.error error)) => exact absurd List.mem_cons_self (hsound error)
      | false =>
          rw [endsCleanly_cons_of_not_isFinal hfinal]
          refine ih ((List.mem_cons.mp hend).resolve_left ?_) fun error hmem =>
            hsound error (List.mem_cons_of_mem _ hmem)
          rintro rfl
          cases hfinal

/-! ## Filters -/

/-- A guard as a filter: its inner body, whether it is silent, what it has forwarded,
and the bounds it keeps. A clean end needs the declared length, if there is one. -/
structure BodyFilter (G B : Type) where
  inner : G → B
  terminal : G → Bool
  bytesForwarded : G → Nat
  maxBodyBytes : G → Nat
  declaredLength : G → Option Nat

namespace BodyFilter

variable {G B ι : Type}

/-- What one poll of a live guard does. -/
inductive Polled (filter : BodyFilter G B) (pollInner : B → FramePoll ε × B) (guard next : G) :
    FramePoll IoError → Prop
  | refused {error : IoError} (hinner : filter.inner next = filter.inner guard)
      (hterminal : filter.terminal next = true) :
      Polled filter pollInner guard next (.ready (some (.error error)))
  | rejected {answer : FramePoll ε} {error : IoError}
      (hpoll : pollInner (filter.inner guard) = (answer, filter.inner next))
      (hterminal : filter.terminal next = true)
      (hshort : answer = .ready none →
        ∃ length ∈ filter.declaredLength guard, filter.bytesForwarded guard ≠ length) :
      Polled filter pollInner guard next (.ready (some (.error error)))
  | pending (hpoll : pollInner (filter.inner guard) = (.pending, filter.inner next))
      (hlive : filter.terminal next = false)
      (hcount : filter.bytesForwarded next = filter.bytesForwarded guard) :
      Polled filter pollInner guard next .pending
  | forwarded {bytes : Bytes} (hpoll : pollInner (filter.inner guard) =
        (.ready (some (.ok (.data bytes))), filter.inner next))
      (hlive : filter.terminal next = false)
      (hcount : filter.bytesForwarded next = filter.bytesForwarded guard + bytes.length)
      (hlimit : filter.bytesForwarded next ≤ filter.maxBodyBytes guard)
      (hdeclared : ∀ length ∈ filter.declaredLength guard, filter.bytesForwarded next ≤ length) :
      Polled filter pollInner guard next (.ready (some (.ok (.data bytes))))
  | ended (hpoll : pollInner (filter.inner guard) = (.ready none, filter.inner next))
      (hterminal : filter.terminal next = true)
      (hwhole : ∀ length ∈ filter.declaredLength guard, filter.bytesForwarded guard = length) :
      Polled filter pollInner guard next (.ready none)

structure Step (filter : BodyFilter G B) (pollInner : B → FramePoll ε × B) (guard : G)
    (result : FramePoll IoError × G) : Prop where
  maxBodyBytes : filter.maxBodyBytes result.2 = filter.maxBodyBytes guard
  declaredLength : filter.declaredLength result.2 = filter.declaredLength guard
  polled : Polled filter pollInner guard result.2 result.1

/-- The polls of a guard are those of a filter, whatever the inputs of the polls are. -/
structure Filters (filter : BodyFilter G B) (pollInner : B → FramePoll ε × B)
    (poll : ι → G → FramePoll IoError × G) : Prop where
  silent : ∀ input guard, filter.terminal guard = true → poll input guard = (.ready none, guard)
  live : ∀ input guard, filter.terminal guard = false →
    Step filter pollInner guard (poll input guard)

/-- What a run of a guard answers, given the answers of the inner body that it read. -/
structure FilteredRun (filter : BodyFilter G B) (guard : G) (read : List (FramePoll ε))
    (answers : List (FramePoll IoError)) : Prop where
  forwarded : dataBytes answers <+: dataBytes read
  withinLimit : filter.bytesForwarded guard ≤ filter.maxBodyBytes guard →
    filter.bytesForwarded guard + (dataBytes answers).length ≤ filter.maxBodyBytes guard
  withinDeclared : ∀ length ∈ filter.declaredLength guard, filter.bytesForwarded guard ≤ length →
    filter.bytesForwarded guard + (dataBytes answers).length ≤ length
  ends : EndsCleanly answers ↔ .ready none ∈ read ∧ ∀ length ∈ filter.declaredLength guard,
    filter.bytesForwarded guard + (dataBytes answers).length = length
  whole : EndsCleanly answers → EndsCleanly read ∧ dataBytes answers = dataBytes read
  dataOnly : ∀ frame, .ready (some (.ok frame)) ∈ answers →
    ∃ bytes, frame = .data bytes ∧ .ready (some (.ok (.data bytes))) ∈ read
  latched : answers.Pairwise fun earlier later => isFinal earlier = true → later = .ready none
  waits : .pending ∈ answers → .pending ∈ read

variable {filter : BodyFilter G B}

theorem FilteredRun.nil (guard : G) : @FilteredRun ε G B filter guard [] [] where
  forwarded := List.prefix_rfl
  withinLimit := id
  withinDeclared := fun _ _ => id
  ends := by simp [EndsCleanly]
  whole := by simp [EndsCleanly]
  dataOnly := by simp
  latched := .nil
  waits := nofun

/-- After the last answer the guard only repeats the end. -/
theorem FilteredRun.final {guard : G} {read : List (FramePoll ε)} {answer : FramePoll IoError}
    (hfinal : isFinal answer = true)
    (hends : answer = .ready none ↔ .ready none ∈ read ∧
      ∀ length ∈ filter.declaredLength guard, filter.bytesForwarded guard = length)
    (hread : answer = .ready none → EndsCleanly read ∧ dataBytes read = []) (count : Nat) :
    FilteredRun filter guard read (answer :: List.replicate count (.ready none)) := by
  have hdata : dataBytes (answer :: List.replicate count (.ready none)) = [] := by
    rw [dataBytes_cons, dataBytes_replicate rfl, List.append_nil]
    match answer with
    | .ready none => rfl
    | .ready (some (.error _)) => rfl
  constructor
  case forwarded =>
    rw [hdata]
    exact List.nil_prefix
  case withinLimit =>
    rw [hdata]
    exact id
  case withinDeclared =>
    rw [hdata]
    exact fun _ _ => id
  case ends =>
    rw [hdata, endsCleanly_cons_of_isFinal hfinal]
    exact hends
  case whole =>
    rw [hdata, endsCleanly_cons_of_isFinal hfinal]
    exact fun hend => (hread hend).imp_right Eq.symm
  case dataOnly =>
    intro frame hmem
    rcases List.mem_cons.mp hmem with rfl | hrest
    · cases hfinal
    · cases List.eq_of_mem_replicate hrest
  case latched =>
    refine List.pairwise_cons.mpr ⟨fun later hlater _ => List.eq_of_mem_replicate hlater, ?_⟩
    exact List.pairwise_replicate.mpr (.inr fun _ => rfl)
  case waits =>
    intro hmem
    rcases List.mem_cons.mp hmem with rfl | hrest
    · cases hfinal
    · cases List.eq_of_mem_replicate hrest

/-- A poll that leaves the guard live comes before the rest of a run. -/
theorem FilteredRun.cons {guard next : G} {asked : FramePoll ε} {rest : List (FramePoll ε)}
    {answer : FramePoll IoError} {answers : List (FramePoll IoError)}
    (hrun : FilteredRun filter next rest answers)
    (hdeclared : filter.declaredLength next = filter.declaredLength guard)
    (hmax : filter.maxBodyBytes next = filter.maxBodyBytes guard)
    (hlive : isFinal answer = false) (hasked : isFinal asked = false)
    (hdata : frameData answer = frameData asked)
    (hcount : filter.bytesForwarded next =
      filter.bytesForwarded guard + (frameData answer).length)
    (hlimit : filter.bytesForwarded guard ≤ filter.maxBodyBytes guard →
      filter.bytesForwarded next ≤ filter.maxBodyBytes guard)
    (hlength : ∀ length ∈ filter.declaredLength guard, filter.bytesForwarded guard ≤ length →
      filter.bytesForwarded next ≤ length)
    (hframe : ∀ frame, answer = .ready (some (.ok frame)) →
      ∃ bytes, frame = .data bytes ∧ asked = .ready (some (.ok (.data bytes))))
    (hwaits : answer = .pending → asked = .pending) :
    FilteredRun filter guard (asked :: rest) (answer :: answers) := by
  have htotal : filter.bytesForwarded guard + (dataBytes (answer :: answers)).length =
      filter.bytesForwarded next + (dataBytes answers).length := by
    rw [dataBytes_cons, List.length_append, hcount, Nat.add_assoc]
  have hnot : asked ≠ .ready none := by
    rintro rfl
    cases hasked
  constructor
  case forwarded =>
    rw [dataBytes_cons, dataBytes_cons, hdata]
    exact (List.prefix_append_right_inj _).mpr hrun.forwarded
  case withinLimit =>
    intro hle
    rw [htotal, ← hmax]
    exact hrun.withinLimit (hmax ▸ hlimit hle)
  case withinDeclared =>
    intro length hmem hle
    rw [htotal]
    exact hrun.withinDeclared length (hdeclared ▸ hmem) (hlength length hmem hle)
  case ends =>
    rw [endsCleanly_cons_of_not_isFinal hlive, hrun.ends, htotal, hdeclared, List.mem_cons,
      or_iff_right (Ne.symm hnot)]
  case whole =>
    rw [endsCleanly_cons_of_not_isFinal hlive, endsCleanly_cons_of_not_isFinal hasked,
      dataBytes_cons, dataBytes_cons, hdata]
    exact fun hend => (hrun.whole hend).imp_right (congrArg _)
  case dataOnly =>
    intro frame hmem
    rcases List.mem_cons.mp hmem with heq | hrest
    · obtain ⟨bytes, hbytes, hsame⟩ := hframe frame heq.symm
      exact ⟨bytes, hbytes, hsame ▸ List.mem_cons_self⟩
    · obtain ⟨bytes, hbytes, hread⟩ := hrun.dataOnly frame hrest
      exact ⟨bytes, hbytes, List.mem_cons_of_mem _ hread⟩
  case latched =>
    exact List.pairwise_cons.mpr ⟨fun _ _ hfinal => absurd hfinal (by simp [hlive]), hrun.latched⟩
  case waits =>
    intro hmem
    rcases List.mem_cons.mp hmem with heq | hrest
    · exact (hwaits heq.symm) ▸ List.mem_cons_self
    · exact List.mem_cons_of_mem _ (hrun.waits hrest)

variable {pollInner : B → FramePoll ε × B} {poll : ι → G → FramePoll IoError × G}

theorem Filters.run_terminal (hfilters : Filters filter pollInner poll) (inputs : List ι)
    {guard : G} (hterminal : filter.terminal guard = true) :
    Poll.run poll inputs guard = (List.replicate inputs.length (.ready none), guard) := by
  induction inputs with
  | nil => rfl
  | cons input rest ih =>
      rw [Poll.run_cons, hfilters.silent input guard hterminal, ih, List.length_cons,
        List.replicate_succ]

/-- Every run of a live filter, whatever the inner body answers. -/
theorem Filters.run_filtered (hfilters : Filters filter pollInner poll) (inputs : List ι)
    {guard : G} (hlive : filter.terminal guard = false) :
    ∃ count, filter.inner (Poll.run poll inputs guard).2 =
        (Poll.first pollInner count (filter.inner guard)).2 ∧
      FilteredRun filter guard (Poll.first pollInner count (filter.inner guard)).1
        (Poll.run poll inputs guard).1 := by
  induction inputs generalizing guard with
  | nil => exact ⟨0, rfl, .nil guard⟩
  | cons input rest ih =>
      obtain ⟨hmax, hdeclared, hpolled⟩ := hfilters.live input guard hlive
      rw [Poll.run_cons]
      -- from here on the answer of the poll matters only through what the poll did
      generalize poll input guard = result at *
      obtain ⟨answer, next⟩ := result
      cases hpolled with
      | refused hinner hterminal =>
          rw [hfilters.run_terminal rest hterminal]
          refine ⟨0, hinner, FilteredRun.final rfl ?_ ?_ _⟩
          · simp
          · simp
      | rejected hpoll hterminal hshort =>
          rw [hfilters.run_terminal rest hterminal]
          refine ⟨1, by simp [hpoll], ?_⟩
          simp only [Poll.first_succ, Poll.first_zero, hpoll]
          refine FilteredRun.final rfl ⟨by simp, ?_⟩ (by simp) _
          rintro ⟨hend, hwhole⟩
          obtain ⟨length, hmem, hne⟩ := hshort (List.mem_singleton.mp hend).symm
          exact absurd (hwhole length hmem) hne
      | ended hpoll hterminal hwhole =>
          rw [hfilters.run_terminal rest hterminal]
          refine ⟨1, by simp [hpoll], ?_⟩
          simp only [Poll.first_succ, Poll.first_zero, hpoll]
          refine FilteredRun.final rfl ?_ ?_ _
          · simpa using hwhole
          · exact fun _ => ⟨rfl, rfl⟩
      | pending hpoll hnext hcount =>
          obtain ⟨count, hinner, hrun⟩ := ih hnext
          refine ⟨count + 1, by rw [Poll.first_succ, hpoll]; exact hinner, ?_⟩
          rw [Poll.first_succ, hpoll]
          exact hrun.cons hdeclared hmax rfl rfl rfl hcount (fun hle => hcount ▸ hle)
            (fun _ _ hle => hcount ▸ hle) nofun fun _ => rfl
      | forwarded hpoll hnext hcount hlimit hlength =>
          obtain ⟨count, hinner, hrun⟩ := ih hnext
          refine ⟨count + 1, by rw [Poll.first_succ, hpoll]; exact hinner, ?_⟩
          rw [Poll.first_succ, hpoll]
          refine hrun.cons hdeclared hmax rfl rfl rfl hcount (fun _ => hlimit)
            (fun length hmem _ => hlength length hmem) ?_ nofun
          rintro frame ⟨⟩
          exact ⟨_, rfl, rfl⟩

/-! ## The rest of a run -/

/-- The bounds of a filter never change, and a live filter keeps within them. -/
theorem Filters.run_bounded (hfilters : Filters filter pollInner poll) (inputs : List ι)
    {guard : G} (hbounded : filter.bytesForwarded guard ≤ filter.maxBodyBytes guard) :
    filter.maxBodyBytes (Poll.run poll inputs guard).2 = filter.maxBodyBytes guard ∧
      filter.declaredLength (Poll.run poll inputs guard).2 = filter.declaredLength guard ∧
      (filter.terminal (Poll.run poll inputs guard).2 = false →
        filter.bytesForwarded (Poll.run poll inputs guard).2 ≤ filter.maxBodyBytes guard) := by
  have hstep : ∀ input state, (filter.maxBodyBytes state = filter.maxBodyBytes guard ∧
      filter.declaredLength state = filter.declaredLength guard ∧
      (filter.terminal state = false →
        filter.bytesForwarded state ≤ filter.maxBodyBytes guard)) →
      filter.maxBodyBytes (poll input state).2 = filter.maxBodyBytes guard ∧
      filter.declaredLength (poll input state).2 = filter.declaredLength guard ∧
      (filter.terminal (poll input state).2 = false →
        filter.bytesForwarded (poll input state).2 ≤ filter.maxBodyBytes guard) := by
    rintro input state ⟨hmax, hdeclared, hcount⟩
    cases hlive : filter.terminal state with
    | true =>
        rw [hfilters.silent input state hlive]
        exact ⟨hmax, hdeclared, hcount⟩
    | false =>
        obtain ⟨hkeptMax, hkeptDeclared, hpolled⟩ := hfilters.live input state hlive
        refine ⟨hkeptMax.trans hmax, hkeptDeclared.trans hdeclared, fun hnext => ?_⟩
        generalize poll input state = result at *
        obtain ⟨answer, next⟩ := result
        cases hpolled with
        | refused _ hterminal => simp [hterminal] at hnext
        | rejected _ hterminal _ => simp [hterminal] at hnext
        | ended _ hterminal _ => simp [hterminal] at hnext
        | pending _ _ hsame => exact hsame.trans_le (hcount hlive)
        | forwarded _ _ _ hlimit _ => exact hlimit.trans_eq hmax
  exact Poll.run_invariant hstep inputs ⟨rfl, rfl, fun _ => hbounded⟩

/-- Before the end of a run there is no last answer. -/
theorem Filters.run_live (hfilters : Filters filter pollInner poll) (inputs : List ι) {guard : G}
    (hlive : filter.terminal (Poll.run poll inputs guard).2 = false) :
    ∀ answer ∈ (Poll.run poll inputs guard).1, isFinal answer = false := by
  induction inputs generalizing guard with
  | nil => simp
  | cons input rest ih =>
      rw [Poll.run_cons] at hlive ⊢
      refine List.forall_mem_cons.mpr ⟨?_, ih hlive⟩
      have hnext : filter.terminal (poll input guard).2 = false := by
        rw [Bool.eq_false_iff]
        intro hterminal
        rw [hfilters.run_terminal rest hterminal, hterminal] at hlive
        cases hlive
      cases hguard : filter.terminal guard with
      | true =>
          rw [hfilters.silent input guard hguard, hguard] at hnext
          cases hnext
      | false =>
          obtain ⟨-, -, hpolled⟩ := hfilters.live input guard hguard
          generalize poll input guard = result at *
          obtain ⟨answer, next⟩ := result
          cases hpolled with
          | refused _ hterminal => simp [hterminal] at hnext
          | rejected _ hterminal _ => simp [hterminal] at hnext
          | ended _ hterminal _ => simp [hterminal] at hnext
          | pending => rfl
          | forwarded => rfl

theorem endsCleanly_append {earlier later : List (FramePoll ε)}
    (hearlier : ∀ answer ∈ earlier, isFinal answer = false) :
    EndsCleanly (earlier ++ later) ↔ EndsCleanly later := by
  rw [EndsCleanly, EndsCleanly, List.find?_append, List.find?_eq_none.mpr, Option.none_or]
  intro answer hanswer
  simp [hearlier answer hanswer]

/-- What a live guard still does in a run that ends cleanly: it forwards all that the
inner body still has. -/
structure CleanRest (filter : BodyFilter G B) (pollInner : B → FramePoll ε × B) (start guard : G)
    (answers : List (FramePoll IoError)) (reached count : Nat) : Prop where
  inner : filter.inner guard = (Poll.first pollInner reached (filter.inner start)).2
  ends : EndsCleanly (Poll.first pollInner count (filter.inner guard)).1
  forwards : dataBytes answers = dataBytes (Poll.first pollInner count (filter.inner guard)).1
  frames : ∀ bytes, .ready (some (.ok (.data bytes))) ∈ answers →
    .ready (some (.ok (.data bytes))) ∈ (Poll.first pollInner count (filter.inner guard)).1
  withinLimit : filter.bytesForwarded guard + (dataBytes answers).length ≤ filter.maxBodyBytes start
  declared : ∀ length ∈ filter.declaredLength start,
    filter.bytesForwarded guard + (dataBytes answers).length = length

theorem Filters.clean_rest (hfilters : Filters filter pollInner poll) {start : G}
    (hlive : filter.terminal start = false)
    (hbounded : filter.bytesForwarded start ≤ filter.maxBodyBytes start) (earlier later : List ι)
    (hends : EndsCleanly (Poll.run poll (earlier ++ later) start).1)
    (hguard : filter.terminal (Poll.run poll earlier start).2 = false) :
    ∃ reached count, CleanRest filter pollInner start (Poll.run poll earlier start).2
      (Poll.run poll later (Poll.run poll earlier start).2).1 reached count := by
  obtain ⟨hmax, hdeclared, hforwarded⟩ := hfilters.run_bounded earlier hbounded
  obtain ⟨reached, hinner, -⟩ := hfilters.run_filtered earlier hlive
  obtain ⟨count, -, hrun⟩ := hfilters.run_filtered later hguard
  rw [Poll.run_append, endsCleanly_append (hfilters.run_live earlier hguard)] at hends
  obtain ⟨hclean, hwhole⟩ := hrun.whole hends
  refine ⟨reached, count, hinner, hclean, hwhole, ?_, ?_, ?_⟩
  · intro bytes hmem
    obtain ⟨_, ⟨⟩, hread⟩ := hrun.dataOnly _ hmem
    exact hread
  · rw [← hmax]
    exact hrun.withinLimit ((hforwarded hguard).trans_eq hmax.symm)
  · rw [← hdeclared]
    exact (hrun.ends.mp hends).2

end BodyFilter

/-! ## Bodies within the bounds -/

/-- Answers that carry a part of a content: no error and no other frame than data, and
all of it before an end. -/
structure CarriesPart (answers : List (FramePoll ε)) (content : Bytes) : Prop where
  framed : ∀ answer ∈ answers, answer = .pending ∨ answer = .ready none ∨
    ∃ bytes, answer = .ready (some (.ok (.data bytes)))
  initial : dataBytes answers <+: content
  whole : .ready none ∈ answers → dataBytes answers = content

/-- A body that carries a content, however it is cut and whenever it stays pending. -/
def Carries {B : Type} (pollInner : B → FramePoll ε × B) (body : B) (content : Bytes) : Prop :=
  ∀ count, CarriesPart (Poll.first pollInner count body).1 content

theorem CarriesPart.nil (content : Bytes) : CarriesPart ([] : List (FramePoll ε)) content where
  framed := nofun
  initial := List.nil_prefix
  whole := nofun

theorem carriesPart_pending_iff {answers : List (FramePoll ε)} {content : Bytes} :
    CarriesPart (.pending :: answers) content ↔ CarriesPart answers content := by
  constructor
  · rintro ⟨hframed, hinitial, hwhole⟩
    exact ⟨(List.forall_mem_cons.mp hframed).2, hinitial,
      fun hend => hwhole (List.mem_cons_of_mem _ hend)⟩
  · rintro ⟨hframed, hinitial, hwhole⟩
    refine ⟨List.forall_mem_cons.mpr ⟨.inl rfl, hframed⟩, hinitial, fun hend => ?_⟩
    exact hwhole ((List.mem_cons.mp hend).resolve_left nofun)

theorem carriesPart_data_iff {answers : List (FramePoll ε)} {bytes content : Bytes} :
    CarriesPart (.ready (some (.ok (.data bytes))) :: answers) (bytes ++ content) ↔
      CarriesPart answers content := by
  constructor
  · rintro ⟨hframed, hinitial, hwhole⟩
    refine ⟨(List.forall_mem_cons.mp hframed).2, (List.prefix_append_right_inj _).mp hinitial, ?_⟩
    intro hend
    exact List.append_cancel_left (hwhole (List.mem_cons_of_mem _ hend))
  · rintro ⟨hframed, hinitial, hwhole⟩
    refine ⟨List.forall_mem_cons.mpr ⟨.inr (.inr ⟨bytes, rfl⟩), hframed⟩,
      (List.prefix_append_right_inj _).mpr hinitial, fun hend => ?_⟩
    exact congrArg (bytes ++ ·) (hwhole ((List.mem_cons.mp hend).resolve_left nofun))

theorem carriesPart_ended (count : Nat) :
    CarriesPart (.ready none :: List.replicate count (.ready none) : List (FramePoll ε)) [] := by
  have hdata : dataBytes (.ready none :: List.replicate count (.ready none) :
      List (FramePoll ε)) = [] := dataBytes_replicate rfl (count + 1)
  refine ⟨?_, hdata ▸ List.prefix_rfl, fun _ => hdata⟩
  intro answer hanswer
  exact .inr (.inl (List.eq_of_mem_replicate (n := count + 1) hanswer))

/-- What a body that carries a content answers, and what it carries afterwards. -/
inductive Carried {B : Type} (pollInner : B → FramePoll ε × B) (content : Bytes) (next : B) :
    FramePoll ε → Prop
  | pending (hnext : Carries pollInner next content) : Carried pollInner content next .pending
  | data {bytes rest : Bytes} (hcontent : content = bytes ++ rest)
      (hnext : Carries pollInner next rest) :
      Carried pollInner content next (.ready (some (.ok (.data bytes))))
  | ended (hcontent : content = []) : Carried pollInner content next (.ready none)

theorem Carries.carried {B : Type} {pollInner : B → FramePoll ε × B} {body next : B}
    {content : Bytes} {answer : FramePoll ε} (hcarries : Carries pollInner body content)
    (hpoll : pollInner body = (answer, next)) : Carried pollInner content next answer := by
  have hpart : ∀ count, CarriesPart (answer :: (Poll.first pollInner count next).1) content := by
    intro count
    have hfirst := hcarries (count + 1)
    rwa [Poll.first_succ, hpoll] at hfirst
  obtain rfl | rfl | ⟨bytes, rfl⟩ := (hpart 0).framed answer List.mem_cons_self
  · exact .pending fun count => carriesPart_pending_iff.mp (hpart count)
  · exact .ended ((hpart 0).whole List.mem_cons_self).symm
  · obtain ⟨rest, rfl⟩ : ∃ rest, bytes ++ rest = content := by
      have hinitial := (hpart 0).initial
      rwa [dataBytes_cons, Poll.first_zero, dataBytes_nil, List.append_nil] at hinitial
    exact .data rfl fun count => carriesPart_data_iff.mp (hpart count)

namespace BodyFilter

variable {G B ι : Type}

/-- An answer of the inner body that keeps within the bounds. -/
def Admitted (filter : BodyFilter G B) (guard : G) : FramePoll ε → Prop
  | .pending => True
  | .ready (some (.ok (.data bytes))) =>
      filter.bytesForwarded guard + bytes.length < 2 ^ 64 ∧
        filter.bytesForwarded guard + bytes.length ≤ filter.maxBodyBytes guard ∧
        ∀ length ∈ filter.declaredLength guard,
          filter.bytesForwarded guard + bytes.length ≤ length
  | .ready none => ∀ length ∈ filter.declaredLength guard, filter.bytesForwarded guard = length
  | _ => False

/-- Apart from these answers, a live guard fails only at an answer outside of the bounds. -/
def Admits (filter : BodyFilter G B) (pollInner : B → FramePoll ε × B)
    (poll : ι → G → FramePoll IoError × G) (stops : List (FramePoll IoError)) : Prop :=
  ∀ input guard, filter.terminal guard = false →
    Admitted filter guard (pollInner (filter.inner guard)).1 →
    ∀ error, (poll input guard).1 = .ready (some (.error error)) → (poll input guard).1 ∈ stops

variable {filter : BodyFilter G B} {pollInner : B → FramePoll ε × B}
  {poll : ι → G → FramePoll IoError × G}

theorem admitted_of_carried {guard : G} {content : Bytes} {next : B} {answer : FramePoll ε}
    (hcarried : Carried pollInner content next answer)
    (hlimit : filter.bytesForwarded guard + content.length ≤ filter.maxBodyBytes guard)
    (hsize : filter.bytesForwarded guard + content.length < 2 ^ 64)
    (hdeclared : ∀ length ∈ filter.declaredLength guard,
      filter.bytesForwarded guard + content.length = length) :
    Admitted filter guard answer := by
  cases hcarried with
  | pending => trivial
  | ended hcontent =>
      intro length hlength
      rw [← hdeclared length hlength, hcontent]
      rfl
  | @data bytes rest hcontent =>
      rw [hcontent, List.length_append] at hlimit hsize hdeclared
      refine ⟨by omega, by omega, fun length hlength => ?_⟩
      have hsame := hdeclared length hlength
      omega

/-- A content within the bounds passes a filter, unless the run is stopped otherwise. -/
theorem Filters.run_carries (hfilters : Filters filter pollInner poll)
    {stops : List (FramePoll IoError)} (hadmits : Admits filter pollInner poll stops)
    (inputs : List ι) {guard : G} {content : Bytes} (hlive : filter.terminal guard = false)
    (hcarries : Carries pollInner (filter.inner guard) content)
    (hlimit : filter.bytesForwarded guard + content.length ≤ filter.maxBodyBytes guard)
    (hsize : filter.bytesForwarded guard + content.length < 2 ^ 64)
    (hdeclared : ∀ length ∈ filter.declaredLength guard,
      filter.bytesForwarded guard + content.length = length)
    (hstops : ∀ answer ∈ (Poll.run poll inputs guard).1, answer ∉ stops) :
    CarriesPart (Poll.run poll inputs guard).1 content := by
  induction inputs generalizing guard content with
  | nil => exact .nil content
  | cons input rest ih =>
      obtain ⟨hmax, hlength, hpolled⟩ := hfilters.live input guard hlive
      have hadmitted : ∀ {answer next}, pollInner (filter.inner guard) = (answer, next) →
          Admitted filter guard answer := fun hpoll =>
        admitted_of_carried (hcarries.carried hpoll) hlimit hsize hdeclared
      have hfails := hadmits input guard hlive (hadmitted rfl)
      rw [Poll.run_cons] at hstops ⊢
      obtain ⟨hfirst, hlater⟩ := List.forall_mem_cons.mp hstops
      generalize poll input guard = result at *
      obtain ⟨answer, next⟩ := result
      cases hpolled with
      | refused => exact absurd (hfails _ rfl) hfirst
      | rejected => exact absurd (hfails _ rfl) hfirst
      | ended hpoll hterminal _ =>
          rw [hfilters.run_terminal rest hterminal]
          cases hcarries.carried hpoll with
          | ended hcontent => exact hcontent ▸ carriesPart_ended _
      | pending hpoll hnext hcount =>
          cases hcarries.carried hpoll with
          | pending hinner =>
              rw [← hcount, ← hmax] at hlimit
              rw [← hcount] at hsize
              rw [← hcount, ← hlength] at hdeclared
              exact carriesPart_pending_iff.mpr (ih hnext hinner hlimit hsize hdeclared hlater)
      | forwarded hpoll hnext hcount _ _ =>
          cases hcarries.carried hpoll with
          | @data bytes more hcontent hinner =>
              have htotal : filter.bytesForwarded guard + content.length =
                  filter.bytesForwarded next + more.length := by
                rw [hcount, hcontent, List.length_append, Nat.add_assoc]
              rw [htotal] at hlimit hsize hdeclared
              rw [← hmax] at hlimit
              rw [← hlength] at hdeclared
              rw [hcontent]
              exact carriesPart_data_iff.mpr (ih hnext hinner hlimit hsize hdeclared hlater)

end BodyFilter

end Rpackit.Transport
