import Rpackit.Library.AsyncRead
import Rpackit.Transport.Connection

/-! # The prefix that was read and its replay

The proxy reads a connection up to the first request head, judges these bytes and
lets Hyper read them again before the rest of the socket. Whatever the socket
delivers at each poll, Hyper sees the stream the client has sent.
-/

namespace Rpackit.Transport

open Text Fallible

variable {R ε Url : Type}

/-! ## Reading the prefix -/

/-- How far `read_request_prefix` has come; an error is one of the socket or its own. -/
inductive PrefixRead (R ε : Type) where
  | complete (bytes : Bytes) (socket : R)
  | failed (error : ε ⊕ IoError) (bytes : Bytes) (socket : R)
  | waiting (bytes : Bytes) (socket : R)
  deriving DecidableEq, Repr

/-- The bytes that are held. -/
def PrefixRead.bytes : PrefixRead R ε → Bytes
  | .complete bytes _ => bytes
  | .failed _ bytes _ => bytes
  | .waiting bytes _ => bytes

def headerLimitError : IoError := ⟨.other, "request header limit exceeded"⟩

def requestEndedError : IoError := ⟨.unexpectedEof, "request ended before headers completed"⟩

/-- `read_request_prefix` after a number of polls of the socket. -/
def awaitRequestPrefix (inner : AsyncRead R ε) (maxHeaderBytes : Nat) :
    Nat → Bytes → R → PrefixRead R ε
  | polls, bytes, socket =>
      if (headerEnd bytes).isSome then .complete bytes socket
      else if bytes.length ≥ maxHeaderBytes then .failed (.inr headerLimitError) bytes socket
      else
        match polls with
        | 0 => .waiting bytes socket
        | polls + 1 =>
            let chunkLimit := min (maxHeaderBytes - bytes.length) prefixChunkBytes
            match inner.pollRead socket chunkLimit with
            | (.pending, next) => awaitRequestPrefix inner maxHeaderBytes polls bytes next
            | (.ready (.error error), next) => .failed (.inl error) bytes next
            | (.ready (.ok []), next) => .failed (.inr requestEndedError) bytes next
            | (.ready (.ok (first :: rest)), next) =>
                awaitRequestPrefix inner maxHeaderBytes polls (bytes ++ first :: rest) next

/-- No reader makes the buffer exceed the limit: each read asks for what is left of it. -/
theorem awaitRequestPrefix_bounded (inner : AsyncRead R ε) {maxHeaderBytes : Nat} (polls : Nat)
    {bytes : Bytes} (socket : R) (hbound : bytes.length ≤ maxHeaderBytes) :
    (awaitRequestPrefix inner maxHeaderBytes polls bytes socket).bytes.length ≤ maxHeaderBytes := by
  induction polls generalizing bytes socket with
  | zero =>
      unfold awaitRequestPrefix
      split
      · exact hbound
      split
      · exact hbound
      · exact hbound
  | succ polls ih =>
      unfold awaitRequestPrefix
      split
      · exact hbound
      split
      · exact hbound
      dsimp only
      split
      · exact ih _ hbound
      · exact hbound
      · exact hbound
      next first rest next hpoll =>
        apply ih
        have hread := inner.bounded hpoll
        rw [List.length_append]
        omega

/-! ## A socket to which bytes arrive -/

/-- What holds of the answers, for the bytes held and the arrivals at the start. -/
inductive PrefixOutcome (maxHeaderBytes polls : Nat) (bytes : Bytes) (arrivals : Arrivals ε) :
    PrefixRead (Arrivals ε) ε → Prop
  | complete {replayed : Bytes} {socket : Arrivals ε} {stop : Nat}
      (hend : headerEnd replayed = some stop)
      (hstream : replayed ++ socket.stream = bytes ++ arrivals.stream)
      (hreached : replayed ++ socket.reached = bytes ++ arrivals.reached) :
      PrefixOutcome maxHeaderBytes polls bytes arrivals (.complete replayed socket)
  | failed {error : ε ⊕ IoError} {held : Bytes} {socket : Arrivals ε}
      (hnone : ∀ stop, headerEnd (bytes ++ arrivals.reached) = some stop → maxHeaderBytes < stop) :
      PrefixOutcome maxHeaderBytes polls bytes arrivals (.failed error held socket)
  | waiting {held : Bytes} {socket : Arrivals ε} (hpolls : polls ≤ arrivals.weight) :
      PrefixOutcome maxHeaderBytes polls bytes arrivals (.waiting held socket)

/-- A poll that moves bytes from the arrivals to the buffer changes nothing of that. -/
theorem PrefixOutcome.of_later {maxHeaderBytes polls : Nat} {bytes more : Bytes}
    {arrivals later : Arrivals ε} {read : PrefixRead (Arrivals ε) ε}
    (hstream : arrivals.stream = more ++ later.stream)
    (hreached : arrivals.reached = more ++ later.reached) (hweight : later.weight < arrivals.weight)
    (houtcome : PrefixOutcome maxHeaderBytes polls (bytes ++ more) later read) :
    PrefixOutcome maxHeaderBytes (polls + 1) bytes arrivals read := by
  cases houtcome with
  | complete hend hsame hbefore =>
      rw [List.append_assoc, ← hstream] at hsame
      rw [List.append_assoc, ← hreached] at hbefore
      exact .complete hend hsame hbefore
  | failed hnone =>
      rw [List.append_assoc, ← hreached] at hnone
      exact .failed hnone
  | waiting hpolls => exact .waiting (by omega)

/-- A head that is not complete in the buffer cannot end within a full buffer. -/
theorem lt_of_headerEnd_append {bytes rest : Bytes} {stop : Nat} (hnone : headerEnd bytes = none)
    (hend : headerEnd (bytes ++ rest) = some stop) : bytes.length < stop := by
  by_contra hle
  rw [headerEnd_of_append hend (Nat.le_of_not_lt hle)] at hnone
  cases hnone

theorem awaitRequestPrefix_outcome (maxHeaderBytes polls : Nat) (bytes : Bytes)
    (arrivals : Arrivals ε) :
    PrefixOutcome maxHeaderBytes polls bytes arrivals
      (awaitRequestPrefix Arrivals.reader maxHeaderBytes polls bytes arrivals) := by
  induction polls generalizing bytes arrivals with
  | zero =>
      unfold awaitRequestPrefix
      cases hhead : headerEnd bytes with
      | some stop => exact .complete hhead rfl rfl
      | none =>
          rw [if_neg (by decide)]
          split
          next hfull =>
            exact .failed fun stop hend => hfull.trans_lt (lt_of_headerEnd_append hhead hend)
          next => exact .waiting (Nat.zero_le _)
  | succ polls ih =>
      unfold awaitRequestPrefix
      cases hhead : headerEnd bytes with
      | some stop => exact .complete hhead rfl rfl
      | none =>
          rw [if_neg (by decide)]
          split
          next hfull =>
            exact .failed fun stop hend => hfull.trans_lt (lt_of_headerEnd_append hhead hend)
          next hroom =>
            have hlimit : 0 < min (maxHeaderBytes - bytes.length) prefixChunkBytes :=
              Nat.lt_min.mpr ⟨by omega, by decide⟩
            dsimp only
            rw [Arrivals.reader_pollRead]
            have hpolled := arrivals.pollRead_polled
              (min (maxHeaderBytes - bytes.length) prefixChunkBytes)
            -- an end or a failure leaves nothing that could complete the head
            have hnever : arrivals.reached = [] → ∀ stop,
                headerEnd (bytes ++ arrivals.reached) = some stop → maxHeaderBytes < stop := by
              intro hnothing stop hend
              rw [hnothing, List.append_nil, hhead] at hend
              cases hend
            generalize arrivals.pollRead _ = polled at hpolled ⊢
            cases hpolled with
            | ended hended => exact .failed (hnever (by rw [hended]; rfl))
            | failed harrivals => exact .failed (hnever (by rw [harrivals]; rfl))
            | @pending later harrivals =>
                have hrest : PrefixOutcome maxHeaderBytes polls (bytes ++ []) later
                    (awaitRequestPrefix Arrivals.reader maxHeaderBytes polls bytes later) := by
                  rw [List.append_nil]
                  exact ih bytes later
                subst harrivals
                exact hrest.of_later rfl rfl (Nat.lt_succ_self _)
            | @data read later hsome hstream hreached hweight =>
                cases read with
                | nil => exact absurd rfl (hsome hlimit)
                | cons first rest =>
                    have hless : later.weight < arrivals.weight := by
                      rw [hweight, List.length_cons]
                      omega
                    exact (ih (bytes ++ first :: rest) later).of_later hstream hreached hless

/-- The prefix is read exactly when the first empty line arrives before the end or a
failure and within the limit. -/
theorem awaitRequestPrefix_complete_iff (maxHeaderBytes : Nat) (arrivals : Arrivals ε) :
    (∃ polls replayed socket, awaitRequestPrefix Arrivals.reader maxHeaderBytes polls [] arrivals =
      .complete replayed socket) ↔
    ∃ stop, headerEnd arrivals.reached = some stop ∧ stop ≤ maxHeaderBytes := by
  constructor
  · rintro ⟨polls, replayed, socket, hread⟩
    have hstart : ([] : Bytes).length ≤ maxHeaderBytes := Nat.zero_le _
    have hbound := awaitRequestPrefix_bounded Arrivals.reader polls arrivals hstart
    have houtcome := awaitRequestPrefix_outcome maxHeaderBytes polls [] arrivals
    rw [hread] at hbound houtcome
    cases houtcome with
    | @complete _ _ stop hend _ hreached =>
        refine ⟨stop, ?_, (headerEnd_le hend).trans hbound⟩
        rw [← List.nil_append arrivals.reached, ← hreached]
        exact headerEnd_append _ hend
  · rintro ⟨stop, hend, hstop⟩
    have houtcome := awaitRequestPrefix_outcome maxHeaderBytes (arrivals.weight + 1) [] arrivals
    cases hread : awaitRequestPrefix Arrivals.reader maxHeaderBytes (arrivals.weight + 1) []
        arrivals with
    | complete replayed socket => exact ⟨_, replayed, socket, hread⟩
    | failed error held socket =>
        rw [hread] at houtcome
        cases houtcome with
        | failed hnone => exact absurd (hnone stop hend) (Nat.not_lt.mpr hstop)
    | waiting held socket =>
        rw [hread] at houtcome
        cases houtcome with
        | waiting hpolls => omega

-- a head that ends exactly at the limit leaves the byte behind it in the socket
example : awaitRequestPrefix (Arrivals.reader : AsyncRead (Arrivals Unit) Unit) 4 3 []
      [.data carriageReturn [lineFeed], .pending, .data carriageReturn [lineFeed, 0x47]] =
    .complete (crlf ++ crlf) [.data 0x47 []] := by decide

/-- After enough polls there is a verdict. -/
theorem awaitRequestPrefix_decides (maxHeaderBytes : Nat) (arrivals : Arrivals ε) :
    ∀ held socket, awaitRequestPrefix Arrivals.reader maxHeaderBytes (arrivals.weight + 1) []
      arrivals ≠ .waiting held socket := by
  intro held socket hread
  have houtcome := awaitRequestPrefix_outcome maxHeaderBytes (arrivals.weight + 1) [] arrivals
  rw [hread] at houtcome
  cases houtcome with
  | waiting hpolls => omega

/-! ## The schedule of a connection -/

/-- The socket of a connection: each scheduled read takes bytes off one stream. -/
def scheduledReader : AsyncRead (List SocketRead × Bytes) Unit where
  pollRead socket capacity :=
    match socket with
    | ([], stream) => (.pending, ([], stream))
    | (.failed :: rest, stream) => (.ready (.error ()), (rest, stream))
    | (.available count :: rest, stream) =>
        (.ready (.ok (stream.take (min count capacity))),
          (rest, stream.drop (min count capacity)))
  bounded {socket capacity bytes next} hpoll := by
    obtain ⟨schedule, stream⟩ := socket
    cases schedule with
    | nil => cases hpoll
    | cons read rest =>
        cases read with
        | failed => cases hpoll
        | available count =>
            cases hpoll
            exact (List.length_take_le _ _).trans (Nat.min_le_right _ _)

/-- Reading by schedule is reading from this socket, one poll for each scheduled read. -/
theorem readRequestPrefix_eq_await (maxHeaderBytes : Nat) (schedule : List SocketRead)
    (bytes stream : Bytes) :
    readRequestPrefix maxHeaderBytes schedule bytes stream =
      match awaitRequestPrefix scheduledReader maxHeaderBytes schedule.length bytes
        (schedule, stream) with
      | .complete replayed socket => some (replayed, socket.2)
      | _ => none := by
  induction schedule generalizing bytes stream with
  | nil =>
      unfold readRequestPrefix awaitRequestPrefix
      by_cases hhead : (headerEnd bytes).isSome = true
      · rw [if_pos hhead, if_pos hhead]
      rw [if_neg hhead, if_neg hhead]
      by_cases hfull : bytes.length ≥ maxHeaderBytes
      · rw [if_pos hfull]
      · rw [if_neg hfull]
        rfl
  | cons read rest ih =>
      unfold readRequestPrefix awaitRequestPrefix
      by_cases hhead : (headerEnd bytes).isSome = true
      · rw [if_pos hhead, if_pos hhead]
      rw [if_neg hhead, if_neg hhead]
      by_cases hfull : bytes.length ≥ maxHeaderBytes
      · rw [if_pos hfull, if_pos hfull]
      rw [if_neg hfull, if_neg hfull]
      cases read with
      | failed => rfl
      | available count =>
          simp only [scheduledReader, List.length_cons]
          -- both take as many bytes of the stream as there are in the smallest of the three
          generalize min count (min (maxHeaderBytes - bytes.length) prefixChunkBytes) = size
          cases hread : stream.take size with
          | nil => rfl
          | cons first more =>
              rw [if_neg (List.cons_ne_nil _ _)]
              exact ih _ _

/-! ## Admission of the prefix -/

theorem collectHeaders_ne_headerLimit (crates : Crates Url) (values : RawHeaders)
    (headers : List (Bytes × Bytes)) :
    collectHeaders crates values headers ≠ .error .headerLimit := by
  induction headers generalizing values with
  | nil => exact nofun
  | cons header rest ih =>
      simp [collectHeaders, bind_eq_error_iff, okOr_eq_error_iff, ih]

theorem collectConnectionTokens_ne_headerLimit (tokens : List Bytes) (pieces : List (List Char)) :
    collectConnectionTokens tokens pieces ≠ .error .headerLimit := by
  induction pieces generalizing tokens with
  | nil => exact nofun
  | cons piece rest ih =>
      simp [collectConnectionTokens, bind_eq_error_iff, rejectIf_eq_error_iff, ih]

theorem parseConnectionTokens_ne_headerLimit (values : RawHeaders) :
    parseConnectionTokens values ≠ .error .headerLimit := by
  unfold parseConnectionTokens
  cases values.get? Header.connection with
  | none => exact nofun
  | some entry =>
      simp [bind_eq_error_iff, okOr_eq_error_iff, collectConnectionTokens_ne_headerLimit]

theorem validateFraming_ne_headerLimit (values : RawHeaders) (limits : TransportLimits) :
    validateFraming values limits ≠ .error .headerLimit := by
  have hlength : ∀ entry, validateContentLength limits entry ≠ .error .headerLimit := by
    intro entry
    simp [validateContentLength, bind_eq_error_iff, rejectIf_eq_error_iff, okOr_eq_error_iff]
  have hencoding : ∀ entry, validateTransferEncoding entry ≠ .error .headerLimit := by
    intro entry
    simp [validateTransferEncoding, bind_eq_error_iff, rejectIf_eq_error_iff, okOr_eq_error_iff]
  simp only [validateFraming, bind_eq_error_iff, rejectIf_eq_error_iff, forM_ne_error hlength,
    forM_ne_error hencoding, reduceCtorEq, and_false, false_or, exists_false, ne_eq,
    not_false_eq_true]

theorem validateUpgrade_ne_headerLimit (values : RawHeaders) (tokens : List Bytes) :
    validateUpgrade values tokens ≠ .error .headerLimit := by
  cases hupgrade : values.get? Header.upgrade with
  | none =>
      simp only [validateUpgrade, hupgrade, bind_eq_error_iff, rejectIf_eq_error_iff,
        pure_ne_error, reduceCtorEq, and_false, false_or, exists_false, ne_eq, not_false_eq_true]
  | some entry =>
      simp only [validateUpgrade, hupgrade, bind_eq_error_iff, rejectIf_eq_error_iff,
        okOr_eq_error_iff, pure_ne_error, reduceCtorEq, and_false, false_or, exists_false, ne_eq,
        not_false_eq_true]

theorem validateHeaders_ne_headerLimit (values : RawHeaders) (expectedAuthority : Bytes)
    (limits : TransportLimits) :
    validateHeaders values expectedAuthority limits ≠ .error .headerLimit := by
  simp only [validateHeaders, requireExactAuthority, rejectAmbiguousSecurityHeaders,
    bind_eq_error_iff, rejectIf_eq_error_iff, validateFraming_ne_headerLimit,
    parseConnectionTokens_ne_headerLimit, validateUpgrade_ne_headerLimit, pure_ne_error,
    reduceCtorEq, and_false, false_or, exists_false, ne_eq, not_false_eq_true]

/-- The limit on the head is the only check that reports it, so bytes within the limit
never meet this error. -/
theorem validate_ne_headerLimit (crates : Crates Url) {bytes : Bytes} (expectedAuthority : Bytes)
    {limits : TransportLimits} (hbound : bytes.length ≤ limits.maxHeaderBytes) :
    validate crates bytes expectedAuthority limits ≠ .error .headerLimit := by
  have hlines : ∀ head, validateLineEndings head ≠ .error .headerLimit := by
    intro head
    simp [validateLineEndings, bind_eq_error_iff, rejectIf_eq_error_iff]
  have hmethod : ∀ method, validateMethod method ≠ .error .headerLimit := by
    intro method
    simp [validateMethod, bind_eq_error_iff, rejectIf_eq_error_iff]
  have htarget : ∀ target, validateTarget crates target ≠ .error .headerLimit := by
    intro target
    simp [validateTarget, bind_eq_error_iff, rejectIf_eq_error_iff, okOr_eq_error_iff]
  have hwithin : ∀ stop, headerEnd bytes = some stop → stop ≤ limits.maxHeaderBytes :=
    fun stop hstop => (headerEnd_le hstop).trans hbound
  intro herror
  simp only [validate, bind_eq_error_iff, rejectIf_eq_error_iff, okOr_eq_error_iff,
    okOr_eq_ok_iff, rejectIf_eq_ok_iff, reduceCtorEq, and_false, false_or, hlines, and_true,
    decide_eq_true_eq] at herror
  obtain ⟨stop, hstop, hlimit | hafter⟩ := herror
  · exact absurd (hwithin stop hstop) (Nat.not_le.mpr hlimit)
  · obtain ⟨-, -, -, -, -, -, -, -, parsed, -, hparsed⟩ := hafter
    cases parsed with
    | incomplete => cases hparsed
    | complete request =>
        simp [bind_eq_error_iff, rejectIf_eq_error_iff, okOr_eq_error_iff, hmethod, htarget,
          collectHeaders_ne_headerLimit, validateHeaders_ne_headerLimit] at hparsed

/-! ## The replay -/

structure ReplayIo (R : Type) where
  prefixBytes : Bytes
  inner : R
  deriving DecidableEq, Repr

namespace ReplayIo

def new (prefixBytes : Bytes) (inner : R) : ReplayIo R where
  prefixBytes := prefixBytes
  inner := inner

def pollRead (inner : AsyncRead R ε) (capacity : Nat) (io : ReplayIo R) :
    Poll (Except ε Bytes) × ReplayIo R :=
  if io.prefixBytes ≠ [] then
    let count := min io.prefixBytes.length capacity
    (.ready (.ok (io.prefixBytes.take count)),
      { io with prefixBytes := io.prefixBytes.drop count })
  else
    let (answer, next) := inner.pollRead io.inner capacity
    (answer, { io with inner := next })

/-- What is still to be handed over: the rest of the prefix, then the rest of the socket. -/
def remaining (io : ReplayIo (Arrivals ε)) : Bytes := io.prefixBytes ++ io.inner.stream

/-- The number of polls that certainly hand over what remains. -/
def weight (io : ReplayIo (Arrivals ε)) : Nat := io.prefixBytes.length + io.inner.weight

/-- What a poll answers, by the part it reads from. -/
inductive Polled (io : ReplayIo (Arrivals ε)) (capacity : Nat) :
    Poll (Except ε Bytes) × ReplayIo (Arrivals ε) → Prop
  | replayed {count : Nat} (hleading : io.prefixBytes ≠ [])
      (hcount : count = min io.prefixBytes.length capacity) :
      Polled io capacity (.ready (.ok (io.prefixBytes.take count)),
        ⟨io.prefixBytes.drop count, io.inner⟩)
  | read {answer : Poll (Except ε Bytes)} {later : Arrivals ε} (hleading : io.prefixBytes = [])
      (hpolled : io.inner.Polled capacity (answer, later)) :
      Polled io capacity (answer, ⟨[], later⟩)

theorem pollRead_polled (io : ReplayIo (Arrivals ε)) (capacity : Nat) :
    Polled io capacity (pollRead Arrivals.reader capacity io) := by
  obtain ⟨prefixBytes, arrivals⟩ := io
  unfold pollRead
  split
  next hleading => exact .replayed hleading rfl
  next hleading =>
    obtain rfl : prefixBytes = [] := not_not.mp hleading
    exact .read rfl (arrivals.pollRead_polled capacity)

/-- A poll takes what it hands over off the front of what remains. -/
theorem pollRead_conserves (capacity : Nat) (io : ReplayIo (Arrivals ε)) :
    deliveredBytes (pollRead Arrivals.reader capacity io).1 ++
      (pollRead Arrivals.reader capacity io).2.remaining = io.remaining := by
  have hpolled := pollRead_polled io capacity
  generalize pollRead Arrivals.reader capacity io = polled at hpolled ⊢
  cases hpolled with
  | replayed =>
      simp only [deliveredBytes, remaining]
      rw [← List.append_assoc, List.take_append_drop]
  | read hleading hpolled =>
      rw [remaining, remaining, hleading, List.nil_append, List.nil_append]
      cases hpolled with
      | ended hended => rw [hended]; rfl
      | pending harrivals => rw [harrivals]; rfl
      | failed harrivals => rw [harrivals]; rfl
      | data _ hstream => exact hstream.symm

/-- The replay reports the end only when the socket does. -/
theorem pollRead_ended {capacity : Nat} {io : ReplayIo (Arrivals ε)} (hcapacity : 0 < capacity)
    (hended : (pollRead Arrivals.reader capacity io).1 = .ready (.ok [])) :
    io.prefixBytes = [] ∧ io.inner = [] := by
  have hpolled := pollRead_polled io capacity
  generalize pollRead Arrivals.reader capacity io = polled at hpolled hended
  cases hpolled with
  | @replayed count hleading hcount =>
      have hnothing : io.prefixBytes.take count = [] := Except.ok.inj (Poll.ready.inj hended)
      have hlength := congrArg List.length hnothing
      rw [List.length_take, List.length_nil] at hlength
      have hpositive := List.length_pos_of_ne_nil hleading
      omega
  | read hleading hpolled =>
      cases hpolled with
      | ended hempty => exact ⟨hleading, hempty⟩
      | pending => cases hended
      | failed => cases hended
      | data hsome =>
          cases hended
          exact absurd rfl (hsome hcapacity)

/-- A poll with room makes progress until nothing is left. -/
theorem weight_pollRead {capacity : Nat} (io : ReplayIo (Arrivals ε)) (hcapacity : 0 < capacity) :
    (pollRead Arrivals.reader capacity io).2.weight ≤ io.weight - 1 := by
  have hpolled := pollRead_polled io capacity
  generalize pollRead Arrivals.reader capacity io = polled at hpolled ⊢
  cases hpolled with
  | @replayed count hleading hcount =>
      have hpositive := List.length_pos_of_ne_nil hleading
      rw [weight, weight]
      dsimp only
      rw [List.length_drop]
      omega
  | read hleading hpolled =>
      rw [weight, weight, hleading, List.length_nil, Nat.zero_add, Nat.zero_add]
      cases hpolled with
      | ended => exact Nat.zero_le _
      | pending harrivals => rw [harrivals]; exact Nat.le_refl _
      | failed harrivals => rw [harrivals]; exact Nat.le_refl _
      | data hsome _ _ hweight =>
          have hpositive := List.length_pos_of_ne_nil (hsome hcapacity)
          dsimp only
          omega

theorem weight_run {capacities : List Nat} (io : ReplayIo (Arrivals ε))
    (hcapacities : ∀ capacity ∈ capacities, 0 < capacity) :
    (Poll.run (pollRead Arrivals.reader) capacities io).2.weight ≤
      io.weight - capacities.length := by
  induction capacities generalizing io with
  | nil => exact Nat.le_refl _
  | cons capacity rest ih =>
      obtain ⟨hcapacity, hrest⟩ := List.forall_mem_cons.mp hcapacities
      have hfirst := weight_pollRead io hcapacity
      have hlater := ih (pollRead Arrivals.reader capacity io).2 hrest
      rw [Poll.run_cons, List.length_cons]
      dsimp only
      omega

theorem remaining_of_weight {io : ReplayIo (Arrivals ε)} (hweight : io.weight = 0) :
    io.remaining = [] := by
  rw [weight, Nat.add_eq_zero_iff, List.length_eq_zero_iff] at hweight
  obtain ⟨hleading, harrivals⟩ := hweight
  rw [remaining, hleading, Arrivals.eq_nil_of_weight harrivals]
  rfl

end ReplayIo

/-- What Hyper is handed by any polls of a replay, when the stream is this one. -/
structure HandsOver (stream : Bytes) (start : ReplayIo (Arrivals ε)) : Prop where
  /-- Nothing is lost, repeated or reordered. -/
  conserved : ∀ capacities : List Nat,
    let run := Poll.run (ReplayIo.pollRead Arrivals.reader) capacities start
    run.1.flatMap deliveredBytes ++ run.2.remaining = stream
  /-- The end is reported once the socket has ended and everything has been handed over. -/
  ended : ∀ (capacities : List Nat) (capacity : Nat), 0 < capacity →
    let run := Poll.run (ReplayIo.pollRead Arrivals.reader) capacities start
    (ReplayIo.pollRead Arrivals.reader capacity run.2).1 = .ready (.ok []) →
      run.2.inner = [] ∧ run.1.flatMap deliveredBytes = stream
  /-- Enough polls with room hand over everything. -/
  whole : ∀ capacities : List Nat, (∀ capacity ∈ capacities, 0 < capacity) →
    start.weight ≤ capacities.length →
    (Poll.run (ReplayIo.pollRead Arrivals.reader) capacities start).1.flatMap deliveredBytes =
      stream

theorem handsOver (start : ReplayIo (Arrivals ε)) : HandsOver start.remaining start where
  conserved capacities := Poll.run_conserved ReplayIo.pollRead_conserves capacities start
  ended capacities capacity hcapacity := by
    intro run hended
    have hconserved := Poll.run_conserved ReplayIo.pollRead_conserves capacities start
    obtain ⟨hleading, hinner⟩ := ReplayIo.pollRead_ended hcapacity hended
    refine ⟨hinner, ?_⟩
    have hnothing : run.2.remaining = [] := by
      rw [ReplayIo.remaining, hleading, hinner]
      rfl
    rwa [show (Poll.run _ capacities start).2.remaining = [] from hnothing,
      List.append_nil] at hconserved
  whole capacities hcapacities hweight := by
    have hconserved := Poll.run_conserved ReplayIo.pollRead_conserves capacities start
    have hleft := ReplayIo.weight_run start hcapacities
    rwa [ReplayIo.remaining_of_weight (by omega), List.append_nil] at hconserved

/-- However the bytes of a client arrive: the prefix is read exactly when the first empty
line arrives in time and within the limit, the buffer never exceeds the limit, so that
admission of the prefix does not report it, and Hyper is handed the stream of the client. -/
theorem readRequestPrefix_replayed (maxHeaderBytes : Nat) (arrivals : Arrivals ε) :
    let read := fun polls =>
      awaitRequestPrefix Arrivals.reader maxHeaderBytes polls [] arrivals
    (∀ polls, (read polls).bytes.length ≤ maxHeaderBytes) ∧
    ((∃ polls replayed socket, read polls = .complete replayed socket) ↔
      ∃ stop, headerEnd arrivals.reached = some stop ∧ stop ≤ maxHeaderBytes) ∧
    (∃ polls, ∀ held socket, read polls ≠ .waiting held socket) ∧
    ∀ polls replayed socket, read polls = .complete replayed socket →
      (∀ (crates : Crates Url) (expectedAuthority : Bytes) (limits : TransportLimits),
        limits.maxHeaderBytes = maxHeaderBytes →
          validate crates replayed expectedAuthority limits ≠ .error .headerLimit) ∧
      HandsOver arrivals.stream (.new replayed socket) := by
  intro read
  have hbound : ∀ polls, (read polls).bytes.length ≤ maxHeaderBytes := fun polls =>
    awaitRequestPrefix_bounded Arrivals.reader polls arrivals (Nat.zero_le maxHeaderBytes)
  refine ⟨hbound, awaitRequestPrefix_complete_iff maxHeaderBytes arrivals,
    ⟨arrivals.weight + 1, awaitRequestPrefix_decides maxHeaderBytes arrivals⟩, ?_⟩
  intro polls replayed socket hread
  constructor
  · intro crates expectedAuthority limits hlimits
    -- the prefix is no longer than the limit that admission checks
    have hheld := hbound polls
    rw [hread] at hheld
    exact validate_ne_headerLimit crates expectedAuthority (hlimits ▸ hheld)
  · have houtcome := awaitRequestPrefix_outcome maxHeaderBytes polls [] arrivals
    rw [show awaitRequestPrefix Arrivals.reader maxHeaderBytes polls [] arrivals =
      .complete replayed socket from hread] at houtcome
    cases houtcome with
    | complete _ hstream _ =>
        rw [List.nil_append] at hstream
        have hwhole : (ReplayIo.new replayed socket).remaining = arrivals.stream := hstream
        rw [← hwhole]
        exact handsOver _

end Rpackit.Transport
