import Rpackit.Library.AsyncRead
import Rpackit.Transport.Admission
import Rpackit.Transport.ResponseBody

/-! # The guard on the upstream connection

The guard withholds every byte of the upstream until a complete response head
has been validated. Its `header_end` and its check for bare line endings are
those of the request admission.
-/

namespace Rpackit.Transport

open Text Fallible

variable {R ε Url : Type}

/-! ## The response head -/

def otherError (message : String) : IoError := ⟨.other, message⟩

/-- `u8::is_ascii_whitespace`. -/
def isTrimAsciiByte (b : UInt8) : Bool :=
  b == space || b == tab || b == lineFeed || b == 0x0C || b == carriageReturn

def trimAscii (value : Bytes) : Bytes :=
  (value.dropWhile isTrimAsciiByte).rdropWhile isTrimAsciiByte

def headerValues (headers : List (Bytes × Bytes)) (name : Bytes) : List Bytes :=
  (headers.filter fun header => eqIgnoreAsciiCase header.1 name).map Prod.snd

def statusAllowed (code : Option Nat) (allowSwitchingProtocols : Bool) : Bool :=
  code.any (fun code => 200 ≤ code && code ≤ 599)
    || (code == some 101 && allowSwitchingProtocols)

def validateResponseFraming (headers : List (Bytes × Bytes)) : Except IoError Unit := do
  let contentLengths := headerValues headers Header.contentLength
  let transferEncodings := headerValues headers Header.transferEncoding
  rejectIf (contentLengths.length > 1 || transferEncodings.length > 1
    || (contentLengths != [] && transferEncodings != []))
    (otherError "upstream response framing is ambiguous")
  rejectIf (contentLengths.head?.any fun value =>
      trimAscii value == [] || !(trimAscii value).all isAsciiDigit
        || (parseU64 (trimAscii value)).isNone)
    (otherError "upstream content length is malformed")
  rejectIf (transferEncodings.head?.any fun value =>
      !eqIgnoreAsciiCase (trimAscii value) (asBytes "chunked"))
    (otherError "upstream transfer encoding is unsupported")

def validateResponseHead (crates : Crates Url) (bytes : Bytes) (maxHeaders : Nat)
    (allowSwitchingProtocols : Bool) : Except IoError Unit := do
  rejectIf (bareLineEnding none bytes) (otherError "upstream response used a bare line ending")
  let parsed ← okOr (crates.parseResponse bytes maxHeaders)
    (otherError "upstream response head is malformed")
  match parsed with
  | .incomplete => throw (otherError "upstream response status is invalid")
  | .complete response =>
      rejectIf (response.consumed != bytes.length || response.version != some 1
          || !statusAllowed response.code allowSwitchingProtocols)
        (otherError "upstream response status is invalid")
      rejectIf (response.code == some 101 && !allowSwitchingProtocols)
        (otherError "upstream protocol switch was not requested")
      validateResponseFraming response.headers

/-! ## The guard -/

/-- A failure of the inner reader is passed on; the others are the guard's own. -/
inductive GuardError (ε : Type) where
  | inner (error : ε)
  | guard (error : IoError)
  deriving DecidableEq, Repr

structure ResponseGuardIo (R : Type) where
  inner : R
  prefixBytes : Bytes
  maxHeaderBytes : Nat
  maxHeaders : Nat
  allowSwitchingProtocols : Bool
  validated : Bool
  rejected : Bool
  deriving DecidableEq, Repr

namespace ResponseGuardIo

def new (inner : R) (maxHeaderBytes maxHeaders : Nat) (allowSwitchingProtocols : Bool) :
    ResponseGuardIo R where
  inner := inner
  prefixBytes := []
  maxHeaderBytes := maxHeaderBytes
  maxHeaders := maxHeaders
  allowSwitchingProtocols := allowSwitchingProtocols
  validated := false
  rejected := false

def chunkBytes : Nat := 4 * 1024

def reject (guard : ResponseGuardIo R) : ResponseGuardIo R :=
  { guard with prefixBytes := [], rejected := true }

variable (crates : Crates Url) (inner : AsyncRead R ε)

/-- The loop that runs until the head is validated. -/
def fillPrefix (guard : ResponseGuardIo R) :
    Poll (Except (GuardError ε) Unit) × ResponseGuardIo R :=
  if guard.validated then (.ready (.ok ()), guard)
  else
    match headerEnd guard.prefixBytes with
    | some stop =>
        match validateResponseHead crates (guard.prefixBytes.take stop) guard.maxHeaders
          guard.allowSwitchingProtocols with
        | .error error => (.ready (.error (.guard error)), guard.reject)
        | .ok () => (.ready (.ok ()), { guard with validated := true })
    | none =>
        if guard.prefixBytes.length ≥ guard.maxHeaderBytes then
          (.ready (.error (.guard (otherError "upstream response head exceeded limit"))),
            guard.reject)
        else
          let limit := min (guard.maxHeaderBytes - guard.prefixBytes.length) chunkBytes
          match inner.pollRead guard.inner limit with
          | (.pending, next) => (.pending, { guard with inner := next })
          | (.ready (.error error), next) =>
              (.ready (.error (.inner error)), { guard with inner := next }.reject)
          | (.ready (.ok []), next) =>
              (.ready (.error (.guard ⟨.unexpectedEof,
                "upstream closed before its response head completed"⟩)),
                { guard with inner := next }.reject)
          | (.ready (.ok (byte :: bytes)), next) =>
              fillPrefix { guard with
                inner := next
                prefixBytes := guard.prefixBytes ++ byte :: bytes }
  termination_by guard.maxHeaderBytes - guard.prefixBytes.length
  decreasing_by
    simp only [List.length_append, List.length_cons]
    omega

def rejectedError : GuardError ε := .guard (otherError "upstream response head was rejected")

def pollRead (capacity : Nat) (guard : ResponseGuardIo R) :
    Poll (Except (GuardError ε) Bytes) × ResponseGuardIo R :=
  if guard.rejected then (.ready (.error rejectedError), guard)
  else
    match fillPrefix crates inner guard with
    | (.pending, filled) => (.pending, filled)
    | (.ready (.error error), filled) => (.ready (.error error), filled)
    | (.ready (.ok ()), filled) =>
        if filled.prefixBytes ≠ [] then
          let count := min filled.prefixBytes.length capacity
          (.ready (.ok (filled.prefixBytes.take count)),
            { filled with prefixBytes := filled.prefixBytes.drop count })
        else
          match inner.pollRead filled.inner capacity with
          | (.pending, next) => (.pending, { filled with inner := next })
          | (.ready (.error error), next) =>
              (.ready (.error (.inner error)), { filled with inner := next })
          | (.ready (.ok bytes), next) => (.ready (.ok bytes), { filled with inner := next })

/-! ## What the guard knows -/

/-- The head that the guard lets pass: its first empty line ends within the limit
and it is valid. -/
def HasAcceptableHead (crates : Crates Url) (guard : ResponseGuardIo R) (stream : Bytes) : Prop :=
  ∃ stop, headerEnd stream = some stop ∧ stop ≤ guard.maxHeaderBytes ∧
    validateResponseHead crates (stream.take stop) guard.maxHeaders
      guard.allowSwitchingProtocols = .ok ()

variable {crates : Crates Url}

theorem hasAcceptableHead_append {guard : ResponseGuardIo R} {stream : Bytes} (suffix : Bytes)
    (haccepted : HasAcceptableHead crates guard stream) :
    HasAcceptableHead crates guard (stream ++ suffix) := by
  obtain ⟨stop, hend, hlimit, hvalid⟩ := haccepted
  exact ⟨stop, headerEnd_append suffix hend, hlimit,
    by rwa [List.take_append_of_le_length (headerEnd_le hend)]⟩

/-- What holds of a guard over a logged reader after it released some bytes. -/
structure Inv (crates : Crates Url) (released : Bytes)
    (guard : ResponseGuardIo (R × Delivery)) : Prop where
  exclusive : guard.rejected = true → guard.validated = false
  lossless : guard.rejected = false → released ++ guard.prefixBytes = guard.inner.2.bytes
  withheld : guard.validated = false → released = []
  bounded : guard.validated = false → guard.prefixBytes.length ≤ guard.maxHeaderBytes
  accepted : guard.validated = true → HasAcceptableHead crates guard guard.inner.2.bytes
  refused : guard.rejected = true → guard.inner.2.failed = true ∨
    ∀ stream, guard.inner.2.IsPartOf stream → ¬HasAcceptableHead crates guard stream

theorem inv_new (reader : R) (maxHeaderBytes maxHeaders : Nat) (allowSwitchingProtocols : Bool) :
    Inv crates [] (new (reader, Delivery.start) maxHeaderBytes maxHeaders
      allowSwitchingProtocols) where
  exclusive hrejected := by cases hrejected
  lossless _ := rfl
  withheld _ := rfl
  bounded _ := Nat.zero_le _
  accepted hvalidated := by cases hvalidated
  refused hrejected := by cases hrejected

/-- Before a verdict nothing is released and the prefix is all that was delivered. -/
theorem inv_open_iff {released : Bytes} {guard : ResponseGuardIo (R × Delivery)}
    (hopen : guard.validated = false) (hlive : guard.rejected = false) :
    Inv crates released guard ↔ released = [] ∧ guard.prefixBytes = guard.inner.2.bytes ∧
      guard.prefixBytes.length ≤ guard.maxHeaderBytes := by
  constructor
  · intro hinv
    have hreleased := hinv.withheld hopen
    have hlossless := hinv.lossless hlive
    rw [hreleased, List.nil_append] at hlossless
    exact ⟨hreleased, hlossless, hinv.bounded hopen⟩
  · rintro ⟨rfl, hleads, hbounded⟩
    constructor
    case exclusive => exact fun _ => hopen
    case lossless => exact fun _ => by rw [List.nil_append, hleads]
    case withheld => exact fun _ => rfl
    case bounded => exact fun _ => hbounded
    case accepted =>
      intro hvalidated
      rw [hopen] at hvalidated
      cases hvalidated
    case refused =>
      intro hrejected
      rw [hlive] at hrejected
      cases hrejected

/-- Rejecting before validation keeps the invariant when the delivered bytes, or a
failure, justify it. -/
theorem inv_reject {guard : ResponseGuardIo (R × Delivery)} (next : R × Delivery)
    (hopen : guard.validated = false)
    (hrefused : next.2.failed = true ∨
      ∀ stream, next.2.IsPartOf stream → ¬HasAcceptableHead crates guard stream) :
    Inv crates [] ({ guard with inner := next }.reject) where
  exclusive _ := hopen
  lossless hrejected := by cases hrejected
  withheld _ := rfl
  bounded _ := Nat.zero_le _
  accepted hvalidated := by
    change guard.validated = true at hvalidated
    rw [hopen] at hvalidated
    cases hvalidated
  refused _ := hrefused

/-- An invalid head is not acceptable, whatever the rest of the stream is. -/
theorem not_hasAcceptableHead_of_invalid {guard : ResponseGuardIo (R × Delivery)}
    {delivery : Delivery} {stop : Nat} {error : IoError}
    (hend : headerEnd delivery.bytes = some stop)
    (hinvalid : validateResponseHead crates (delivery.bytes.take stop) guard.maxHeaders
      guard.allowSwitchingProtocols = .error error) :
    ∀ stream, delivery.IsPartOf stream → ¬HasAcceptableHead crates guard stream := by
  rintro stream ⟨⟨suffix, rfl⟩, -⟩ ⟨other, hother, -, hvalid⟩
  rw [headerEnd_append suffix hend, Option.some.injEq] at hother
  subst hother
  rw [List.take_append_of_le_length (headerEnd_le hend), hinvalid] at hvalid
  cases hvalid

/-- Nor is a head that is not complete. -/
theorem not_hasAcceptableHead_of_none {guard : ResponseGuardIo R} {stream : Bytes}
    (hnone : headerEnd stream = none) : ¬HasAcceptableHead crates guard stream := by
  rintro ⟨stop, hend, -, -⟩
  rw [hnone] at hend
  cases hend

/-- Nor is a head that does not end within the limit. -/
theorem not_hasAcceptableHead_of_limit {guard : ResponseGuardIo (R × Delivery)}
    {delivery : Delivery} (hnone : headerEnd delivery.bytes = none)
    (hlimit : guard.maxHeaderBytes ≤ delivery.bytes.length) :
    ∀ stream, delivery.IsPartOf stream → ¬HasAcceptableHead crates guard stream := by
  rintro stream ⟨⟨suffix, rfl⟩, -⟩ ⟨stop, hend, hstop, -⟩
  rw [headerEnd_of_append hend (hstop.trans hlimit)] at hnone
  cases hnone

/-- Nor is a stream that ended without a complete head. -/
theorem not_hasAcceptableHead_of_ended {guard : ResponseGuardIo (R × Delivery)}
    {delivery : Delivery} (hnone : headerEnd delivery.bytes = none)
    (hended : delivery.ended = true) :
    ∀ stream, delivery.IsPartOf stream → ¬HasAcceptableHead crates guard stream := by
  rintro stream ⟨-, hwhole⟩
  rw [← hwhole hended]
  exact not_hasAcceptableHead_of_none hnone

/-! ## One poll -/

/-- A reader that records what it hands over, as `AsyncRead.logged` does. -/
def Records (inner : AsyncRead (R × Delivery) ε) : Prop :=
  ∀ {reader : R × Delivery} {capacity : Nat} {answer : Poll (Except ε Bytes)}
    {next : R × Delivery}, inner.pollRead reader capacity = (answer, next) →
    next.2 = reader.2.record capacity answer

theorem records_logged (inner : AsyncRead R ε) : Records inner.logged := by
  intro reader capacity answer next hpoll
  rw [AsyncRead.logged_pollRead] at hpoll
  cases hpoll
  rfl

theorem Records.waits {inner : AsyncRead (R × Delivery) ε} (hlog : Records inner)
    {reader : R × Delivery} {capacity : Nat} {answer : Poll (Except ε Bytes)}
    {next : R × Delivery} (hpoll : inner.pollRead reader capacity = (answer, next)) :
    next.2.waits = reader.2.waits + answer.isPending.toNat := by
  rw [hlog hpoll, Delivery.record_waits]

/-- Only a validated guard has been given an acceptable head: no other one is left waiting. -/
def Settled (crates : Crates Url) (guard : ResponseGuardIo (R × Delivery)) : Prop :=
  guard.validated = false → ¬HasAcceptableHead crates guard guard.inner.2.bytes

theorem settled_new (reader : R) (maxHeaderBytes maxHeaders : Nat)
    (allowSwitchingProtocols : Bool) :
    Settled crates (new (reader, Delivery.start) maxHeaderBytes maxHeaders
      allowSwitchingProtocols) :=
  fun _ => not_hasAcceptableHead_of_none rfl

theorem settled_of_validated {guard : ResponseGuardIo (R × Delivery)}
    (hvalidated : guard.validated = true) : Settled crates guard := by
  intro hopen
  rw [hvalidated] at hopen
  cases hopen

/-- The answers of the loop, and the state each of them leaves. -/
inductive FillOutcome (crates : Crates Url) (released : Bytes) :
    Poll (Except (GuardError ε) Unit) × ResponseGuardIo (R × Delivery) → Prop
  | waiting {filled : ResponseGuardIo (R × Delivery)} (hopen : filled.validated = false)
      (hlive : filled.rejected = false) (hinv : Inv crates released filled)
      (hsettled : Settled crates filled) :
      FillOutcome crates released (.pending, filled)
  | refused {error : GuardError ε} {filled : ResponseGuardIo (R × Delivery)}
      (hrejected : filled.rejected = true) (hinv : Inv crates released filled)
      (hsettled : Settled crates filled) :
      FillOutcome crates released (.ready (.error error), filled)
  | passed {filled : ResponseGuardIo (R × Delivery)} (hvalidated : filled.validated = true)
      (hlive : filled.rejected = false) (hinv : Inv crates released filled) :
      FillOutcome crates released (.ready (.ok ()), filled)

theorem fillPrefix_outcome {inner : AsyncRead (R × Delivery) ε} (hlog : Records inner)
    {released : Bytes} {guard : ResponseGuardIo (R × Delivery)}
    (hinv : Inv crates released guard) (hlive : guard.rejected = false) :
    FillOutcome crates released (fillPrefix crates inner guard) := by
  -- one case for each exit of the loop, and one for another round
  fun_induction fillPrefix crates inner guard with
  | case1 guard hvalidated => exact .passed hvalidated hlive hinv
  | case2 guard hnot stop hend error hinvalid =>
      have hopen := Bool.eq_false_iff.mpr hnot
      obtain ⟨rfl, hleads, -⟩ := (inv_open_iff hopen hlive).mp hinv
      rw [hleads] at hend hinvalid
      have hrefused : ∀ stream, guard.inner.2.IsPartOf stream →
          ¬HasAcceptableHead crates guard stream := not_hasAcceptableHead_of_invalid hend hinvalid
      exact .refused rfl (inv_reject guard.inner hopen (.inr hrefused))
        (fun _ => hrefused _ guard.inner.2.isPartOf_bytes)
  | case3 guard hnot stop hend hvalid =>
      have hopen := Bool.eq_false_iff.mpr hnot
      obtain ⟨rfl, hleads, hbounded⟩ := (inv_open_iff hopen hlive).mp hinv
      have haccepted : HasAcceptableHead crates guard guard.inner.2.bytes := by
        rw [← hleads]
        exact ⟨stop, hend, (headerEnd_le hend).trans hbounded, hvalid⟩
      refine .passed rfl hlive ⟨?_, ?_, ?_, ?_, ?_, ?_⟩
      · intro hrejected
        rw [show guard.rejected = true from hrejected] at hlive
        cases hlive
      · exact fun _ => by rw [List.nil_append, hleads]
      · exact fun _ => rfl
      · intro hfalse
        cases hfalse
      · exact fun _ => haccepted
      · intro hrejected
        rw [show guard.rejected = true from hrejected] at hlive
        cases hlive
  | case4 guard hnot hnone hlimit =>
      have hopen := Bool.eq_false_iff.mpr hnot
      obtain ⟨rfl, hleads, -⟩ := (inv_open_iff hopen hlive).mp hinv
      rw [hleads] at hnone hlimit
      exact .refused rfl (inv_reject guard.inner hopen
        (.inr (not_hasAcceptableHead_of_limit hnone hlimit)))
        (fun _ => not_hasAcceptableHead_of_none hnone)
  | case5 guard hnot hnone hlimit limit next hpoll =>
      have hopen := Bool.eq_false_iff.mpr hnot
      obtain ⟨rfl, hleads, hbounded⟩ := (inv_open_iff hopen hlive).mp hinv
      have hbytes : next.2.bytes = guard.inner.2.bytes := by rw [hlog hpoll]; simp [deliveredBytes]
      refine .waiting hopen hlive ((inv_open_iff (by exact hopen) (by exact hlive)).mpr
        ⟨rfl, hleads.trans hbytes.symm, hbounded⟩)
        (fun _ => not_hasAcceptableHead_of_none ?_)
      rw [hleads, ← hbytes] at hnone
      exact hnone
  | case6 guard hnot hnone hlimit limit error next hpoll =>
      have hopen := Bool.eq_false_iff.mpr hnot
      obtain ⟨rfl, hleads, -⟩ := (inv_open_iff hopen hlive).mp hinv
      have hbytes : next.2.bytes = guard.inner.2.bytes := by rw [hlog hpoll]; simp [deliveredBytes]
      rw [hleads, ← hbytes] at hnone
      exact .refused rfl (inv_reject next hopen (.inl (by rw [hlog hpoll]; rfl)))
        (fun _ => not_hasAcceptableHead_of_none hnone)
  | case7 guard hnot hnone hlimit limit next hpoll =>
      have hopen := Bool.eq_false_iff.mpr hnot
      obtain ⟨rfl, hleads, -⟩ := (inv_open_iff hopen hlive).mp hinv
      have hpositive : 0 < limit := by
        simp only [limit, chunkBytes]
        omega
      have hended : next.2.ended = true := by
        rw [hlog hpoll]
        simp [Delivery.record, hpositive]
      have hbytes : next.2.bytes = guard.inner.2.bytes := by rw [hlog hpoll]; simp [deliveredBytes]
      rw [hleads, ← hbytes] at hnone
      exact .refused rfl (inv_reject next hopen
        (.inr (not_hasAcceptableHead_of_ended hnone hended)))
        (fun _ => not_hasAcceptableHead_of_none hnone)
  | case8 guard hnot hnone hlimit limit byte bytes next hpoll ih =>
      have hopen := Bool.eq_false_iff.mpr hnot
      obtain ⟨rfl, hleads, hbounded⟩ := (inv_open_iff hopen hlive).mp hinv
      refine ih ((inv_open_iff (by exact hopen) (by exact hlive)).mpr ⟨rfl, ?_, ?_⟩) hlive
      · rw [hlog hpoll]
        simp [Delivery.record, hleads]
      · have hfits := inner.bounded hpoll
        simp only [limit, chunkBytes] at hfits
        change (guard.prefixBytes ++ byte :: bytes).length ≤ guard.maxHeaderBytes
        rw [List.length_append]
        omega

/-- The bytes an answer hands to the caller. -/
def releasedBytes : Poll (Except (GuardError ε) Bytes) → Bytes
  | .ready (.ok bytes) => bytes
  | _ => []

theorem pollRead_inv {inner : AsyncRead (R × Delivery) ε} (hlog : Records inner)
    {released : Bytes} {guard : ResponseGuardIo (R × Delivery)} (capacity : Nat)
    (hinv : Inv crates released guard) :
    Inv crates (released ++ releasedBytes (pollRead crates inner capacity guard).1)
      (pollRead crates inner capacity guard).2 := by
  unfold pollRead
  split
  · simpa [releasedBytes] using hinv
  next hnot =>
    have hlive := Bool.eq_false_iff.mpr hnot
    have houtcome := fillPrefix_outcome hlog hinv hlive
    generalize fillPrefix crates inner guard = outcome at houtcome
    cases houtcome with
    | waiting _ _ hfilled _ => simpa [releasedBytes] using hfilled
    | refused _ hfilled _ => simpa [releasedBytes] using hfilled
    | @passed filled hvalidated hopen hfilled =>
        -- the rest of the stream does not change the verdict on its head
        have hkeep : ∀ {guard' : ResponseGuardIo (R × Delivery)} {released' : Bytes}
            (suffix : Bytes),
            guard'.validated = true → guard'.rejected = false →
            guard'.maxHeaderBytes = filled.maxHeaderBytes →
            guard'.maxHeaders = filled.maxHeaders →
            guard'.allowSwitchingProtocols = filled.allowSwitchingProtocols →
            guard'.inner.2.bytes = filled.inner.2.bytes ++ suffix →
            released' ++ guard'.prefixBytes = guard'.inner.2.bytes →
            Inv crates released' guard' := by
          intro guard' released' suffix hvalid hlive' hmax hheaders hallow hbytes hlossless
          have haccepted := hasAcceptableHead_append suffix (hfilled.accepted hvalidated)
          rw [← hbytes, HasAcceptableHead, ← hmax, ← hheaders, ← hallow] at haccepted
          refine ⟨fun h => ?_, fun _ => hlossless, fun h => ?_, fun h => ?_, fun _ => haccepted,
            fun h => ?_⟩
          · rw [hlive'] at h
            cases h
          · rw [hvalid] at h
            cases h
          · rw [hvalid] at h
            cases h
          · rw [hlive'] at h
            cases h
        have hlossless := hfilled.lossless hopen
        simp only
        split
        next hleads =>
          refine hkeep [] hvalidated hopen rfl rfl rfl (by simp) ?_
          simp only [releasedBytes]
          rw [List.append_assoc, List.take_append_drop, hlossless]
        next hleads =>
          rw [ne_eq, not_not] at hleads
          rw [hleads, List.append_nil] at hlossless
          split
          next next hpoll =>
            refine hkeep [] hvalidated hopen rfl rfl rfl ?_ ?_
            · rw [hlog hpoll]; simp [deliveredBytes]
            · rw [hlog hpoll]; simp [deliveredBytes, releasedBytes, hleads, hlossless]
          next error next hpoll =>
            refine hkeep [] hvalidated hopen rfl rfl rfl ?_ ?_
            · rw [hlog hpoll]; simp [Delivery.record]
            · rw [hlog hpoll]; simp [Delivery.record, releasedBytes, hleads, hlossless]
          next bytes next hpoll =>
            refine hkeep bytes hvalidated hopen rfl rfl rfl ?_ ?_
            · rw [hlog hpoll]; rfl
            · rw [hlog hpoll]; simp [Delivery.record, releasedBytes, hleads, hlossless]

theorem pollRead_settled {inner : AsyncRead (R × Delivery) ε} (hlog : Records inner)
    {released : Bytes} {guard : ResponseGuardIo (R × Delivery)} (capacity : Nat)
    (hinv : Inv crates released guard) (hsettled : Settled crates guard) :
    Settled crates (pollRead crates inner capacity guard).2 := by
  unfold pollRead
  split
  · exact hsettled
  next hnot =>
    have houtcome := fillPrefix_outcome hlog hinv (Bool.eq_false_iff.mpr hnot)
    generalize fillPrefix crates inner guard = outcome at houtcome
    cases houtcome with
    | waiting _ _ _ hfilled => exact hfilled
    | refused _ _ hfilled => exact hfilled
    | passed hvalidated hlive hfilled =>
        refine settled_of_validated ?_
        simp only
        split
        · exact hvalidated
        · split <;> exact hvalidated

/-- The loop waits exactly when the reader does. -/
theorem fillPrefix_waits {inner : AsyncRead (R × Delivery) ε} (hlog : Records inner)
    (guard : ResponseGuardIo (R × Delivery)) :
    (fillPrefix crates inner guard).2.inner.2.waits =
      guard.inner.2.waits + (fillPrefix crates inner guard).1.isPending.toNat := by
  fun_induction fillPrefix crates inner guard with
  | case1 => rfl
  | case2 => rfl
  | case3 => rfl
  | case4 => rfl
  | case5 guard hnot hnone hlimit limit next hpoll => exact hlog.waits hpoll
  | case6 guard hnot hnone hlimit limit error next hpoll => exact hlog.waits hpoll
  | case7 guard hnot hnone hlimit limit next hpoll => exact hlog.waits hpoll
  | case8 guard hnot hnone hlimit limit byte bytes next hpoll ih =>
      have hsame : next.2.waits = guard.inner.2.waits := hlog.waits hpoll
      rw [ih, ← hsame]

/-- One poll of the guard waits exactly when a poll of the reader in it does. -/
theorem pollRead_waits {inner : AsyncRead (R × Delivery) ε} (hlog : Records inner)
    (capacity : Nat) (guard : ResponseGuardIo (R × Delivery)) :
    (pollRead crates inner capacity guard).2.inner.2.waits =
      guard.inner.2.waits + (pollRead crates inner capacity guard).1.isPending.toNat := by
  have hfill : (fillPrefix crates inner guard).2.inner.2.waits = _ := fillPrefix_waits hlog guard
  unfold pollRead
  split
  · rfl
  · generalize fillPrefix crates inner guard = outcome at hfill
    obtain ⟨answer, filled⟩ := outcome
    cases answer with
    | pending => exact hfill
    | ready result =>
        cases result with
        | error error => exact hfill
        | ok _ =>
            have hsame : filled.inner.2.waits = guard.inner.2.waits := hfill
            simp only
            split
            · exact hsame
            · rw [← hsame]
              split
              next next hpoll => exact hlog.waits hpoll
              next error next hpoll => exact hlog.waits hpoll
              next bytes next hpoll => exact hlog.waits hpoll

/-! ## Verdicts -/

section Verdict

variable {inner : AsyncRead R ε}

theorem fillPrefix_verdict (crates : Crates Url) (inner : AsyncRead R ε)
    (guard : ResponseGuardIo R) :
    (∀ error, (fillPrefix crates inner guard).1 = .ready (.error error) →
      (fillPrefix crates inner guard).2.rejected = true) ∧
    ((fillPrefix crates inner guard).1 = .ready (.ok ()) →
      (fillPrefix crates inner guard).2.validated = true) ∧
    (guard.validated = true → (fillPrefix crates inner guard).2.validated = true) := by
  fun_induction fillPrefix crates inner guard with
  | case1 guard hvalidated => simp [hvalidated]
  | case2 guard hnot => simp [reject, hnot]
  | case3 guard hnot => simp
  | case4 guard hnot => simp [reject, hnot]
  | case5 guard hnot => simp [hnot]
  | case6 guard hnot => simp [reject, hnot]
  | case7 guard hnot => simp [reject, hnot]
  | case8 guard hnot hnone hlimit limit byte bytes next hpoll ih => exact ih

/-- An error of an unvalidated guard latches it. -/
theorem pollRead_error {guard : ResponseGuardIo R} {capacity : Nat} {error : GuardError ε}
    (herror : (pollRead crates inner capacity guard).1 = .ready (.error error))
    (hopen : (pollRead crates inner capacity guard).2.validated = false) :
    (pollRead crates inner capacity guard).2.rejected = true := by
  obtain ⟨hrefused, hpassed, -⟩ := fillPrefix_verdict crates inner guard
  unfold pollRead at herror hopen ⊢
  split
  next hrejected => exact hrejected
  next hlive =>
    rw [if_neg hlive] at herror hopen
    split at herror
    · cases herror
    next error' filled hfill =>
      simp only [hfill] at hrefused ⊢
      exact hrefused error' rfl
    next filled hfill =>
      simp only [hfill] at hpassed hopen
      have hvalidated := hpassed trivial
      split at hopen
      · simp [hvalidated] at hopen
      · split at hopen <;> simp [hvalidated] at hopen

theorem pollRead_validated {guard : ResponseGuardIo R} (capacity : Nat)
    (hvalidated : guard.validated = true) :
    (pollRead crates inner capacity guard).2.validated = true := by
  unfold pollRead
  split
  · exact hvalidated
  · rw [fillPrefix, if_pos hvalidated]
    simp only
    split
    · exact hvalidated
    · split <;> exact hvalidated

theorem pollRead_rejected {guard : ResponseGuardIo R} (capacity : Nat)
    (hrejected : guard.rejected = true) :
    pollRead crates inner capacity guard = (.ready (.error rejectedError), guard) := by
  rw [pollRead, if_pos hrejected]

/-- Every answer other than `Pending` comes with a verdict. -/
theorem pollRead_decides {guard : ResponseGuardIo R} {capacity : Nat}
    (hready : (pollRead crates inner capacity guard).1 ≠ .pending) :
    (pollRead crates inner capacity guard).2.validated = true ∨
      (pollRead crates inner capacity guard).2.rejected = true := by
  obtain ⟨hrefused, hpassed, -⟩ := fillPrefix_verdict crates inner guard
  unfold pollRead at hready ⊢
  split
  next hrejected => exact .inr hrejected
  next hlive =>
    rw [if_neg hlive] at hready
    split at hready
    next filled hfill => exact absurd rfl hready
    next error filled hfill =>
      simp only [hfill] at hrefused ⊢
      exact .inr (hrefused error rfl)
    next filled hfill =>
      simp only [hfill] at hpassed ⊢
      have hvalidated := hpassed trivial
      refine .inl ?_
      split
      · exact hvalidated
      · split <;> exact hvalidated

/-- The settings never change. -/
def SameSettings {R' : Type} (guard : ResponseGuardIo R) (other : ResponseGuardIo R') : Prop :=
  guard.maxHeaderBytes = other.maxHeaderBytes ∧ guard.maxHeaders = other.maxHeaders ∧
    guard.allowSwitchingProtocols = other.allowSwitchingProtocols

theorem fillPrefix_settings (crates : Crates Url) (inner : AsyncRead R ε)
    (guard : ResponseGuardIo R) :
    SameSettings (fillPrefix crates inner guard).2 guard := by
  fun_induction fillPrefix crates inner guard with
  | case8 guard hnot hnone hlimit limit byte bytes next hpoll ih => exact ih
  | _ => exact ⟨rfl, rfl, rfl⟩

theorem pollRead_settings (crates : Crates Url) (inner : AsyncRead R ε) (capacity : Nat)
    (guard : ResponseGuardIo R) :
    SameSettings (pollRead crates inner capacity guard).2 guard := by
  have hfill := fillPrefix_settings crates inner guard
  unfold pollRead
  split
  · exact ⟨rfl, rfl, rfl⟩
  · split
    next filled hfilled => simpa only [hfilled] using hfill
    next error filled hfilled => simpa only [hfilled] using hfill
    next filled hfilled =>
      simp only [hfilled] at hfill
      split
      · exact hfill
      · split <;> exact hfill

theorem hasAcceptableHead_congr {R' : Type} {guard : ResponseGuardIo R}
    {other : ResponseGuardIo R'} (hsame : SameSettings guard other) (stream : Bytes) :
    HasAcceptableHead crates guard stream ↔ HasAcceptableHead crates other stream := by
  obtain ⟨hmax, hheaders, hallow⟩ := hsame
  rw [HasAcceptableHead, HasAcceptableHead, hmax, hheaders, hallow]

end Verdict

/-! ## Observation does not disturb -/

def mapInner {R' : Type} (f : R → R') (guard : ResponseGuardIo R) : ResponseGuardIo R' where
  inner := f guard.inner
  prefixBytes := guard.prefixBytes
  maxHeaderBytes := guard.maxHeaderBytes
  maxHeaders := guard.maxHeaders
  allowSwitchingProtocols := guard.allowSwitchingProtocols
  validated := guard.validated
  rejected := guard.rejected

section Observation

variable {inner : AsyncRead R ε} {observer : AsyncRead (R × Delivery) ε}

/-- The observer answers as the reader does. -/
def Observes (observer : AsyncRead (R × Delivery) ε) (inner : AsyncRead R ε) : Prop :=
  ∀ {reader : R × Delivery} {capacity : Nat} {answer : Poll (Except ε Bytes)}
    {next : R × Delivery}, observer.pollRead reader capacity = (answer, next) →
    inner.pollRead reader.1 capacity = (answer, next.1)

theorem observes_logged (inner : AsyncRead R ε) : Observes inner.logged inner := by
  intro reader capacity answer next hpoll
  rw [AsyncRead.logged_pollRead] at hpoll
  cases hpoll
  rfl

/-- The loop of an open guard whose head is not complete yet. -/
theorem fillPrefix_of_reads {guard : ResponseGuardIo R} (hopen : ¬guard.validated = true)
    (hnone : headerEnd guard.prefixBytes = none)
    (hroom : ¬guard.prefixBytes.length ≥ guard.maxHeaderBytes) :
    fillPrefix crates inner guard =
      match inner.pollRead guard.inner
        (min (guard.maxHeaderBytes - guard.prefixBytes.length) chunkBytes) with
      | (.pending, next) => (.pending, { guard with inner := next })
      | (.ready (.error error), next) =>
          (.ready (.error (.inner error)), { guard with inner := next }.reject)
      | (.ready (.ok []), next) =>
          (.ready (.error (.guard ⟨.unexpectedEof,
            "upstream closed before its response head completed"⟩)),
            { guard with inner := next }.reject)
      | (.ready (.ok (byte :: bytes)), next) =>
          fillPrefix crates inner { guard with
            inner := next
            prefixBytes := guard.prefixBytes ++ byte :: bytes } := by
  rw [fillPrefix, if_neg hopen, hnone]
  dsimp only
  rw [if_neg hroom]

theorem fillPrefix_observed (hobserves : Observes observer inner)
    (guard : ResponseGuardIo (R × Delivery)) :
    fillPrefix crates inner (guard.mapInner Prod.fst) =
      ((fillPrefix crates observer guard).1,
        (fillPrefix crates observer guard).2.mapInner Prod.fst) := by
  fun_induction fillPrefix crates observer guard with
  | case1 guard hvalidated =>
      rw [fillPrefix, if_pos (by exact hvalidated)]
  | case2 guard hnot stop hend error hinvalid =>
      rw [fillPrefix, if_neg (by exact hnot)]
      simp only [mapInner, hend, hinvalid]
      rfl
  | case3 guard hnot stop hend hvalid =>
      rw [fillPrefix, if_neg (by exact hnot)]
      simp only [mapInner, hend, hvalid]
  | case4 guard hnot hnone hlimit =>
      rw [fillPrefix, if_neg (by exact hnot)]
      rw [show headerEnd (guard.mapInner Prod.fst).prefixBytes = none from hnone]
      dsimp only
      rw [if_pos (by exact hlimit)]
      rfl
  | case5 guard hnot hnone hlimit limit next hpoll =>
      rw [fillPrefix_of_reads (by exact hnot) (by exact hnone) (by exact hlimit)]
      simp only [mapInner]
      rw [hobserves hpoll]
  | case6 guard hnot hnone hlimit limit error next hpoll =>
      rw [fillPrefix_of_reads (by exact hnot) (by exact hnone) (by exact hlimit)]
      simp only [mapInner]
      rw [hobserves hpoll]
      rfl
  | case7 guard hnot hnone hlimit limit next hpoll =>
      rw [fillPrefix_of_reads (by exact hnot) (by exact hnone) (by exact hlimit)]
      simp only [mapInner]
      rw [hobserves hpoll]
      rfl
  | case8 guard hnot hnone hlimit limit byte bytes next hpoll ih =>
      rw [fillPrefix_of_reads (by exact hnot) (by exact hnone) (by exact hlimit)]
      simp only [mapInner]
      rw [hobserves hpoll]
      exact ih

theorem pollRead_observed (hobserves : Observes observer inner) (capacity : Nat)
    (guard : ResponseGuardIo (R × Delivery)) :
    pollRead crates inner capacity (guard.mapInner Prod.fst) =
      ((pollRead crates observer capacity guard).1,
        (pollRead crates observer capacity guard).2.mapInner Prod.fst) := by
  unfold pollRead
  rw [show (guard.mapInner Prod.fst).rejected = guard.rejected from rfl,
    fillPrefix_observed hobserves]
  split
  · rfl
  · cases hfill : fillPrefix crates observer guard with
    | mk answer filled =>
        cases answer with
        | pending => rfl
        | ready result =>
            cases result with
            | error error => rfl
            | ok _ =>
                simp only
                rw [show (filled.mapInner Prod.fst).prefixBytes = filled.prefixBytes from rfl]
                split
                · rfl
                · cases hpoll : observer.pollRead filled.inner capacity with
                  | mk answer next =>
                      rw [show (filled.mapInner Prod.fst).inner = filled.inner.1 from rfl,
                        hobserves hpoll]
                      cases answer with
                      | pending => rfl
                      | ready result => cases result <;> rfl

theorem run_observed (hobserves : Observes observer inner) (capacities : List Nat)
    (guard : ResponseGuardIo (R × Delivery)) :
    Poll.run (pollRead crates inner) capacities (guard.mapInner Prod.fst) =
      ((Poll.run (pollRead crates observer) capacities guard).1,
        (Poll.run (pollRead crates observer) capacities guard).2.mapInner Prod.fst) := by
  induction capacities generalizing guard with
  | nil => rfl
  | cons capacity rest ih =>
      simp only [Poll.run_cons, pollRead_observed hobserves, ih]

end Observation

/-! ## Whole runs -/

theorem run_inv {inner : AsyncRead (R × Delivery) ε} (hlog : Records inner)
    (capacities : List Nat) {released : Bytes} {guard : ResponseGuardIo (R × Delivery)}
    (hinv : Inv crates released guard) :
    Inv crates (released ++
        (Poll.run (pollRead crates inner) capacities guard).1.flatMap releasedBytes)
      (Poll.run (pollRead crates inner) capacities guard).2 := by
  induction capacities generalizing released guard with
  | nil => simpa using hinv
  | cons capacity rest ih =>
      have hnext := ih (pollRead_inv hlog capacity hinv)
      simpa only [Poll.run_cons, List.flatMap_cons, List.append_assoc] using hnext

theorem run_settled {inner : AsyncRead (R × Delivery) ε} (hlog : Records inner)
    (capacities : List Nat) {released : Bytes} {guard : ResponseGuardIo (R × Delivery)}
    (hinv : Inv crates released guard) (hsettled : Settled crates guard) :
    Settled crates (Poll.run (pollRead crates inner) capacities guard).2 := by
  induction capacities generalizing released guard with
  | nil => exact hsettled
  | cons capacity rest ih =>
      exact ih (pollRead_inv hlog capacity hinv) (pollRead_settled hlog capacity hinv hsettled)

theorem run_waits {inner : AsyncRead (R × Delivery) ε} (hlog : Records inner)
    (capacities : List Nat) (guard : ResponseGuardIo (R × Delivery)) :
    (Poll.run (pollRead crates inner) capacities guard).2.inner.2.waits =
      guard.inner.2.waits +
        (Poll.run (pollRead crates inner) capacities guard).1.countP Poll.isPending := by
  induction capacities generalizing guard with
  | nil => rfl
  | cons capacity rest ih =>
      rw [Poll.run_cons, ih, pollRead_waits hlog, List.countP_cons]
      cases (pollRead crates inner capacity guard).1.isPending with
      | false => simp
      | true => simp [Nat.add_assoc, Nat.add_comm]

section RunVerdict

variable {inner : AsyncRead R ε}

theorem run_settings (capacities : List Nat) (guard : ResponseGuardIo R) :
    SameSettings (Poll.run (pollRead crates inner) capacities guard).2 guard := by
  have hkeep : ∀ capacity state, SameSettings state guard →
      SameSettings (pollRead crates inner capacity state).2 guard := by
    rintro capacity state ⟨hmax, hheaders, hallow⟩
    obtain ⟨hmax', hheaders', hallow'⟩ := pollRead_settings crates inner capacity
      state
    exact ⟨hmax'.trans hmax, hheaders'.trans hheaders, hallow'.trans hallow⟩
  exact Poll.run_invariant hkeep capacities ⟨rfl, rfl, rfl⟩

theorem run_validated (capacities : List Nat) {guard : ResponseGuardIo R}
    (hvalidated : guard.validated = true) :
    (Poll.run (pollRead crates inner) capacities guard).2.validated = true := by
  have hkeep : ∀ capacity (state : ResponseGuardIo R), state.validated = true →
      (pollRead crates inner capacity state).2.validated = true :=
    fun capacity _ => pollRead_validated capacity
  exact Poll.run_invariant hkeep capacities hvalidated

theorem run_rejected (capacities : List Nat) {guard : ResponseGuardIo R}
    (hrejected : guard.rejected = true) :
    (Poll.run (pollRead crates inner) capacities guard).2.rejected = true := by
  have hkeep : ∀ capacity (state : ResponseGuardIo R), state.rejected = true →
      (pollRead crates inner capacity state).2.rejected = true := by
    intro capacity state hstate
    rwa [pollRead_rejected capacity hstate]
  exact Poll.run_invariant hkeep capacities hrejected

/-- A run that answered an error without a validated head has latched. -/
theorem run_error {capacities : List Nat} {guard : ResponseGuardIo R} {error : GuardError ε}
    (herror : .ready (.error error) ∈ (Poll.run (pollRead crates inner) capacities guard).1)
    (hopen : (Poll.run (pollRead crates inner) capacities guard).2.validated = false) :
    (Poll.run (pollRead crates inner) capacities guard).2.rejected = true := by
  induction capacities generalizing guard with
  | nil => cases herror
  | cons capacity rest ih =>
      simp only [Poll.run_cons, List.mem_cons] at herror hopen ⊢
      rcases herror with hfirst | hrest
      · refine run_rejected rest (pollRead_error hfirst.symm ?_)
        rw [Bool.eq_false_iff]
        intro hvalidated
        rw [run_validated rest hvalidated] at hopen
        cases hopen
      · exact ih hrest hopen

theorem run_decides {capacities : List Nat} {guard : ResponseGuardIo R}
    {answer : Poll (Except (GuardError ε) Bytes)}
    (hanswer : answer ∈ (Poll.run (pollRead crates inner) capacities guard).1)
    (hready : answer ≠ .pending) :
    (Poll.run (pollRead crates inner) capacities guard).2.validated = true ∨
      (Poll.run (pollRead crates inner) capacities guard).2.rejected = true := by
  induction capacities generalizing guard with
  | nil => cases hanswer
  | cons capacity rest ih =>
      simp only [Poll.run_cons, List.mem_cons] at hanswer ⊢
      rcases hanswer with rfl | hrest
      · exact (pollRead_decides hready).imp (run_validated rest) (run_rejected rest)
      · exact ih hrest

theorem run_latched {guard : ResponseGuardIo R} (hrejected : guard.rejected = true)
    (capacities : List Nat) :
    (Poll.run (pollRead crates inner) capacities guard).1 =
      List.replicate capacities.length (.ready (.error rejectedError)) := by
  have hanswer : ∀ capacity (state : ResponseGuardIo R), state.rejected = true →
      (pollRead crates inner capacity state).1 = .ready (.error rejectedError) := by
    intro capacity state hstate
    rw [pollRead_rejected capacity hstate]
  have hkeep : ∀ capacity (state : ResponseGuardIo R), state.rejected = true →
      (pollRead crates inner capacity state).2.rejected = true := by
    intro capacity state hstate
    rwa [pollRead_rejected capacity hstate]
  exact Poll.run_latched hanswer hkeep capacities hrejected

end RunVerdict

/-! ## What a guard serves -/

/-- An answer of the reader, as a validated guard passes it on. -/
def passedOn : Poll (Except ε Bytes) → Poll (Except (GuardError ε) Bytes)
  | .pending => .pending
  | .ready (.error error) => .ready (.error (.inner error))
  | .ready (.ok bytes) => .ready (.ok bytes)

section Serving

variable {inner : AsyncRead R ε} {guard : ResponseGuardIo R}

theorem pollRead_held (capacity : Nat) (hvalidated : guard.validated = true)
    (hlive : guard.rejected = false) (hheld : guard.prefixBytes ≠ []) :
    (pollRead crates inner capacity guard).1 =
      .ready (.ok (guard.prefixBytes.take capacity)) := by
  have hcount : guard.prefixBytes.take (min guard.prefixBytes.length capacity) =
      guard.prefixBytes.take capacity := by
    rw [min_comm]
    exact List.take_eq_take_min.symm
  rw [pollRead, if_neg (by rw [hlive]; exact Bool.false_ne_true), fillPrefix, if_pos hvalidated]
  simp only
  rw [if_pos hheld, hcount]

theorem pollRead_direct (capacity : Nat) (hvalidated : guard.validated = true)
    (hlive : guard.rejected = false) (hempty : guard.prefixBytes = []) :
    (pollRead crates inner capacity guard).1 =
      passedOn (inner.pollRead guard.inner capacity).1 := by
  rw [pollRead, if_neg (by rw [hlive]; exact Bool.false_ne_true), fillPrefix, if_pos hvalidated]
  simp only
  rw [if_neg (not_not_intro hempty)]
  split
  next next hpoll => rw [hpoll]; rfl
  next error next hpoll => rw [hpoll]; rfl
  next bytes next hpoll => rw [hpoll]; rfl

end Serving

/-- What holds after any polls of a new guard, given what its reader delivered. -/
structure Withholds (crates : Crates Url) (inner : AsyncRead R ε) (start : ResponseGuardIo R)
    (answers : List (Poll (Except (GuardError ε) Bytes))) (final : ResponseGuardIo R)
    (delivered : Delivery) : Prop where
  /-- Only upstream bytes are released, in their order. -/
  ordered : answers.flatMap releasedBytes <+: delivered.bytes
  /-- Nothing is lost: what is not released is still held. -/
  lossless : final.rejected = false →
    answers.flatMap releasedBytes ++ final.prefixBytes = delivered.bytes
  /-- No byte leaves before a complete head within the limit was validated. -/
  validatedFirst : answers.flatMap releasedBytes ≠ [] →
    ∃ stop, headerEnd delivered.bytes = some stop ∧ stop ≤ start.maxHeaderBytes ∧
      validateResponseHead crates (delivered.bytes.take stop) start.maxHeaders
        start.allowSwitchingProtocols = .ok ()
  /-- An error before validation is final. -/
  latched : ∀ error, .ready (.error error) ∈ answers → final.validated = false →
    ∀ later, (Poll.run (pollRead crates inner) later final).1 =
      List.replicate later.length (.ready (.error rejectedError))
  /-- The guard waits exactly as often as its reader does. -/
  waits : answers.countP Poll.isPending = delivered.waits
  /-- Every answer other than `Pending` comes with a verdict. -/
  decides : ∀ answer ∈ answers, answer ≠ .pending →
    final.validated = true ∨ final.rejected = true
  /-- A head is validated as soon as it was delivered, and no other is. -/
  validated : final.validated = true ↔ HasAcceptableHead crates start delivered.bytes
  /-- Unless the reader failed, the verdict is a property of the byte stream. -/
  accepts : delivered.failed = false → final.validated = true →
    ∀ stream, delivered.IsPartOf stream → HasAcceptableHead crates start stream
  refuses : delivered.failed = false → final.rejected = true →
    ∀ stream, delivered.IsPartOf stream → ¬HasAcceptableHead crates start stream
  /-- So two guards that were polled to an answer agree whenever their readers deliver parts of
  one stream, however they cut it. -/
  verdict : delivered.failed = false → (∃ answer ∈ answers, answer ≠ .pending) →
    ∀ stream, delivered.IsPartOf stream →
      (final.validated = true ↔ HasAcceptableHead crates start stream) ∧
      (final.rejected = true ↔ ¬HasAcceptableHead crates start stream)
  /-- A validated guard first hands over what it holds, then whatever its reader answers. -/
  held : final.validated = true → final.prefixBytes ≠ [] → ∀ capacity,
    (pollRead crates inner capacity final).1 = .ready (.ok (final.prefixBytes.take capacity))
  direct : final.validated = true → final.prefixBytes = [] → ∀ capacity,
    (pollRead crates inner capacity final).1 = passedOn (inner.pollRead final.inner capacity).1

/-- For every reader, every way it delivers a stream and every sequence of buffer
sizes, the guard withholds the upstream until its head is validated, and no longer. -/
theorem guard_withholds (crates : Crates Url) (inner : AsyncRead R ε) (reader : R)
    (maxHeaderBytes maxHeaders : Nat) (allowSwitchingProtocols : Bool) (capacities : List Nat) :
    let start := new reader maxHeaderBytes maxHeaders allowSwitchingProtocols
    let run := Poll.run (pollRead crates inner) capacities start
    let observed := Poll.run (pollRead crates inner.logged) capacities
      (new (reader, Delivery.start) maxHeaderBytes maxHeaders allowSwitchingProtocols)
    run = (observed.1, observed.2.mapInner Prod.fst) ∧
      Withholds crates inner start run.1 run.2 observed.2.inner.2 := by
  intro start run observed
  -- the log is kept beside the reader, and the guard does not see it
  have hrun : run = (observed.1, observed.2.mapInner Prod.fst) :=
    run_observed (observes_logged inner) capacities
      (new (reader, Delivery.start) maxHeaderBytes maxHeaders allowSwitchingProtocols)
  have hstart : Inv crates [] (new (reader, Delivery.start) maxHeaderBytes maxHeaders
      allowSwitchingProtocols) := inv_new reader maxHeaderBytes maxHeaders allowSwitchingProtocols
  have hinv : Inv crates (observed.1.flatMap releasedBytes) observed.2 := by
    simpa using run_inv (records_logged inner) capacities hstart
  have hsettled : Settled crates observed.2 :=
    run_settled (records_logged inner) capacities hstart
      (settled_new reader maxHeaderBytes maxHeaders allowSwitchingProtocols)
  have hsettings : SameSettings observed.2 start := run_settings capacities _
  have hreleased : run.1.flatMap releasedBytes = observed.1.flatMap releasedBytes := by rw [hrun]
  have hlossless : run.2.rejected = false →
      run.1.flatMap releasedBytes ++ run.2.prefixBytes = observed.2.inner.2.bytes := by
    rw [hrun]
    exact hinv.lossless
  have hlive : run.2.validated = true → run.2.rejected = false := by
    rw [hrun]
    intro hvalidated
    rw [Bool.eq_false_iff]
    intro hrejected
    have hopen := hinv.exclusive hrejected
    rw [show observed.2.validated = true from hvalidated] at hopen
    cases hopen
  have hvalidated : run.2.validated = true ↔
      HasAcceptableHead crates start observed.2.inner.2.bytes := by
    rw [hrun, ← hasAcceptableHead_congr hsettings]
    constructor
    · exact hinv.accepted
    · intro haccepted
      by_contra hopen
      exact hsettled (Bool.eq_false_iff.mpr hopen) haccepted
  have haccepts : run.2.validated = true → ∀ stream, observed.2.inner.2.IsPartOf stream →
      HasAcceptableHead crates start stream := by
    rintro hvalid stream ⟨⟨suffix, rfl⟩, -⟩
    exact hasAcceptableHead_append suffix (hvalidated.mp hvalid)
  have hrefuses : observed.2.inner.2.failed = false → run.2.rejected = true →
      ∀ stream, observed.2.inner.2.IsPartOf stream →
        ¬HasAcceptableHead crates start stream := by
    intro hfailed hrejected stream hpart
    rw [hrun] at hrejected
    rw [← hasAcceptableHead_congr hsettings]
    rcases hinv.refused hrejected with hfailed' | hrefused
    · rw [hfailed] at hfailed'
      cases hfailed'
    · exact hrefused stream hpart
  have hdecides : ∀ answer ∈ run.1, answer ≠ .pending →
      run.2.validated = true ∨ run.2.rejected = true :=
    fun _ hanswer hready => run_decides hanswer hready
  refine ⟨hrun, ?_, hlossless, ?_, ?_, ?_, hdecides, hvalidated, fun _ => haccepts, hrefuses, ?_,
    ?_, ?_⟩
  · cases hrejected : run.2.rejected with
    | false => exact ⟨_, hlossless hrejected⟩
    | true =>
        rw [hreleased, hinv.withheld (hinv.exclusive (by rw [hrun] at hrejected; exact hrejected))]
        exact List.nil_prefix
  · intro hnonempty
    rw [hreleased] at hnonempty
    refine hvalidated.mp ?_
    by_contra hopen
    rw [hrun] at hopen
    exact hnonempty (hinv.withheld (Bool.eq_false_iff.mpr hopen))
  · intro error herror hopen later
    exact run_latched (run_error herror hopen) later
  · have hwaits : observed.2.inner.2.waits = _ := run_waits (records_logged inner) capacities
      (new (reader, Delivery.start) maxHeaderBytes maxHeaders allowSwitchingProtocols)
    rw [hrun, hwaits]
    exact (Nat.zero_add _).symm
  · rintro hfailed ⟨answer, hanswer, hready⟩ stream hpart
    have haccepted := fun hvalid => haccepts hvalid stream hpart
    have hrefused := fun hrejected => hrefuses hfailed hrejected stream hpart
    rcases hdecides answer hanswer hready with hvalid | hrejected
    · refine ⟨iff_of_true hvalid (haccepted hvalid), iff_of_false ?_ ?_⟩
      · rw [hlive hvalid]
        exact Bool.false_ne_true
      · exact not_not_intro (haccepted hvalid)
    · exact ⟨iff_of_false (fun hvalid => hrefused hrejected (haccepted hvalid))
        (hrefused hrejected), iff_of_true hrejected (hrefused hrejected)⟩
  · exact fun hvalid hheld capacity => pollRead_held capacity hvalid (hlive hvalid) hheld
  · exact fun hvalid hempty capacity => pollRead_direct capacity hvalid (hlive hvalid) hempty

def noContentHead : Bytes := asBytes "HTTP/1.1 204 No Content\r\n\r\n"

/-- The response parser on one head, as a table. -/
def noContentCrates : Crates Unit :=
  { Crates.unavailable with
    parseResponse := fun text _ =>
      if text = noContentHead then
        some (.complete ⟨noContentHead.length, some 1, some 204, []⟩)
      else none }

/-- The head arrives in two parts with a wait between them, and two bytes follow in the
second part. -/
def noContentArrivals : Arrivals IoError :=
  [.data 0x48 ((noContentHead.take 24).drop 1), .pending,
    .data 0x0A (noContentHead.drop 25 ++ asBytes "ok")]

/-- After the wait the head and the two bytes are released, in the sizes the caller asks for. -/
theorem guard_withholds_noContent :
    let start : ResponseGuardIo (Arrivals IoError) := new noContentArrivals 27 0 false
    let run := Poll.run (pollRead noContentCrates Arrivals.reader) [8, 20, 20, 20] start
    run.1 = [.pending, .ready (.ok (noContentHead.take 20)),
        .ready (.ok (noContentHead.drop 20)), .ready (.ok (asBytes "ok"))] ∧
      run.2.validated = true ∧
      ∃ delivered, Withholds noContentCrates Arrivals.reader start run.1 run.2 delivered :=
  ⟨by decide +kernel, by decide +kernel, _, (guard_withholds noContentCrates Arrivals.reader
    noContentArrivals 27 0 false [8, 20, 20, 20]).2⟩

end ResponseGuardIo

end Rpackit.Transport
