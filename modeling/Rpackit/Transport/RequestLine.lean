import Rpackit.Transport.Admitted

/-! # Which line the request-line limit measures

Admission measures the bytes before the first line ending. The parser skips empty
lines before it reads the request line, so after a leading line ending the line
that is measured is empty and the request line is measured by nothing.
-/

namespace Rpackit.Transport

open Text Fallible

/-- What `httparse` documents of a complete HTTP/1.1 request: empty lines, the request
line with single blanks between its parts, and a line ending. -/
structure ParsesRequestLine {Url : Type} (crates : Crates Url) : Prop where
  line : ∀ {head : Bytes} {maxHeaders : Nat} {request : ParsedRequestHead} {method target : Bytes},
    crates.parseRequest head maxHeaders = some (.complete request) → request.version = some 1 →
    request.method = some method → request.path = some target →
    ∃ blanks newline rest, head = blanks.flatten ++ requestLine method target ++ newline ++ rest ∧
      (∀ ending ∈ newline :: blanks, ending = crlf ∨ ending = [lineFeed]) ∧
      ∀ b ∈ method ++ target, space < b

theorem carriageReturn_notMem_requestLine {method target : Bytes}
    (hvisible : ∀ b ∈ method ++ target, space < b) :
    carriageReturn ∉ requestLine method target := by
  intro hmem
  simp only [requestLine, List.mem_append, List.mem_singleton] at hmem
  have hparts : carriageReturn ∉ method ++ target := fun hpart =>
    absurd (hvisible carriageReturn hpart) (by decide)
  rw [List.mem_append, not_or] at hparts
  rcases hmem with (((hmethod | hblank) | htarget) | hblank) | hversion
  · exact hparts.1 hmethod
  · exact absurd hblank (by decide)
  · exact hparts.2 htarget
  · exact absurd hblank (by decide)
  · exact absurd hversion (by decide)

theorem requestLine_getLast? (before method target : Bytes) :
    (before ++ requestLine method target).getLast? = some 0x31 := by
  have hversion : (asBytes "HTTP/1.1").getLast? = some 0x31 := by decide
  simp only [requestLine, List.getLast?_append, hversion, Option.some_or]

/-- In an admitted head the lines are ended strictly and the first empty line ends the
head, so at most one line ending stands before the request line. -/
theorem blanks_of_strictLines {head newline rest method target : Bytes} {blanks : List Bytes}
    (hend : headerEnd head = some head.length) (hlines : StrictLines head)
    (hhead : head = blanks.flatten ++ requestLine method target ++ newline ++ rest)
    (hendings : ∀ ending ∈ newline :: blanks, ending = crlf ∨ ending = [lineFeed]) :
    newline = crlf ∧ (blanks = [] ∨ blanks = [crlf]) := by
  obtain ⟨hnewline, hblanks⟩ := List.forall_mem_cons.mp hendings
  constructor
  · rcases hnewline with rfl | rfl
    · rfl
    · have hlast := hlines.lineFeeds (blanks.flatten ++ requestLine method target) rest
        (by rw [hhead]; simp)
      rw [requestLine_getLast?] at hlast
      exact absurd hlast (by decide)
  · cases blanks with
    | nil => exact .inl rfl
    | cons first blanks =>
        right
        obtain ⟨hfirst, hothers⟩ := List.forall_mem_cons.mp hblanks
        rcases hfirst with rfl | rfl
        · cases blanks with
          | nil => rfl
          | cons second blanks =>
              exfalso
              rcases (List.forall_mem_cons.mp hothers).1 with rfl | rfl
              · have hposition : headerEnd (crlf ++ crlf) = some 4 := by decide
                have hfour : headerEnd head = some 4 := by
                  have happend := headerEnd_append
                    (blanks.flatten ++ requestLine method target ++ newline ++ rest) hposition
                  rw [hhead]
                  simpa using happend
                rw [hfour, Option.some.injEq] at hend
                rw [hhead] at hend
                simp [crlf, requestLine] at hend
              · have hlast := hlines.lineFeeds crlf
                  (blanks.flatten ++ requestLine method target ++ newline ++ rest)
                  (by rw [hhead]; simp)
                exact absurd hlast (by decide)
        · have hlast :=
            hlines.lineFeeds [] (blanks.flatten ++ requestLine method target ++ newline ++
            rest) (by rw [hhead]; simp)
          exact absurd hlast (by decide)

/-- The first line ending of a text that begins with a request line is that of this line. -/
theorem windowPosition_requestLine {method target : Bytes}
    (hvisible : ∀ b ∈ method ++ target, space < b) (rest : Bytes) :
    windowPosition crlf (requestLine method target ++ crlf ++ rest) =
      some (requestLine method target).length :=
  windowPosition_of_notMem (carriageReturn_notMem_requestLine hvisible) [lineFeed] rest

theorem requestLine_not_crlf {method target first rest : Bytes}
    (hvisible : ∀ b ∈ method ++ target, space < b) :
    requestLine method target ++ first ≠ crlf ++ rest := by
  intro heq
  cases hline : requestLine method target with
  | nil => simp [requestLine] at hline
  | cons b line =>
      rw [hline] at heq
      have hb : b = carriageReturn := (List.cons.inj heq).1
      have hnot := carriageReturn_notMem_requestLine hvisible
      rw [hline, hb] at hnot
      exact hnot List.mem_cons_self

/-- The request line of an admitted head is within its limit exactly when no line ending
stands before it or the line behind that line ending is within the limit. -/
theorem requestLine_within_limit_iff {Url : Type} {crates : Crates Url}
    (hcrate : ParsesRequestLine crates) {bytes expectedAuthority : Bytes}
    {limits : TransportLimits} {raw : RawAdmission}
    (hok : validate crates bytes expectedAuthority limits = .ok raw) :
    (∀ stop request method target, headerEnd bytes = some stop →
      crates.parseRequest (bytes.take stop) limits.maxHeaders = some (.complete request) →
      request.method = some method → request.path = some target →
      (requestLine method target).length ≤ limits.maxRequestLineBytes) ↔
    ∀ rest position, bytes = crlf ++ rest → windowPosition crlf rest = some position →
      position ≤ limits.maxRequestLineBytes := by
  obtain ⟨stop, firstLineEnd, request, hend, -, hlines, hfirst, hbound, hparse, -, hadmitted⟩ :=
    validate_steps hok
  obtain ⟨method, hmethod, -⟩ := hadmitted.method
  obtain ⟨target, htarget, -⟩ := hadmitted.target
  obtain ⟨blanks, newline, rest, hhead, hendings, hvisible⟩ :=
    hcrate.line hparse hadmitted.version hmethod htarget
  -- there is one parsed request, so the left side is about its line
  have hone : (∀ stop request method target, headerEnd bytes = some stop →
      crates.parseRequest (bytes.take stop) limits.maxHeaders = some (.complete request) →
      request.method = some method → request.path = some target →
      (requestLine method target).length ≤ limits.maxRequestLineBytes) ↔
      (requestLine method target).length ≤ limits.maxRequestLineBytes := by
    constructor
    · intro hall
      exact hall stop request method target hend hparse hmethod htarget
    · intro hline stop' request' method' target' hend' hparse' hmethod' htarget'
      rw [hend] at hend'
      cases hend'
      rw [hparse] at hparse'
      cases hparse'
      rw [hmethod] at hmethod'
      rw [htarget] at htarget'
      cases hmethod'
      cases htarget'
      exact hline
  rw [hone]
  have hlength : (bytes.take stop).length = stop := List.length_take_of_le (headerEnd_le hend)
  obtain ⟨rfl, hblanks⟩ := blanks_of_strictLines (by rw [headerEnd_take hend, hlength]) hlines
    hhead hendings
  have hbytes : bytes = bytes.take stop ++ bytes.drop stop := (List.take_append_drop _ _).symm
  rcases hblanks with rfl | rfl
  · -- the measured line is the request line
    rw [List.flatten_nil, List.nil_append] at hhead
    have hmeasured : firstLineEnd = (requestLine method target).length := by
      rw [hhead, windowPosition_requestLine hvisible] at hfirst
      exact (Option.some.inj hfirst).symm
    constructor
    · intro _ behind position hlead
      rw [hbytes, hhead, List.append_assoc, List.append_assoc] at hlead
      exact absurd hlead (requestLine_not_crlf hvisible)
    · intro _
      exact hmeasured ▸ hbound
  · -- the measured line is empty, and the request line stands behind it
    have hbehind : bytes =
        crlf ++ (requestLine method target ++ crlf ++ (rest ++ bytes.drop stop)) := by
      conv_lhs => rw [hbytes, hhead]
      simp
    constructor
    · intro hline behind position hlead hposition
      rw [hbehind] at hlead
      rw [← List.append_cancel_left hlead, windowPosition_requestLine hvisible] at hposition
      cases hposition
      exact hline
    · intro hall
      exact hall _ _ hbehind (windowPosition_requestLine hvisible _)

/-! ## A line ending before the request line -/

section Fixture

/-- The table of one head describes it as the parser does. -/
theorem Crates.ofHead_parsesRequestLine {head method target rest : Bytes}
    {fields : List (Bytes × Bytes)} (blanks : List Bytes)
    (hhead : head = blanks.flatten ++ requestLine method target ++ crlf ++ rest)
    (hblanks : ∀ blank ∈ blanks, blank = crlf) (hvisible : ∀ b ∈ method ++ target, space < b) :
    ParsesRequestLine (Crates.ofHead head method target fields) where
  line := by
    intro text maxHeaders request method' target' hparse _ hmethod htarget
    change (if text = head then _ else none) = some (ParseStatus.complete request) at hparse
    split at hparse
    next heq =>
      cases hparse
      cases hmethod
      cases htarget
      refine ⟨blanks, crlf, rest, heq.trans hhead, ?_, hvisible⟩
      exact List.forall_mem_cons.mpr ⟨.inl rfl, fun blank hblank => .inl (hblanks blank hblank)⟩
    · cases hparse

/-- The upgrade is admitted, and its line is the one that is measured. -/
theorem requestLine_within_limit_iff_tunnel :
    validate tunnelCrates tunnelHead tunnelAuthority defaultLimits = .ok tunnelAdmission ∧
    ∀ stop request method target, headerEnd tunnelHead = some stop →
      tunnelCrates.parseRequest (tunnelHead.take stop) defaultLimits.maxHeaders =
        some (.complete request) →
      request.method = some method → request.path = some target →
      (requestLine method target).length ≤ defaultLimits.maxRequestLineBytes := by
  have hadmitted : validate tunnelCrates tunnelHead tunnelAuthority defaultLimits =
      .ok tunnelAdmission := by decide +kernel
  have hcrate : ParsesRequestLine tunnelCrates :=
    Crates.ofHead_parsesRequestLine [] rfl nofun (by decide +kernel)
  refine ⟨hadmitted, (requestLine_within_limit_iff hcrate hadmitted).mpr ?_⟩
  -- the head begins with its method, so no line ending stands before it
  intro rest position hlead
  have hfirst : tunnelHead.head? = some carriageReturn := by
    rw [hlead]
    rfl
  exact absurd hfirst (by decide +kernel)

def reportFields : List (Bytes × Bytes) := [(asBytes "Host", tunnelAuthority)]

def reportTarget : Bytes := asBytes "/report?rows=100000"

/-- A request behind one line ending. -/
def reportHead : Bytes := crlf ++ headText (asBytes "GET") reportTarget reportFields

def reportCrates : Crates Unit := .ofHead reportHead (asBytes "GET") reportTarget reportFields

def reportLimits : TransportLimits := { defaultLimits with maxRequestLineBytes := 16 }

/-- The limit is 16 bytes, the request line has 32 bytes and is admitted. -/
theorem requestLine_exceeds_limit :
    ParsesRequestLine reportCrates ∧ reportLimits.isValid = true ∧
    validate reportCrates reportHead tunnelAuthority reportLimits = .ok ⟨[], false⟩ ∧
    ¬∀ stop request method target, headerEnd reportHead = some stop →
      reportCrates.parseRequest (reportHead.take stop) reportLimits.maxHeaders =
        some (.complete request) →
      request.method = some method → request.path = some target →
      (requestLine method target).length ≤ reportLimits.maxRequestLineBytes := by
  have hcrate : ParsesRequestLine reportCrates :=
    Crates.ofHead_parsesRequestLine [crlf] rfl (by simp) (by decide +kernel)
  have hrun : reportLimits.isValid = true ∧
      validate reportCrates reportHead tunnelAuthority reportLimits = .ok ⟨[], false⟩ ∧
      headerEnd reportHead = some reportHead.length ∧
      reportCrates.parseRequest (reportHead.take reportHead.length) reportLimits.maxHeaders =
        some (.complete ⟨reportHead.length, some 1, some (asBytes "GET"), some reportTarget,
          reportFields⟩) ∧
      ¬(requestLine (asBytes "GET") reportTarget).length ≤ reportLimits.maxRequestLineBytes := by
    decide +kernel
  obtain ⟨hvalid, hadmitted, hend, hparse, hlong⟩ := hrun
  refine ⟨hcrate, hvalid, hadmitted, fun hall => hlong ?_⟩
  exact hall _ _ _ _ hend hparse rfl rfl

end Fixture

end Rpackit.Transport
