import Rpackit.Library.WindowsPath

/-! # How Windows programs read a command line

The documented rules of `CommandLineToArgvW` and of the Microsoft C runtime. The first
argument has no escapes. In the others a run of backslashes is literal unless a quote
follows: then every two give one, and an odd one makes the quote literal. The two
readers differ in what follows the quoted program and in a doubled quote.
-/

namespace CommandLineRules

def blankTab : UInt16 := 0x09
def blankSpace : UInt16 := 0x20
def quote : UInt16 := 0x22
def backslash : UInt16 := 0x5C

/-- White space between arguments. -/
def isBlank (c : UInt16) : Bool := c == blankTab || c == blankSpace

/-- Where the readers differ. -/
structure Reader where
  /-- A quoted program ends at its closing quote, not at the next blank. -/
  programEndsAtQuote : Bool
  /-- A doubled quote leaves its argument quoted. -/
  doubledQuoteStays : Bool
  deriving DecidableEq, Repr

def commandLineToArgvW : Reader := ⟨true, false⟩

def microsoftRuntime : Reader := ⟨false, true⟩

/-! ## The program -/

/-- Quotes switch quoting on and off and belong to no name. -/
def readToggled (quoted : Bool) : OsString → OsString × OsString
  | [] => ([], [])
  | c :: rest =>
      if c = quote then readToggled (!quoted) rest
      else if quoted = false ∧ isBlank c then ([], c :: rest)
      else (c :: (readToggled quoted rest).1, (readToggled quoted rest).2)

/-- The first argument and what follows it. -/
def readProgram (reader : Reader) (line : OsString) : OsString × OsString :=
  if reader.programEndsAtQuote then
    if line.head? = some quote then
      (line.tail.takeWhile (· != quote), (line.tail.dropWhile (· != quote)).tail)
    else (line.takeWhile (!isBlank ·), line.dropWhile (!isBlank ·))
  else readToggled false line

/-! ## The other arguments -/

/-- `closed` is just behind a closing quote, which a quote turns into a literal one. -/
inductive Quoting where
  | outside
  | quoted
  | closed
  deriving DecidableEq, Repr

def Quoting.next : Quoting → Quoting
  | .quoted => .quoted
  | _ => .outside

/-- Between arguments, or within one with its text so far and the backslashes whose
meaning is still open. -/
inductive Scan where
  | between
  | within (quoting : Quoting) (backslashes : Nat) (text : OsString)
  deriving DecidableEq, Repr

/-- One code unit of an argument; a completed argument comes with the next state. -/
def scanWithin (reader : Reader) (quoting : Quoting) (backslashes : Nat) (text : OsString)
    (c : UInt16) : Scan × List OsString :=
  if c = backslash then (.within quoting.next (backslashes + 1) text, [])
  else if c = quote then
    let halved := text ++ List.replicate (backslashes / 2) backslash
    if backslashes % 2 = 1 then (.within quoting.next 0 (halved ++ [quote]), [])
    else
      match quoting with
      | .outside => (.within .quoted 0 halved, [])
      | .quoted => (.within .closed 0 halved, [])
      | .closed =>
          (.within (if reader.doubledQuoteStays then .quoted else .outside) 0
            (halved ++ [quote]), [])
  else
    let literal := text ++ List.replicate backslashes backslash
    if quoting ≠ .quoted ∧ isBlank c then (.between, [literal])
    else (.within quoting.next 0 (literal ++ [c]), [])

def scanStep (reader : Reader) (scan : Scan) (c : UInt16) : Scan × List OsString :=
  match scan with
  | .between => if isBlank c then (.between, []) else scanWithin reader .outside 0 [] c
  | .within quoting backslashes text => scanWithin reader quoting backslashes text c

/-- The arguments in the rest of a line. -/
def scanArguments (reader : Reader) : Scan → OsString → List OsString
  | .between, [] => []
  | .within _ backslashes text, [] => [text ++ List.replicate backslashes backslash]
  | scan, c :: rest =>
      (scanStep reader scan c).2 ++ scanArguments reader (scanStep reader scan c).1 rest

/-- A line that is not empty. -/
def readCommandLine (reader : Reader) (line : OsString) : List OsString :=
  (readProgram reader line).1 :: scanArguments reader .between (readProgram reader line).2

-- a doubled quote
example :
    readCommandLine commandLineToArgvW (osString "p \"a\"\"b c") =
        [osString "p", osString "a\"b", osString "c"] ∧
      readCommandLine microsoftRuntime (osString "p \"a\"\"b c") =
        [osString "p", osString "a\"b c"] := by decide

/-! ## Scanning composes -/

section Scanning

variable {reader : Reader} {quoting : Quoting} {text : OsString}

theorem scanArguments_cons (reader : Reader) (scan : Scan) (c : UInt16) (rest : OsString) :
    scanArguments reader scan (c :: rest) =
      (scanStep reader scan c).2 ++ scanArguments reader (scanStep reader scan c).1 rest := by
  cases scan with
  | between => rfl
  | within quoting backslashes text => rfl

theorem scanArguments_blank {c : UInt16} (hblank : isBlank c = true) (rest : OsString) :
    scanArguments reader .between (c :: rest) = scanArguments reader .between rest := by
  rw [scanArguments_cons]
  simp [scanStep, hblank]

/-- The first code unit of an argument. -/
theorem scanArguments_start {c : UInt16} (hblank : isBlank c = false) (rest : OsString) :
    scanArguments reader .between (c :: rest) =
      scanArguments reader (.within .outside 0 []) (c :: rest) := by
  rw [scanArguments_cons, scanArguments_cons]
  simp [scanStep, hblank]

theorem scanArguments_backslash (backslashes : Nat) (rest : OsString) :
    scanArguments reader (.within quoting backslashes text) (backslash :: rest) =
      scanArguments reader (.within quoting.next (backslashes + 1) text) rest := by
  rw [scanArguments_cons]
  simp [scanStep, scanWithin]

/-- A run of backslashes in a quoted part. -/
theorem scanArguments_backslashes (backslashes count : Nat) (rest : OsString) :
    scanArguments reader (.within .quoted backslashes text)
        (List.replicate count backslash ++ rest) =
      scanArguments reader (.within .quoted (backslashes + count) text) rest := by
  induction count generalizing backslashes with
  | zero => rfl
  | succ count ih =>
      rw [List.replicate_succ, List.cons_append, scanArguments_backslash]
      change scanArguments reader (.within .quoted (backslashes + 1) text) _ = _
      rw [ih, Nat.add_right_comm, Nat.add_assoc]

/-- A code unit without a meaning of its own. -/
theorem scanArguments_literal {c : UInt16} (hbackslash : c ≠ backslash) (hquote : c ≠ quote)
    (hkept : quoting = .quoted ∨ isBlank c = false) (backslashes : Nat) (rest : OsString) :
    scanArguments reader (.within quoting backslashes text) (c :: rest) =
      scanArguments reader
        (.within quoting.next 0 (text ++ List.replicate backslashes backslash ++ [c])) rest := by
  have hnot : ¬(quoting ≠ .quoted ∧ isBlank c = true) := by
    intro hends
    rcases hkept with hquoted | hplain
    · exact hends.1 hquoted
    · rw [hplain] at hends
      cases hends.2
  rw [scanArguments_cons]
  simp [scanStep, scanWithin, hbackslash, hquote, hnot]

theorem scanArguments_openingQuote (rest : OsString) :
    scanArguments reader (.within .outside 0 text) (quote :: rest) =
      scanArguments reader (.within .quoted 0 text) rest := by
  have hne : quote ≠ backslash := by decide
  rw [scanArguments_cons]
  simp [scanStep, scanWithin, hne]

/-- A quote behind an odd run of backslashes is literal. -/
theorem scanArguments_literalQuote (count : Nat) (rest : OsString) :
    scanArguments reader (.within .quoted (2 * count + 1) text) (quote :: rest) =
      scanArguments reader
        (.within .quoted 0 (text ++ List.replicate count backslash ++ [quote])) rest := by
  have hne : quote ≠ backslash := by decide
  have hodd : (2 * count + 1) % 2 = 1 := by omega
  have hhalf : (2 * count + 1) / 2 = count := by omega
  rw [scanArguments_cons]
  simp [scanStep, scanWithin, hne, hodd, hhalf, Quoting.next]

/-- A quote behind an even run closes the quoted part. -/
theorem scanArguments_closingQuote (count : Nat) (rest : OsString) :
    scanArguments reader (.within .quoted (2 * count) text) (quote :: rest) =
      scanArguments reader (.within .closed 0 (text ++ List.replicate count backslash)) rest := by
  have hne : quote ≠ backslash := by decide
  have hhalf : 2 * count / 2 = count := by omega
  rw [scanArguments_cons]
  simp [scanStep, scanWithin, hne, hhalf]

/-- The end of an argument: the end of the line or a blank. -/
def EndsArgument (rest : OsString) : Prop := ∀ c, rest.head? = some c → isBlank c = true

theorem scanArguments_end (hquoting : quoting ≠ .quoted) (backslashes : Nat) {rest : OsString}
    (hrest : EndsArgument rest) :
    scanArguments reader (.within quoting backslashes text) rest =
      (text ++ List.replicate backslashes backslash) :: scanArguments reader .between rest := by
  cases rest with
  | nil => rfl
  | cons c rest =>
      have hblank := hrest c rfl
      have hbackslash : c ≠ backslash := by
        rintro rfl
        exact absurd hblank (by decide)
      have hquote : c ≠ quote := by
        rintro rfl
        exact absurd hblank (by decide)
      rw [scanArguments_blank hblank, scanArguments_cons]
      simp [scanStep, scanWithin, hbackslash, hquote, hquoting, hblank]

end Scanning

/-! ## Programs -/

theorem takeWhile_append_end {p : UInt16 → Bool} {name rest : OsString}
    (hname : ∀ c ∈ name, p c = true) (hrest : ∀ c, rest.head? = some c → p c = false) :
    (name ++ rest).takeWhile p = name ∧ (name ++ rest).dropWhile p = rest := by
  rw [List.takeWhile_append_of_pos hname, List.dropWhile_append_of_pos hname]
  cases rest with
  | nil => exact ⟨List.append_nil _, rfl⟩
  | cons c rest =>
      have hc : p c = false := hrest c rfl
      rw [List.takeWhile_cons_of_neg (by simp [hc]), List.dropWhile_cons_of_neg (by simp [hc])]
      exact ⟨List.append_nil _, rfl⟩

theorem readToggled_quoted {name rest : OsString} (hname : quote ∉ name) :
    readToggled true (name ++ quote :: rest) =
      (name ++ (readToggled false rest).1, (readToggled false rest).2) := by
  induction name with
  | nil => simp [readToggled]
  | cons c name ih =>
      rw [List.mem_cons, not_or] at hname
      rw [List.cons_append, readToggled, if_neg (Ne.symm hname.1), if_neg (by simp), ih hname.2]
      rfl

theorem readToggled_plain {name rest : OsString} (hname : quote ∉ name)
    (hplain : ∀ c ∈ name, isBlank c = false) (hrest : EndsArgument rest) :
    readToggled false (name ++ rest) = (name, rest) := by
  induction name with
  | nil =>
      cases rest with
      | nil => rfl
      | cons c rest =>
          have hblank := hrest c rfl
          have hquote : c ≠ quote := by
            rintro rfl
            exact absurd hblank (by decide)
          simp [readToggled, hquote, hblank]
  | cons c name ih =>
      rw [List.mem_cons, not_or] at hname
      obtain ⟨hblank, hplain⟩ := List.forall_mem_cons.mp hplain
      rw [List.cons_append, readToggled, if_neg (Ne.symm hname.1), if_neg (by simp [hblank]),
        ih hname.2 hplain]

/-- A program without blanks and quotes. -/
theorem readProgram_plain (reader : Reader) {name rest : OsString} (hname : quote ∉ name)
    (hplain : ∀ c ∈ name, isBlank c = false) (hne : name ≠ []) (hrest : EndsArgument rest) :
    readProgram reader (name ++ rest) = (name, rest) := by
  unfold readProgram
  split
  · have hhead : (name ++ rest).head? ≠ some quote := by
      cases name with
      | nil => exact absurd rfl hne
      | cons c name =>
          intro hfirst
          exact hname (Option.some.inj hfirst ▸ List.mem_cons_self)
    rw [if_neg hhead]
    have hkept : ∀ c ∈ name, (!isBlank c) = true := by simpa using hplain
    have hends : ∀ c, rest.head? = some c → (!isBlank c) = false := by
      intro c hc
      simp [hrest c hc]
    obtain ⟨htake, hdrop⟩ := takeWhile_append_end hkept hends
    rw [htake, hdrop]
  · exact readToggled_plain hname hplain hrest

/-- A quoted program. -/
theorem readProgram_quoted (reader : Reader) {name rest : OsString} (hname : quote ∉ name)
    (hrest : EndsArgument rest) :
    readProgram reader (quote :: (name ++ quote :: rest)) = (name, rest) := by
  unfold readProgram
  split
  · have hkept : ∀ c ∈ name, (c != quote) = true := by
      intro c hc
      rw [bne_iff_ne]
      rintro rfl
      exact hname hc
    have hcloses : ∀ c, (quote :: rest).head? = some c → (c != quote) = false := by simp
    obtain ⟨htake, hdrop⟩ := takeWhile_append_end hkept hcloses
    rw [if_pos List.head?_cons, List.tail_cons, htake, hdrop, List.tail_cons]
  · have hends : readToggled false ([] ++ rest) = ([], rest) :=
      readToggled_plain List.not_mem_nil (by simp) hrest
    rw [List.nil_append] at hends
    rw [readToggled, if_pos rfl, Bool.not_false, readToggled_quoted hname, hends, List.append_nil]

end CommandLineRules
