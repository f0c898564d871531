import Rpackit.Library.CommandLineRules
import Rpackit.Windows.Values

/-! # The command line of the launcher process

Windows hands a process one line of text, and the process splits it again. A value is
quoted only if it is empty or holds a blank or a quote; whatever rules for the program
and for doubled quotes the process follows, it gets back the values that were quoted.
-/

namespace Rpackit.Windows

open CommandLineRules Fallible

def windowsCommandLineLimit : Nat := 32767

/-! ## Quoting -/

/-- The loop of `quote_windows_argument` with its pending backslashes, and what closes it. -/
def quoteFrom (backslashes : Nat) : OsString → OsString
  | [] => List.replicate (backslashes * 2) backslash ++ [quote]
  | character :: rest =>
      if character = backslash then quoteFrom (backslashes + 1) rest
      else if character = quote then
        List.replicate (backslashes * 2 + 1) backslash ++ character :: quoteFrom 0 rest
      else List.replicate backslashes backslash ++ character :: quoteFrom 0 rest

def requiresQuotes (input : OsString) : Bool :=
  input.isEmpty || input.any fun character =>
    character == 0x09 || character == 0x20 || character == 0x22

def quoteText (input : OsString) : OsString :=
  if requiresQuotes input then quote :: quoteFrom 0 input else input

def quoteWindowsArgument (value : OsString) (field : String) : Except LaunchError OsString := do
  rejectIf (value.contains 0) (.interiorNul field)
  return quoteText value

/-- The loop over the arguments, by their index. -/
def appendArguments (commandLine : OsString) :
    Nat → List OsString → Except LaunchError OsString
  | _, [] => return commandLine
  | index, argument :: rest => do
      let quoted ← quoteWindowsArgument argument (if index = 0 then "argument" else "arguments")
      appendArguments (commandLine ++ blankSpace :: quoted) (index + 1) rest

def buildCommandLine (program : OsString) (arguments : List OsString) :
    Except LaunchError OsString := do
  let quoted ← quoteWindowsArgument program "program path"
  let joined ← appendArguments quoted 0 arguments
  let commandLine := joined ++ [0]
  rejectIf (commandLine.length > windowsCommandLineLimit) .commandLineTooLong
  return commandLine

/-- The line without its terminator. -/
def commandText (program : OsString) (arguments : List OsString) : OsString :=
  quoteText program ++ arguments.flatMap fun argument => blankSpace :: quoteText argument

/-! ## When it fails -/

def NulFree (value : OsString) : Prop := 0 ∉ value

theorem quoteWindowsArgument_eq_ok_iff {value quoted : OsString} {field : String} :
    quoteWindowsArgument value field = .ok quoted ↔ NulFree value ∧ quoted = quoteText value := by
  simp only [quoteWindowsArgument, rejectIf_bind_eq_ok_iff, pure_eq_ok_iff, NulFree,
    ← List.contains_iff_mem, Bool.not_eq_true]

theorem quoteWindowsArgument_eq_error_iff {value : OsString} {field : String}
    {error : LaunchError} : quoteWindowsArgument value field = .error error ↔
      ¬NulFree value ∧ error = .interiorNul field := by
  simp only [quoteWindowsArgument, bind_eq_error_iff, rejectIf_eq_error_iff, pure_ne_error,
    and_false, exists_false, or_false, NulFree, not_not, List.contains_iff_mem]
  exact and_congr_right fun _ => eq_comm

theorem appendArguments_eq_ok_iff {commandLine joined : OsString} {index : Nat}
    {arguments : List OsString} :
    appendArguments commandLine index arguments = .ok joined ↔
      (∀ argument ∈ arguments, NulFree argument) ∧ joined =
        commandLine ++ arguments.flatMap fun argument => blankSpace :: quoteText argument := by
  induction arguments generalizing commandLine index with
  | nil => simp [appendArguments, pure_eq_ok_iff]
  | cons argument rest ih =>
      simp only [appendArguments, bind_eq_ok_iff, quoteWindowsArgument_eq_ok_iff, ih,
        List.forall_mem_cons, List.flatMap_cons]
      constructor
      · intro hok
        obtain ⟨quoted, ⟨hargument, rfl⟩, hrest, hjoined⟩ := hok
        refine ⟨⟨hargument, hrest⟩, ?_⟩
        rw [hjoined, List.append_assoc]
      · intro hok
        obtain ⟨⟨hargument, hrest⟩, hjoined⟩ := hok
        refine ⟨quoteText argument, ⟨hargument, rfl⟩, hrest, ?_⟩
        rw [hjoined, List.append_assoc]

theorem appendArguments_eq_error {commandLine : OsString} {index : Nat}
    {arguments : List OsString} {error : LaunchError}
    (herror : appendArguments commandLine index arguments = .error error) :
    (∃ argument ∈ arguments, ¬NulFree argument) ∧ ∃ field, error = .interiorNul field := by
  induction arguments generalizing commandLine index with
  | nil => exact absurd herror pure_ne_error
  | cons argument rest ih =>
      rcases bind_eq_error_iff.mp herror with hargument | ⟨quoted, -, hrest⟩
      · obtain ⟨hnul, hfield⟩ := quoteWindowsArgument_eq_error_iff.mp hargument
        exact ⟨⟨argument, List.mem_cons_self, hnul⟩, _, hfield⟩
      · obtain ⟨⟨other, hmem, hnul⟩, hfield⟩ := ih hrest
        exact ⟨⟨other, List.mem_cons_of_mem _ hmem, hnul⟩, hfield⟩

theorem buildCommandLine_eq_ok_iff {program line : OsString} {arguments : List OsString} :
    buildCommandLine program arguments = .ok line ↔
      NulFree program ∧ (∀ argument ∈ arguments, NulFree argument) ∧
        (commandText program arguments).length + 1 ≤ windowsCommandLineLimit ∧
          line = commandText program arguments ++ [0] := by
  simp only [buildCommandLine, bind_eq_ok_iff, quoteWindowsArgument_eq_ok_iff,
    appendArguments_eq_ok_iff, rejectIf_eq_ok_iff, pure_eq_ok_iff, decide_eq_false_iff_not,
    Nat.not_lt]
  constructor
  · intro hok
    obtain ⟨quoted, ⟨hprogram, rfl⟩, joined, ⟨harguments, rfl⟩, -, hshort, hline⟩ := hok
    rw [List.length_append] at hshort
    exact ⟨hprogram, harguments, hshort, hline⟩
  · intro hok
    obtain ⟨hprogram, harguments, hshort, hline⟩ := hok
    refine ⟨_, ⟨hprogram, rfl⟩, _, ⟨harguments, rfl⟩, (), ?_, hline⟩
    rwa [List.length_append]

/-- A failure is an interior NUL or a line that is too long with its terminator. -/
theorem buildCommandLine_eq_error {program : OsString} {arguments : List OsString}
    {error : LaunchError} (herror : buildCommandLine program arguments = .error error) :
    ((¬NulFree program ∨ ∃ argument ∈ arguments, ¬NulFree argument) ∧
        ∃ field, error = .interiorNul field) ∨
      (windowsCommandLineLimit < (commandText program arguments).length + 1 ∧
        error = .commandLineTooLong) := by
  rcases bind_eq_error_iff.mp herror with hprogram | ⟨quoted, hquoted, herror⟩
  · obtain ⟨hnul, hfield⟩ := quoteWindowsArgument_eq_error_iff.mp hprogram
    exact .inl ⟨.inl hnul, _, hfield⟩
  · rcases bind_eq_error_iff.mp herror with harguments | ⟨joined, hjoined, herror⟩
    · obtain ⟨hnul, hfield⟩ := appendArguments_eq_error harguments
      exact .inl ⟨.inr hnul, hfield⟩
    · obtain ⟨-, rfl⟩ := quoteWindowsArgument_eq_ok_iff.mp hquoted
      obtain ⟨-, rfl⟩ := appendArguments_eq_ok_iff.mp hjoined
      simp only [bind_eq_error_iff, rejectIf_eq_error_iff, pure_ne_error, and_false, exists_false,
        or_false, decide_eq_true_eq] at herror
      refine .inr ⟨?_, herror.2.symm⟩
      have hlong := herror.1
      rwa [List.length_append] at hlong

theorem mem_quoteFrom {backslashes : Nat} {input : OsString} {c : UInt16}
    (hmem : c ∈ quoteFrom backslashes input) : c = backslash ∨ c = quote ∨ c ∈ input := by
  induction input generalizing backslashes with
  | nil =>
      rcases List.mem_append.mp hmem with hrun | hlast
      · exact .inl (List.eq_of_mem_replicate hrun)
      · exact .inr (.inl (List.mem_singleton.mp hlast))
  | cons character rest ih =>
      have hlater {count : Nat} (hc : c ∈ quoteFrom count rest) :
          c = backslash ∨ c = quote ∨ c ∈ character :: rest :=
        (ih hc).imp_right (Or.imp_right (List.mem_cons_of_mem _))
      rw [quoteFrom] at hmem
      split at hmem
      · exact hlater hmem
      · split at hmem
        all_goals
          rcases List.mem_append.mp hmem with hrun | hmem
          · exact .inl (List.eq_of_mem_replicate hrun)
          · rcases List.mem_cons.mp hmem with hfirst | hmem
            · exact .inr (.inr (hfirst ▸ List.mem_cons_self))
            · exact hlater hmem

theorem nulFree_quoteText {input : OsString} (hinput : NulFree input) :
    NulFree (quoteText input) := by
  unfold quoteText
  split
  · intro hmem
    rcases List.mem_cons.mp hmem with hquote | hmem
    · exact absurd hquote (by decide)
    · rcases mem_quoteFrom hmem with hbackslash | hquote | hmem
      · exact absurd hbackslash (by decide)
      · exact absurd hquote (by decide)
      · exact hinput hmem
  · exact hinput

theorem nulFree_commandText {program : OsString} {arguments : List OsString}
    (hprogram : NulFree program) (harguments : ∀ argument ∈ arguments, NulFree argument) :
    NulFree (commandText program arguments) := by
  intro hmem
  rcases List.mem_append.mp hmem with hmem | hmem
  · exact nulFree_quoteText hprogram hmem
  · obtain ⟨argument, hargument, hmem⟩ := List.mem_flatMap.mp hmem
    rcases List.mem_cons.mp hmem with hspace | hmem
    · exact absurd hspace (by decide)
    · exact nulFree_quoteText (harguments argument hargument) hmem

/-! ## What the process reads -/

section Reading

variable {reader : Reader}

theorem requiresQuotes_eq_false_iff {input : OsString} :
    requiresQuotes input = false ↔
      input ≠ [] ∧ ∀ c ∈ input, isBlank c = false ∧ c ≠ quote := by
  simp only [requiresQuotes, Bool.or_eq_false_iff, List.isEmpty_eq_false_iff, List.any_eq_false,
    Bool.not_eq_true, beq_eq_false_iff_ne, isBlank]
  rfl

/-- The loop of the quoting, read inside the quotes: the pending backslashes belong to
the text whatever follows them. -/
theorem scanArguments_quoteFrom (backslashes : Nat) (text input : OsString) {rest : OsString}
    (hrest : EndsArgument rest) :
    scanArguments reader (.within .quoted 0 text) (quoteFrom backslashes input ++ rest) =
      (text ++ List.replicate backslashes backslash ++ input) ::
        scanArguments reader .between rest := by
  induction input generalizing backslashes text with
  | nil =>
      -- the run before the closing quote is doubled
      rw [quoteFrom, List.append_assoc, scanArguments_backslashes, Nat.zero_add, Nat.mul_comm,
        List.singleton_append, scanArguments_closingQuote, scanArguments_end (by decide) 0 hrest]
      simp
  | cons c input ih =>
      rw [quoteFrom]
      by_cases hbackslash : c = backslash
      · rw [if_pos hbackslash, ih, hbackslash]
        simp [List.replicate_succ']
      · by_cases hquote : c = quote
        · rw [if_neg hbackslash, if_pos hquote, hquote, List.append_assoc,
            scanArguments_backslashes, Nat.zero_add, Nat.mul_comm, List.cons_append,
            scanArguments_literalQuote, ih]
          simp
        · rw [if_neg hbackslash, if_neg hquote, List.append_assoc, scanArguments_backslashes,
            Nat.zero_add, List.cons_append, scanArguments_literal hbackslash hquote (.inl rfl)]
          change scanArguments reader (.within .quoted 0 _) _ = _
          rw [ih]
          simp

/-- A value that needs no quotes. -/
theorem scanArguments_plain (backslashes : Nat) (text : OsString) {input rest : OsString}
    (hplain : ∀ c ∈ input, isBlank c = false ∧ c ≠ quote) (hrest : EndsArgument rest) :
    scanArguments reader (.within .outside backslashes text) (input ++ rest) =
      (text ++ List.replicate backslashes backslash ++ input) ::
        scanArguments reader .between rest := by
  induction input generalizing backslashes text with
  | nil =>
      rw [List.nil_append, scanArguments_end (by decide) backslashes hrest, List.append_nil]
  | cons c input ih =>
      obtain ⟨⟨hblank, hquote⟩, hinput⟩ := List.forall_mem_cons.mp hplain
      rw [List.cons_append]
      by_cases hbackslash : c = backslash
      · rw [hbackslash, scanArguments_backslash]
        change scanArguments reader (.within .outside (backslashes + 1) text) _ = _
        rw [ih _ _ hinput]
        simp [List.replicate_succ']
      · rw [scanArguments_literal hbackslash hquote (.inr hblank)]
        change scanArguments reader (.within .outside 0 _) _ = _
        rw [ih _ _ hinput]
        simp

/-- An argument is read back. -/
theorem scanArguments_quoteText (input : OsString) {rest : OsString} (hrest : EndsArgument rest) :
    scanArguments reader .between (quoteText input ++ rest) =
      input :: scanArguments reader .between rest := by
  unfold quoteText
  cases hquotes : requiresQuotes input with
  | true =>
      rw [if_pos rfl, List.cons_append, scanArguments_start (by decide),
        scanArguments_openingQuote, scanArguments_quoteFrom 0 [] input hrest]
      rfl
  | false =>
      obtain ⟨hne, hplain⟩ := requiresQuotes_eq_false_iff.mp hquotes
      obtain ⟨c, tail, rfl⟩ := List.exists_cons_of_ne_nil hne
      rw [if_neg Bool.false_ne_true, List.cons_append,
        scanArguments_start (hplain c List.mem_cons_self).1, ← List.cons_append,
        scanArguments_plain 0 [] hplain hrest]
      rfl

theorem endsArgument_arguments (arguments : List OsString) :
    EndsArgument (arguments.flatMap fun argument => blankSpace :: quoteText argument) := by
  intro c hc
  cases arguments with
  | nil => cases hc
  | cons argument rest =>
      obtain rfl : blankSpace = c := Option.some.inj hc
      decide

theorem scanArguments_arguments (arguments : List OsString) :
    scanArguments reader .between
      (arguments.flatMap fun argument => blankSpace :: quoteText argument) = arguments := by
  induction arguments with
  | nil => rfl
  | cons argument rest ih =>
      rw [List.flatMap_cons, List.cons_append, scanArguments_blank (by decide),
        scanArguments_quoteText argument (endsArgument_arguments rest), ih]

/-- Without a quote, and without a backslash at its end, a value is only enclosed. -/
theorem quoteFrom_eq_append (backslashes : Nat) {input : OsString} (hquote : quote ∉ input)
    (hlast : (List.replicate backslashes backslash ++ input).getLast? ≠ some backslash) :
    quoteFrom backslashes input = List.replicate backslashes backslash ++ input ++ [quote] := by
  induction input generalizing backslashes with
  | nil =>
      cases backslashes with
      | zero => rfl
      | succ count =>
          rw [List.append_nil, List.replicate_succ', List.getLast?_concat] at hlast
          exact absurd rfl hlast
  | cons c input ih =>
      rw [List.mem_cons, not_or] at hquote
      rw [quoteFrom]
      by_cases hbackslash : c = backslash
      · have hsame : List.replicate (backslashes + 1) backslash ++ input =
            List.replicate backslashes backslash ++ c :: input := by
          simp [hbackslash, List.replicate_succ']
        rw [if_pos hbackslash, ih _ hquote.2 (by rwa [hsame]), hsame]
      · have hinput : (List.replicate 0 backslash ++ input).getLast? ≠ some backslash := by
          intro hends
          rw [List.replicate_zero, List.nil_append] at hends
          apply hlast
          rw [List.getLast?_append, List.getLast?_cons, hends]
          rfl
        rw [if_neg hbackslash, if_neg (Ne.symm hquote.1), ih 0 hquote.2 hinput]
        simp

/-- A program is read back, whichever way its end is found. -/
theorem readProgram_quoteText {program rest : OsString} (hquote : quote ∉ program)
    (hlast : program.getLast? ≠ some backslash) (hrest : EndsArgument rest) :
    readProgram reader (quoteText program ++ rest) = (program, rest) := by
  unfold quoteText
  cases hquotes : requiresQuotes program with
  | true =>
      have henclosed : quoteFrom 0 program = program ++ [quote] :=
        quoteFrom_eq_append 0 hquote hlast
      rw [if_pos rfl, henclosed, List.cons_append, List.append_assoc, List.singleton_append]
      exact readProgram_quoted reader hquote hrest
  | false =>
      obtain ⟨hne, hplain⟩ := requiresQuotes_eq_false_iff.mp hquotes
      rw [if_neg Bool.false_ne_true]
      exact readProgram_plain reader hquote (fun c hc => (hplain c hc).1) hne hrest

end Reading

/-- A line that is built is the text of the values and a terminator, and every reader
gets the values back; it is not built only for a NUL in a value or a line too long. -/
theorem buildCommandLine_read {program : OsString} (hquote : quote ∉ program)
    (hlast : program.getLast? ≠ some backslash) (arguments : List OsString) :
    (∀ line, buildCommandLine program arguments = .ok line →
      ∃ text, line = text ++ [0] ∧ 0 ∉ text ∧
        ∀ reader, readCommandLine reader text = program :: arguments) ∧
      ∀ error, buildCommandLine program arguments = .error error →
        ((¬NulFree program ∨ ∃ argument ∈ arguments, ¬NulFree argument) ∧
            ∃ field, error = .interiorNul field) ∨
          (windowsCommandLineLimit < (commandText program arguments ++ [0]).length ∧
            error = .commandLineTooLong) := by
  constructor
  · intro line hline
    obtain ⟨hprogram, harguments, -, rfl⟩ := buildCommandLine_eq_ok_iff.mp hline
    refine ⟨commandText program arguments, rfl, ?_, ?_⟩
    · exact nulFree_commandText hprogram harguments
    · intro reader
      rw [readCommandLine, commandText,
        readProgram_quoteText hquote hlast (endsArgument_arguments arguments),
        scanArguments_arguments]
  · intro error herror
    rw [List.length_append, List.length_singleton]
    exact buildCommandLine_eq_error herror

def rscriptPath : OsString := osString "C:\\Program Files\\R\\Rscript.exe"

/-- A blank, a backslash at the end, nothing, and a quote. -/
def awkwardArguments : List OsString :=
  [osString "two words", osString "C:\\An App\\", [], osString "quote\"inside"]

theorem buildCommandLine_read_rscript :
    (∀ line, buildCommandLine rscriptPath awkwardArguments = .ok line →
      ∃ text, line = text ++ [0] ∧ 0 ∉ text ∧
        ∀ reader, readCommandLine reader text = rscriptPath :: awkwardArguments) ∧
      ∀ error, buildCommandLine rscriptPath awkwardArguments = .error error →
        ((¬NulFree rscriptPath ∨ ∃ argument ∈ awkwardArguments, ¬NulFree argument) ∧
            ∃ field, error = .interiorNul field) ∨
          (windowsCommandLineLimit < (commandText rscriptPath awkwardArguments ++ [0]).length ∧
            error = .commandLineTooLong) :=
  buildCommandLine_read (by decide) (by decide) awkwardArguments

end Rpackit.Windows
