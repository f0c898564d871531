import Rpackit.Library.Text

/-! # Absolute URLs and the references a browser reads

The parts of an absolute URL with their serialization, and where a browser goes
with a reference that has no scheme: it drops tabs and newlines and takes a
backslash for a slash before it counts the leading slashes. A URL parser is known
by what it makes of plain `http` URLs.
-/

namespace WebUrl

open Text

def colon : UInt8 := 0x3A

/-! ## Parts of a URL -/

/-- An absolute URL; every part is its own serialization. -/
structure UrlRecord where
  scheme : Bytes
  username : Bytes
  password : Bytes
  host : Option Bytes
  port : Option Nat
  path : Bytes
  query : Option Bytes
  fragment : Option Bytes
  deriving DecidableEq, Repr

/-- The port a special scheme implies. -/
def defaultPort (scheme : Bytes) : Option Nat :=
  if scheme = asBytes "http" ∨ scheme = asBytes "ws" then some 80
  else if scheme = asBytes "https" ∨ scheme = asBytes "wss" then some 443
  else if scheme = asBytes "ftp" then some 21
  else none

namespace UrlRecord

variable (url : UrlRecord)

def portOrKnownDefault : Option Nat := url.port.or (defaultPort url.scheme)

/-- The host and a port other than the default. -/
def authority : Bytes :=
  url.host.getD [] ++ match url.port with
    | none => []
    | some port => colon :: decimal port

def origin : Bytes := url.scheme ++ asBytes "://" ++ url.authority

def credentials : Bytes :=
  if url.username = [] ∧ url.password = [] then []
  else url.username ++ (if url.password = [] then [] else colon :: url.password) ++ asBytes "@"

/-- A part that is announced by a separator. -/
def optional (separator : UInt8) : Option Bytes → Bytes
  | none => []
  | some text => separator :: text

/-- The URL serializer for a URL with a host. -/
def serialize : Bytes :=
  url.scheme ++ asBytes "://" ++ url.credentials ++ url.authority ++ url.path ++
    optional 0x3F url.query ++ optional 0x23 url.fragment

def setHost (host : Bytes) : UrlRecord := { url with host := some host }

/-- A default port is not kept. -/
def setPort (port : Nat) : UrlRecord :=
  { url with port := if defaultPort url.scheme = some port then none else some port }

end UrlRecord

/-! ## References without a scheme -/

def isTabOrNewline (b : UInt8) : Bool := b == tab || b == lineFeed || b == carriageReturn

/-- The text of a reference as a browser reads it. -/
def browserReading (text : Bytes) : Bytes :=
  (text.filter fun b => !isTabOrNewline b).map fun b => if b = backslash then slash else b

/-- One slash, not two. -/
def startsWithOneSlash : Bytes → Bool
  | [] => false
  | first :: rest => first == slash && rest.head? != some slash

/-- Where a browser goes from a page on a special URL. -/
inductive Navigation where
  | sameOrigin (path : Bytes)
  | otherAuthority (text : Bytes)
  deriving DecidableEq, Repr

/-- The relative and the relative slash state of the URL parser; the special
authority state skips any further slashes. -/
def navigate (text : Bytes) : Navigation :=
  match browserReading text with
  | [] => .sameOrigin []
  | first :: rest =>
      if first = slash ∧ rest.head? = some slash then .otherAuthority (rest.dropWhile (· == slash))
      else .sameOrigin (first :: rest)

/-- A reference that begins with one slash keeps the origin, and one with two does not. -/
theorem exists_navigate_sameOrigin_iff {text : Bytes}
    (hslash : (browserReading text).head? = some slash) :
    (∃ path, navigate text = .sameOrigin path) ↔
      startsWithOneSlash (browserReading text) = true := by
  unfold navigate
  cases hreading : browserReading text with
  | nil =>
      rw [hreading] at hslash
      cases hslash
  | cons first rest =>
      rw [hreading] at hslash
      have hfirst : first = slash := by simpa using hslash
      by_cases hsecond : rest.head? = some slash
      · simp [startsWithOneSlash, hfirst, hsecond]
      · simp [startsWithOneSlash, hfirst, hsecond]

theorem browserReading_slash_cons (rest : Bytes) :
    browserReading (slash :: rest) = slash :: browserReading rest := rfl

/-- What a browser reads first is what follows the tabs and newlines. -/
theorem head?_browserReading (text : Bytes) :
    (browserReading text).head? =
      (text.dropWhile isTabOrNewline).head?.map fun b => if b = backslash then slash else b := by
  induction text with
  | nil => rfl
  | cons b rest ih =>
      cases hdropped : isTabOrNewline b with
      | true =>
          rw [List.dropWhile_cons_of_pos hdropped, ← ih]
          simp [browserReading, hdropped]
      | false => simp [browserReading, hdropped]

/-- The next character a browser reads is a slash. -/
def readsSlash (text : Bytes) : Bool :=
  let next := (text.dropWhile isTabOrNewline).head?
  next == some slash || next == some backslash

theorem readsSlash_iff {text : Bytes} :
    readsSlash text = true ↔ (browserReading text).head? = some slash := by
  rw [head?_browserReading, readsSlash]
  cases (text.dropWhile isTabOrNewline).head? with
  | none => simp
  | some next =>
      by_cases hback : next = backslash
      · simp [hback]
      · simp [hback]

/-- Behind a slash, the reading begins with one slash unless another is read next. -/
theorem startsWithOneSlash_slash_cons (rest : Bytes) :
    startsWithOneSlash (browserReading (slash :: rest)) = !readsSlash rest := by
  rw [browserReading_slash_cons, startsWithOneSlash, beq_self_eq_true, Bool.true_and]
  cases hreads : readsSlash rest with
  | true => simp [readsSlash_iff.mp hreads]
  | false =>
      have hnot : (browserReading rest).head? ≠ some slash := by
        intro hhead
        rw [readsSlash_iff.mpr hhead] at hreads
        cases hreads
      simpa using hnot

/-! ## Plain `http` URLs -/

def isLabelByte (b : UInt8) : Bool := isAsciiAlphanumeric b || b == 0x2D

def isPlainLabel (label : Bytes) : Bool :=
  label != [] && label.all isLabelByte && !(asBytes "xn--").isPrefixOf (lowercase label)

def startsWithLetter : Bytes → Bool
  | [] => false
  | b :: _ => isAsciiUppercase b || isAsciiLowercase b

/-- A domain name of letters, digits and hyphens that is no address: its last label
begins with a letter. -/
def isPlainDomain (name : Bytes) : Bool :=
  let labels := name.splitOn dot
  labels.all isPlainLabel && labels.getLast?.any startsWithLetter

/-- A path that no parser changes. -/
def isPlainPath : Bytes → Bool
  | [] => false
  | first :: rest =>
      first == slash && rest.all fun b => isAsciiAlphanumeric b || b == 0x5F || b == slash

def plainHttpText (name : Bytes) (port : Nat) (path : Bytes) : Bytes :=
  asBytes "http://" ++ (name ++ colon :: (decimal port ++ path))

/-- What the URL parser makes of it: the host in lower case, the default port left out. -/
def plainHttpRecord (name : Bytes) (port : Nat) (path : Bytes) : UrlRecord where
  scheme := asBytes "http"
  username := []
  password := []
  host := some (lowercase name)
  port := if port = 80 then none else some port
  path := path
  query := none
  fragment := none

/-- The law of a URL parser on plain `http` URLs. -/
def ReadsPlainHttp (parse : Bytes → Option UrlRecord) : Prop :=
  ∀ name port path, isPlainDomain name = true → port < 65536 → isPlainPath path = true →
    parse (plainHttpText name port path) = some (plainHttpRecord name port path)

/-- A parser of plain `http` URLs and nothing else. -/
def parsePlainHttp (text : Bytes) : Option UrlRecord := do
  let rest ← text.dropPrefix? (asBytes "http://")
  let (name, portAndPath) ← splitOnce colon rest
  let port ← digitsValue 0 (portAndPath.takeWhile isAsciiDigit)
  let path := portAndPath.dropWhile isAsciiDigit
  if isPlainDomain name && port < 65536 && isPlainPath path then
    some (plainHttpRecord name port path)
  else none

theorem colon_notMem_of_isPlainDomain {name : Bytes} (hname : isPlainDomain name = true) :
    colon ∉ name := by
  simp only [isPlainDomain, Bool.and_eq_true, List.all_eq_true] at hname
  have hbytes : ∀ b ∈ name, b = dot ∨ isLabelByte b = true := by
    intro b hb
    by_cases hdot : b = dot
    · exact .inl hdot
    · right
      have hjoined : ∃ label ∈ name.splitOn dot, b ∈ label := by
        have hsplit : [dot].intercalate (name.splitOn dot) = name := List.intercalate_splitOn dot
        rw [← hsplit] at hb
        rcases mem_of_mem_intercalate hb with hseparator | ⟨label, hlabel, hmem⟩
        · exact absurd (List.mem_singleton.mp hseparator) hdot
        · exact ⟨label, hlabel, hmem⟩
      obtain ⟨label, hlabel, hmem⟩ := hjoined
      have hplain := hname.1 label hlabel
      simp only [isPlainLabel, Bool.and_eq_true, List.all_eq_true] at hplain
      exact hplain.1.2 b hmem
  intro hmem
  rcases hbytes colon hmem with hdot | hlabel
  · exact absurd hdot (by decide)
  · exact absurd hlabel (by decide)

theorem parsePlainHttp_reads : ReadsPlainHttp parsePlainHttp := by
  intro name port path hname hport hpath
  have hdigits : ∀ b ∈ decimal port, isAsciiDigit b = true :=
    fun b hb => isAsciiDigit_of_mem_decimal hb
  obtain ⟨rest, hpathEq⟩ : ∃ rest, path = slash :: rest := by
    cases path with
    | nil => cases hpath
    | cons first rest =>
        simp only [isPlainPath, Bool.and_eq_true, beq_iff_eq] at hpath
        exact ⟨rest, by rw [hpath.1]⟩
  have hleading : (plainHttpText name port path).dropPrefix? (asBytes "http://") =
      some (name ++ colon :: (decimal port ++ path)) :=
    List.dropPrefix?_append_of_beq _ (by simp)
  have hsplit : splitOnce colon (name ++ colon :: (decimal port ++ path)) =
      some (name, decimal port ++ path) :=
    splitOnce_eq_some_iff.mpr ⟨rfl, colon_notMem_of_isPlainDomain hname⟩
  have hslash : isAsciiDigit slash = false := by decide
  have htake : (decimal port ++ path).takeWhile isAsciiDigit = decimal port := by
    rw [List.takeWhile_append_of_pos hdigits, hpathEq, List.takeWhile_cons, hslash]
    simp
  have hdrop : (decimal port ++ path).dropWhile isAsciiDigit = path := by
    rw [List.dropWhile_append_of_pos hdigits, hpathEq, List.dropWhile_cons, hslash]
    simp
  simp [parsePlainHttp, hleading, hsplit, htake, hdrop, digitsValue_decimal, hname, hport, hpath]

end WebUrl
