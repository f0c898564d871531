import Rpackit.Library.Text

/-! # A cookie store

The user agent of RFC 6265 for the cookies of one host: a `Set-Cookie` text is
parsed into a name, a value and a path, the store keeps one cookie for a name and
a path, and a request carries every cookie whose path matches. The standard
leaves a server no order to rely on, so nothing here fixes one.
-/

open Text

/-- The white space the cookie grammar strips. -/
def isWsp (b : UInt8) : Bool := b == space || b == tab

def trimWsp (text : Bytes) : Bytes := (text.dropWhile isWsp).rdropWhile isWsp

theorem trimWsp_infix_text (text : Bytes) : trimWsp text <:+: text :=
  (List.rdropWhile_prefix _ _).isInfix.trans (List.dropWhile_suffix _).isInfix

theorem trimWsp_eq_self {text : Bytes} (htext : ∀ b ∈ text, isWsp b = false) :
    trimWsp text = text := by
  have hdrop : text.dropWhile isWsp = text := by
    rw [List.dropWhile_eq_self_iff]
    intro hlength
    simp [htext _ (List.getElem_mem hlength)]
  rw [trimWsp, hdrop, List.rdropWhile_eq_self_iff]
  intro hne
  simp [htext _ (List.getLast_mem hne)]

theorem not_isWsp_of_getLast?_trimWsp {text : Bytes} {b : UInt8}
    (hlast : (trimWsp text).getLast? = some b) : isWsp b = false := by
  have hne : trimWsp text ≠ [] := by
    intro hnil
    rw [hnil] at hlast
    cases hlast
  rw [← List.getLast_of_getLast?_eq_some hlast]
  exact Bool.eq_false_iff.mpr (List.rdropWhile_last_not isWsp _ hne)

/-- Among visible bytes the two notions of white space agree. -/
theorem not_isAsciiWhiteSpace_of_not_isWsp {b : UInt8} (hvisible : isVisibleAscii b = true)
    (hwsp : isWsp b = false) : isAsciiWhiteSpace b = false := by
  simp only [isVisibleAscii, isWsp, isAsciiWhiteSpace, space, tab, Bool.or_eq_true,
    Bool.and_eq_true, decide_eq_true_eq, beq_iff_eq, Bool.or_eq_false_iff, Bool.and_eq_false_imp,
    decide_eq_false_iff_not, beq_eq_false_iff_ne, UInt8.le_iff_toNat_le, UInt8.lt_iff_toNat_lt,
    ← UInt8.toNat_inj, ne_eq] at hvisible hwsp ⊢
  simp only [UInt8.reduceToNat] at hvisible hwsp ⊢
  omega

structure Cookie where
  name : Bytes
  value : Bytes
  path : Bytes
  deriving DecidableEq, Repr

namespace Cookie

/-- What identifies a cookie of the host in the store. -/
def key (cookie : Cookie) : Bytes × Bytes := (cookie.name, cookie.path)

/-- The pair a request carries. -/
def pair (cookie : Cookie) : Bytes := cookie.name ++ equals :: cookie.value

/-- The directory of a request path. -/
def defaultPath (requestPath : Bytes) : Bytes :=
  let directory := (requestPath.rdropWhile (· != slash)).dropLast
  if requestPath.head? ≠ some slash ∨ directory = [] then [slash] else directory

def parsePair (text : Bytes) : Option (Bytes × Bytes) :=
  match splitOnce equals text with
  | none => none
  | some (name, value) =>
      if trimWsp name = [] then none else some (trimWsp name, trimWsp value)

/-- The path a `Path` attribute asks for; `none` for any other attribute. -/
def attributePath? (requestPath text : Bytes) : Option Bytes :=
  let parts := (splitOnce equals text).getD (text, [])
  if eqIgnoreAsciiCase (trimWsp parts.1) (asBytes "path") then
    some (if (trimWsp parts.2).head? = some slash then trimWsp parts.2 else defaultPath requestPath)
  else none

/-- The path of a cookie: the last `Path` attribute counts. -/
def storedPath (requestPath : Bytes) (attributes : List Bytes) : Bytes :=
  ((attributes.filterMap (attributePath? requestPath)).getLast?).getD (defaultPath requestPath)

/-- The cookie of a `Set-Cookie` text. -/
def parse? (requestPath text : Bytes) : Option Cookie :=
  match text.splitOn semicolon with
  | [] => none
  | first :: attributes => (parsePair first).map fun parts =>
      ⟨parts.1, parts.2, storedPath requestPath attributes⟩

theorem parsePair_pair {name : Bytes} (value : Bytes) (hequals : equals ∉ name)
    (hwsp : ∀ b ∈ name, isWsp b = false) (hname : name ≠ []) :
    parsePair (name ++ equals :: value) = some (name, trimWsp value) := by
  rw [parsePair, splitOnce_eq_some_iff.mpr ⟨rfl, hequals⟩]
  simp only [trimWsp_eq_self hwsp, if_neg hname]

/-- Parsing a text joined from a pair and its attributes. -/
theorem parse?_intercalate (requestPath : Bytes) {first : Bytes} {attributes : List Bytes}
    (hsemicolon : ∀ part ∈ first :: attributes, semicolon ∉ part) :
    parse? requestPath ([semicolon, space].intercalate (first :: attributes)) =
      (parsePair first).map fun parts =>
        ⟨parts.1, parts.2, storedPath requestPath (attributes.map (space :: ·))⟩ := by
  rw [parse?, splitOn_intercalate_blank (by decide) hsemicolon]

def matchesPath (cookie : Cookie) (requestPath : Bytes) : Bool :=
  cookie.path == requestPath ||
    (cookie.path.isPrefixOf requestPath &&
      (cookie.path.getLast? == some slash || requestPath[cookie.path.length]? == some slash))

/-- A cookie for the root path goes with every request. -/
theorem matchesPath_root {cookie : Cookie} {requestPath : Bytes} (hpath : cookie.path = [slash])
    (hrooted : requestPath.head? = some slash) : cookie.matchesPath requestPath = true := by
  obtain ⟨rest, rfl⟩ := List.head?_eq_some_iff.mp hrooted
  simp [matchesPath, hpath]

/-- The text of a `Cookie` field. -/
def header (sent : List Cookie) : Bytes := [semicolon, space].intercalate (sent.map pair)

end Cookie

/-- The store: at most one cookie for a name and a path. -/
structure CookieJar where
  cookies : List Cookie
  keysNodup : (cookies.map Cookie.key).Nodup

namespace CookieJar

def empty : CookieJar := ⟨[], List.nodup_nil⟩

/-- The store a cookie leaves: it takes the place of the cookie with its key. -/
def replaced (cookies : List Cookie) (cookie : Cookie) : List Cookie :=
  if cookie.key ∈ cookies.map Cookie.key then
    cookies.map fun other => if other.key = cookie.key then cookie else other
  else cookies ++ [cookie]

theorem replaced_keys (cookies : List Cookie) (cookie : Cookie) :
    (replaced cookies cookie).map Cookie.key =
      if cookie.key ∈ cookies.map Cookie.key then cookies.map Cookie.key
      else cookies.map Cookie.key ++ [cookie.key] := by
  unfold replaced
  split
  · rw [List.map_map]
    apply List.map_congr_left
    intro other _
    rw [Function.comp_apply]
    split
    next hkey => exact hkey.symm
    · rfl
  · rw [List.map_append, List.map_singleton]

def store (jar : CookieJar) (cookie : Cookie) : CookieJar where
  cookies := replaced jar.cookies cookie
  keysNodup := by
    rw [replaced_keys]
    split
    · exact jar.keysNodup
    next hnew => exact List.nodup_append.mpr ⟨jar.keysNodup, by simp, by
        rintro key hkey _ hsingle rfl
        exact hnew (List.mem_singleton.mp hsingle ▸ hkey)⟩

/-- A response for `requestPath` carries a `Set-Cookie` field. -/
def receive (jar : CookieJar) (requestPath text : Bytes) : CookieJar :=
  match Cookie.parse? requestPath text with
  | none => jar
  | some cookie => jar.store cookie

/-- A cookie expires or is evicted. -/
def discard (jar : CookieJar) (name path : Bytes) : CookieJar where
  cookies := jar.cookies.filter fun cookie => cookie.key ≠ (name, path)
  keysNodup := (List.filter_sublist.map Cookie.key).nodup jar.keysNodup

/-- The cookies a request for `requestPath` carries, in no particular order. -/
def matching (jar : CookieJar) (requestPath : Bytes) : List Cookie :=
  jar.cookies.filter (·.matchesPath requestPath)

theorem mem_store {jar : CookieJar} {cookie other : Cookie}
    (hmem : other ∈ (jar.store cookie).cookies) : other = cookie ∨ other ∈ jar.cookies := by
  simp only [store, replaced] at hmem
  split at hmem
  · obtain ⟨source, hsource, heq⟩ := List.mem_map.mp hmem
    split at heq
    · exact .inl heq.symm
    · exact .inr (heq ▸ hsource)
  · rcases List.mem_append.mp hmem with hold | hnew
    · exact .inr hold
    · exact .inl (List.mem_singleton.mp hnew)

/-- Storing a cookie does not touch the cookies with names of another kind. -/
theorem filter_store {kind : Bytes → Bool} (jar : CookieJar) {cookie : Cookie}
    (hkind : kind cookie.name = false) :
    (jar.store cookie).cookies.filter (fun other => kind other.name) =
      jar.cookies.filter fun other => kind other.name := by
  simp only [store, replaced]
  split
  · induction jar.cookies with
    | nil => rfl
    | cons head tail ih =>
        rw [List.map_cons]
        split
        next hkey =>
          have hname : head.name = cookie.name := congrArg Prod.fst hkey
          rw [List.filter_cons_of_neg (by simp [hkind]),
            List.filter_cons_of_neg (by simp [hname, hkind]), ih]
        · simp only [List.filter_cons, ih]
  · rw [List.filter_append, List.filter_cons_of_neg (by simp [hkind]), List.filter_nil,
      List.append_nil]

theorem matching_sublist (jar : CookieJar) (requestPath : Bytes) :
    (jar.matching requestPath).Sublist jar.cookies := List.filter_sublist

end CookieJar
