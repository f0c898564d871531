import Rpackit.Library.Fallible
import Mathlib.Data.List.Infix

/-! # File trees with links

A static tree of directories, files and links. A directory knows its children
under any spelling of their names and stores one of them. Resolution follows
links, up to a limit; what it reaches has a path of stored names on which nothing
is a link.
-/

variable {V N C : Type}

/-- A place in the tree: a volume and the names below its root. -/
structure Location (V N : Type) where
  volume : V
  names : List N
  deriving DecidableEq, Repr

namespace Location

def root (volume : V) : Location V N := ⟨volume, []⟩

def join (location : Location V N) (names : List N) : Location V N :=
  ⟨location.volume, location.names ++ names⟩

@[simp] theorem join_nil (location : Location V N) : location.join [] = location := by
  simp [join]

@[simp] theorem join_join (location : Location V N) (first second : List N) :
    (location.join first).join second = location.join (first ++ second) := by
  simp [join]

end Location

/-- What a directory stores under a name. A link is a reparse point of its own;
directories and files may be reparse points of another kind. -/
inductive Entry (V N C : Type) where
  | directory (reparse : Bool)
  | file (content : C) (reparse : Bool)
  | link (target : Location V N)
  deriving DecidableEq, Repr

namespace Entry

def isReparse : Entry V N C → Bool
  | directory reparse => reparse
  | file _ reparse => reparse
  | link _ => true

def isDirectory : Entry V N C → Bool
  | directory _ => true
  | _ => false

def isFile : Entry V N C → Bool
  | file _ _ => true
  | _ => false

theorem ne_link_of_isReparse {entry : Entry V N C} (hreparse : entry.isReparse = false)
    (target : Location V N) : entry ≠ .link target := by
  rintro rfl
  cases hreparse

/-- The same entry with another content. -/
def mapContent (update : C → C) : Entry V N C → Entry V N C
  | directory reparse => .directory reparse
  | file content reparse => .file (update content) reparse
  | link target => .link target

@[simp] theorem isReparse_mapContent (update : C → C) (entry : Entry V N C) :
    (entry.mapContent update).isReparse = entry.isReparse := by cases entry <;> rfl

@[simp] theorem isDirectory_mapContent (update : C → C) (entry : Entry V N C) :
    (entry.mapContent update).isDirectory = entry.isDirectory := by cases entry <;> rfl

@[simp] theorem isFile_mapContent (update : C → C) (entry : Entry V N C) :
    (entry.mapContent update).isFile = entry.isFile := by cases entry <;> rfl

end Entry

inductive LookupError where
  | notFound
  | other
  deriving DecidableEq, Repr

/-- A directory and what it stores under a spelling: the stored name and the entry. -/
structure FileTree (V N C : Type) where
  lookup : Location V N → N → Except LookupError (N × Entry V N C)
  lookup_stored : ∀ {directory spelling stored entry},
    lookup directory spelling = .ok (stored, entry) →
      lookup directory stored = .ok (stored, entry)
  linkLimit : Nat

/-- A file or directory that resolution reached. -/
structure Node (V N C : Type) where
  location : Location V N
  entry : Entry V N C
  deriving DecidableEq, Repr

namespace Node

def root (volume : V) : Node V N C := ⟨.root volume, .directory false⟩

def child (node : Node V N C) (stored : N) (entry : Entry V N C) : Node V N C :=
  ⟨node.location.join [stored], entry⟩

/-- The same node with the content that its place is given. -/
def mapContent (change : Location V N → C → C) (node : Node V N C) : Node V N C :=
  ⟨node.location, node.entry.mapContent (change node.location)⟩

end Node

namespace FileTree

variable (tree : FileTree V N C)

/-! ## Resolution -/

/-- Walk down from a node; `follow` continues behind a link. -/
def walk (follow : Location V N → Except LookupError (Node V N C)) (node : Node V N C) :
    List N → Except LookupError (Node V N C)
  | [] => .ok node
  | name :: rest =>
      if node.entry.isDirectory then
        match tree.lookup node.location name with
        | .error error => .error error
        | .ok (_, .link target) => follow (target.join rest)
        | .ok (stored, entry) => walk follow (node.child stored entry) rest
      else .error .notFound

/-- Resolve a location and follow at most `limit` links. -/
def resolve : Nat → Location V N → Except LookupError (Node V N C)
  | 0, location => tree.walk (fun _ => .error .other) (.root location.volume) location.names
  | limit + 1, location => tree.walk (resolve limit) (.root location.volume) location.names

/-- How resolution continues behind a link. -/
def behindLink : Nat → Location V N → Except LookupError (Node V N C)
  | 0, _ => .error .other
  | limit + 1, location => tree.resolve limit location

/-- The node at a location, behind all links. -/
def stat (location : Location V N) : Except LookupError (Node V N C) :=
  tree.resolve tree.linkLimit location

/-- What a directory stores under a name. -/
def entryIn (node : Node V N C) (name : N) : Except LookupError (Entry V N C) :=
  if node.entry.isDirectory then (tree.lookup node.location name).map Prod.snd
  else .error .notFound

/-- The entry at a location, behind all links but the last. -/
def lstat (location : Location V N) : Except LookupError (Entry V N C) :=
  match location.names.getLast? with
  | none => .ok (.directory false)
  | some name => do
      let parent ← tree.stat ⟨location.volume, location.names.dropLast⟩
      tree.entryIn parent name

/-! ## Stored nodes -/

/-- Nodes at the end of their stored names, without a link on the way. -/
inductive Stored : Node V N C → Prop
  | root (volume : V) : Stored (.root volume)
  | child {node : Node V N C} {stored : N} {entry : Entry V N C} (hnode : Stored node)
      (hdirectory : node.entry.isDirectory = true)
      (hlookup : tree.lookup node.location stored = .ok (stored, entry))
      (hlink : ∀ target, entry ≠ .link target) : Stored (node.child stored entry)

/-- The names lead from one node to another without a reparse point on the way. -/
inductive Plain : Node V N C → List N → Node V N C → Prop
  | nil (node : Node V N C) : Plain node [] node
  | cons {node last : Node V N C} {name stored : N} {entry : Entry V N C} {rest : List N}
      (hdirectory : node.entry.isDirectory = true)
      (hlookup : tree.lookup node.location name = .ok (stored, entry))
      (hplain : entry.isReparse = false) (hrest : Plain (node.child stored entry) rest last) :
      Plain node (name :: rest) last

variable {tree}

theorem walk_cons {follow : Location V N → Except LookupError (Node V N C)} {node : Node V N C}
    {name stored : N} {entry : Entry V N C} {rest : List N}
    (hdirectory : node.entry.isDirectory = true)
    (hlookup : tree.lookup node.location name = .ok (stored, entry))
    (hlink : ∀ target, entry ≠ .link target) :
    tree.walk follow node (name :: rest) = tree.walk follow (node.child stored entry) rest := by
  rw [walk, if_pos hdirectory, hlookup]
  cases entry with
  | directory => rfl
  | file => rfl
  | link target => exact absurd rfl (hlink target)

theorem stored_walk {follow : Location V N → Except LookupError (Node V N C)}
    (hfollow : ∀ location node, follow location = .ok node → tree.Stored node)
    {node last : Node V N C} {names : List N} (hnode : tree.Stored node)
    (hwalk : tree.walk follow node names = .ok last) : tree.Stored last := by
  induction names generalizing node with
  | nil => exact Except.ok.inj hwalk ▸ hnode
  | cons name rest ih =>
      by_cases hdirectory : node.entry.isDirectory = true
      · rcases hlookup : tree.lookup node.location name with error | ⟨stored, entry⟩
        · rw [walk, if_pos hdirectory, hlookup] at hwalk
          cases hwalk
        · by_cases hlink : ∀ target, entry ≠ .link target
          · rw [walk_cons hdirectory hlookup hlink] at hwalk
            exact ih (hnode.child hdirectory (tree.lookup_stored hlookup) hlink) hwalk
          · simp only [not_forall, not_not] at hlink
            obtain ⟨target, rfl⟩ := hlink
            rw [walk, if_pos hdirectory, hlookup] at hwalk
            exact hfollow _ _ hwalk
      · rw [walk, if_neg hdirectory] at hwalk
        cases hwalk

/-- Whatever resolution reaches is stored. -/
theorem stored_resolve {limit : Nat} {location : Location V N} {node : Node V N C}
    (hresolve : tree.resolve limit location = .ok node) : tree.Stored node := by
  induction limit generalizing location node with
  | zero => exact stored_walk (fun _ _ h => by cases h) (.root _) hresolve
  | succ limit ih => exact stored_walk (fun _ _ h => ih h) (.root _) hresolve

theorem stored_stat {location : Location V N} {node : Node V N C}
    (hstat : tree.stat location = .ok node) : tree.Stored node := stored_resolve hstat

/-- Resolution passes the stored names of a node. -/
theorem Stored.walk_names {follow : Location V N → Except LookupError (Node V N C)}
    {node : Node V N C} (hnode : tree.Stored node) (rest : List N) :
    tree.walk follow (.root node.location.volume) (node.location.names ++ rest) =
      tree.walk follow node rest := by
  induction hnode generalizing rest with
  | root volume => rfl
  | child hnode hdirectory hlookup hlink ih =>
      simp only [Node.child, Location.join, List.append_assoc, List.singleton_append]
      rw [ih, walk_cons hdirectory hlookup hlink]
      rfl

theorem Stored.stat_join {node : Node V N C} (hnode : tree.Stored node) (rest : List N) :
    tree.stat (node.location.join rest) = tree.walk (tree.behindLink tree.linkLimit) node rest := by
  rw [stat]
  cases tree.linkLimit with
  | zero => exact hnode.walk_names rest
  | succ limit => exact hnode.walk_names rest

/-- A stored node is where its location leads. -/
theorem Stored.stat_location {node : Node V N C} (hnode : tree.Stored node) :
    tree.stat node.location = .ok node := by
  rw [← Location.join_nil node.location, hnode.stat_join]
  rfl

/-! ## Plain paths -/

theorem Plain.walk_append {follow : Location V N → Except LookupError (Node V N C)}
    {node last : Node V N C} {names : List N} (hplain : tree.Plain node names last)
    (rest : List N) : tree.walk follow node (names ++ rest) = tree.walk follow last rest := by
  induction hplain with
  | nil node => rfl
  | cons hdirectory hlookup hentry hrest ih =>
      rw [List.cons_append, walk_cons hdirectory hlookup (Entry.ne_link_of_isReparse hentry), ih]

theorem Plain.stored {node last : Node V N C} {names : List N} (hnode : tree.Stored node)
    (hplain : tree.Plain node names last) : tree.Stored last := by
  induction hplain with
  | nil node => exact hnode
  | cons hdirectory hlookup hentry hrest ih =>
      exact ih (hnode.child hdirectory (tree.lookup_stored hlookup)
        (Entry.ne_link_of_isReparse hentry))

theorem Plain.snoc {node last : Node V N C} {names : List N} {name stored : N}
    {entry : Entry V N C} (hplain : tree.Plain node names last)
    (hdirectory : last.entry.isDirectory = true)
    (hlookup : tree.lookup last.location name = .ok (stored, entry))
    (hentry : entry.isReparse = false) :
    tree.Plain node (names ++ [name]) (last.child stored entry) := by
  induction hplain with
  | nil node => exact .cons hdirectory hlookup hentry (.nil _)
  | cons hfirst hname hreparse hrest ih => exact .cons hfirst hname hreparse (ih hdirectory hlookup)

theorem Plain.append {node middle last : Node V N C} {first second : List N}
    (hfirst : tree.Plain node first middle) (hsecond : tree.Plain middle second last) :
    tree.Plain node (first ++ second) last := by
  induction hfirst with
  | nil node => exact hsecond
  | cons hdirectory hlookup hentry hrest ih => exact .cons hdirectory hlookup hentry (ih hsecond)

/-- The stored names of a plain path are one more plain path. -/
theorem Plain.exists_names {node last : Node V N C} {names : List N}
    (hplain : tree.Plain node names last) :
    ∃ stored, last.location = node.location.join stored ∧ tree.Plain node stored last := by
  induction hplain with
  | nil node => exact ⟨[], by simp, .nil node⟩
  | cons hdirectory hlookup hentry hrest ih =>
      obtain ⟨stored, hlocation, hstored⟩ := ih
      refine ⟨_ :: stored, ?_, .cons hdirectory (tree.lookup_stored hlookup) hentry hstored⟩
      rw [hlocation, Node.child, Location.join_join]
      rfl

/-- A query behind a plain path is a query from its end. -/
theorem Plain.stat_append {node last : Node V N C} {names : List N} (hnode : tree.Stored node)
    (hplain : tree.Plain node names last) (rest : List N) :
    tree.stat (node.location.join (names ++ rest)) = tree.stat (last.location.join rest) := by
  rw [hnode.stat_join, hplain.walk_append, (hplain.stored hnode).stat_join]

/-- A plain path below a stored node leads to its end. -/
theorem Plain.stat_join {node last : Node V N C} {names : List N} (hnode : tree.Stored node)
    (hplain : tree.Plain node names last) : tree.stat (node.location.join names) = .ok last := by
  have happend := hplain.stat_append hnode []
  rw [List.append_nil, Location.join_nil, (hplain.stored hnode).stat_location] at happend
  exact happend

theorem lstat_snoc (location : Location V N) (names : List N) (name : N) :
    tree.lstat (location.join (names ++ [name])) =
      tree.stat (location.join names) >>= fun parent => tree.entryIn parent name := by
  have hlast : (location.join (names ++ [name])).names.getLast? = some name := by
    simp [Location.join, ← List.append_assoc]
  have hparent : (⟨(location.join (names ++ [name])).volume,
      (location.join (names ++ [name])).names.dropLast⟩ : Location V N) = location.join names := by
    simp [Location.join, ← List.append_assoc]
  rw [lstat, hlast, hparent]

/-- Behind a plain path, the last directory answers. -/
theorem Plain.lstat_join {node last : Node V N C} {names : List N} (hnode : tree.Stored node)
    (hplain : tree.Plain node names last) (name : N) :
    tree.lstat (node.location.join (names ++ [name])) = tree.entryIn last name := by
  rw [lstat_snoc, hplain.stat_join hnode, Fallible.ok_bind]

theorem Plain.lstat_append {node last : Node V N C} {names rest : List N} (hnode : tree.Stored node)
    (hplain : tree.Plain node names last) (hrest : rest ≠ []) :
    tree.lstat (node.location.join (names ++ rest)) = tree.lstat (last.location.join rest) := by
  obtain ⟨before, name, rfl⟩ := (List.eq_nil_or_concat rest).resolve_left hrest
  rw [List.concat_eq_append, ← List.append_assoc, lstat_snoc, lstat_snoc, hplain.stat_append hnode]

theorem entryIn_eq_ok_iff {node : Node V N C} {name : N} {entry : Entry V N C} :
    tree.entryIn node name = .ok entry ↔ node.entry.isDirectory = true ∧
      ∃ stored, tree.lookup node.location name = .ok (stored, entry) := by
  unfold entryIn
  split
  next hdirectory =>
    rcases tree.lookup node.location name with error | ⟨stored, found⟩
    · simp [Except.map]
    · simp [Except.map, hdirectory]
  next hfile => simp [hfile]

/-- An inspected entry that is no reparse point extends a plain path. -/
theorem Plain.extend {node last : Node V N C} {names : List N} {name : N} {entry : Entry V N C}
    (hnode : tree.Stored node) (hplain : tree.Plain node names last)
    (hlstat : tree.lstat (node.location.join (names ++ [name])) = .ok entry)
    (hentry : entry.isReparse = false) :
    ∃ stored, tree.Plain node (names ++ [name]) (last.child stored entry) := by
  rw [hplain.lstat_join hnode] at hlstat
  obtain ⟨hdirectory, stored, hlookup⟩ := entryIn_eq_ok_iff.mp hlstat
  exact ⟨stored, hplain.snoc hdirectory hlookup hentry⟩

/-- What resolution found was on a plain path if no inspected name is a reparse point. -/
theorem Plain.of_stat {node last found : Node V N C} {names rest : List N}
    (hnode : tree.Stored node) (hplain : tree.Plain node names last)
    (hstat : tree.stat (node.location.join (names ++ rest)) = .ok found)
    (hentries : ∀ first entry, first ≠ [] → first <+: rest →
      tree.lstat (node.location.join (names ++ first)) = .ok entry → entry.isReparse = false) :
    tree.Plain node (names ++ rest) found := by
  induction rest generalizing names last with
  | nil =>
      rw [List.append_nil] at hstat ⊢
      rw [hplain.stat_join hnode] at hstat
      exact Except.ok.inj hstat ▸ hplain
  | cons name rest ih =>
      have hwalk := hstat
      rw [hnode.stat_join, hplain.walk_append] at hwalk
      -- the walk looked the name up
      have hentry : ∃ entry, tree.entryIn last name = .ok entry := by
        rw [walk] at hwalk
        split at hwalk
        next hdirectory =>
          rcases hlookup : tree.lookup last.location name with error | ⟨stored, entry⟩
          · rw [hlookup] at hwalk
            cases hwalk
          · exact ⟨entry, entryIn_eq_ok_iff.mpr ⟨hdirectory, stored, hlookup⟩⟩
        · cases hwalk
      obtain ⟨entry, hentry⟩ := hentry
      rw [← hplain.lstat_join hnode] at hentry
      have hreparse := hentries [name] entry (List.cons_ne_nil _ _)
        (List.cons_prefix_cons.mpr ⟨rfl, List.nil_prefix⟩) hentry
      obtain ⟨stored, hnext⟩ := hplain.extend hnode hentry hreparse
      rw [List.append_cons] at hstat ⊢
      apply ih hnext hstat
      intro first entry hfirst hleads hlstat
      rw [← List.append_cons] at hlstat
      exact hentries (name :: first) entry (List.cons_ne_nil _ _)
        (List.cons_prefix_cons.mpr ⟨rfl, hleads⟩) hlstat

theorem Plain.split {node last : Node V N C} {first second : List N}
    (hplain : tree.Plain node (first ++ second) last) :
    ∃ middle, tree.Plain node first middle ∧ tree.Plain middle second last := by
  induction first generalizing node with
  | nil => exact ⟨node, .nil node, hplain⟩
  | cons name rest ih =>
      cases hplain with
      | cons hdirectory hlookup hentry hrest =>
          obtain ⟨middle, hfirst, hsecond⟩ := ih hrest
          exact ⟨middle, .cons hdirectory hlookup hentry hfirst, hsecond⟩

/-- The end of a plain path is inspected as it is, and is no reparse point. -/
theorem Plain.lstat_last {node last : Node V N C} {names : List N} (hnode : tree.Stored node)
    (hplain : tree.Plain node names last) (hnames : names ≠ []) :
    tree.lstat (node.location.join names) = .ok last.entry ∧ last.entry.isReparse = false := by
  obtain ⟨before, name, rfl⟩ := (List.eq_nil_or_concat names).resolve_left hnames
  rw [List.concat_eq_append] at hplain ⊢
  obtain ⟨middle, hbefore, hname⟩ := hplain.split
  cases hname with
  | cons hdirectory hlookup hentry hrest =>
      cases hrest
      refine ⟨?_, hentry⟩
      rw [hbefore.lstat_join hnode]
      exact entryIn_eq_ok_iff.mpr ⟨hdirectory, _, hlookup⟩

/-- Every name on a plain path is inspected as no reparse point. -/
theorem Plain.lstat_prefix {node last : Node V N C} {names first : List N}
    (hnode : tree.Stored node) (hplain : tree.Plain node names last) (hfirst : first ≠ [])
    (hleads : first <+: names) :
    ∃ entry, tree.lstat (node.location.join first) = .ok entry ∧ entry.isReparse = false := by
  obtain ⟨second, rfl⟩ := hleads
  obtain ⟨middle, hbefore, -⟩ := hplain.split
  exact ⟨middle.entry, hbefore.lstat_last hnode hfirst⟩

/-- A plain path adds as many names as it has. -/
theorem Plain.length_names {node last : Node V N C} {names : List N}
    (hplain : tree.Plain node names last) :
    last.location.names.length = node.location.names.length + names.length := by
  induction hplain with
  | nil node => rfl
  | cons hdirectory hlookup hentry hrest ih =>
      rw [ih, Node.child, Location.join, List.length_append, List.length_singleton,
        List.length_cons]
      omega

/-! ## Other contents -/

/-- The same tree with other contents of its files. -/
def mapContent (change : Location V N → C → C) (tree : FileTree V N C) : FileTree V N C where
  lookup directory spelling :=
    (tree.lookup directory spelling).map fun found =>
      (found.1, found.2.mapContent (change (directory.join [found.1])))
  lookup_stored := by
    intro directory spelling stored entry hlookup
    cases hfound : tree.lookup directory spelling with
    | error error =>
        rw [hfound] at hlookup
        cases hlookup
    | ok found =>
        rw [hfound] at hlookup
        cases hlookup
        rw [tree.lookup_stored hfound]
        rfl
  linkLimit := tree.linkLimit

theorem walk_mapContent (change : Location V N → C → C)
    (follow : Location V N → Except LookupError (Node V N C)) (node : Node V N C)
    (names : List N) :
    (tree.mapContent change).walk (fun location => (follow location).map (Node.mapContent change))
        (node.mapContent change) names =
      (tree.walk follow node names).map (Node.mapContent change) := by
  induction names generalizing node with
  | nil => rfl
  | cons name rest ih =>
      rw [walk, walk]
      by_cases hdirectory : node.entry.isDirectory = true
      · have hmapped : (node.mapContent change).entry.isDirectory = true := by
          simpa [Node.mapContent] using hdirectory
        rw [if_pos hdirectory, if_pos hmapped]
        rcases hlookup : tree.lookup node.location name with error | ⟨stored, entry⟩
        · simp [mapContent, Node.mapContent, hlookup, Except.map]
        · have hnext := ih (node.child stored entry)
          cases entry with
          | directory reparse =>
              simpa [mapContent, Node.mapContent, Node.child, hlookup, Except.map,
                Entry.mapContent] using hnext
          | file content reparse =>
              simpa [mapContent, Node.mapContent, Node.child, hlookup, Except.map,
                Entry.mapContent] using hnext
          | link target =>
              simp [mapContent, Node.mapContent, hlookup, Except.map, Entry.mapContent]
      · have hmapped : ¬ (node.mapContent change).entry.isDirectory = true := by
          simpa [Node.mapContent] using hdirectory
        rw [if_neg hdirectory, if_neg hmapped]
        rfl

theorem resolve_mapContent (change : Location V N → C → C) (limit : Nat)
    (location : Location V N) :
    (tree.mapContent change).resolve limit location =
      (tree.resolve limit location).map (Node.mapContent change) := by
  induction limit generalizing location with
  | zero => exact walk_mapContent change (fun _ => .error .other) (.root _) _
  | succ limit ih =>
      rw [resolve, resolve, ← walk_mapContent, funext ih]
      rfl

/-- Resolution does not read contents. -/
theorem stat_mapContent (change : Location V N → C → C) (location : Location V N) :
    (tree.mapContent change).stat location =
      (tree.stat location).map (Node.mapContent change) :=
  resolve_mapContent change _ _

/-- The node a directory stores under a name. -/
def nodeIn (tree : FileTree V N C) (node : Node V N C) (name : N) :
    Except LookupError (Node V N C) :=
  if node.entry.isDirectory then
    (tree.lookup node.location name).map fun found => node.child found.1 found.2
  else .error .notFound

theorem entryIn_eq (node : Node V N C) (name : N) :
    tree.entryIn node name = (tree.nodeIn node name).map Node.entry := by
  unfold entryIn nodeIn
  split
  · cases tree.lookup node.location name <;> rfl
  · rfl

theorem nodeIn_mapContent (change : Location V N → C → C) (node : Node V N C) (name : N) :
    (tree.mapContent change).nodeIn (node.mapContent change) name =
      (tree.nodeIn node name).map (Node.mapContent change) := by
  simp only [nodeIn, Node.mapContent, Entry.isDirectory_mapContent, mapContent]
  split
  · cases tree.lookup node.location name <;> rfl
  · rfl

/-- Inspection does not read contents either. -/
theorem lstat_mapContent (change : Location V N → C → C) (location : Location V N) :
    ∃ update : C → C, (tree.mapContent change).lstat location =
      (tree.lstat location).map (Entry.mapContent update) := by
  unfold lstat
  cases location.names.getLast? with
  | none => exact ⟨id, rfl⟩
  | some name =>
      simp only [stat_mapContent]
      cases tree.stat ⟨location.volume, location.names.dropLast⟩ with
      | error error => exact ⟨id, rfl⟩
      | ok parent =>
          simp only [Except.map, Fallible.ok_bind, entryIn_eq, nodeIn_mapContent]
          cases tree.nodeIn parent name with
          | error error => exact ⟨id, rfl⟩
          | ok node => exact ⟨change node.location, rfl⟩

/-- What inspection finds directly below a stored node. -/
theorem Stored.lstat_join {base : Node V N C} (hbase : tree.Stored base) (name : N) :
    tree.lstat (base.location.join [name]) = (tree.nodeIn base name).map Node.entry := by
  rw [← entryIn_eq]
  exact (Plain.nil base).lstat_join hbase name

theorem Stored.lstat_join_mapContent {base : Node V N C} (hbase : tree.Stored base)
    (change : Location V N → C → C) (name : N) :
    (tree.mapContent change).lstat (base.location.join [name]) =
      (tree.nodeIn base name).map fun node => (node.mapContent change).entry := by
  have hsnoc : (tree.mapContent change).lstat (base.location.join ([] ++ [name])) =
      (tree.mapContent change).stat (base.location.join []) >>= fun parent =>
        (tree.mapContent change).entryIn parent name := lstat_snoc base.location [] name
  rw [List.nil_append, Location.join_nil, stat_mapContent, hbase.stat_location] at hsnoc
  rw [hsnoc, Except.map, Fallible.ok_bind, entryIn_eq, nodeIn_mapContent]
  cases tree.nodeIn base name <;> rfl

/-- An entry that is no link is what resolution finds there. -/
theorem Stored.stat_join_nodeIn {base node : Node V N C} {name : N} (hbase : tree.Stored base)
    (hnode : tree.nodeIn base name = .ok node) (hlink : ∀ target, node.entry ≠ .link target) :
    tree.stat (base.location.join [name]) = .ok node := by
  rw [hbase.stat_join]
  unfold nodeIn at hnode
  split at hnode
  next hdirectory =>
    cases hlookup : tree.lookup base.location name with
    | error error =>
        rw [hlookup] at hnode
        cases hnode
    | ok found =>
        obtain ⟨stored, entry⟩ := found
        rw [hlookup] at hnode
        cases hnode
        rw [walk_cons hdirectory hlookup hlink]
        rfl
  next => cases hnode

/-! ## Finite trees -/

/-- The tree of a table of rows: a directory, a name in it, and the entry there. -/
def ofRows [DecidableEq V] [DecidableEq N] (rows : List (Location V N × N × Entry V N C))
    (linkLimit : Nat) : FileTree V N C where
  lookup directory name :=
    match rows.find? fun row => row.1 = directory ∧ row.2.1 = name with
    | some row => .ok row.2
    | none => .error .notFound
  lookup_stored := by
    intro directory spelling stored entry hlookup
    split at hlookup
    next row hrow =>
      have hname := List.find?_some hrow
      obtain ⟨place, name, content⟩ := row
      cases hlookup
      simp only [Bool.decide_and, Bool.and_eq_true, decide_eq_true_eq] at hname
      rw [← hname.2] at hrow
      simp only [hrow]
    next hnone => cases hlookup
  linkLimit := linkLimit

end FileTree
