import Switchboard.Hocon.Value

/-! What the members of a document have made so far. Each is put at its path when it is read; a
reference stands for what its path leads to by then, and waits if that is nothing. -/
namespace Switchboard.Hocon

inductive Tree where
  | leaf (setting : Setting)
  /-- A reference to a path that led nowhere when it was read. -/
  | reference (path : List String) (optional : Bool)
  | joined (parts : List Part)
  | table (entries : List (String × Tree))
  | list (items : List Tree)
  /-- What is put over something, of which one or the other is still to be found. -/
  | layered (below above : Tree)
deriving Repr, Inhabited

inductive Step where
  | name (name : String)
  | position (index : Nat)
deriving DecidableEq, Repr, Inhabited

namespace Tree

/-- What a path leads to, as far as it is known. -/
def at? : Tree → List String → Option Tree
  | tree, [] => some tree
  | table entries, name :: rest => (entries.lookup name).bind (·.at? rest)
  | _, _ => none

/-- The entries to which names are added, and what the table of them becomes. Anything but a table
is replaced, except that what is still to be found stays below. -/
def opened : Option Tree → List (String × Tree) × (Tree → Tree)
  | some (table entries) => (entries, id)
  | some (layered below (table entries)) => (entries, layered below)
  | some (layered below above) => ([], layered (layered below above))
  | some (reference path optional) => ([], layered (reference path optional))
  | _ => ([], id)

/-- The items at positions of which others are put. Anything but a list is replaced. -/
def items : Option Tree → List Tree
  | some (list items) => items
  | _ => []

mutual

/-- What comes of two trees in one place: the later one, except that the entries of two tables
are merged by name and the items of two lists by position. -/
def merge (base : Option Tree) : Tree → Tree
  | table entries => (opened base).2 (table (mergeEntries (opened base).1 entries))
  | list new => list (mergeItems (items base) new)
  | reference path optional =>
    match base with
    | some below => layered below (reference path optional)
    | none => reference path optional
  | later => later

def mergeEntries (base : List (String × Tree)) : List (String × Tree) → List (String × Tree)
  | [] => base
  | (name, tree) :: rest =>
    mergeEntries (Setting.place name (merge (base.lookup name) tree) base) rest

def mergeItems (base : List Tree) : List Tree → List Tree
  | [] => base
  | item :: rest => merge base.head? item :: mergeItems base.tail rest

end

/-- Puts a tree at the end of a path. A position beyond the end of a list is the next one. -/
def put (tree : Tree) : Option Tree → List Step → Tree
  | base, [] => merge base tree
  | base, .name name :: rest =>
    let (entries, wrap) := opened base
    wrap (table (Setting.place name (put tree (entries.lookup name) rest) entries))
  | base, .position index :: rest =>
    let old := items base
    list (old.take index ++ put tree old[index]? rest :: old.drop (index + 1))

/-- A part of a text where references are what they lead to in the tree so far. Tables and lists
have no text. -/
def known (root : Tree) : Part → List Part
  | .setting value => [.setting value]
  | .reference path optional =>
    match root.at? path with
    | some (leaf setting) => [.setting setting]
    | some (reference path optional) => [.reference path optional]
    | some (joined parts) => parts
    | some (table _) | some (list _) => []
    | some (layered _ _) | none => [.reference path optional]

def ofParts (root : Tree) : List Part → Tree
  | [.setting value] => leaf value
  | [.reference path optional] => (root.at? path).getD (reference path optional)
  | parts => joined (parts.flatMap root.known)

mutual

def assign (root : Tree) (path : List Step) : Value → Tree
  | .plain parts => put (ofParts root parts) (some root) path
  | .table members => assignMembers root path members
  | .list [] => put (leaf (.list [])) (some root) path
  | .list items => assignItems root path 0 items
  | .spread _ => root

def assignMembers (root : Tree) (path : List Step) : List (List String × Value) → Tree
  | [] => root
  | (names, value) :: rest =>
    assignMembers (assign root (path ++ names.map .name) value) path rest

def assignItems (root : Tree) (path : List Step) (position : Nat) : List Value → Tree
  | [] => root
  | .spread source :: rest =>
    let copied := items (root.at? source)
    let root := (copied.zipIdx position).foldl (fun root (item, index) =>
      put item (some root) (path ++ [.position index])) root
    assignItems root path (position + copied.length) rest
  | item :: rest =>
    assignItems (assign root (path ++ [.position position]) item) path (position + 1) rest

end

def ofMembers (members : List Member) : Tree := assignMembers (table []) [] members

mutual

/-- The paths that references of the tree wait for. -/
def awaited : Tree → List (List String)
  | leaf _ => []
  | reference path _ => [path]
  | joined parts => parts.filterMap fun part =>
    match part with
    | .reference path _ => some path
    | .setting _ => none
  | table entries => awaitedEntries entries
  | list items => awaitedItems items
  | layered below above => awaited below ++ awaited above

def awaitedEntries : List (String × Tree) → List (List String)
  | [] => []
  | (_, tree) :: rest => awaited tree ++ awaitedEntries rest

def awaitedItems : List Tree → List (List String)
  | [] => []
  | tree :: rest => awaited tree ++ awaitedItems rest

end

/-- The last tree on a path, and the steps from there on if it is no table. -/
def seek : Tree → List String → Option (Tree × List String)
  | table entries, name :: rest =>
    match entries.lookup name with
    | some tree => tree.seek rest
    | none => none
  | tree, path => some (tree, path)

/-- The text of parts side by side. What has no text leaves nothing. -/
def text (find : List String → Option Setting) (parts : List Part) : String :=
  String.join (parts.map fun part =>
    let setting :=
      match part with
      | .setting value => some value
      | .reference path _ => find path
    match setting with
    | some .null => "null"
    | some setting => setting.text?.getD ""
    | none => "")

mutual

/-- The setting that a tree makes where `find` tells what a path leads to. An optional reference
that leads nowhere makes nothing at all. -/
def settle (find : List String → Option Setting) : Tree → Option Setting
  | leaf setting => some setting
  | reference path optional =>
    match find path with
    | some setting => some setting
    | none => if optional then none else some .missing
  | joined parts => some (.text (text find parts))
  | table entries => some (.table (settleEntries find entries))
  | list items => some (.list (settleItems find items))
  | layered below above =>
    match settle find above, settle find below with
    | some later, some base => some (base.merge later)
    | some later, none => some later
    | none, base => base

def settleEntries (find : List String → Option Setting) :
    List (String × Tree) → List (String × Setting)
  | [] => []
  | (name, tree) :: rest =>
    ((settle find tree).map fun setting => (name, setting)).toList ++ settleEntries find rest

def settleItems (find : List String → Option Setting) : List Tree → List Setting
  | [] => []
  | tree :: rest => (settle find tree).toList ++ settleItems find rest

end

end Tree

end Switchboard.Hocon
