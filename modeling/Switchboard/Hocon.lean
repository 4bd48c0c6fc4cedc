import Switchboard.Hocon.Reader
import Switchboard.Hocon.Tree

/-! HOCON documents. A document is a sequence of assignments, each of a value to a path, in which
later ones win and tables merge. A value can refer to what has been assigned before it, or else to
what is assigned after it, or else to the environment. -/
namespace Switchboard.Hocon

/-- What a path leads to in the whole document, or else in the environment. Each of the `awaited`
paths is followed once, so that nothing is made of itself. -/
def find (environment : String → Option String) (root : Tree) (awaited : List (List String))
    (path : List String) : Option Setting :=
  let outside := (environment (".".intercalate path)).map Setting.text
  if _ : path ∈ awaited then
    match root.seek path with
    | some (tree, rest) =>
      let inside := tree.settle fun next => find environment root (awaited.erase path) next
      (inside.bind (·.at? rest)).or outside
    | none => outside
  else outside
termination_by awaited.length
decreasing_by
  have := List.length_erase_of_mem ‹path ∈ awaited›
  have := List.length_pos_of_mem ‹path ∈ awaited›
  omega

/-- What a document can take from the environment. -/
def references (document : String) : List String :=
  match readMembers? document with
  | some members => (Tree.ofMembers members).awaited.map fun path => ".".intercalate path
  | none => []

def read? (environment : String → Option String) (document : String) : Option Setting := do
  let root := Tree.ofMembers (← readMembers? document)
  root.settle (find environment root root.awaited.eraseDups)

end Switchboard.Hocon
