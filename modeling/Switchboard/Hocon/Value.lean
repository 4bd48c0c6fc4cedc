import Switchboard.Setting

/-! The values of HOCON documents as they are written. -/
namespace Switchboard.Hocon

inductive Part where
  | setting (value : Setting)
  | reference (path : List String) (optional : Bool)
deriving Repr, Inhabited

inductive Value where
  /-- Parts side by side; a single one stands for itself. -/
  | plain (parts : List Part)
  /-- Members in order. One without a name is about the table itself. -/
  | table (members : List (List String × Value))
  | list (items : List Value)
  /-- Within a list, all the items of another one. -/
  | spread (path : List String)
deriving Repr, Inhabited

/-- A value for the path to which it belongs. -/
abbrev Member := List String × Value

/-- The empty table, which replaces what was at its place. -/
def Value.emptied : Value := plain [.setting (.table [])]

end Switchboard.Hocon
