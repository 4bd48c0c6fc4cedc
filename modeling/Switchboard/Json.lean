/-! Values of JSON texts. Objects keep their members in the order in which they are written,
repeated names included. -/
namespace Switchboard

inductive Json where
  | null
  | bool (value : Bool)
  /-- A number written without fraction and exponent that fits 64 bits. -/
  | integer (value : Int)
  /-- Any other number, as it is written. -/
  | decimal (literal : String)
  | string (value : String)
  | array (items : List Json)
  | object (members : List (String × Json))
deriving BEq, Repr, Inhabited

namespace Json

def ofNat (value : Nat) : Json := integer value

def ofOption (encode : α → Json) : Option α → Json
  | some value => encode value
  | none => null

/-- A choice without content, which is written as its name, or as an object whose only member
has that name and is null. -/
def choice? : Json → Option String
  | string name | object [(name, null)] => some name
  | _ => none

def member? : Json → String → Option Json
  | object members, name => members.reverse.lookup name
  | _, _ => none

end Json

end Switchboard
