import Switchboard.Json
import Switchboard.Numeral
import Switchboard.Size

/-! Settings as trees. Scalars are kept as they are written, and a number or truth value is also
a text, so that what a setting means is left to whoever reads it. -/
namespace Switchboard

inductive Setting where
  | null
  | bool (value : Bool)
  | integer (value : Int)
  /-- A number that is not a whole one of 64 bits, as it is to be written. -/
  | decimal (digits : String)
  | text (value : String)
  | list (items : List Setting)
  | table (entries : List (String × Setting))
  /-- Stands for a setting that is referred to and does not exist. -/
  | missing
deriving Repr, Inhabited

namespace Setting

mutual

def ofJson : Json → Setting
  | .null => null
  | .bool value => bool value
  | .integer value => integer value
  | .decimal literal => decimal literal
  | .string value => text value
  | .array items => list (ofItems items)
  | .object members => table (ofMembers members)

def ofItems : List Json → List Setting
  | [] => []
  | item :: rest => ofJson item :: ofItems rest

def ofMembers : List (String × Json) → List (String × Setting)
  | [] => []
  | (name, value) :: rest => (name, ofJson value) :: ofMembers rest

end

def entries : Setting → List (String × Setting)
  | table entries => entries
  | _ => []

def get? (setting : Setting) (name : String) : Option Setting := setting.entries.lookup name

def at? (setting : Setting) : List String → Option Setting
  | [] => some setting
  | name :: rest => (setting.get? name).bind (·.at? rest)

/-- Entries with `name` bound to `value`, in its old place if it has one. -/
def place (name : String) (value : α) : List (String × α) → List (String × α)
  | [] => [(name, value)]
  | (key, old) :: rest =>
    if key = name then (name, value) :: rest else (key, old) :: place name value rest

mutual

/-- What comes of two settings in one place: the later one, except that two tables merge. -/
def merge (base : Setting) : Setting → Setting
  | table entries => table (mergeEntries base.entries entries)
  | later => later

def mergeEntries (base : List (String × Setting)) :
    List (String × Setting) → List (String × Setting)
  | [] => base
  | (name, value) :: rest =>
    mergeEntries (place name (merge ((base.lookup name).getD null) value) base) rest

end

/-- A truth value, in any of the words for it. -/
def bool? : Setting → Option Bool
  | bool value => some value
  | text value =>
    if ["true", "yes", "on"].contains value then some true
    else if ["false", "no", "off"].contains value then some false
    else none
  | _ => none

/-- A whole number with its sign that fits 64 bits. -/
def wholeNumber? (value : String) : Option Int :=
  let (negative, digits) :=
    match value.toList with
    | '-' :: digits => (true, digits)
    | '+' :: digits => (false, digits)
    | digits => (false, digits)
  let magnitude : Int := Nat.ofDigitChars 10 digits 0
  let number := if negative then -magnitude else magnitude
  if digits.isEmpty || !digits.all Char.isDigit then none
  else if Word.fitsSigned number then some number
  else none

/-- A count, which may be written as a text, and then also as a size. -/
def nat? : Setting → Option Nat
  | integer value => if 0 ≤ value then some value.toNat else none
  | text value =>
    match wholeNumber? value with
    | some number => if 0 ≤ number then some number.toNat else none
    | none => Size.read? value
  | _ => none

/-- A text, for which any scalar will do. -/
def text? : Setting → Option String
  | text value => some value
  | bool true => some "true"
  | bool false => some "false"
  | integer value => some (toString value)
  | decimal digits => some digits
  | _ => none

/-- The entries of a table whose names are numbers, by the order of these. -/
def numbered (entries : List (String × Setting)) : List Setting :=
  let positions := entries.filterMap fun (name, value) =>
    (wholeNumber? name).map fun position => (position, value)
  (positions.mergeSort fun left right => left.1 ≤ right.1).map (·.2)

/-- A list, which can also be a table with the positions as names. -/
def list? (read : Setting → Option α) : Setting → Option (List α)
  | list items => items.mapM read
  | table entries => (numbered entries).mapM read
  | _ => none

/-- A table all of whose entries are of one kind. -/
def table? (read : Setting → Option α) : Setting → Option (List (String × α))
  | table entries => entries.mapM fun entry => (read entry.2).map fun value => (entry.1, value)
  | _ => none

/-- An entry of a table; without it, its default. -/
def field? (setting : Setting) (name : String) (default : α) (read : Setting → Option α) :
    Option α :=
  match setting with
  | table entries =>
    match entries.lookup name with
    | some value => read value
    | none => some default
  | _ => none

/-- A part of the settings that is a table of its own; without it, an empty one. -/
def section? (setting : Setting) (name : String) : Option Setting :=
  setting.field? name (table []) fun value =>
    match value with
    | table entries => some (table entries)
    | _ => none

end Setting

end Switchboard
