import Switchboard.Json
import Switchboard.Numeral

/-! Compact JSON texts: no white space, and escapes only where a string cannot do without. -/
namespace Switchboard.Json

/-- A character as it stands in a string: quotes, backslashes and control characters escaped. -/
def escape (c : Char) : List Char :=
  if c = '"' then ['\\', '"']
  else if c = '\\' then ['\\', '\\']
  else if c = '\x08' then ['\\', 'b']
  else if c = '\x0c' then ['\\', 'f']
  else if c = '\n' then ['\\', 'n']
  else if c = '\r' then ['\\', 'r']
  else if c = '\t' then ['\\', 't']
  else if c < ' ' then
    ['\\', 'u', '0', '0', Text.hexDigit (c.toNat / 16), Text.hexDigit (c.toNat % 16)]
  else [c]

def writeString (value : String) : List Char := '"' :: value.toList.flatMap escape ++ ['"']

mutual

def writeChars : Json → List Char
  | null => "null".toList
  | bool true => "true".toList
  | bool false => "false".toList
  | integer value => (toString value).toList
  | decimal literal => literal.toList
  | string value => writeString value
  | array items => '[' :: writeItems items
  | object members => '\x7b' :: writeMembers members

def writeItems : List Json → List Char
  | [] => [']']
  | [item] => writeChars item ++ [']']
  | item :: rest => writeChars item ++ ',' :: writeItems rest

def writeMembers : List (String × Json) → List Char
  | [] => ['\x7d']
  | [(name, value)] => writeString name ++ ':' :: writeChars value ++ ['\x7d']
  | (name, value) :: rest =>
    writeString name ++ ':' :: writeChars value ++ ',' :: writeMembers rest

end

def write (value : Json) : String := String.ofList (writeChars value)

end Switchboard.Json
