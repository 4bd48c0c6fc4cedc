import Switchboard.Unicode.CharSet

/-! The named classes of the portable operating system standard, over ASCII. -/
namespace Switchboard.Regex.Posix

open Unicode (CharSet)

def letter : CharSet := .range 'A' 'Z' ∪ .range 'a' 'z'

def alphanumeric : CharSet := letter ∪ .range '0' '9'

def visible : CharSet := .range '!' '~'

def hexDigit : CharSet := .join [.range '0' '9', .range 'A' 'F', .range 'a' 'f']

def class? : String → Option CharSet
  | "alnum" => some alphanumeric
  | "alpha" => some letter
  | "ascii" => some (.codes 0 127)
  | "blank" => some (.ofList [' ', '\t'])
  | "cntrl" => some (.codes 0 31 ∪ .codes 127 127)
  | "digit" => some (.range '0' '9')
  | "graph" => some visible
  | "lower" => some (.range 'a' 'z')
  | "print" => some (.range ' ' '~')
  | "punct" => some (visible \ alphanumeric)
  | "space" => some (.codes 9 13 ∪ .single ' ')
  | "upper" => some (.range 'A' 'Z')
  | "word" => some (alphanumeric ∪ .single '_')
  | "xdigit" => some hexDigit
  | _ => none

end Switchboard.Regex.Posix
