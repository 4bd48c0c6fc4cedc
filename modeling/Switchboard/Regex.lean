import Switchboard.Regex.Machine
import Switchboard.Regex.Reader

/-! Regular expressions with look-around, backreferences and atomic groups, as far as it can be
asked whether a text has a match. -/
namespace Switchboard

inductive Regex where
  | regular (automaton : Regex.Automaton)
  | backtracking (code : Regex.Code)
deriving Inhabited

namespace Regex

/-- The expression a text stands for; none if it is malformed. -/
def read? (text : String) : Option Regex :=
  match Reading.readPattern? text with
  | some pattern =>
    if pattern.irregular then (Code.compile true pattern).map .backtracking
    else if pattern.isManageable then some (.regular (Automaton.ofPattern pattern))
    else none
  | none => none

def occursIn (regex : Regex) (text : String) : Bool :=
  let characters := text.toList.toArray
  match regex with
  | regular automaton => automaton.occursIn characters
  | backtracking code => (Search.start code).succeeds characters Search.maxSteps

end Regex

end Switchboard
