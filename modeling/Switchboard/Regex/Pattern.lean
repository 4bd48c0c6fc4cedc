import Switchboard.Unicode.CharSet

/-! Patterns as they are written, and the two measures that decide how they are matched: how
much text a pattern takes, and whether it lies in the regular fragment. -/
namespace Switchboard.Regex

open Unicode (CharSet)

/-- A condition on a position that takes no text. -/
inductive Anchor where
  | textStart
  | textEnd
  | lineStart
  | lineEnd
  /-- The start and the end of a line, where the whole text counts as one line. -/
  | onlyLineStart
  | onlyLineEnd
  | wordBoundary
  | insideWord
deriving DecidableEq, Repr

inductive Pattern where
  | empty
  | set (accepts : CharSet)
  | anchor (anchor : Anchor)
  | sequence (parts : List Pattern)
  | choice (branches : List Pattern)
  | group (number : Nat) (body : Pattern)
  | repeated (body : Pattern) (least : Nat) (most : Option Nat) (greedy : Bool)
  /-- Looks at the text ahead of the position, or behind it. -/
  | look (behind negated : Bool) (body : Pattern)
  | backreference (group : Nat)
  /-- Matches like its body but never changes its mind. -/
  | atomic (body : Pattern)
  /-- Moves the reported start of the match to here. -/
  | resetStart
  /-- The position at which the search began. -/
  | searchStart
  | groupMatched (group : Nat)
  | conditional (condition whenTrue whenFalse : Pattern)
deriving Inhabited

namespace Pattern

def isEmpty : Pattern → Bool
  | empty => true
  | _ => false

mutual

def minSize : Pattern → Nat
  | empty | anchor _ | look .. | backreference _ | resetStart | searchStart | groupMatched _ => 0
  | set _ => 1
  | sequence parts => totalSize parts
  | choice branches => leastSize branches
  | group _ body | atomic body => minSize body
  | repeated body least _ _ => minSize body * least
  | conditional condition whenTrue whenFalse =>
    minSize condition + min (minSize whenTrue) (minSize whenFalse)

def totalSize : List Pattern → Nat
  | [] => 0
  | part :: rest => minSize part + totalSize rest

def leastSize : List Pattern → Nat
  | [] => 0
  | [branch] => minSize branch
  | branch :: rest => min (minSize branch) (leastSize rest)

end

mutual

/-- Whether all matches take the same number of characters, as far as the shape shows. -/
def fixedSize : Pattern → Bool
  | empty | set _ | anchor _ | look .. | resetStart | searchStart | groupMatched _ => true
  | backreference _ => false
  | sequence parts => allFixed parts
  | choice [] => true
  | choice (branch :: rest) => fixedSize branch && allFixedAt (minSize branch) rest
  | group _ body | atomic body => fixedSize body
  | repeated body least most _ => fixedSize body && most == some least
  | conditional condition whenTrue whenFalse =>
    fixedSize condition && fixedSize whenTrue && fixedSize whenFalse &&
      minSize condition + minSize whenTrue == minSize whenFalse

def allFixed : List Pattern → Bool
  | [] => true
  | part :: rest => fixedSize part && allFixed rest

def allFixedAt (size : Nat) : List Pattern → Bool
  | [] => true
  | branch :: rest => fixedSize branch && minSize branch == size && allFixedAt size rest

end

mutual

/-- Whether no match takes any text, as far as the shape shows. -/
def takesNothing : Pattern → Bool
  | set _ | backreference _ => false
  | empty | anchor _ | look .. | resetStart | searchStart | groupMatched _ => true
  | sequence parts | choice parts => allTakeNothing parts
  | group _ body | atomic body => takesNothing body
  | repeated body _ most _ => most == some 0 || takesNothing body
  | conditional condition whenTrue whenFalse =>
    takesNothing condition && takesNothing whenTrue && takesNothing whenFalse

def allTakeNothing : List Pattern → Bool
  | [] => true
  | part :: rest => takesNothing part && allTakeNothing rest

end

mutual

def irregular : Pattern → Bool
  | empty | set _ | anchor _ => false
  | sequence parts | choice parts => anyIrregular parts
  | group _ body | repeated body _ _ _ => irregular body
  | look .. | backreference _ | atomic _ | resetStart | searchStart | groupMatched _
  | conditional .. => true

def anyIrregular : List Pattern → Bool
  | [] => false
  | part :: rest => irregular part || anyIrregular rest

end

mutual

def groups : Pattern → List Nat
  | empty | set _ | anchor _ | backreference _ | resetStart | searchStart | groupMatched _ => []
  | sequence parts | choice parts => groupsOfAll parts
  | group number body => number :: groups body
  | repeated body _ _ _ | look _ _ body | atomic body => groups body
  | conditional condition whenTrue whenFalse =>
    groups condition ++ groups whenTrue ++ groups whenFalse

def groupsOfAll : List Pattern → List Nat
  | [] => []
  | part :: rest => groups part ++ groupsOfAll rest

end

end Pattern

end Switchboard.Regex
