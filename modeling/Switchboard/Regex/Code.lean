import Switchboard.Numeral
import Switchboard.Regex.Automaton
import Switchboard.Regex.Footprint

/-! What the backtracking search executes. Parts of a pattern that lie in the regular fragment
become single steps that find their preferred match and never reconsider it, wherever the size of
a match or the place of the part allows that. -/
namespace Switchboard.Regex

open Unicode (CharSet)

inductive Code where
  | nothing
  | set (accepts : CharSet)
  /-- The preferred match of an automaton. It sets these groups anew. -/
  | regular (automaton : Automaton) (groups : List Nat)
  | sequence (parts : List Code)
  | choice (branches : List Code)
  | group (number : Nat) (body : Code)
  | optional (greedy : Bool) (body : Code)
  /-- Repetition without an upper bound of a body that takes text; `once` asks for one match. -/
  | loop (once greedy : Bool) (body : Code)
  /-- Repetition without an upper bound of a body that may take none. -/
  | guardedLoop (least : Nat) (greedy : Bool) (body : Code)
  | countedLoop (least most : Nat) (greedy : Bool) (body : Code)
  /-- Looks from the position that many characters back. -/
  | look (back : Nat) (negated : Bool) (body : Code)
  | backreference (group : Nat)
  | atomic (body : Code)
  | searchStart
  | groupMatched (group : Nat)
  | conditional (condition whenTrue whenFalse : Code)
deriving Inhabited

namespace Code

/-- One step for a regular pattern. -/
def ofPattern? (pattern : Pattern) : Option Code :=
  match pattern with
  | .set accepts => some (.set accepts)
  | _ =>
    if pattern.isManageable then some (.regular (Automaton.ofPattern pattern) pattern.groups)
    else none

/-- One step for regular patterns that follow one another, or nothing if there are none. -/
def ofParts? (parts : List Pattern) : Option (List Code) :=
  match parts with
  | [] => some []
  | [part] => (ofPattern? part).map ([·])
  | parts => (ofPattern? (.sequence parts)).map ([·])

/-- The repetition of a body that takes at least `size` characters. -/
def ofRepetition (least : Nat) (most : Option Nat) (greedy : Bool) (size : Nat) (body : Code) :
    Code :=
  match most with
  | none =>
    if size == 0 then .guardedLoop least greedy body
    else if least == 0 then .loop false greedy body
    else if least == 1 then .loop true greedy body
    else .countedLoop least (Word.limit - 1) greedy body
  | some most =>
    if least == 0 && most == 1 then .optional greedy body else .countedLoop least most greedy body

/-- The look-around of a body. Behind the position it can look only as far back as the body is
long. -/
def ofLook (behind negated : Bool) (pattern : Pattern) (body : Code) : Option Code :=
  if behind then
    if pattern.fixedSize then some (.look pattern.minSize negated body) else none
  else some (.look 0 negated body)

mutual

/-- Compiles a pattern. While `strict` holds something follows that may send the search back, so
a regular pattern is a single step only if its size is fixed. Fails on look-behind of variable
length and on regular parts for which no automaton can be made. -/
def compile (strict : Bool) : Pattern → Option Code
  | .empty => some .nothing
  | .set accepts => some (.set accepts)
  | .anchor kind => ofPattern? (.anchor kind)
  | .sequence parts =>
    if !strict && !Pattern.anyIrregular parts then (ofParts? parts).map .sequence
    else do
      let plain (part : Pattern) : Bool := !part.irregular
      let fixed (part : Pattern) : Bool := part.fixedSize && plain part
      let front := parts.takeWhile fixed
      let after := (parts.drop front.length).reverse
      let back := after.takeWhile fun part => if strict then fixed part else plain part
      let codes ← compileInner front.length (after.length - back.length) parts
      return .sequence ((← ofParts? front) ++ codes ++ (← ofParts? back.reverse))
  | .choice branches =>
    if !strict && !Pattern.anyIrregular branches then ofPattern? (.choice branches)
    else (compileEach strict branches).map .choice
  | .group number body =>
    if !strict && !body.irregular then ofPattern? (.group number body)
    else (compile strict body).map (.group number)
  | .repeated body least most greedy =>
    if !strict && !body.irregular then ofPattern? (.repeated body least most greedy)
    else
      let single := least == 0 && most == some 1
      let code :=
        if single || !body.irregular then compile strict body else compile true body
      code.map (ofRepetition least most greedy body.minSize)
  | .look behind negated body =>
    if behind && !body.fixedSize && body matches .choice _ then
      (compileApart negated body).map fun looks =>
        if negated then .sequence looks else .choice looks
    else (compile false body).bind (ofLook behind negated body)
  | .backreference number => some (.backreference number)
  | .atomic body => (compile false body).map .atomic
  | .resetStart => some .nothing
  | .searchStart => some .searchStart
  | .groupMatched number => some (.groupMatched number)
  | .conditional condition whenTrue whenFalse => do
    return .conditional (← compile strict condition) (← compile strict whenTrue)
      (← compile strict whenFalse)

def compileEach (strict : Bool) : List Pattern → Option (List Code)
  | [] => some []
  | pattern :: rest => do return (← compile strict pattern) :: (← compileEach strict rest)

/-- Compiles so many parts of a sequence, after passing over some. -/
def compileInner (passed count : Nat) : List Pattern → Option (List Code)
  | [] => some []
  | pattern :: rest =>
    match passed, count with
    | passed + 1, count => compileInner passed count rest
    | 0, 0 => some []
    | 0, count + 1 => do return (← compile true pattern) :: (← compileInner 0 count rest)

/-- Looks behind for each branch of a choice by itself. -/
def compileApart (negated : Bool) : Pattern → Option (List Code)
  | .choice branches => compileLooks negated branches
  | _ => none

def compileLooks (negated : Bool) : List Pattern → Option (List Code)
  | [] => some []
  | pattern :: rest => do
    let body ← compile false pattern
    return (← ofLook true negated pattern body) :: (← compileLooks negated rest)

end

end Code

end Switchboard.Regex
