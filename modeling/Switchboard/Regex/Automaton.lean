import Std.Data.HashSet
import Switchboard.Regex.Pattern
import Switchboard.Unicode.Property

/-! Automata for the regular fragment. A match is looked for by following threads in the order in
which a backtracking search would try them. Where a thread can go on depends only on its state and
position, so a state that has been at a position before is not tried there again. -/
namespace Switchboard.Regex

/-- The first place at which a group begins in a match, and the place behind its end, each under
a number of its own. The latest come first; a group that has been forgotten is at no place. -/
abbrev Marks := List (Nat × Option Nat)

namespace Marks

def opening (group : Nat) : Nat := 2 * group

def closing (group : Nat) : Nat := 2 * group + 1

def at? (marks : Marks) (number : Nat) : Option Nat := (marks.lookup number).join

/-- The marks with those of some groups as they are in other marks. -/
def replace (marks : Marks) (groups : List Nat) (others : Marks) : Marks :=
  groups.foldl
    (fun marks group =>
      (closing group, others.at? (closing group)) ::
        (opening group, others.at? (opening group)) :: marks)
    marks

end Marks

def Anchor.holdsAt (anchor : Anchor) (text : Array Char) (position : Nat) : Bool :=
  match anchor with
  | textStart | onlyLineStart => position == 0
  | textEnd | onlyLineEnd => position == text.size
  | lineStart => position == 0 || text[position - 1]? == some '\n'
  | lineEnd => position == text.size || text[position]? == some '\n'
  | wordBoundary => wordBefore != wordAfter
  | insideWord => wordBefore == wordAfter
where
  wordBefore : Bool := position != 0 && (text[position - 1]?).any Unicode.word.contains
  wordAfter : Bool := (text[position]?).any Unicode.word.contains

/-- What a state does, and the states with which it goes on. -/
inductive Automaton.State where
  | take (accepts : Unicode.CharSet) (next : Nat)
  | hold (anchor : Anchor) (next : Nat)
  | mark (number next : Nat)
  /-- Goes on with either state, the first one preferred. -/
  | fork (nexts : List Nat)
  | accept
deriving Inhabited

def Automaton.State.degree : Automaton.State → Nat
  | fork nexts => nexts.length
  | _ => 1

structure Automaton where
  states : Array Automaton.State
  start : Nat
  /-- How many states can follow the states, taken together. -/
  degree : Nat := states.foldl (fun sum state => sum + state.degree) 0
deriving Inhabited

namespace Automaton

/-! ## Building -/

abbrev Building := StateM (Array State)

def add (state : State) : Building Nat := modifyGet fun states => (states.size, states.push state)

def branch (greedy : Bool) (goOn leave : Nat) : State :=
  .fork (if greedy then [goOn, leave] else [leave, goOn])

/-- Adds a body after which it can be entered again. Yields the state that chooses and the one
that begins the body. -/
def addLoop (greedy : Bool) (body : Nat → Building Nat) (next : Nat) : Building (Nat × Nat) := do
  let choice ← add .accept
  let start ← body choice
  modify fun states => states.setIfInBounds choice (branch greedy start next)
  return (choice, start)

def addCopies (body : Nat → Building Nat) : Nat → Nat → Building Nat
  | 0, next => return next
  | count + 1, next => do addCopies body count (← body next)

/-- Adds at most so many copies, each of which may be the last. -/
def addOptions (greedy : Bool) (body : Nat → Building Nat) (next : Nat) : Nat → Building Nat
  | 0 => return next
  | count + 1 => do
    let rest ← addOptions greedy body next count
    let start ← body rest
    add (branch greedy start next)

/-- Adds a repetition. A body that may take no text is repeated at least once or left out, so that
the order of preference is that of a backtracking search. -/
def addRepetition (least : Nat) (most : Option Nat) (greedy mayBeEmpty : Bool)
    (body : Nat → Building Nat) (next : Nat) : Building Nat :=
  match most, least with
  | none, 0 => do
    let (choice, start) ← addLoop greedy body next
    if mayBeEmpty then add (branch greedy start next) else return choice
  | none, least + 1 => do
    let (_, start) ← addLoop greedy body next
    addCopies body least start
  | some most, least => do
    addCopies body least (← addOptions greedy body next (most - least))

mutual

/-- Adds the states of a regular pattern that go on with `next`, and yields the first one. -/
def addPattern : Pattern → Nat → Building Nat
  | .empty, next => return next
  | .set accepts, next => add (.take accepts next)
  | .anchor kind, next => add (.hold kind next)
  | .sequence parts, next => addSequence parts next
  | .choice branches, next => do add (.fork (← addBranches branches next))
  | .group number body, next => do
    let last ← add (.mark (Marks.closing number) next)
    let first ← addPattern body last
    add (.mark (Marks.opening number) first)
  | .repeated body least most greedy, next =>
    let (least, most) :=
      if body.takesNothing then (min least 1, some (min (most.getD 1) 1)) else (least, most)
    addRepetition least most greedy (body.minSize == 0) (fun next => addPattern body next) next
  | .look .., _ | .backreference _, _ | .atomic _, _ | .resetStart, _ | .searchStart, _
  | .groupMatched _, _ | .conditional .., _ => add (.fork [])

def addSequence : List Pattern → Nat → Building Nat
  | [], next => return next
  | part :: rest, next => do addPattern part (← addSequence rest next)

def addBranches : List Pattern → Nat → Building (List Nat)
  | [], _ => return []
  | branch :: rest, next => do
    let first ← addPattern branch next
    return first :: (← addBranches rest next)

end

/-- The automaton of a regular pattern. Other patterns never match. -/
def ofPattern (pattern : Pattern) : Automaton :=
  let (start, states) := (addPattern pattern 0).run #[.accept]
  { states, start }

/-! ## Running -/

structure Thread where
  state : Nat
  position : Nat
  marks : Marks := []

/-- Follows threads until one accepts, and yields its position and marks. Each state is entered
once at each position, which bounds the fuel. -/
def follow (automaton : Automaton) (text : Array Char) :
    Nat → Std.HashSet Nat → List Thread → Option (Nat × Marks)
  | 0, _, _ => none
  | _, _, [] => none
  | fuel + 1, visited, thread :: rest =>
    let place := thread.position * automaton.states.size + thread.state
    if visited.contains place then follow automaton text fuel visited rest
    else
      let goOn := follow automaton text fuel (visited.insert place)
      match automaton.states[thread.state]? with
      | some (.take accepts next) =>
        if (text[thread.position]?).any accepts.contains then
          goOn ({ thread with state := next, position := thread.position + 1 } :: rest)
        else goOn rest
      | some (.hold anchor next) =>
        if anchor.holdsAt text thread.position then goOn ({ thread with state := next } :: rest)
        else goOn rest
      | some (.mark number next) =>
        goOn ({ thread with
          state := next, marks := (number, some thread.position) :: thread.marks } :: rest)
      | some (.fork nexts) => goOn (nexts.map (fun next => { thread with state := next }) ++ rest)
      | some .accept => some (thread.position, thread.marks)
      | none => goOn rest

/-- The preferred match among those that begin at one of the positions, the first preferred. -/
def matchFrom? (automaton : Automaton) (text : Array Char) (positions : List Nat) :
    Option (Nat × Marks) :=
  follow automaton text ((text.size + 1) * automaton.degree + positions.length + 1) ∅
    (positions.map fun position => { state := automaton.start, position })

def occursIn (automaton : Automaton) (text : Array Char) : Bool :=
  (automaton.matchFrom? text (List.range (text.size + 1))).isSome

end Automaton

end Switchboard.Regex
