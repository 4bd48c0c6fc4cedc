import Switchboard.Regex.Pattern
import Switchboard.Unicode.Utf8

/-! The memory that an automaton over bytes would take for a regular pattern. A pattern that takes
too much is refused, and so is one with bounds that cannot be met. -/
namespace Switchboard.Regex

open Unicode (CharSet Utf8.forwardDegrees Utf8.backwardStates Utf8.ofSet Utf8.bytes)

/-- The memory of the parts of an automaton, in bytes. -/
structure Footprint where
  ofSet : CharSet → Nat
  ofGroup : Nat

namespace Footprint

def state : Nat := 32

def fork (count : Nat) : Nat := state + 4 * count

def limit : Nat := 10 * 1024 * 1024

def isAscii (set : CharSet) : Bool := set.ranges.all fun range => range.2 < 128

/-- The one member of a set, if there is no other. -/
def onlyMember? (set : CharSet) : Option Nat :=
  match set.ranges with
  | [(first, last)] => if first == last then some first else none
  | _ => none

/-- A set that is read forwards: the bytes of its only member, one state for ASCII, or an
automaton of its own. -/
def forwardSet (set : CharSet) : Nat :=
  match onlyMember? set with
  | some code => state * (Utf8.bytes code).length
  | none =>
    if isAscii set then 2 * state + 8 * set.ranges.length
    else
      (Utf8.forwardDegrees set).foldl (fun sum degree => sum + state + 8 * degree) state

def backwardSet (set : CharSet) : Nat :=
  match onlyMember? set with
  | some code => state * (Utf8.bytes code).length
  | none =>
    if isAscii set then 2 * state + 8 * set.ranges.length
    else state + fork (Utf8.ofSet set).length + state * Utf8.backwardStates set

/-- No range of characters needs more than seven sequences of four states. -/
def roughSet (set : CharSet) : Nat := 2 * state + 7 * 4 * 2 * state * set.ranges.length

def forward : Footprint := ⟨forwardSet, 2 * state⟩

/-- Read backwards, groups are not noted. -/
def backward : Footprint := ⟨backwardSet, 0⟩

/-- At least as much as in either direction. -/
def rough : Footprint := ⟨roughSet, 2 * state⟩

def ofRepetition (least : Nat) (most : Option Nat) (mayBeEmpty : Bool) (body : Nat) : Nat :=
  match most with
  | none =>
    if least == 0 then
      if mayBeEmpty then body + 2 * fork 2 + state else body + fork 2
    else least * body + fork 2
  | some most =>
    if most == 0 then state
    else if most == least then least * body
    else least * body + (most - least) * (body + fork 2) + state

mutual

def ofPattern (cost : Footprint) : Pattern → Nat
  | .set accepts => cost.ofSet accepts
  | .sequence parts => ofAll cost parts
  | .choice branches => ofAll cost branches + fork branches.length + state
  | .group _ body => ofPattern cost body + cost.ofGroup
  | .repeated body least most _ =>
    let (least, most) :=
      if body.takesNothing then (min least 1, some (min (most.getD 1) 1)) else (least, most)
    ofRepetition least most (body.minSize == 0) (ofPattern cost body)
  | .empty | .anchor _ | .look .. | .backreference _ | .atomic _ | .resetStart | .searchStart
  | .groupMatched _ | .conditional .. => state

def ofAll (cost : Footprint) : List Pattern → Nat
  | [] => 0
  | part :: rest => ofPattern cost part + ofAll cost rest

end

/-- What an automaton has beside the states of its pattern: a place to begin, to end, and to pass
over what stands before the match. -/
def frame : Nat := 5 * state

def fits (pattern : Pattern) : Bool :=
  ofPattern rough pattern + frame ≤ limit ||
    (ofPattern forward pattern + frame ≤ limit && ofPattern backward pattern + frame ≤ limit)

end Footprint

namespace Pattern

mutual

/-- Whether every repetition has bounds that can be met and that fit 32 bits, which the regular
fragment requires. -/
def bounded : Pattern → Bool
  | sequence parts | choice parts => allBounded parts
  | group _ body | atomic body | look _ _ body => bounded body
  | repeated body least most _ =>
    bounded body && least ≤ most.getD least && most.getD least < 0x100000000
  | conditional condition whenTrue whenFalse =>
    bounded condition && bounded whenTrue && bounded whenFalse
  | empty | set _ | anchor _ | backreference _ | resetStart | searchStart | groupMatched _ => true

def allBounded : List Pattern → Bool
  | [] => true
  | part :: rest => bounded part && allBounded rest

end

def isManageable (pattern : Pattern) : Bool := pattern.bounded && Footprint.fits pattern

end Pattern

end Switchboard.Regex
