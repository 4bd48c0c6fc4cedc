import Std.Data.HashSet
import Switchboard.Unicode.CharSet

/-! Sets of characters as sets of byte sequences. In UTF-8 a range of characters becomes a few
sequences of byte ranges, and automata over bytes read these forwards or backwards. -/
namespace Switchboard.Unicode.Utf8

/-- A sequence of byte ranges; it stands for every choice of one byte from each. -/
abbrev ByteRanges := List (Nat × Nat)

/-- First and last codes of the blocks within which all characters have equally many bytes. -/
def blocks : List (Nat × Nat) :=
  [(0, 0x7F), (0x80, 0x7FF), (0x800, 0xD7FF), (0xE000, 0xFFFF), (0x10000, 0x10FFFF)]

/-- Cuts a range where a leading byte changes and the bytes after it do not run through all
values. The widths are those of one, two and three trailing bytes. -/
def cut : List Nat → Nat → Nat → List (Nat × Nat)
  | [], first, last => [(first, last)]
  | width :: wider, first, last =>
    if first / width == last / width then [(first, last)]
    else
      let inner := (first + width - 1) / width * width
      let beyond := (last + 1) / width * width
      (if first < inner then [(first, inner - 1)] else []) ++
        (if inner < beyond then cut wider inner (beyond - 1) else []) ++
        (if beyond ≤ last then [(beyond, last)] else [])

def bytes (code : Nat) : List Nat := (String.utf8EncodeChar (Char.ofNat code)).map (·.toNat)

def ofRange (range : Nat × Nat) : List ByteRanges :=
  blocks.flatMap fun block =>
    let first := max range.1 block.1
    let last := min range.2 block.2
    if first ≤ last then
      (cut [0x40, 0x1000, 0x40000] first last).map fun piece =>
        (bytes piece.1).zip (bytes piece.2)
    else []

def ofSet (set : CharSet) : List ByteRanges := set.ranges.flatMap ofRange

/-- The states that a state leads to, where a state is what can still be read. Only neighbours
can begin with the same range. -/
def successors (state : List ByteRanges) : List (List ByteRanges) :=
  (state.splitBy fun one other => one.head? == other.head?).map fun group => group.map List.tail

/-- The different states of an automaton that reads forwards, by the number of bytes read. The
last state, in which nothing is left to read, does not count. -/
def forwardStates : Nat → List (List ByteRanges) → List (List ByteRanges)
  | 0, states => states
  | rounds + 1, states =>
    let next := (states.flatMap successors).filter fun state => state != [[]]
    (states ++ forwardStates rounds next.eraseDups).eraseDups

/-- The states of a forward automaton with the number of transitions from each. -/
def forwardDegrees (set : CharSet) : List Nat :=
  (forwardStates 3 [ofSet set]).map fun state => (successors state).length

/-- How many different beginnings the sequences have. An automaton that reads backwards shares
its states between sequences that begin alike. -/
def backwardStates (set : CharSet) : Nat :=
  let beginnings := (ofSet set).flatMap fun sequence =>
    (List.range sequence.length).map fun count => sequence.take (count + 1)
  (Std.HashSet.ofList beginnings).size

end Switchboard.Unicode.Utf8
