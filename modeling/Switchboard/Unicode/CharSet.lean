import Switchboard.Numeral

/-! Sets of characters, kept as the code points at which membership changes. The Unicode standard
publishes its properties as ranges, of which there are few, and a Boolean operation on two sets
merges their changes. -/
namespace Switchboard.Unicode

/-- The code points at which membership changes, ascending. Before the first of them no code
point is a member. -/
structure CharSet where
  changes : Array Nat
deriving DecidableEq, Repr, Inhabited

namespace CharSet

def empty : CharSet := ⟨#[]⟩

/-- All characters: surrogates are code points but no characters. -/
def all : CharSet := ⟨#[0, 0xD800, 0xE000, 0x110000]⟩

def codes (first last : Nat) : CharSet := ⟨#[first, last + 1]⟩

/-- The characters from the first, which is not after the last, to the last. -/
def range (first last : Char) : CharSet := codes first.toNat last.toNat

def single (c : Char) : CharSet := range c c

/-- How many of the changes from number `low` up to and without number `high` lie at or before a
code point, added to `low`. -/
def rank (changes : Array Nat) (code low high : Nat) : Nat :=
  if low < high then
    let middle := low + (high - low) / 2
    match changes[middle]? with
    | some change =>
      if change ≤ code then rank changes code (middle + 1) high
      else rank changes code low middle
    | none => low
  else low
termination_by high - low
decreasing_by all_goals omega

/-- Whether an odd number of changes lie at or before the character. -/
def contains (set : CharSet) (c : Char) : Bool :=
  rank set.changes c.toNat 0 set.changes.size % 2 == 1

/-- Puts a change in front where membership differs before it and after it. -/
def note (before after : Bool) (code : Nat) (rest : List Nat) : List Nat :=
  if before == after then rest else code :: rest

/-- The changes of the set of which a code point is a member if `keep` says so, given its
membership in two sets. The first two Booleans tell the membership so far. -/
def merge (keep : Bool → Bool → Bool) (inLeft inRight : Bool) (left right : List Nat) : List Nat :=
  let before := keep inLeft inRight
  match left, right with
  | [], [] => []
  | first :: left, [] =>
    note before (keep (!inLeft) inRight) first (merge keep (!inLeft) inRight left [])
  | [], second :: right =>
    note before (keep inLeft !inRight) second (merge keep inLeft (!inRight) [] right)
  | first :: left, second :: right =>
    if first < second then
      note before (keep (!inLeft) inRight) first
        (merge keep (!inLeft) inRight left (second :: right))
    else if second < first then
      note before (keep inLeft !inRight) second
        (merge keep inLeft (!inRight) (first :: left) right)
    else
      note before (keep (!inLeft) !inRight) first (merge keep (!inLeft) (!inRight) left right)
termination_by left.length + right.length
decreasing_by all_goals (simp; try omega)

/-- The set of which a code point is a member if `keep` says so, given its membership in two
sets. What is in neither is never kept. -/
def combine (keep : Bool → Bool → Bool) (left right : CharSet) : CharSet :=
  ⟨(merge keep false false left.changes.toList right.changes.toList).toArray⟩

def union : CharSet → CharSet → CharSet := combine (· || ·)

def intersection : CharSet → CharSet → CharSet := combine (· && ·)

def difference : CharSet → CharSet → CharSet := combine fun inLeft inRight => inLeft && !inRight

def symmetricDifference : CharSet → CharSet → CharSet := combine (· != ·)

instance : Union CharSet := ⟨union⟩
instance : Inter CharSet := ⟨intersection⟩
instance : SDiff CharSet := ⟨difference⟩

def complement (set : CharSet) : CharSet := all \ set

def join (sets : List CharSet) : CharSet := sets.foldl union empty

/-- Leaves out changes that two and two cancel each other. -/
def cancel (changes : List Nat) : List Nat :=
  changes.foldr
    (fun change rest =>
      match rest with
      | next :: others => if change == next then others else change :: rest
      | [] => [change])
    []

def ofList (members : List Char) : CharSet :=
  let codes := (members.map Char.toNat).mergeSort.eraseReps
  ⟨(cancel (codes.flatMap fun code => [code, code + 1])).toArray⟩

/-- First and last code points of the ranges between the changes. -/
def rangesBetween : List Nat → List (Nat × Nat)
  | first :: next :: rest => (first, next - 1) :: rangesBetween rest
  | _ => []

def ranges (set : CharSet) : List (Nat × Nat) := rangesBetween set.changes.toList

/-- The changes of one range: two code points with a hyphen between them, or one alone. -/
def readRange (text : List Char) : List Nat :=
  let first := Text.hexValue (text.takeWhile (· != '-'))
  match text.dropWhile (· != '-') with
  | _ :: last => [first, Text.hexValue last + 1]
  | [] => [first, first + 1]

/-- Ranges separated by blanks, ascending and apart from one another. -/
def read (listing : String) : CharSet :=
  let words := listing.toList.splitOnP (fun c => c == ' ' || c == '\n')
  ⟨((words.filter (fun word => !word.isEmpty)).flatMap readRange).toArray⟩

end CharSet

end Switchboard.Unicode
