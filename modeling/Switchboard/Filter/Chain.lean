/-! Chains of named filters in ascending priority. Filters of one priority stand in the order in
which they were registered. -/
namespace Switchboard

structure Entry (φ : Type u) where
  key : String
  priority : Int
  filter : φ
deriving Repr

structure Chain (φ : Type u) where
  entries : List (Entry φ) := []
deriving Repr, Inhabited

namespace Chain

variable {φ : Type u}

def empty : Chain φ := {}

/-- Puts an entry after all that are to run no later than it. -/
def place (entry : Entry φ) : List (Entry φ) → List (Entry φ)
  | [] => [entry]
  | first :: rest =>
    if first.priority ≤ entry.priority then first :: place entry rest
    else entry :: first :: rest

def without (key : String) (entries : List (Entry φ)) : List (Entry φ) :=
  entries.filter (fun entry => entry.key != key)

/-- Registers a filter under a key, in place of any earlier one. -/
def insert (chain : Chain φ) (key : String) (priority : Int) (filter : φ) : Chain φ :=
  ⟨place ⟨key, priority, filter⟩ (without key chain.entries)⟩

def contains (chain : Chain φ) (key : String) : Bool :=
  chain.entries.any (fun entry => entry.key == key)

def erase (chain : Chain φ) (key : String) : Chain φ := ⟨without key chain.entries⟩

/-- Removes the filter under a key and tells whether there was one. -/
def remove (chain : Chain φ) (key : String) : Bool × Chain φ :=
  (chain.contains key, chain.erase key)

def keys (chain : Chain φ) : List String := chain.entries.map (·.key)

def size (chain : Chain φ) : Nat := chain.entries.length

def isEmpty (chain : Chain φ) : Bool := chain.entries.isEmpty

end Chain

end Switchboard
