import Switchboard.Account
import Switchboard.Filter.History
import Switchboard.IdMap

/-! What filters remember of the accounts they have seen. A filter owns a numbered slot, so its
histories outlast its place in a chain, and no two filters share one by accident. -/
namespace Switchboard

/-- Histories by slot and by account; what was never kept is the empty history. -/
structure Histories (α : Type u) where
  slots : IdMap (IdMap (List α)) := .empty
deriving Inhabited

namespace Histories

variable {α : Type u}

def get (histories : Histories α) (slot : Nat) (id : AccountId) : List α :=
  ((histories.slots.get? slot).bind (·.get? id)).getD []

def keep (histories : Histories α) (slot : Nat) (id : AccountId) (history : List α) :
    Histories α :=
  let accounts := (histories.slots.get? slot).getD .empty
  ⟨histories.slots.insert slot (accounts.insert id history)⟩

variable (histories : Histories α) (slot : Nat) (id : AccountId) (history : List α)

theorem get_keep_self : (histories.keep slot id history).get slot id = history := by
  simp [get, keep, IdMap.get?_insert_self]

/-- What is kept of one account leaves the others alone. -/
theorem get_keep_of_ne {other : AccountId} (differs : other ≠ id) :
    (histories.keep slot id history).get slot other = histories.get slot other := by
  simp only [get, keep, IdMap.get?_insert_self, Option.bind_some]
  rw [IdMap.get?_insert_of_ne _ _ differs]
  cases histories.slots.get? slot <;> rfl

end Histories

structure Memory where
  utterances : Histories Utterance := {}
  times : Histories Nat := {}
deriving Inhabited

end Switchboard
