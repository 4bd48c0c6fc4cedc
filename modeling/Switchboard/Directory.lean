import Switchboard.Account
import Switchboard.IdMap

/-! The accounts connected at a moment, enumerated in ascending id order. That each stands under
its own id is part of the type, so nobody is connected twice. -/
namespace Switchboard

structure Directory where
  byId : IdMap Account
  keyed : ∀ entry ∈ byId.entries, entry.2.id = entry.1

namespace Directory

def empty : Directory := ⟨.empty, by simp [IdMap.empty]⟩

instance : Inhabited Directory := ⟨empty⟩

def get? (directory : Directory) (id : AccountId) : Option Account := directory.byId.get? id

def contains (directory : Directory) (id : AccountId) : Bool := directory.byId.contains id

def accounts (directory : Directory) : List Account := directory.byId.values

def size (directory : Directory) : Nat := directory.byId.size

/-- Registers an account in place of any earlier one with its id. -/
def connect (directory : Directory) (account : Account) : Directory where
  byId := directory.byId.insert account.id account
  keyed := by
    intro entry member
    rcases IdMap.mem_place member with same | earlier
    · rw [same]
    · exact directory.keyed entry earlier

def disconnect (directory : Directory) (id : AccountId) : Directory where
  byId := directory.byId.erase id
  keyed := fun entry member => directory.keyed entry (List.mem_filter.mp member).1

/-- Changes a connected account; a directory without `id` stays as it is. -/
def modify (directory : Directory) (id : AccountId) (change : Account → Account) : Directory :=
  match directory.get? id with
  | some account => directory.connect (change account)
  | none => directory

def permits (directory : Directory) (id : AccountId) (permission : Permission) : Bool :=
  (directory.get? id).any (·.holds permission)

def ignores (directory : Directory) (id other : AccountId) : Bool :=
  (directory.get? id).any (·.ignores other)

theorem contains_eq_isSome (directory : Directory) (id : AccountId) :
    directory.contains id = (directory.get? id).isSome := rfl

theorem mem_accounts_iff {directory : Directory} {account : Account} :
    account ∈ directory.accounts ↔ directory.get? account.id = some account := by
  rw [get?, IdMap.get?_eq_some_iff, accounts, IdMap.values, List.mem_map]
  constructor
  · rintro ⟨⟨key, _⟩, member, rfl⟩
    have same := directory.keyed _ member
    exact same ▸ member
  · intro member
    exact ⟨_, member, rfl⟩

theorem id_of_get? {directory : Directory} {id : AccountId} {account : Account}
    (found : directory.get? id = some account) : account.id = id :=
  directory.keyed _ (IdMap.get?_eq_some_iff.mp found)

theorem get?_connect_self (directory : Directory) (account : Account) :
    (directory.connect account).get? account.id = some account :=
  directory.byId.get?_insert_self account.id account

/-- Nobody is connected twice, and accounts are enumerated in ascending order of their ids. -/
theorem accounts_ascending (directory : Directory) :
    directory.accounts.Pairwise (fun a b => a.id < b.id) := by
  rw [accounts, IdMap.values, List.pairwise_map]
  refine directory.byId.ascending.imp_of_mem ?_
  intro first second here there before
  rwa [directory.keyed _ here, directory.keyed _ there]

end Directory

end Switchboard
