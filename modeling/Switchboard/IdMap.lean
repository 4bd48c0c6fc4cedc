/-! Finite maps from numeric ids to values, listed in ascending id order. The order is part of
the type, so two maps with the same entries are the same map and every enumeration of one is
ascending without further proof. -/
namespace Switchboard

structure IdMap (α : Type u) where
  entries : List (Nat × α)
  ascending : entries.Pairwise (fun a b => a.1 < b.1)

namespace IdMap

variable {α : Type u}

/-- Entries with `id` bound to `value`: in place of its old entry, or where its order puts it. -/
def place (id : Nat) (value : α) : List (Nat × α) → List (Nat × α)
  | [] => [(id, value)]
  | (key, old) :: rest =>
    if id < key then (id, value) :: (key, old) :: rest
    else if id = key then (id, value) :: rest
    else (key, old) :: place id value rest

theorem mem_place {id : Nat} {value : α} {entries : List (Nat × α)} {entry : Nat × α}
    (member : entry ∈ place id value entries) : entry = (id, value) ∨ entry ∈ entries := by
  induction entries with
  | nil => simpa [place] using member
  | cons head rest ih =>
    obtain ⟨key, old⟩ := head
    unfold place at member
    split at member
    · simpa using member
    · split at member
      · rcases List.mem_cons.mp member with same | later
        · exact .inl same
        · exact .inr (List.mem_cons_of_mem _ later)
      · rcases List.mem_cons.mp member with same | later
        · exact .inr (same ▸ List.mem_cons_self)
        · exact (ih later).imp_right (List.mem_cons_of_mem _)

theorem self_mem_place (id : Nat) (value : α) (entries : List (Nat × α)) :
    (id, value) ∈ place id value entries := by
  induction entries with
  | nil => exact List.mem_singleton.mpr rfl
  | cons head rest ih =>
    unfold place
    split
    · exact List.mem_cons_self
    · split
      · exact List.mem_cons_self
      · exact List.mem_cons_of_mem _ ih

theorem mem_place_of_ne {id : Nat} {value : α} {entries : List (Nat × α)} {entry : Nat × α}
    (member : entry ∈ entries) (differs : entry.1 ≠ id) : entry ∈ place id value entries := by
  induction entries with
  | nil => cases member
  | cons head rest ih =>
    unfold place
    split
    · exact List.mem_cons_of_mem _ member
    · split
      case isTrue same =>
        rcases List.mem_cons.mp member with here | later
        · rw [here] at differs
          exact absurd same.symm differs
        · exact List.mem_cons_of_mem _ later
      case isFalse =>
        rcases List.mem_cons.mp member with here | later
        · exact here ▸ List.mem_cons_self
        · exact List.mem_cons_of_mem _ (ih later)

theorem place_ascending (id : Nat) (value : α) (entries : List (Nat × α))
    (ascending : entries.Pairwise (fun a b => a.1 < b.1)) :
    (place id value entries).Pairwise (fun a b => a.1 < b.1) := by
  induction entries with
  | nil => simp [place]
  | cons head rest ih =>
    obtain ⟨key, old⟩ := head
    obtain ⟨above, tail⟩ := List.pairwise_cons.mp ascending
    unfold place
    split
    case isTrue before =>
      refine List.pairwise_cons.mpr ⟨fun entry member => ?_, ascending⟩
      rcases List.mem_cons.mp member with same | later
      · subst same; exact before
      · exact Nat.lt_trans before (above entry later)
    case isFalse notBefore =>
      split
      case isTrue same =>
        subst same
        exact List.pairwise_cons.mpr ⟨above, tail⟩
      case isFalse different =>
        refine List.pairwise_cons.mpr ⟨fun entry member => ?_, ih tail⟩
        rcases mem_place member with same | later
        · subst same
          change key < id
          omega
        · exact above entry later

def empty : IdMap α := ⟨[], .nil⟩

instance : Inhabited (IdMap α) := ⟨empty⟩

def get? (map : IdMap α) (id : Nat) : Option α := map.entries.lookup id

def contains (map : IdMap α) (id : Nat) : Bool := (map.get? id).isSome

/-- Binds `id` to `value`, replacing what it was bound to. -/
def insert (map : IdMap α) (id : Nat) (value : α) : IdMap α :=
  ⟨place id value map.entries, place_ascending id value map.entries map.ascending⟩

def erase (map : IdMap α) (id : Nat) : IdMap α :=
  ⟨map.entries.filter (fun entry => entry.1 != id), map.ascending.filter _⟩

/-- Changes the value bound to `id`; a map without `id` stays as it is. -/
def modify (map : IdMap α) (id : Nat) (change : α → α) : IdMap α :=
  match map.get? id with
  | some value => map.insert id (change value)
  | none => map

def keys (map : IdMap α) : List Nat := map.entries.map (·.1)

def values (map : IdMap α) : List α := map.entries.map (·.2)

def size (map : IdMap α) : Nat := map.entries.length

theorem eq_of_mem_entries {map : IdMap α} {id : Nat} {value other : α}
    (first : (id, value) ∈ map.entries) (second : (id, other) ∈ map.entries) : value = other := by
  have ascending := map.ascending
  revert first second ascending
  generalize map.entries = entries
  intro first second ascending
  induction entries with
  | nil => cases first
  | cons head rest ih =>
    obtain ⟨above, tail⟩ := List.pairwise_cons.mp ascending
    rcases List.mem_cons.mp first with here | first <;>
      rcases List.mem_cons.mp second with there | second
    · exact (Prod.mk.inj (here.trans there.symm)).2
    · have := above _ second
      rw [← here] at this
      exact absurd this (Nat.lt_irrefl id)
    · have := above _ first
      rw [← there] at this
      exact absurd this (Nat.lt_irrefl id)
    · exact ih first second tail

theorem mem_of_lookup {id : Nat} {value : α} {entries : List (Nat × α)}
    (found : entries.lookup id = some value) : (id, value) ∈ entries := by
  obtain ⟨before, after, same, -⟩ := List.lookup_eq_some_iff.mp found
  rw [same]
  exact List.mem_append_right before List.mem_cons_self

theorem get?_eq_some_iff {map : IdMap α} {id : Nat} {value : α} :
    map.get? id = some value ↔ (id, value) ∈ map.entries := by
  constructor
  · exact mem_of_lookup
  · intro member
    cases found : map.get? id with
    | some other => rw [eq_of_mem_entries (mem_of_lookup found) member]
    | none =>
      have absent := List.lookup_eq_none_iff.mp found (id, value) member
      simp at absent

theorem get?_insert_self (map : IdMap α) (id : Nat) (value : α) :
    (map.insert id value).get? id = some value :=
  get?_eq_some_iff.mpr (self_mem_place id value map.entries)

theorem get?_insert_of_ne (map : IdMap α) {id other : Nat} (value : α) (differs : other ≠ id) :
    (map.insert id value).get? other = map.get? other := by
  refine Option.ext fun found => ?_
  rw [get?_eq_some_iff, get?_eq_some_iff]
  constructor
  · intro member
    rcases mem_place member with same | earlier
    · exact absurd (Prod.mk.inj same).1 differs
    · exact earlier
  · intro member
    exact mem_place_of_ne member differs

end IdMap

end Switchboard
