import Mathlib.Tactic.Common
import Switchboard.Proofs.Standing

/-! Filters of others in the chains that the features use. The chains are changed by edits under
keys, and what an edit under a feature's name does to the features' filters does not depend on the
guests beside them, who do not feel it. -/
namespace Switchboard

namespace Chain

variable {φ : Type u} {entry : Entry φ} {entries : List (Entry φ)} {keeps : Entry φ → Bool}
  {key : String} {chain : Chain φ} {priority : Int} {filter : φ}

/-- Entries in the order in which they run. -/
def Ordered (entries : List (Entry φ)) : Prop :=
  entries.Pairwise fun first second => first.priority ≤ second.priority

theorem place_ordered (ordered : Ordered entries) : Ordered (place entry entries) :=
  place_pairwise ordered ordered (fun _ _ sooner => sooner) fun _ _ later => Int.le_of_lt later

theorem place_first (first : ∀ other ∈ entries, entry.priority < other.priority) :
    place entry entries = entry :: entries := by
  cases entries with
  | nil => rfl
  | cons head rest => rw [place, if_neg (Int.not_le.mpr (first head List.mem_cons_self))]

/-- An entry finds its place among those kept as it does among all. -/
theorem filter_place (ordered : Ordered entries) (kept : keeps entry = true) :
    (place entry entries).filter keeps = place entry (entries.filter keeps) := by
  induction entries with
  | nil => rw [place, List.filter_cons_of_pos kept, List.filter_nil, place]
  | cons first rest ih =>
    obtain ⟨above, tail⟩ := List.pairwise_cons.mp ordered
    by_cases before : first.priority ≤ entry.priority
    · have placed : place entry (first :: rest) = first :: place entry rest := if_pos before
      rw [placed]
      cases keepsFirst : keeps first with
      | true =>
        rw [List.filter_cons_of_pos keepsFirst, List.filter_cons_of_pos keepsFirst, ih tail]
        exact (if_pos before).symm
      | false =>
        have dropped : ¬keeps first = true := ne_true_of_eq_false keepsFirst
        rw [List.filter_cons_of_neg dropped, List.filter_cons_of_neg dropped, ih tail]
    · -- All that is kept of these runs after the entry.
      have after : ∀ other ∈ (first :: rest).filter keeps, entry.priority < other.priority := by
        intro other member
        rcases List.mem_cons.mp (List.mem_filter.mp member).1 with rfl | member
        · omega
        · have := above other member
          omega
      have placed : place entry (first :: rest) = entry :: first :: rest := if_neg before
      rw [placed, List.filter_cons_of_pos kept, place_first after]

theorem filter_place_of_not (dropped : keeps entry = false) :
    (place entry entries).filter keeps = entries.filter keeps := by
  have notKept : ¬keeps entry = true := ne_true_of_eq_false dropped
  induction entries with
  | nil => rw [place, List.filter_cons_of_neg notKept]
  | cons first rest ih =>
    unfold place
    split
    · rw [List.filter_cons, List.filter_cons, ih]
    · rw [List.filter_cons_of_neg notKept]

/-! ## A part of a chain -/

/-- The chain without the entries that are not kept. -/
def only (keeps : Entry φ → Bool) (chain : Chain φ) : Chain φ := ⟨chain.entries.filter keeps⟩

theorem insert_ordered (ordered : Ordered chain.entries) :
    Ordered (chain.insert key priority filter).entries :=
  place_ordered (ordered.filter _)

theorem erase_ordered (ordered : Ordered chain.entries) : Ordered (chain.erase key).entries :=
  ordered.filter _

theorem only_insert (ordered : Ordered chain.entries)
    (kept : keeps ⟨key, priority, filter⟩ = true) :
    (chain.insert key priority filter).only keeps =
      (chain.only keeps).insert key priority filter := by
  have rest : Ordered (without key chain.entries) := ordered.filter _
  unfold insert only
  rw [filter_place rest kept, without, without, List.filter_filter, List.filter_filter]
  simp only [Bool.and_comm]

theorem only_erase (key : String) :
    (chain.erase key).only keeps = (chain.only keeps).erase key := by
  unfold erase only
  rw [without, without, List.filter_filter, List.filter_filter]
  simp only [Bool.and_comm]

theorem filter_without (spares : ∀ entry : Entry φ, entry.key = key → keeps entry = false) :
    (without key entries).filter keeps = entries.filter keeps := by
  rw [without, List.filter_filter]
  refine List.filter_congr fun entry _ => ?_
  by_cases same : entry.key = key
  · rw [spares entry same, Bool.false_and]
  · rw [bne_iff_ne.mpr same, Bool.and_true]

/-- A part that has no entries under the key is left alone. -/
theorem only_insert_of_not (spares : ∀ entry : Entry φ, entry.key = key → keeps entry = false) :
    (chain.insert key priority filter).only keeps = chain.only keeps := by
  unfold insert only
  rw [filter_place_of_not (spares _ rfl), filter_without spares]

theorem only_erase_of_not (spares : ∀ entry : Entry φ, entry.key = key → keeps entry = false) :
    (chain.erase key).only keeps = chain.only keeps := by
  unfold erase only
  rw [filter_without spares]

end Chain

/-! ## Features and guests -/

/-- The key is the name of no feature. -/
def Foreign (key : String) : Prop := ∀ feature : Feature, key ≠ feature.name

/-- The entry stands under a feature's name. -/
def Entry.featured {φ : Type u} (entry : Entry φ) : Bool := (Feature.ofName? entry.key).isSome

theorem Entry.featured_iff {φ : Type u} {entry : Entry φ} :
    entry.featured = true ↔ ∃ feature : Feature, entry.key = feature.name := by
  unfold featured
  constructor
  · intro known
    obtain ⟨feature, found⟩ := Option.isSome_iff_exists.mp known
    have same := List.find?_some found
    exact ⟨feature, (beq_iff_eq.mp same).symm⟩
  · rintro ⟨feature, same⟩
    rw [same, Feature.ofName?_name]
    rfl

theorem Entry.featured_eq_false {φ : Type u} {entry : Entry φ} (foreign : Foreign entry.key) :
    entry.featured = false :=
  eq_false_of_ne_true fun known =>
    let ⟨feature, same⟩ := featured_iff.mp known
    foreign feature same

def Chain.featured {φ : Type u} (chain : Chain φ) : Chain φ := chain.only Entry.featured

def Chain.guests {φ : Type u} (chain : Chain φ) : Chain φ := chain.only fun entry => !entry.featured

def Edit.key : Edit → String
  | .addText key _ | .dropText key | .addMessage key _ | .dropMessage key => key

/-- An edit by others than the features, under a key that no feature uses. -/
structure GuestEdit where
  edit : Edit
  foreign : Foreign edit.key

namespace Filters

/-- The filters once others have added or removed one of theirs. -/
def host (filters : Filters) (change : GuestEdit) : Filters := filters.edit change.edit

/-- The filters of the features alone. -/
def featured (filters : Filters) : Filters :=
  { filters with text := filters.text.featured, message := filters.message.featured }

structure Ordered (filters : Filters) : Prop where
  text : Chain.Ordered filters.text.entries
  message : Chain.Ordered filters.message.entries

variable {filters : Filters} {edit : Edit} {feature : Feature}

theorem edit_ordered (ordered : filters.Ordered) (edit : Edit) : (filters.edit edit).Ordered := by
  cases edit with
  | addText => exact ⟨Chain.insert_ordered ordered.text, ordered.message⟩
  | dropText => exact ⟨Chain.erase_ordered ordered.text, ordered.message⟩
  | addMessage => exact ⟨ordered.text, Chain.insert_ordered ordered.message⟩
  | dropMessage => exact ⟨ordered.text, Chain.erase_ordered ordered.message⟩

/-- What is done under a feature's name is done to the features' filters as if they were alone. -/
theorem featured_edit (ordered : filters.Ordered) (own : edit.key = feature.name) :
    (filters.edit edit).featured = filters.featured.edit edit := by
  have kept {φ : Type} (priority : Int) (filter : φ) :
      Entry.featured ⟨edit.key, priority, filter⟩ = true :=
    Entry.featured_iff.mpr ⟨feature, own⟩
  cases edit with
  | addText key filter =>
    exact congrArg (fun text => { filters.featured with text })
      (Chain.only_insert ordered.text (kept filter.priority filter))
  | dropText key =>
    exact congrArg (fun text => { filters.featured with text }) (Chain.only_erase key)
  | addMessage key filter =>
    exact congrArg (fun message => { filters.featured with message })
      (Chain.only_insert ordered.message (kept filter.priority filter))
  | dropMessage key =>
    exact congrArg (fun message => { filters.featured with message }) (Chain.only_erase key)

/-- What is done under another key leaves them alone. -/
theorem featured_edit_foreign (foreign : Foreign edit.key) :
    (filters.edit edit).featured = filters.featured := by
  have spares {φ : Type} (entry : Entry φ) (same : entry.key = edit.key) :
      entry.featured = false :=
    Entry.featured_eq_false (same ▸ foreign)
  cases edit with
  | addText =>
    exact congrArg (fun text => { filters.featured with text }) (Chain.only_insert_of_not spares)
  | dropText =>
    exact congrArg (fun text => { filters.featured with text }) (Chain.only_erase_of_not spares)
  | addMessage =>
    exact congrArg (fun message => { filters.featured with message })
      (Chain.only_insert_of_not spares)
  | dropMessage =>
    exact congrArg (fun message => { filters.featured with message })
      (Chain.only_erase_of_not spares)

/-- Guests do not feel what is done under a feature's name. -/
theorem guests_edit (filters : Filters) (own : edit.key = feature.name) :
    (filters.edit edit).text.guests = filters.text.guests ∧
      (filters.edit edit).message.guests = filters.message.guests := by
  have spares {φ : Type} (entry : Entry φ) (same : entry.key = edit.key) :
      (!entry.featured) = false := by
    rw [Entry.featured_iff.mpr ⟨feature, same.trans own⟩]
    rfl
  cases edit with
  | addText => exact ⟨Chain.only_insert_of_not spares, rfl⟩
  | dropText => exact ⟨Chain.only_erase_of_not spares, rfl⟩
  | addMessage => exact ⟨rfl, Chain.only_insert_of_not spares⟩
  | dropMessage => exact ⟨rfl, Chain.only_erase_of_not spares⟩

/-! ## Several edits -/

variable {edits : List Edit}

theorem edits_ordered (ordered : filters.Ordered) (edits : List Edit) :
    (edits.foldl Filters.edit filters).Ordered :=
  List.foldlRecOn edits Filters.edit ordered fun _ ordered edit _ => edit_ordered ordered edit

theorem featured_edits (ordered : filters.Ordered) (own : ∀ edit ∈ edits, edit.key = feature.name) :
    (edits.foldl Filters.edit filters).featured = edits.foldl Filters.edit filters.featured := by
  induction edits generalizing filters with
  | nil => rfl
  | cons first rest ih =>
    rw [List.foldl_cons, List.foldl_cons, ← featured_edit ordered (own first List.mem_cons_self)]
    exact ih (edit_ordered ordered first) fun edit member => own edit (.tail _ member)

theorem guests_edits (filters : Filters) (own : ∀ edit ∈ edits, edit.key = feature.name) :
    (edits.foldl Filters.edit filters).text.guests = filters.text.guests ∧
      (edits.foldl Filters.edit filters).message.guests = filters.message.guests := by
  induction edits generalizing filters with
  | nil => exact ⟨rfl, rfl⟩
  | cons first rest ih =>
    obtain ⟨text, message⟩ := filters.guests_edit (own first List.mem_cons_self)
    obtain ⟨textRest, messageRest⟩ := ih (filters.edit first)
      fun edit member => own edit (.tail _ member)
    exact ⟨textRest.trans text, messageRest.trans message⟩

theorem nextSlot_edits (edits : List Edit) (filters : Filters) :
    (edits.foldl Filters.edit filters).nextSlot = filters.nextSlot := by
  induction edits generalizing filters with
  | nil => rfl
  | cons first rest ih =>
    have kept : (filters.edit first).nextSlot = filters.nextSlot := by cases first <;> rfl
    exact (ih (filters.edit first)).trans kept

end Filters

end Switchboard
