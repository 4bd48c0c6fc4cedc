import Mathlib.Data.List.Induction
import Mathlib.Tactic.Common
import Switchboard.Proofs.Guests

/-! A chain after any inserts and removals. What stands in it is what was last put in under each key
and not removed since, ordered by priority and then by the time at which it was put in. Snapshots
are values, so nothing that is done to the chain is seen in one that was taken before. -/
namespace Switchboard.Chain

/-- What can be done with a chain. -/
inductive Operation (φ : Type u) where
  | insert (key : String) (priority : Int) (filter : φ)
  | remove (key : String)
  | snapshot

/-- The key that an operation is about. -/
def Operation.key? {φ : Type u} : Operation φ → Option String
  | insert key _ _ | remove key => some key
  | snapshot => none

/-- A chain in use, with the snapshots that were taken of it. -/
structure InUse (φ : Type u) where
  chain : Chain φ := .empty
  snapshots : List (List (Entry φ)) := []

namespace InUse

variable {φ : Type u}

def perform (use : InUse φ) : Operation φ → InUse φ
  | .insert key priority filter => { use with chain := use.chain.insert key priority filter }
  | .remove key => { use with chain := (use.chain.remove key).2 }
  | .snapshot => { use with snapshots := use.snapshots ++ [use.chain.entries] }

/-- An empty chain after all that was done with it. -/
def after (history : List (Operation φ)) : InUse φ := history.foldl perform {}

theorem after_concat (history : List (Operation φ)) (operation : Operation φ) :
    after (history ++ [operation]) = (after history).perform operation := by
  rw [after, List.foldl_append]
  rfl

end InUse

variable {φ : Type u} {history earlier later : List (Operation φ)} {operation : Operation φ}
  {entry first second : Entry φ} {entries : List (Entry φ)} {key : String} {time : Nat}

/-- The entry was put in at the time, and nothing was done under its key since. -/
structure Lasts (history : List (Operation φ)) (time : Nat) (entry : Entry φ) : Prop where
  put : history[time]? = some (.insert entry.key entry.priority entry.filter)
  since : ∀ later operation, time < later → history[later]? = some operation →
    operation.key? ≠ some entry.key

/-- The first entry has the lower priority, or the same and was put in before the second. -/
def Precedes (history : List (Operation φ)) (first second : Entry φ) : Prop :=
  ∃ time later, Lasts history time first ∧ Lasts history later second ∧
    (first.priority < second.priority ∨ first.priority = second.priority ∧ time < later)

/-! ## One more operation -/

theorem Lasts.lt_length (lasts : Lasts history time entry) : time < history.length :=
  (List.getElem?_eq_some_iff.mp lasts.put).1

theorem eq_or_earlier {other : Operation φ}
    (done : (history ++ [operation])[time]? = some other) :
    operation = other ∧ time = history.length ∨
      time < history.length ∧ history[time]? = some other := by
  have bound := (List.getElem?_eq_some_iff.mp done).1
  rw [List.length_append, List.length_singleton] at bound
  rcases Nat.lt_succ_iff_lt_or_eq.mp bound with within | rfl
  · rw [List.getElem?_append_left within] at done
    exact .inr ⟨within, done⟩
  · rw [List.getElem?_concat_length] at done
    exact .inl ⟨Option.some.inj done, rfl⟩

/-- An entry goes on to stand if nothing is done under its key, -/
theorem Lasts.concat (lasts : Lasts history time entry) (spared : operation.key? ≠ some entry.key) :
    Lasts (history ++ [operation]) time entry where
  put := by rw [List.getElem?_append_left lasts.lt_length, lasts.put]
  since later other follows done := by
    rcases eq_or_earlier done with ⟨rfl, -⟩ | ⟨-, done⟩
    · exact spared
    · exact lasts.since later other follows done

/-- an entry stands once it is put in, -/
theorem lasts_last (history : List (Operation φ)) (entry : Entry φ) :
    Lasts (history ++ [.insert entry.key entry.priority entry.filter]) history.length entry where
  put := List.getElem?_concat_length
  since later other follows done := by
    have bound := (List.getElem?_eq_some_iff.mp done).1
    rw [List.length_append, List.length_singleton] at bound
    omega

/-- and there is no other way. -/
theorem Lasts.of_concat (lasts : Lasts (history ++ [operation]) time entry) :
    operation = .insert entry.key entry.priority entry.filter ∨
      Lasts history time entry ∧ operation.key? ≠ some entry.key := by
  rcases eq_or_earlier lasts.put with ⟨same, -⟩ | ⟨within, put⟩
  · exact .inl same
  · refine .inr ⟨⟨put, fun later other follows done => ?_⟩, ?_⟩
    · have bound := (List.getElem?_eq_some_iff.mp done).1
      exact lasts.since later other follows (by rw [List.getElem?_append_left bound, done])
    · exact lasts.since history.length operation within List.getElem?_concat_length

theorem lasts_concat_iff : (∃ time, Lasts (history ++ [operation]) time entry) ↔
    operation = .insert entry.key entry.priority entry.filter ∨
      (∃ time, Lasts history time entry) ∧ operation.key? ≠ some entry.key := by
  constructor
  · rintro ⟨time, lasts⟩
    exact lasts.of_concat.imp_right fun ⟨lasts, spared⟩ => ⟨⟨time, lasts⟩, spared⟩
  · rintro (rfl | ⟨⟨time, lasts⟩, spared⟩)
    · exact ⟨_, lasts_last history entry⟩
    · exact ⟨time, lasts.concat spared⟩

theorem Precedes.concat (precedes : Precedes history first second)
    (spared : operation.key? ≠ some first.key) (sparedAlso : operation.key? ≠ some second.key) :
    Precedes (history ++ [operation]) first second := by
  obtain ⟨time, later, lasts, lastsAlso, before⟩ := precedes
  exact ⟨time, later, lasts.concat spared, lastsAlso.concat sparedAlso, before⟩

theorem Precedes.le (precedes : Precedes history first second) :
    first.priority ≤ second.priority := by
  obtain ⟨_, _, _, _, before | ⟨same, _⟩⟩ := precedes
  · exact Int.le_of_lt before
  · exact Int.le_of_eq same

/-! ## Sorting -/

/-- The first entry may run before the second. -/
def mayPrecede (first second : Entry φ) : Bool := first.priority ≤ second.priority

theorem mayPrecede_trans (first second third : Entry φ) (before : mayPrecede first second = true)
    (after : mayPrecede second third = true) : mayPrecede first third = true :=
  decide_eq_true (Int.le_trans (of_decide_eq_true before) (of_decide_eq_true after))

theorem mayPrecede_total (first second : Entry φ) :
    (mayPrecede first second || mayPrecede second first) = true := by
  simp [mayPrecede, Int.le_total]

/-- A new entry goes where a stable sort puts it that finds it behind all others. -/
theorem place_eq_mergeSort (ordered : Ordered entries) :
    place entry entries = (entries ++ [entry]).mergeSort mayPrecede := by
  induction entries with
  | nil => rw [place, List.nil_append, List.mergeSort_singleton]
  | cons first rest ih =>
    obtain ⟨above, orderedRest⟩ := List.pairwise_cons.mp ordered
    -- The sort of the rest is cut where the first entry goes in, behind all that are to run sooner.
    obtain ⟨front, back, sorted, sortedRest, sooner⟩ :=
      List.mergeSort_cons mayPrecede_trans mayPrecede_total first (rest ++ [entry])
    have below : ∀ other ∈ front, other.priority < first.priority := fun other member => by
      simpa [mayPrecede] using sooner other member
    have least : ∀ other ∈ front, other ∉ rest := fun other member among =>
      absurd (above other among) (Int.not_le.mpr (below other member))
    rw [← ih orderedRest] at sortedRest
    rw [List.cons_append, sorted, place]
    split
    case isTrue later =>
      have nothing : front = [] := by
        refine List.eq_nil_iff_forall_not_mem.mpr fun other member => ?_
        have placed : other ∈ place entry rest := sortedRest ▸ List.mem_append_left _ member
        rcases mem_place_iff.mp placed with rfl | among
        · exact absurd later (Int.not_le.mpr (below _ member))
        · exact least other member among
      rw [sortedRest, nothing]
      rfl
    case isFalse notLater =>
      have ahead : entry.priority < first.priority := Int.not_le.mp notLater
      have aheadOfAll : ∀ other ∈ rest, entry.priority < other.priority :=
        fun other member => Int.lt_of_lt_of_le ahead (above other member)
      rw [place_first aheadOfAll] at sortedRest
      cases front with
      | nil =>
        cases sortedRest
        have ascending := List.pairwise_mergeSort mayPrecede_trans mayPrecede_total
          (first :: (rest ++ [entry]))
        rw [sorted] at ascending
        have wrong := List.rel_of_pairwise_cons ascending List.mem_cons_self
        exact absurd (of_decide_eq_true wrong) notLater
      | cons head others =>
        cases sortedRest
        cases others with
        | nil => rfl
        | cons second _ => exact absurd List.mem_cons_self (least second (by simp))

/-! ## The chain -/

/-- What every operation preserves. -/
structure Kept (history : List (Operation φ)) (entries : List (Entry φ)) : Prop where
  distinct : (entries.map (·.key)).Nodup
  holds : ∀ entry, entry ∈ entries ↔ ∃ time, Lasts history time entry
  ordered : entries.Pairwise (Precedes history)

namespace Kept

variable {priority : Int} {filter : φ}

theorem mem_without_iff (kept : Kept history entries) : entry ∈ without key entries ↔
    (∃ time, Lasts history time entry) ∧ some key ≠ some entry.key := by
  rw [Chain.mem_without_iff, kept.holds, ne_comm, Ne, Ne, Option.some.injEq]

theorem precedes_without (kept : Kept history entries) (about : operation.key? = some key) :
    (without key entries).Pairwise (Precedes (history ++ [operation])) := by
  have spared : ∀ entry ∈ without key entries, operation.key? ≠ some entry.key :=
    fun entry member => about ▸ (kept.mem_without_iff.mp member).2
  exact (kept.ordered.filter _).imp_of_mem fun here there precedes =>
    precedes.concat (spared _ here) (spared _ there)

theorem ordered_without (kept : Kept history entries) (key : String) :
    Ordered (without key entries) :=
  (kept.ordered.imp Precedes.le).filter _

theorem distinct_without (kept : Kept history entries) (key : String) :
    ((without key entries).map (·.key)).Nodup :=
  kept.distinct.sublist (List.filter_sublist.map _)

theorem insert (kept : Kept history entries) :
    Kept (history ++ [.insert key priority filter])
      (place ⟨key, priority, filter⟩ (without key entries)) where
  distinct := by
    have apart : ∀ other ∈ without key entries, other.key ≠ key :=
      fun other member => (Chain.mem_without_iff.mp member).2
    have distinct := List.pairwise_map.mp (kept.distinct_without key)
    exact List.pairwise_map.mpr (place_pairwise (kept.ordered_without key) distinct
      (fun other member _ => apart other member) fun other member _ => (apart other member).symm)
  holds entry := by
    rw [lasts_concat_iff, mem_place_iff, kept.mem_without_iff]
    refine or_congr_left ⟨?_, ?_⟩
    · rintro rfl
      rfl
    · intro same
      cases entry
      cases same
      rfl
  ordered := by
    have last := lasts_last history ⟨key, priority, filter⟩
    refine place_pairwise (kept.ordered_without key) (kept.precedes_without rfl)
      (fun other member sooner => ?_) (fun other member later => ?_)
    all_goals
      obtain ⟨⟨time, lasts⟩, spared⟩ := kept.mem_without_iff.mp member
      have still : Lasts (history ++ [.insert key priority filter]) time other :=
        lasts.concat spared
    · have earlier := lasts.lt_length
      exact ⟨time, history.length, still, last, by dsimp only at *; omega⟩
    · exact ⟨history.length, time, last, still, .inl later⟩

theorem remove (kept : Kept history entries) :
    Kept (history ++ [.remove key]) (without key entries) where
  distinct := kept.distinct_without key
  holds entry := by
    rw [lasts_concat_iff, kept.mem_without_iff, or_iff_right nofun]
    rfl
  ordered := kept.precedes_without rfl

theorem snapshot (kept : Kept history entries) : Kept (history ++ [.snapshot]) entries where
  distinct := kept.distinct
  holds entry := by
    rw [lasts_concat_iff, kept.holds, or_iff_right nofun]
    exact (and_iff_left nofun).symm
  ordered := kept.ordered.imp fun precedes => precedes.concat nofun nofun

end Kept

theorem kept_after (history : List (Operation φ)) :
    Kept history (InUse.after history).chain.entries := by
  induction history using List.reverseRecOn with
  | nil =>
    refine ⟨.nil, fun entry => iff_of_false List.not_mem_nil ?_, .nil⟩
    rintro ⟨time, lasts⟩
    exact absurd lasts.lt_length (Nat.not_lt_zero _)
  | append_singleton history operation ih =>
    rw [InUse.after_concat]
    cases operation with
    | insert key priority filter => exact ih.insert
    | remove key => exact ih.remove
    | snapshot => exact ih.snapshot

/-- To put in an entry is to append it and to sort. -/
theorem after_insert (history : List (Operation φ)) (key : String) (priority : Int) (filter : φ) :
    (InUse.after (history ++ [.insert key priority filter])).chain.entries =
      List.mergeSort (without key (InUse.after history).chain.entries ++ [⟨key, priority, filter⟩])
        mayPrecede := by
  rw [InUse.after_concat]
  exact place_eq_mergeSort ((kept_after history).ordered_without key)

/-! ## Snapshots -/

theorem snapshots_perform (use : InUse φ) (operation : Operation φ) :
    use.snapshots <+: (use.perform operation).snapshots := by
  cases operation with
  | insert | remove => exact List.prefix_rfl
  | snapshot => exact List.prefix_append _ _

theorem snapshots_after (earlier later : List (Operation φ)) :
    (InUse.after earlier).snapshots <+: (InUse.after (earlier ++ later)).snapshots := by
  induction later using List.reverseRecOn with
  | nil => simp only [List.append_nil, List.prefix_rfl]
  | append_singleton later operation ih =>
    rw [← List.append_assoc, InUse.after_concat]
    exact ih.trans (snapshots_perform _ operation)

theorem snapshot_after (earlier later : List (Operation φ)) :
    let before := InUse.after earlier
    (InUse.after (earlier ++ .snapshot :: later)).snapshots[before.snapshots.length]? =
      some before.chain.entries := by
  dsimp only
  obtain ⟨others, whole⟩ := snapshots_after (earlier ++ [.snapshot]) later
  have taken : (InUse.after (earlier ++ [.snapshot])).snapshots =
      (InUse.after earlier).snapshots ++ [(InUse.after earlier).chain.entries] := by
    rw [InUse.after_concat]
    rfl
  rw [List.append_assoc, List.singleton_append, taken] at whole
  rw [← whole, List.append_assoc, List.getElem?_append_right (Nat.le_refl _), Nat.sub_self]
  rfl

theorem remove_iff {use : InUse φ} (kept : Kept history use.chain.entries) :
    (use.chain.remove key).1 = true ↔ ∃ time entry, Lasts history time entry ∧ entry.key = key := by
  have present : (use.chain.remove key).1 = true ↔
      ∃ entry ∈ use.chain.entries, entry.key = key := by simp [Chain.remove, contains]
  rw [present]
  constructor
  · rintro ⟨entry, member, same⟩
    obtain ⟨time, lasts⟩ := (kept.holds entry).mp member
    exact ⟨time, entry, lasts, same⟩
  · rintro ⟨time, entry, lasts, same⟩
    exact ⟨entry, (kept.holds entry).mpr ⟨time, lasts⟩, same⟩

/-- A chain after any inserts and removals holds, once under its key, each entry whose key was last
used to put it in, in the order of priorities and, where these are equal, of the times at which the
entries were put in. A removal tells whether the key was in use, and a snapshot stays as it was. -/
theorem entries_after (history : List (Operation φ)) :
    let use := InUse.after history
    use.chain.keys.Nodup ∧
      (∀ entry, entry ∈ use.chain.entries ↔ ∃ time, Lasts history time entry) ∧
      use.chain.entries.Pairwise (Precedes history) ∧
      (∀ key, (use.chain.remove key).1 = true ↔
        ∃ time entry, Lasts history time entry ∧ entry.key = key) ∧
      ∀ earlier later, history = earlier ++ .snapshot :: later →
        use.snapshots[(InUse.after earlier).snapshots.length]? =
          some (InUse.after earlier).chain.entries := by
  intro use
  have kept := kept_after history
  refine ⟨kept.distinct, kept.holds, kept.ordered, fun key => remove_iff kept, ?_⟩
  rintro earlier later rfl
  exact snapshot_after earlier later

/-- What is put in again goes behind its equals. -/
example : (InUse.after [.insert "a" 5 "old", .insert "b" 5 "", .insert "a" 5 "new"]).chain.keys =
    ["b", "a"] := by decide

end Switchboard.Chain
