import Mathlib.Tactic.Common
import Switchboard.Outbox

/-! What comes of writing. A write that fails leaves a warning and nothing else, so what is sent and
logged is the same whether or not it can be written, and what is written is what could be. -/
namespace Switchboard

/-- Which of the deliveries and which of the entries for the chat log can be written, and why the
others cannot. -/
structure Uptake where
  delivery : Nat → Bool := fun _ => true
  entry : Nat → Bool := fun _ => true
  deliveryFault : Nat → String := fun _ => ""
  entryFault : Nat → StorageError := fun _ => .io ""

def World.uptake (world : World) : Uptake :=
  ⟨world.takesDelivery, world.takesEntry, world.deliveryFault, world.entryFault⟩

def Uptake.world (uptake : Uptake) (clock : Clock) : World where
  clock := clock
  takesDelivery := uptake.delivery
  takesEntry := uptake.entry
  deliveryFault := uptake.deliveryFault
  entryFault := uptake.entryFault

theorem World.uptake_world (world : World) : world.uptake.world world.clock = world := rfl

namespace Outbox

def deliver (world : World) (message : Message) (recipients : List Account) (outbox : Outbox) :
    Outbox :=
  recipients.foldl
    (fun outbox recipient => (((sink world).deliver recipient message).run outbox).2) outbox

def record (world : World) (entry : LogEntry) (outbox : Outbox) : Outbox :=
  (((sink world).log entry).run outbox).2

section

variable (world : World) (message : Message) (recipients : List Account) (entry : LogEntry)
  (outbox : Outbox)

@[simp] theorem deliver_nil : deliver world message [] outbox = outbox := rfl

theorem deliver_cons (recipient : Account) :
    deliver world message (recipient :: recipients) outbox =
    deliver world message recipients (deliver world message [recipient] outbox) := rfl

/-- All that comes of a write is what it leaves behind and, where it fails, a warning. -/
theorem run_attempt {ε : Type} (write : StateM Outbox (Except ε Unit)) (warning : ε → String) :
    (((sink world).attempt write warning).run outbox).2 =
      match write.run outbox with
      | (.error error, later) => { later with warnings := later.warnings ++ [warning error] }
      | (.ok _, later) => later := by
  rw [Sink.attempt, StateT.run_bind]
  rcases write.run outbox with ⟨error | _, later⟩ <;> rfl

/-- A delivery that cannot be written is lost, and a warning takes its place. -/
theorem deliver_singleton (recipient : Account) : deliver world message [recipient] outbox =
    { outbox with
      deliveries := outbox.deliveries ++ [⟨recipient, message⟩]
      written := outbox.written ++
        if world.takesDelivery outbox.deliveries.length then [⟨recipient, message⟩] else []
      warnings := outbox.warnings ++
        if world.takesDelivery outbox.deliveries.length then []
        else ["Failed to write delivery: " ++ world.deliveryFault outbox.deliveries.length] } := by
  have write : ((sink world).writeLine ⟨recipient, message⟩).run outbox =
      writeLine world ⟨recipient, message⟩ outbox := rfl
  change (((sink world).deliver recipient message).run outbox).2 = _
  rw [Sink.deliver, run_attempt, write, writeLine]
  cases world.takesDelivery outbox.deliveries.length <;> simp

theorem record_eq : record world entry outbox =
    { outbox with
      entries := outbox.entries ++ [entry]
      recorded := outbox.recorded ++
        if world.takesEntry outbox.entries.length then [entry] else []
      warnings := outbox.warnings ++
        if world.takesEntry outbox.entries.length then []
        else ["Failed to write chat log: " ++
          (world.entryFault outbox.entries.length).message] } := by
  have write : ((sink world).logMessage entry).run outbox = logMessage world entry outbox := rfl
  rw [record, Sink.log, run_attempt, write, logMessage]
  cases world.takesEntry outbox.entries.length <;> simp

@[simp] theorem deliveries_deliver : (deliver world message recipients outbox).deliveries =
    outbox.deliveries ++ recipients.map fun recipient => ⟨recipient, message⟩ := by
  induction recipients generalizing outbox with
  | nil => simp
  | cons recipient rest ih => rw [deliver_cons, ih, deliver_singleton]; simp

@[simp] theorem entries_deliver :
    (deliver world message recipients outbox).entries = outbox.entries := by
  induction recipients generalizing outbox with
  | nil => rfl
  | cons recipient rest ih => rw [deliver_cons, ih, deliver_singleton]

@[simp] theorem deliveries_record :
    (record world entry outbox).deliveries = outbox.deliveries := by rw [record_eq]

@[simp] theorem entries_record :
    (record world entry outbox).entries = outbox.entries ++ [entry] := by rw [record_eq]

end

/-! ## What could be written -/

/-- The items that are taken, the first of them offered under the number `start`. -/
def taken {α : Type} (takes : Nat → Bool) (start : Nat) (items : List α) : List α :=
  ((items.zipIdx start).filter fun item => takes item.2).map (·.1)

theorem taken_singleton {α : Type} (takes : Nat → Bool) (start : Nat) (item : α) :
    taken takes start [item] = if takes start then [item] else [] := by
  cases accepted : takes start <;> simp [taken, accepted]

theorem taken_append {α : Type} (takes : Nat → Bool) (start : Nat) (items more : List α) :
    taken takes start (items ++ more) =
      taken takes start items ++ taken takes (start + items.length) more := by
  simp [taken, List.zipIdx_append]

theorem taken_shift {α : Type} (takes : Nat → Bool) (start : Nat) (items : List α) :
    taken (fun number => takes (start + number)) 0 items = taken takes start items := by
  rw [taken, taken, List.zipIdx_eq_map_add (i := start), List.filter_map, List.map_map]
  rfl

theorem taken_all {α : Type} (start : Nat) (items : List α) :
    taken (fun _ => true) start items = items := by
  rw [taken, List.filter_eq_self.mpr fun _ _ => rfl]
  exact List.zipIdx_map_fst start items

theorem taken_subset {α : Type} (takes : Nat → Bool) (start : Nat) (items : List α) :
    taken takes start items ⊆ items := by
  intro item member
  obtain ⟨⟨same, number⟩, accepted, rfl⟩ := List.mem_map.mp member
  rw [(List.mem_zipIdx (List.mem_filter.mp accepted).1).2.2]
  exact List.getElem_mem _

/-- What is written is what could be, the writes being numbered from the first. -/
structure Writes (uptake : Uptake) (outbox : Outbox) : Prop where
  written : outbox.written = taken uptake.delivery 0 outbox.deliveries
  recorded : outbox.recorded = taken uptake.entry 0 outbox.entries
  /-- There is a warning for each write that failed. -/
  warned : outbox.written.length + outbox.recorded.length + outbox.warnings.length =
    outbox.deliveries.length + outbox.entries.length

/-- All that leaves in two parts of a run. -/
def followedBy (first later : Outbox) : Outbox where
  deliveries := first.deliveries ++ later.deliveries
  written := first.written ++ later.written
  entries := first.entries ++ later.entries
  recorded := first.recorded ++ later.recorded
  warnings := first.warnings ++ later.warnings

/-- What can be written after all that has left so far. -/
def onward (outbox : Outbox) (uptake : Uptake) : Uptake where
  delivery number := uptake.delivery (outbox.deliveries.length + number)
  entry number := uptake.entry (outbox.entries.length + number)
  deliveryFault number := uptake.deliveryFault (outbox.deliveries.length + number)
  entryFault number := uptake.entryFault (outbox.entries.length + number)

namespace Writes

variable {uptake : Uptake} {outbox later : Outbox} {clock : Clock}

theorem nothing : Writes uptake {} := ⟨rfl, rfl, rfl⟩

theorem deliver (writes : outbox.Writes uptake) (message : Message) (recipients : List Account) :
    (outbox.deliver (uptake.world clock) message recipients).Writes uptake := by
  induction recipients generalizing outbox with
  | nil => exact writes
  | cons recipient rest ih =>
    rw [deliver_cons]
    refine ih ?_
    have counted := writes.warned
    rw [deliver_singleton]
    refine ⟨?_, writes.recorded, ?_⟩
    · rw [taken_append, taken_singleton, ← writes.written, Nat.zero_add]
      rfl
    · cases (uptake.world clock).takesDelivery outbox.deliveries.length <;>
        simp only [List.length_append, List.length_singleton, List.length_nil, if_true,
          Bool.false_eq_true, if_false] <;> omega

theorem record (writes : outbox.Writes uptake) (entry : LogEntry) :
    (outbox.record (uptake.world clock) entry).Writes uptake := by
  have counted := writes.warned
  rw [record_eq]
  refine ⟨writes.written, ?_, ?_⟩
  · rw [taken_append, taken_singleton, ← writes.recorded, Nat.zero_add]
    rfl
  · cases (uptake.world clock).takesEntry outbox.entries.length <;>
      simp only [List.length_append, List.length_singleton, List.length_nil, if_true,
        Bool.false_eq_true, if_false] <;> omega

theorem followedBy (writes : outbox.Writes uptake) (onward : later.Writes (outbox.onward uptake)) :
    (outbox.followedBy later).Writes uptake where
  written := by
    rw [Outbox.followedBy, taken_append, ← writes.written, onward.written, Nat.zero_add,
      Outbox.onward, taken_shift]
  recorded := by
    rw [Outbox.followedBy, taken_append, ← writes.recorded, onward.recorded, Nat.zero_add,
      Outbox.onward, taken_shift]
  warned := by
    have first := writes.warned
    have second := onward.warned
    simp only [Outbox.followedBy, List.length_append]
    omega

theorem smooth (writes : outbox.Writes {}) : outbox.written = outbox.deliveries ∧
    outbox.recorded = outbox.entries ∧ outbox.warnings = [] := by
  have written := writes.written.trans (taken_all _ _)
  have recorded := writes.recorded.trans (taken_all _ _)
  have warned := writes.warned
  rw [written, recorded] at warned
  exact ⟨written, recorded, List.eq_nil_of_length_eq_zero (by omega)⟩

end Writes

end Outbox

end Switchboard
