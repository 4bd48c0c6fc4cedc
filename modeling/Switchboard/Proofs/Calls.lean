import Mathlib.Data.List.DropRight
import Mathlib.Tactic.Common
import Switchboard.Filter

/-! A filter that is called again and again, and the rule it goes by. The rule knows every call that
was ever recorded, where the filter keeps a queue for each sender and drops from its front what has
lost its force. For messages that arrive in order the two come to the same: a queue holds what still
was in force, when its sender was last heard, of the last calls recorded of them. -/
namespace Switchboard

/-- A message that a filter is asked about. -/
structure Call where
  clock : Clock
  sender : Account
  text : String
deriving Inhabited

namespace Call

def time (call : Call) : Nat := call.clock.elapsed

/-- The calls that are about messages of the account. -/
def own (id : AccountId) (calls : List Call) : List Call := calls.filter (·.sender.id == id)

/-- The clock does not go back from call to call. -/
def Steady (calls : List Call) : Prop :=
  calls.Pairwise fun earlier later => earlier.time ≤ later.time

instance (calls : List Call) : Decidable (Steady calls) :=
  inferInstanceAs (Decidable (List.Pairwise _ calls))

/-- A call at the time, about a text of the account. -/
def heardAt (time id : Nat) (text : String) (permissions : List Permission := []) : Call :=
  ⟨⟨time, 0, "noon"⟩, { id, name := "Ada", permissions }, text⟩

variable {id : AccountId} {call : Call}

theorem own_own (id : AccountId) (calls : List Call) : own id (own id calls) = own id calls := by
  simp [own, List.filter_filter]

theorem own_concat_self (call : Call) (calls : List Call) :
    own call.sender.id (calls ++ [call]) = own call.sender.id calls ++ [call] := by
  simp [own]

theorem own_concat_of_ne (differs : call.sender.id ≠ id) (calls : List Call) :
    own id (calls ++ [call]) = own id calls := by
  simp [own, differs]

end Call

namespace TextFilter

def answers (filter : TextFilter) : Memory → List Call → List (Call × Except Blocked String)
  | _, [] => []
  | memory, call :: rest =>
    let result := filter.run call.clock call.sender call.text memory
    (call, result.outcome) :: answers filter result.memory rest

/-- What the filter remembers after the calls. -/
def after (filter : TextFilter) (memory : Memory) (calls : List Call) : Memory :=
  calls.foldl (fun memory call =>
    (filter.run call.clock call.sender call.text memory).memory) memory

end TextFilter

/-! ## Rules -/

/-- What a rule says about a call. -/
inductive Ruling where
  /-- The message passes, and no record is made of it. -/
  | spared
  | blocked
  /-- The message passes and is recorded. -/
  | recorded
deriving DecidableEq, Repr

def Ruling.answer (notice : Message) (text : String) : Ruling → Except Blocked String
  | spared | recorded => .ok text
  | blocked => .error ⟨notice⟩

/-- A rule judges a call by all calls that were recorded before it. -/
abbrev Judge := List Call → Call → Ruling

namespace Judge

/-- The records once the call is judged. -/
def note (judge : Judge) (records : List Call) (call : Call) : List Call :=
  if judge records call = .recorded then records ++ [call] else records

def records (judge : Judge) (calls : List Call) : List Call := calls.foldl judge.note []

/-- Every call with the answer that the rule demands. -/
def answers (judge : Judge) (notice : Message) : List Call → List Call →
    List (Call × Except Blocked String)
  | _, [] => []
  | records, call :: rest =>
    (call, (judge records call).answer notice call.text) ::
      answers judge notice (judge.note records call) rest

/-- The rule looks at no other sender's records. -/
def Personal (judge : Judge) : Prop :=
  ∀ records call, judge (Call.own call.sender.id records) call = judge records call

variable {judge : Judge} {notice : Message} {records calls : List Call} {id : AccountId}
  {call : Call}

theorem own_note_self (personal : judge.Personal) (records : List Call) (call : Call) :
    Call.own call.sender.id (judge.note records call) =
      judge.note (Call.own call.sender.id records) call := by
  unfold note
  rw [personal]
  split
  · exact Call.own_concat_self call records
  · rfl

theorem own_note_of_ne (differs : call.sender.id ≠ id) (judge : Judge) (records : List Call) :
    Call.own id (judge.note records call) = Call.own id records := by
  unfold note
  split
  · exact Call.own_concat_of_ne differs records
  · rfl

/-- What a personal rule demands of one sender's calls it would demand without all others. -/
theorem answers_own (personal : judge.Personal) (id : AccountId) (records calls : List Call) :
    (judge.answers notice records calls).filter (fun answer => answer.1.sender.id == id) =
      judge.answers notice (Call.own id records) (Call.own id calls) := by
  induction calls generalizing records with
  | nil => rfl
  | cons call rest ih =>
    rw [answers, List.filter_cons, ih]
    by_cases mine : call.sender.id = id
    · subst mine
      have kept : Call.own call.sender.id (call :: rest) =
          call :: Call.own call.sender.id rest := by
        simp [Call.own]
      rw [if_pos (beq_self_eq_true _), own_note_self personal, kept, answers, personal]
    · have left : Call.own id (call :: rest) = Call.own id rest := by simp [Call.own, mine]
      rw [if_neg (by simpa using mine), own_note_of_ne mine, left]

end Judge

/-! ## Filters that go by a rule -/

/-- The filter answers as the rule demands, and what ties its memory to the records still does so
afterwards. -/
def TextFilter.Obeys (filter : TextFilter) (judge : Judge) (notice : Message)
    (keeps : Nat → List Call → Memory → Prop) : Prop :=
  ∀ now records memory call, now ≤ call.time → keeps now records memory →
    let result := filter.run call.clock call.sender call.text memory
    result.outcome = (judge records call).answer notice call.text ∧
      keeps call.time (judge.note records call) result.memory

/-- A filter that goes by a rule does so over all calls; `last` is when it was called last. -/
theorem TextFilter.Obeys.answers {filter : TextFilter} {judge : Judge} {notice : Message}
    {keeps : Nat → List Call → Memory → Prop} (obeys : filter.Obeys judge notice keeps)
    {now : Nat} {records calls : List Call} {memory : Memory} (steady : Call.Steady calls)
    (onward : ∀ call ∈ calls, now ≤ call.time) (kept : keeps now records memory) :
    filter.answers memory calls = judge.answers notice records calls ∧
      ∃ last, keeps last (calls.foldl judge.note records) (filter.after memory calls) ∧
        ∀ instant, now ≤ instant → (∀ call ∈ calls, call.time ≤ instant) → last ≤ instant := by
  induction calls generalizing now records memory with
  | nil => exact ⟨rfl, now, kept, fun _ after _ => after⟩
  | cons call rest ih =>
    obtain ⟨outcome, keptNext⟩ :=
      obeys now records memory call (onward call List.mem_cons_self) kept
    obtain ⟨onwardRest, steadyRest⟩ := List.pairwise_cons.mp steady
    obtain ⟨same, last, keptLast, latest⟩ := ih steadyRest onwardRest keptNext
    refine ⟨?_, last, keptLast, ?_⟩
    · rw [TextFilter.answers, Judge.answers, outcome, same]
    · intro instant _ all
      apply latest instant (all call List.mem_cons_self)
      intro other member
      exact all other (List.mem_cons_of_mem _ member)

/-- Where the rule looks at no other sender's records, the answers that a sender gets are those that
the filter gives when it is called for that sender alone. -/
theorem TextFilter.Obeys.answers_own {filter : TextFilter} {judge : Judge} {notice : Message}
    {keeps : Nat → List Call → Memory → Prop} (obeys : filter.Obeys judge notice keeps)
    (personal : judge.Personal) {calls : List Call} {memory : Memory} (steady : Call.Steady calls)
    (kept : keeps 0 [] memory) (id : AccountId) :
    (filter.answers memory calls).filter (fun answer => answer.1.sender.id == id) =
      filter.answers memory (Call.own id calls) := by
  have steadyOwn : Call.Steady (Call.own id calls) := steady.filter _
  rw [(obeys.answers steady (fun _ _ => Nat.zero_le _) kept).1,
    (obeys.answers steadyOwn (fun _ _ => Nat.zero_le _) kept).1, Judge.answers_own personal]
  rfl

/-! ## Queues -/

/-- Where nothing in force stands before something out of force, the latter is a front. -/
theorem dropWhile_eq_filter {α : Type u} {holds : α → Bool} {items : List α}
    (ordered : items.Pairwise fun first second => holds first = true → holds second = true) :
    items.dropWhile (fun item => !holds item) = items.filter holds := by
  induction items with
  | nil => rfl
  | cons item rest ih =>
    obtain ⟨onward, orderedRest⟩ := List.pairwise_cons.mp ordered
    cases held : holds item with
    | false => simp [held, ih orderedRest]
    | true =>
      have all : ∀ other ∈ rest, holds other = true := fun other member => onward other member held
      simp [held, List.filter_eq_self.mpr all]

/-- A call is in force for some time and then no more, and a later one is so for longer. -/
structure Fading (inForce : Nat → Call → Bool) : Prop where
  before : ∀ {seen now call}, seen ≤ now → inForce now call = true → inForce seen call = true
  newer : ∀ {now} {old new : Call}, old.time ≤ new.time →
    inForce now old = true → inForce now new = true

variable {α : Type} {inForce : Nat → Call → Bool} {last : List Call → List Call} {shown : Call → α}
  {seen now : Nat} {records calls : List Call} {call : Call}

theorem Fading.of_age (young : Nat → Bool)
    (younger : ∀ {age older}, age ≤ older → young older = true → young age = true) :
    Fading fun now call => young (now - call.time) where
  before after holds := younger (Nat.sub_le_sub_right after _) holds
  newer ordered holds := younger (Nat.sub_le_sub_left ordered _) holds

theorem Fading.ordered (fading : Fading inForce) (now : Nat) (steady : Call.Steady calls) :
    calls.Pairwise fun first second => inForce now first = true → inForce now second = true :=
  steady.imp fading.newer

theorem Fading.filter_filter (fading : Fading inForce) (after : seen ≤ now) (calls : List Call) :
    (calls.filter (inForce seen)).filter (inForce now) = calls.filter (inForce now) := by
  rw [List.filter_filter]
  apply List.filter_congr
  intro call _
  cases holds : inForce now call with
  | false => rfl
  | true => rw [fading.before after holds]; rfl

theorem Fading.dropWhile (fading : Fading inForce) (steady : Call.Steady calls) (after : seen ≤ now)
    {expired : α → Bool} (same : ∀ call, expired (shown call) = !inForce now call) :
    ((calls.filter (inForce seen)).map shown).dropWhile expired =
      (calls.filter (inForce now)).map shown := by
  have ordered := (fading.ordered now steady).filter (inForce seen)
  rw [List.dropWhile_map, ← fading.filter_filter after, ← dropWhile_eq_filter ordered]
  congr 2
  funext call
  exact same call

/-- Of each sender is stored what was in force, when the sender was last heard, of the last calls
recorded. -/
structure Keeps (inForce : Nat → Call → Bool) (last : List Call → List Call) (shown : Call → α)
    (now : Nat) (records : List Call) (stored : AccountId → List α) : Prop where
  past : ∀ call ∈ records, call.time ≤ now
  steady : Call.Steady records
  queue : ∀ id, ∃ seen ≤ now,
    stored id = ((last (Call.own id records)).filter (inForce seen)).map shown

namespace Keeps

variable {stored later : AccountId → List α} {judge : Judge}

theorem start (nothing : last [] = []) : Keeps inForce last shown now [] fun _ => [] where
  past _ member := absurd member List.not_mem_nil
  steady := List.Pairwise.nil
  queue id := ⟨now, Nat.le_refl _, by simp [Call.own, nothing]⟩

theorem steady_last (keeps : Keeps inForce last shown now records stored)
    (within : ∀ calls, (last calls).Sublist calls) (id : AccountId) :
    Call.Steady (last (Call.own id records)) :=
  (keeps.steady.filter _).sublist (within _)

/-- What of a queue is in force, now or at any later time, is what is in force of the last calls
recorded. -/
theorem dropWhile (keeps : Keeps inForce last shown now records stored) (fading : Fading inForce)
    (within : ∀ calls, (last calls).Sublist calls) {instant : Nat} (after : now ≤ instant)
    {expired : α → Bool} (same : ∀ call, expired (shown call) = !inForce instant call)
    (id : AccountId) :
    (stored id).dropWhile expired =
      ((last (Call.own id records)).filter (inForce instant)).map shown := by
  obtain ⟨seen, before, queue⟩ := keeps.queue id
  rw [queue]
  exact fading.dropWhile (keeps.steady_last within id) (Nat.le_trans before after) same

theorem suffix (keeps : Keeps inForce last shown now records stored) (fading : Fading inForce)
    (within : ∀ calls, (last calls).Sublist calls) (id : AccountId) :
    stored id <:+ (last (Call.own id records)).map shown := by
  obtain ⟨seen, -, queue⟩ := keeps.queue id
  have ordered := fading.ordered seen (keeps.steady_last within id)
  rw [queue, ← dropWhile_eq_filter ordered]
  exact (List.dropWhile_suffix _).map shown

theorem note_past (keeps : Keeps inForce last shown now records stored) (after : now ≤ call.time) :
    ∀ other ∈ judge.note records call, other.time ≤ call.time := by
  intro other member
  unfold Judge.note at member
  split at member
  · rcases List.mem_append.mp member with earlier | here
    · exact Nat.le_trans (keeps.past other earlier) after
    · rw [List.mem_singleton.mp here]
  · exact Nat.le_trans (keeps.past other member) after

theorem note_steady (keeps : Keeps inForce last shown now records stored)
    (after : now ≤ call.time) : Call.Steady (judge.note records call) := by
  unfold Judge.note
  split
  · apply List.pairwise_append.mpr
    refine ⟨keeps.steady, List.pairwise_singleton _ _, ?_⟩
    intro other earlier this here
    rw [List.mem_singleton.mp here]
    exact Nat.le_trans (keeps.past other earlier) after
  · exact keeps.steady

/-- A call is heard when the queue of its sender is brought up to date and the others are left. -/
theorem heard (keeps : Keeps inForce last shown now records stored) (after : now ≤ call.time)
    (own : later call.sender.id =
      ((last (Call.own call.sender.id (judge.note records call))).filter
        (inForce call.time)).map shown)
    (others : ∀ id, call.sender.id ≠ id → later id = stored id) :
    Keeps inForce last shown call.time (judge.note records call) later where
  past := keeps.note_past after
  steady := keeps.note_steady after
  queue id := by
    by_cases mine : call.sender.id = id
    · subst mine
      exact ⟨call.time, Nat.le_refl _, own⟩
    · obtain ⟨seen, before, same⟩ := keeps.queue id
      refine ⟨seen, Nat.le_trans before after, ?_⟩
      rw [others id mine, same, Judge.own_note_of_ne mine]

theorem spared (keeps : Keeps inForce last shown now records stored) (after : now ≤ call.time)
    (spares : judge records call = .spared) :
    Keeps inForce last shown call.time (judge.note records call) stored := by
  have unnoted : judge.note records call = records := by simp [Judge.note, spares]
  rw [unnoted]
  refine ⟨fun other member => Nat.le_trans (keeps.past other member) after, keeps.steady, ?_⟩
  intro id
  obtain ⟨seen, before, same⟩ := keeps.queue id
  exact ⟨seen, Nat.le_trans before after, same⟩

end Keeps

end Switchboard
