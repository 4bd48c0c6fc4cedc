import Mathlib.Tactic.Common
import Switchboard.Proofs.Calls

/-! The rule against repetitions. -/
namespace Switchboard

def Call.utterance (call : Call) : Utterance := ⟨call.time, call.text⟩

namespace DuplicationRule

/-- Nothing is recorded where nothing is to be remembered, nor of senders whom the rule spares. A
text is blocked if one of the last messages recorded of its sender has it and is not too old. -/
def judge (rule : DuplicationRule) : Judge := fun records call =>
  if rule.capacity = 0 ∨
      (rule.sparesExempt = true ∧ call.sender.holds .bypassAntiDuplicate = true) then .spared
  else if ∃ past ∈ (Call.own call.sender.id records).rtake rule.capacity,
      past.text = call.text ∧ call.time - past.time ≤ rule.expiry then .blocked
  else .recorded

def inForce (rule : DuplicationRule) (now : Nat) (call : Call) : Bool :=
  now - call.time ≤ rule.expiry

variable {rule : DuplicationRule} {calls : List Call} {call : Call}

theorem fading (rule : DuplicationRule) : Fading rule.inForce := by
  apply Fading.of_age fun age => age ≤ rule.expiry
  intro age older before young
  exact decide_eq_true (before.trans (of_decide_eq_true young))

theorem expired_utterance (rule : DuplicationRule) (now : Nat) (call : Call) :
    (decide (now - call.utterance.time > rule.expiry)) = !rule.inForce now call := by
  simp only [inForce, gt_iff_lt, ← Nat.not_le, decide_not]
  rfl

theorem last_sublist (rule : DuplicationRule) (calls : List Call) :
    (calls.rtake rule.capacity).Sublist calls :=
  List.drop_sublist _ _

theorem length_last_le (rule : DuplicationRule) (calls : List Call) :
    (calls.rtake rule.capacity).length ≤ rule.capacity := by
  rw [List.rtake, List.length_drop]
  omega

theorem judge_personal (rule : DuplicationRule) : rule.judge.Personal := by
  intro records call
  simp only [judge, Call.own_own]

/-- Of the last `n + 1` items those that hold are kept, and the first of them is dropped if these
are all: what is left are those that hold of the last `n`, as the oldest is the first that ceases
to. -/
theorem filter_rtake_succ {α : Type} {holds : α → Bool} {items : List α}
    (ordered : items.Pairwise fun first second => holds first = true → holds second = true)
    (n : Nat) :
    (if ((items.rtake (n + 1)).filter holds).length ≥ n + 1 then
      ((items.rtake (n + 1)).filter holds).drop 1
    else (items.rtake (n + 1)).filter holds) = (items.rtake n).filter holds := by
  by_cases few : items.length ≤ n
  · have whole (m : Nat) (enough : items.length ≤ m) : items.rtake m = items := by
      rw [List.rtake, Nat.sub_eq_zero_of_le enough, List.drop_zero]
    have fewer := List.length_filter_le holds items
    rw [whole n few, whole (n + 1) (by omega), if_neg (by omega)]
  -- Otherwise there is an oldest item: if it holds, so do all, and if not, none need give way.
  obtain ⟨oldest, more⟩ : ∃ oldest, items.rtake (n + 1) = oldest :: items.rtake n := by
    have next : items.length - (n + 1) + 1 = items.length - n := by omega
    refine ⟨items.get ⟨items.length - (n + 1), by omega⟩, ?_⟩
    rw [List.rtake, List.drop_eq_getElem_cons (by omega), next, List.rtake, List.get_eq_getElem]
  have length : (items.rtake n).length = n := by
    rw [List.rtake, List.length_drop]
    omega
  have orderedLast : (items.rtake (n + 1)).Pairwise fun first second =>
      holds first = true → holds second = true := ordered.sublist (List.drop_sublist _ _)
  rw [more] at orderedLast ⊢
  cases held : holds oldest with
  | false =>
    have fewer := List.length_filter_le holds (items.rtake n)
    rw [List.filter_cons_of_neg (by simp [held]), if_neg (by omega)]
  | true =>
    have all : (items.rtake n).filter holds = items.rtake n :=
      List.filter_eq_self.mpr fun item member =>
        (List.pairwise_cons.mp orderedLast).1 item member held
    rw [List.filter_cons_of_pos held, all, if_pos (by simp [length]), List.drop_one, List.tail_cons]

/-- Recording a message in the queue keeps it to the last ones recorded. -/
theorem record_filter (remembers : rule.capacity ≠ 0) (steady : Call.Steady calls) (call : Call) :
    rule.record call.utterance
        (((calls.rtake rule.capacity).filter (rule.inForce call.time)).map Call.utterance) =
      (((calls ++ [call]).rtake rule.capacity).filter (rule.inForce call.time)).map
        Call.utterance := by
  obtain ⟨n, capacity⟩ := Nat.exists_eq_succ_of_ne_zero remembers
  have ordered := rule.fading.ordered call.time steady
  have current : rule.inForce call.time call = true := by simp [inForce]
  rw [capacity, List.rtake_concat_succ, List.filter_append, ← filter_rtake_succ ordered n]
  simp only [record, capacity, List.length_map, List.map_append, Nat.succ_eq_add_one]
  split
  · simp [current]
  · simp [current]

theorem obeys (rule : DuplicationRule) (notice : Message) (slot : Nat) :
    (TextFilter.duplication rule notice slot).Obeys rule.judge notice fun now records memory =>
      Keeps rule.inForce (·.rtake rule.capacity) Call.utterance now records
        (memory.utterances.get slot) := by
  intro now records memory call after keeps
  simp only [TextFilter.run, TextFilter.runDuplication]
  split
  case isTrue spared =>
    have spares : rule.judge records call = .spared := if_pos spared
    rw [spares]
    exact ⟨rfl, keeps.spared after spares⟩
  case isFalse bound =>
    have remembers : rule.capacity ≠ 0 := fun none => bound (.inl none)
    have steady : Call.Steady (Call.own call.sender.id records) := keeps.steady.filter _
    -- Without its expired front the queue holds just what the rule looks at.
    have fresh : rule.remembered call.clock.elapsed (memory.utterances.get slot call.sender.id) =
        (((Call.own call.sender.id records).rtake rule.capacity).filter
          (rule.inForce call.time)).map Call.utterance :=
      keeps.dropWhile rule.fading rule.last_sublist after (rule.expired_utterance _) _
    simp only [accept, fresh]
    split
    case isTrue found =>
      have blocks : rule.judge records call = .blocked := by
        rw [judge, if_neg bound, if_pos]
        simpa [inForce, Call.utterance, and_assoc, and_comm, and_left_comm] using found
      have unnoted : rule.judge.note records call = records := by simp [Judge.note, blocks]
      rw [blocks]
      refine ⟨rfl, keeps.heard after ?_ ?_⟩
      · rw [unnoted]
        exact Histories.get_keep_self _ _ _ _
      · intro id differs
        exact Histories.get_keep_of_ne _ _ _ _ differs.symm
    case isFalse missing =>
      have passes : rule.judge records call = .recorded := by
        rw [judge, if_neg bound, if_neg]
        simpa [inForce, Call.utterance, and_assoc, and_comm, and_left_comm] using missing
      have noted : rule.judge.note records call = records ++ [call] := by
        simp [Judge.note, passes]
      rw [passes]
      refine ⟨rfl, keeps.heard after ?_ ?_⟩
      · rw [noted, Call.own_concat_self]
        exact (Histories.get_keep_self _ _ _ _).trans (record_filter remembers steady call)
      · intro id differs
        exact Histories.get_keep_of_ne _ _ _ _ differs.symm

end DuplicationRule

/-- For messages that arrive in order the filter answers as the rule demands, by the last messages
recorded of the sender alone. The queue of a sender never exceeds the capacity and is ordered by
time; it holds the newest of the last messages recorded, and at any later time those that are not
too old. -/
theorem TextFilter.duplication_refines (rule : DuplicationRule) (notice : Message) (slot : Nat)
    (calls : List Call) (steady : Call.Steady calls) :
    let filter := TextFilter.duplication rule notice slot
    filter.answers {} calls = rule.judge.answers notice [] calls ∧
      (∀ id,
        (filter.answers {} calls).filter (fun answer => answer.1.sender.id == id) =
          filter.answers {} (Call.own id calls)) ∧
      ∀ id,
        let queue := (filter.after {} calls).utterances.get slot id
        let last := (Call.own id (rule.judge.records calls)).rtake rule.capacity
        queue.length ≤ rule.capacity ∧
          queue.Pairwise (fun older newer => older.time ≤ newer.time) ∧
          queue <:+ last.map Call.utterance ∧
          ∀ now, (∀ call ∈ calls, call.time ≤ now) →
            rule.remembered now queue = (last.filter (rule.inForce now)).map Call.utterance := by
  intro filter
  have obeys := rule.obeys notice slot
  have start : Keeps rule.inForce (·.rtake rule.capacity) Call.utterance 0 []
      (({} : Memory).utterances.get slot) := Keeps.start (List.rtake_nil _)
  obtain ⟨answers, instant, keeps, latest⟩ := obeys.answers steady (fun _ _ => Nat.zero_le _) start
  refine ⟨answers, obeys.answers_own rule.judge_personal steady start, ?_⟩
  intro id queue last
  have suffix : queue <:+ last.map Call.utterance := keeps.suffix rule.fading rule.last_sublist id
  have steadyLast : Call.Steady last := keeps.steady_last rule.last_sublist id
  refine ⟨?_, ?_, suffix, ?_⟩
  · calc
      queue.length ≤ (last.map Call.utterance).length := suffix.length_le
      _ = last.length := List.length_map _
      _ ≤ rule.capacity := DuplicationRule.length_last_le rule _
  · have ordered : (last.map Call.utterance).Pairwise fun older newer => older.time ≤ newer.time :=
      List.pairwise_map.mpr steadyLast
    exact ordered.sublist suffix.sublist
  · intro now after
    have since : instant ≤ now := latest now (Nat.zero_le now) after
    exact keeps.dropWhile rule.fading rule.last_sublist since (rule.expired_utterance _) _

/-- Two accounts repeat themselves; one of them may do so for once. -/
def echoes : List Call :=
  [.heardAt 0 1 "hi", .heardAt 0 2 "hi", .heardAt 10 1 "hi", .heardAt 11 1 "hi",
    .heardAt 12 1 "hi" [.bypassAntiDuplicate], .heardAt 12 1 "a", .heardAt 12 1 "b",
    .heardAt 13 1 "hi", .heardAt 13 1 "b"]

/-- Where two messages are remembered for ten nanoseconds, a text is a repetition at ten and none
at eleven; later on it passes again once two others have come between. -/
theorem TextFilter.duplication_refines_echoes :
    Call.Steady echoes ∧
      ((TextFilter.duplication ⟨2, 10, true⟩ ⟨[]⟩ 0).answers {} echoes).map
          (fun answer => answer.2.isOk) =
        [true, true, false, true, true, true, true, true, false] := by
  have steady : Call.Steady echoes := by decide
  refine ⟨steady, ?_⟩
  rw [(TextFilter.duplication_refines ⟨2, 10, true⟩ ⟨[]⟩ 0 echoes steady).1]
  decide

end Switchboard
