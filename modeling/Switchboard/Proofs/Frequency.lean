import Mathlib.Tactic.Common
import Switchboard.Proofs.Calls

/-! The rule against too many messages within a minute. -/
namespace Switchboard

namespace RateLimit

/-- Nothing is recorded of senders whom no limit binds. A message of another passes if fewer than
`limit` of those recorded of its sender lie less than a minute back. -/
def judge (limit : Nat) : Judge := fun records call =>
  if call.sender.holds .bypassAntiSpam then .spared
  else if (Call.own call.sender.id records).countP (fun past => call.time - past.time < window) <
      limit then .recorded
  else .blocked

def inForce (now : Nat) (call : Call) : Bool := now - call.time < window

variable {limit : Nat} {records calls : List Call} {call : Call}

theorem fading : Fading inForce := by
  apply Fading.of_age fun age => age < window
  intro age older before young
  exact decide_eq_true (before.trans_lt (of_decide_eq_true young))

theorem expired_time (now : Nat) (call : Call) :
    decide (now - call.time ≥ window) = !inForce now call := by
  simp only [inForce, ge_iff_le, ← Nat.not_lt, decide_not]

theorem judge_personal (limit : Nat) : (judge limit).Personal := by
  intro records call
  simp only [judge, Call.own_own]

/-- What is remembered under the limit ties in with the records, and is no more than the limit
allows. -/
structure Within (limit now : Nat) (records : List Call) (stored : AccountId → List Nat) :
    Prop where
  keeps : Keeps inForce id Call.time now records stored
  room : ∀ id, (stored id).length ≤ limit

theorem Within.room_after {now : Nat} {stored later : AccountId → List Nat}
    (within : Within limit now records stored)
    (own : (later call.sender.id).length ≤ limit)
    (others : ∀ id, call.sender.id ≠ id → later id = stored id) (id : AccountId) :
    (later id).length ≤ limit := by
  by_cases mine : call.sender.id = id
  · subst mine
    exact own
  · rw [others id mine]
    exact within.room id

theorem obeys (limit : Nat) (notice : Message) (slot : Nat) :
    (TextFilter.rateLimit limit notice slot).Obeys (judge limit) notice fun now records memory =>
      Within limit now records (memory.times.get slot) := by
  intro now records memory call after within
  have keeps := within.keeps
  simp only [TextFilter.run, TextFilter.runRateLimit]
  split
  case isTrue bypasses =>
    have spares : judge limit records call = .spared := if_pos bypasses
    rw [spares]
    exact ⟨rfl, keeps.spared after spares, within.room⟩
  case isFalse bound =>
    -- What is left of the queue is what the rule counts.
    let recent := (Call.own call.sender.id records).filter (inForce call.time)
    have fresh : current call.clock.elapsed (memory.times.get slot call.sender.id) =
        recent.map Call.time :=
      keeps.dropWhile fading (fun _ => List.Sublist.refl _) after (expired_time _) _
    have counted : (Call.own call.sender.id records).countP
        (fun past => call.time - past.time < window) = (recent.map Call.time).length := by
      rw [List.length_map, List.countP_eq_length_filter]
      rfl
    have others (history : List Nat) (id : AccountId) (differs : call.sender.id ≠ id) :
        (memory.times.keep slot call.sender.id history).get slot id = memory.times.get slot id :=
      Histories.get_keep_of_ne _ _ _ _ differs.symm
    simp only [accept, fresh]
    split
    case isTrue full =>
      have blocks : judge limit records call = .blocked := by
        rw [judge, if_neg bound, if_neg]
        rw [counted]
        exact Nat.not_lt.mpr full
      have unnoted : (judge limit).note records call = records := by simp [Judge.note, blocks]
      have own := Histories.get_keep_self memory.times slot call.sender.id (recent.map Call.time)
      have room : (recent.map Call.time).length ≤ limit := by
        rw [← fresh]
        exact (List.dropWhile_sublist _).length_le.trans (within.room _)
      rw [blocks]
      refine ⟨rfl, keeps.heard after ?_ (others _), within.room_after ?_ (others _)⟩
      · rw [own, unnoted]
        rfl
      · rw [own]
        exact room
    case isFalse free =>
      have passes : judge limit records call = .recorded := by
        rw [judge, if_neg bound, if_pos]
        rw [counted]
        exact Nat.not_le.mp free
      have noted : (judge limit).note records call = records ++ [call] := by
        simp [Judge.note, passes]
      have newest : inForce call.time call = true := by
        simp [inForce, window, Clock.second, Clock.millisecond]
      have own := Histories.get_keep_self memory.times slot call.sender.id
        (recent.map Call.time ++ [call.clock.elapsed])
      rw [passes]
      refine ⟨rfl, keeps.heard after ?_ (others _), within.room_after ?_ (others _)⟩
      · rw [own, noted, Call.own_concat_self]
        simp [recent, newest]
        rfl
      · rw [own, List.length_append]
        exact Nat.not_le.mp free

end RateLimit

/-- For messages that arrive in order the filter answers as the rule demands, by the messages
recorded of the sender alone, and leaves the text of each as it is. The queue of a sender never
holds more than `limit` times; it holds the newest of those recorded, and at any later time all of
the last minute. -/
theorem TextFilter.rateLimit_refines (limit : Nat) (notice : Message) (slot : Nat)
    (calls : List Call) (steady : Call.Steady calls) :
    let filter := TextFilter.rateLimit limit notice slot
    let judge := RateLimit.judge limit
    filter.answers {} calls = judge.answers notice [] calls ∧
      (∀ id,
        (filter.answers {} calls).filter (fun answer => answer.1.sender.id == id) =
          filter.answers {} (Call.own id calls)) ∧
      ∀ id,
        let queue := (filter.after {} calls).times.get slot id
        let recorded := Call.own id (judge.records calls)
        queue.length ≤ limit ∧ queue <:+ recorded.map Call.time ∧
          ∀ now, (∀ call ∈ calls, call.time ≤ now) →
            RateLimit.current now queue =
              (recorded.filter (RateLimit.inForce now)).map Call.time := by
  intro filter judge
  have obeys := RateLimit.obeys limit notice slot
  have start : RateLimit.Within limit 0 [] (({} : Memory).times.get slot) :=
    ⟨Keeps.start rfl, fun _ => Nat.zero_le _⟩
  have whole (calls : List Call) : (id calls).Sublist calls := List.Sublist.refl calls
  obtain ⟨answers, instant, within, latest⟩ := obeys.answers steady (fun _ _ => Nat.zero_le _) start
  refine ⟨answers, obeys.answers_own (RateLimit.judge_personal limit) steady start, ?_⟩
  intro account queue recorded
  refine ⟨within.room account, within.keeps.suffix RateLimit.fading whole account, ?_⟩
  intro now after
  have since : instant ≤ now := latest now (Nat.zero_le now) after
  exact within.keeps.dropWhile RateLimit.fading whole since (RateLimit.expired_time _) _

def haste : List Call :=
  [.heardAt 5 1 "a", .heardAt 5 1 "b", .heardAt 5 1 "c", .heardAt 5 2 "a",
    .heardAt 6 1 "d" [.bypassAntiSpam], .heardAt 60000000004 1 "e", .heardAt 60000000005 1 "f",
    .heardAt 60000000005 1 "g", .heardAt 60000000006 1 "h"]

/-- With two messages a minute the third at the same instant is blocked and leaves no record, and
those of the first instant count until the minute is over. -/
theorem TextFilter.rateLimit_refines_haste :
    Call.Steady haste ∧
      ((TextFilter.rateLimit 2 ⟨[]⟩ 0).answers {} haste).map (fun answer => answer.2.isOk) =
        [true, true, false, true, true, false, true, true, false] := by
  have steady : Call.Steady haste := by decide
  refine ⟨steady, ?_⟩
  rw [(TextFilter.rateLimit_refines 2 ⟨[]⟩ 0 haste steady).1]
  decide

end Switchboard
