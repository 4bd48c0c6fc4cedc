import Mathlib.Tactic.Common
import Switchboard.Proofs.Hearing
import Switchboard.Proofs.Traces

/-! What a blocked message changes for those after it. Unless it came too soon it might as well not
have been written; a message that came too soon is remembered by the filter against repetitions
all the same, and counts there as if it had been sent. -/
namespace Switchboard

open Registry

namespace Filters

variable {config : Config} {active : Feature → Bool} {filters later : Filters} {clock : Clock}
  {sender : Account} {raw text : String} {message : Message} {blocked : Blocked}

/-- The features' filters block messages as texts or not at all, and all that changes one is that
its shortcodes are resolved. -/
theorem passage_cases (standing : filters.Standing config active) (clock : Clock)
    (sender : Account) (raw : String) : ∃ later,
    (∃ blocked, filters.filterText clock sender raw = (.error blocked, later) ∧
      filters.passage clock sender raw = (.error blocked, later)) ∨
    filters.filterText clock sender raw = (.ok raw, later) ∧
      filters.passage clock sender raw =
        (.ok (raw, resolved config active (.parse raw)), later) := by
  have standingAfter : (filters.filterText clock sender raw).2.Standing config active :=
    standing.filterText
  unfold passage
  rcases filtered : filters.filterText clock sender raw with ⟨blocked | text, later⟩
  · exact ⟨later, .inl ⟨blocked, rfl, rfl⟩⟩
  · have unchanged : text = raw := runText_text standing.configured filtered
    subst unchanged
    rw [filtered] at standingAfter
    refine ⟨later, .inr ⟨rfl, ?_⟩⟩
    dsimp only
    rw [standingAfter.filterMessage]

theorem filterText_of_stopped (standing : filters.Standing config active)
    (passage : filters.passage clock sender raw = (.error blocked, later)) :
    filters.filterText clock sender raw = (.error blocked, later) := by
  obtain ⟨last, ⟨stopped, run, same⟩ | ⟨run, same⟩⟩ := passage_cases standing clock sender raw
  · cases passage.symm.trans same
    exact run
  · cases passage.symm.trans same

theorem filterText_of_passed (standing : filters.Standing config active)
    (passage : filters.passage clock sender raw = (.ok (text, message), later)) :
    filters.filterText clock sender raw = (.ok text, later) := by
  obtain ⟨last, ⟨stopped, run, same⟩ | ⟨run, same⟩⟩ := passage_cases standing clock sender raw
  · cases passage.symm.trans same
  · cases passage.symm.trans same
    exact run

theorem passage_eq (standing : filters.Standing config active)
    (passage : filters.passage clock sender raw = (.ok (text, message), later)) :
    text = raw ∧ message = resolved config active (.parse raw) := by
  obtain ⟨last, ⟨stopped, run, same⟩ | ⟨run, same⟩⟩ := passage_cases standing clock sender raw
  · cases passage.symm.trans same
  · cases passage.symm.trans same
    exact ⟨rfl, rfl⟩

theorem passage_origin (standing : filters.Standing config active) {id : AccountId}
    {utterance : Utterance}
    (passage : filters.passage clock sender raw = (.ok (text, message), later))
    (member : utterance ∈ later.memory.utterances.get duplicationSlot id) :
    utterance ∈ filters.memory.utterances.get duplicationSlot id ∨
      id = sender.id ∧ utterance.text = raw := by
  have passed := filterText_of_passed standing passage
  have ran : (runText clock sender filters.text.entries raw filters).2 = later :=
    congrArg Prod.snd passed
  rw [← ran] at member
  exact runText_origin standing.configured member

end Filters

namespace Session

/-- The session blocks what the event says, by the feature's filter and for the reason. -/
structure Stops (session : Session) (occurrence : Occurrence) (sender : Account) (text : String)
    (feature : Feature) (reason : Message) : Prop where
  blocked : (session.meet occurrence).result = .ok (some (.blocked reason))
  spoken : occurrence.event.spoken? = some (sender.id, text)
  connected : session.directory.get? sender.id = some sender
  stopped : session.filters.StoppedBy occurrence.world.clock sender text feature reason

/-- The session in which only the filter against repetitions has seen the text, if it is on. -/
def noting (config : Config) (session : Session) (clock : Clock) (sender : Account)
    (text : String) : Session :=
  session.withMemory
    (session.filters.memory.noting config (session.isActive .antiDuplication) clock sender text)

variable {config : Config} {session : Session} {occurrence : Occurrence} {reason : Message}

theorem meet_stopped (standing : session.registry.Standing config)
    (blocked : (session.meet occurrence).result = .ok (some (.blocked reason))) :
    ∃ sender text feature left, session.Stops occurrence sender text feature reason ∧
      (session.meet occurrence).session = session.withMemory left ∧
      session.filters.memory.Trace config (session.isActive .antiDuplication)
        occurrence.world.clock sender text feature left := by
  rcases session.meet_heard occurrence with unheard | ⟨sender, text, spoken, connected, heard⟩
  · exact absurd blocked (unheard.unblocked reason)
  cases heard with
  | passed _ result => cases blocked.symm.trans result
  | stopped passage result kept =>
    cases blocked.symm.trans result
    have stopped := Filters.filterText_of_stopped standing.filters passage
    obtain ⟨feature, left, stoppedBy, rfl, trace⟩ :=
      Filters.filterText_stopped standing.filters stopped
    exact ⟨sender, text, feature, left, ⟨blocked, spoken, connected, stoppedBy⟩, kept, trace⟩

/-- What an event adds to the texts remembered is what it says, and then it was delivered, or
blocked for haste. -/
theorem meet_origin (standing : session.registry.Standing config) {id : AccountId}
    {utterance : Utterance}
    (member : utterance ∈
      (session.meet occurrence).session.filters.memory.utterances.get duplicationSlot id) :
    utterance ∈ session.filters.memory.utterances.get duplicationSlot id ∨
      occurrence.event.spoken? = some (id, utterance.text) ∧
        ((∃ copies, (session.meet occurrence).result = .ok (some (.delivered copies))) ∨
          ∃ sender reason, session.Stops occurrence sender utterance.text .antiSpam reason) := by
  rcases session.meet_heard occurrence with unheard | ⟨sender, text, spoken, connected, heard⟩
  · rw [unheard.kept] at member
    exact .inl member
  cases heard with
  | passed passage result kept =>
    rw [kept] at member
    rcases Filters.passage_origin standing.filters passage member with earlier | ⟨rfl, same⟩
    · exact .inl earlier
    · rw [same]
      exact .inr ⟨spoken, .inl ⟨_, result⟩⟩
  | stopped _ result =>
    obtain ⟨sender, text, feature, left, stops, kept, trace⟩ := meet_stopped standing result
    rw [kept] at member
    rcases trace.origin member with earlier | ⟨rfl, rfl, same⟩
    · exact .inl earlier
    · rw [same]
      exact .inr ⟨stops.spoken, .inr ⟨sender, _, stops⟩⟩

/-- An earlier event of the run in which the account said the text, and the message was delivered,
or blocked for haste. -/
def Source (config : Config) (run : List Occurrence) (id : AccountId) (text : String) : Prop :=
  ∃ past source rest, run = past ++ source :: rest ∧ source.event.spoken? = some (id, text) ∧
    ((∃ copies, (((ofConfig config).after past).meet source).result =
        .ok (some (.delivered copies))) ∨
      ∃ sender reason, ((ofConfig config).after past).Stops source sender text .antiSpam reason)

theorem Source.append {run : List Occurrence} {id : AccountId} {text : String}
    (found : Source config run id text) (last : Occurrence) :
    Source config (run ++ [last]) id text := by
  obtain ⟨past, source, rest, rfl, said⟩ := found
  exact ⟨past, source, rest ++ [last], by simp, said⟩

/-- Every text that is remembered has a source in the run. -/
theorem remembered_source (config : Config) (run : List Occurrence) {id : AccountId}
    {utterance : Utterance}
    (member : utterance ∈
      ((ofConfig config).after run).filters.memory.utterances.get duplicationSlot id) :
    Source config run id utterance.text := by
  -- Backward, so that the session before the last event is again one that the run has made.
  induction run using List.reverseRecOn with
  | nil =>
    have empty : (ofConfig config).filters.memory = {} := Registry.memory_ofConfig config
    rw [after, List.foldl_nil, empty] at member
    cases member
  | append_singleton run last ih =>
    rw [after_concat] at member
    rcases meet_origin (standing_after config run) member with earlier | ⟨spoken, said⟩
    · exact (ih earlier).append last
    · exact ⟨run, last, [], rfl, spoken, said⟩

/-- A blocked message leaves no more than its trace. Unless it was blocked for haste, and also where
the filter against repetitions would note nothing of it, all that happens later is as if it had not
been written. Blocked for haste, it is as if that filter alone had seen it. And a message is
blocked as a repetition only of one that was delivered, or that was itself blocked for haste. -/
theorem transcript_after_blocked (config : Config) (earlier later : List Occurrence)
    (occurrence : Occurrence) (reason : Message) (steady : Steady (occurrence :: later))
    (blocked : (((ofConfig config).after earlier).meet occurrence).result =
      .ok (some (.blocked reason))) :
    let before := (ofConfig config).after earlier
    let onward := (before.meet occurrence).session.transcript later
    ∃ sender text feature, before.Stops occurrence sender text feature reason ∧
      (feature ≠ .antiSpam ∨ before.isActive .antiDuplication = false ∨
          sender.holds .bypassAntiDuplicate = true ∨ config.pastMessages = 0 →
        onward = before.transcript later) ∧
      (feature = .antiSpam →
        onward = (before.noting config occurrence.world.clock sender text).transcript later) ∧
      (feature = .antiDuplication → Source config earlier sender.id text) := by
  intro before onward
  have standing : before.registry.Standing config := standing_after config earlier
  obtain ⟨sender, text, feature, left, stops, kept, trace⟩ := meet_stopped standing blocked
  obtain ⟨inTime, steadyLater⟩ := List.pairwise_cons.mp steady
  have follows : onward = (before.withMemory left).transcript later := by
    rw [← kept]
  refine ⟨sender, text, feature, stops, ?_, ?_, ?_⟩
  · intro unmarked
    rw [follows]
    have alike := trace.alike_of_unmarked unmarked
    exact transcript_twins steadyLater inTime ⟨standing, left, rfl, alike⟩
  · rintro rfl
    rw [follows]
    have alike := trace.alike_noting
    exact transcript_twins steadyLater inTime ⟨standing.withMemory _, left, rfl, alike⟩
  · rintro rfl
    cases trace with
    | repeated known =>
      obtain ⟨utterance, member, rfl⟩ := known
      exact remembered_source config earlier member

/-! ## Somebody in haste

One message a minute is allowed, and the second is written again once nothing is too soon. -/

def hurrying : Config where
  enabled feature := feature != .emoji && feature.initiallyOn
  messagesPerMinute := 1

def arriving : Occurrence := ⟨default, .connect 1 "ada" (some "lobby") [] none⟩

def saying (text : String) : Occurrence := ⟨default, .chat 1 (some .globalChat) text⟩

def relaxing : Occurrence := ⟨default, .toggle .antiSpam false⟩

theorem transcript_after_blocked_hurrying :
    let before := (ofConfig hurrying).after [arriving, saying "a"]
    let reason := Message.ofText hurrying.notices.antiSpam
    (before.meet (saying "b")).result = .ok (some (.blocked reason)) ∧
    ∃ sender text feature, before.Stops (saying "b") sender text feature reason ∧
      (feature = .antiSpam →
        (before.meet (saying "b")).session.transcript [relaxing, saying "b"] =
          (before.noting hurrying default sender text).transcript [relaxing, saying "b"]) := by
  intro before reason
  have blocked : (before.meet (saying "b")).result = .ok (some (.blocked reason)) := rfl
  have steady : Steady [saying "b", relaxing, saying "b"] := by
    simp [Steady, saying, relaxing, Occurrence.time]
  obtain ⟨sender, text, feature, stops, -, hasty, -⟩ :=
    transcript_after_blocked hurrying [arriving, saying "a"] [relaxing, saying "b"] (saying "b")
      reason steady blocked
  exact ⟨blocked, sender, text, feature, stops, hasty⟩

/-- It is not so that a blocked message might as well not have been written. -/
theorem transcript_after_blocked_differs :
    ¬∀ (config : Config) (earlier later : List Occurrence) (occurrence : Occurrence)
      (reason : Message), Steady (earlier ++ occurrence :: later) →
      (((ofConfig config).after earlier).meet occurrence).result = .ok (some (.blocked reason)) →
      (((ofConfig config).after earlier).meet occurrence).session.transcript later =
        ((ofConfig config).after earlier).transcript later := by
  intro traceless
  have steady : Steady ([arriving, saying "a"] ++ saying "b" :: [relaxing, saying "b"]) := by
    simp [Steady, arriving, saying, relaxing, Occurrence.time]
  have same := traceless hurrying [arriving, saying "a"] [relaxing, saying "b"] (saying "b")
    (.ofText hurrying.notices.antiSpam) steady rfl
  have results : [Except.ok none,
      .ok (some (.blocked (.ofText hurrying.notices.antiDuplication)))] =
      ([.ok none, .ok (some (.delivered 1))] : List (Except SessionError (Option Outcome))) :=
    congrArg (List.map Prod.fst) same
  cases results

end Session

end Switchboard
