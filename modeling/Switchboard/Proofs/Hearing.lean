import Mathlib.Tactic.Common
import Switchboard.Proofs.Rejection
import Switchboard.Proofs.Runs
import Switchboard.Proofs.Verdict

/-! Which events the filters hear of. An event changes what the filters remember only by taking
what somebody says through the two chains, and then it is either blocked or delivered. -/
namespace Switchboard

/-- Who says what in the event, if anybody says anything. -/
def Event.spoken? : Event → Option (AccountId × String)
  | chat id _ message | direct id _ message | alert id message => some (id, message)
  | connect .. | disconnect _ | switch .. | prefer .. | ignore .. | unignore .. | vanish ..
  | mute .. | spy .. | toggle .. => none

theorem Directory.Speaks.spoken {directory : Directory} {event : Event} {sender : Account}
    {context : Context} {raw : String} (speaks : directory.Speaks event sender context)
    (wrote : context.message = some raw) : event.spoken? = some (sender.id, raw) := by
  cases speaks with
  | chat here | alert here | direct here =>
    cases wrote
    rw [Directory.id_of_get? here]
    rfl

namespace Session

/-- The filters heard of nothing. -/
structure Unheard (session : Session) (report : Report) : Prop where
  kept : report.session.filters.memory = session.filters.memory
  unblocked : ∀ reason, report.result ≠ .ok (some (.blocked reason))

/-- What comes of a text that goes through the two chains. -/
inductive Heard (session : Session) (clock : Clock) (sender : Account) (raw : String)
    (report : Report) : Prop where
  | stopped (passage : session.filters.passage clock sender raw = (.error ⟨reason⟩, later))
      (result : report.result = .ok (some (.blocked reason)))
      (kept : report.session = session.withFilters later)
  | passed (passage : session.filters.passage clock sender raw = (.ok (text, message), later))
      (result : report.result = .ok (some (.delivered copies)))
      (kept : report.session = session.withFilters later)

variable {session : Session} {world : World} {context : Context} {sender : Account}
  {channel : Channel} {raw : String} {id : AccountId}

/-- A text that is processed passes the chains, or none of them sees it. -/
theorem processed_passage {filtered : Option String} {message : Message} {later : Filters}
    (processed : session.processed world.clock sender channel raw =
      (.ok (filtered, message), later)) :
    later = session.filters ∨
      ∃ text, session.filters.passage world.clock sender raw = (.ok (text, message), later) := by
  cases filtering : session.filtering channel with
  | true => exact .inr (passage_of_ready filtering processed)
  | false =>
    rw [Session.processed, if_neg (ne_true_of_eq_false filtering)] at processed
    cases processed
    exact .inl rfl

theorem heard_of_ready {ready : Context} {later : Filters} {copies : Nat} {outbox : Outbox}
    (fresh : context.Fresh) (speaks : context.sender = some sender)
    (processes : session.Processes world context channel (.ok (.ok ready)) later) :
    let report : Report :=
      { session := session.withFilters later, result := .ok (some (.delivered copies)), outbox }
    session.Unheard report ∨
      ∃ raw, context.message = some raw ∧ session.Heard world.clock sender raw report := by
  obtain ⟨raw, filtered, message, wrote, processed, -⟩ := processes.ready_of_fresh fresh speaks
  rcases processed_passage processed with rfl | ⟨text, passage⟩
  · exact .inl ⟨rfl, fun _ => nofun⟩
  · exact .inr ⟨raw, wrote, .passed passage rfl rfl⟩

theorem course_heard {result : Except ContextError Outcome} {stage : Stage}
    (course : session.Course world context channel result stage) (fresh : context.Fresh)
    (speaks : context.sender = some sender) :
    let report : Report := {
      session := session.withFilters stage.filters
      result := (result.map some).mapError .rejected
      outbox := stage.outbox }
    session.Unheard report ∨
      ∃ raw, context.message = some raw ∧ session.Heard world.clock sender raw report := by
  cases course with
  | unsound | announcedTwice | announced | refused => exact .inl ⟨rfl, fun _ => nofun⟩
  | processedTwice stale => exact absurd fresh stale
  | blocked filtering _ processes =>
    obtain ⟨raw, wrote, processed⟩ := processes.blocked_of_fresh fresh speaks
    exact .inr ⟨raw, wrote, .stopped (passage_of_blocked filtering processed) rfl rfl⟩
  | broadcast _ _ _ processes => exact heard_of_ready fresh speaks processes
  | nearby _ _ processes => exact heard_of_ready fresh speaks processes
  | direct _ _ processes => exact heard_of_ready fresh speaks processes

theorem submit_heard (fresh : context.Fresh) (speaks : context.sender = some sender) :
    session.Unheard (session.submit world context) ∨
      ∃ raw, context.message = some raw ∧
        session.Heard world.clock sender raw (session.submit world context) := by
  obtain ⟨channel, result, stage, -, course, report⟩ := session.submit_course world context
  have heard := course_heard course ⟨fresh.unfiltered, fresh.unparsed⟩ speaks
  rw [report]
  exact heard

theorem submit_unheard (fresh : context.Fresh) (speaks : context.sender = some sender)
    (silent : context.message = none) : session.Unheard (session.submit world context) := by
  rcases submit_heard fresh speaks with unheard | ⟨raw, wrote, -⟩
  · exact unheard
  · cases silent.symm.trans wrote

/-- All that an event can have to do with the filters, beside turning them on and off. -/
theorem meet_heard (session : Session) (occurrence : Occurrence) :
    session.Unheard (session.meet occurrence) ∨
      ∃ sender raw, occurrence.event.spoken? = some (sender.id, raw) ∧
        session.directory.get? sender.id = some sender ∧
        session.Heard occurrence.world.clock sender raw (session.meet occurrence) := by
  obtain ⟨world, event⟩ := occurrence
  obtain ⟨plan, asks, handled⟩ := session.handle_cases world event
  rw [meet, handled]
  cases asks with
  | fail | change =>
    refine .inl ⟨rfl, fun reason blocked => ?_⟩
    cases blocked
  | toggle feature on =>
    refine .inl ⟨session.registry.memory_setEnabled feature on, fun reason blocked => ?_⟩
    cases blocked
  | @notice _ account channel during =>
    have unheard : ({ session with directory := during } : Session).Unheard
        (submit _ world { Context.ofSender account with channel := some channel }) :=
      submit_unheard ⟨rfl, rfl⟩ rfl rfl
    exact .inl ⟨unheard.kept, unheard.unblocked⟩
  | speech speaks =>
    rw [carryOut_send]
    refine (submit_heard speaks.fresh speaks.sender_eq).imp_right ?_
    rintro ⟨raw, wrote, heard⟩
    exact ⟨_, raw, speaks.spoken wrote, speaks.connected, heard⟩

end Session

end Switchboard
