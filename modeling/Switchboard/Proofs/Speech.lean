import Mathlib.Tactic.Common
import Switchboard.Proofs.Hearing
import Switchboard.Proofs.Verdict

/-! What comes of what somebody says in an event, on a channel whose messages pass the filters. The
event fails and leaves no trace, or it ends as the verdict on one context that carries the text. -/
namespace Switchboard

/-- What a connected account says, and the channel it goes to. -/
structure Speech where
  sender : Account
  channel : Channel
  text : String

namespace Session

/-- What is said in the event. Chat that names no channel goes where its sender prefers, else to
the channel for such chat. -/
def speech? (session : Session) : Event → Option Speech
  | .chat id channel text => (session.directory.get? id).map fun sender =>
    ⟨sender, session.channelOf { Context.ofSender sender with channel }, text⟩
  | .direct id _ text => (session.directory.get? id).map fun sender => ⟨sender, .direct, text⟩
  | .alert id text => (session.directory.get? id).map fun sender => ⟨sender, .alert, text⟩
  | .connect .. | .disconnect _ | .switch .. | .prefer .. | .ignore .. | .unignore .. | .vanish ..
  | .mute .. | .spy .. | .toggle .. => none

variable {session : Session} {occurrence : Occurrence} {speech : Speech}

theorem speech_connected (spoken : session.speech? occurrence.event = some speech) :
    session.directory.get? speech.sender.id = some speech.sender := by
  obtain ⟨world, event⟩ := occurrence
  cases event with
  | chat id | direct id | alert id =>
    obtain ⟨sender, here, rfl⟩ := Option.map_eq_some_iff.mp spoken
    rw [Directory.id_of_get? here]
    exact here
  | connect | disconnect | switch | prefer | ignore | unignore | vanish | mute | spy | toggle =>
    cases spoken

theorem speech_spoken (spoken : session.speech? occurrence.event = some speech) :
    occurrence.event.spoken? = some (speech.sender.id, speech.text) := by
  obtain ⟨world, event⟩ := occurrence
  cases event with
  | chat id | direct id | alert id =>
    obtain ⟨sender, here, rfl⟩ := Option.map_eq_some_iff.mp spoken
    rw [Directory.id_of_get? here]
    rfl
  | connect | disconnect | switch | prefer | ignore | unignore | vanish | mute | spy | toggle =>
    cases spoken

/-- The event ends as the verdict on a context that carries the text. -/
def Judged (session : Session) (world : World) (speech : Speech) (report : Report) : Prop :=
  ∃ context result stage, context.message = some speech.text ∧
    session.Verdict world speech.channel context speech.sender result stage ∧
    report = {
      session := session.withFilters stage.filters
      result := (result.map some).mapError .rejected
      outbox := stage.outbox }

theorem submit_judged {world : World} {context : Context} (fresh : context.Fresh)
    (speaks : context.sender = some speech.sender) (wrote : context.message = some speech.text)
    (on : session.channelOf context = speech.channel)
    (filtering : session.filtering speech.channel = true) :
    session.Judged world speech (session.submit world context) := by
  obtain ⟨channel, result, stage, same, course, report⟩ := session.submit_course world context
  cases same.trans on
  have verdict := course_verdict course ⟨fresh.unfiltered, fresh.unparsed⟩ speaks filtering
  exact ⟨{ context with channel := some speech.channel }, result, stage, wrote, verdict, report⟩

/-- What a connected account says is sent in a context of its own, unless it addresses somebody who
is not connected. -/
theorem meet_submits (spoken : session.speech? occurrence.event = some speech) :
    (∃ error, session.meet occurrence = session.fail (.rejected error)) ∨
      ∃ context : Context, context.Fresh ∧ context.sender = some speech.sender ∧
        context.message = some speech.text ∧ session.channelOf context = speech.channel ∧
        session.meet occurrence = session.submit occurrence.world context := by
  obtain ⟨world, event⟩ := occurrence
  cases event with
  | chat id channel text | alert id text =>
    obtain ⟨sender, here, rfl⟩ := Option.map_eq_some_iff.mp spoken
    have submits (context : Account → Context) :
        session.submitFrom world id context = session.submit world (context sender) := by
      rw [submitFrom, here]
    refine .inr ⟨_, ?_, ?_, ?_, ?_, submits _⟩
    exacts [⟨rfl, rfl⟩, rfl, rfl, rfl]
  | direct id target text =>
    obtain ⟨sender, here, rfl⟩ := Option.map_eq_some_iff.mp spoken
    change (∃ error, session.sendDirect world id target text = _) ∨ ∃ context : Context, _ ∧ _ ∧
      _ ∧ _ ∧ session.sendDirect world id target text = _
    unfold sendDirect
    rw [here]
    cases session.directory.get? target with
    | none => exact .inl ⟨_, rfl⟩
    | some receiver =>
      exact .inr ⟨{ Context.ofSender sender with
        target := some receiver, message := some text, channel := some .direct },
        ⟨rfl, rfl⟩, rfl, rfl, rfl, rfl⟩
  | connect | disconnect | switch | prefer | ignore | unignore | vanish | mute | spy | toggle =>
    cases spoken

theorem meet_judged (spoken : session.speech? occurrence.event = some speech)
    (filtering : session.filtering speech.channel = true) :
    (∃ error, session.meet occurrence = session.fail (.rejected error)) ∨
      session.Judged occurrence.world speech (session.meet occurrence) := by
  refine (meet_submits spoken).imp_right ?_
  rintro ⟨context, fresh, speaks, wrote, on, submits⟩
  rw [submits]
  exact submit_judged fresh speaks wrote on filtering

theorem speech_of_spoken {id : AccountId} {raw : String}
    (spoken : occurrence.event.spoken? = some (id, raw)) :
    (∃ error, session.meet occurrence = session.fail error) ∨
      ∃ sender channel, session.directory.get? id = some sender ∧
        session.speech? occurrence.event = some ⟨sender, channel, raw⟩ := by
  obtain ⟨world, event⟩ := occurrence
  cases event with
  | chat id channel text | alert id text =>
    cases spoken
    cases here : session.directory.get? id with
    | none =>
      refine .inl ⟨.rejected (.unknownAccount id), ?_⟩
      change session.submitFrom world id _ = _
      rw [submitFrom, here]
    | some sender => exact .inr ⟨sender, _, rfl, by rw [speech?, here]; rfl⟩
  | direct id target text =>
    cases spoken
    cases here : session.directory.get? id with
    | none =>
      refine .inl ⟨.rejected (.unknownAccount id), ?_⟩
      change session.sendDirect world id target raw = _
      unfold sendDirect
      rw [here]
    | some sender => exact .inr ⟨sender, .direct, rfl, by rw [speech?, here]; rfl⟩
  | connect | disconnect | switch | prefer | ignore | unignore | vanish | mute | spy | toggle =>
    cases spoken

end Session

end Switchboard
