import Mathlib.Tactic.Common
import Switchboard.Proofs.Handling
import Switchboard.Proofs.Recipients

/-! Events that come to nothing leave no trace. An event that changes the session and then tells
of it cannot fail any more once it has changed something, because a notice of an account's coming,
moving or leaving has all that its channel requires; everything else fails before it changes
anything. -/
namespace Switchboard

/-- A message was turned away, its sender was told so, and nothing else happened. -/
structure Report.TurnedAway (report : Report) (session : Session) (sender : Account)
    (reason : Message) : Prop where
  unchanged : report.session = session
  result : report.result = .ok (some (.refused reason))
  answered : report.outbox.deliveries = [⟨sender, reason⟩]
  unlogged : report.outbox.entries = []

namespace Session

variable {session : Session} {world : World} {context : Context} {error : SessionError}
  {reason : Message}

/-- A context that was not processed before fails before any filter runs. -/
theorem submit_error (fresh : context.Fresh)
    (failed : (session.submit world context).result = .error error) :
    session.submit world context = session.fail error := by
  obtain ⟨channel, result, stage, -, course, report⟩ := session.submit_course world context
  rw [report] at failed ⊢
  cases course with
  | unsound =>
    cases failed
    rfl
  | announcedTwice _ _ parsed =>
    have unparsed : context.rendered = none := fresh.unparsed
    rw [unparsed] at parsed
    cases parsed
  | processedTwice stale => exact absurd ⟨fresh.unfiltered, fresh.unparsed⟩ stale
  | announced | refused | blocked | broadcast | nearby | direct => cases failed

theorem submit_refused
    (refused : (session.submit world context).result = .ok (some (.refused reason))) :
    ∃ sender target, context.sender = some sender ∧ context.target = some target ∧
      (session.submit world context).TurnedAway session sender reason := by
  obtain ⟨channel, result, stage, -, course, report⟩ := session.submit_course world context
  rw [report] at refused ⊢
  cases course with
  | refused _ speaks addressed =>
    cases refused
    refine ⟨_, _, speaks, addressed, rfl, rfl, ?_, ?_⟩
    · exact Outbox.deliveries_deliver ..
    · exact Outbox.entries_deliver ..
  | unsound | announcedTwice | processedTwice | announced | blocked | broadcast | nearby | direct =>
    cases refused

/-! ## Events -/

/-- Only what somebody says can fail once it is dispatched, and it fails before any filter runs. -/
theorem handle_error (session : Session) (world : World) (event : Event)
    (failed : (session.handle world event).result = .error error) :
    session.handle world event = session.fail error := by
  obtain ⟨plan, asks, handled⟩ := session.handle_cases world event
  rw [handled] at failed ⊢
  cases asks with
  | fail =>
    cases failed
    rfl
  | change | toggle => cases failed
  | notice notifies =>
    obtain ⟨copies, sent⟩ := notifies.sent { session with directory := _ } world
    cases sent.symm.trans failed
  | speech speaks => exact submit_error speaks.fresh failed

theorem handle_refused (session : Session) (world : World) (event : Event)
    (refused : (session.handle world event).result = .ok (some (.refused reason))) :
    ∃ id target message sender, event = .direct id target message ∧
      session.directory.get? id = some sender ∧
      (session.handle world event).TurnedAway session sender reason := by
  obtain ⟨plan, asks, handled⟩ := session.handle_cases world event
  rw [handled] at refused ⊢
  cases asks with
  | fail | change | toggle => cases refused
  | notice notifies =>
    obtain ⟨copies, sent⟩ := notifies.sent { session with directory := _ } world
    cases sent.symm.trans refused
  | speech speaks =>
    obtain ⟨sender, target, spoken, addressed, turned⟩ := submit_refused refused
    cases speaks with
    | chat | alert => cases addressed
    | direct here =>
      cases spoken
      exact ⟨_, _, _, _, rfl, here, turned⟩

/-! ## Lines -/

theorem handleLine_cases (session : Session) (world : World) (line : String) :
    session.handleLine world line = { session, result := .ok none } ∨
    session.handleLine world line = session.fail .malformed ∨
    ∃ event, Event.read? (Text.trim line) = some event ∧
      session.handleLine world line = session.handle world event := by
  unfold handleLine
  dsimp only
  split
  · exact .inl rfl
  · cases read : Event.read? (Text.trim line) with
    | none => exact .inr (.inl rfl)
    | some event => exact .inr (.inr ⟨event, rfl, rfl⟩)

/-- A line that fails leaves the session as it was and sends and logs nothing; a line that is
refused does nothing but tell its sender so. -/
theorem handleLine_traceless (session : Session) (world : World) (line : String) :
    (∀ error, (session.handleLine world line).result = .error error →
      (session.handleLine world line).session = session ∧
        (session.handleLine world line).outbox = {}) ∧
    ∀ reason, (session.handleLine world line).result = .ok (some (.refused reason)) →
      ∃ id target message sender,
        Event.read? (Text.trim line) = some (.direct id target message) ∧
        session.directory.get? id = some sender ∧
        (session.handleLine world line).TurnedAway session sender reason := by
  rcases session.handleLine_cases world line with idle | malformed | ⟨event, read, handled⟩
  · rw [idle]
    constructor
    · intro error failed
      cases failed
    · intro reason refused
      cases refused
  · rw [malformed]
    constructor
    · intro error failed
      exact ⟨rfl, rfl⟩
    · intro reason refused
      cases refused
  · rw [handled]
    constructor
    · intro error failed
      rw [session.handle_error world event failed]
      exact ⟨rfl, rfl⟩
    · intro reason refused
      obtain ⟨id, target, message, sender, rfl, here, turned⟩ :=
        session.handle_refused world event refused
      exact ⟨id, target, message, sender, read, here, turned⟩

theorem handleLine_traceless_linked :
    ∃ sender, linkedServers.directory.get? 1 = some sender ∧
      (linkedServers.handleLine default "[\"private\", 1, 4, \"hi\"]").TurnedAway linkedServers
        sender (.ofText linkedServers.settings.notices.hasIgnored) := by
  have read : Event.read? (Text.trim "[\"private\", 1, 4, \"hi\"]") = some (.direct 1 4 "hi") := by
    decide +kernel
  have refused : (linkedServers.handleLine default "[\"private\", 1, 4, \"hi\"]").result =
      .ok (some (.refused (.ofText linkedServers.settings.notices.hasIgnored))) := by
    unfold handleLine
    rw [if_neg (by decide +kernel), read]
    rfl
  obtain ⟨id, target, message, sender, same, here, turned⟩ :=
    (handleLine_traceless linkedServers default "[\"private\", 1, 4, \"hi\"]").2 _ refused
  cases read.symm.trans same
  exact ⟨sender, here, turned⟩

end Session

end Switchboard
