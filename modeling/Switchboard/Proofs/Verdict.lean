import Mathlib.Tactic.Common
import Switchboard.Proofs.Course

/-! What the filters make of a message that nobody has processed before. On a channel whose messages
pass them, everything but a check that fails and a target that turns the sender away is decided by
what the two chains do to the text. -/
namespace Switchboard.Session

/-- All that can come of a context on a channel whose messages pass the filters. -/
inductive Verdict (session : Session) (world : World) (channel : Channel) (context : Context)
    (sender : Account) : Except ContextError Outcome → Stage → Prop where
  | rejected (lacks : channel.checkStructure context = .error error) :
      Verdict session world channel context sender (.error error) { filters := session.filters }
  | refused (direct : channel = .direct) (addressed : context.target = some target) :
      Verdict session world channel context sender (.ok (.refused reason)) {
        filters := session.filters
        outbox := ({} : Outbox).deliver world reason [sender] }
  | stopped (sound : channel.checkStructure context = .ok ()) (wrote : context.message = some raw)
      (passage : session.filters.passage world.clock sender raw = (.error blocked, later)) :
      Verdict session world channel context sender (.ok (.blocked blocked.reason)) {
        filters := later
        outbox := ({} : Outbox).deliver world blocked.reason [sender] }
  | passed (sound : channel.checkStructure context = .ok ()) (wrote : context.message = some raw)
      (passage : session.filters.passage world.clock sender raw = (.ok (text, message), later)) :
      Verdict session world channel context sender (.ok (.delivered copies))
        { filters := later, outbox }

variable {session : Session} {world : World} {context : Context} {channel : Channel}
  {sender : Account} {clock : Clock} {raw : String} {later : Filters}

theorem carries_of_filtering (filtering : session.filtering channel = true) :
    channel.carriesMessage = true := by
  cases channel <;> first | rfl | cases filtering

theorem passage_of_ready {filtered : Option String} {message : Message}
    (filtering : session.filtering channel = true)
    (processed : session.processed clock sender channel raw = (.ok (filtered, message), later)) :
    ∃ text, session.filters.passage clock sender raw = (.ok (text, message), later) := by
  rw [Session.processed, if_pos filtering] at processed
  rcases same : session.filters.passage clock sender raw with
    ⟨stopped | ⟨text, shown⟩, last⟩ <;> rw [same] at processed <;> cases processed
  exact ⟨text, rfl⟩

theorem passage_of_blocked {blocked : Blocked} (filtering : session.filtering channel = true)
    (processed : session.processed clock sender channel raw = (.error blocked, later)) :
    session.filters.passage clock sender raw = (.error blocked, later) := by
  rw [Session.processed, if_pos filtering] at processed
  rcases same : session.filters.passage clock sender raw with
    ⟨stopped | ⟨text, shown⟩, last⟩ <;> rw [same] at processed <;> cases processed
  rfl

theorem verdict_of_ready {ready : Context} {copies : Nat} {outbox : Outbox}
    (fresh : context.Fresh) (speaks : context.sender = some sender)
    (filtering : session.filtering channel = true)
    (processes : session.Processes world context channel (.ok (.ok ready)) later) :
    session.Verdict world channel context sender (.ok (.delivered copies))
      { filters := later, outbox } := by
  obtain ⟨raw, filtered, message, wrote, processed, -⟩ := processes.ready_of_fresh fresh speaks
  obtain ⟨text, passage⟩ := passage_of_ready filtering processed
  exact .passed processes.sound wrote passage

theorem course_verdict {result : Except ContextError Outcome} {stage : Stage}
    (course : session.Course world context channel result stage) (fresh : context.Fresh)
    (speaks : context.sender = some sender) (filtering : session.filtering channel = true) :
    session.Verdict world channel context sender result stage := by
  have carries := carries_of_filtering filtering
  cases course with
  | unsound lacks => exact .rejected lacks
  | announcedTwice silent | announced silent => cases silent.symm.trans carries
  | processedTwice stale => exact absurd fresh stale
  | refused _ spoken addressed =>
    cases speaks.symm.trans spoken
    exact .refused rfl addressed
  | blocked _ spoken processes =>
    cases speaks.symm.trans spoken
    obtain ⟨raw, wrote, processed⟩ := processes.blocked_of_fresh fresh speaks
    exact .stopped processes.sound wrote (passage_of_blocked filtering processed)
  | broadcast _ _ _ processes => exact verdict_of_ready fresh speaks filtering processes
  | nearby _ _ processes => exact verdict_of_ready fresh speaks filtering processes
  | direct _ _ processes => exact verdict_of_ready fresh speaks filtering processes

/-- Two channels that check their contexts alike come to the same of the same text. -/
theorem Verdict.agree {other : Channel} {otherContext : Context} {stage otherStage : Stage}
    {result otherResult : Except ContextError Outcome}
    (verdict : session.Verdict world channel context sender result stage)
    (otherVerdict : session.Verdict world other otherContext sender otherResult otherStage)
    (undirected : channel ≠ .direct) (otherUndirected : other ≠ .direct)
    (checks : other.checkStructure otherContext = channel.checkStructure context)
    (words : otherContext.message = context.message) :
    (∃ error, result = .error error ∧ otherResult = .error error) ∨
    (∃ reason, result = .ok (.blocked reason) ∧ otherResult = .ok (.blocked reason)) ∨
    ∃ copies others, result = .ok (.delivered copies) ∧ otherResult = .ok (.delivered others) := by
  cases verdict with
  | refused direct => exact absurd direct undirected
  | rejected lacks =>
    cases otherVerdict with
    | refused direct => exact absurd direct otherUndirected
    | rejected alsoLacks =>
      cases (checks.trans lacks).symm.trans alsoLacks
      exact .inl ⟨_, rfl, rfl⟩
    | stopped sound | passed sound => cases (checks.trans lacks).symm.trans sound
  | stopped sound wrote passage =>
    cases otherVerdict with
    | refused direct => exact absurd direct otherUndirected
    | rejected lacks => cases (checks.trans sound).symm.trans lacks
    | stopped _ alsoWrote otherPassage =>
      cases (words.trans wrote).symm.trans alsoWrote
      cases passage.symm.trans otherPassage
      exact .inr (.inl ⟨_, rfl, rfl⟩)
    | passed _ alsoWrote otherPassage =>
      cases (words.trans wrote).symm.trans alsoWrote
      cases passage.symm.trans otherPassage
  | passed sound wrote passage =>
    cases otherVerdict with
    | refused direct => exact absurd direct otherUndirected
    | rejected lacks => cases (checks.trans sound).symm.trans lacks
    | stopped _ alsoWrote otherPassage =>
      cases (words.trans wrote).symm.trans alsoWrote
      cases passage.symm.trans otherPassage
    | passed => exact .inr (.inr ⟨_, _, rfl, rfl⟩)

end Switchboard.Session
