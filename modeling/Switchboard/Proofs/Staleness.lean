import Mathlib.Tactic.Common
import Switchboard.Proofs.Blocking

/-! Contexts that were processed before. A channel's structural check does not ask whether the
slots for the filtered text and the parsed message are still empty; that is found out when they are
to be filled, and by then the filters may have run. A message that is rejected so late has been seen
by all filters that it passed, and by those that remember what they see it is remembered. -/
namespace Switchboard.Session

open Dispatching

/-- The ways in which a context is rejected, with the error and the filters that are left. -/
inductive Rejected (session : Session) (world : World) (context : Context) (channel : Channel) :
    ContextError → Filters → Prop where
  /-- The context lacks what the channel requires of it. -/
  | unsound (lacks : channel.checkStructure context = .error error) :
      Rejected session world context channel error session.filters
  /-- A notice is parsed already. -/
  | announcedTwice (silent : channel.carriesMessage = false)
      (sound : channel.checkStructure context = .ok ()) (stale : context.rendered.isSome) :
      Rejected session world context channel (.unmet (.absent .parsed)) session.filters
  /-- Nothing is amiss until a slot that processing has to fill is found filled. -/
  | processedTwice (carries : channel.carriesMessage = true)
      (sound : channel.checkStructure context = .ok ())
      (admitted : ∀ sender target, channel = .direct → context.sender = some sender →
        context.target = some target → session.refusal? sender target = none)
      (speaks : context.sender = some sender) (wrote : context.message = some raw)
      (treatment : Treatment world.clock (session.filtering channel) context sender raw
        session.filters (.error error) left) :
      Rejected session world context channel error left

variable {session : Session} {world : World} {context : Context} {channel : Channel}
  {sender : Account} {raw : String} {later : Filters} {error : ContextError}
  {result : Except ContextError (Except Blocked Context)} {stage : Stage}

theorem Processes.treatment (speaks : context.sender = some sender)
    (wrote : context.message = some raw)
    (processes : session.Processes world context channel result later) :
    Treatment world.clock (session.filtering channel) context sender raw session.filters result
      later :=
  (exec_process_iff speaks wrote).mp processes.run

theorem Rejected.of_course
    (course : session.Course world context channel (.error error) stage) :
    stage.outbox = {} ∧ session.Rejected world context channel error stage.filters := by
  cases course with
  | unsound lacks => exact ⟨rfl, .unsound lacks⟩
  | announcedTwice silent sound stale => exact ⟨rfl, .announcedTwice silent sound stale⟩
  | processedTwice stale processes =>
    obtain ⟨sender, speaks⟩ := Channel.sender_of_structure processes.sound
    obtain ⟨raw, wrote⟩ := processes.message
    exact ⟨rfl, .processedTwice processes.carries processes.sound processes.admitted speaks wrote
      (processes.treatment speaks wrote)⟩

/-- A context takes no other way than one that it can take. -/
theorem Rejected.course_unique {outcome : Except ContextError Outcome}
    (rejected : session.Rejected world context channel error later)
    (course : session.Course world context channel outcome stage) :
    outcome = .error error ∧ stage = { filters := later } := by
  cases rejected with
  | unsound lacks =>
    cases course with
    | unsound other =>
      cases lacks.symm.trans other
      exact ⟨rfl, rfl⟩
    | announcedTwice _ sound | announced _ sound | refused sound => cases lacks.symm.trans sound
    | processedTwice _ processes | blocked _ _ processes | broadcast _ _ _ processes
    | nearby _ _ processes | direct _ _ processes => cases lacks.symm.trans processes.sound
  | announcedTwice silent sound stale =>
    cases course with
    | unsound lacks => cases lacks.symm.trans sound
    | announcedTwice => exact ⟨rfl, rfl⟩
    | announced _ _ _ unparsed =>
      rw [unparsed] at stale
      cases stale
    | refused | nearby | direct => cases silent
    | processedTwice _ processes | blocked _ _ processes | broadcast _ _ _ processes =>
      cases silent.symm.trans processes.carries
  | processedTwice carries sound admitted speaks wrote treatment =>
    have run : exec (process world (session.filtering channel) context)
        { filters := session.filters } = (.error error, { filters := later }) :=
      exec_process_of_treatment speaks wrote treatment
    cases course with
    | unsound lacks => cases lacks.symm.trans sound
    | announcedTwice silent | announced silent => cases silent.symm.trans carries
    | refused _ saying addressed turned =>
      cases turned.symm.trans (admitted _ _ rfl saying addressed)
    | processedTwice _ processes =>
      cases run.symm.trans processes.run
      exact ⟨rfl, rfl⟩
    | blocked _ _ processes | broadcast _ _ _ processes | nearby _ _ processes
    | direct _ _ processes => cases run.symm.trans processes.run

/-- A context is left as it came, and the filters with it, unless it was processed before and its
channel filters. -/
theorem Rejected.filters_eq (rejected : session.Rejected world context channel error later)
    (spared : context.Fresh ∨ session.filtering channel = false) : later = session.filters := by
  cases rejected with
  | unsound | announcedTwice => rfl
  | processedTwice carries sound admitted speaks wrote treatment =>
    cases treatment with
    | parsedBefore => rfl
    | filteredBefore filtered _ stale =>
      have idle := spared.resolve_left fun fresh => by simp [fresh.unfiltered] at stale
      cases filtered.symm.trans idle
    | passedBefore filtered _ _ _ stale =>
      have idle := spared.resolve_left fun fresh => by simp [fresh.unparsed] at stale
      cases filtered.symm.trans idle

/-- When a dispatch fails, with what error, and what it leaves: nothing is sent, and the filters
stay as they were unless the context holds what processing is to fill in and its channel filters.
Then they are left as the text leaves them that passed them in vain. -/
theorem dispatch_rejected (session : Session) (world : World) (context : Context)
    (error : ContextError) (stage : Stage) :
    let channel := session.channelOf context
    (session.dispatch world context = (.error error, stage) ↔ stage.outbox = {} ∧
      session.Rejected world { context with channel := some channel } channel error stage.filters) ∧
    (session.dispatch world context = (.error error, stage) →
      context.Fresh ∨ session.filtering channel = false → stage.filters = session.filters) := by
  intro channel
  have course := session.dispatch_course world context
  have onward : session.dispatch world context = (.error error, stage) → stage.outbox = {} ∧
      session.Rejected world { context with channel := some channel } channel error
        stage.filters := by
    intro failed
    rw [failed] at course
    exact Rejected.of_course course
  refine ⟨⟨onward, fun ⟨unsent, rejected⟩ => ?_⟩, fun failed spared => ?_⟩
  · obtain ⟨failed, left⟩ := rejected.course_unique course
    obtain ⟨filters, outbox⟩ := stage
    cases unsent
    exact Prod.ext failed left
  · exact (onward failed).2.filters_eq
      (spared.imp_left fun fresh => ⟨fresh.unfiltered, fresh.unparsed⟩)

/-- A message that was filtered before it is sent. -/
def refiltered : Context where
  sender := some { id := 1, name := "ada", server := some "lobby" }
  message := some "hi"
  channel := some .globalChat
  filtered := some "hi"

theorem dispatch_rejected_refiltered :
    let session := ofConfig hurrying
    let (result, stage) := session.dispatch default refiltered
    result = .error (.unmet (.absent .filtered)) ∧ stage.outbox = {} ∧
      session.Rejected default refiltered .globalChat (.unmet (.absent .filtered))
        stage.filters := by
  intro session
  have failed : session.dispatch default refiltered =
      (.error (.unmet (.absent .filtered)), (session.dispatch default refiltered).2) := rfl
  exact ⟨rfl, (session.dispatch_rejected default refiltered _ _).1.mp failed⟩

/-- A rejected message may leave its mark: it is remembered, and it counts. -/
theorem rejected_remembered :
    ¬∀ (session : Session) (world : World) (context : Context) (error : ContextError)
      (stage : Stage), session.dispatch world context = (.error error, stage) →
        stage.filters.text = session.filters.text ∧
        stage.filters.message = session.filters.message ∧
        ∀ slot id, stage.filters.memory.utterances.get slot id =
            session.filters.memory.utterances.get slot id ∧
          stage.filters.memory.times.get slot id = session.filters.memory.times.get slot id := by
  intro unmarked
  have failed : (ofConfig hurrying).dispatch default refiltered =
      (.error (.unmet (.absent .filtered)), ((ofConfig hurrying).dispatch default refiltered).2) :=
    rfl
  obtain ⟨-, -, forgotten⟩ := unmarked _ _ _ _ _ failed
  let later := ((ofConfig hurrying).dispatch default refiltered).2.filters.memory
  have remembered : later.utterances.get Registry.duplicationSlot 1 = [⟨0, "hi"⟩] := rfl
  cases remembered.symm.trans (forgotten Registry.duplicationSlot 1).1

end Switchboard.Session
