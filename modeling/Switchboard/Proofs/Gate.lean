import Mathlib.Tactic.Common
import Switchboard.Proofs.FanOut

/-! The structural check is the only gate. A context that was not processed before fails exactly
where the check fails, with the same error; once it is through, every context that is fanned out
meets all that its channel requires, and what the pipeline asks again on the way it always gets. -/
namespace Switchboard.Session

variable {session : Session} {world : World} {context ready : Context} {channel : Channel}
  {sender : Account}

/-- Only the structural check fails a fresh context. -/
theorem course_error_iff {result : Except ContextError Outcome} {stage : Stage}
    (course : session.Course world context channel result stage) (fresh : context.Fresh)
    (error : ContextError) :
    result = .error error ↔ channel.checkStructure context = .error error := by
  cases course with
  | unsound lacks =>
    rw [lacks]
    constructor <;> intro same <;> cases same <;> rfl
  | announcedTwice _ _ parsed =>
    rw [fresh.unparsed] at parsed
    cases parsed
  | processedTwice stale => exact absurd fresh stale
  | announced _ sound | refused sound =>
    rw [sound]
    constructor <;> intro failed <;> cases failed
  | blocked _ _ processes | broadcast _ _ _ processes | nearby _ _ processes
  | direct _ _ processes =>
    rw [processes.sound]
    constructor <;> intro failed <;> cases failed

/-- A prepared context lacks nothing, not even what the structural check leaves out. -/
theorem Prepares.complete (prepares : session.Prepares world context channel ready) :
    channel.checkRequirements ready = .ok () := by
  have sound := prepares.sound
  obtain ⟨filtered, message, rfl⟩ := prepares.eq_filled
  exact Channel.checkRequirements_eq_ok_iff.mpr
    ⟨(Channel.checkStructure_processed filtered (some message)).trans sound,
      Channel.checkProgress_of_parsed rfl⟩

theorem relay_complete (complete : Channel.localChat.checkRequirements ready = .ok ()) :
    Channel.multicastChat.checkRequirements { ready with channel := some .multicastChat } =
      .ok () := by
  obtain ⟨sound, progressed⟩ := Channel.checkRequirements_eq_ok_iff.mp complete
  have parsed := Channel.checkProgress_eq_ok_iff.mp progressed (.present .parsed)
    (by simp [Channel.requirements]) rfl
  obtain ⟨message, parsed⟩ := Option.isSome_iff_exists.mp parsed
  exact Channel.checkRequirements_eq_ok_iff.mpr
    ⟨Channel.checkStructure_relayed sound, Channel.checkProgress_of_parsed parsed⟩

theorem Prepares.fanOuts_complete (prepares : session.Prepares world context channel ready)
    (sender : Account) :
    ∀ fanOut ∈ session.fanOuts world channel sender ready,
      fanOut.channel.checkRequirements fanOut.context = .ok () := by
  intro fanOut member
  have complete := prepares.complete
  rcases List.mem_cons.mp member with rfl | further
  · exact complete
  cases channel with
  | localChat =>
    rcases List.mem_cons.mp further with rfl | further
    · exact relay_complete complete
    · cases List.mem_singleton.mp further
      exact complete
  | direct =>
    cases List.mem_singleton.mp further
    exact complete
  | globalChat | multicastChat | staffChat | join | leave | switch | alert => cases further

/-- A fresh context fails exactly where the structural check of its channel fails, with the first
requirement that it does not meet. Otherwise each message that is fanned out is taken from a
context that meets all requirements of the channel it is a copy for. -/
theorem dispatch_gated (session : Session) (world : World) (context : Context)
    (fresh : context.Fresh) :
    let channel := session.channelOf context
    let posed := { context with channel := some channel }
    let sent := session.dispatch world context
    (∀ error, sent.1 = .error error ↔ channel.checkStructure posed = .error error) ∧
    (∀ error, channel.checkStructure posed = .error error ↔
      ∃ unmet, posed.FirstUnmet channel.structural unmet ∧ error = .unmet unmet) ∧
    ∀ copies, sent.1 = .ok (.delivered copies) →
      ∃ sender ready, posed.sender = some sender ∧ session.Prepares world posed channel ready ∧
        sent.2.outbox.deliveries = session.confirmation world channel sender ready ++
          (session.fanOuts world channel sender ready).flatMap FanOut.copies ∧
        ∀ fanOut ∈ session.fanOuts world channel sender ready,
          fanOut.channel.checkRequirements fanOut.context = .ok () := by
  intro channel posed sent
  have course : session.Course world posed channel sent.1 sent.2 :=
    session.dispatch_course world context
  refine ⟨course_error_iff course ⟨fresh.unfiltered, fresh.unparsed⟩, fun error => ?_, ?_⟩
  · rw [Channel.checkStructure_eq_require, Context.require_eq_error_iff]
  · intro copies delivered
    rw [delivered] at course
    obtain ⟨sender, ready, speaks, prepares, copied⟩ := course_fannedOut course
    exact ⟨sender, ready, speaks, prepares, copied, prepares.fanOuts_complete sender⟩

theorem dispatch_gated_linked :
    let nowhere : Context := { sender := some { ada with server := none }, message := some "hi" }
    (linkedServers.dispatch default nowhere).1 = .error (.unmet (.present .server)) ∧
    ∃ sender ready, linkedServers.Prepares default
        { Context.ofSender ada with message := some "hi", channel := some .localChat }
        .localChat ready ∧
      (linkedServers.fanOuts default .localChat sender ready).length = 3 ∧
      Channel.multicastChat.checkRequirements { ready with channel := some .multicastChat } =
        .ok () := by
  intro nowhere
  obtain ⟨fails, -⟩ := dispatch_gated linkedServers default nowhere ⟨rfl, rfl⟩
  obtain ⟨-, -, goes⟩ := dispatch_gated linkedServers default
    { Context.ofSender ada with message := some "hi" } ⟨rfl, rfl⟩
  obtain ⟨sender, ready, -, prepares, -, complete⟩ :=
    goes 3 (Dispatching.eq_ok_of_toOption (by decide +kernel))
  refine ⟨(fails _).mpr rfl, sender, ready, prepares, rfl, ?_⟩
  exact complete (linkedServers.relayCopies default ready)
    (List.mem_cons_of_mem _ List.mem_cons_self)

end Switchboard.Session
