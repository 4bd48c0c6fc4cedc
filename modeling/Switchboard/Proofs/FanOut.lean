import Mathlib.Tactic.Common
import Switchboard.Proofs.Course
import Switchboard.Proofs.Recipients

/-! What is fanned out when a message goes out. Every copy belongs to a fan-out, which has a
channel, the context at that moment and its recipients; only the confirmation of a private message
is handed to its sender directly. -/
namespace Switchboard

/-- A message as it is handed to an audience: the channel it is a copy for, and the context of that
moment. -/
structure FanOut where
  channel : Channel
  context : Context
  message : Message
  recipients : List Account

def FanOut.copies (fanOut : FanOut) : List Delivery := fanOut.message.copies fanOut.recipients

namespace Session

open Dispatching

/-- The context that a channel fans out: a notice with what its template says filled in, any other
message as processing hands it on. -/
inductive Prepares (session : Session) (world : World) (context : Context) (channel : Channel) :
    Context → Prop where
  | announced (silent : channel.carriesMessage = false)
      (sound : channel.checkStructure context = .ok ()) :
      Prepares session world context channel
        { context with rendered := some (session.render world channel.format context) }
  | processed (processes : session.Processes world context channel (.ok (.ok ready)) later) :
      Prepares session world context channel ready

/-- What the channel's own copies say. -/
def shown (session : Session) (world : World) (channel : Channel) (ready : Context) : Message :=
  if channel.carriesMessage then session.render world channel.format ready
  else ready.rendered.getD .empty

def ownCopies (session : Session) (world : World) (channel : Channel) (ready : Context) :
    FanOut where
  channel := channel
  context := ready
  message := session.shown world channel ready
  recipients := session.reached channel ready

/-- Local chat for the other servers of the group. Its context is on another channel meanwhile. -/
def relayCopies (session : Session) (world : World) (ready : Context) : FanOut where
  channel := .multicastChat
  context := { ready with channel := some .multicastChat }
  message := session.render world .multicastChat { ready with channel := some .multicastChat }
  recipients := session.relayed ready

def localSpyCopies (session : Session) (world : World) (sender : Account) (ready : Context) :
    FanOut where
  channel := .localChat
  context := ready
  message := session.render world .localSpy ready
  recipients :=
    match ready.server with
    | some server => session.overhearing sender server
    | none => []

def socialSpyCopies (session : Session) (world : World) (sender : Account) (ready : Context) :
    FanOut where
  channel := .direct
  context := ready
  message := session.render world .socialSpy ready
  recipients :=
    match ready.target with
    | some target => session.overseeing sender target
    | none => []

/-- All that is fanned out on a channel, in order. -/
def fanOuts (session : Session) (world : World) (channel : Channel) (sender : Account)
    (ready : Context) : List FanOut :=
  session.ownCopies world channel ready ::
    match channel with
    | .localChat =>
      [session.relayCopies world ready, session.localSpyCopies world sender ready]
    | .direct => [session.socialSpyCopies world sender ready]
    | _ => []

/-- The copy of a private message for its sender. -/
def confirmation (session : Session) (world : World) (channel : Channel) (sender : Account)
    (ready : Context) : List Delivery :=
  if channel = .direct then [⟨sender, session.render world .messageSender ready⟩] else []

variable {session : Session} {world : World} {context ready : Context} {channel : Channel}
  {sender : Account}

/-- Preparing a context fills in what was filtered and parsed, and changes nothing else. -/
theorem Prepares.eq_filled (prepares : session.Prepares world context channel ready) :
    ∃ filtered message, ready = { context with filtered, rendered := some message } := by
  cases prepares with
  | announced => exact ⟨_, _, rfl⟩
  | processed processes =>
    obtain ⟨raw, wrote⟩ := processes.message
    obtain ⟨sender, speaks⟩ := Channel.sender_of_structure processes.sound
    have run := processes.run
    obtain ⟨last, ⟨error, -, same⟩ | ⟨blocked, -, same⟩ | ⟨filtered, message, same⟩⟩ :=
      exec_process_cases speaks wrote (session.filtering channel) { filters := session.filters }
    all_goals
      rw [same] at run
      cases run
    exact ⟨filtered, message, rfl⟩

theorem Prepares.sound (prepares : session.Prepares world context channel ready) :
    channel.checkStructure context = .ok () := by
  cases prepares with
  | announced _ sound => exact sound
  | processed processes => exact processes.sound

theorem Prepares.reached (prepares : session.Prepares world context channel ready) :
    session.reached channel ready = session.reached channel context := by
  obtain ⟨filtered, message, rfl⟩ := prepares.eq_filled
  exact congrArg session.gathered (audience_processed channel filtered (some message))

theorem Prepares.relayed (prepares : session.Prepares world context channel ready) :
    session.relayed ready = session.relayed context := by
  obtain ⟨filtered, message, rfl⟩ := prepares.eq_filled
  rfl

theorem Prepares.sender_eq (prepares : session.Prepares world context channel ready) :
    ready.sender = context.sender := by
  obtain ⟨filtered, message, rfl⟩ := prepares.eq_filled
  rfl

theorem Prepares.server (prepares : session.Prepares world context channel ready) :
    ready.server = context.server := by
  obtain ⟨filtered, message, rfl⟩ := prepares.eq_filled
  rfl

theorem Prepares.target (prepares : session.Prepares world context channel ready) :
    ready.target = context.target := by
  obtain ⟨filtered, message, rfl⟩ := prepares.eq_filled
  rfl

theorem fanOuts_of_broadcast (notLocal : channel ≠ .localChat) (notDirect : channel ≠ .direct) :
    session.fanOuts world channel sender ready =
      [session.ownCopies world channel ready] := by
  cases channel <;> first | rfl | contradiction

theorem shown_of_carries (carries : channel.carriesMessage = true) :
    session.shown world channel ready = session.render world channel.format ready := by
  rw [shown, if_pos carries]

/-! ## What the fan-outs of a prepared context say -/

section

variable (prepares : session.Prepares world context channel ready)

include prepares

theorem Prepares.copies_own : (session.ownCopies world channel ready).copies =
    (session.shown world channel ready).copies (session.reached channel context) := by
  rw [FanOut.copies, ownCopies, prepares.reached]

theorem Prepares.copies_relayed : (session.relayCopies world ready).copies =
    (session.view world .multicastChat .multicastChat ready).copies (session.relayed context) := by
  rw [FanOut.copies, relayCopies, prepares.relayed]
  rfl

theorem Prepares.copies_overheard {server : String} (placed : context.server = some server)
    (sender : Account) :
    (session.localSpyCopies world sender ready).copies =
      (session.render world .localSpy ready).copies (session.overhearing sender server) := by
  rw [FanOut.copies, localSpyCopies, prepares.server, placed]

theorem Prepares.copies_overseen {target : Account} (addressed : context.target = some target)
    (sender : Account) :
    (session.socialSpyCopies world sender ready).copies =
      (session.render world .socialSpy ready).copies (session.overseeing sender target) := by
  rw [FanOut.copies, socialSpyCopies, prepares.target, addressed]

end

/-- A message that goes out is copied by its fan-outs, and privately confirmed to its sender. -/
theorem course_fannedOut {copies : Nat} {stage : Stage}
    (course : session.Course world context channel (.ok (.delivered copies)) stage) :
    ∃ sender ready, context.sender = some sender ∧
      session.Prepares world context channel ready ∧
      stage.outbox.deliveries = session.confirmation world channel sender ready ++
        (session.fanOuts world channel sender ready).flatMap FanOut.copies := by
  cases course with
  | announced silent sound speaks unparsed =>
    have prepares : session.Prepares world context channel _ := .announced silent sound
    refine ⟨_, _, speaks, prepares, ?_⟩
    have notLocal : channel ≠ .localChat := by rintro rfl; cases silent
    have notDirect : channel ≠ .direct := by rintro rfl; cases silent
    rw [confirmation, if_neg notDirect, fanOuts_of_broadcast notLocal notDirect,
      List.flatMap_singleton, prepares.copies_own, shown, silent]
    exact Outbox.deliveries_deliver ..
  | broadcast notLocal notDirect speaks processes =>
    have prepares := Prepares.processed processes
    refine ⟨_, _, speaks, prepares, ?_⟩
    rw [confirmation, if_neg notDirect, fanOuts_of_broadcast notLocal notDirect,
      List.flatMap_singleton, prepares.copies_own, shown_of_carries processes.carries,
      deliveries_note]
    exact Outbox.deliveries_deliver ..
  | nearby speaks placed processes =>
    have prepares := Prepares.processed processes
    refine ⟨_, _, speaks, prepares, ?_⟩
    simp only [Outbox.deliveries_deliver, deliveries_note, List.nil_append]
    rw [confirmation, if_neg (by decide), fanOuts, List.flatMap_cons, List.flatMap_cons,
      List.flatMap_singleton, prepares.copies_own, prepares.copies_relayed,
      prepares.copies_overheard placed, shown_of_carries rfl, List.nil_append, ← List.append_assoc]
    rfl
  | direct speaks addressed processes =>
    have prepares := Prepares.processed processes
    refine ⟨_, _, speaks, prepares, ?_⟩
    simp only [Outbox.deliveries_deliver, deliveries_note, List.nil_append]
    rw [confirmation, if_pos rfl, fanOuts, List.flatMap_cons, List.flatMap_singleton,
      prepares.copies_own, prepares.copies_overseen addressed, shown_of_carries rfl,
      ← List.append_assoc]
    rfl

end Session

end Switchboard
