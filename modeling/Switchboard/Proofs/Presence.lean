import Mathlib.Data.List.Induction
import Mathlib.Tactic.Common
import Switchboard.Proofs.Broadcast
import Switchboard.Proofs.OwnEvents

/-! Who is written to. Whatever an event sends goes to accounts that are in the directory while it
is sent: senders and targets are looked up there, and audiences are chosen from it. An account is in
the directory as its latest arrival brought it and as events about it have changed it since, until
it leaves; those who leave are told so before they are removed. -/
namespace Switchboard

namespace Event

/-- Whose arrival the event is. -/
def arrives? : Event → Option AccountId
  | connect id .. => some id
  | _ => none

/-- Whose leaving the event is. -/
def leaves? : Event → Option AccountId
  | disconnect id => some id
  | _ => none

end Event

namespace Occurrence

/-- The occurrence, if it has changed the directory by the time that others are told of it. -/
def settled (occurrence : Occurrence) : List Occurrence :=
  match occurrence.event with
  | .connect .. | .switch .. => [occurrence]
  | _ => []

theorem eq_of_mem_settled {occurrence other : Occurrence} (member : other ∈ occurrence.settled) :
    other = occurrence := by
  unfold settled at member
  split at member
  · exact List.mem_singleton.mp member
  · exact List.mem_singleton.mp member
  · cases member

/-- What the occurrence makes of the account under the id. -/
def touch (id : AccountId) (found : Option Account) (occurrence : Occurrence) : Option Account :=
  if occurrence.event.subject? = some id then
    occurrence.event.revise occurrence.world.clock.deadline? found
  else found

variable {occurrence : Occurrence} {id : AccountId}

theorem touch_none (notArriving : occurrence.event.arrives? ≠ some id) :
    occurrence.touch id none = none := by
  obtain ⟨world, event⟩ := occurrence
  unfold touch
  split
  case isFalse => rfl
  case isTrue about =>
    cases event with
    | connect => exact absurd about notArriving
    | mute _ minutes =>
      cases minutes with
      | none => rfl
      | some minutes =>
        simp only [Event.revise, Option.map_none]
        split <;> rfl
    | disconnect | switch | prefer | ignore | unignore | vanish | spy => rfl
    | chat | direct | alert | toggle => rfl

theorem touch_of_leaves {found : Option Account} (leaving : occurrence.event.leaves? = some id) :
    occurrence.touch id found = none := by
  obtain ⟨world, event⟩ := occurrence
  cases event with
  | disconnect =>
    cases leaving
    exact if_pos rfl
  | connect | switch | chat | direct | alert | prefer | ignore | unignore | vanish | mute | spy
  | toggle => cases leaving

theorem exists_of_touch {found : Option Account} {account : Account}
    (notArriving : occurrence.event.arrives? ≠ some id)
    (there : occurrence.touch id found = some account) : ∃ earlier, found = some earlier := by
  cases found with
  | some earlier => exact ⟨earlier, rfl⟩
  | none => cases (touch_none notArriving).symm.trans there

end Occurrence

/-- The account is the one that the latest arrival of the id in the run brought, as the events since
then have changed it, and the id has not left since. -/
def Arrived (run : List Occurrence) (id : AccountId) (account : Account) : Prop :=
  ∃ earlier arrival later name server permissions channel,
    run = earlier ++ arrival :: later ∧
    arrival.event = .connect id name server permissions channel ∧
    (∀ since ∈ later, since.event.arrives? ≠ some id ∧ since.event.leaves? ≠ some id) ∧
    later.foldl (Occurrence.touch id)
      (some (permissions.foldl Account.grant { id, name, server, channel })) = some account

namespace Session

variable {session : Session} {world : World} {context ready : Context} {channel : Channel}
  {sender : Account} {occurrence : Occurrence} {id : AccountId}

/-! ## One message -/

theorem connected_of_mem {audience : Audience} :
    ∀ account ∈ session.connected audience, account ∈ session.directory.accounts :=
  fun _ member => (mem_connected_iff.mp member).1

theorem connected_of_gathered {audience : Except ContextError Audience} :
    ∀ account ∈ session.gathered audience, account ∈ session.directory.accounts :=
  fun _ member => (mem_gathered_iff.mp member).1

theorem fanOuts_connected :
    ∀ fanOut ∈ session.fanOuts world channel sender ready,
      ∀ account ∈ fanOut.recipients, account ∈ session.directory.accounts := by
  have relayed : ∀ account ∈ session.relayed ready, account ∈ session.directory.accounts := by
    unfold relayed
    dsimp only
    split
    · exact connected_of_gathered
    · exact fun _ => nofun
  have overhearing (server : String) : ∀ account ∈ session.overhearing sender server,
      account ∈ session.directory.accounts := by
    unfold overhearing
    split
    · exact connected_of_mem
    · exact fun _ => nofun
  have overseen (target : Account) : ∀ account ∈ session.overseeing sender target,
      account ∈ session.directory.accounts := by
    unfold overseeing
    split
    · exact connected_of_mem
    · exact fun _ => nofun
  intro fanOut member
  rcases List.mem_cons.mp member with rfl | member
  · exact connected_of_gathered
  cases channel with
  | localChat =>
    rcases List.mem_pair.mp member with rfl | rfl
    · exact relayed
    · unfold localSpyCopies
      dsimp only
      split
      · exact overhearing _
      · exact fun _ => nofun
  | direct =>
    rw [List.mem_singleton.mp member]
    unfold socialSpyCopies
    dsimp only
    split
    · exact overseen _
    · exact fun _ => nofun
  | globalChat | multicastChat | staffChat | alert | join | leave | switch => cases member

/-- Where the sender is connected, whoever gets something of a message is. -/
theorem course_connected {result : Except ContextError Outcome} {stage : Stage}
    (course : session.Course world context channel result stage)
    (present : ∀ sender, context.sender = some sender → sender ∈ session.directory.accounts) :
    ∀ delivery ∈ stage.outbox.deliveries, delivery.recipient ∈ session.directory.accounts := by
  have accounted := course_accounted course
  match result with
  | .error _ =>
    rw [accounted.1]
    exact fun _ => nofun
  | .ok (.blocked reason) | .ok (.refused reason) =>
    obtain ⟨⟨sender, speaks, answered⟩, -⟩ := accounted
    rw [answered]
    intro delivery member
    rw [List.mem_singleton.mp member]
    exact present sender speaks
  | .ok (.delivered copies) =>
    obtain ⟨sender, ready, speaks, -, fannedOut⟩ := course_fannedOut course
    intro delivery member
    rw [fannedOut] at member
    rcases List.mem_append.mp member with confirmed | copied
    · unfold confirmation at confirmed
      split at confirmed
      · rw [List.mem_singleton.mp confirmed]
        exact present sender speaks
      · cases confirmed
    · obtain ⟨fanOut, out, member⟩ := List.mem_flatMap.mp copied
      obtain ⟨account, reached, rfl⟩ := List.mem_map.mp member
      exact fanOuts_connected fanOut out account reached

/-! ## One event -/

/-- The outbox holds what one message of a connected account sends in the session, if anything. -/
def Sends (session : Session) (world : World) (outbox : Outbox) : Prop :=
  outbox = {} ∨ ∃ context,
    (∀ sender, context.sender = some sender → sender ∈ session.directory.accounts) ∧
    outbox = (session.dispatch world context).2.outbox

theorem Sends.connected {outbox : Outbox} (sends : session.Sends world outbox) :
    ∀ delivery ∈ outbox.deliveries, delivery.recipient ∈ session.directory.accounts := by
  rcases sends with rfl | ⟨context, present, rfl⟩
  · exact fun _ => nofun
  · exact course_connected (session.dispatch_course world context) present

theorem submit_sends (speaks : context.sender = some sender)
    (here : session.directory.get? sender.id = some sender) :
    session.Sends world (session.submit world context).outbox := by
  refine .inr ⟨context, ?_, rfl⟩
  intro other alsoSpeaks
  cases speaks.symm.trans alsoSpeaks
  exact Directory.mem_accounts_iff.mpr here

theorem disconnect_told {account : Account} (here : session.directory.get? id = some account) :
    ∃ notice recipients,
      (session.disconnect world id).outbox.deliveries = Message.copies notice recipients ∧
      (session.disconnect world id).result = .ok (some (.delivered recipients.length)) ∧
      session.Selects (fun other => other.holds .leaveMessageView = true ∧
        (account.vanished = true → other.holds .vanishView = true)) recipients := by
  have notifies : session.directory.Notifies (.disconnect id) account .leave _ _ :=
    .disconnect here
  obtain ⟨copies, sent⟩ := notifies.sent session world
  rw [disconnect_of_found here, carryOut]
  dsimp only
  obtain ⟨channel, outcome, stage, rfl, course, report⟩ := session.submit_course world
    { Context.ofSender account with channel := some .leave }
  rw [report] at sent ⊢
  obtain rfl : outcome = .ok (.delivered copies) := by
    rcases outcome with error | outcome <;> cases sent
    rfl
  have leaves : session.Course world { Context.ofSender account with channel := some .leave } .leave
      (.ok (.delivered copies)) stage := course
  obtain ⟨sender, ready, speaks, prepares, fannedOut⟩ := course_fannedOut leaves
  cases speaks
  rw [confirmation, if_neg (by decide), fanOuts_of_broadcast (by decide) (by decide),
    List.flatMap_singleton, List.nil_append, prepares.copies_own] at fannedOut
  refine ⟨_, _, fannedOut, sent.trans ?_, ?_⟩
  · obtain ⟨counted, -⟩ := course_accounted leaves
    rw [← counted, fannedOut, Message.copies, List.length_map]
  · have selects : session.Selects _ (session.reached .leave
        { Context.ofSender account with channel := some .leave }) := reached_selects .leave rfl
    simpa [InReach, Channel.ignorable, Channel.respectsVanish] using selects

theorem after_settled {account : Account} {during later : Directory}
    (notifies : session.directory.Notifies occurrence.event account channel during later)
    (left : (session.meet occurrence).session.directory = later) :
    (session.after occurrence.settled).directory = during := by
  obtain ⟨world, event⟩ := occurrence
  cases notifies with
  | connect | switch => exact left
  | disconnect => rfl

/-- Whatever an event sends is a message in a session with the directory of that moment. -/
theorem meet_sends (session : Session) (occurrence : Occurrence) :
    ∃ present : Session, present.directory = (session.after occurrence.settled).directory ∧
      present.Sends occurrence.world (session.meet occurrence).outbox := by
  obtain ⟨world, event⟩ := occurrence
  obtain ⟨plan, asks, handled⟩ := session.handle_cases world event
  have outbox : (session.meet ⟨world, event⟩).outbox = (session.carryOut world plan).outbox :=
    congrArg Report.outbox handled
  rw [outbox]
  cases asks with
  | fail | change | toggle => exact ⟨session.after _, rfl, .inl rfl⟩
  | notice notifies =>
    refine ⟨{ session with directory := _ }, (after_settled notifies ?_).symm,
      submit_sends rfl notifies.connected⟩
    rw [meet, handled]
    rfl
  | speech speaks =>
    refine ⟨session, ?_, submit_sends speaks.sender_eq speaks.connected⟩
    cases speaks <;> rfl

/-! ## Runs -/

theorem get?_touched (session : Session) (occurrence : Occurrence) (id : AccountId) :
    (session.meet occurrence).session.directory.get? id =
      occurrence.touch id (session.directory.get? id) :=
  get?_meet session occurrence id

/-- Everybody connected has arrived, since nobody was there at first. -/
theorem arrived_of_connected {run : List Occurrence} {account : Account}
    (nobody : session.directory = .empty)
    (here : (session.after run).directory.get? id = some account) : Arrived run id account := by
  induction run using List.reverseRecOn generalizing account with
  | nil =>
    change session.directory.get? id = some account at here
    rw [nobody] at here
    cases here
  | append_singleton run last ih =>
    rw [after_concat, get?_touched] at here
    by_cases arriving : last.event.arrives? = some id
    · obtain ⟨world, event⟩ := last
      cases event with
      | connect arrived name server permissions channel =>
        cases arriving
        unfold Occurrence.touch at here
        rw [if_pos (by rfl)] at here
        exact ⟨run, _, [], name, server, permissions, channel, rfl, rfl, by simp, here⟩
      | disconnect | switch | chat | direct | alert | prefer | ignore | unignore | vanish | mute
      | spy | toggle => cases arriving
    by_cases leaving : last.event.leaves? = some id
    · rw [Occurrence.touch_of_leaves leaving] at here
      cases here
    · obtain ⟨before, there⟩ := Occurrence.exists_of_touch arriving here
      obtain ⟨earlier, arrival, later, name, server, permissions, channel, rfl, brought, stayed,
        changed⟩ := ih there
      refine ⟨earlier, arrival, later ++ [last], name, server, permissions, channel, by simp,
        brought, ?_, ?_⟩
      · exact List.forall_mem_append.mpr ⟨stayed, by simp [arriving, leaving]⟩
      · rw [List.foldl_append, changed, ← there]
        exact here

theorem absent_of_left {earlier later : List Occurrence} {departure : Occurrence}
    (left : departure.event.leaves? = some id)
    (away : ∀ since ∈ later, since.event.arrives? ≠ some id) (session : Session) :
    (session.after (earlier ++ departure :: later)).directory.get? id = none := by
  induction later using List.reverseRecOn with
  | nil => rw [after_concat, get?_touched, Occurrence.touch_of_leaves left]
  | append_singleton later last ih =>
    obtain ⟨awayBefore, awayLast⟩ := List.forall_mem_append.mp away
    rw [← List.cons_append, ← List.append_assoc, after_concat, get?_touched, ih awayBefore]
    exact Occurrence.touch_none (awayLast last (List.mem_singleton.mpr rfl))

/-- From a session to which nobody is connected, whatever an event sends is dispatched over the
directory of that moment, and goes to accounts in it that have arrived and have not left since.
Nothing goes to an id between its leaving and its next arrival. Those who leave are removed only
after those who may see others leave, themselves among them, have been told. -/
theorem delivered_connected (nobody : session.directory = .empty) (run : List Occurrence)
    (occurrence : Occurrence) :
    let now := session.after run
    let met := run ++ occurrence.settled
    (∀ delivery ∈ (now.meet occurrence).outbox.deliveries,
      (∃ (present : Session) (context : Context),
        present.directory = (session.after met).directory ∧
        (now.meet occurrence).outbox = (present.dispatch occurrence.world context).2.outbox) ∧
      (session.after met).directory.get? delivery.recipient.id = some delivery.recipient ∧
      Arrived met delivery.recipient.id delivery.recipient) ∧
    (∀ earlier departure later id, run = earlier ++ departure :: later →
      departure.event = .disconnect id →
      (∀ since ∈ later ++ [occurrence], since.event.arrives? ≠ some id) →
      ∀ delivery ∈ (now.meet occurrence).outbox.deliveries, delivery.recipient.id ≠ id) ∧
    ∀ id account, occurrence.event = .disconnect id → now.directory.get? id = some account →
      (∃ notice recipients,
        (now.meet occurrence).outbox.deliveries = Message.copies notice recipients ∧
        (now.meet occurrence).result = .ok (some (.delivered recipients.length)) ∧
        now.Selects (fun other => other.holds .leaveMessageView = true ∧
          (account.vanished = true → other.holds .vanishView = true)) recipients) ∧
      (now.meet occurrence).session.directory.get? id = none := by
  intro now met
  obtain ⟨present, directory, sends⟩ := now.meet_sends occurrence
  have moment : (session.after met).directory = (now.after occurrence.settled).directory :=
    congrArg Session.directory List.foldl_append
  have here : ∀ delivery ∈ (now.meet occurrence).outbox.deliveries,
      (session.after met).directory.get? delivery.recipient.id = some delivery.recipient := by
    intro delivery member
    rw [moment, ← directory]
    exact Directory.mem_accounts_iff.mp (sends.connected delivery member)
  refine ⟨fun delivery member => ⟨?_, here delivery member, ?_⟩, ?_, ?_⟩
  · rcases sends with nothing | ⟨context, -, sent⟩
    · rw [nothing] at member
      cases member
    · exact ⟨present, context, directory.trans moment.symm, sent⟩
  · exact arrived_of_connected nobody (here delivery member)
  · rintro earlier departure later id parts left away delivery member rfl
    obtain ⟨awayBefore, awayNow⟩ := List.forall_mem_append.mp away
    have awaySince : ∀ since ∈ later ++ occurrence.settled,
        since.event.arrives? ≠ some delivery.recipient.id := by
      refine List.forall_mem_append.mpr ⟨awayBefore, fun since member => ?_⟩
      rw [Occurrence.eq_of_mem_settled member]
      exact awayNow occurrence (List.mem_singleton.mpr rfl)
    have split : met = earlier ++ departure :: (later ++ occurrence.settled) := by
      simp [met, parts]
    have absent : (session.after met).directory.get? delivery.recipient.id = none := by
      rw [split]
      exact absent_of_left (by rw [left]; rfl) awaySince session
    cases absent.symm.trans (here delivery member)
  · intro id account leaving there
    obtain ⟨world, event⟩ := occurrence
    cases leaving
    refine ⟨disconnect_told there, ?_⟩
    rw [get?_touched, Occurrence.touch_of_leaves rfl]

/-- One leaves, misses what is said meanwhile, and comes back under another name. -/
theorem delivered_connected_again :
    let away : List Occurrence := [⟨default, .connect 1 "ada" (some "lobby") [] none⟩,
      ⟨default, .connect 2 "bo" (some "lobby") [.leaveMessageView] none⟩,
      ⟨default, .disconnect 2⟩]
    let back : List Occurrence := away ++ [⟨default, .connect 2 "bob" (some "lobby") [] none⟩]
    let chat : Occurrence := ⟨default, .chat 1 none "hi"⟩
    (∀ delivery ∈ (((ofConfig {}).after away).meet chat).outbox.deliveries,
      delivery.recipient.id ≠ 2) ∧
    ∃ delivery ∈ (((ofConfig {}).after back).meet chat).outbox.deliveries,
      delivery.recipient.name = "bob" ∧ Arrived back 2 delivery.recipient := by
  intro away back chat
  have nobody : (ofConfig {}).directory = .empty := rfl
  obtain ⟨-, missed, -⟩ := delivered_connected nobody away chat
  obtain ⟨told, -, -⟩ := delivered_connected nobody back chat
  have second : ((((ofConfig {}).after back).meet chat).outbox.deliveries[1]?.map
      fun delivery => (delivery.recipient.id, delivery.recipient.name)) = some (2, "bob") := by
    dsimp only [back, away, chat]
    decide +kernel
  obtain ⟨delivery, here, same⟩ := Option.map_eq_some_iff.mp second
  obtain ⟨id, name⟩ := Prod.mk.inj same
  have member := List.mem_of_getElem? here
  obtain ⟨-, -, arrived⟩ := told delivery member
  rw [id] at arrived
  exact ⟨missed (away.take 2) _ [] 2 rfl rfl (by decide), delivery, member, name, arrived⟩

end Session

end Switchboard
