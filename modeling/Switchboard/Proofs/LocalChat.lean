import Mathlib.Tactic.Common
import Switchboard.Proofs.Course
import Switchboard.Proofs.Recipients

/-! Who gets a copy of local chat: those on the server, those on servers linked with it, and
those who spy on local chat. The three are told apart by where an account is, so nobody gets two
copies, whatever the groups and features are. -/
namespace Switchboard.Session

/-- The account is on another server, one that shares local chat with `server`. -/
def Linked (session : Session) (server : String) (account : Account) : Prop :=
  ∃ other, account.server = some other ∧ other ≠ server ∧
    session.settings.serverGroups.Linked other server

/-- Whom local chat on `server` reaches there. -/
def Near (session : Session) (sender : Account) (server : String) (account : Account) : Prop :=
  account.server = some server ∧ session.Hears sender account

/-- Whom it reaches through multicasting. -/
def Far (session : Session) (sender : Account) (server : String) (account : Account) : Prop :=
  session.isActive .multicastChat = true ∧ session.Linked server account ∧
    session.Hears sender account

/-- Who spies on it, being neither on the server nor on one that is served by multicasting. -/
def Overhears (session : Session) (sender : Account) (server : String) (account : Account) : Prop :=
  session.isActive .spy = true ∧ sender.holds .localSpyExempt = false ∧
    account.spiesLocally = true ∧ account.server ≠ some server ∧
    (session.isActive .multicastChat = true → ¬session.Linked server account) ∧
    session.Hears sender account

/-- What a copy of local chat says, `channel` being how the template names the channel. -/
def localView (session : Session) (world : World) (sender : Account) (server channel : String)
    (format : Format) (message : Message) : Message :=
  Template.render { time := world.clock.timeOfDay, user := sender.name, server, channel } message
    (session.settings.templates format)

variable {session : Session} {world : World} {context : Context} {sender account : Account}
  {server : String}

theorem onLinked_iff :
    Audience.onJoined session.settings.serverGroups (some server) account = true ↔
      session.Linked server account :=
  Audience.onJoined_iff

theorem not_server_of_linked (linked : session.Linked server account) :
    account.server ≠ some server := by
  obtain ⟨other, placed, different, -⟩ := linked
  rw [placed]
  exact fun same => different (Option.some.inj same)

theorem reached_local_selects (speaks : context.sender = some sender)
    (placed : context.server = some server) :
    session.Selects (session.Near sender server) (session.reached .localChat context) := by
  refine gathered_selects fun account => ?_
  have reaches : session.reach .localChat context = .ok (.onServer (some server)) := by
    unfold reach
    rw [Context.requireServer_of_some placed]
    rfl
  rw [audience_iff speaks, reaches, Audience.includes_ok_iff, Audience.onServer_iff, Near]
  simp [Channel.ignorable, Channel.respectsVanish]

theorem relayed_selects (speaks : context.sender = some sender)
    (placed : context.server = some server) :
    session.Selects (session.Far sender server) (session.relayed context) := by
  unfold relayed
  cases active : session.isActive .multicastChat with
  | false => exact nil_selects fun account far => by simp [Far, active] at far
  | true =>
    refine gathered_selects fun account => ?_
    have reaches : session.reach .multicastChat { context with channel := some .multicastChat } =
        .ok (.within session.settings.serverGroups (some server)) := by
      unfold reach
      rw [Context.requireServer_of_some (by exact placed), active]
      rfl
    rw [Audience.includes_both_iff, audience_iff (by exact speaks), reaches,
      Audience.includes_ok_iff, Audience.within, Audience.either_iff, Audience.others_iff, placed,
      Audience.onServer_iff, onLinked_iff, Far]
    have vanish : Channel.multicastChat.respectsVanish ≠ true := by decide
    constructor
    · rintro ⟨⟨here | linked, hears, -⟩, elsewhere⟩
      · exact absurd here elsewhere
      · exact ⟨active, linked, hears rfl⟩
    · rintro ⟨-, linked, hears⟩
      exact ⟨⟨.inr linked, fun _ => hears, fun respects => absurd respects vanish⟩,
        not_server_of_linked linked⟩

theorem overhearing_selects :
    session.Selects (session.Overhears sender server) (session.overhearing sender server) := by
  unfold overhearing
  split
  case isFalse unheard =>
    refine nil_selects fun account overhears => unheard ?_
    rw [overhears.1, overhears.2.1]
    rfl
  case isTrue heard =>
    obtain ⟨spying, unspared⟩ : session.isActive .spy = true ∧
        sender.holds .localSpyExempt = false := by simpa using heard
    refine connected_selects fun account => ?_
    rw [localSpies, heeded_iff, Audience.both_iff, Audience.others_iff, Overhears]
    cases active : session.isActive .multicastChat with
    | false =>
      rw [if_neg (by decide), Audience.onServer_iff]
      simp [spying, unspared, and_assoc, Audience.localSpies]
    | true =>
      rw [if_pos rfl, Audience.within, Audience.either_iff, Audience.onServer_iff, onLinked_iff]
      simp [spying, unspared, and_assoc, Audience.localSpies]

theorem near_not_far (near : session.Near sender server account) :
    ¬session.Far sender server account := by
  rintro ⟨-, linked, -⟩
  exact not_server_of_linked linked near.1

theorem near_not_overhears (near : session.Near sender server account) :
    ¬session.Overhears sender server account := by
  rintro ⟨-, -, -, elsewhere, -⟩
  exact elsewhere near.1

theorem far_not_overhears (far : session.Far sender server account) :
    ¬session.Overhears sender server account := by
  rintro ⟨-, -, -, -, unserved, -⟩
  exact unserved far.1 far.2.1

theorem recipients_nodup {near far spies : List Account}
    (nearby : session.Selects (session.Near sender server) near)
    (afar : session.Selects (session.Far sender server) far)
    (spying : session.Selects (session.Overhears sender server) spies) :
    ((near ++ far ++ spies).map (·.id)).Nodup := by
  rw [List.map_append, List.map_append, List.nodup_append, List.nodup_append]
  refine ⟨⟨nearby.ids_nodup, afar.ids_nodup, nearby.ids_disjoint afar fun _ => near_not_far⟩,
    spying.ids_nodup, ?_⟩
  intro id member
  rcases List.mem_append.mp member with here | there
  · exact nearby.ids_disjoint spying (fun _ => near_not_overhears) id here
  · exact afar.ids_disjoint spying (fun _ => far_not_overhears) id there

theorem view_local (channel : Channel) (format : Format) (filtered : Option String)
    (message : Message) (speaks : context.sender = some sender)
    (placed : context.server = some server) (alone : context.target = none) :
    session.view world channel format { context with filtered, rendered := some message } =
      session.localView world sender server channel.name format message := by
  rw [view_processed channel format filtered message speaks, alone, placed]
  rfl

theorem course_localChat {stage : Stage} {copies : Nat}
    (course : session.Course world context .localChat (.ok (.delivered copies)) stage)
    (on : context.channel = some .localChat) (fresh : context.Fresh)
    (speaks : context.sender = some sender) (placed : context.server = some server) :
    ∃ raw filtered message,
      context.message = some raw ∧
      (session.processed world.clock sender .localChat raw).1 = .ok (filtered, message) ∧
      stage.outbox.deliveries =
        (session.localView world sender server "local" .localChat message).copies
          (session.reached .localChat context) ++
        (session.localView world sender server "multicast" .multicastChat message).copies
          (session.relayed context) ++
        (session.localView world sender server "local" .localSpy message).copies
          (session.overhearing sender server) ∧
      copies = (session.reached .localChat context).length +
        (session.relayed context).length + (session.overhearing sender server).length := by
  cases course with
  | announced silent => cases silent
  | broadcast notLocal => exact absurd rfl notLocal
  | nearby spoken here processes =>
    cases speaks.symm.trans spoken
    cases placed.symm.trans here
    obtain ⟨raw, filtered, message, wrote, passed, rfl⟩ := processes.ready_of_fresh fresh speaks
    have alone : context.target = none :=
      Channel.untargeted_of_structure processes.sound (by simp [Channel.requirements])
    refine ⟨raw, filtered, message, wrote, by rw [passed], ?_, rfl⟩
    simp only [Outbox.deliveries_deliver, deliveries_note, List.nil_append]
    rw [render_processed .localChat filtered _ on, render_processed .localSpy filtered _ on,
      view_local .localChat .localChat filtered message speaks placed alone,
      view_local .multicastChat .multicastChat filtered message speaks placed alone,
      view_local .localChat .localSpy filtered message speaks placed alone]
    rfl

/-- Local chat that goes out is one copy for each of the near, the far and the spies, in this
order and each part in ascending order of ids. -/
theorem localChat_delivered {copies : Nat} (nearby : session.channelOf context = .localChat)
    (fresh : context.Fresh) (speaks : context.sender = some sender)
    (placed : context.server = some server)
    (delivered : (session.dispatch world context).1 = .ok (.delivered copies)) :
    ∃ raw filtered message near far spies,
      context.message = some raw ∧
      (session.processed world.clock sender .localChat raw).1 = .ok (filtered, message) ∧
      session.Selects (session.Near sender server) near ∧
      session.Selects (session.Far sender server) far ∧
      session.Selects (session.Overhears sender server) spies ∧
      (session.dispatch world context).2.outbox.deliveries =
        (session.localView world sender server "local" .localChat message).copies near ++
        (session.localView world sender server "multicast" .multicastChat message).copies far ++
        (session.localView world sender server "local" .localSpy message).copies spies ∧
      copies = near.length + far.length + spies.length ∧
      ((session.dispatch world context).2.outbox.deliveries.map (·.recipient.id)).Nodup := by
  have course := session.dispatch_course world context
  rw [nearby, delivered] at course
  obtain ⟨raw, filtered, message, wrote, passed, sent, counted⟩ :=
    course_localChat course rfl ⟨fresh.unfiltered, fresh.unparsed⟩ speaks placed
  have near : session.Selects (session.Near sender server)
      (session.reached .localChat context) := reached_local_selects speaks placed
  have far : session.Selects (session.Far sender server)
      (session.relayed context) := relayed_selects speaks placed
  have spies : session.Selects (session.Overhears sender server)
      (session.overhearing sender server) := overhearing_selects
  refine ⟨raw, filtered, message, _, _, _, wrote, passed, near, far, spies, sent, counted, ?_⟩
  rw [sent, List.map_append, List.map_append, Message.ids_copies, Message.ids_copies,
    Message.ids_copies, ← List.map_append, ← List.map_append]
  exact recipients_nodup near far spies

theorem localChat_delivered_linked :
    let sent := linkedServers.dispatch default { Context.ofSender ada with message := some "hi" }
    sent.1 = .ok (.delivered 3) ∧ sent.2.outbox.deliveries.map (·.recipient.id) = [1, 2, 3] ∧
      (sent.2.outbox.deliveries.map (·.recipient.id)).Nodup := by
  intro sent
  have delivered : sent.1 = .ok (.delivered 3) :=
    Dispatching.eq_ok_of_toOption (by dsimp only [sent]; decide +kernel)
  obtain ⟨-, -, -, -, -, -, -, -, -, -, -, -, -, once⟩ :=
    localChat_delivered rfl ⟨rfl, rfl⟩ rfl rfl delivered
  dsimp only [sent] at delivered once ⊢
  exact ⟨delivered, by decide +kernel, once⟩

end Switchboard.Session
