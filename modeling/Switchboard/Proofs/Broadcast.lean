import Mathlib.Tactic.Common
import Switchboard.Proofs.Accounting
import Switchboard.Proofs.FanOut
import Switchboard.Proofs.LocalChat

/-! Who gets a message that goes out in one piece: chat that is not local, alerts, and notices of
coming, going and moving. Each is one message for one set of connected accounts, which is said here
in terms of accounts alone. -/
namespace Switchboard.Session

/-- Whom a channel reaches, before rules about ignoring and vanishing. -/
def InReach (session : Session) (context : Context) (account : Account) : Channel → Prop
  | .globalChat => session.isActive .globalChat = true →
      ∀ servers, session.settings.globalServers = some servers →
        ∃ server ∈ servers, account.server = some server
  | .localChat => ∃ server, context.server = some server ∧ account.server = some server
  | .multicastChat => ∃ server, context.server = some server ∧
      (account.server = some server ∨
        session.isActive .multicastChat = true ∧ session.Linked server account)
  | .staffChat => account.holds .staffChatView = true
  | .direct => ∃ target, context.target = some target ∧ account.id = target.id
  | .join => account.holds .joinMessageView = true
  | .leave => account.holds .leaveMessageView = true
  | .switch => account.holds .switchMessageView = true
  | .alert => True

variable {session : Session} {world : World} {context : Context} {channel : Channel}
  {sender account : Account}

theorem onListed_iff {listed : Option (List String)} :
    Audience.onListed listed account = true ↔
      ∀ servers, listed = some servers → ∃ server ∈ servers, account.server = some server := by
  cases listed with
  | none => simp [Audience.onListed, Audience.everyone]
  | some servers => cases placed : account.server <;> simp [Audience.onListed, placed]

theorem reach_iff : Audience.Includes (session.reach channel context) account ↔
    session.InReach context account channel := by
  cases channel with
  | globalChat =>
    refine Audience.includes_ok_iff.trans ?_
    unfold InReach
    cases session.isActive .globalChat with
    | false => simp [Audience.everyone]
    | true => simp [onListed_iff]
  | localChat =>
    unfold reach InReach
    cases placed : context.server with
    | none => simp [Context.requireServer, Context.demand, placed, bind, Except.bind]
    | some server =>
      rw [Context.requireServer_of_some placed]
      refine Audience.includes_ok_iff.trans ?_
      simp [Audience.onServer_iff]
  | multicastChat =>
    unfold reach InReach
    cases placed : context.server with
    | none => simp [Context.requireServer, Context.demand, placed, bind, Except.bind]
    | some server =>
      rw [Context.requireServer_of_some placed]
      refine Audience.includes_ok_iff.trans ?_
      cases session.isActive .multicastChat <;>
        simp [Audience.within, Audience.either_iff, Audience.onServer_iff, onLinked_iff]
  | direct =>
    unfold reach InReach
    cases addressed : context.target with
    | none => simp [Context.requireTarget, Context.demand, addressed, bind, Except.bind]
    | some target =>
      rw [Context.requireTarget_of_some addressed]
      refine Audience.includes_ok_iff.trans ?_
      simp [Audience.only]
  | staffChat | join | leave | switch => exact Audience.includes_ok_iff
  | alert => exact iff_of_true (Audience.includes_ok_iff.mpr rfl) trivial

theorem inReach_channel (chosen : Option Channel) :
    session.InReach { context with channel := chosen } account channel ↔
      session.InReach context account channel := by
  cases channel <;> exact Iff.rfl

theorem reached_selects (channel : Channel) (speaks : context.sender = some sender) :
    session.Selects (fun account => session.InReach context account channel ∧
      (channel.ignorable = true → session.Hears sender account) ∧
      (channel.respectsVanish = true → sender.vanished = true →
        account.holds .vanishView = true))
      (session.reached channel context) :=
  gathered_selects fun account => by rw [audience_iff speaks, reach_iff]

theorem ignorable_iff (notLocal : channel ≠ .localChat) (notDirect : channel ≠ .direct) :
    channel.ignorable = true ↔ channel ∈ [Channel.globalChat, .multicastChat] := by
  cases channel <;> first | contradiction | decide

theorem respectsVanish_iff :
    channel.respectsVanish = true ↔ channel ∈ [Channel.join, .leave, .switch] := by
  cases channel <;> decide

/-- Messages that are neither local nor private go out as one message. Its recipients are exactly
those whom the channel reaches, each once and in ascending order of ids; those who ignore the
sender are left out of global and multicast chat alone, and those who may not see the vanished
miss a vanished sender's notices alone. -/
theorem broadcast_delivered {copies : Nat} (notLocal : session.channelOf context ≠ .localChat)
    (notDirect : session.channelOf context ≠ .direct) (speaks : context.sender = some sender)
    (delivered : (session.dispatch world context).1 = .ok (.delivered copies)) :
    ∃ ready recipients,
      session.Prepares world { context with channel := some (session.channelOf context) }
        (session.channelOf context) ready ∧
      (session.dispatch world context).2.outbox.deliveries =
        (session.shown world (session.channelOf context) ready).copies recipients ∧
      session.Selects (fun account =>
        session.InReach context account (session.channelOf context) ∧
        (session.channelOf context ∈ [Channel.globalChat, .multicastChat] →
          session.Hears sender account) ∧
        (session.channelOf context ∈ [Channel.join, .leave, .switch] →
          sender.vanished = true → account.holds .vanishView = true)) recipients ∧
      copies = recipients.length := by
  have course := session.dispatch_course world context
  rw [delivered] at course
  obtain ⟨same, ready, spoken, prepares, copied⟩ := course_fannedOut course
  cases speaks.symm.trans spoken
  rw [confirmation, if_neg notDirect, fanOuts_of_broadcast notLocal notDirect,
    List.flatMap_singleton, List.nil_append, prepares.copies_own] at copied
  refine ⟨ready, _, prepares, copied, ?_, ?_⟩
  · have selects : session.Selects _ (session.reached (session.channelOf context)
        { context with channel := some (session.channelOf context) }) :=
      reached_selects (session.channelOf context) (by exact speaks)
    simpa only [inReach_channel, ignorable_iff notLocal notDirect, respectsVanish_iff] using selects
  · obtain ⟨counted, -⟩ := course_accounted course
    rw [← counted, copied, Message.copies, List.length_map]

theorem broadcast_delivered_linked :
    let hidden : Account := { bo with vanished := true }
    let seer : Account := { cy with permissions := [.leaveMessageView, .vanishView] }
    let watcher : Account := { di with permissions := [.leaveMessageView] }
    let watched : Session :=
      { linkedServers with directory := [hidden, seer, watcher].foldl .connect .empty }
    let notice : Context := { Context.ofSender hidden with channel := some .leave }
    (watched.dispatch default notice).1 = .ok (.delivered 1) ∧
    ∃ recipients : List Account, recipients.length = 1 ∧ seer ∈ recipients ∧
      watcher ∉ recipients ∧
      (watched.dispatch default notice).2.outbox.deliveries.map (·.recipient) = recipients := by
  intro hidden seer watcher watched notice
  have delivered : (watched.dispatch default notice).1 = .ok (.delivered 1) := rfl
  obtain ⟨ready, recipients, -, sent, selects, counted⟩ :=
    broadcast_delivered (by decide) (by decide) rfl delivered
  refine ⟨delivered, recipients, counted.symm, ?_, ?_, ?_⟩
  · refine (selects.complete seer).mpr ⟨by decide, rfl, ?_, fun _ _ => rfl⟩
    intro heeded
    exact absurd heeded (by decide)
  · intro member
    have sees := ((selects.complete watcher).mp member).2.2.2 (by decide) rfl
    exact absurd sees (by decide)
  · rw [sent, Message.copies, List.map_map]
    exact List.map_id recipients

end Switchboard.Session
