import Mathlib.Tactic.Common
import Switchboard.Proofs.Accounting
import Switchboard.Proofs.DirectMessage
import Switchboard.Proofs.FanOut

/-! What still reaches an account that ignores the sender. Every audience on an ignorable channel
leaves such an account out, save one: those who oversee private messages are not asked whom they
ignore. -/
namespace Switchboard.Session

open Dispatching

variable {session : Session} {world : World} {context ready : Context} {channel : Channel}
  {sender account : Account} {fanOut : FanOut}

theorem not_hears_of_shuns (ignoring : session.isActive .ignoring = true)
    (shuns : account.Shuns sender) : ¬session.Hears sender account := by
  intro hears
  cases shuns.1.symm.trans (hears ignoring shuns.2)

theorem hears_of_reached (ignorable : channel.ignorable = true)
    (speaks : context.sender = some sender) (member : account ∈ session.reached channel context) :
    session.Hears sender account := by
  obtain ⟨-, chosen⟩ := mem_gathered_iff.mp member
  exact ((audience_iff speaks).mp chosen).2.1 ignorable

theorem hears_of_relayed (speaks : context.sender = some sender)
    (member : account ∈ session.relayed context) : session.Hears sender account := by
  unfold relayed at member
  dsimp only at member
  split at member
  · obtain ⟨-, chosen⟩ := mem_gathered_iff.mp member
    obtain ⟨chosen, -⟩ := Audience.includes_both_iff.mp chosen
    exact ((audience_iff (by exact speaks)).mp chosen).2.1 rfl
  · cases member

theorem hears_of_overhearing {server : String}
    (member : account ∈ session.overhearing sender server) : session.Hears sender account := by
  unfold overhearing at member
  split at member
  · obtain ⟨-, chosen⟩ := mem_connected_iff.mp member
    exact (heeded_iff.mp chosen).2
  · cases member

/-- The fan-outs of an ignorable channel are for accounts that hear the sender. The copies for
those who oversee a private message are the exception. -/
theorem hears_of_fannedOut (ignorable : channel.ignorable = true)
    (speaks : ready.sender = some sender)
    (fanned : fanOut ∈ session.fanOuts world channel sender ready)
    (member : account ∈ fanOut.recipients) :
    session.Hears sender account ∨
      channel = .direct ∧ fanOut = session.socialSpyCopies world sender ready := by
  rcases List.mem_cons.mp fanned with rfl | further
  · exact .inl (hears_of_reached ignorable speaks member)
  cases channel with
  | localChat =>
    rcases List.mem_cons.mp further with rfl | spies
    · exact .inl (hears_of_relayed speaks member)
    · cases List.mem_singleton.mp spies
      unfold localSpyCopies at member
      dsimp only at member
      split at member
      · exact .inl (hears_of_overhearing member)
      · cases member
  | direct => exact .inr ⟨rfl, List.mem_singleton.mp further⟩
  | globalChat | multicastChat => cases further
  | staffChat | join | leave | switch | alert => cases ignorable

theorem mem_socialSpyCopies_iff :
    account ∈ (session.socialSpyCopies world sender ready).recipients ↔
      ∃ target, ready.target = some target ∧ account ∈ session.directory.accounts ∧
        session.Oversees sender target account := by
  unfold socialSpyCopies
  cases ready.target with
  | none => simp
  | some target => simp [overseeing_selects.complete account]

/-- Whoever has a copy of a message that went out is its sender, or among the recipients of a
fan-out. -/
theorem copied_iff (other : account.id ≠ sender.id) :
    (∃ delivery ∈ session.confirmation world channel sender ready ++
        (session.fanOuts world channel sender ready).flatMap FanOut.copies,
      delivery.recipient = account) ↔
      ∃ fanOut ∈ session.fanOuts world channel sender ready, account ∈ fanOut.recipients := by
  constructor
  · rintro ⟨delivery, member, rfl⟩
    rcases List.mem_append.mp member with confirmed | copied
    · unfold confirmation at confirmed
      split at confirmed
      · cases List.mem_singleton.mp confirmed
        exact absurd rfl other
      · cases confirmed
    · obtain ⟨fanOut, fanned, copy⟩ := List.mem_flatMap.mp copied
      obtain ⟨recipient, here, rfl⟩ := List.mem_map.mp copy
      exact ⟨fanOut, fanned, here⟩
  · rintro ⟨fanOut, fanned, member⟩
    refine ⟨⟨account, fanOut.message⟩, List.mem_append_right _ ?_, rfl⟩
    exact List.mem_flatMap.mpr ⟨fanOut, fanned, List.mem_map.mpr ⟨account, member, rfl⟩⟩

theorem not_told_of_answered {deliveries : List Delivery} {reason : Message}
    (speaks : context.sender = some sender) (other : account.id ≠ sender.id)
    (answered : ∃ answeredTo, context.sender = some answeredTo ∧
      deliveries = [⟨answeredTo, reason⟩]) :
    ¬∃ delivery ∈ deliveries, delivery.recipient = account := by
  obtain ⟨answeredTo, spoken, rfl⟩ := answered
  cases speaks.symm.trans spoken
  rintro ⟨delivery, member, rfl⟩
  rw [List.mem_singleton.mp member] at other
  exact other rfl

/-- An account that ignores the sender is among the recipients only as one who oversees. -/
theorem fannedOut_iff_oversees (ignorable : channel.ignorable = true)
    (speaks : ready.sender = some sender) (ignoring : session.isActive .ignoring = true)
    (connected : account ∈ session.directory.accounts) (shuns : account.Shuns sender) :
    (∃ fanOut ∈ session.fanOuts world channel sender ready, account ∈ fanOut.recipients) ↔
      channel = .direct ∧
        ∃ target, ready.target = some target ∧ session.Oversees sender target account := by
  constructor
  · rintro ⟨fanOut, fanned, member⟩
    rcases hears_of_fannedOut ignorable speaks fanned member with hears | ⟨direct, rfl⟩
    · exact absurd hears (not_hears_of_shuns ignoring shuns)
    · obtain ⟨target, addressed, -, oversees⟩ := mem_socialSpyCopies_iff.mp member
      exact ⟨direct, target, addressed, oversees⟩
  · rintro ⟨rfl, target, addressed, oversees⟩
    refine ⟨session.socialSpyCopies world sender ready, ?_, ?_⟩
    · exact List.mem_cons_of_mem _ List.mem_cons_self
    · exact mem_socialSpyCopies_iff.mpr ⟨target, addressed, connected, oversees⟩

/-- On an ignorable channel, while ignoring is possible and the sender may not bypass it, an
account that ignores the sender gets nothing of what is sent, with one exception: it gets a copy of
a private message that goes out if it oversees private messages. -/
theorem ignoring_account_told_iff (ignorable : (session.channelOf context).ignorable = true)
    (ignoring : session.isActive .ignoring = true) (speaks : context.sender = some sender)
    (connected : account ∈ session.directory.accounts) (other : account.id ≠ sender.id)
    (shuns : account.Shuns sender) :
    (∃ delivery ∈ (session.dispatch world context).2.outbox.deliveries,
      delivery.recipient = account) ↔
      session.channelOf context = .direct ∧
      (∃ copies, (session.dispatch world context).1 = .ok (.delivered copies)) ∧
      ∃ target, context.target = some target ∧ session.Oversees sender target account := by
  have course := session.dispatch_course world context
  have accounted := course_accounted course
  cases same : (session.dispatch world context).1 with
  | error error =>
    rw [same] at accounted
    rw [accounted.1]
    simp
  | ok outcome =>
    rw [same] at accounted course
    cases outcome with
    | blocked reason | refused reason =>
      refine iff_of_false (not_told_of_answered speaks other accounted.1) ?_
      rintro ⟨-, ⟨copies, delivered⟩, -⟩
      cases delivered
    | delivered copies =>
      obtain ⟨speaker, ready, spoken, prepares, sent⟩ := course_fannedOut course
      cases speaks.symm.trans spoken
      have addressed : ready.target = context.target := prepares.target
      rw [sent, copied_iff other, fannedOut_iff_oversees ignorable (prepares.sender_eq.trans speaks)
        ignoring connected shuns, addressed]
      exact ⟨fun ⟨direct, seen⟩ => ⟨direct, ⟨copies, rfl⟩, seen⟩,
        fun ⟨direct, _, seen⟩ => ⟨direct, seen⟩⟩

/-- The spy ignores the sender and sees the private message all the same. -/
theorem ignoring_account_told_iff_linked :
    let shy : Account := { cy with ignored := [1] }
    let watched : Session :=
      { linkedServers with directory := linkedServers.directory.connect shy }
    let note : Context :=
      { Context.ofSender ada with
        target := some bo, message := some "hi", channel := some .direct }
    shy.Shuns ada ∧ ∃ delivery ∈ (watched.dispatch default note).2.outbox.deliveries,
      delivery.recipient = shy := by
  intro shy watched note
  have shuns : shy.Shuns ada := ⟨rfl, rfl⟩
  have oversees : watched.Oversees ada bo shy := ⟨rfl, rfl, rfl, rfl, by decide, by decide⟩
  have delivered : (watched.dispatch default note).1 = .ok (.delivered 3) :=
    eq_ok_of_toOption (by dsimp only [watched, shy, note]; decide +kernel)
  refine ⟨shuns, ?_⟩
  refine (ignoring_account_told_iff rfl rfl rfl ?_ ?_ shuns).mpr
    ⟨rfl, ⟨3, delivered⟩, bo, rfl, oversees⟩
  · decide
  · decide

/-- It is not so that ignoring a sender always keeps away what the sender sends. -/
theorem ignoring_not_absolute :
    ¬∀ (session : Session) (world : World) (context : Context) (sender account : Account),
      (session.channelOf context).ignorable = true → session.isActive .ignoring = true →
      context.sender = some sender → account ∈ session.directory.accounts →
      account.id ≠ sender.id → account.Shuns sender →
      ∀ delivery ∈ (session.dispatch world context).2.outbox.deliveries,
        delivery.recipient ≠ account := by
  intro always
  have kept := always
    { linkedServers with directory := linkedServers.directory.connect { cy with ignored := [1] } }
    default
    { Context.ofSender ada with target := some bo, message := some "hi", channel := some .direct }
    ada { cy with ignored := [1] } rfl rfl rfl (by decide) (by decide) ⟨rfl, rfl⟩
  revert kept
  decide +kernel

end Switchboard.Session
