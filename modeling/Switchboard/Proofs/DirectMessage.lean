import Mathlib.Tactic.Common
import Switchboard.Proofs.Rejection

/-! What comes of a private message. Its target may turn it away, and so may the filters; else
the sender and the target get one copy each, and so do those who spy. The rule about ignoring is
asked twice, and a message that passes it as a refusal passes it as an audience. -/
namespace Switchboard

/-- The account ignores the sender, who may not bypass that. -/
def Account.Shuns (target sender : Account) : Prop :=
  target.ignores sender.id = true ∧ sender.holds .bypassIgnore = false

instance (target sender : Account) : Decidable (target.Shuns sender) :=
  inferInstanceAs (Decidable (_ ∧ _))

/-- The account takes no private messages, and the sender may not bypass that. -/
def Account.ShutTo (target sender : Account) : Prop :=
  target.messenger = false ∧ sender.holds .bypassMessenger = false

instance (target sender : Account) : Decidable (target.ShutTo sender) :=
  inferInstanceAs (Decidable (_ ∧ _))

namespace Session

/-- Who spies on private messages between the two. -/
def Oversees (session : Session) (sender target account : Account) : Prop :=
  session.isActive .spy = true ∧ sender.holds .socialSpyExempt = false ∧
    account.socialSpy = true ∧ account.holds .socialSpy = true ∧
    account.id ≠ sender.id ∧ account.id ≠ target.id

/-- What a copy of a private message says. -/
def directView (session : Session) (world : World) (sender target : Account) (format : Format)
    (message : Message) : Message :=
  Template.render
    { time := world.clock.timeOfDay
      user := sender.name
      target := target.name
      server := sender.server.getD ""
      channel := "private" }
    message (session.settings.templates format)

variable {session : Session} {world : World} {context : Context} {sender target : Account}

theorem refusal_of_shuns (shuns : target.Shuns sender) :
    session.refusal? sender target = some session.settings.notices.hasIgnored := by
  simp [refusal?, shuns.1, shuns.2]

theorem refusal_of_shutTo (heeds : ¬target.Shuns sender) (shut : target.ShutTo sender) :
    session.refusal? sender target = some session.settings.notices.messengerDisabled := by
  rw [refusal?, if_neg (by simpa [Account.Shuns] using heeds), if_pos (by simp [shut.1, shut.2])]

theorem refusal_eq_none (heeds : ¬target.Shuns sender) (opens : ¬target.ShutTo sender) :
    session.refusal? sender target = none := by
  rw [refusal?, if_neg (by simpa [Account.Shuns] using heeds),
    if_neg (by simpa [Account.ShutTo] using opens)]

/-- Filters stop a private message only where private messages pass them. -/
theorem processed_direct_blocked_iff {clock : Clock} {raw : String} {blocked : Blocked}
    {later : Filters} :
    session.processed clock sender .direct raw = (.error blocked, later) ↔
      session.settings.filtersPrivate = true ∧
        session.filters.passage clock sender raw = (.error blocked, later) := by
  unfold processed filtering
  cases session.settings.filtersPrivate with
  | false => simp
  | true =>
    rcases session.filters.passage clock sender raw with ⟨stopped | ⟨text, message⟩, last⟩ <;> simp

/-- A rule that was asked for a refusal asks nothing more of an audience. -/
theorem hears_of_not_shuns (heeds : ¬target.Shuns sender) : session.Hears sender target := by
  intro _ bound
  cases ignored : target.ignores sender.id with
  | false => rfl
  | true => exact absurd ⟨ignored, bound⟩ heeds

theorem reached_direct (heeds : ¬target.Shuns sender)
    (connected : session.directory.get? target.id = some target)
    (speaks : context.sender = some sender) (addressed : context.target = some target) :
    session.reached .direct context = [target] := by
  have only : session.reach .direct context = .ok (.only target.id) := by
    unfold reach
    rw [Context.requireTarget_of_some addressed]
    rfl
  have reached : session.Selects
      (fun account => account.id = target.id ∧ session.Hears sender account)
      (session.reached .direct context) := by
    refine gathered_selects fun account => ?_
    rw [audience_iff speaks, only, Audience.includes_ok_iff]
    simp [Audience.only, Channel.ignorable, Channel.respectsVanish]
  refine reached.unique ⟨List.pairwise_singleton _ _, fun account => ?_⟩
  rw [List.mem_singleton, Directory.mem_accounts_iff]
  constructor
  · rintro rfl
    exact ⟨connected, rfl, hears_of_not_shuns heeds⟩
  · rintro ⟨found, same, -⟩
    rw [same, connected] at found
    exact (Option.some.inj found).symm

theorem overseeing_selects :
    session.Selects (session.Oversees sender target) (session.overseeing sender target) := by
  unfold overseeing
  split
  case isFalse unseen =>
    refine nil_selects fun account oversees => unseen ?_
    rw [oversees.1, oversees.2.1]
    rfl
  case isTrue seen =>
    obtain ⟨spying, unspared⟩ : session.isActive .spy = true ∧
        sender.holds .socialSpyExempt = false := by simpa using seen
    refine connected_selects fun account => ?_
    rw [socialSpies, Audience.both_iff, Audience.both_iff]
    simp [Oversees, spying, unspared, and_assoc, Audience.socialSpies, Account.spiesSocially,
      Audience.except]

/-- What is to come of a private message. -/
structure DirectReport (session : Session) (world : World) (sender target : Account)
    (raw : String) (report : Report) : Prop where
  /-- This holds whether or not the feature of ignoring is active. -/
  shunned : target.Shuns sender →
    report.TurnedAway session sender (.ofText session.settings.notices.hasIgnored)
  shutOut : ¬target.Shuns sender → target.ShutTo sender →
    report.TurnedAway session sender (.ofText session.settings.notices.messengerDisabled)
  blocked : ¬target.Shuns sender → ¬target.ShutTo sender →
    ∀ blocked later, session.settings.filtersPrivate = true →
      session.filters.passage world.clock sender raw = (.error blocked, later) →
      report.session = session.withFilters later ∧
        report.result = .ok (some (.blocked blocked.reason)) ∧
        report.outbox.deliveries = [⟨sender, blocked.reason⟩]
  delivered : ¬target.Shuns sender → ¬target.ShutTo sender →
    ∀ filtered message later,
      session.processed world.clock sender .direct raw = (.ok (filtered, message), later) →
      ∃ spies, session.Selects (session.Oversees sender target) spies ∧
        report.session = session.withFilters later ∧
        report.result = .ok (some (.delivered (2 + spies.length))) ∧
        report.outbox.deliveries =
          ⟨sender, session.directView world sender target .messageSender message⟩ ::
          ⟨target, session.directView world sender target .messageTarget message⟩ ::
          (session.directView world sender target .socialSpy message).copies spies
  confidential : ∀ delivery ∈ report.outbox.deliveries,
    delivery.recipient = sender ∨ delivery.recipient = target ∨
      delivery.recipient.spiesSocially = true

theorem told {first second third : Message} {spies : List Account} {delivery : Delivery}
    (spying : session.Selects (session.Oversees sender target) spies)
    (member : delivery ∈ ⟨sender, first⟩ :: ⟨target, second⟩ :: third.copies spies) :
    delivery.recipient = sender ∨ delivery.recipient = target ∨
      delivery.recipient.spiesSocially = true := by
  rcases List.mem_cons.mp member with rfl | member
  · exact .inl rfl
  rcases List.mem_cons.mp member with rfl | member
  · exact .inr (.inl rfl)
  obtain ⟨spy, chosen, rfl⟩ := List.mem_map.mp member
  obtain ⟨-, -, -, switched, permitted, -⟩ := (spying.complete spy).mp chosen
  exact .inr (.inr (Bool.and_eq_true_iff.mpr ⟨switched, permitted⟩))

namespace DirectReport

variable {raw : String} {report : Report} {later : Filters}

theorem of_refused {notice : String} (turned : session.refusal? sender target = some notice)
    (away : report.TurnedAway session sender (.ofText notice)) :
    session.DirectReport world sender target raw report where
  shunned shuns := by
    cases turned.symm.trans (refusal_of_shuns shuns)
    exact away
  shutOut heeds shut := by
    cases turned.symm.trans (refusal_of_shutTo heeds shut)
    exact away
  blocked heeds opens := by cases turned.symm.trans (refusal_eq_none heeds opens)
  delivered heeds opens := by cases turned.symm.trans (refusal_eq_none heeds opens)
  confidential delivery member := by
    rw [away.answered, List.mem_singleton] at member
    rw [member]
    exact .inl rfl

theorem of_blocked {blocked : Blocked} (admitted : session.refusal? sender target = none)
    (stopped : session.processed world.clock sender .direct raw = (.error blocked, later))
    (kept : report.session = session.withFilters later)
    (result : report.result = .ok (some (.blocked blocked.reason)))
    (answered : report.outbox.deliveries = [⟨sender, blocked.reason⟩]) :
    session.DirectReport world sender target raw report where
  shunned shuns := by cases admitted.symm.trans (refusal_of_shuns shuns)
  shutOut heeds shut := by cases admitted.symm.trans (refusal_of_shutTo heeds shut)
  blocked _ _ _ _ filters passage := by
    cases stopped.symm.trans (processed_direct_blocked_iff.mpr ⟨filters, passage⟩)
    exact ⟨kept, result, answered⟩
  delivered _ _ _ _ _ passed := by cases stopped.symm.trans passed
  confidential delivery member := by
    rw [answered, List.mem_singleton] at member
    rw [member]
    exact .inl rfl

theorem of_delivered {filtered : Option String} {message : Message} {spies : List Account}
    (admitted : session.refusal? sender target = none)
    (passed : session.processed world.clock sender .direct raw = (.ok (filtered, message), later))
    (spying : session.Selects (session.Oversees sender target) spies)
    (kept : report.session = session.withFilters later)
    (result : report.result = .ok (some (.delivered (2 + spies.length))))
    (sent : report.outbox.deliveries =
      ⟨sender, session.directView world sender target .messageSender message⟩ ::
      ⟨target, session.directView world sender target .messageTarget message⟩ ::
      (session.directView world sender target .socialSpy message).copies spies) :
    session.DirectReport world sender target raw report where
  shunned shuns := by cases admitted.symm.trans (refusal_of_shuns shuns)
  shutOut heeds shut := by cases admitted.symm.trans (refusal_of_shutTo heeds shut)
  blocked _ _ _ _ filters passage := by
    cases passed.symm.trans (processed_direct_blocked_iff.mpr ⟨filters, passage⟩)
  delivered _ _ _ _ _ passedSo := by
    cases passed.symm.trans passedSo
    exact ⟨spies, spying, kept, result, sent⟩
  confidential delivery member := by
    rw [sent] at member
    exact told spying member

end DirectReport

theorem view_direct (format : Format) (filtered : Option String) (message : Message)
    (speaks : context.sender = some sender) (addressed : context.target = some target)
    (placed : context.server = sender.server) :
    session.view world .direct format { context with filtered, rendered := some message } =
      session.directView world sender target format message := by
  rw [view_processed .direct format filtered message speaks, addressed, placed]
  rfl

theorem course_direct {result : Except ContextError Outcome} {stage : Stage} {raw : String}
    (course : session.Course world context .direct result stage)
    (sound : Channel.direct.checkStructure context = .ok ()) (fresh : context.Fresh)
    (on : context.channel = some .direct) (speaks : context.sender = some sender)
    (addressed : context.target = some target) (wrote : context.message = some raw)
    (placed : context.server = sender.server)
    (connected : session.directory.get? target.id = some target) :
    session.DirectReport world sender target raw {
      session := session.withFilters stage.filters
      result := (result.map some).mapError .rejected
      outbox := stage.outbox } := by
  cases course with
  | unsound lacks => cases sound.symm.trans lacks
  | announcedTwice silent | announced silent => cases silent
  | broadcast _ notDirect => exact absurd rfl notDirect
  | processedTwice stale => exact absurd fresh stale
  | refused _ spoken spokenTo turned =>
    cases speaks.symm.trans spoken
    cases addressed.symm.trans spokenTo
    exact .of_refused turned
      ⟨rfl, rfl, Outbox.deliveries_deliver .., Outbox.entries_deliver ..⟩
  | blocked filtering spoken processes =>
    cases speaks.symm.trans spoken
    obtain ⟨text, wroteText, stopped⟩ := processes.blocked_of_fresh fresh speaks
    cases wrote.symm.trans wroteText
    exact .of_blocked (processes.admitted sender target rfl speaks addressed) stopped rfl rfl
      (Outbox.deliveries_deliver ..)
  | direct spoken spokenTo processes =>
    cases speaks.symm.trans spoken
    cases addressed.symm.trans spokenTo
    have admitted := processes.admitted sender target rfl speaks addressed
    obtain ⟨text, filtered, message, wroteText, passed, rfl⟩ :=
      processes.ready_of_fresh fresh speaks
    cases wrote.symm.trans wroteText
    have heeds : ¬target.Shuns sender := by
      intro shuns
      cases admitted.symm.trans (refusal_of_shuns shuns)
    have reached : session.reached .direct context = [target] :=
      reached_direct heeds connected speaks addressed
    refine .of_delivered admitted passed overseeing_selects rfl (by rw [reached]; rfl) ?_
    simp only [Outbox.deliveries_deliver, deliveries_note]
    rw [reached, render_processed .messageSender filtered _ on,
      render_processed .messageTarget filtered _ on, render_processed .socialSpy filtered _ on,
      view_direct .messageSender filtered message speaks addressed placed,
      view_direct .messageTarget filtered message speaks addressed placed,
      view_direct .socialSpy filtered message speaks addressed placed]
    rfl

/-- What comes of a private message between connected accounts, which may be the same one, for
every set of filters and features. -/
theorem sendDirect_report (session : Session) (world : World) (raw : String)
    (sends : session.directory.get? sender.id = some sender)
    (receives : session.directory.get? target.id = some target) :
    session.DirectReport world sender target raw
      (session.sendDirect world sender.id target.id raw) := by
  unfold sendDirect
  rw [sends, receives]
  have course := session.dispatch_course world
    { Context.ofSender sender with
      target := some target, message := some raw, channel := some .direct }
  exact course_direct course rfl ⟨rfl, rfl⟩ rfl rfl rfl rfl rfl receives

theorem sendDirect_report_linked :
    (linkedServers.sendDirect default ada.id di.id "hi").TurnedAway linkedServers ada
      (.ofText linkedServers.settings.notices.hasIgnored) ∧
    ∃ spies, linkedServers.Selects (linkedServers.Oversees ada bo) spies ∧
      (linkedServers.sendDirect default ada.id bo.id "hi").result =
        .ok (some (.delivered (2 + spies.length))) := by
  have turned : linkedServers.DirectReport default ada di "hi"
      (linkedServers.sendDirect default ada.id di.id "hi") := sendDirect_report _ _ _ rfl rfl
  have taken : linkedServers.DirectReport default ada bo "hi"
      (linkedServers.sendDirect default ada.id bo.id "hi") := sendDirect_report _ _ _ rfl rfl
  obtain ⟨spies, selects, -, result, -⟩ := taken.delivered (by decide) (by decide)
    (some "hi") (.parse "hi") linkedServers.filters rfl
  exact ⟨turned.shunned ⟨rfl, rfl⟩, spies, selects, result⟩

end Session

end Switchboard
