import Mathlib.Tactic.Common
import Switchboard.Proofs.Broadcast
import Switchboard.Proofs.Gate
import Switchboard.Proofs.Verdict

/-! Local chat that is relayed and multicast chat that is sent directly. The one goes out in two
fan-outs, to the server and then to those linked with it, the other in one fan-out to both; they
need the same context, are stopped by the same filters, and reach the same people. -/
namespace Switchboard.Session

variable {session : Session} {world : World} {context : Context} {sender : Account}
  {server : String}

theorem checkStructure_local_multicast (context : Context) :
    Channel.multicastChat.checkStructure { context with channel := some .multicastChat } =
      Channel.localChat.checkStructure { context with channel := some .localChat } := rfl

theorem course_multicastChat {stage : Stage} {copies : Nat}
    (course : session.Course world context .multicastChat (.ok (.delivered copies)) stage)
    (on : context.channel = some .multicastChat) (fresh : context.Fresh)
    (speaks : context.sender = some sender) (placed : context.server = some server) :
    ∃ raw filtered message,
      context.message = some raw ∧
      (session.processed world.clock sender .multicastChat raw).1 = .ok (filtered, message) ∧
      stage.outbox.deliveries =
        (session.localView world sender server "multicast" .multicastChat message).copies
          (session.reached .multicastChat context) := by
  cases course with
  | announced silent => cases silent
  | broadcast _ _ spoken processes =>
    cases speaks.symm.trans spoken
    obtain ⟨raw, filtered, message, wrote, passed, rfl⟩ := processes.ready_of_fresh fresh speaks
    have alone : context.target = none :=
      Channel.untargeted_of_structure processes.sound (by simp [Channel.requirements])
    refine ⟨raw, filtered, message, wrote, by rw [passed], ?_⟩
    simp only [Outbox.deliveries_deliver, deliveries_note, List.nil_append, Channel.format]
    rw [render_processed .multicastChat filtered _ on,
      view_local .multicastChat .multicastChat filtered message speaks placed alone]
    rfl

theorem reached_multicast_selects (speaks : context.sender = some sender)
    (placed : context.server = some server) :
    session.Selects (fun account => session.Near sender server account ∨
      session.Far sender server account) (session.reached .multicastChat context) := by
  refine gathered_selects fun account => ?_
  rw [audience_iff speaks, reach_iff, InReach, Near, Far]
  have vanish : Channel.multicastChat.respectsVanish ≠ true := by decide
  have ignorable : Channel.multicastChat.ignorable = true := rfl
  constructor
  · rintro ⟨⟨here, same, reached⟩, hears, -⟩
    cases placed.symm.trans same
    rcases reached with near | ⟨active, linked⟩
    · exact .inl ⟨near, hears ignorable⟩
    · exact .inr ⟨active, linked, hears ignorable⟩
  · rintro (⟨near, hears⟩ | ⟨active, linked, hears⟩)
    · exact ⟨⟨server, placed, .inl near⟩, fun _ => hears, fun respects => absurd respects vanish⟩
    · exact ⟨⟨server, placed, .inr ⟨active, linked⟩⟩, fun _ => hears,
        fun respects => absurd respects vanish⟩

/-- What is chosen in two parts that exclude each other is what is chosen at once. -/
theorem Selects.append_perm {chosen other : Account → Prop} {accounts others both : List Account}
    (selects : session.Selects chosen accounts) (selectsOther : session.Selects other others)
    (selectsBoth : session.Selects (fun account => chosen account ∨ other account) both)
    (exclusive : ∀ account, chosen account → ¬other account) : (accounts ++ others).Perm both := by
  have nodup : (accounts ++ others).Nodup := by
    refine List.nodup_append.mpr ⟨selects.nodup, selectsOther.nodup, ?_⟩
    rintro account here _ there rfl
    exact exclusive account ((selects.complete account).mp here).2
      ((selectsOther.complete account).mp there).2
  refine (List.perm_ext_iff_of_nodup nodup selectsBoth.nodup).mpr fun account => ?_
  rw [List.mem_append, selects.complete, selectsOther.complete, selectsBoth.complete, and_or_left]

/-- A message sent as local chat and the same message sent as multicast chat. Those who get a copy
of the second are, each of them once, those who get a local or a relayed copy of the first, and
whatever else local chat sends are copies for spies who are none of them. -/
structure SameReach (session : Session) (world : World) (sender : Account) (server : String)
    (message : Message) (near far spies together : List Account)
    (nearby direct : List Delivery) : Prop where
  stayed : session.Selects (session.Near sender server) near
  relayed : session.Selects (session.Far sender server) far
  overheard : session.Selects (session.Overhears sender server) spies
  copied : nearby =
    (session.localView world sender server "local" .localChat message).copies near ++
    (session.localView world sender server "multicast" .multicastChat message).copies far ++
    (session.localView world sender server "local" .localSpy message).copies spies
  sent : direct =
    (session.localView world sender server "multicast" .multicastChat message).copies together
  same : (near ++ far).Perm together
  apart : ∀ spy ∈ spies, ∀ account ∈ together, spy.id ≠ account.id

theorem courses_reach {copies others : Nat} {stage stageDirect : Stage}
    (course : session.Course world { context with channel := some .localChat } .localChat
      (.ok (.delivered copies)) stage)
    (courseDirect : session.Course world { context with channel := some .multicastChat }
      .multicastChat (.ok (.delivered others)) stageDirect)
    (fresh : context.Fresh) (speaks : context.sender = some sender)
    (placed : context.server = some server) :
    ∃ message near far spies together, session.SameReach world sender server message near far spies
      together stage.outbox.deliveries stageDirect.outbox.deliveries := by
  obtain ⟨raw, filtered, message, wrote, passed, copied, -⟩ :=
    course_localChat course rfl ⟨fresh.unfiltered, fresh.unparsed⟩ speaks placed
  obtain ⟨alsoRaw, alsoFiltered, alsoMessage, alsoWrote, alsoPassed, copiedDirect⟩ :=
    course_multicastChat courseDirect rfl ⟨fresh.unfiltered, fresh.unparsed⟩ speaks placed
  -- Either way the text goes through the same chains, so the copies show the same message.
  cases wrote.symm.trans alsoWrote
  cases passed.symm.trans alsoPassed
  let here : Context := { context with channel := some .localChat }
  let there : Context := { context with channel := some .multicastChat }
  have near : session.Selects (session.Near sender server)
      (session.reached .localChat here) := reached_local_selects speaks placed
  have far : session.Selects (session.Far sender server) (session.relayed here) :=
    relayed_selects speaks placed
  have spies : session.Selects (session.Overhears sender server)
      (session.overhearing sender server) := overhearing_selects
  have together : session.Selects (fun account => session.Near sender server account ∨
      session.Far sender server account) (session.reached .multicastChat there) :=
    reached_multicast_selects speaks placed
  refine ⟨message, _, _, _, _, near, far, spies, copied, copiedDirect,
    near.append_perm far together fun _ => near_not_far, ?_⟩
  intro spy overhears account reached sameId
  refine spies.ids_disjoint together ?_ spy.id (List.mem_map_of_mem overhears) account.id
    (List.mem_map_of_mem reached) sameId
  rintro account overhears (near | far)
  · exact near_not_overhears near overhears
  · exact far_not_overhears far overhears

/-- The same message sent as local chat and as multicast chat: either way it fails with one error,
or is blocked for one reason, or goes out to the same people. -/
theorem local_agrees_multicast (session : Session) (world : World) (context : Context)
    (fresh : context.Fresh) :
    let nearby := session.dispatch world { context with channel := some .localChat }
    let direct := session.dispatch world { context with channel := some .multicastChat }
    (∃ error, nearby.1 = .error error ∧ direct.1 = .error error) ∨
    (∃ reason, nearby.1 = .ok (.blocked reason) ∧ direct.1 = .ok (.blocked reason)) ∨
    ∃ copies others, nearby.1 = .ok (.delivered copies) ∧ direct.1 = .ok (.delivered others) ∧
      ∃ sender server message near far spies together,
        context.sender = some sender ∧ context.server = some server ∧
        session.SameReach world sender server message near far spies together
          nearby.2.outbox.deliveries direct.2.outbox.deliveries := by
  intro nearby direct
  let here : Context := { context with channel := some .localChat }
  let there : Context := { context with channel := some .multicastChat }
  have course : session.Course world here .localChat nearby.1 nearby.2 :=
    session.dispatch_course world here
  have courseDirect : session.Course world there .multicastChat direct.1 direct.2 :=
    session.dispatch_course world there
  have freshHere : here.Fresh := ⟨fresh.unfiltered, fresh.unparsed⟩
  have freshThere : there.Fresh := ⟨fresh.unfiltered, fresh.unparsed⟩
  have same := checkStructure_local_multicast context
  cases sound : Channel.localChat.checkStructure here with
  | error error =>
    refine .inl ⟨error, (course_error_iff course freshHere error).mpr sound, ?_⟩
    exact (course_error_iff courseDirect freshThere error).mpr (same.trans sound)
  | ok _ =>
    obtain ⟨sender, speaks⟩ := Channel.sender_of_structure sound
    obtain ⟨server, placed⟩ := Channel.server_of_structure sound (by simp [Channel.requirements])
    have verdict := course_verdict course freshHere speaks rfl
    have verdictDirect := course_verdict courseDirect freshThere speaks rfl
    rcases verdict.agree verdictDirect (by decide) (by decide) same rfl with
      failed | stopped | ⟨copies, others, delivered, sent⟩
    · exact .inl failed
    · exact .inr (.inl stopped)
    · rw [delivered] at course
      rw [sent] at courseDirect
      obtain ⟨message, near, far, spies, together, reach⟩ :=
        courses_reach course courseDirect fresh speaks placed
      exact .inr (.inr ⟨copies, others, delivered, sent, sender, server, message, near, far, spies,
        together, speaks, placed, reach⟩)

theorem local_agrees_multicast_linked :
    let said : Context := { Context.ofSender ada with message := some "hi" }
    let nearby := linkedServers.dispatch default { said with channel := some .localChat }
    let direct := linkedServers.dispatch default { said with channel := some .multicastChat }
    nearby.1 = .ok (.delivered 3) ∧ direct.1 = .ok (.delivered 2) ∧
      ∃ near far spies together : List Account,
        nearby.2.outbox.deliveries.map (·.recipient) = near ++ far ++ spies ∧
        direct.2.outbox.deliveries.map (·.recipient) = together ∧
        (near ++ far).Perm together ∧ ∀ spy ∈ spies, ∀ account ∈ together, spy.id ≠ account.id := by
  intro said nearby direct
  have went : nearby.1 = .ok (.delivered 3) :=
    Dispatching.eq_ok_of_toOption (by dsimp only [nearby, said]; decide +kernel)
  have came : direct.1 = .ok (.delivered 2) :=
    Dispatching.eq_ok_of_toOption (by dsimp only [direct, said]; decide +kernel)
  rcases local_agrees_multicast linkedServers default said ⟨rfl, rfl⟩ with ⟨_, failed, -⟩ |
    ⟨_, stopped, -⟩ | ⟨copies, others, -, -, sender, server, message, near, far, spies, together,
      -, -, reach⟩
  · cases went.symm.trans failed
  · cases went.symm.trans stopped
  · refine ⟨went, came, near, far, spies, together, ?_, ?_, reach.same, reach.apart⟩
    · rw [reach.copied, List.map_append, List.map_append, Message.recipients_copies,
        Message.recipients_copies, Message.recipients_copies]
    · rw [reach.sent, Message.recipients_copies]

end Switchboard.Session
