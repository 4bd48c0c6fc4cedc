import Mathlib.Tactic.Common
import Switchboard.Proofs.Processing

/-! Everything that can come of a context that is sent. `Course` lists the ways it can take, each
with its exact condition, outcome and stage; `dispatch_course` says that there are no others.
Statements about sending are case analyses over these ways. -/
namespace Switchboard

/-- The template through which the channel's own audience sees a message. -/
def Channel.format : Channel → Format
  | globalChat => .globalChat
  | localChat => .localChat
  | multicastChat => .multicastChat
  | staffChat => .staffChat
  | direct => .messageTarget
  | join => .joinMessage
  | leave => .leaveMessage
  | switch => .serverSwitch
  | alert => .alert

namespace Session

open Dispatching

/-- The notice by which a target turns a sender away, if it does. -/
def refusal? (session : Session) (sender target : Account) : Option String :=
  if target.ignores sender.id && !sender.holds .bypassIgnore then
    some session.settings.notices.hasIgnored
  else if !target.messenger && !sender.holds .bypassMessenger then
    some session.settings.notices.messengerDisabled
  else none

/-- Those who get the channel's own copies. -/
def reached (session : Session) (channel : Channel) (context : Context) : List Account :=
  session.gathered (session.audience channel context)

/-- Those who get a relayed copy of local chat. -/
def relayed (session : Session) (context : Context) : List Account :=
  let context := { context with channel := some .multicastChat }
  if session.isActive .multicastChat then
    session.gathered ((session.audience .multicastChat context).map fun audience =>
      audience.both (Audience.onServer context.server).others)
  else []

/-- Those who overhear local chat on the server. -/
def overhearing (session : Session) (sender : Account) (server : String) : List Account :=
  if session.isActive .spy && !sender.holds .localSpyExempt then
    session.connected (session.localSpies sender server)
  else []

/-- Those who overhear a private message. -/
def overseeing (session : Session) (sender target : Account) : List Account :=
  if session.isActive .spy && !sender.holds .socialSpyExempt then
    session.connected (socialSpies sender target)
  else []

variable {session : Session} {world : World} {context : Context}

/-! ## The ways of a context -/

/-- The context may be processed on the channel, and processing it comes to `result`. -/
structure Processes (session : Session) (world : World) (context : Context) (channel : Channel)
    (result : Except ContextError (Except Blocked Context)) (later : Filters) : Prop where
  carries : channel.carriesMessage = true
  sound : channel.checkStructure context = .ok ()
  /-- No target turns a private message away. -/
  admitted : ∀ sender target, channel = .direct → context.sender = some sender →
    context.target = some target → session.refusal? sender target = none
  run : exec (process world (session.filtering channel) context) { filters := session.filters } =
    (result, { filters := later })

namespace Processes

variable {channel : Channel} {sender : Account} {later : Filters}

theorem message (processes : session.Processes world context channel result later) :
    ∃ raw, context.message = some raw := by
  exact Channel.message_of_structure processes.sound (Channel.message_required processes.carries)

theorem ready_of_fresh {ready : Context}
    (processes : session.Processes world context channel (.ok (.ok ready)) later)
    (fresh : context.Fresh) (speaks : context.sender = some sender) :
    ∃ raw filtered message, context.message = some raw ∧
      session.processed world.clock sender channel raw = (.ok (filtered, message), later) ∧
      ready = { context with filtered, rendered := some message } := by
  obtain ⟨raw, wrote⟩ := processes.message
  have run := processes.run
  rw [exec_process_fresh session channel fresh speaks wrote] at run
  rcases same : session.processed world.clock sender channel raw with
    ⟨blocked | ⟨filtered, message⟩, last⟩ <;> rw [same] at run <;> cases run
  exact ⟨raw, filtered, message, wrote, same, rfl⟩

theorem blocked_of_fresh {blocked : Blocked}
    (processes : session.Processes world context channel (.ok (.error blocked)) later)
    (fresh : context.Fresh) (speaks : context.sender = some sender) :
    ∃ raw, context.message = some raw ∧
      session.processed world.clock sender channel raw = (.error blocked, later) := by
  obtain ⟨raw, wrote⟩ := processes.message
  have run := processes.run
  rw [exec_process_fresh session channel fresh speaks wrote] at run
  rcases same : session.processed world.clock sender channel raw with
    ⟨stopped | ⟨filtered, message⟩, last⟩ <;> rw [same] at run <;> cases run
  exact ⟨raw, wrote, same⟩

end Processes

/-- All that can come of a context on a channel, and when it does. -/
inductive Course (session : Session) (world : World) (context : Context) :
    Channel → Except ContextError Outcome → Stage → Prop where
  /-- The context lacks what the channel requires of it. -/
  | unsound (lacks : channel.checkStructure context = .error error) :
      Course session world context channel (.error error) { filters := session.filters }
  /-- A notice is parsed already. -/
  | announcedTwice (silent : channel.carriesMessage = false)
      (sound : channel.checkStructure context = .ok ()) (parsed : context.rendered.isSome) :
      Course session world context channel (.error (.unmet (.absent .parsed)))
        { filters := session.filters }
  | announced (silent : channel.carriesMessage = false)
      (sound : channel.checkStructure context = .ok ()) (speaks : context.sender = some sender)
      (unparsed : context.rendered = none) :
      Course session world context channel
        (.ok (.delivered (session.reached channel context).length)) {
          filters := session.filters
          outbox := ({} : Outbox)
            |> Outbox.deliver world (session.render world channel.format context)
              (session.reached channel context) }
  | refused (sound : Channel.direct.checkStructure context = .ok ())
      (speaks : context.sender = some sender) (addressed : context.target = some target)
      (turned : session.refusal? sender target = some notice) :
      Course session world context .direct (.ok (.refused (.ofText notice))) {
        filters := session.filters
        outbox := ({} : Outbox).deliver world (.ofText notice) [sender] }
  /-- A slot that processing has to fill is filled already. -/
  | processedTwice (stale : ¬context.Fresh)
      (processes : session.Processes world context channel (.error error) later) :
      Course session world context channel (.error error) { filters := later }
  | blocked (filtering : session.filtering channel = true) (speaks : context.sender = some sender)
      (processes : session.Processes world context channel (.ok (.error blocked)) later) :
      Course session world context channel (.ok (.blocked blocked.reason)) {
        filters := later
        outbox := ({} : Outbox).deliver world blocked.reason [sender] }
  | broadcast (notLocal : channel ≠ .localChat) (notDirect : channel ≠ .direct)
      (speaks : context.sender = some sender)
      (processes : session.Processes world context channel (.ok (.ok ready)) later) :
      Course session world context channel
        (.ok (.delivered (session.reached channel context).length)) {
          filters := later
          outbox := ({} : Outbox)
            |> Outbox.deliver world (session.render world channel.format ready)
              (session.reached channel context)
            |> session.note world channel.loggable channel.label ready }
  | nearby (speaks : context.sender = some sender) (placed : context.server = some server)
      (processes : session.Processes world context .localChat (.ok (.ok ready)) later) :
      Course session world context .localChat
        (.ok (.delivered ((session.reached .localChat context).length +
          (session.relayed context).length +
          (session.overhearing sender server).length))) {
            filters := later
            outbox := ({} : Outbox)
              |> Outbox.deliver world (session.render world .localChat ready)
                (session.reached .localChat context)
              |> session.note world true Channel.localChat.label ready
              |> Outbox.deliver world (session.view world .multicastChat .multicastChat ready)
                (session.relayed context)
              |> Outbox.deliver world (session.render world .localSpy ready)
                (session.overhearing sender server) }
  | direct (speaks : context.sender = some sender) (addressed : context.target = some target)
      (processes : session.Processes world context .direct (.ok (.ok ready)) later) :
      Course session world context .direct
        (.ok (.delivered (1 + (session.reached .direct context).length +
          (session.overseeing sender target).length))) {
            filters := later
            outbox := ({} : Outbox)
              |> Outbox.deliver world (session.render world .messageSender ready) [sender]
              |> Outbox.deliver world (session.render world .messageTarget ready)
                (session.reached .direct context)
              |> Outbox.deliver world (session.render world .socialSpy ready)
                (session.overseeing sender target)
              |> session.note world session.settings.logsPrivate ("PM to " ++ target.name) ready }

/-! ## No other ways -/

theorem exec_requireSender {sender : Account} (speaks : context.sender = some sender)
    (stage : Stage) : exec (check context.requireSender) stage = (.ok sender, stage) := by
  rw [exec_check, Context.requireSender_of_some speaks]

theorem reached_of_audience {channel : Channel} {audience : Audience}
    (aimed : session.audience channel context = .ok audience) :
    session.reached channel context = session.connected audience := by
  rw [reached, aimed, gathered]

/-- Who gets a message does not depend on what processing fills in. -/
theorem audience_processed (channel : Channel) (filtered : Option String)
    (rendered : Option Message) :
    session.audience channel { context with filtered, rendered } =
      session.audience channel context := by
  cases channel <;> rfl

/-- Finding the audience of a processed context does not fail. -/
theorem exec_audience {channel : Channel} (sound : channel.checkStructure context = .ok ())
    (filtered : Option String) (rendered : Option Message) (stage : Stage) :
    ∃ audience,
      exec (check (session.audience channel { context with filtered, rendered })) stage =
        (.ok audience, stage) ∧
      session.reached channel context = session.connected audience := by
  obtain ⟨audience, aimed⟩ := session.exists_audience context sound
  exact ⟨audience, by rw [exec_check, audience_processed, aimed], reached_of_audience aimed⟩

/-- Preparing a context is checking and processing it, for any way of going on. -/
theorem exec_prepare_bind (channel : Channel) (filtering : Bool)
    (next : Context → Dispatching Outcome) (stage : Stage) :
    exec (prepare world channel filtering context >>= fun prepared =>
      match prepared with
      | .error outcome => pure outcome
      | .ok ready => next ready) stage =
    exec (check (channel.checkStructure context) >>= fun _ =>
      process world filtering context >>= fun processed =>
        match processed with
        | .error blocked => check context.requireSender >>= fun sender => block world sender blocked
        | .ok ready => check (channel.checkProgress ready) >>= fun _ => next ready) stage := by
  unfold prepare
  simp only [exec_bind, exec_check]
  cases channel.checkStructure context with
  | error error => rfl
  | ok _ =>
    dsimp only
    rcases exec (process world filtering context) stage with ⟨error | blocked | ready, later⟩
    · rfl
    · simp only [exec_bind, exec_check]
      cases context.requireSender <;> rfl
    · simp only [exec_bind, exec_check]
      cases channel.checkProgress ready <;> rfl

section

variable {channel : Channel} {sender : Account} {raw : String}
  {result : Except ContextError Outcome} {stage : Stage}

theorem checked_course {next : Unit → Dispatching Outcome}
    (sent : exec (check (channel.checkStructure context) >>= next) { filters := session.filters } =
      (result, stage))
    (onward : channel.checkStructure context = .ok () →
      exec (next ()) { filters := session.filters } = (result, stage) →
      Course session world context channel result stage) :
    Course session world context channel result stage := by
  cases sound : channel.checkStructure context with
  | error error =>
    rw [exec_bind_error (by rw [exec_check, sound])] at sent
    cases sent
    exact .unsound sound
  | ok _ =>
    rw [exec_bind_ok (by rw [exec_check, sound])] at sent
    exact onward sound sent

theorem processed_course {stop : Blocked → Dispatching Outcome}
    {next : Context → Dispatching Outcome}
    (carries : channel.carriesMessage = true) (sound : channel.checkStructure context = .ok ())
    (admitted : ∀ sender target, channel = .direct → context.sender = some sender →
      context.target = some target → session.refusal? sender target = none)
    (speaks : context.sender = some sender)
    (stops : ∀ blocked stage, exec (stop blocked) stage = exec (block world sender blocked) stage)
    (sent : exec (process world (session.filtering channel) context >>= fun processed =>
      match processed with
      | .error blocked => stop blocked
      | .ok ready => check (channel.checkProgress ready) >>= fun _ => next ready)
        { filters := session.filters } = (result, stage))
    (onward : ∀ filtered message last,
      session.Processes world context channel
        (.ok (.ok { context with filtered, rendered := some message })) last →
      exec (next { context with filtered, rendered := some message }) { filters := last } =
        (result, stage) →
      Course session world context channel result stage) :
    Course session world context channel result stage := by
  obtain ⟨raw, wrote⟩ := Channel.message_of_structure sound (Channel.message_required carries)
  obtain ⟨last, ⟨error, stale, run⟩ | ⟨blocked, filtering, run⟩ | ⟨filtered, message, run⟩⟩ :=
    exec_process_cases speaks wrote (session.filtering channel) { filters := session.filters }
  · rw [exec_bind_error run] at sent
    cases sent
    exact .processedTwice stale ⟨carries, sound, admitted, run⟩
  · rw [exec_bind_ok run, stops] at sent
    cases sent
    exact .blocked filtering speaks ⟨carries, sound, admitted, run⟩
  · rw [exec_bind_ok run,
      exec_bind_ok (by rw [exec_check, Channel.checkProgress_of_parsed rfl])] at sent
    exact onward filtered message last ⟨carries, sound, admitted, run⟩ sent

theorem prepared_course {next : Context → Dispatching Outcome}
    (carries : channel.carriesMessage = true) (notDirect : channel ≠ .direct)
    (sent : exec (prepare world channel (session.filtering channel) context >>= fun prepared =>
      match prepared with
      | .error outcome => pure outcome
      | .ok ready => next ready) { filters := session.filters } = (result, stage))
    (onward : ∀ sender filtered message last, context.sender = some sender →
      session.Processes world context channel
        (.ok (.ok { context with filtered, rendered := some message })) last →
      exec (next { context with filtered, rendered := some message }) { filters := last } =
        (result, stage) →
      Course session world context channel result stage) :
    Course session world context channel result stage := by
  rw [exec_prepare_bind] at sent
  refine checked_course sent fun sound sent => ?_
  obtain ⟨sender, speaks⟩ := Channel.sender_of_structure sound
  have stops (blocked : Blocked) (stage : Stage) :
      exec (check context.requireSender >>= fun sender => block world sender blocked) stage =
        exec (block world sender blocked) stage := exec_bind_ok (exec_requireSender speaks _)
  exact processed_course carries sound (fun _ _ direct => absurd direct notDirect) speaks stops
    sent fun filtered message last => onward sender filtered message last speaks

theorem sendBroadcast_course (carries : channel.carriesMessage = true)
    (notLocal : channel ≠ .localChat) (notDirect : channel ≠ .direct)
    (sent : exec (session.sendBroadcast world channel channel.format (session.filtering channel)
      context) { filters := session.filters } = (result, stage)) :
    Course session world context channel result stage := by
  refine prepared_course carries notDirect sent ?_
  intro sender filtered message last speaks processes sent
  obtain ⟨audience, aimed, reaches⟩ := exec_audience processes.sound filtered (some message)
    { filters := last }
  rw [exec_bind_ok aimed, exec_bind_ok (exec_fanOut ..), exec_bind_ok (exec_logOn ..), exec_pure,
    ← reaches] at sent
  cases sent
  exact .broadcast notLocal notDirect speaks processes

/-- The relay of local chat requires nothing that local chat has not shown already. -/
theorem exec_sendOn {message : Message} {server : String}
    (sound : Channel.localChat.checkStructure context = .ok ())
    (parsed : context.rendered = some message) (placed : context.server = some server)
    (active : session.isActive .multicastChat = true) (stage : Stage) :
    exec (session.sendOn world server context) stage =
      (.ok (session.relayed context).length,
        { stage with
          outbox := stage.outbox.deliver world
            (session.view world .multicastChat .multicastChat context)
            (session.relayed context) }) := by
  have relayable := Channel.checkStructure_relayed sound
  have complete : Channel.multicastChat.checkRequirements
      { context with channel := some .multicastChat } = .ok () :=
    Channel.checkRequirements_eq_ok_iff.mpr
      ⟨relayable, Channel.checkProgress_of_parsed parsed⟩
  obtain ⟨audience, aimed⟩ := session.exists_audience _ relayable
  have elsewhere : session.relayed context =
      session.connected (audience.both (Audience.onServer (some server)).others) := by
    unfold relayed
    dsimp only
    rw [if_pos active, aimed, placed]
    rfl
  unfold sendOn
  rw [exec_bind_ok (by rw [exec_check, complete]), exec_bind_ok (by rw [exec_check, aimed]),
    exec_bind_ok (exec_fanOut ..), exec_bind_ok (exec_logOn ..), exec_pure, elsewhere]
  rfl

theorem exec_relay {message : Message} {server : String}
    (sound : Channel.localChat.checkStructure context = .ok ())
    (parsed : context.rendered = some message) (placed : context.server = some server)
    (stage : Stage) :
    exec (if session.isActive .multicastChat then session.sendOn world server context else pure 0)
      stage =
      (.ok (session.relayed context).length,
        { stage with
          outbox := stage.outbox.deliver world
            (session.view world .multicastChat .multicastChat context)
            (session.relayed context) }) := by
  cases active : session.isActive .multicastChat with
  | true => exact exec_sendOn sound parsed placed active stage
  | false => simp [relayed, active]

theorem exec_overhear (sender : Account) (server : String) (stage : Stage) :
    exec (if session.isActive .spy && !sender.holds .localSpyExempt then
      session.fanOut world (session.render world .localSpy context)
        (session.localSpies sender server)
      else pure 0) stage =
      (.ok (session.overhearing sender server).length,
        { stage with
          outbox := stage.outbox.deliver world (session.render world .localSpy context)
            (session.overhearing sender server) }) := by
  unfold overhearing
  split
  · exact exec_fanOut ..
  · simp

theorem exec_oversee (sender target : Account) (stage : Stage) :
    exec (if session.isActive .spy && !sender.holds .socialSpyExempt then
      session.fanOut world (session.render world .socialSpy context) (socialSpies sender target)
      else pure 0) stage =
      (.ok (session.overseeing sender target).length,
        { stage with
          outbox := stage.outbox.deliver world (session.render world .socialSpy context)
            (session.overseeing sender target) }) := by
  unfold overseeing
  split
  · exact exec_fanOut ..
  · simp

theorem sendLocal_course
    (sent : exec (session.sendLocal world context) { filters := session.filters } =
      (result, stage)) :
    Course session world context .localChat result stage := by
  refine prepared_course rfl (by decide) sent ?_
  intro sender filtered message last speaks processes sent
  have sound := processes.sound
  obtain ⟨server, placed⟩ := Channel.server_of_structure sound (by simp [Channel.requirements])
  obtain ⟨audience, aimed, reaches⟩ := exec_audience sound filtered (some message)
    { filters := last }
  have relayable := (Channel.checkStructure_processed filtered (some message)).trans sound
  rw [exec_bind_ok (exec_requireSender (by exact speaks) _),
    exec_bind_ok (by rw [exec_check, Context.requireServer_of_some (by exact placed)]),
    exec_bind_ok aimed, exec_bind_ok (exec_fanOut ..), exec_bind_ok (exec_logOn ..),
    ← reaches] at sent
  dsimp only at sent
  rw [exec_ite_bind (exec_relay relayable rfl placed _), exec_ite_bind (exec_overhear ..),
    exec_pure] at sent
  cases sent
  exact .nearby speaks placed processes

theorem sendPrivate_course
    (sent : exec (session.sendPrivate world context) { filters := session.filters } =
      (result, stage)) :
    Course session world context .direct result stage := by
  refine checked_course sent fun sound sent => ?_
  obtain ⟨sender, speaks⟩ := Channel.sender_of_structure sound
  obtain ⟨target, addressed⟩ := Channel.target_of_structure sound (by simp [Channel.requirements])
  rw [exec_bind_ok (exec_requireSender speaks _),
    exec_bind_ok (by rw [exec_check, Context.requireTarget, addressed]; rfl)] at sent
  dsimp only at sent
  split at sent
  case isTrue ignored =>
    cases sent
    exact .refused sound speaks addressed (by rw [refusal?, if_pos ignored])
  case isFalse heeded =>
  split at sent
  case isTrue closed =>
    cases sent
    exact .refused sound speaks addressed (by rw [refusal?, if_neg heeded, if_pos closed])
  case isFalse opened =>
  have admitted : session.refusal? sender target = none := by
    rw [refusal?, if_neg heeded, if_neg opened]
  refine processed_course rfl sound ?_ speaks (fun _ _ => rfl) sent ?_
  · intro sender' target' _ speaks' addressed'
    cases speaks.symm.trans speaks'
    cases addressed.symm.trans addressed'
    exact admitted
  intro filtered message last processes sent
  rw [exec_bind_ok (exec_deliver ..)] at sent
  -- The sender has a copy by now: from here on nothing may fail.
  obtain ⟨audience, aimed, reaches⟩ := exec_audience sound filtered (some message)
    { filters := last, outbox := ({} : Outbox).deliver world _ [sender] }
  rw [exec_bind_ok aimed, exec_bind_ok (exec_fanOut ..), ← reaches] at sent
  dsimp only at sent
  rw [exec_ite_bind (exec_oversee ..)] at sent
  have course := Course.direct speaks addressed processes
  cases logged : session.settings.logsPrivate with
  | true =>
    rw [logged, if_pos (by rfl), exec_bind_ok (exec_log ..), exec_pure] at sent
    rw [logged] at course
    cases sent
    exact course
  | false =>
    rw [logged, if_neg (by decide), exec_pure] at sent
    rw [logged, note_unlogged] at course
    cases sent
    exact course

theorem sendPresence_course (silent : channel.carriesMessage = false)
    (sent : exec (session.sendPresence world channel channel.format context)
      { filters := session.filters } = (result, stage)) :
    Course session world context channel result stage := by
  refine checked_course sent fun sound sent => ?_
  obtain ⟨sender, speaks⟩ := Channel.sender_of_structure sound
  dsimp only at sent
  cases parsed : context.rendered with
  | some message =>
    have again : context.rendered.isSome := by rw [parsed]; rfl
    rw [exec_bind_error (by rw [exec_check, Context.setRendered_of_parsed again])] at sent
    cases sent
    exact .announcedTwice silent sound again
  | none =>
    obtain ⟨audience, aimed, reaches⟩ := exec_audience sound context.filtered
      (some (session.render world channel.format context)) { filters := session.filters }
    rw [exec_bind_ok (by rw [exec_check, Context.setRendered_of_unparsed parsed]),
      exec_bind_ok (by rw [exec_check, Channel.checkProgress_of_parsed rfl]),
      exec_bind_ok aimed, exec_bind_ok (exec_fanOut ..), exec_bind_ok (exec_logOn ..), exec_pure,
      ← reaches] at sent
    have unlogged : channel.loggable = false := by
      cases channel <;> first | rfl | cases silent
    rw [unlogged, note_unlogged] at sent
    cases sent
    exact .announced silent sound speaks parsed

theorem send_course (channel : Channel)
    (sent : exec (session.send world channel context) { filters := session.filters } =
      (result, stage)) :
    Course session world context channel result stage := by
  cases channel with
  | globalChat | multicastChat | staffChat | alert =>
    exact sendBroadcast_course rfl (by decide) (by decide) sent
  | localChat => exact sendLocal_course sent
  | direct => exact sendPrivate_course sent
  | join | leave | switch => exact sendPresence_course rfl sent

end

/-- Every dispatch takes one of the ways. -/
theorem dispatch_course (session : Session) (world : World) (context : Context) :
    Course session world { context with channel := some (session.channelOf context) }
      (session.channelOf context) (session.dispatch world context).1
      (session.dispatch world context).2 :=
  send_course _ rfl

end Session

end Switchboard
