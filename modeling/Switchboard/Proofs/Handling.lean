import Mathlib.Tactic.Common
import Switchboard.Proofs.Course
import Switchboard.Session.Events

/-! What an event does. It dispatches nothing, or a notice about one account, or what a connected
account says; nothing else can come of it. Which of these it is, the directory and the clock decide,
and neither the filters nor failing writes have a part in that. A notice of an account's coming,
moving or leaving has all that its channel requires, so it goes out. -/
namespace Switchboard

/-- What an event asks of a session. -/
inductive Plan where
  | fail (error : SessionError)
  | change (directory : Directory)
  | toggle (feature : Feature) (on : Bool)
  /-- To dispatch the context among those in the directory `during` the event. The directory after
  it is `later`. -/
  | send (during : Directory) (context : Context) (later : Directory)

def Session.carryOut (session : Session) (world : World) : Plan → Report
  | .fail error => session.fail error
  | .change directory => { session := { session with directory }, result := .ok none }
  | .toggle feature on => session.toggle feature on
  | .send during context later =>
    let report := { session with directory := during }.submit world context
    { report with session := { report.session with directory := later } }

namespace Directory

/-- The event is told of in a notice about the account, among those who are in the directory
`during` it. The directory after it is `later`. -/
inductive Notifies (directory : Directory) :
    Event → Account → Channel → (during later : Directory) → Prop
  | connect {id : AccountId} (brought : account =
      permissions.foldl Account.grant { id, name, server, channel := preferred }) :
    Notifies directory (.connect id name server permissions preferred) account .join
      (directory.connect account) (directory.connect account)
  | disconnect {id : AccountId} (here : directory.get? id = some account) :
    Notifies directory (.disconnect id) account .leave directory (directory.disconnect id)
  | switch {id : AccountId} (here : directory.get? id = some earlier)
      (moved : account = { earlier with server := some server }) :
    Notifies directory (.switch id server) account .switch
      (directory.connect account) (directory.connect account)

/-- In the event a connected account says something, and this is the context of it. -/
inductive Speaks (directory : Directory) : Event → Account → Context → Prop
  | chat {id : AccountId} (here : directory.get? id = some sender) :
    Speaks directory (.chat id channel message) sender
      { Context.ofSender sender with message := some message, channel }
  | alert {id : AccountId} (here : directory.get? id = some sender) :
    Speaks directory (.alert id message) sender
      { Context.ofSender sender with message := some message, channel := some .alert }
  | direct {id : AccountId} (here : directory.get? id = some sender)
      (there : directory.get? target = some receiver) :
    Speaks directory (.direct id target message) sender
      { Context.ofSender sender with
        target := some receiver, message := some message, channel := some .direct }

/-- All that an event can ask for. -/
inductive Asks (directory : Directory) : Event → Plan → Prop
  | fail (error : SessionError) : Asks directory event (.fail error)
  | change (changed : Directory) : Asks directory event (.change changed)
  | toggle (feature : Feature) (on : Bool) :
    Asks directory (.toggle feature on) (.toggle feature on)
  | notice (notifies : directory.Notifies event account channel during later) :
    Asks directory event
      (.send during { Context.ofSender account with channel := some channel } later)
  | speech (speaks : directory.Speaks event sender context) :
    Asks directory event (.send directory context directory)

end Directory

open Session

section

variable {session : Session} {world : World} {context : Context} {channel : Channel}
  {account sender : Account} {id : AccountId} {event : Event}
  {directory during later : Directory}

theorem Session.submit_course (session : Session) (world : World) (context : Context) :
    ∃ channel result stage, channel = session.channelOf context ∧
      session.Course world { context with channel := some channel } channel result stage ∧
      session.submit world context = {
        session := session.withFilters stage.filters
        result := (result.map some).mapError .rejected
        outbox := stage.outbox } :=
  ⟨_, _, _, rfl, session.dispatch_course world context, rfl⟩

/-! ## Notices -/

theorem Session.submit_announced (on : context.channel = some channel)
    (silent : channel.carriesMessage = false) (sound : channel.checkStructure context = .ok ())
    (fresh : context.Fresh) :
    ∃ copies, (session.submit world context).result = .ok (some (.delivered copies)) := by
  obtain ⟨chosen, result, stage, same, course, report⟩ := session.submit_course world context
  have chosenOn : chosen = channel := by rw [same, channelOf, on]; rfl
  subst chosenOn
  rw [← on] at course
  rw [report]
  cases course with
  | unsound lacks => cases sound.symm.trans lacks
  | announcedTwice _ _ parsed =>
    rw [fresh.unparsed] at parsed
    cases parsed
  | announced => exact ⟨_, rfl⟩
  | refused => cases silent
  | processedTwice stale => exact absurd fresh stale
  | blocked _ _ processes => cases silent.symm.trans processes.carries
  | broadcast _ _ _ processes => cases silent.symm.trans processes.carries
  | nearby | direct => cases silent

namespace Directory.Notifies

variable (notifies : directory.Notifies event account channel during later)

include notifies

theorem silent : channel.carriesMessage = false := by cases notifies <;> rfl

theorem sound : channel.checkStructure
    { Context.ofSender account with channel := some channel } = .ok () := by
  cases notifies with
  | connect | disconnect => rfl
  | switch _ moved =>
    rw [moved]
    rfl

theorem connected : during.get? account.id = some account := by
  cases notifies with
  | connect | switch => exact directory.get?_connect_self account
  | disconnect here =>
    rw [Directory.id_of_get? here]
    exact here

theorem sent (session : Session) (world : World) : ∃ copies,
    (session.submit world { Context.ofSender account with channel := some channel }).result =
      .ok (some (.delivered copies)) :=
  submit_announced rfl notifies.silent notifies.sound ⟨rfl, rfl⟩

end Directory.Notifies

/-! ## What is said -/

namespace Directory.Speaks

variable (speaks : directory.Speaks event sender context)

include speaks

theorem fresh : context.Fresh := by cases speaks <;> exact ⟨rfl, rfl⟩

theorem sender_eq : context.sender = some sender := by cases speaks <;> rfl

theorem connected : directory.get? sender.id = some sender := by
  cases speaks with
  | chat here | alert here | direct here =>
    rw [Directory.id_of_get? here]
    exact here

end Directory.Speaks

end

/-! ## All events -/

namespace Session

variable {session : Session} {world : World} {id : AccountId} {account sender : Account}
  {directory : Directory}

theorem submitFrom_of_found (here : session.directory.get? id = some sender)
    (context : Account → Context) :
    session.submitFrom world id context = session.submit world (context sender) := by
  rw [submitFrom, here]

/-- Whoever is connected is told of before being removed. -/
theorem disconnect_of_found (here : session.directory.get? id = some account) :
    session.disconnect world id = session.carryOut world (.send session.directory
      { Context.ofSender account with channel := some .leave }
      (session.directory.disconnect id)) := by
  have present : session.directory.contains id = true := by
    rw [Directory.contains_eq_isSome, here]
    rfl
  have notifies : session.directory.Notifies (.disconnect id) account .leave _ _ :=
    .disconnect here
  obtain ⟨copies, sent⟩ := notifies.sent session world
  rw [disconnect, if_pos present, announce, submitFrom_of_found here, carryOut]
  dsimp only
  rw [sent]
  rfl

theorem disconnect_of_absent (absent : session.directory.get? id = none) :
    session.disconnect world id = session.fail (.unknownAccount id) := by
  rw [disconnect, Directory.contains_eq_isSome, absent]
  rfl

theorem exists_change_plan (directory : Directory) (clock : Clock) (event : Event)
    (id : AccountId) (change : Account → Account) :
    ∃ plan, directory.Asks event plan ∧
      ∀ (session : Session) (world : World), session.directory = directory → world.clock = clock →
        session.change id change = session.carryOut world plan := by
  cases here : directory.get? id with
  | none =>
    refine ⟨_, .fail (.unknownAccount id), ?_⟩
    rintro session world rfl -
    rw [Session.change, here]
    rfl
  | some account =>
    refine ⟨_, .change (directory.connect (change account)), ?_⟩
    rintro session world rfl -
    rw [Session.change, here]
    rfl

theorem exists_chat_plan (directory : Directory) (clock : Clock) (id : AccountId)
    (context : Account → Context)
    (speaks : ∀ sender, directory.get? id = some sender →
      directory.Speaks event sender (context sender)) :
    ∃ plan, directory.Asks event plan ∧
      ∀ (session : Session) (world : World), session.directory = directory → world.clock = clock →
        session.submitFrom world id context = session.carryOut world plan := by
  cases here : directory.get? id with
  | none =>
    refine ⟨_, .fail (.rejected (.unknownAccount id)), ?_⟩
    rintro session world rfl -
    rw [submitFrom, here]
    rfl
  | some sender =>
    refine ⟨_, .speech (speaks sender here), ?_⟩
    rintro session world rfl -
    exact submitFrom_of_found here context

theorem exists_direct_plan (directory : Directory) (clock : Clock) (id target : AccountId)
    (message : String) :
    ∃ plan, directory.Asks (.direct id target message) plan ∧
      ∀ (session : Session) (world : World), session.directory = directory → world.clock = clock →
        session.sendDirect world id target message = session.carryOut world plan := by
  cases here : directory.get? id with
  | none =>
    refine ⟨_, .fail (.rejected (.unknownAccount id)), ?_⟩
    rintro session world rfl -
    rw [sendDirect, here]
    rfl
  | some sender =>
    cases there : directory.get? target with
    | none =>
      refine ⟨_, .fail (.rejected (.unknownAccount target)), ?_⟩
      rintro session world rfl -
      rw [sendDirect, here]
      dsimp only
      rw [there]
      rfl
    | some receiver =>
      refine ⟨_, .speech (.direct here there), ?_⟩
      rintro session world rfl -
      rw [sendDirect, here]
      dsimp only
      rw [there]
      rfl

theorem exists_move_plan (directory : Directory) (clock : Clock) (id : AccountId)
    (server : String) :
    ∃ plan, directory.Asks (.switch id server) plan ∧
      ∀ (session : Session) (world : World), session.directory = directory → world.clock = clock →
        session.move world id server = session.carryOut world plan := by
  cases here : directory.get? id with
  | none =>
    refine ⟨_, .fail (.unknownAccount id), ?_⟩
    rintro session world rfl -
    rw [move, here]
    rfl
  | some account =>
    refine ⟨_, .notice (.switch here rfl), ?_⟩
    rintro session world rfl -
    rw [move, here]
    rfl

theorem exists_mute_plan (directory : Directory) (clock : Clock) (id : AccountId)
    (minutes : Option Int) :
    ∃ plan, directory.Asks (.mute id minutes) plan ∧
      ∀ (session : Session) (world : World), session.directory = directory → world.clock = clock →
        session.mute clock id minutes = session.carryOut world plan := by
  cases minutes with
  | none => exact exists_change_plan directory clock _ id _
  | some minutes =>
    unfold mute
    dsimp only
    cases clock.deadline? minutes with
    | none => exact ⟨_, .fail (.outOfRange minutes), fun _ _ _ _ => rfl⟩
    | some instant => exact exists_change_plan directory clock _ id _

/-- Every event asks for one thing, which is what is done, whatever the rest of the session is and
whatever can be written meanwhile. -/
theorem exists_plan (directory : Directory) (clock : Clock) (event : Event) :
    ∃ plan, directory.Asks event plan ∧
      ∀ (session : Session) (world : World), session.directory = directory → world.clock = clock →
        session.handle world event = session.carryOut world plan := by
  cases event with
  | connect id name server permissions channel =>
    let account : Account := permissions.foldl .grant { id, name, server, channel }
    refine ⟨_, .notice (.connect rfl), ?_⟩
    rintro session world rfl -
    exact submitFrom_of_found (session.directory.get?_connect_self account) _
  | disconnect id =>
    cases here : directory.get? id with
    | none =>
      refine ⟨_, .fail (.unknownAccount id), ?_⟩
      rintro session world rfl -
      exact disconnect_of_absent here
    | some account =>
      refine ⟨_, .notice (.disconnect here), ?_⟩
      rintro session world rfl -
      exact disconnect_of_found here
  | switch id server => exact exists_move_plan directory clock id server
  | chat id channel message => exact exists_chat_plan directory clock id _ fun _ here => .chat here
  | alert id message => exact exists_chat_plan directory clock id _ fun _ here => .alert here
  | direct id target message => exact exists_direct_plan directory clock id target message
  | prefer id | ignore id | unignore id | vanish id | spy id =>
    exact exists_change_plan directory clock _ id _
  | mute id minutes =>
    obtain ⟨plan, asks, conducts⟩ := exists_mute_plan directory clock id minutes
    refine ⟨plan, asks, ?_⟩
    rintro session world same rfl
    exact conducts session world same rfl
  | toggle feature on => exact ⟨_, .toggle feature on, fun _ _ _ _ => rfl⟩

theorem carryOut_send (context : Context) :
    session.carryOut world (.send session.directory context session.directory) =
      session.submit world context := rfl

/-- All that an event can come to. -/
theorem handle_cases (session : Session) (world : World) (event : Event) :
    ∃ plan, session.directory.Asks event plan ∧
      session.handle world event = session.carryOut world plan := by
  obtain ⟨plan, asks, conducts⟩ := exists_plan session.directory world.clock event
  exact ⟨plan, asks, conducts session world rfl rfl⟩

end Session

end Switchboard
