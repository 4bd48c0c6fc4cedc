import Mathlib.Tactic.Common
import Switchboard.Proofs.Requirements
import Switchboard.Proofs.Writing
import Switchboard.Session.Dispatch

/-! How the steps of a send act on its stage. Only filters change the filters, only deliveries
and log entries change the outbox, and a check changes nothing. What the channels require is enough
for every later check, so nothing fails once copies have gone out. -/
namespace Switchboard

namespace Dispatching

variable {α β : Type}

/-- Values can be compared by evaluation, and errors cannot. -/
theorem eq_ok_of_toOption {result : Except ContextError α} {value : α}
    (same : result.toOption = some value) : result = .ok value := by
  cases result with
  | error => cases same
  | ok => rw [Option.some.inj same]

/-- What an action comes to from a stage, and the stage it leaves. -/
def exec (action : Dispatching α) (stage : Stage) : Except ContextError α × Stage :=
  action.run.run stage

@[simp] theorem exec_pure (value : α) (stage : Stage) :
    exec (pure value) stage = (.ok value, stage) := rfl

theorem exec_bind (action : Dispatching α) (next : α → Dispatching β) (stage : Stage) :
    exec (action >>= next) stage =
      match exec action stage with
      | (.ok value, later) => exec (next value) later
      | (.error error, later) => (.error error, later) := by
  unfold exec
  rw [ExceptT.run_bind, StateT.run_bind]
  change (match action.run.run stage with | (result, later) => _) = _
  rcases action.run.run stage with ⟨result, later⟩
  cases result <;> rfl

theorem exec_bind_ok {action : Dispatching α} {next : α → Dispatching β} {stage later : Stage}
    {value : α} (first : exec action stage = (.ok value, later)) :
    exec (action >>= next) stage = exec (next value) later := by
  rw [exec_bind, first]

theorem exec_bind_error {action : Dispatching α} {next : α → Dispatching β}
    {stage later : Stage} {error : ContextError}
    (first : exec action stage = (.error error, later)) :
    exec (action >>= next) stage = (.error error, later) := by
  rw [exec_bind, first]

theorem exec_ite_bind {choice : Prop} [Decidable choice] {action other : Dispatching α}
    {next : α → Dispatching β} {stage later : Stage} {value : α}
    (chosen : exec (if choice then action else other) stage = (.ok value, later)) :
    exec (if choice then action >>= next else other >>= next) stage = exec (next value) later := by
  split at chosen <;> simp only [*, if_true, if_false] <;> exact exec_bind_ok chosen

@[simp] theorem exec_check (result : Except ContextError α) (stage : Stage) :
    exec (check result) stage = (result, stage) := rfl

@[simp] theorem exec_filter (run : Filters → α × Filters) (stage : Stage) :
    exec (filter run) stage =
      (.ok (run stage.filters).1, { stage with filters := (run stage.filters).2 }) := rfl

@[simp] theorem exec_write (action : StateM Outbox α) (stage : Stage) :
    exec (write action) stage =
      (.ok (action.run stage.outbox).1, { stage with outbox := (action.run stage.outbox).2 }) := rfl

end Dispatching

namespace Session

open Dispatching

/-- The connected accounts of an audience. -/
def connected (session : Session) (audience : Audience) : List Account :=
  audience.among session.directory.accounts

def gathered (session : Session) : Except ContextError Audience → List Account
  | .ok audience => session.connected audience
  | .error _ => []

/-- The outbox once a message is in the chat log, as far as it belongs there and a log is kept. -/
def note (session : Session) (world : World) (belongs : Bool) (label : String) (context : Context)
    (outbox : Outbox) : Outbox :=
  if belongs && session.isActive .chatLogging then
    outbox.record world (.ofContext label context)
  else outbox

section

variable (session : Session) (world : World) (stage : Stage) (context : Context)

@[simp] theorem deliveries_note (belongs : Bool) (label : String) (outbox : Outbox) :
    (session.note world belongs label context outbox).deliveries = outbox.deliveries := by
  unfold note; split <;> simp

theorem entries_note_length (belongs : Bool) (label : String) {outbox : Outbox}
    (unlogged : outbox.entries = []) :
    (session.note world belongs label context outbox).entries.length ≤ 1 := by
  unfold note; split <;> simp [unlogged]

@[simp] theorem note_unlogged (label : String) (outbox : Outbox) :
    session.note world false label context outbox = outbox := rfl

@[simp] theorem exec_deliver (recipient : Account) (message : Message) :
    exec (deliver world recipient message) stage =
      (.ok (), { stage with outbox := stage.outbox.deliver world message [recipient] }) := rfl

theorem exec_forM_deliver (message : Message) (recipients : List Account) :
    exec (recipients.forM fun recipient => deliver world recipient message) stage =
      (.ok (), { stage with outbox := stage.outbox.deliver world message recipients }) := by
  induction recipients generalizing stage with
  | nil => rfl
  | cons recipient rest ih =>
    rw [List.forM_eq_forM] at ih ⊢
    rw [List.forM_cons, exec_bind_ok (exec_deliver ..), ih]
    rfl

@[simp] theorem exec_fanOut (message : Message) (audience : Audience) :
    exec (session.fanOut world message audience) stage =
      (.ok (session.connected audience).length,
        { stage with
          outbox := stage.outbox.deliver world message (session.connected audience) }) := by
  unfold fanOut
  rw [exec_bind_ok (exec_forM_deliver ..)]
  rfl

@[simp] theorem exec_log (label : String) : exec (session.log world label context) stage =
    (.ok (), { stage with outbox := session.note world true label context stage.outbox }) := by
  unfold log note
  cases session.isActive .chatLogging <;> rfl

@[simp] theorem exec_logOn (channel : Channel) :
    exec (session.logOn world channel context) stage =
      (.ok (), { stage with
        outbox := session.note world channel.loggable channel.label context stage.outbox }) := by
  unfold logOn
  cases channel.loggable with
  | false => rfl
  | true => exact session.exec_log world stage context channel.label

/-! ## What cannot fail -/

/-- The structural check leaves no channel without somebody to reach. -/
theorem exists_reach {channel : Channel} (sound : channel.checkStructure context = .ok ()) :
    ∃ reached, session.reach channel context = .ok reached := by
  cases channel with
  | localChat | multicastChat =>
    obtain ⟨server, placed⟩ := Channel.server_of_structure sound (by simp [Channel.requirements])
    unfold reach
    rw [Context.requireServer_of_some placed]
    exact ⟨_, rfl⟩
  | direct =>
    obtain ⟨target, addressed⟩ := Channel.target_of_structure sound (by simp [Channel.requirements])
    unfold reach
    rw [Context.requireTarget_of_some addressed]
    exact ⟨_, rfl⟩
  | globalChat | staffChat | join | leave | switch | alert => exact ⟨_, rfl⟩

theorem exists_audience {channel : Channel} (sound : channel.checkStructure context = .ok ()) :
    ∃ audience, session.audience channel context = .ok audience := by
  obtain ⟨sender, speaks⟩ := Channel.sender_of_structure sound
  obtain ⟨reached, reaches⟩ := session.exists_reach context sound
  unfold Session.audience
  rw [Context.requireSender_of_some speaks, reaches]
  exact ⟨_, rfl⟩

end

end Session

end Switchboard
