import Mathlib.Tactic.Common
import Switchboard.Proofs.Coupling
import Switchboard.Proofs.Handling

/-! Failures of the outside world stay outside. Whatever is done to a switchboard, and whichever
deliveries and log entries cannot be written meanwhile, it answers, sends and is left as if every
write had succeeded; what is written is what could be. -/
namespace Switchboard

open Dispatching

/-! ## Writes side by side -/

namespace Outbox

/-- The same is sent and logged on both sides, and on each of them what could be is written. -/
structure Parallel (uptake other : Uptake) (outbox otherOutbox : Outbox) : Prop where
  deliveries : otherOutbox.deliveries = outbox.deliveries
  entries : otherOutbox.entries = outbox.entries
  writes : outbox.Writes uptake
  otherWrites : otherOutbox.Writes other

variable {uptake other : Uptake} {outbox otherOutbox later otherLater : Outbox} {clock : Clock}

theorem parallel_nothing : Parallel uptake other {} {} := ⟨rfl, rfl, .nothing, .nothing⟩

namespace Parallel

variable (parallel : outbox.Parallel uptake other otherOutbox)

include parallel

theorem deliver (message : Message) (recipients : List Account) :
    (outbox.deliver (uptake.world clock) message recipients).Parallel uptake other
      (otherOutbox.deliver (other.world clock) message recipients) where
  deliveries := by rw [deliveries_deliver, deliveries_deliver, parallel.deliveries]
  entries := by rw [entries_deliver, entries_deliver, parallel.entries]
  writes := parallel.writes.deliver message recipients
  otherWrites := parallel.otherWrites.deliver message recipients

theorem record (entry : LogEntry) :
    (outbox.record (uptake.world clock) entry).Parallel uptake other
      (otherOutbox.record (other.world clock) entry) where
  deliveries := by rw [deliveries_record, deliveries_record, parallel.deliveries]
  entries := by rw [entries_record, entries_record, parallel.entries]
  writes := parallel.writes.record entry
  otherWrites := parallel.otherWrites.record entry

theorem followedBy
    (onward : later.Parallel (outbox.onward uptake) (otherOutbox.onward other) otherLater) :
    (outbox.followedBy later).Parallel uptake other (otherOutbox.followedBy otherLater) where
  deliveries := by
    rw [Outbox.followedBy, Outbox.followedBy, parallel.deliveries, onward.deliveries]
  entries := by
    rw [Outbox.followedBy, Outbox.followedBy, parallel.entries, onward.entries]
  writes := parallel.writes.followedBy onward.writes
  otherWrites := parallel.otherWrites.followedBy onward.otherWrites

end Parallel

end Outbox

/-! ## Sends and events -/

structure Stage.Parallel (uptake other : Uptake) (stage otherStage : Stage) : Prop where
  filters : otherStage.filters = stage.filters
  outbox : stage.outbox.Parallel uptake other otherStage.outbox

/-- What comes of an event on either side: the same, but for what could be written. -/
structure Report.Parallel (uptake other : Uptake) (report otherReport : Report) : Prop where
  session : otherReport.session = report.session
  result : otherReport.result = report.result
  outbox : report.outbox.Parallel uptake other otherReport.outbox

namespace Session

variable {clock : Clock} {uptake other : Uptake} {session : Session}

theorem couples_parallel : Couples (Stage.Parallel uptake other) clock uptake other where
  deliver recipient message := by
    rintro stage otherStage ⟨filters, parallel⟩
    exact ⟨rfl, filters, parallel.deliver message [recipient]⟩
  record entry := by
    rintro stage otherStage ⟨filters, parallel⟩
    exact ⟨rfl, filters, parallel.record entry⟩
  text sender raw := by
    rintro ⟨filters, outbox⟩ ⟨_, otherOutbox⟩ ⟨rfl, parallel⟩
    exact ⟨rfl, rfl, parallel⟩
  message sender message := by
    rintro ⟨filters, outbox⟩ ⟨_, otherOutbox⟩ ⟨rfl, parallel⟩
    exact ⟨rfl, rfl, parallel⟩

theorem dispatch_parallel (context : Context) :
    (session.dispatch (other.world clock) context).1 =
        (session.dispatch (uptake.world clock) context).1 ∧
      (session.dispatch (uptake.world clock) context).2.Parallel uptake other
        (session.dispatch (other.world clock) context).2 := by
  have couples : Couples (Stage.Parallel uptake other) clock uptake other := couples_parallel
  obtain ⟨same, parallel⟩ := coupled_send couples session (session.channelOf context)
    { context with channel := some (session.channelOf context) } { filters := session.filters }
    { filters := session.filters } ⟨rfl, Outbox.parallel_nothing⟩
  exact ⟨same.symm, parallel⟩

theorem quiet_parallel {report : Report} (quiet : report.outbox = {}) :
    report.Parallel uptake other report := by
  refine ⟨rfl, rfl, ?_⟩
  rw [quiet]
  exact Outbox.parallel_nothing

theorem submit_parallel (context : Context) :
    (session.submit (uptake.world clock) context).Parallel uptake other
      (session.submit (other.world clock) context) := by
  obtain ⟨same, filters, outbox⟩ : _ ∧ (session.dispatch (uptake.world clock) context).2.Parallel
      uptake other (session.dispatch (other.world clock) context).2 := dispatch_parallel context
  refine ⟨?_, ?_, outbox⟩
  · exact congrArg session.withFilters filters
  · exact congrArg (fun result => (result.map some).mapError SessionError.rejected) same

theorem carryOut_parallel (plan : Plan) :
    (session.carryOut (uptake.world clock) plan).Parallel uptake other
      (session.carryOut (other.world clock) plan) := by
  cases plan with
  | fail | change | toggle => exact quiet_parallel rfl
  | send during context later =>
    obtain ⟨left, result, outbox⟩ : ({ session with directory := during }.submit
        (uptake.world clock) context).Parallel uptake other
          ({ session with directory := during }.submit (other.world clock) context) :=
      submit_parallel context
    exact ⟨congrArg (fun left : Session => { left with directory := later }) left, result, outbox⟩

theorem handle_parallel (event : Event) :
    (session.handle (uptake.world clock) event).Parallel uptake other
      (session.handle (other.world clock) event) := by
  obtain ⟨plan, -, conducts⟩ := exists_plan session.directory clock event
  rw [conducts session (uptake.world clock) rfl rfl, conducts session (other.world clock) rfl rfl]
  exact carryOut_parallel plan

theorem handleLine_parallel (line : String) :
    (session.handleLine (uptake.world clock) line).Parallel uptake other
      (session.handleLine (other.world clock) line) := by
  unfold handleLine
  dsimp only
  split
  · exact quiet_parallel rfl
  · cases Event.read? (Text.trim line) with
    | none => exact quiet_parallel rfl
    | some event => exact handle_parallel event

end Session

/-! ## Runs -/

/-- Whatever can be done to a switchboard. -/
inductive Step where
  /-- A line of an event stream comes in. -/
  | line (text : String)
  | event (event : Event)
  /-- An account is connected, and nobody is told. -/
  | join (account : Account)
  /-- An account is changed, if it is connected. -/
  | change (id : AccountId) (change : Account → Account)
  /-- A context is dispatched, which may be made of the accounts connected then. -/
  | dispatch (context : Directory → Context)
  /-- A filter is registered; a slot is reserved for what it remembers. -/
  | addText (key : String) (filter : Nat → TextFilter)
  | dropText (key : String)
  | addMessage (key : String) (filter : MessageFilter)
  | dropMessage (key : String)
  /-- A feature is turned on or off. -/
  | turn (feature : Feature) (on : Bool)
  /-- Time passes until the clock shows this. -/
  | wait (clock : Clock)

/-- What whoever takes a step gets in return. -/
inductive Reply where
  | done
  | reported (result : Except SessionError (Option Outcome))
  | dispatched (result : Except ContextError Outcome)
  | found (account : Option Account)
  /-- Whether it made a difference. -/
  | changed (difference : Bool)

structure Answer where
  session : Session
  reply : Reply := .done
  outbox : Outbox := {}

def Answer.ofReport (report : Report) : Answer :=
  ⟨report.session, .reported report.result, report.outbox⟩

def Session.perform (session : Session) (world : World) : Step → Answer
  | .line text => .ofReport (session.handleLine world text)
  | .event event => .ofReport (session.handle world event)
  | .join account =>
    { session := { session with directory := session.directory.connect account } }
  | .change id change =>
    let directory := session.directory.modify id change
    { session := { session with directory }, reply := .found (directory.get? id) }
  | .dispatch context =>
    let (result, stage) := session.dispatch world (context session.directory)
    ⟨session.withFilters stage.filters, .dispatched result, stage.outbox⟩
  | .addText key filter =>
    let (slot, filters) := session.filters.reserve
    { session := session.withFilters (filters.addText key (filter slot)) }
  | .dropText key =>
    let (difference, filters) := session.filters.removeText key
    { session := session.withFilters filters, reply := .changed difference }
  | .addMessage key filter =>
    { session := session.withFilters (session.filters.addMessage key filter) }
  | .dropMessage key =>
    let (difference, filters) := session.filters.removeMessage key
    { session := session.withFilters filters, reply := .changed difference }
  | .turn feature on =>
    let (difference, registry) := session.registry.switch feature on
    { session := { session with registry }, reply := .changed difference }
  | .wait _ => { session }

structure Answer.Parallel (uptake other : Uptake) (answer otherAnswer : Answer) : Prop where
  session : otherAnswer.session = answer.session
  reply : otherAnswer.reply = answer.reply
  outbox : answer.outbox.Parallel uptake other otherAnswer.outbox

theorem Report.Parallel.answer {uptake other : Uptake} {report otherReport : Report}
    (parallel : report.Parallel uptake other otherReport) :
    (Answer.ofReport report).Parallel uptake other (.ofReport otherReport) where
  session := parallel.session
  reply := congrArg Reply.reported parallel.result
  outbox := parallel.outbox

theorem Session.perform_parallel {clock : Clock} {uptake other : Uptake} (session : Session)
    (step : Step) : (session.perform (uptake.world clock) step).Parallel uptake other
      (session.perform (other.world clock) step) := by
  cases step with
  | line text => exact (handleLine_parallel text).answer
  | event event => exact (handle_parallel event).answer
  | dispatch context =>
    obtain ⟨same, filters, outbox⟩ : _ ∧
        (session.dispatch (uptake.world clock) (context session.directory)).2.Parallel uptake other
          (session.dispatch (other.world clock) (context session.directory)).2 :=
      dispatch_parallel _
    exact ⟨congrArg session.withFilters filters, congrArg Reply.dispatched same, outbox⟩
  | join | change | addText | dropText | addMessage | dropMessage | turn | wait =>
    exact ⟨rfl, rfl, Outbox.parallel_nothing⟩

/-- How far a run has come: the session and the clock, and all replies and all that has left. -/
structure Progress where
  session : Session
  clock : Clock
  replies : List Reply := []
  outbox : Outbox := {}

namespace Progress

/-- One step more, in a run whose writes are possible as `uptake` says. -/
def take (uptake : Uptake) (progress : Progress) (step : Step) : Progress :=
  let world := (progress.outbox.onward uptake).world progress.clock
  let answer := progress.session.perform world step
  { session := answer.session
    clock := match step with
      | .wait clock => clock
      | _ => progress.clock
    replies := progress.replies ++ [answer.reply]
    outbox := progress.outbox.followedBy answer.outbox }

def after (uptake : Uptake) (progress : Progress) (steps : List Step) : Progress :=
  steps.foldl (take uptake) progress

/-- The two runs have come to the same, but for what could be written. -/
structure Parallel (uptake other : Uptake) (progress otherProgress : Progress) : Prop where
  session : otherProgress.session = progress.session
  clock : otherProgress.clock = progress.clock
  replies : otherProgress.replies = progress.replies
  outbox : progress.outbox.Parallel uptake other otherProgress.outbox

variable {uptake other : Uptake} {progress otherProgress : Progress}

theorem Parallel.take (parallel : progress.Parallel uptake other otherProgress) (step : Step) :
    (progress.take uptake step).Parallel uptake other (otherProgress.take other step) := by
  obtain ⟨_, _, _, outbox⟩ := progress
  obtain ⟨session, clock, replies, otherOutbox⟩ := otherProgress
  obtain ⟨rfl, rfl, rfl, sent⟩ := parallel
  have answers : (session.perform ((outbox.onward uptake).world clock) step).Parallel
      (outbox.onward uptake) (otherOutbox.onward other)
      (session.perform ((otherOutbox.onward other).world clock) step) :=
    session.perform_parallel step
  -- Each side numbers its writes on from what it has sent itself.
  refine ⟨answers.session, rfl, ?_, sent.followedBy answers.outbox⟩
  exact congrArg (fun reply => replies ++ [reply]) answers.reply

theorem Parallel.after (parallel : progress.Parallel uptake other otherProgress)
    (steps : List Step) :
    (progress.after uptake steps).Parallel uptake other (otherProgress.after other steps) := by
  induction steps generalizing progress otherProgress with
  | nil => exact parallel
  | cons step rest ih => exact ih (parallel.take step)

end Progress

/-- Whatever the settings, the steps and the writes that fail: every reply, everything that is sent
and logged and all that is left in the session is as in the run in which no write fails. There all
is written, and here all but the writes that fail, each of which leaves a warning. -/
theorem Session.failures_stay_outside (config : Config) (clock : Clock) (steps : List Step)
    (uptake : Uptake) :
    let start : Progress := { session := ofConfig config, clock }
    let smooth := start.after {} steps
    let disturbed := start.after uptake steps
    disturbed.session = smooth.session ∧ disturbed.clock = smooth.clock ∧
      disturbed.replies = smooth.replies ∧
      disturbed.outbox.deliveries = smooth.outbox.deliveries ∧
      disturbed.outbox.entries = smooth.outbox.entries ∧
      smooth.outbox.written = smooth.outbox.deliveries ∧
      smooth.outbox.recorded = smooth.outbox.entries ∧
      smooth.outbox.warnings = [] ∧
      disturbed.outbox.written = Outbox.taken uptake.delivery 0 smooth.outbox.deliveries ∧
      disturbed.outbox.recorded = Outbox.taken uptake.entry 0 smooth.outbox.entries ∧
      disturbed.outbox.written.length + disturbed.outbox.recorded.length +
          disturbed.outbox.warnings.length =
        smooth.outbox.deliveries.length + smooth.outbox.entries.length := by
  intro start smooth disturbed
  have parallel : smooth.Parallel {} uptake disturbed :=
    Progress.Parallel.after ⟨rfl, rfl, rfl, Outbox.parallel_nothing⟩ steps
  obtain ⟨session, clocks, replies, deliveries, entries, writes, otherWrites⟩ := parallel
  obtain ⟨written, recorded, unwarned⟩ := writes.smooth
  refine ⟨session, clocks, replies, deliveries, entries, written, recorded, unwarned, ?_, ?_, ?_⟩
  · rw [← deliveries]
    exact otherWrites.written
  · rw [← entries]
    exact otherWrites.recorded
  · rw [← deliveries, ← entries]
    exact otherWrites.warned

end Switchboard
