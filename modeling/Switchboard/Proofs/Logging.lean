import Mathlib.Tactic.Common
import Switchboard.Proofs.Accounting
import Switchboard.Proofs.Recipients

/-! What is kept in the chat log. Only a message that goes out is logged, and once however many
copies are made of it: the relay of local chat belongs to a channel that is not logged. What is
logged is the text as the filters over text leave it, before shortcodes are resolved in it. -/
namespace Switchboard.Session

/-- Whether messages on the channel belong in the chat log. -/
def logs (session : Session) : Channel → Bool
  | .globalChat | .localChat | .staffChat | .alert => true
  | .direct => session.settings.logsPrivate
  | .multicastChat | .join | .leave | .switch => false

def logLabel (channel : Channel) (context : Context) : String :=
  match channel, context.target with
  | .direct, some target => "PM to " ++ target.name
  | _, _ => channel.name.toUpper

/-- The text is what the filters over text make of the raw one; where messages do not pass them,
it is the raw one. -/
def Passes (session : Session) (clock : Clock) (sender : Account) (channel : Channel)
    (raw text : String) : Prop :=
  if session.filtering channel then (session.filters.filterText clock sender raw).1 = .ok text
  else text = raw

/-- The entry is the one that a message on the channel leaves in the log. -/
structure Logged (session : Session) (clock : Clock) (channel : Channel) (context : Context)
    (sender : Account) (raw : String) (entry : LogEntry) : Prop where
  speaks : context.sender = some sender
  wrote : context.message = some raw
  author : entry.sender = sender.name
  server : entry.server = context.server
  label : entry.label = logLabel channel context
  text : session.Passes clock sender channel raw entry.text
  line : entry.line = "[" ++ context.server.getD "-" ++ "] [" ++ logLabel channel context ++ "] " ++
    sender.name ++ ": " ++ entry.text

variable {session : Session} {world : World} {clock : Clock} {context ready : Context}
  {channel : Channel} {sender : Account} {raw label : String} {later : Filters}

theorem label_eq_toUpper (channel : Channel) : channel.label = channel.name.toUpper := by
  cases channel <;> decide +kernel

theorem logLabel_of_undirected (notDirect : channel ≠ .direct) :
    logLabel channel context = channel.label := by
  rw [label_eq_toUpper]
  cases channel <;> first | rfl | contradiction

theorem logLabel_direct {target : Account} (addressed : context.target = some target) :
    logLabel .direct context = "PM to " ++ target.name := by
  simp only [logLabel, addressed]

theorem logs_of_undirected (notDirect : channel ≠ .direct) :
    session.logs channel = channel.loggable := by
  cases channel <;> first | rfl | contradiction

theorem logs_of_silent (silent : channel.carriesMessage = false) :
    session.logs channel = false := by
  cases channel <;> first | rfl | cases silent

theorem entries_note (belongs : Bool) (label : String) (outbox : Outbox) :
    (session.note world belongs label context outbox).entries = outbox.entries ++
      if belongs && session.isActive .chatLogging then [.ofContext label context] else [] := by
  unfold note
  split <;> simp

theorem passes_of_processed {filtered : Option String} {message : Message}
    (processed : session.processed clock sender channel raw = (.ok (filtered, message), later)) :
    session.Passes clock sender channel raw (filtered.getD raw) := by
  unfold Passes
  unfold Session.processed at processed
  cases filtering : session.filtering channel with
  | false =>
    rw [if_neg (ne_true_of_eq_false filtering)] at processed
    cases processed
    exact rfl
  | true =>
    rw [if_pos filtering, Filters.passage] at processed
    rcases passed : session.filters.filterText clock sender raw with ⟨blocked | text, after⟩
    · simp only [passed] at processed
      cases processed
    · simp only [passed] at processed
      rcases parsed : after.filterMessage sender (.parse text) with ⟨blocked | shown, last⟩ <;>
        simp only [parsed] at processed <;> cases processed
      exact rfl

/-- A context that was not processed before is logged with its text as the filters leave it. -/
theorem logged_of_ready (fresh : context.Fresh) (speaks : context.sender = some sender)
    (processes : session.Processes world context channel (.ok (.ok ready)) later) :
    ∃ raw, session.Logged world.clock channel context sender raw
      (.ofContext (logLabel channel context) ready) := by
  obtain ⟨raw, filtered, message, wrote, processed, rfl⟩ := processes.ready_of_fresh fresh speaks
  have text : (LogEntry.ofContext (logLabel channel context)
      { context with filtered, rendered := some message }).text = filtered.getD raw := by
    cases filtered <;> simp [LogEntry.ofContext, Context.bestText, wrote]
  have author : (LogEntry.ofContext (logLabel channel context)
      { context with filtered, rendered := some message }).sender = sender.name := by
    simp [LogEntry.ofContext, speaks]
  refine ⟨raw, speaks, wrote, author, rfl, rfl, ?_, ?_⟩
  · rw [text]
    exact passes_of_processed processed
  · rw [LogEntry.line, author]
    rfl

/-- A message that goes out is logged once, if the channel is, in the context that its copies
show. -/
theorem course_entries {copies : Nat} {stage : Stage}
    (course : session.Course world context channel (.ok (.delivered copies)) stage) :
    ∃ ready,
      stage.outbox.entries = (if session.logs channel && session.isActive .chatLogging then
        [.ofContext (logLabel channel context) ready] else []) ∧
      (session.logs channel = true → ∃ sender later, context.sender = some sender ∧
        session.Processes world context channel (.ok (.ok ready)) later) := by
  cases course with
  | announced silent =>
    refine ⟨context, ?_, ?_⟩
    · rw [logs_of_silent silent]
      exact Outbox.entries_deliver ..
    · intro logged
      cases (logs_of_silent silent).symm.trans logged
  | broadcast notLocal notDirect speaks processes =>
    refine ⟨_, ?_, fun _ => ⟨_, _, speaks, processes⟩⟩
    rw [logs_of_undirected notDirect, logLabel_of_undirected notDirect, entries_note,
      Outbox.entries_deliver]
    rfl
  | nearby speaks _ processes =>
    refine ⟨_, ?_, fun _ => ⟨_, _, speaks, processes⟩⟩
    rw [logLabel_of_undirected (by decide)]
    simp only [Outbox.entries_deliver, entries_note]
    rfl
  | direct speaks addressed processes =>
    refine ⟨_, ?_, fun _ => ⟨_, _, speaks, processes⟩⟩
    rw [logLabel_direct addressed, entries_note, Outbox.entries_deliver, Outbox.entries_deliver,
      Outbox.entries_deliver]
    rfl

theorem course_unlogged {result : Except ContextError Outcome} {stage : Stage}
    (course : session.Course world context channel result stage)
    (unsent : ∀ copies, result ≠ .ok (.delivered copies)) : stage.outbox.entries = [] := by
  have accounted := course_accounted course
  match result with
  | .error _ => exact accounted.2
  | .ok (.blocked _) | .ok (.refused _) => exact accounted.2
  | .ok (.delivered copies) => exact absurd rfl (unsent copies)

theorem course_of_entry {result : Except ContextError Outcome} {stage : Stage} {entry : LogEntry}
    (course : session.Course world context channel result stage)
    (member : entry ∈ stage.outbox.entries) :
    (∃ copies, result = .ok (.delivered copies)) ∧ session.isActive .chatLogging = true ∧
      session.logs channel = true ∧ stage.outbox.entries = [entry] ∧
      ∃ sender ready later, context.sender = some sender ∧
        session.Processes world context channel (.ok (.ok ready)) later ∧
        entry = .ofContext (logLabel channel context) ready := by
  by_cases goes : ∃ copies, result = .ok (.delivered copies)
  · obtain ⟨copies, rfl⟩ := goes
    obtain ⟨ready, entries, prepared⟩ := course_entries course
    rw [entries] at member ⊢
    split at member
    case isTrue kept =>
      obtain ⟨logged, active⟩ := Bool.and_eq_true_iff.mp kept
      obtain ⟨sender, later, speaks, processes⟩ := prepared logged
      obtain rfl := List.mem_singleton.mp member
      exact ⟨⟨copies, rfl⟩, active, logged, if_pos kept, sender, ready, later, speaks, processes,
        rfl⟩
    case isFalse => cases member
  · rw [course_unlogged course fun copies same => goes ⟨copies, same⟩] at member
    cases member

/-- The log gets an entry exactly when a message goes out on a channel that is logged while a log
is kept; it is one entry, and it tells who wrote what where, as the filters left the text. -/
theorem dispatch_logged (session : Session) (world : World) (fresh : context.Fresh) :
    let channel := session.channelOf context
    let sent := session.dispatch world context
    (sent.2.outbox.entries ≠ [] ↔ (∃ copies, sent.1 = .ok (.delivered copies)) ∧
      session.isActive .chatLogging = true ∧ session.logs channel = true) ∧
    ∀ entry ∈ sent.2.outbox.entries, sent.2.outbox.entries = [entry] ∧
      ∃ sender raw, session.Logged world.clock channel context sender raw entry := by
  intro channel sent
  have course := session.dispatch_course world context
  have freshOn : ({ context with channel := some channel } : Context).Fresh :=
    ⟨fresh.unfiltered, fresh.unparsed⟩
  refine ⟨⟨?_, ?_⟩, ?_⟩
  · intro nonempty
    obtain ⟨entry, member⟩ := List.exists_mem_of_ne_nil _ nonempty
    obtain ⟨goes, active, logged, -⟩ := course_of_entry course member
    exact ⟨goes, active, logged⟩
  · rintro ⟨⟨copies, delivered⟩, active, logged⟩
    obtain ⟨ready, entries, -⟩ := course_entries (delivered ▸ course)
    rw [entries, if_pos (Bool.and_eq_true_iff.mpr ⟨logged, active⟩)]
    exact List.cons_ne_nil _ _
  · intro entry member
    obtain ⟨-, -, -, one, sender, ready, later, speaks, processes, rfl⟩ :=
      course_of_entry course member
    obtain ⟨raw, entry⟩ := logged_of_ready freshOn speaks processes
    -- The contexts differ in their channel, of which the entry tells nothing.
    exact ⟨one, sender, raw, { entry with }⟩

/-- The filter's changes are logged, the relay is not, and shortcodes stand as they were written. -/
theorem dispatch_logged_linked :
    let kept : Session := { linkedServers with
      registry := {
        active := [.multicastChat, .chatLogging]
        filters := ({} : Filters).addText "polite" (.ofFunction 0 (· ++ "!")) } }
    let said : Context := { Context.ofSender ada with message := some "hi :wave:" }
    (kept.dispatch default said).1 = .ok (.delivered 3) ∧
      (kept.dispatch default said).2.outbox.entries.map LogEntry.line =
        ["[lobby] [LOCAL] ada: hi :wave:!"] := by
  intro kept said
  have delivered : (kept.dispatch default said).1 = .ok (.delivered 3) :=
    Dispatching.eq_ok_of_toOption (by dsimp only [kept, said]; decide +kernel)
  obtain ⟨whenever, one⟩ := dispatch_logged kept default (show said.Fresh from ⟨rfl, rfl⟩)
  obtain ⟨entry, member⟩ := List.exists_mem_of_ne_nil _ (whenever.mpr ⟨⟨3, delivered⟩, rfl, rfl⟩)
  obtain ⟨entries, sender, raw, logged⟩ := one entry member
  cases logged.speaks
  cases logged.wrote
  have text : "hi :wave:!" = entry.text := Except.ok.inj logged.text
  rw [entries, List.map_singleton, logged.line, ← text]
  exact ⟨delivered, by decide +kernel⟩

end Switchboard.Session
