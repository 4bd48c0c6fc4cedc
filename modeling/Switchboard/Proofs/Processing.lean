import Mathlib.Tactic.Common
import Switchboard.Proofs.Dispatching

/-! What becomes of a text between the sender and the templates. Processing fails only on a
context that was processed before, and it sends nothing; all that comes of it is a block, or a
context with the parsed message filled in. -/
namespace Switchboard

/-- What the two chains make of a text: a block, or the text and the message as they leave them. -/
def Filters.passage (filters : Filters) (clock : Clock) (sender : Account) (raw : String) :
    Except Blocked (String × Message) × Filters :=
  match filters.filterText clock sender raw with
  | (.error blocked, later) => (.error blocked, later)
  | (.ok text, later) =>
    match later.filterMessage sender (.parse text) with
    | (.error blocked, last) => (.error blocked, last)
    | (.ok message, last) => (.ok (text, message), last)

namespace Session

open Dispatching

/-- Whether messages on the channel pass the filters. -/
def filtering (session : Session) : Channel → Bool
  | .globalChat | .localChat | .multicastChat | .staffChat => true
  | .direct => session.settings.filtersPrivate
  | .join | .leave | .switch | .alert => false

/-- What becomes of a text on the channel: a block, or the text as the filters leave it, where
there are any, and the message that is parsed from it. -/
def processed (session : Session) (clock : Clock) (sender : Account) (channel : Channel)
    (raw : String) : Except Blocked (Option String × Message) × Filters :=
  if session.filtering channel then
    match session.filters.passage clock sender raw with
    | (.error blocked, later) => (.error blocked, later)
    | (.ok (text, message), later) => (.ok (some text, message), later)
  else (.ok (none, .parse raw), session.filters)

/-- What somebody sees of a context through a template, on some channel. -/
def view (session : Session) (world : World) (channel : Channel) (format : Format)
    (context : Context) : Message :=
  session.render world format { context with channel := some channel }

/-- How far the processing of a text comes, what comes of it, and the filters it leaves. -/
inductive Treatment (clock : Clock) (filtering : Bool) (context : Context) (sender : Account)
    (raw : String) (filters : Filters) :
    Except ContextError (Except Blocked Context) → Filters → Prop where
  /-- No filters run, and the text is parsed, -/
  | parsed (idle : filtering = false) (unparsed : context.rendered = none) :
      Treatment clock filtering context sender raw filters
        (.ok (.ok { context with rendered := some (.parse raw) })) filters
  /-- unless the context holds a parsed message. -/
  | parsedBefore (idle : filtering = false) (stale : context.rendered.isSome) :
      Treatment clock filtering context sender raw filters (.error (.unmet (.absent .parsed)))
        filters
  /-- A filter stops the text. -/
  | textStopped (filtered : filtering = true)
      (text : filters.filterText clock sender raw = (.error blocked, later)) :
      Treatment clock filtering context sender raw filters (.ok (.error blocked)) later
  /-- The text has passed, but the context holds a filtered text. -/
  | filteredBefore (filtered : filtering = true)
      (text : filters.filterText clock sender raw = (.ok passed, later))
      (stale : context.filtered.isSome) :
      Treatment clock filtering context sender raw filters (.error (.unmet (.absent .filtered)))
        later
  /-- A filter stops the parsed message. -/
  | messageStopped (filtered : filtering = true)
      (text : filters.filterText clock sender raw = (.ok passed, later))
      (unfiltered : context.filtered = none)
      (message : later.filterMessage sender (.parse passed) = (.error blocked, last)) :
      Treatment clock filtering context sender raw filters (.ok (.error blocked)) last
  /-- The message has passed, but the context holds a parsed one. -/
  | passedBefore (filtered : filtering = true)
      (text : filters.filterText clock sender raw = (.ok passed, later))
      (unfiltered : context.filtered = none)
      (message : later.filterMessage sender (.parse passed) = (.ok ready, last))
      (stale : context.rendered.isSome) :
      Treatment clock filtering context sender raw filters (.error (.unmet (.absent .parsed))) last
  | passed (filtered : filtering = true)
      (text : filters.filterText clock sender raw = (.ok passed, later))
      (unfiltered : context.filtered = none)
      (message : later.filterMessage sender (.parse passed) = (.ok ready, last))
      (unparsed : context.rendered = none) :
      Treatment clock filtering context sender raw filters
        (.ok (.ok { context with filtered := some passed, rendered := some ready })) last

variable {session : Session} {world : World} {context : Context} {sender : Account}

/-! ## The message as it is shown -/

theorem render_processed {channel : Channel} (format : Format) (filtered : Option String)
    (rendered : Option Message) (on : context.channel = some channel) :
    session.render world format { context with filtered, rendered } =
      session.view world channel format { context with filtered, rendered } := by
  rw [view, ← on]

/-- All that a template can show of a processed context. -/
theorem view_processed (channel : Channel) (format : Format)
    (filtered : Option String) (message : Message) (speaks : context.sender = some sender) :
    session.view world channel format { context with filtered, rendered := some message } =
      Template.render
        { time := world.clock.timeOfDay
          user := sender.name
          target := (context.target.map Account.name).getD ""
          server := context.server.getD ""
          channel := channel.name }
        message (session.settings.templates format) := by
  simp only [view, render, Template.renderContext, Template.Values.ofContext, speaks,
    Option.map_some, Option.getD_some]

/-! ## Filtering and parsing -/

variable {raw : String} {stage : Stage} {filtering : Bool} {later : Filters}
  {result : Except ContextError (Except Blocked Context)}

theorem exec_process_unfiltered (speaks : context.sender = some sender)
    (wrote : context.message = some raw) :
    exec (process world false context) stage =
      match context.setRendered (.parse raw) with
      | .error error => (.error error, stage)
      | .ok ready => (.ok (.ok ready), stage) := by
  simp only [process, Context.requireSender, Context.requireMessage, Context.demand, speaks, wrote,
    exec_bind, exec_check, exec_pure, Bool.false_eq_true, if_false]
  cases context.setRendered (.parse raw) <;> rfl

theorem exec_process_filtered (speaks : context.sender = some sender)
    (wrote : context.message = some raw) :
    exec (process world true context) stage =
      match stage.filters.filterText world.clock sender raw with
      | (.error blocked, later) => (.ok (.error blocked), { stage with filters := later })
      | (.ok text, later) =>
        match context.setFiltered text with
        | .error error => (.error error, { stage with filters := later })
        | .ok kept =>
          match later.filterMessage sender (.parse text) with
          | (.error blocked, last) => (.ok (.error blocked), { stage with filters := last })
          | (.ok message, last) =>
            match kept.setRendered message with
            | .error error => (.error error, { stage with filters := last })
            | .ok ready => (.ok (.ok ready), { stage with filters := last }) := by
  simp only [process, Context.requireSender, Context.requireMessage, Context.demand, speaks, wrote,
    exec_bind, exec_check, if_true, exec_filter]
  rcases stage.filters.filterText world.clock sender raw with ⟨blocked | text, later⟩
  · rfl
  simp only [exec_bind, exec_check]
  cases context.setFiltered text with
  | error error => rfl
  | ok kept =>
    simp only [exec_filter]
    rcases later.filterMessage sender (.parse text) with ⟨blocked | message, last⟩
    · rfl
    simp only [exec_bind, exec_check]
    cases kept.setRendered message <;> rfl

theorem exec_process_of_treatment (speaks : context.sender = some sender)
    (wrote : context.message = some raw)
    (treatment : Treatment world.clock filtering context sender raw stage.filters result later) :
    exec (process world filtering context) stage = (result, { stage with filters := later }) := by
  cases treatment with
  | parsed idle | parsedBefore idle =>
    rw [idle, exec_process_unfiltered speaks wrote]
    simp only [Context.setRendered_of_unparsed, Context.setRendered_of_parsed, *]
  | textStopped filtered | filteredBefore filtered | messageStopped filtered
  | passedBefore filtered | passed filtered =>
    rw [filtered, exec_process_filtered speaks wrote]
    simp only [Context.setFiltered_of_unfiltered, Context.setFiltered_of_filtered,
      Context.setRendered_of_unparsed, Context.setRendered_of_parsed, *]

theorem exists_treatment (clock : Clock) (filtering : Bool) (context : Context) (sender : Account)
    (raw : String) (filters : Filters) :
    ∃ result later, Treatment clock filtering context sender raw filters result later := by
  cases filtered : filtering with
  | false =>
    cases parsed : context.rendered with
    | none => exact ⟨_, _, .parsed rfl parsed⟩
    | some message => exact ⟨_, _, .parsedBefore rfl (Option.isSome_of_mem parsed)⟩
  | true =>
    rcases text : filters.filterText clock sender raw with ⟨blocked | passed, later⟩
    · exact ⟨_, _, .textStopped rfl text⟩
    cases unfiltered : context.filtered with
    | some earlier => exact ⟨_, _, .filteredBefore rfl text (Option.isSome_of_mem unfiltered)⟩
    | none =>
      rcases message : later.filterMessage sender (.parse passed) with ⟨blocked | ready, last⟩
      · exact ⟨_, _, .messageStopped rfl text unfiltered message⟩
      cases parsed : context.rendered with
      | some earlier =>
        exact ⟨_, _, .passedBefore rfl text unfiltered message (Option.isSome_of_mem parsed)⟩
      | none => exact ⟨_, _, .passed rfl text unfiltered message parsed⟩

theorem exec_process_iff (speaks : context.sender = some sender)
    (wrote : context.message = some raw) :
    exec (process world filtering context) stage = (result, { stage with filters := later }) ↔
      Treatment world.clock filtering context sender raw stage.filters result later := by
  refine ⟨fun run => ?_, exec_process_of_treatment speaks wrote⟩
  obtain ⟨result', later', treatment⟩ :=
    exists_treatment world.clock filtering context sender raw stage.filters
  cases run.symm.trans (exec_process_of_treatment speaks wrote treatment)
  exact treatment

/-- Processing fails only where a slot is filled already, blocks only where filters run, and
otherwise fills in the parsed message. It sends nothing. -/
theorem exec_process_cases (speaks : context.sender = some sender)
    (wrote : context.message = some raw) (filtering : Bool) (stage : Stage) :
    ∃ last,
      (∃ error, ¬context.Fresh ∧ exec (process world filtering context) stage =
        (.error error, { stage with filters := last })) ∨
      (∃ blocked, filtering = true ∧ exec (process world filtering context) stage =
        (.ok (.error blocked), { stage with filters := last })) ∨
      ∃ filtered message, exec (process world filtering context) stage =
        (.ok (.ok { context with filtered, rendered := some message }),
          { stage with filters := last }) := by
  obtain ⟨result, last, treatment⟩ :=
    exists_treatment world.clock filtering context sender raw stage.filters
  have run : exec (process world filtering context) stage = _ :=
    exec_process_of_treatment speaks wrote treatment
  refine ⟨last, ?_⟩
  cases treatment with
  | filteredBefore _ _ stale =>
    refine .inl ⟨_, fun fresh => ?_, run⟩
    simp [fresh.unfiltered] at stale
  | parsedBefore _ stale | passedBefore _ _ _ _ stale =>
    refine .inl ⟨_, fun fresh => ?_, run⟩
    simp [fresh.unparsed] at stale
  | textStopped filtered | messageStopped filtered => exact .inr (.inl ⟨_, filtered, run⟩)
  | parsed | passed => exact .inr (.inr ⟨_, _, run⟩)

theorem exec_process_fresh (session : Session) (channel : Channel) (fresh : context.Fresh)
    (speaks : context.sender = some sender) (wrote : context.message = some raw) :
    exec (process world (session.filtering channel) context) { filters := session.filters } =
      match session.processed world.clock sender channel raw with
      | (.error blocked, later) => (.ok (.error blocked), { filters := later })
      | (.ok (filtered, message), later) =>
        (.ok (.ok { context with filtered, rendered := some message }), { filters := later }) := by
  unfold processed
  cases session.filtering channel with
  | false =>
    rw [exec_process_unfiltered speaks wrote, Context.setRendered_of_unparsed fresh.unparsed]
    rw [if_neg (by decide)]
    dsimp only
    rw [← fresh.unfiltered]
  | true =>
    rw [exec_process_filtered speaks wrote, if_pos rfl, Filters.passage]
    rcases session.filters.filterText world.clock sender raw with ⟨blocked | text, later⟩
    · rfl
    dsimp only
    rw [Context.setFiltered_of_unfiltered fresh.unfiltered]
    dsimp only
    rcases later.filterMessage sender (.parse text) with ⟨blocked | message, last⟩
    · rfl
    dsimp only
    rw [Context.setRendered_of_unparsed (by exact fresh.unparsed)]

end Session

end Switchboard
