import Mathlib.Data.List.Induction
import Mathlib.Tactic.Common
import Switchboard.Proofs.Handling
import Switchboard.Proofs.Recollection
import Switchboard.Proofs.Uniformity

/-! Runs of events. Sessions that differ only in memories that their filters cannot tell apart are
twins: an event has the same result and sends the same on both, and leaves twins behind. Hence
everything that can be seen of a run is the same on both. -/
namespace Switchboard

open Dispatching

/-- An event and what surrounds its handling. -/
structure Occurrence where
  world : World
  event : Event

def Occurrence.time (occurrence : Occurrence) : Nat := occurrence.world.clock.elapsed

namespace Session

def meet (session : Session) (occurrence : Occurrence) : Report :=
  session.handle occurrence.world occurrence.event

def after (session : Session) (run : List Occurrence) : Session :=
  run.foldl (fun session occurrence => (session.meet occurrence).session) session

/-- All that can be seen of a run: results and what was sent and logged, event by event. -/
def transcript : Session → List Occurrence →
    List (Except SessionError (Option Outcome) × Outbox)
  | _, [] => []
  | session, occurrence :: rest =>
    ((session.meet occurrence).result, (session.meet occurrence).outbox) ::
      (session.meet occurrence).session.transcript rest

/-- The clock does not go back in the run. -/
def Steady (run : List Occurrence) : Prop :=
  run.Pairwise fun earlier later => earlier.time ≤ later.time

theorem after_concat (session : Session) (run : List Occurrence) (last : Occurrence) :
    session.after (run ++ [last]) = ((session.after run).meet last).session :=
  List.foldl_append

def withMemory (session : Session) (memory : Memory) : Session :=
  session.withFilters { session.filters with memory }

/-- The sessions are for the same settings and differ in memories that their filters cannot tell
apart from `now` on. -/
structure Twins (config : Config) (now : Nat) (session other : Session) : Prop where
  standing : session.registry.Standing config
  memory : ∃ memory, other = session.withMemory memory ∧
    session.filters.memory.Alike config now memory

variable {config : Config} {session other : Session} {occurrence : Occurrence} {now : Nat}

theorem Twins.refl (standing : session.registry.Standing config) :
    session.Twins config now session :=
  ⟨standing, session.filters.memory, rfl, .refl config now _⟩

theorem regular_twins (config : Config) (active : Feature → Bool) (clock : Clock) :
    Regular (Filters.Twins config active clock.elapsed) clock where
  text sender raw := by
    rintro filters other ⟨standing, alike⟩
    obtain ⟨same, alikeAfter⟩ : _ ∧ (filters.filterText clock sender raw).2.Alike config
        clock.elapsed (Filters.runText clock sender filters.text.entries raw other).2 :=
      Filters.runText_alike standing.configured alike
    obtain ⟨memory, rfl, -⟩ := alike
    exact ⟨same, standing.filterText, alikeAfter⟩
  message sender message := by
    rintro filters other ⟨standing, memory, rfl, alike⟩
    have standingOther : ({ filters with memory } : Filters).Standing config active :=
      ⟨standing.text, standing.message⟩
    dsimp only
    rw [standing.filterMessage, standingOther.filterMessage]
    exact ⟨rfl, standing, memory, rfl, alike⟩

theorem twins_carryOut {world : World} (plan : Plan)
    (twins : session.Twins config world.clock.elapsed other) :
    (other.carryOut world plan).result = (session.carryOut world plan).result ∧
      (other.carryOut world plan).outbox = (session.carryOut world plan).outbox ∧
      (session.carryOut world plan).session.Twins config world.clock.elapsed
        (other.carryOut world plan).session := by
  obtain ⟨standing, memory, rfl, alike⟩ := twins
  cases plan with
  | fail => exact ⟨rfl, rfl, standing, memory, rfl, alike⟩
  | change => exact ⟨rfl, rfl, standing, memory, rfl, alike⟩
  | toggle feature on =>
    -- This changes the chains themselves, which no send does, but looks at no memory.
    refine ⟨rfl, rfl, standing.setEnabled feature on, memory, ?_, ?_⟩
    · have apart := session.registry.setEnabled_withMemory memory feature on
      exact congrArg (fun registry => { session with registry }) apart
    · change (session.registry.setEnabled feature on).filters.memory.Alike config _ memory
      rw [Registry.memory_setEnabled]
      exact alike
  | send during context later =>
    have together : Filters.Twins config session.isActive world.clock.elapsed
        session.filters { session.filters with memory } :=
      ⟨standing.filters, memory, rfl, alike⟩
    obtain ⟨result, outbox, _, _, sent, otherSent, standingAfter, memoryAfter, rfl, alikeAfter⟩ :=
      uniform_submit { session with directory := during }
        (regular_twins config session.isActive world.clock) together context
    have otherSent : { session.withMemory memory with directory := during }.submit world context =
      _ := otherSent
    rw [carryOut, carryOut, sent, otherSent]
    exact ⟨rfl, rfl, ⟨standing.textFilter, standing.messageFilter, standingAfter⟩, memoryAfter, rfl,
      alikeAfter⟩

theorem twins_meet (twins : session.Twins config occurrence.time other) :
    (other.meet occurrence).result = (session.meet occurrence).result ∧
      (other.meet occurrence).outbox = (session.meet occurrence).outbox ∧
      (session.meet occurrence).session.Twins config occurrence.time
        (other.meet occurrence).session := by
  obtain ⟨world, event⟩ := occurrence
  obtain ⟨plan, -, conducts⟩ := exists_plan session.directory world.clock event
  have directory : other.directory = session.directory := by
    obtain ⟨-, memory, rfl, -⟩ := twins
    rfl
  rw [meet, meet, conducts session world rfl rfl, conducts other world directory rfl]
  exact twins_carryOut plan twins

/-- Nothing that can be seen of a run tells twins apart. -/
theorem transcript_twins {run : List Occurrence} (steady : Steady run)
    (begins : ∀ occurrence ∈ run, now ≤ occurrence.time)
    (twins : session.Twins config now other) :
    other.transcript run = session.transcript run := by
  induction run generalizing now session other with
  | nil => rfl
  | cons occurrence rest ih =>
    obtain ⟨standing, memory, same, alike⟩ := twins
    -- The memories are alike since the last event, hence also when the next one happens.
    have twinsNow : session.Twins config occurrence.time other :=
      ⟨standing, memory, same, alike.mono (begins occurrence List.mem_cons_self)⟩
    obtain ⟨result, outbox, twinsAfter⟩ := twins_meet twinsNow
    obtain ⟨onward, steadyRest⟩ := List.pairwise_cons.mp steady
    rw [transcript, transcript, result, outbox, ih steadyRest onward twinsAfter]

/-- In every session that events have made of its settings, the features' filters stand. -/
theorem standing_after (config : Config) (run : List Occurrence) :
    ((ofConfig config).after run).registry.Standing config := by
  induction run using List.reverseRecOn with
  | nil => exact Registry.Standing.ofConfig config
  | append_singleton run last ih =>
    have twins : ((ofConfig config).after run).Twins config last.time _ := .refl ih
    rw [after_concat]
    exact (twins_meet twins).2.2.standing

/-! ## What events leave as it is -/

theorem meet_settings (session : Session) (occurrence : Occurrence) :
    (session.meet occurrence).session.settings = session.settings := by
  obtain ⟨plan, -, handled⟩ := session.handle_cases occurrence.world occurrence.event
  rw [meet, handled]
  cases plan <;> rfl

theorem settings_after (config : Config) (run : List Occurrence) :
    ((ofConfig config).after run).settings = .ofConfig config := by
  induction run using List.reverseRecOn with
  | nil => rfl
  | append_singleton run last ih => rw [after_concat, meet_settings, ih]

theorem meet_isActive {feature : Feature} (kept : occurrence.event ≠ .toggle feature false)
    (active : session.isActive feature = true) :
    (session.meet occurrence).session.isActive feature = true := by
  obtain ⟨world, event⟩ := occurrence
  obtain ⟨plan, asks, handled⟩ := session.handle_cases world event
  rw [meet, handled]
  cases asks with
  | fail | change | notice | speech => exact active
  | toggle other on =>
    change (session.registry.setEnabled other on).isActive feature = true
    rw [Registry.isActive_setEnabled]
    dsimp only
    split
    case isTrue here =>
      cases on with
      | true => rfl
      | false => exact absurd rfl (here ▸ kept)
    case isFalse => exact active

/-- A feature that the settings turn on is active until it is turned off. -/
theorem active_after {feature : Feature} {run : List Occurrence}
    (enabled : config.enabled feature = true)
    (kept : ∀ occurrence ∈ run, occurrence.event ≠ .toggle feature false) :
    ((ofConfig config).after run).isActive feature = true := by
  induction run using List.reverseRecOn with
  | nil => exact (Registry.isActive_ofConfig config feature).trans enabled
  | append_singleton run last ih =>
    rw [after_concat]
    exact meet_isActive (kept last (by simp))
      (ih fun occurrence member => kept occurrence (List.mem_append_left _ member))

end Session

end Switchboard
