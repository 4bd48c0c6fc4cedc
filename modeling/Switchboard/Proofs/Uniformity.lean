import Mathlib.Tactic.Common
import Switchboard.Proofs.Coupling
import Switchboard.Session.Events

/-! Two sends side by side. Sending reaches its filters only by running the two chains, so filters
that a relation holds together stay together: if the chains do the same to every text and message
on both sides, every context has one result and sends one thing. -/
namespace Switchboard

namespace Dispatching

variable {α : Type} {related : Filters → Filters → Prop}

/-- On related filters the run comes to one result, and leaves related filters. -/
def Agrees (related : Filters → Filters → Prop) (run : Filters → α × Filters) : Prop :=
  ∀ filters other, related filters other →
    (run filters).1 = (run other).1 ∧ related (run filters).2 (run other).2

/-- The two chains do the same to every text and every message. -/
structure Regular (related : Filters → Filters → Prop) (clock : Clock) : Prop where
  text : ∀ sender raw, Agrees related fun filters => filters.filterText clock sender raw
  message : ∀ sender message, Agrees related fun filters => filters.filterMessage sender message

/-- From stages that differ in related filters alone, the action comes to one result and sends one
thing, and the stages it leaves differ in related filters alone. -/
def Uniform (related : Filters → Filters → Prop) (action : Dispatching α) : Prop :=
  ∀ filters other outbox, related filters other → ∃ result sent later otherLater,
    exec action { filters, outbox } = (result, { filters := later, outbox := sent }) ∧
    exec action { filters := other, outbox } =
      (result, { filters := otherLater, outbox := sent }) ∧
    related later otherLater

theorem Regular.couples {clock : Clock} (regular : Regular related clock) (uptake : Uptake) :
    Couples (fun stage other => related stage.filters other.filters ∧ stage.outbox = other.outbox)
      clock uptake uptake where
  deliver _ _ := by
    rintro ⟨filters, outbox⟩ ⟨other, _⟩ ⟨alike, rfl⟩
    exact ⟨rfl, alike, rfl⟩
  record _ := by
    rintro ⟨filters, outbox⟩ ⟨other, _⟩ ⟨alike, rfl⟩
    exact ⟨rfl, alike, rfl⟩
  text sender raw := by
    rintro ⟨filters, outbox⟩ ⟨other, _⟩ ⟨alike, rfl⟩
    obtain ⟨same, alikeAfter⟩ := regular.text sender raw filters other alike
    exact ⟨congrArg Except.ok same, alikeAfter, rfl⟩
  message sender message := by
    rintro ⟨filters, outbox⟩ ⟨other, _⟩ ⟨alike, rfl⟩
    obtain ⟨same, alikeAfter⟩ := regular.message sender message filters other alike
    exact ⟨congrArg Except.ok same, alikeAfter, rfl⟩

end Dispatching

namespace Session

open Dispatching

variable {related : Filters → Filters → Prop} (session : Session) (world : World)

theorem uniform_send {world : World} (regular : Regular related world.clock) (channel : Channel)
    (context : Context) : Uniform related (session.send world channel context) := by
  intro filters other outbox alike
  rcases run : exec (session.send world channel context) { filters, outbox } with
    ⟨result, later, sent⟩
  rcases otherRun : exec (session.send world channel context) { filters := other, outbox } with
    ⟨otherResult, otherLater, otherSent⟩
  have coupled := coupled_send (regular.couples world.uptake) session channel context
    { filters, outbox } { filters := other, outbox } ⟨alike, rfl⟩
  rw [world.uptake_world, run, otherRun] at coupled
  obtain ⟨rfl, alikeAfter, rfl⟩ := coupled
  exact ⟨result, sent, later, otherLater, rfl, rfl, alikeAfter⟩

/-! ## Submitted contexts -/

/-- How a message is sent depends on a session's filters only through the stage it starts from. -/
theorem send_withFilters (filters : Filters) (channel : Channel) (context : Context) :
    (session.withFilters filters).send world channel context =
      session.send world channel context := by
  cases channel <;> rfl

/-- With related filters, a context has one result and sends one thing. -/
theorem uniform_submit {world : World} {filters : Filters} (regular : Regular related world.clock)
    (together : related session.filters filters) (context : Context) :
    ∃ result outbox later otherLater,
      session.submit world context = { session := session.withFilters later, result, outbox } ∧
      (session.withFilters filters).submit world context =
        { session := session.withFilters otherLater, result, outbox } ∧
      related later otherLater := by
  obtain ⟨result, sent, later, otherLater, run, otherRun, togetherAfter⟩ :=
    session.uniform_send regular (session.channelOf context)
      { context with channel := some (session.channelOf context) } session.filters filters {}
      together
  have dispatched : session.dispatch world context =
      (result, { filters := later, outbox := sent }) := run
  have otherDispatched : (session.withFilters filters).dispatch world context =
      (result, { filters := otherLater, outbox := sent }) := by
    rw [← otherRun, dispatch, send_withFilters]
    rfl
  rw [submit, submit, dispatched, otherDispatched]
  exact ⟨_, sent, later, otherLater, rfl, rfl, togetherAfter⟩

end Session

end Switchboard
