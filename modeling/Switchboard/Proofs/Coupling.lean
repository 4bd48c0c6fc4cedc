import Mathlib.Tactic.Common
import Switchboard.Proofs.Dispatching

/-! Two sends side by side, in worlds whose clocks show the same. Sending touches its stage only by
delivering, by recording and by running the two chains of filters: stages that belong together stay
together in every send if these four keep them together. -/
namespace Switchboard

namespace Dispatching

variable {α β : Type} {together : Stage → Stage → Prop}

/-- Begun on stages that belong together, the actions come to one result, and they leave stages that
belong together. -/
def Coupled (together : Stage → Stage → Prop) (action other : Dispatching α) : Prop :=
  ∀ stage otherStage, together stage otherStage →
    (exec action stage).1 = (exec other otherStage).1 ∧
      together (exec action stage).2 (exec other otherStage).2

namespace Coupled

theorem pure (value : α) : Coupled together (pure value) (pure value) :=
  fun _ _ held => ⟨rfl, held⟩

theorem check (result : Except ContextError α) : Coupled together (check result) (check result) :=
  fun _ _ held => ⟨rfl, held⟩

theorem bind {action other : Dispatching α} {next otherNext : α → Dispatching β}
    (first : Coupled together action other)
    (onward : ∀ value, Coupled together (next value) (otherNext value)) :
    Coupled together (action >>= next) (other >>= otherNext) := by
  intro stage otherStage held
  obtain ⟨same, heldAfter⟩ := first stage otherStage held
  rw [exec_bind, exec_bind]
  rcases run : exec action stage with ⟨result, later⟩
  rcases otherRun : exec other otherStage with ⟨otherResult, otherLater⟩
  rw [run, otherRun] at same heldAfter
  cases same
  cases result with
  | error error => exact ⟨rfl, heldAfter⟩
  | ok value => exact onward value later otherLater heldAfter

/-- A choice between two ways of getting a value, with one way of going on. -/
theorem choose {choice : Prop} [Decidable choice] {first second other otherSecond : Dispatching α}
    {next otherNext : α → Dispatching β} (ifSo : Coupled together first other)
    (ifNot : Coupled together second otherSecond)
    (onward : ∀ value, Coupled together (next value) (otherNext value)) :
    Coupled together (if choice then first >>= next else second >>= next)
      (if choice then other >>= otherNext else otherSecond >>= otherNext) := by
  split
  · exact ifSo.bind onward
  · exact ifNot.bind onward

theorem forM {ι : Type} {action other : ι → Dispatching Unit}
    (each : ∀ item, Coupled together (action item) (other item)) (items : List ι) :
    Coupled together (items.forM action) (items.forM other) := by
  induction items with
  | nil => exact .pure _
  | cons item rest ih => exact .bind (each item) fun _ => ih

end Coupled

/-- What a send does to its stage keeps stages together, the writes of `uptake` being possible on
one side and those of `other` on the other. -/
structure Couples (together : Stage → Stage → Prop) (clock : Clock) (uptake other : Uptake) :
    Prop where
  deliver : ∀ recipient message,
    Coupled together (Session.deliver (uptake.world clock) recipient message)
      (Session.deliver (other.world clock) recipient message)
  record : ∀ entry,
    Coupled together (write ((Outbox.sink (uptake.world clock)).log entry))
      (write ((Outbox.sink (other.world clock)).log entry))
  text : ∀ sender raw,
    Coupled together (filter fun filters => filters.filterText clock sender raw)
      (filter fun filters => filters.filterText clock sender raw)
  message : ∀ sender message,
    Coupled together (filter fun filters => filters.filterMessage sender message)
      (filter fun filters => filters.filterMessage sender message)

end Dispatching

namespace Session

open Dispatching

variable {together : Stage → Stage → Prop} {clock : Clock} {uptake other : Uptake}
  (couples : Couples together clock uptake other) (session : Session)

include couples

theorem coupled_fanOut (message : Message) (audience : Audience) :
    Coupled together (session.fanOut (uptake.world clock) message audience)
      (session.fanOut (other.world clock) message audience) :=
  .bind (.forM (fun recipient => couples.deliver recipient message) _) fun _ => .pure _

theorem coupled_log (label : String) (context : Context) :
    Coupled together (session.log (uptake.world clock) label context)
      (session.log (other.world clock) label context) := by
  unfold log
  split
  · exact couples.record _
  · exact .pure _

theorem coupled_logOn (channel : Channel) (context : Context) :
    Coupled together (session.logOn (uptake.world clock) channel context)
      (session.logOn (other.world clock) channel context) := by
  unfold logOn
  split
  · exact coupled_log couples session _ context
  · exact .pure _

theorem coupled_answer (sender : Account) (reason : Message) (outcome : Outcome) :
    Coupled together (do deliver (uptake.world clock) sender reason; return outcome)
      (do deliver (other.world clock) sender reason; return outcome) :=
  .bind (couples.deliver _ _) fun _ => .pure _

theorem coupled_process (filtering : Bool) (context : Context) :
    Coupled together (process (uptake.world clock) filtering context)
      (process (other.world clock) filtering context) := by
  unfold process
  refine .bind (.check _) fun sender => .bind (.check _) fun raw => ?_
  split
  · refine .bind (couples.text sender raw) fun passed => ?_
    cases passed with
    | error blocked => exact .pure _
    | ok text =>
      refine .bind (.check _) fun kept => .bind (couples.message sender _) fun shown => ?_
      cases shown with
      | error blocked => exact .pure _
      | ok message => exact .bind (.check _) fun ready => .pure _
  · exact .bind (.check _) fun ready => .pure _

theorem coupled_prepare (channel : Channel) (filtering : Bool) (context : Context) :
    Coupled together (prepare (uptake.world clock) channel filtering context)
      (prepare (other.world clock) channel filtering context) := by
  unfold prepare
  refine .bind (.check _) fun _ =>
    .bind (coupled_process couples filtering context) fun processed => ?_
  cases processed with
  | error blocked =>
    exact .bind (.check _) fun sender => .bind (coupled_answer couples sender _ _) fun _ => .pure _
  | ok ready => exact .bind (.check _) fun _ => .pure _

theorem coupled_sendBroadcast (channel : Channel) (format : Format) (filtering : Bool)
    (context : Context) :
    Coupled together (session.sendBroadcast (uptake.world clock) channel format filtering context)
      (session.sendBroadcast (other.world clock) channel format filtering context) := by
  unfold sendBroadcast
  refine .bind (coupled_prepare couples channel filtering context) fun prepared => ?_
  cases prepared with
  | error outcome => exact .pure _
  | ok ready =>
    refine .bind (.check _) fun _ => .bind (coupled_fanOut couples session _ _) fun copies => ?_
    exact .bind (coupled_logOn couples session channel ready) fun _ => .pure _

theorem coupled_sendOn (source : String) (context : Context) :
    Coupled together (session.sendOn (uptake.world clock) source context)
      (session.sendOn (other.world clock) source context) := by
  unfold sendOn
  refine .bind (.check _) fun _ => .bind (.check _) fun _ =>
    .bind (coupled_fanOut couples session _ _) fun copies => ?_
  exact .bind (coupled_logOn couples session _ _) fun _ => .pure _

theorem coupled_sendLocal (context : Context) :
    Coupled together (session.sendLocal (uptake.world clock) context)
      (session.sendLocal (other.world clock) context) := by
  unfold sendLocal
  refine .bind (coupled_prepare couples .localChat true context) fun prepared => ?_
  cases prepared with
  | error outcome => exact .pure _
  | ok ready =>
    refine .bind (.check _) fun sender => .bind (.check _) fun server => .bind (.check _) fun _ =>
      .bind (coupled_fanOut couples session _ _) fun near =>
      .bind (coupled_logOn couples session _ ready) fun _ => ?_
    refine .choose (coupled_sendOn couples session server ready) (.pure 0) fun far => ?_
    exact .choose (coupled_fanOut couples session _ _) (.pure 0) fun spying => .pure _

theorem coupled_sendPrivate (context : Context) :
    Coupled together (session.sendPrivate (uptake.world clock) context)
      (session.sendPrivate (other.world clock) context) := by
  unfold sendPrivate
  refine .bind (.check _) fun _ => .bind (.check _) fun sender => .bind (.check _) fun target => ?_
  dsimp only
  split
  · exact coupled_answer couples sender _ _
  split
  · exact coupled_answer couples sender _ _
  refine .bind (coupled_process couples _ context) fun processed => ?_
  cases processed with
  | error blocked => exact coupled_answer couples sender _ _
  | ok ready =>
    refine .bind (.check _) fun _ => .bind (couples.deliver _ _) fun _ => .bind (.check _) fun _ =>
      .bind (coupled_fanOut couples session _ _) fun copies => ?_
    -- The copies for spies come before the log, and either may be left out.
    refine .choose (coupled_fanOut couples session _ _) (.pure 0) fun spying => ?_
    split
    · exact .bind (coupled_log couples session _ ready) fun _ => .pure _
    · exact .pure _

theorem coupled_sendPresence (channel : Channel) (format : Format) (context : Context) :
    Coupled together (session.sendPresence (uptake.world clock) channel format context)
      (session.sendPresence (other.world clock) channel format context) := by
  unfold sendPresence
  refine .bind (.check _) fun _ => .bind (.check _) fun ready => .bind (.check _) fun _ =>
    .bind (.check _) fun sender => .bind (coupled_fanOut couples session _ _) fun copies => ?_
  exact .bind (coupled_logOn couples session channel ready) fun _ => .pure _

theorem coupled_send (channel : Channel) (context : Context) :
    Coupled together (session.send (uptake.world clock) channel context)
      (session.send (other.world clock) channel context) := by
  cases channel with
  | globalChat | multicastChat | staffChat | alert =>
    exact coupled_sendBroadcast couples session _ _ _ context
  | localChat => exact coupled_sendLocal couples session context
  | direct => exact coupled_sendPrivate couples session context
  | join | leave | switch => exact coupled_sendPresence couples session _ _ context

end Session

end Switchboard
