import Mathlib.Tactic.Common
import Switchboard.Proofs.Course

/-! The outcome of a send tells exactly what left the switchboard. The count of a delivery is
taken from up to three audiences, two of them after copies have gone out already. -/
namespace Switchboard

/-- The outbox holds what the result of a send says, `sender` being whom its context names. -/
def Outbox.Accounts (outbox : Outbox) (sender : Option Account) :
    Except ContextError Outcome → Prop
  | .error _ => outbox.deliveries = [] ∧ outbox.entries = []
  | .ok (.blocked reason) | .ok (.refused reason) =>
    (∃ account, sender = some account ∧ outbox.deliveries = [⟨account, reason⟩]) ∧
      outbox.entries = []
  | .ok (.delivered copies) => outbox.deliveries.length = copies ∧ outbox.entries.length ≤ 1

namespace Session

theorem course_accounted {session : Session} {world : World} {context : Context}
    {channel : Channel} {result : Except ContextError Outcome} {stage : Stage}
    (course : session.Course world context channel result stage) :
    stage.outbox.Accounts context.sender result := by
  cases course with
  | unsound | announcedTwice | processedTwice => exact ⟨rfl, rfl⟩
  | refused _ speaks | blocked _ speaks => exact ⟨⟨_, speaks, by simp⟩, by simp⟩
  | announced => simp [Outbox.Accounts]
  | broadcast => exact ⟨by simp, session.entries_note_length _ _ _ _ (by simp)⟩
  | nearby =>
    refine ⟨by simp [Nat.add_assoc], ?_⟩
    simp only [Outbox.entries_deliver]
    exact session.entries_note_length _ _ _ _ (by simp)
  | direct => exact ⟨by simp; omega, session.entries_note_length _ _ _ _ (by simp)⟩

/-- Whatever the context, the filters and the features: an error sends and logs nothing, a block
or a refusal sends its reason to the sender alone, and a delivery sends as many copies as it
counts and makes at most one entry in the chat log. -/
theorem dispatch_accounted (session : Session) (world : World) (context : Context) :
    (session.dispatch world context).2.outbox.Accounts context.sender
      (session.dispatch world context).1 := by
  have accounted := course_accounted (session.dispatch_course world context)
  exact accounted

end Session

end Switchboard
