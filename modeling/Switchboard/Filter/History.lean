import Switchboard.Clock

/-! What two filters make of the history of a sender. One keeps a sender from repeating the last few
messages for some time; the other bounds how many messages go out within a minute, counted over a
window that slides with the clock. -/
namespace Switchboard

/-- A message that was let through, and when. -/
structure Utterance where
  time : Nat
  text : String
deriving DecidableEq, Repr, Inhabited

/-- When a message is a repetition. A capacity for which no memory can be had ends the program when
a sender is first heard, for it reserves the whole history at once; memory is not modelled. -/
structure DuplicationRule where
  /-- How many messages of a sender are remembered. -/
  capacity : Nat
  /-- The greatest age, in nanoseconds, at which a message is still remembered. -/
  expiry : Nat
  sparesExempt : Bool := true
deriving DecidableEq, Repr, Inhabited

namespace DuplicationRule

/-- What is left of a history once its expired front is gone. -/
def remembered (rule : DuplicationRule) (now : Nat) (history : List Utterance) : List Utterance :=
  history.dropWhile fun utterance => now - utterance.time > rule.expiry

/-- The history with one more message, the oldest dropped to make room for it. -/
def record (rule : DuplicationRule) (utterance : Utterance) (history : List Utterance) :
    List Utterance :=
  (if history.length ≥ rule.capacity then history.drop 1 else history) ++ [utterance]

/-- Whether the text may pass, and the sender's history afterwards. -/
def accept (rule : DuplicationRule) (now : Nat) (text : String) (history : List Utterance) :
    Bool × List Utterance :=
  let fresh := rule.remembered now history
  if fresh.any (fun utterance => utterance.text == text) then (false, fresh)
  else (true, rule.record ⟨now, text⟩ fresh)

end DuplicationRule

namespace RateLimit

def window : Nat := 60 * Clock.second

def current (now : Nat) (history : List Nat) : List Nat :=
  history.dropWhile fun time => now - time ≥ window

/-- Whether one more message may pass, and the times to remember afterwards. -/
def accept (limit now : Nat) (history : List Nat) : Bool × List Nat :=
  let recent := current now history
  if recent.length ≥ limit then (false, recent) else (true, recent ++ [now])

end RateLimit

end Switchboard
