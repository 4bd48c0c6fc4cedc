import Switchboard.Numeral

/-! What the clocks show while one message or event is handled. Reading them once and passing
the reading along makes every rule about time a plain function. -/
namespace Switchboard

structure Clock where
  /-- Nanoseconds on a clock that never goes back; ages of messages are measured on it. -/
  elapsed : Nat
  /-- Nanoseconds of civil time since 1970; mutes end by it. -/
  civil : Int
  /-- The local time of day, as templates show it. -/
  timeOfDay : String
deriving Repr, Inhabited

namespace Clock

def millisecond : Nat := 1000000

def second : Nat := 1000 * millisecond

def day : Nat := 86400 * second

/-- The span of the calendar, from the first day of the year -262143 to the last of 262142. -/
def firstInstant : Int := -96465292 * day

def lastInstant : Int := 95026237 * day - 1

/-- The instant `minutes` from now. A span counts at most 2 ^ 63 - 1 milliseconds, and its end
has to lie within the calendar. -/
def deadline? (clock : Clock) (minutes : Int) : Option Int :=
  let span := minutes * 60000
  let instant := clock.civil + span * millisecond
  if span.natAbs < Word.signedLimit ∧ firstInstant ≤ instant ∧ instant ≤ lastInstant then
    some instant
  else none

def advance (clock : Clock) (milliseconds : Nat) : Clock :=
  { clock with elapsed := clock.elapsed + milliseconds * millisecond }

end Clock

end Switchboard
