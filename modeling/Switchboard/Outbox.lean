import Switchboard.ChatLog
import Switchboard.Clock
import Switchboard.Delivery

/-! What leaves the switchboard, and what may come of writing it. Whoever takes deliveries or keeps
the chat log may fail to; a failure is warned of and goes no further. -/
namespace Switchboard

/-- Where deliveries and entries for the chat log are written, and where warnings go. -/
structure Sink (m : Type → Type) where
  writeLine : Delivery → m (Except String Unit)
  logMessage : LogEntry → m (Except StorageError Unit)
  warn : String → m Unit

namespace Sink

variable {m : Type → Type} [Monad m] (sink : Sink m)

/-- Tries to write something. Whoever wants it written does not hear of a failure. -/
def attempt {ε : Type} (write : m (Except ε Unit)) (warning : ε → String) : m Unit := do
  if let .error error ← write then sink.warn (warning error)

/-- Hands a message to one recipient. -/
def deliver (recipient : Account) (message : Message) : m Unit :=
  sink.attempt (sink.writeLine ⟨recipient, message⟩) fun fault =>
    "Failed to write delivery: " ++ fault

def log (entry : LogEntry) : m Unit :=
  sink.attempt (sink.logMessage entry) fun error => "Failed to write chat log: " ++ error.message

end Sink

/-- What surrounds the handling of one event: the time, and what comes of each write on the way. -/
structure World where
  clock : Clock
  /-- Whether the delivery of this number can be written, counted from the event's first. -/
  takesDelivery : Nat → Bool := fun _ => true
  /-- Whether the entry of this number can be written to the chat log. -/
  takesEntry : Nat → Bool := fun _ => true
  /-- Why the delivery of this number cannot be written, if it cannot. -/
  deliveryFault : Nat → String := fun _ => ""
  /-- Why the entry of this number cannot be written, if it cannot. -/
  entryFault : Nat → StorageError := fun _ => .io ""
deriving Inhabited

structure Outbox where
  /-- All deliveries that were to be written, in order. -/
  deliveries : List Delivery := []
  /-- Those that could be. -/
  written : List Delivery := []
  /-- All entries that were to be written to the chat log, in order. -/
  entries : List LogEntry := []
  /-- Those that could be. -/
  recorded : List LogEntry := []
  warnings : List String := []
deriving Inhabited

namespace Outbox

def writeLine (world : World) (delivery : Delivery) (outbox : Outbox) :
    Except String Unit × Outbox :=
  let number := outbox.deliveries.length
  let outbox := { outbox with deliveries := outbox.deliveries ++ [delivery] }
  if world.takesDelivery number then
    (.ok (), { outbox with written := outbox.written ++ [delivery] })
  else (.error (world.deliveryFault number), outbox)

def logMessage (world : World) (entry : LogEntry) (outbox : Outbox) :
    Except StorageError Unit × Outbox :=
  let number := outbox.entries.length
  let outbox := { outbox with entries := outbox.entries ++ [entry] }
  if world.takesEntry number then
    (.ok (), { outbox with recorded := outbox.recorded ++ [entry] })
  else (.error (world.entryFault number), outbox)

/-- The outbox as a sink, in which the world decides what comes of each write. -/
def sink (world : World) : Sink (StateM Outbox) where
  writeLine delivery := writeLine world delivery
  logMessage entry := logMessage world entry
  warn text := modify fun outbox => { outbox with warnings := outbox.warnings ++ [text] }

end Outbox

end Switchboard
