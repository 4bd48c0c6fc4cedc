import Switchboard.Account
import Switchboard.Json.Writer
import Switchboard.Message

/-! One message for one account, and the line of JSON that tells it to the outside. -/
namespace Switchboard

structure Delivery where
  recipient : Account
  message : Message
deriving DecidableEq, Repr, Inhabited

namespace Segment

def toJson (segment : Segment) : Json :=
  .object [("kind", .string segment.kind), ("value", .string segment.value)]

end Segment

namespace Message

def toJson (message : Message) : Json := .array (message.segments.map Segment.toJson)

end Message

namespace Delivery

def toJson (delivery : Delivery) : Json :=
  .object [
    ("to", .ofNat delivery.recipient.id),
    ("name", .string delivery.recipient.name),
    ("text", .string delivery.message.plainText),
    ("segments", delivery.message.toJson)]

def line (delivery : Delivery) : String := delivery.toJson.write

end Delivery

end Switchboard
