import Mathlib.Tactic.Common
import Switchboard.Event.Reader
import Switchboard.Proofs.Framing
import Switchboard.Proofs.Rereading
import Switchboard.Proofs.Writing

/-! The stream of deliveries. As long as it can be written, each delivery is one line of it and the
object on that line tells everything about the delivery: who gets it and what it shows. So the bytes
of a stream say what was delivered. -/
namespace Switchboard

/-- What the stream tells of a delivery. -/
structure DeliveryRecord where
  recipient : AccountId
  name : String
  text : String
  segments : List Segment
deriving DecidableEq, Repr

namespace Segment

/-- A segment of the kind with that name. -/
def ofKind? (kind value : String) : Option Segment :=
  if kind = "text" then some (.text value)
  else if kind = "link" then some (.link value)
  else if kind = "emoji" then some (.emoji value)
  else none

def ofJson? (json : Json) : Option Segment := do
  let kind ← (json.member? "kind").bind Event.readText?
  let value ← (json.member? "value").bind Event.readText?
  ofKind? kind value

theorem ofJson?_toJson (segment : Segment) : ofJson? segment.toJson = some segment := by
  cases segment <;> rfl

theorem shape_toJson (segment : Segment) : segment.toJson.Whole ∧ segment.toJson.depth = 1 :=
  ⟨⟨trivial, trivial, trivial⟩, rfl⟩

end Segment

namespace DeliveryRecord

def ofJson? (json : Json) : Option DeliveryRecord := do
  let recipient ← (json.member? "to").bind Event.readId?
  let name ← (json.member? "name").bind Event.readText?
  let text ← (json.member? "text").bind Event.readText?
  let .array items ← json.member? "segments" | none
  return { recipient, name, text, segments := ← items.mapM Segment.ofJson? }

/-- The records of a stream, one to a line. -/
def ofStream? (bytes : ByteArray) : Option (List DeliveryRecord) := do
  let text ← String.fromUTF8? bytes
  let lines ← Text.lines? text
  lines.mapM fun line => (Json.read? line).bind ofJson?

end DeliveryRecord

namespace Message

theorem shape_segments (segments : List Segment) :
    Json.WholeItems (segments.map Segment.toJson) ∧
      Json.itemsDepth (segments.map Segment.toJson) ≤ 1 := by
  constructor
  · exact Json.wholeItems_of_forall
      (List.forall_mem_map.mpr fun segment _ => segment.shape_toJson.1)
  · exact Json.itemsDepth_le
      (List.forall_mem_map.mpr fun segment _ => Nat.le_of_eq segment.shape_toJson.2)

theorem mapM_ofJson? (segments : List Segment) :
    (segments.map Segment.toJson).mapM Segment.ofJson? = some segments := by
  have read : (segments.map Segment.toJson).mapM Segment.ofJson? = some (segments.map id) :=
    mapM_of_reads fun segment _ => segment.ofJson?_toJson
  rwa [List.map_id] at read

end Message

namespace Delivery

/-- What the stream has to tell of the delivery. -/
def record (delivery : Delivery) : DeliveryRecord where
  recipient := delivery.recipient.id
  name := delivery.recipient.name
  text := String.join (delivery.message.segments.map Segment.value)
  segments := delivery.message.segments

def stream (deliveries : List Delivery) : ByteArray :=
  (Text.ofLines (deliveries.map line)).toUTF8

/-- What comes of these deliveries, one after another. -/
def sent (world : World) (deliveries : List Delivery) : Outbox :=
  deliveries.foldl (fun outbox delivery =>
    outbox.deliver world delivery.message [delivery.recipient]) {}

theorem fromUTF8?_toUTF8 (text : String) : String.fromUTF8? text.toUTF8 = some text :=
  dif_pos text.isValidUTF8

variable {world : World} {delivery : Delivery} {deliveries : List Delivery}

theorem written_sent (takes : ∀ number, world.takesDelivery number = true)
    (deliveries : List Delivery) : (sent world deliveries).written = deliveries := by
  have onto (outbox : Outbox) : (deliveries.foldl (fun outbox delivery =>
      outbox.deliver world delivery.message [delivery.recipient]) outbox).written =
        outbox.written ++ deliveries := by
    induction deliveries generalizing outbox with
    | nil => exact (List.append_nil _).symm
    | cons delivery rest ih =>
      rw [List.foldl_cons, ih, Outbox.deliver_singleton, takes, if_pos rfl, List.append_assoc]
      rfl
  exact onto {}

theorem whole_toJson (inRange : delivery.recipient.id < Word.limit) : delivery.toJson.Whole :=
  ⟨Json.whole_ofNat inRange, trivial, trivial,
    (Message.shape_segments delivery.message.segments).1, trivial⟩

theorem depth_toJson (delivery : Delivery) : delivery.toJson.depth ≤ Json.maxDepth := by
  have := (Message.shape_segments delivery.message.segments).2
  simp only [toJson, Message.toJson, Json.ofNat, Json.depth, Json.membersDepth, Json.maxDepth]
  omega

theorem read?_line (inRange : delivery.recipient.id < Word.limit) :
    Json.read? delivery.line = some delivery.toJson :=
  Json.read?_write (whole_toJson inRange) (depth_toJson delivery)

theorem unbroken_line (inRange : delivery.recipient.id < Word.limit) :
    Text.Unbroken delivery.line := by
  intro member
  rw [line, Json.write, String.toList_ofList] at member
  exact absurd (Json.visible_writeChars _ (whole_toJson inRange) _ member) (by decide)

theorem lines?_stream
    (inRange : ∀ delivery ∈ deliveries, delivery.recipient.id < Word.limit) :
    Text.lines? (Text.ofLines (deliveries.map line)) = some (deliveries.map line) := by
  rw [Text.lines?_ofLines, Text.flatMap_linePieces_eq_self_iff.mpr]
  intro text member
  obtain ⟨delivery, sent, rfl⟩ := List.mem_map.mp member
  exact unbroken_line (inRange delivery sent)

theorem ofJson?_toJson (delivery : Delivery) :
    DeliveryRecord.ofJson? delivery.toJson = some delivery.record := by
  have id : (delivery.toJson.member? "to").bind Event.readId? = some delivery.recipient.id := rfl
  have name : (delivery.toJson.member? "name").bind Event.readText? =
      some delivery.recipient.name := rfl
  have text : (delivery.toJson.member? "text").bind Event.readText? =
      some delivery.message.plainText := rfl
  have segments : delivery.toJson.member? "segments" =
      some (.array (delivery.message.segments.map Segment.toJson)) := rfl
  simp only [DeliveryRecord.ofJson?, id, name, text, segments, Option.bind_eq_bind,
    Option.bind_some, Message.mapM_ofJson?]
  rfl

theorem ofStream?_stream
    (inRange : ∀ delivery ∈ deliveries, delivery.recipient.id < Word.limit) :
    DeliveryRecord.ofStream? (stream deliveries) = some (deliveries.map record) := by
  have decoded :
      (deliveries.map line).mapM (fun line => (Json.read? line).bind DeliveryRecord.ofJson?) =
        some (deliveries.map record) := by
    apply mapM_of_reads
    intro delivery member
    rw [read?_line (inRange delivery member), Option.bind_some, ofJson?_toJson]
  simp only [DeliveryRecord.ofStream?, stream, fromUTF8?_toUTF8, lines?_stream inRange, decoded,
    Option.bind_eq_bind, Option.bind_some]

/-- A stream that can be written is one object on a line for each delivery, in order, and nothing
else. Reading it gives back who got each delivery and what it showed, so streams of deliveries that
differ in this differ in their bytes. -/
theorem stream_decodes (takes : ∀ number, world.takesDelivery number = true)
    (inRange : ∀ delivery ∈ deliveries, delivery.recipient.id < Word.limit) :
    let bytes := stream (sent world deliveries).written
    (∃ text lines, String.fromUTF8? bytes = some text ∧ Text.lines? text = some lines ∧
      lines.mapM Json.read? = some (deliveries.map toJson)) ∧
    DeliveryRecord.ofStream? bytes = some (deliveries.map record) ∧
    ∀ others : List Delivery, (∀ delivery ∈ others, delivery.recipient.id < Word.limit) →
      stream (sent world others).written = bytes → others.map record = deliveries.map record := by
  intro bytes
  have written : bytes = stream deliveries := by simp only [bytes, written_sent takes]
  rw [written]
  refine ⟨⟨_, _, fromUTF8?_toUTF8 _, lines?_stream inRange, ?_⟩, ofStream?_stream inRange, ?_⟩
  · apply mapM_of_reads
    intro delivery member
    exact read?_line (inRange delivery member)
  · intro others othersInRange same
    rw [written_sent takes] at same
    have decoded := ofStream?_stream othersInRange
    rw [same, ofStream?_stream inRange] at decoded
    exact (Option.some.inj decoded).symm

/-- Quotes and line feeds come through, and so does the greatest id. -/
theorem stream_decodes_quoted :
    let world : World := { clock := default }
    let said : List Delivery := [
      ⟨{ id := 18446744073709551615, name := "\"o\\" }, ⟨[.text "a\nb ", .emoji "🙂"]⟩⟩,
      ⟨{ id := 0, name := "" }, ⟨[]⟩⟩]
    DeliveryRecord.ofStream? (stream (sent world said).written) = some [
      ⟨18446744073709551615, "\"o\\", "a\nb 🙂", [.text "a\nb ", .emoji "🙂"]⟩,
      ⟨0, "", "", []⟩] := by
  intro world said
  have takes : ∀ number, world.takesDelivery number = true := fun _ => rfl
  have inRange : ∀ delivery ∈ said, delivery.recipient.id < Word.limit := by decide
  exact (stream_decodes takes inRange).2.1

end Delivery

end Switchboard
