import Switchboard.Event
import Switchboard.Json.Reader
import Switchboard.Numeral

/-! Reading events from JSON. An event is an object that names its kind beside its fields, or an
array of its kind and its fields in order. Members that an event does not know are ignored; one
that it knows may not be repeated. -/
namespace Switchboard.Event

abbrev Fields := List (String × Json)

def readId? : Json → Option AccountId
  | .integer value => if 0 ≤ value then some value.toNat else none
  | _ => none

/-- A whole number of 64 bits with its sign. -/
def readMinutes? : Json → Option Int
  | .integer value => if Word.fitsSigned value then some value else none
  | _ => none

def readText? : Json → Option String
  | .string value => some value
  | _ => none

def readBool? : Json → Option Bool
  | .bool value => some value
  | _ => none

/-- A choice; as the member of an object it may also be an empty object. -/
def readChoice? : Json → Option String
  | .object [(name, .object [])] => some name
  | value => value.choice?

def readChannel? (value : Json) : Option Channel := (readChoice? value).bind Channel.ofName?

def readPermission? (value : Json) : Option Permission :=
  (readChoice? value).bind Permission.ofName?

def readFeature? (value : Json) : Option Feature := (readChoice? value).bind Feature.ofName?

def readPermissions? : Json → Option (List Permission)
  | .array items => items.mapM readPermission?
  | _ => none

namespace Fields

def required (fields : Fields) (name : String) (read : Json → Option α) : Option α :=
  (fields.lookup name).bind read

/-- A field that may be null or left out. -/
def optional (fields : Fields) (name : String) (read : Json → Option α) : Option (Option α) :=
  match fields.lookup name with
  | none | some .null => some none
  | some value => (read value).map some

/-- A field that has a value of its own when it is left out. -/
def orElse (fields : Fields) (name : String) (read : Json → Option α) (default : α) : Option α :=
  match fields.lookup name with
  | none => some default
  | some value => read value

/-- Whether no member of that name is repeated. -/
def once (fields : Fields) (name : String) : Bool :=
  (fields.filter fun field => field.1 == name).length ≤ 1

end Fields

def fieldNames? : String → Option (List String)
  | "connect" => some ["id", "name", "server", "permissions", "channel"]
  | "disconnect" => some ["id"]
  | "switch" => some ["id", "server"]
  | "chat" => some ["id", "channel", "message"]
  | "private" => some ["id", "target", "message"]
  | "alert" => some ["id", "message"]
  | "channel" => some ["id", "channel"]
  | "ignore" | "unignore" => some ["id", "target"]
  | "vanish" => some ["id", "vanished"]
  | "mute" => some ["id", "minutes"]
  | "spy" => some ["id", "social", "local"]
  | "module" => some ["name", "enabled"]
  | _ => none

def ofFields? (kind : String) (fields : Fields) : Option Event :=
  let id := fields.required "id" readId?
  let target := fields.required "target" readId?
  let message := fields.required "message" readText?
  let channel := fields.optional "channel" readChannel?
  match kind with
  | "connect" => do
    return connect (← id) (← fields.required "name" readText?)
      (← fields.optional "server" readText?)
      (← fields.orElse "permissions" readPermissions? []) (← channel)
  | "disconnect" => do return disconnect (← id)
  | "switch" => do return switch (← id) (← fields.required "server" readText?)
  | "chat" => do return chat (← id) (← channel) (← message)
  | "private" => do return direct (← id) (← target) (← message)
  | "alert" => do return alert (← id) (← message)
  | "channel" => do return prefer (← id) (← channel)
  | "ignore" => do return ignore (← id) (← target)
  | "unignore" => do return unignore (← id) (← target)
  | "vanish" => do return vanish (← id) (← fields.required "vanished" readBool?)
  | "mute" => do return mute (← id) (← fields.optional "minutes" readMinutes?)
  | "spy" => do
    return spy (← id) (← fields.optional "social" readBool?)
      (← fields.optional "local" readBool?)
  | "module" => do
    return toggle (← fields.required "name" readFeature?)
      (← fields.required "enabled" readBool?)
  | _ => none

def ofMembers? (members : Fields) : Option Event := do
  let kind ← members.required "event" readText?
  let names ← fieldNames? kind
  if ("event" :: names).all members.once then ofFields? kind members else none

/-- An event from an array. Fields at the end may be missing where an object may leave them out,
except for the channel of a preference. -/
def ofItems? : List Json → Option Event
  | .string kind :: items => do
    let names ← fieldNames? kind
    let complete := kind != "channel" || items.length == names.length
    if items.length ≤ names.length && complete then ofFields? kind (names.zip items) else none
  | _ => none

def ofJson? : Json → Option Event
  | .object members => ofMembers? members
  | .array items => ofItems? items
  | _ => none

def read? (text : String) : Option Event := (Json.read? text).bind ofJson?

end Switchboard.Event
