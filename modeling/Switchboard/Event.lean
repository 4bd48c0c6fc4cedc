import Switchboard.Account
import Switchboard.Feature
import Switchboard.Json

/-! The events that drive a switchboard. -/
namespace Switchboard

inductive Event where
  | connect (id : AccountId) (name : String) (server : Option String)
    (permissions : List Permission) (channel : Option Channel)
  | disconnect (id : AccountId)
  | switch (id : AccountId) (server : String)
  | chat (id : AccountId) (channel : Option Channel) (message : String)
  | direct (id target : AccountId) (message : String)
  | alert (id : AccountId) (message : String)
  | prefer (id : AccountId) (channel : Option Channel)
  | ignore (id target : AccountId)
  | unignore (id target : AccountId)
  | vanish (id : AccountId) (vanished : Bool)
  /-- Mutes for so many minutes, or lifts a mute. -/
  | mute (id : AccountId) (minutes : Option Int)
  /-- Turns spying on or off, where it says so. -/
  | spy (id : AccountId) (social nearby : Option Bool)
  | toggle (feature : Feature) (enabled : Bool)
deriving DecidableEq, Repr

namespace Event

def kind : Event → String
  | connect .. => "connect"
  | disconnect .. => "disconnect"
  | switch .. => "switch"
  | chat .. => "chat"
  | direct .. => "private"
  | alert .. => "alert"
  | prefer .. => "channel"
  | ignore .. => "ignore"
  | unignore .. => "unignore"
  | vanish .. => "vanish"
  | mute .. => "mute"
  | spy .. => "spy"
  | toggle .. => "module"

def channelJson (channel : Option Channel) : Json :=
  .ofOption (fun channel => .string channel.name) channel

def fields : Event → List (String × Json)
  | connect id name server permissions channel =>
    [("id", .ofNat id), ("name", .string name), ("server", .ofOption .string server),
      ("permissions", .array (permissions.map fun permission => .string permission.name)),
      ("channel", channelJson channel)]
  | disconnect id => [("id", .ofNat id)]
  | switch id server => [("id", .ofNat id), ("server", .string server)]
  | chat id channel message =>
    [("id", .ofNat id), ("channel", channelJson channel), ("message", .string message)]
  | direct id target message =>
    [("id", .ofNat id), ("target", .ofNat target), ("message", .string message)]
  | alert id message => [("id", .ofNat id), ("message", .string message)]
  | prefer id channel => [("id", .ofNat id), ("channel", channelJson channel)]
  | ignore id target => [("id", .ofNat id), ("target", .ofNat target)]
  | unignore id target => [("id", .ofNat id), ("target", .ofNat target)]
  | vanish id vanished => [("id", .ofNat id), ("vanished", .bool vanished)]
  | mute id minutes => [("id", .ofNat id), ("minutes", .ofOption .integer minutes)]
  | spy id social nearby =>
    [("id", .ofNat id), ("social", .ofOption .bool social), ("local", .ofOption .bool nearby)]
  | toggle feature enabled => [("name", .string feature.name), ("enabled", .bool enabled)]

def toJson (event : Event) : Json := .object (("event", .string event.kind) :: event.fields)

end Event

end Switchboard
