import Switchboard.Text.Blank

/-! The features of a switchboard that can be turned on and off while it runs. -/
namespace Switchboard

inductive Feature where
  | antiDuplication
  | antiSpam
  | filter
  | muting
  | emoji
  | spy
  | multicastChat
  | globalChat
  | ignoring
  | chatLogging
deriving DecidableEq, Repr, Inhabited

namespace Feature

def all : List Feature := [
  antiDuplication, antiSpam, filter, muting, emoji, spy, multicastChat, globalChat, ignoring,
  chatLogging]

/-- The name in event streams, under which the feature's filters are also registered. -/
def name : Feature → String
  | antiDuplication => "AntiDuplication"
  | antiSpam => "AntiSpam"
  | filter => "Filter"
  | muting => "Muting"
  | emoji => "Emoji"
  | spy => "Spy"
  | multicastChat => "MulticastChat"
  | globalChat => "GlobalChat"
  | ignoring => "Ignoring"
  | chatLogging => "ChatLogging"

/-- The name of the feature's section in the settings. -/
def key : Feature → String
  | antiDuplication => "anti-duplication"
  | antiSpam => "anti-spam"
  | filter => "filter"
  | muting => "muting"
  | emoji => "emoji"
  | spy => "spy"
  | multicastChat => "multicast-chat"
  | globalChat => "global-chat"
  | ignoring => "ignoring"
  | chatLogging => "chat-logging"

/-- The feature written exactly so, as event streams write it. -/
def ofName? (name : String) : Option Feature := all.find? (·.name == name)

/-- The feature a person means: case and blanks around the name do not matter. -/
def read? (text : String) : Option Feature :=
  all.find? fun feature => Text.sameIgnoringCase feature.name (Text.trim text)

def unknownMessage (text : String) : String := "Unknown module: " ++ text

def initiallyOn : Feature → Bool
  | filter | multicastChat => false
  | _ => true

theorem mem_all (feature : Feature) : feature ∈ all := by
  cases feature <;> decide

end Feature

end Switchboard
