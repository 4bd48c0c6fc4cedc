import Switchboard.Text.Blank

/-! The closed set of channels a message can travel on, the names they go by, and the three
rules that tell them apart. -/
namespace Switchboard

inductive Channel where
  | globalChat
  | localChat
  | multicastChat
  | staffChat
  | direct
  | join
  | leave
  | switch
  | alert
deriving DecidableEq, Repr, Inhabited

namespace Channel

def all : List Channel :=
  [globalChat, localChat, multicastChat, staffChat, direct, join, leave, switch, alert]

def name : Channel → String
  | globalChat => "global"
  | localChat => "local"
  | multicastChat => "multicast"
  | staffChat => "staff"
  | direct => "private"
  | join => "join"
  | leave => "leave"
  | switch => "switch"
  | alert => "alert"

def label : Channel → String
  | globalChat => "GLOBAL"
  | localChat => "LOCAL"
  | multicastChat => "MULTICAST"
  | staffChat => "STAFF"
  | direct => "PRIVATE"
  | join => "JOIN"
  | leave => "LEAVE"
  | switch => "SWITCH"
  | alert => "ALERT"

/-- The channel written exactly so, as event streams write it. -/
def ofName? (name : String) : Option Channel := all.find? (·.name == name)

/-- The channel a person means: case and blanks around the name do not matter. -/
def read? (text : String) : Option Channel :=
  all.find? fun channel => Text.sameIgnoringCase channel.name (Text.trim text)

def unknownMessage (text : String) : String := "Unknown channel type: " ++ text

def ignorable : Channel → Bool
  | globalChat | localChat | multicastChat | direct => true
  | staffChat | join | leave | switch | alert => false

def loggable : Channel → Bool
  | globalChat | localChat | staffChat | direct | alert => true
  | multicastChat | join | leave | switch => false

/-- Whether a vanished sender is hidden from accounts that may not see the vanished. -/
def respectsVanish : Channel → Bool
  | join | leave | switch => true
  | globalChat | localChat | multicastChat | staffChat | direct | alert => false

theorem mem_all (channel : Channel) : channel ∈ all := by
  cases channel <;> decide

end Channel

end Switchboard
