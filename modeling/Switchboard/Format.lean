/-! The templates of the kinds of delivery, and the notices shown to a sender whose message goes
nowhere. -/
namespace Switchboard

inductive Format where
  | globalChat
  | localChat
  | multicastChat
  | staffChat
  | alert
  | messageSender
  | messageTarget
  | socialSpy
  | localSpy
  | joinMessage
  | leaveMessage
  | serverSwitch
deriving DecidableEq, Repr, Inhabited

namespace Format

def all : List Format := [
  globalChat, localChat, multicastChat, staffChat, alert, messageSender, messageTarget,
  socialSpy, localSpy, joinMessage, leaveMessage, serverSwitch]

def key : Format → String
  | globalChat => "global-chat"
  | localChat => "local-chat"
  | multicastChat => "multicast-chat"
  | staffChat => "staff-chat"
  | alert => "alert"
  | messageSender => "message-sender"
  | messageTarget => "message-target"
  | socialSpy => "social-spy"
  | localSpy => "local-spy"
  | joinMessage => "join-message"
  | leaveMessage => "leave-message"
  | serverSwitch => "server-switch"

/-- Whether deliveries of this kind show what somebody wrote, which they can do only through a
template with a place for it. -/
def carriesMessage : Format → Bool
  | joinMessage | leaveMessage | serverSwitch => false
  | _ => true

def defaultTemplate : Format → String
  | globalChat => "[Global] %user: %message"
  | localChat => "[%server] %user: %message"
  | multicastChat => "[%server] %user: %message"
  | staffChat => "[Staff] %user: %message"
  | alert => "[Alert] %message"
  | messageSender => "[me -> %target] %message"
  | messageTarget => "[%user -> me] %message"
  | socialSpy => "[Spy] %user -> %target: %message"
  | localSpy => "[Spy %server] %user: %message"
  | joinMessage => "%user has joined the network"
  | leaveMessage => "%user has left the network"
  | serverSwitch => "%user has moved to %server"

theorem mem_all (format : Format) : format ∈ all := by
  cases format <;> decide

end Format

abbrev Templates := Format → String

structure Notices where
  antiDuplication : String := "Please do not repeat the same message."
  antiSpam : String := "You are sending messages too fast."
  blockedByFilter : String := "Your message contains blocked words."
  muted : String := "You are muted."
  hasIgnored : String := "That player is ignoring you."
  messengerDisabled : String := "That player does not accept private messages."
deriving DecidableEq, Repr, Inhabited

end Switchboard
