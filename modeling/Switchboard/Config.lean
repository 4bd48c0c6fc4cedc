import Switchboard.Audience
import Switchboard.Feature
import Switchboard.Format

/-! The settings of a switchboard. Every setting has a default. -/
namespace Switchboard

structure Config where
  /-- The channel of messages for which neither the message nor its sender names one. -/
  defaultChannel : Channel := .localChat
  enabled : Feature → Bool := Feature.initiallyOn
  /-- How many messages of a sender a new one is compared with. -/
  pastMessages : Nat := 3
  /-- For how many seconds a message is remembered. -/
  expireAfter : Nat := 60
  messagesPerMinute : Nat := 20
  patterns : List String := []
  /-- Shortcodes beside the standard ones, with their glyphs. -/
  shortcodes : List (String × String) := []
  serverGroups : ServerGroups := []
  /-- Whether global chat is seen on the listed servers only. -/
  listsServers : Bool := false
  serverList : List String := []
  filtersPrivate : Bool := true
  logsPrivate : Bool := true
  templates : Templates := Format.defaultTemplate
  notices : Notices := {}
  /-- The file of the chat log; without one, entries go to the program's own log. -/
  logFile : Option String := none
deriving Inhabited

namespace Config

/-- The servers on which global chat is seen, if it is restricted. -/
def globalServers (config : Config) : Option (List String) :=
  if config.listsServers then some config.serverList else none

def withEnabled (config : Config) (enabled : Feature → Bool) : Config := { config with enabled }

def pathVariable : String := "CHAT_RELAY_CONFIG"

def logVariable : String := "CHAT_RELAY_LOG_FILE"

def channelVariable : String := "CHAT_RELAY_DEFAULT_CHANNEL"

/-- The settings as the environment changes them. An empty log file means none, and a channel
that does not exist is passed over. -/
def override (environment : String → Option String) (config : Config) : Config :=
  let config :=
    match environment logVariable with
    | some file => { config with logFile := if file.isEmpty then none else some file }
    | none => config
  match (environment channelVariable).bind Channel.read? with
  | some channel => { config with defaultChannel := channel }
  | none => config

/-- The file of the settings: the one a person asks for, or that of the environment. -/
def path (asked : Option String) (environment : String → Option String) : String :=
  (asked <|> environment pathVariable).getD "chat-relay.conf"

end Config

end Switchboard
