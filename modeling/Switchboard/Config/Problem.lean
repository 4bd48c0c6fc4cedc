import Switchboard.Config
import Switchboard.Regex
import Switchboard.Template

/-! What can be wrong with settings that could be read. -/
namespace Switchboard

inductive Problem where
  | mutedDefaultChannel (channel : Channel)
  | noPastMessages
  | noExpiry
  | noMessages
  | badPattern (index : Nat) (pattern : String)
  | badShortcode (name : String)
  | smallGroup (index : Nat)
  | sharedServer (server : String) (first second : Nat)
  | emptyServerList
  | noPlaceForMessage (format : Format)
deriving DecidableEq, Repr

namespace Problem

def message : Problem → String
  | mutedDefaultChannel channel =>
    "default-channel '" ++ channel.name ++ "' cannot carry chat messages"
  | noPastMessages => "modules.anti-duplication.check-past-messages must be non-zero"
  | noExpiry => "modules.anti-duplication.expire-after must be non-zero"
  | noMessages => "modules.anti-spam.messages-per-minute must be non-zero"
  | badPattern index pattern =>
    "modules.filter.patterns[" ++ toString index ++ "] is not a valid regex: '" ++ pattern ++ "'"
  | badShortcode name => "modules.emoji.custom key '" ++ name ++ "' is not a valid shortcode"
  | smallGroup index =>
    "modules.multicast-chat.server-groups[" ++ toString index ++ "] needs at least two servers"
  | sharedServer server first second =>
    "server '" ++ server ++ "' is in multicast groups " ++ toString first ++ " and " ++
      toString second
  | emptyServerList => "modules.global-chat.server-list is enabled but empty"
  | noPlaceForMessage format => "formats." ++ format.key ++ " must contain %message"

end Problem

namespace Config

def need (holds : Bool) (problem : Problem) : List Problem := if holds then [] else [problem]

def carriesChat : Channel → Bool
  | .direct | .join | .leave | .switch => false
  | .globalChat | .localChat | .multicastChat | .staffChat | .alert => true

def duplicationProblems (config : Config) : List Problem :=
  if config.enabled .antiDuplication then
    need (config.pastMessages != 0) .noPastMessages ++
      need (config.expireAfter != 0) .noExpiry
  else []

def patternProblems (config : Config) : List Problem :=
  (config.patterns.mapIdx fun index pattern =>
    need (Regex.read? pattern).isSome (.badPattern index pattern)).flatten

/-- A name can stand between colons in a text. -/
def isShortcodeName (name : String) : Bool :=
  !name.isEmpty && name.toList.all fun c => c != ':' && !Text.isBlank c

def shortcodeProblems (config : Config) : List Problem :=
  config.shortcodes.flatMap fun entry =>
    need (isShortcodeName entry.1) (.badShortcode entry.1)

/-- The group in which each server was seen last. -/
abbrev Seen := List (String × Nat)

/-- Goes through the servers of one group. A server last seen in another group is shared. -/
def scanGroup (index : Nat) : List String → Seen → List Problem × Seen
  | [], seen => ([], seen)
  | server :: rest, seen =>
    let here :=
      match seen.lookup server with
      | some first => need (first == index) (.sharedServer server first index)
      | none => []
    let (problems, seen) := scanGroup index rest ((server, index) :: seen)
    (here ++ problems, seen)

def scanGroups (index : Nat) : ServerGroups → Seen → List Problem
  | [], _ => []
  | group :: rest, seen =>
    let (problems, seen) := scanGroup index group seen
    need (group.length ≥ 2) (.smallGroup index) ++ problems ++
      scanGroups (index + 1) rest seen

def groupProblems (config : Config) : List Problem :=
  if config.enabled .multicastChat then scanGroups 0 config.serverGroups [] else []

def templateProblems (config : Config) : List Problem :=
  Format.all.flatMap fun format =>
    need (!format.carriesMessage || Template.carriesMessage (config.templates format))
      (.noPlaceForMessage format)

def problems (config : Config) : List Problem :=
  need (carriesChat config.defaultChannel) (.mutedDefaultChannel config.defaultChannel) ++
  config.duplicationProblems ++
  need (!config.enabled .antiSpam || config.messagesPerMinute != 0) .noMessages ++
  config.patternProblems ++
  config.shortcodeProblems ++
  config.groupProblems ++
  need (!config.enabled .globalChat || config.globalServers != some []) .emptyServerList ++
  config.templateProblems

end Config

/-- Why there are no settings to start with. -/
inductive ConfigError where
  | unreadable (path reason : String)
  | malformed
  | invalid (problems : List Problem)
deriving Repr

namespace ConfigError

def message : ConfigError → String
  | unreadable path reason => "Failed to read config file '" ++ path ++ "': " ++ reason
  | malformed => "Failed to parse config"
  | invalid problems =>
    "Config validation failed: " ++ "\n".intercalate (problems.map Problem.message)

def missing (path : String) : ConfigError :=
  unreadable path "No such file or directory (os error 2)"

end ConfigError

def Config.validate (config : Config) : Except ConfigError Unit :=
  if config.problems.isEmpty then .ok () else .error (.invalid config.problems)

end Switchboard
