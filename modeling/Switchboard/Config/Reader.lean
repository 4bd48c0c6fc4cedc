import Switchboard.Config.Problem
import Switchboard.Hocon
import Switchboard.Setting

/-! Reading the settings of a switchboard. What is not set has its default, what is not known is
ignored, and what cannot be read is an error. -/
namespace Switchboard.Config

def readEnabled? (modules : Setting) : Option (Feature → Bool) := do
  let flags ← Feature.all.mapM fun feature => do
    let part ← modules.section? feature.key
    let on ← part.field? "enabled" feature.initiallyOn Setting.bool?
    return (feature, on)
  return fun feature => (flags.lookup feature).getD feature.initiallyOn

def readTemplates? (formats : Setting) : Option Templates := do
  let templates ← Format.all.mapM fun format => do
    return (format, ← formats.field? format.key format.defaultTemplate Setting.text?)
  return fun format => (templates.lookup format).getD format.defaultTemplate

def readNotices? (messages : Setting) : Option Notices := do
  let read (name : String) (default : String) := messages.field? name default Setting.text?
  let plain : Notices := {}
  return {
    antiDuplication := ← read "anti-duplication" plain.antiDuplication
    antiSpam := ← read "anti-spam" plain.antiSpam
    blockedByFilter := ← read "blocked-by-filter" plain.blockedByFilter
    muted := ← read "muted" plain.muted
    hasIgnored := ← read "has-ignored" plain.hasIgnored
    messengerDisabled := ← read "messenger-disabled" plain.messengerDisabled }

def readChannel? (setting : Setting) : Option Channel := setting.text?.bind Channel.read?

def readFile? : Setting → Option (Option String)
  | .null => some none
  | setting => setting.text?.map some

def ofSetting? (setting : Setting) : Option Config := do
  let plain : Config := {}
  let modules ← setting.section? "modules"
  let duplication ← modules.section? "anti-duplication"
  let spam ← modules.section? "anti-spam"
  let filter ← modules.section? "filter"
  let emoji ← modules.section? "emoji"
  let multicast ← modules.section? "multicast-chat"
  let global ← modules.section? "global-chat"
  let servers ← global.section? "server-list"
  let messenger ← modules.section? "messenger"
  let logging ← modules.section? "chat-logging"
  let chatLog ← setting.section? "chat-log"
  return {
    defaultChannel := ← setting.field? "default-channel" plain.defaultChannel readChannel?
    enabled := ← readEnabled? modules
    pastMessages :=
      ← duplication.field? "check-past-messages" plain.pastMessages Setting.nat?
    expireAfter := ← duplication.field? "expire-after" plain.expireAfter Setting.nat?
    messagesPerMinute :=
      ← spam.field? "messages-per-minute" plain.messagesPerMinute Setting.nat?
    patterns := ← filter.field? "patterns" [] (Setting.list? Setting.text?)
    shortcodes := ← emoji.field? "custom" [] (Setting.table? Setting.text?)
    serverGroups :=
      ← multicast.field? "server-groups" [] (Setting.list? (Setting.list? Setting.text?))
    listsServers := ← servers.field? "enabled" plain.listsServers Setting.bool?
    serverList := ← servers.field? "list" [] (Setting.list? Setting.text?)
    filtersPrivate :=
      ← messenger.field? "filter-private-messages" plain.filtersPrivate Setting.bool?
    logsPrivate := ← logging.field? "private-messages" plain.logsPrivate Setting.bool?
    templates := ← readTemplates? (← setting.section? "formats")
    notices := ← readNotices? (← setting.section? "messages")
    logFile := ← chatLog.field? "file" none readFile? }

/-- The settings that a document describes, in an environment that it can refer to. -/
def read (environment : String → Option String) (document : String) : Except ConfigError Config :=
  match (Hocon.read? environment document).bind ofSetting? with
  | some config => .ok config
  | none => .error .malformed

/-- The settings of a document, overridden by the environment and found to be without problems. -/
def load (environment : String → Option String) (document : String) :
    Except ConfigError Config := do
  let config ← read environment document
  let config := config.override environment
  config.validate
  return config

def loadDefault (environment : String → Option String) : Except ConfigError Config := do
  let config := ({} : Config).override environment
  config.validate
  return config

end Switchboard.Config
