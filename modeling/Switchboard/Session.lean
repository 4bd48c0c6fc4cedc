import Switchboard.Registry

/-! A running switchboard: who is connected, which features are active, and what its operator
has set. -/
namespace Switchboard

/-- What the settings say about the way of messages. -/
structure Settings where
  defaultChannel : Channel
  templates : Templates
  notices : Notices
  /-- The servers on which global chat is seen, if it is restricted. -/
  globalServers : Option (List String)
  serverGroups : ServerGroups
  filtersPrivate : Bool
  logsPrivate : Bool
deriving Inhabited

def Settings.ofConfig (config : Config) : Settings where
  defaultChannel := config.defaultChannel
  templates := config.templates
  notices := config.notices
  globalServers := config.globalServers
  serverGroups := config.serverGroups
  filtersPrivate := config.filtersPrivate
  logsPrivate := config.logsPrivate

structure Session where
  directory : Directory := .empty
  registry : Registry
  settings : Settings
deriving Inhabited

namespace Session

def ofConfig (config : Config) : Session where
  registry := .ofConfig config
  settings := .ofConfig config

def isActive (session : Session) (feature : Feature) : Bool := session.registry.isActive feature

def filters (session : Session) : Filters := session.registry.filters

def withFilters (session : Session) (filters : Filters) : Session :=
  { session with registry := { session.registry with filters } }

end Session

end Switchboard
