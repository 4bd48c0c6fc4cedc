import Switchboard.Config
import Switchboard.Filters

/-! Which features are active, and the filters that some of them bring along. A feature's filter
stands in its chain, under the feature's name, while the feature is active. -/
namespace Switchboard

structure Registry where
  filters : Filters := {}
  active : List Feature := []
  /-- The filter over text that a feature owns. -/
  textFilter : Feature → Option TextFilter := fun _ => none
  /-- The filter over messages that a feature owns. -/
  messageFilter : Feature → Option MessageFilter := fun _ => none
deriving Inhabited

namespace Registry

def isActive (registry : Registry) (feature : Feature) : Bool := registry.active.contains feature

/-- The features active once `feature` is on or off, in the order of all features. -/
def mark (active : List Feature) (feature : Feature) (on : Bool) : List Feature :=
  Feature.all.filter fun other => if other = feature then on else active.contains other

def install (registry : Registry) (feature : Feature) : Filters :=
  let filters :=
    match registry.textFilter feature with
    | some filter => registry.filters.addText feature.name filter
    | none => registry.filters
  match registry.messageFilter feature with
  | some filter => filters.addMessage feature.name filter
  | none => filters

def uninstall (registry : Registry) (feature : Feature) : Filters :=
  (registry.filters.dropText feature.name).dropMessage feature.name

/-- Activates a feature and tells whether it was inactive; one that is active already stays as it
is. -/
def switchOn (registry : Registry) (feature : Feature) : Bool × Registry :=
  if registry.isActive feature then (false, registry)
  else
    (true, { registry with
      filters := registry.install feature, active := mark registry.active feature true })

/-- Deactivates a feature and tells whether it was active. -/
def switchOff (registry : Registry) (feature : Feature) : Bool × Registry :=
  if registry.isActive feature then
    (true, { registry with
      filters := registry.uninstall feature, active := mark registry.active feature false })
  else (false, registry)

/-- Turns a feature on or off and tells whether that made a difference. -/
def switch (registry : Registry) (feature : Feature) (on : Bool) : Bool × Registry :=
  if on then registry.switchOn feature else registry.switchOff feature

def enable (registry : Registry) (feature : Feature) : Registry := (registry.switchOn feature).2

def disable (registry : Registry) (feature : Feature) : Registry := (registry.switchOff feature).2

def setEnabled (registry : Registry) (feature : Feature) (on : Bool) : Registry :=
  (registry.switch feature on).2

section

variable {registry : Registry} {feature : Feature}

theorem enable_of_active (active : registry.isActive feature = true) :
    registry.enable feature = registry := by
  rw [enable, switchOn, if_pos active]

theorem enable_of_inactive (inactive : registry.isActive feature = false) :
    registry.enable feature = { registry with
      filters := registry.install feature, active := mark registry.active feature true } := by
  rw [enable, switchOn, if_neg (by rw [inactive]; decide)]

theorem disable_of_active (active : registry.isActive feature = true) :
    registry.disable feature = { registry with
      filters := registry.uninstall feature, active := mark registry.active feature false } := by
  rw [disable, switchOff, if_pos active]

theorem disable_of_inactive (inactive : registry.isActive feature = false) :
    registry.disable feature = registry := by
  rw [disable, switchOff, if_neg (by rw [inactive]; decide)]

end

/-- The slots of memory that the filters of the configured features own. -/
def duplicationSlot : Nat := 0

def rateSlot : Nat := 1

/-- The filters over text that the settings give to features. -/
def configuredText (config : Config) : Feature → Option TextFilter
  | .antiDuplication =>
    some (.duplication ⟨config.pastMessages, config.expireAfter * Clock.second, true⟩
      (.ofText config.notices.antiDuplication) duplicationSlot)
  | .antiSpam =>
    some (.rateLimit config.messagesPerMinute (.ofText config.notices.antiSpam) rateSlot)
  | .filter => some (.ofPatterns config.patterns (.ofText config.notices.blockedByFilter))
  | .muting => some (.mute (.ofText config.notices.muted))
  | _ => none

def configuredMessage (config : Config) : Feature → Option MessageFilter
  | .emoji => some (.ofShortcodes config.shortcodes)
  | _ => none

/-- The registry with the settings' filters at hand and every feature off. -/
def idle (config : Config) (filters : Filters) : Registry where
  filters := filters
  textFilter := configuredText config
  messageFilter := configuredMessage config

/-- The registry that the settings describe, over filters of others. -/
def onFilters (config : Config) (filters : Filters) : Registry :=
  (Feature.all.filter config.enabled).foldl enable (idle config filters)

/-- The filters before any is registered; the configured ones own the first two slots. -/
def noFilters : Filters where
  nextSlot := 2

def ofConfig (config : Config) : Registry := onFilters config noFilters

end Registry

end Switchboard
