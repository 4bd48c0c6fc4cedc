import Mathlib.Data.List.Basic
import Mathlib.Data.List.Induction
import Mathlib.Tactic.Common
import Switchboard.Proofs.Guests

/-! Turning features on and off, in any order, while others add filters of their own to the same
chains. A feature's filters stand in the chains exactly while the feature is active, and their order
is always that of the features, however they came in. -/
namespace Switchboard

namespace Chain.Standing

variable {φ : Type u} {chain : Chain φ} {priority : φ → Int} {owned : Feature → Option φ}
  {active : Feature → Bool}

/-- Those that are active stand in the order of the features that own filters. -/
theorem keys_eq (standing : chain.Standing priority owned active) {order : List Feature}
    (ascends : order.Pairwise fun first second => ∀ filter later,
      owned first = some filter → owned second = some later → priority filter < priority later)
    (owners : ∀ feature, feature ∈ order ↔ (owned feature).isSome = true) :
    chain.keys = (order.filter active).map Feature.name := by
  let expected : Chain φ :=
    ⟨(order.filter active).filterMap fun feature => (owned feature).map (feature.entry priority)⟩
  have stands : expected.Standing priority owned active := by
    constructor
    · refine List.pairwise_filterMap.mpr ((ascends.filter active).imp ?_)
      intro first second ascend entry here later there
      obtain ⟨filter, owns, rfl⟩ := Option.map_eq_some_iff.mp here
      obtain ⟨filterLater, ownsLater, rfl⟩ := Option.map_eq_some_iff.mp there
      exact ascend filter filterLater owns ownsLater
    · intro entry
      rw [List.mem_filterMap]
      constructor
      · rintro ⟨feature, member, here⟩
        obtain ⟨filter, owns, rfl⟩ := Option.map_eq_some_iff.mp here
        exact ⟨feature, filter, (List.mem_filter.mp member).2, owns, rfl⟩
      · rintro ⟨feature, filter, isActive, owns, rfl⟩
        have inOrder : feature ∈ order := (owners feature).mpr (by rw [owns]; rfl)
        exact ⟨feature, List.mem_filter.mpr ⟨inOrder, isActive⟩, by rw [owns]; rfl⟩
  rw [standing.unique stands, keys, List.map_filterMap]
  refine List.filterMap_eq_map_iff_forall_eq_some.mpr fun feature member => ?_
  obtain ⟨filter, owns⟩ := Option.isSome_iff_exists.mp
    ((owners feature).mp (List.mem_filter.mp member).1)
  rw [owns]
  rfl

end Chain.Standing

namespace Registry

variable {config : Config} {registry other : Registry} {feature : Feature} {on : Bool}

/-! ## One call -/

theorem key_changes : ∀ edit ∈ registry.changes feature on, edit.key = feature.name := by
  intro edit member
  unfold changes at member
  split at member
  · cases member
  split at member
  · rcases List.mem_append.mp member with text | message
    · obtain ⟨filter, -, rfl⟩ := Option.map_eq_some_iff.mp (Option.mem_toList.mp text)
      rfl
    · obtain ⟨filter, -, rfl⟩ := Option.map_eq_some_iff.mp (Option.mem_toList.mp message)
      rfl
  · rcases List.mem_cons.mp member with rfl | member
    · rfl
    · cases List.mem_singleton.mp member
      rfl

theorem switchOn_iff :
    (registry.switchOn feature).1 = true ↔ registry.isActive feature = false := by
  unfold switchOn
  cases registry.isActive feature <;> simp

theorem switchOff_iff :
    (registry.switchOff feature).1 = true ↔ registry.isActive feature = true := by
  unfold switchOff
  cases registry.isActive feature <;> simp

/-- The registry without the filters of others. -/
def featured (registry : Registry) : Registry :=
  { registry with filters := registry.filters.featured }

/-- Others make no difference to how a feature is turned on or off. -/
theorem featured_setEnabled (ordered : registry.filters.Ordered) (feature : Feature) (on : Bool) :
    (registry.setEnabled feature on).featured = registry.featured.setEnabled feature on := by
  rw [setEnabled_eq, setEnabled_eq, featured, Filters.featured_edits ordered key_changes]
  rfl

/-! ## Any number of calls -/

/-- What can be asked of a registry, and what can happen to its filters meanwhile. -/
inductive Call where
  | enable (feature : Feature)
  | disable (feature : Feature)
  | setEnabled (feature : Feature) (on : Bool)
  /-- Others add or remove a filter of theirs. -/
  | host (change : GuestEdit)
  /-- The filters remember what they will of messages that pass them. -/
  | remember (memory : Memory)

def obey (registry : Registry) : Call → Registry
  | .enable feature => registry.enable feature
  | .disable feature => registry.disable feature
  | .setEnabled feature on => registry.setEnabled feature on
  | .host change => { registry with filters := registry.filters.host change }
  | .remember memory => registry.withMemory memory

/-- What every call preserves: the chains run in order, the features' part of them is what it would
be without the others, and the active features are listed in the order of all. -/
structure Hosting (config : Config) (registry : Registry) : Prop where
  standing : registry.featured.Standing config
  ordered : registry.filters.Ordered
  listed : registry.active = Feature.all.filter registry.isActive

namespace Hosting

theorem setEnabled (hosting : registry.Hosting config) (feature : Feature) (on : Bool) :
    (registry.setEnabled feature on).Hosting config where
  standing := by
    rw [featured_setEnabled hosting.ordered]
    exact hosting.standing.setEnabled feature on
  ordered := by
    rw [setEnabled_eq]
    exact Filters.edits_ordered hosting.ordered _
  listed := by
    rw [isActive_setEnabled, setEnabled_eq]
    dsimp only
    split
    case isTrue same =>
      rw [isActive_unchanged same]
      exact hosting.listed
    case isFalse => rfl

theorem host (hosting : registry.Hosting config) (change : GuestEdit) :
    { registry with filters := registry.filters.host change }.Hosting config where
  standing := by
    have same : featured { registry with filters := registry.filters.host change } =
        registry.featured :=
      congrArg (fun filters => { registry with filters })
        (Filters.featured_edit_foreign change.foreign)
    rw [same]
    exact hosting.standing
  ordered := Filters.edit_ordered hosting.ordered change.edit
  listed := hosting.listed

theorem obey (hosting : registry.Hosting config) (call : Call) :
    (registry.obey call).Hosting config := by
  cases call with
  | enable feature => exact hosting.setEnabled feature true
  | disable feature => exact hosting.setEnabled feature false
  | setEnabled feature on => exact hosting.setEnabled feature on
  | host change => exact hosting.host change
  | remember memory =>
    exact ⟨hosting.standing.withMemory memory, ⟨hosting.ordered.text, hosting.ordered.message⟩,
      hosting.listed⟩

theorem idle (config : Config) (prior : List GuestEdit) :
    (Registry.idle config (prior.foldl Filters.host noFilters)).Hosting config := by
  have start : (Registry.idle config noFilters).Hosting config :=
    ⟨Standing.idle config, ⟨.nil, .nil⟩, rfl⟩
  induction prior using List.reverseRecOn with
  | nil => exact start
  | append_singleton prior change ih =>
    rw [List.foldl_append]
    exact ih.host change

theorem onFilters (config : Config) (prior : List GuestEdit) :
    (Registry.onFilters config (prior.foldl Filters.host noFilters)).Hosting config :=
  List.foldlRecOn _ _ (idle config prior) fun _ hosting feature _ =>
    hosting.setEnabled feature true

end Hosting

/-! ## What holds after any calls -/

/-- The features that own filters over text, in the order in which these run. -/
def textOrder : List Feature := [.muting, .filter, .antiDuplication, .antiSpam]

/-- Those that own filters over messages. -/
def messageOrder : List Feature := [.emoji]

/-- A registry in which everything stands that is to stand, and nothing else of the features. -/
structure Registered (config : Config) (registry : Registry) : Prop where
  text : ∀ feature entry, entry ∈ registry.filters.text.entries ∧ entry.key = feature.name ↔
    registry.isActive feature = true ∧ ∃ filter, configuredText config feature = some filter ∧
      entry = feature.entry TextFilter.priority filter
  message : ∀ feature entry, entry ∈ registry.filters.message.entries ∧ entry.key = feature.name ↔
    registry.isActive feature = true ∧ ∃ filter, configuredMessage config feature = some filter ∧
      entry = feature.entry MessageFilter.priority filter
  /-- This does not depend on the order in which features were turned on. -/
  textOrdered : registry.filters.text.featured.keys =
    (textOrder.filter registry.isActive).map Feature.name
  messageOrdered : registry.filters.message.featured.keys =
    (messageOrder.filter registry.isActive).map Feature.name
  guests : ∀ feature on,
    (registry.setEnabled feature on).filters.text.guests = registry.filters.text.guests ∧
    (registry.setEnabled feature on).filters.message.guests = registry.filters.message.guests
  switchedOn : ∀ feature,
    (registry.switchOn feature).1 = true ↔ registry.isActive feature = false
  switchedOff : ∀ feature,
    (registry.switchOff feature).1 = true ↔ registry.isActive feature = true
  active : ∀ feature on other, (registry.setEnabled feature on).isActive other =
    if other = feature then on else registry.isActive other
  /-- Filters come back as they were, with all that they remember. -/
  restored : registry.filters.text.guests.entries = [] →
    registry.filters.message.guests.entries = [] → ∀ feature, registry.isActive feature = true →
      (registry.disable feature).enable feature = registry

theorem textOrder_ascends (config : Config) :
    textOrder.Pairwise fun first second => ∀ filter later,
      configuredText config first = some filter → configuredText config second = some later →
        filter.priority < later.priority := by
  simp [textOrder, configuredText, TextFilter.priority, TextFilter.ofPatterns]

theorem mem_textOrder_iff (config : Config) (feature : Feature) :
    feature ∈ textOrder ↔ (configuredText config feature).isSome = true := by
  cases feature <;> simp [textOrder, configuredText]

theorem mem_messageOrder_iff (config : Config) (feature : Feature) :
    feature ∈ messageOrder ↔ (configuredMessage config feature).isSome = true := by
  cases feature <;> simp [messageOrder, configuredMessage]

theorem mem_featured_iff {φ : Type u} {chain : Chain φ} {priority : φ → Int}
    {owned : Feature → Option φ} {active : Feature → Bool}
    (standing : chain.featured.Standing priority owned active) (feature : Feature)
    (entry : Entry φ) :
    entry ∈ chain.entries ∧ entry.key = feature.name ↔ active feature = true ∧
      ∃ filter, owned feature = some filter ∧ entry = feature.entry priority filter := by
  have part : entry ∈ chain.featured.entries ↔ entry ∈ chain.entries ∧ entry.featured = true :=
    List.mem_filter
  rw [standing.complete] at part
  constructor
  · rintro ⟨member, key⟩
    obtain ⟨other, filter, isActive, owns, rfl⟩ :=
      part.mpr ⟨member, Entry.featured_iff.mpr ⟨feature, key⟩⟩
    obtain rfl : other = feature := Feature.name_injective key
    exact ⟨isActive, filter, owns, rfl⟩
  · rintro ⟨isActive, filter, owns, rfl⟩
    exact ⟨(part.mp ⟨feature, filter, isActive, owns, rfl⟩).1, rfl⟩

theorem featured_of_guestless {φ : Type u} {chain : Chain φ}
    (guestless : chain.guests.entries = []) :
    chain.featured = chain := by
  have all : chain.entries.filter Entry.featured = chain.entries := by
    refine List.filter_eq_self.mpr fun entry member => ?_
    have notGuest := List.filter_eq_nil_iff.mp guestless entry member
    simpa using notGuest
  cases chain
  exact congrArg Chain.mk all

/-- Without guests, the active features and what is remembered determine the registry. -/
theorem Hosting.unique (hosting : registry.Hosting config) (hostingOther : other.Hosting config)
    (guestless : registry.featured = registry) (guestlessOther : other.featured = other)
    (active : other.isActive = registry.isActive)
    (memory : other.filters.memory = registry.filters.memory)
    (nextSlot : other.filters.nextSlot = registry.filters.nextSlot) : other = registry := by
  have standing := hosting.standing
  have standingOther := hostingOther.standing
  rw [guestless] at standing
  rw [guestlessOther] at standingOther
  obtain ⟨texts, messages, text, message⟩ := standing
  obtain ⟨textsOther, messagesOther, textOther, messageOther⟩ := standingOther
  rw [active] at textOther messageOther
  have sameText := textOther.unique text
  have sameMessage := messageOther.unique message
  have sameActive : other.active = registry.active := by
    rw [hosting.listed, hostingOther.listed, active]
  obtain ⟨⟨_, _, _, _⟩, _, _, _⟩ := registry
  obtain ⟨⟨_, _, _, _⟩, _, _, _⟩ := other
  subst texts messages
  cases textsOther
  cases messagesOther
  cases sameText
  cases sameMessage
  cases sameActive
  cases memory
  cases nextSlot
  rfl

theorem guests_setEnabled (registry : Registry) (feature : Feature) (on : Bool) :
    (registry.setEnabled feature on).filters.text.guests = registry.filters.text.guests ∧
      (registry.setEnabled feature on).filters.message.guests =
        registry.filters.message.guests := by
  rw [setEnabled_eq]
  exact Filters.guests_edits registry.filters key_changes

theorem nextSlot_setEnabled (registry : Registry) (feature : Feature) (on : Bool) :
    (registry.setEnabled feature on).filters.nextSlot = registry.filters.nextSlot := by
  rw [setEnabled_eq]
  exact Filters.nextSlot_edits _ registry.filters

theorem featured_eq_self (text : registry.filters.text.guests.entries = [])
    (message : registry.filters.message.guests.entries = []) : registry.featured = registry := by
  obtain ⟨⟨_, _, _, _⟩, _, _, _⟩ := registry
  unfold featured Filters.featured
  rw [featured_of_guestless text, featured_of_guestless message]

theorem Hosting.restored (hosting : registry.Hosting config)
    (text : registry.filters.text.guests.entries = [])
    (message : registry.filters.message.guests.entries = [])
    (active : registry.isActive feature = true) :
    (registry.disable feature).enable feature = registry := by
  let off := registry.setEnabled feature false
  let back := off.setEnabled feature true
  have textBack : back.filters.text.guests.entries = [] := by
    rw [(off.guests_setEnabled feature true).1, (registry.guests_setEnabled feature false).1, text]
  have messageBack : back.filters.message.guests.entries = [] := by
    rw [(off.guests_setEnabled feature true).2, (registry.guests_setEnabled feature false).2,
      message]
  have activeBack : back.isActive = registry.isActive := by
    rw [off.isActive_setEnabled, registry.isActive_setEnabled]
    funext other
    split
    case isTrue same => rw [same, active]
    case isFalse differs => exact if_neg differs
  have memoryBack : back.filters.memory = registry.filters.memory :=
    (off.memory_setEnabled feature true).trans (registry.memory_setEnabled feature false)
  have nextSlotBack : back.filters.nextSlot = registry.filters.nextSlot :=
    (off.nextSlot_setEnabled feature true).trans (registry.nextSlot_setEnabled feature false)
  exact hosting.unique ((hosting.setEnabled feature false).setEnabled feature true)
    (featured_eq_self text message) (featured_eq_self textBack messageBack) activeBack
    memoryBack nextSlotBack

theorem Hosting.registered (hosting : registry.Hosting config) : registry.Registered config where
  text := mem_featured_iff hosting.standing.filters.text
  message := mem_featured_iff hosting.standing.filters.message
  textOrdered :=
    hosting.standing.filters.text.keys_eq (textOrder_ascends config) (mem_textOrder_iff config)
  messageOrdered :=
    hosting.standing.filters.message.keys_eq (List.pairwise_singleton _ _)
      (mem_messageOrder_iff config)
  guests := registry.guests_setEnabled
  switchedOn _ := switchOn_iff
  switchedOff _ := switchOff_iff
  active feature on other := congrFun (registry.isActive_setEnabled feature on) other
  restored text message _ active := hosting.restored text message active

/-- Whatever others have put into the chains before and put there meanwhile, and however features
are turned on and off, a registry set up from its settings stays in order. -/
theorem registered_after (config : Config) (prior : List GuestEdit) (calls : List Call) :
    (calls.foldl obey (onFilters config (prior.foldl Filters.host noFilters))).Registered
      config := by
  have hosting := Hosting.onFilters config prior
  generalize onFilters config (prior.foldl Filters.host noFilters) = registry at hosting
  induction calls generalizing registry with
  | nil => exact hosting.registered
  | cons call rest ih => exact ih (registry.obey call) (hosting.obey call)

/-- Features that come back in another order stand in the one order, around a guest. -/
theorem registered_after_toggles :
    let shouting : GuestEdit :=
      ⟨.addText "Shout" (.ofFunction 0 String.toUpper), fun feature => by cases feature <;> decide⟩
    let calls : List Call := [.disable .muting, .disable .antiDuplication, .enable .filter,
      .host shouting, .enable .antiDuplication, .setEnabled .muting true]
    let registry := calls.foldl obey (onFilters {} noFilters)
    registry.filters.text.keys = ["Shout", "Muting", "Filter", "AntiDuplication", "AntiSpam"] ∧
      registry.filters.text.featured.keys =
        (textOrder.filter registry.isActive).map Feature.name := by
  intro shouting calls registry
  exact ⟨by decide, (registered_after {} [] calls).textOrdered⟩

end Registry

end Switchboard
