import Mathlib.Data.List.Sort
import Mathlib.Tactic.Common
import Switchboard.Session.Events

/-! Which filters stand in the chains of a session that was set up from a configuration and has
only seen events since: those of the active features, each under its feature's name, in strictly
ascending order of priority. What the filters remember is no part of this. -/
namespace Switchboard

/-- A list in strictly ascending order of a key, as chains, directories and recipients are, is
determined by its members. -/
theorem eq_of_ascending {α : Type u} {β : Type v} [Preorder β] {key : α → β}
    {first second : List α} (ascending : first.Pairwise fun a b => key a < key b)
    (ascendingAlso : second.Pairwise fun a b => key a < key b)
    (members : ∀ item, item ∈ first ↔ item ∈ second) : first = second := by
  have asymmetric : Std.Antisymm fun a b : α => key a < key b :=
    ⟨fun a b before after => absurd before (lt_asymm after)⟩
  have irreflexive : Std.Irrefl fun a b : α => key a < key b := ⟨fun a => lt_irrefl (key a)⟩
  exact ascending.eq_of_mem_iff ascendingAlso members

namespace Feature

theorem ofName?_name (feature : Feature) : ofName? feature.name = some feature := by
  cases feature <;> rfl

theorem name_injective {feature other : Feature} (same : feature.name = other.name) :
    feature = other := by
  have named := congrArg ofName? same
  rw [ofName?_name, ofName?_name] at named
  exact Option.some.inj named

end Feature

namespace Chain

variable {φ : Type u} {entry other : Entry φ} {entries : List (Entry φ)} {key : String}

theorem place_perm (entry : Entry φ) (entries : List (Entry φ)) :
    (place entry entries).Perm (entry :: entries) := by
  induction entries with
  | nil => exact .refl _
  | cons first rest ih =>
    unfold place
    split
    · exact (ih.cons first).trans (.swap entry first rest)
    · exact .refl _

theorem mem_place_iff : other ∈ place entry entries ↔ other = entry ∨ other ∈ entries :=
  (place_perm entry entries).mem_iff.trans List.mem_cons

theorem mem_without_iff : entry ∈ without key entries ↔ entry ∈ entries ∧ entry.key ≠ key := by
  simp [without]

/-- A new entry stands after those that are to run no later and before the others. -/
theorem place_pairwise {before : Entry φ → Entry φ → Prop}
    (ordered : entries.Pairwise fun first second => first.priority ≤ second.priority)
    (pairwise : entries.Pairwise before)
    (ahead : ∀ other ∈ entries, other.priority ≤ entry.priority → before other entry)
    (behind : ∀ other ∈ entries, entry.priority < other.priority → before entry other) :
    (place entry entries).Pairwise before := by
  induction entries with
  | nil => exact List.pairwise_singleton _ _
  | cons first rest ih =>
    obtain ⟨above, orderedRest⟩ := List.pairwise_cons.mp ordered
    obtain ⟨beforeRest, pairwiseRest⟩ := List.pairwise_cons.mp pairwise
    obtain ⟨aheadFirst, aheadRest⟩ := List.forall_mem_cons.mp ahead
    obtain ⟨behindFirst, behindRest⟩ := List.forall_mem_cons.mp behind
    unfold place
    split
    case isTrue later =>
      refine List.pairwise_cons.mpr
        ⟨fun other member => ?_, ih orderedRest pairwiseRest aheadRest behindRest⟩
      rcases mem_place_iff.mp member with rfl | member
      · exact aheadFirst later
      · exact beforeRest other member
    case isFalse notLater =>
      have sooner : entry.priority < first.priority := Int.not_le.mp notLater
      refine List.pairwise_cons.mpr ⟨List.forall_mem_cons.mpr ⟨behindFirst sooner, ?_⟩, pairwise⟩
      intro other member
      exact behindRest other member (Int.lt_of_lt_of_le sooner (above other member))

/-- An entry whose priority no other has keeps the order strict. -/
theorem place_ascending (apart : ∀ other ∈ entries, other.priority ≠ entry.priority)
    (ascending : entries.Pairwise fun first second => first.priority < second.priority) :
    (place entry entries).Pairwise fun first second => first.priority < second.priority :=
  place_pairwise (ascending.imp Int.le_of_lt) ascending
    (fun other member sooner => Int.lt_iff_le_and_ne.mpr ⟨sooner, apart other member⟩)
    fun _ _ later => later

end Chain

/-- A feature's filter as it stands in a chain. -/
def Feature.entry {φ : Type u} (priority : φ → Int) (feature : Feature) (filter : φ) : Entry φ :=
  ⟨feature.name, priority filter, filter⟩

/-- The chain holds the filters that active features own, and no others. -/
structure Chain.Standing {φ : Type u} (chain : Chain φ) (priority : φ → Int)
    (owned : Feature → Option φ) (active : Feature → Bool) : Prop where
  ascending : chain.entries.Pairwise fun first second => first.priority < second.priority
  complete : ∀ entry, entry ∈ chain.entries ↔ ∃ feature filter,
    active feature = true ∧ owned feature = some filter ∧ entry = feature.entry priority filter

/-- The features' filters have priorities of their own. -/
def Apart {φ : Type u} (priority : φ → Int) (owned : Feature → Option φ) : Prop :=
  ∀ feature other filter otherFilter, owned feature = some filter →
    owned other = some otherFilter → priority filter = priority otherFilter → feature = other

namespace Chain.Standing

variable {φ : Type u} {chain : Chain φ} {priority : φ → Int} {owned : Feature → Option φ}
  {active : Feature → Bool} {feature : Feature} {filter : φ}

theorem mem_without_iff (standing : chain.Standing priority owned active) {entry : Entry φ} :
    entry ∈ without feature.name chain.entries ↔ ∃ other filter,
      (active other = true ∧ other ≠ feature) ∧ owned other = some filter ∧
        entry = other.entry priority filter := by
  rw [Chain.mem_without_iff, standing.complete]
  constructor
  · rintro ⟨⟨other, filter, isActive, owns, rfl⟩, key⟩
    exact ⟨other, filter, ⟨isActive, fun same => key (same ▸ rfl)⟩, owns, rfl⟩
  · rintro ⟨other, filter, ⟨isActive, differs⟩, owns, rfl⟩
    exact ⟨⟨other, filter, isActive, owns, rfl⟩, fun key => differs (Feature.name_injective key)⟩

/-- The active features and their filters determine the chain. -/
theorem unique {other : Chain φ} (standing : chain.Standing priority owned active)
    (standingOther : other.Standing priority owned active) : chain = other := by
  have equal : chain.entries = other.entries :=
    eq_of_ascending standing.ascending standingOther.ascending fun entry =>
      (standing.complete entry).trans (standingOther.complete entry).symm
  cases chain
  cases other
  exact congrArg Chain.mk equal

theorem insert (standing : chain.Standing priority owned active) (apart : Apart priority owned)
    (owns : owned feature = some filter) :
    (chain.insert feature.name (priority filter) filter).Standing priority owned
      (fun other => if other = feature then true else active other) where
  ascending := by
    refine place_ascending ?_ (standing.ascending.filter _)
    intro entry member same
    obtain ⟨other, filter, ⟨-, differs⟩, ownsOther, rfl⟩ := standing.mem_without_iff.mp member
    exact differs (apart other feature _ _ ownsOther owns same)
  complete entry := by
    rw [Chain.insert, mem_place_iff, standing.mem_without_iff]
    constructor
    · rintro (rfl | ⟨other, filter, ⟨isActive, differs⟩, ownsOther, rfl⟩)
      · exact ⟨feature, filter, if_pos rfl, owns, rfl⟩
      · exact ⟨other, filter, by rw [if_neg differs, isActive], ownsOther, rfl⟩
    · rintro ⟨other, otherFilter, isActive, ownsOther, rfl⟩
      by_cases same : other = feature
      · subst same
        cases owns.symm.trans ownsOther
        exact .inl rfl
      · rw [if_neg same] at isActive
        exact .inr ⟨other, otherFilter, ⟨isActive, same⟩, ownsOther, rfl⟩

theorem erase (standing : chain.Standing priority owned active) (feature : Feature) :
    (chain.erase feature.name).Standing priority owned
      (fun other => if other = feature then false else active other) where
  ascending := standing.ascending.filter _
  complete entry := by
    rw [Chain.erase, standing.mem_without_iff]
    constructor
    · rintro ⟨other, filter, ⟨isActive, differs⟩, owns, rfl⟩
      exact ⟨other, filter, by rw [if_neg differs, isActive], owns, rfl⟩
    · rintro ⟨other, filter, isActive, owns, rfl⟩
      by_cases same : other = feature
      · rw [if_pos same] at isActive
        cases isActive
      · rw [if_neg same] at isActive
        exact ⟨other, filter, ⟨isActive, same⟩, owns, rfl⟩

theorem unowned (standing : chain.Standing priority owned active) (bare : owned feature = none)
    (on : Bool) : chain.Standing priority owned
      (fun other => if other = feature then on else active other) where
  ascending := standing.ascending
  complete entry := by
    rw [standing.complete]
    have unchanged : ∀ other filter, owned other = some filter →
        (if other = feature then on else active other) = active other := by
      intro other filter owns
      refine if_neg fun same => ?_
      subst same
      cases bare.symm.trans owns
    constructor
    · rintro ⟨other, filter, isActive, owns, rfl⟩
      exact ⟨other, filter, by rw [unchanged other filter owns, isActive], owns, rfl⟩
    · rintro ⟨other, filter, isActive, owns, rfl⟩
      exact ⟨other, filter, by rw [← unchanged other filter owns, isActive], owns, rfl⟩

end Chain.Standing

/-- The chains hold the filters that the settings give to the active features. -/
structure Filters.Standing (config : Config) (active : Feature → Bool) (filters : Filters) :
    Prop where
  text : filters.text.Standing TextFilter.priority (Registry.configuredText config) active
  message :
    filters.message.Standing MessageFilter.priority (Registry.configuredMessage config) active

namespace Registry

theorem apart_text (config : Config) : Apart TextFilter.priority (configuredText config) := by
  intro feature other filter otherFilter owns ownsOther same
  cases feature <;> cases owns <;> cases other <;> cases ownsOther <;> first | rfl | cases same

theorem apart_message (config : Config) :
    Apart MessageFilter.priority (configuredMessage config) := by
  intro feature other filter otherFilter owns ownsOther same
  cases feature <;> cases owns
  cases other <;> cases ownsOther
  rfl

/-- The registry is one for these settings, and so are its chains. -/
structure Standing (config : Config) (registry : Registry) : Prop where
  textFilter : registry.textFilter = configuredText config
  messageFilter : registry.messageFilter = configuredMessage config
  filters : registry.filters.Standing config registry.isActive

theorem contains_mark (active : List Feature) (feature other : Feature) (on : Bool) :
    (mark active feature on).contains other =
      if other = feature then on else active.contains other := by
  rw [Bool.eq_iff_iff, List.contains_iff_mem, mark, List.mem_filter]
  exact and_iff_right (Feature.mem_all other)

theorem isActive_mark (registry : Registry) (filters : Filters) (feature : Feature) (on : Bool) :
    isActive { registry with filters, active := mark registry.active feature on } =
      fun other => if other = feature then on else registry.isActive other :=
  funext fun other => contains_mark registry.active feature other on

theorem isActive_unchanged {registry : Registry} {feature : Feature} {on : Bool}
    (same : registry.isActive feature = on) :
    (fun other => if other = feature then on else registry.isActive other) =
      registry.isActive := by
  funext other
  split
  case isTrue here => rw [here, same]
  case isFalse => rfl

/-- The edits that turn a feature on or off. -/
def changes (registry : Registry) (feature : Feature) (on : Bool) : List Edit :=
  if registry.isActive feature = on then []
  else if on then
    ((registry.textFilter feature).map (Edit.addText feature.name)).toList ++
      ((registry.messageFilter feature).map (Edit.addMessage feature.name)).toList
  else [.dropText feature.name, .dropMessage feature.name]

/-- All that turning a feature on or off does. -/
theorem setEnabled_eq (registry : Registry) (feature : Feature) (on : Bool) :
    registry.setEnabled feature on = { registry with
      filters := (registry.changes feature on).foldl Filters.edit registry.filters
      active := if registry.isActive feature = on then registry.active
        else mark registry.active feature on } := by
  unfold changes
  cases on with
  | true =>
    change registry.enable feature = _
    cases active : registry.isActive feature with
    | true => exact enable_of_active active
    | false =>
      rw [enable_of_inactive active, install]
      cases registry.textFilter feature <;> cases registry.messageFilter feature <;> rfl
  | false =>
    change registry.disable feature = _
    cases active : registry.isActive feature with
    | true => exact disable_of_active active
    | false => exact disable_of_inactive active

/-- Turning a feature on or off is felt by that feature alone. -/
theorem isActive_setEnabled (registry : Registry) (feature : Feature) (on : Bool) :
    (registry.setEnabled feature on).isActive =
      fun other => if other = feature then on else registry.isActive other := by
  rw [setEnabled_eq]
  by_cases same : registry.isActive feature = on
  · rw [if_pos same]
    exact (isActive_unchanged same).symm
  · rw [if_neg same]
    exact registry.isActive_mark _ feature on

theorem isActive_foldl_enable (features : List Feature) (registry : Registry) (feature : Feature) :
    (features.foldl enable registry).isActive feature =
      (features.contains feature || registry.isActive feature) := by
  induction features generalizing registry with
  | nil => rfl
  | cons first rest ih =>
    have active : (registry.enable first).isActive feature =
        if feature = first then true else registry.isActive feature :=
      congrFun (registry.isActive_setEnabled first true) feature
    rw [List.foldl_cons, ih, active, List.contains_cons]
    by_cases same : feature = first
    · rw [if_pos same, beq_iff_eq.mpr same, Bool.or_true, Bool.true_or, Bool.true_or]
    · rw [if_neg same, beq_eq_false_iff_ne.mpr same, Bool.false_or]

theorem isActive_ofConfig (config : Config) (feature : Feature) :
    (ofConfig config).isActive feature = config.enabled feature := by
  have start : (idle config noFilters).isActive feature = false := rfl
  rw [ofConfig, onFilters, isActive_foldl_enable, start, Bool.or_false, Bool.eq_iff_iff,
    List.contains_iff_mem, List.mem_filter]
  exact and_iff_right (Feature.mem_all feature)

variable {config : Config} {registry : Registry}

namespace Standing

theorem enable (standing : registry.Standing config) (feature : Feature) :
    (registry.enable feature).Standing config := by
  cases active : registry.isActive feature with
  | true =>
    rw [enable_of_active active]
    exact standing
  | false =>
    rw [enable_of_inactive active]
    refine ⟨standing.textFilter, standing.messageFilter, ?_⟩
    rw [isActive_mark]
    unfold install
    rw [standing.textFilter, standing.messageFilter]
    constructor
    · cases owns : configuredText config feature with
      | none =>
        cases configuredMessage config feature <;> exact standing.filters.text.unowned owns true
      | some filter =>
        cases configuredMessage config feature <;>
          exact standing.filters.text.insert (apart_text config) owns
    · cases owns : configuredMessage config feature with
      | none =>
        cases configuredText config feature <;> exact standing.filters.message.unowned owns true
      | some filter =>
        cases configuredText config feature <;>
          exact standing.filters.message.insert (apart_message config) owns

theorem disable (standing : registry.Standing config) (feature : Feature) :
    (registry.disable feature).Standing config := by
  cases active : registry.isActive feature with
  | true =>
    rw [disable_of_active active]
    refine ⟨standing.textFilter, standing.messageFilter, ?_⟩
    rw [isActive_mark]
    exact ⟨standing.filters.text.erase feature, standing.filters.message.erase feature⟩
  | false =>
    rw [disable_of_inactive active]
    exact standing

theorem setEnabled (standing : registry.Standing config) (feature : Feature) (on : Bool) :
    (registry.setEnabled feature on).Standing config := by
  cases on with
  | true => exact standing.enable feature
  | false => exact standing.disable feature

theorem idle (config : Config) : (Registry.idle config noFilters).Standing config := by
  refine ⟨rfl, rfl, ⟨.nil, ?_⟩, ⟨.nil, ?_⟩⟩ <;>
    simp [Registry.idle, Registry.isActive, noFilters]

theorem ofConfig (config : Config) : (Registry.ofConfig config).Standing config :=
  List.foldlRecOn _ _ (idle config) fun _ standing feature _ => standing.enable feature

end Standing

/-! ## Memory -/

def withMemory (registry : Registry) (memory : Memory) : Registry :=
  { registry with filters := { registry.filters with memory } }

theorem Standing.withMemory (standing : registry.Standing config) (memory : Memory) :
    (registry.withMemory memory).Standing config :=
  ⟨standing.textFilter, standing.messageFilter, ⟨standing.filters.text, standing.filters.message⟩⟩

/-- Edits are made without a look at what the filters remember. -/
theorem edits_withMemory (edits : List Edit) (filters : Filters) (memory : Memory) :
    edits.foldl Filters.edit { filters with memory } =
      { edits.foldl Filters.edit filters with memory } := by
  induction edits generalizing filters with
  | nil => rfl
  | cons first rest ih =>
    have same : Filters.edit { filters with memory } first =
        { filters.edit first with memory } := by cases first <;> rfl
    rw [List.foldl_cons, List.foldl_cons, same]
    exact ih (filters.edit first)

theorem setEnabled_withMemory (registry : Registry) (memory : Memory) (feature : Feature)
    (on : Bool) :
    (registry.withMemory memory).setEnabled feature on =
      (registry.setEnabled feature on).withMemory memory := by
  have same : (registry.withMemory memory).changes feature on = registry.changes feature on := rfl
  rw [setEnabled_eq, setEnabled_eq, same]
  unfold withMemory
  rw [edits_withMemory]
  rfl

theorem memory_setEnabled (registry : Registry) (feature : Feature) (on : Bool) :
    (registry.setEnabled feature on).filters.memory = registry.filters.memory := by
  have same := registry.setEnabled_withMemory registry.filters.memory feature on
  exact congrArg (fun registry => registry.filters.memory) same

theorem memory_foldl_enable (features : List Feature) (registry : Registry) :
    (features.foldl enable registry).filters.memory = registry.filters.memory := by
  induction features generalizing registry with
  | nil => rfl
  | cons feature rest ih =>
    exact (ih (registry.enable feature)).trans (registry.memory_setEnabled feature true)

theorem memory_ofConfig (config : Config) : (ofConfig config).filters.memory = {} :=
  memory_foldl_enable _ _

end Registry

end Switchboard
