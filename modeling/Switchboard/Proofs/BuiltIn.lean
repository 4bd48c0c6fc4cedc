import Mathlib.Tactic.Common
import Switchboard.Proofs.Isolation
import Switchboard.Proofs.OwnHistories
import Switchboard.Proofs.Rejection
import Switchboard.Proofs.Runs

/-! Switchboards to which no filters are added but those of their own kinds. Whatever is done to
such a switchboard, no two of its filters keep the same histories: the slots of the features'
filters are used under the features' names alone, and every other filter gets a slot that none had
before. So each filter's history of a sender is revised at most once for each message. -/
namespace Switchboard

open Registry

/-! ## Slots -/

/-- The slot in which a filter keeps its histories. -/
def TextFilter.slot? : TextFilter → Option Nat
  | duplication _ _ slot | rateLimit _ _ slot => some slot
  | mute _ | pattern _ _ | custom _ _ => none

def slotsOf (entries : List (Entry TextFilter)) : List Nat :=
  entries.filterMap (·.filter.slot?)

/-- The feature for which a slot was set aside from the start. -/
def Feature.ofSlot? (slot : Nat) : Option Feature :=
  [Feature.antiDuplication, .antiSpam][slot]?

/-- No two of the entries keep the same histories, all slots are reserved, and those of features are
used under the features' names alone. -/
structure SlotsApart (next : Nat) (entries : List (Entry TextFilter)) : Prop where
  distinct : (slotsOf entries).Nodup
  reserved : ∀ slot ∈ slotsOf entries, slot < next
  atHome : ∀ entry ∈ entries, ∀ slot feature, entry.filter.slot? = some slot →
    Feature.ofSlot? slot = some feature → entry.key = feature.name

namespace SlotsApart

variable {next : Nat} {key : String} {priority : Int} {filter : TextFilter}
  {entries : List (Entry TextFilter)}

theorem nothing (next : Nat) : SlotsApart next [] := ⟨.nil, nofun, nofun⟩

theorem mono (apart : SlotsApart next entries) {later : Nat} (more : next ≤ later) :
    SlotsApart later entries :=
  ⟨apart.distinct, fun slot member => Nat.lt_of_lt_of_le (apart.reserved slot member) more,
    apart.atHome⟩

theorem without (apart : SlotsApart next entries) (key : String) :
    SlotsApart next (Chain.without key entries) := by
  have fewer : (slotsOf (Chain.without key entries)).Sublist (slotsOf entries) :=
    List.filter_sublist.filterMap _
  exact ⟨apart.distinct.sublist fewer, fun slot member => apart.reserved slot (fewer.subset member),
    fun entry member => apart.atHome entry (List.mem_of_mem_filter member)⟩

/-- A filter may be put in whose slot is reserved and no longer in use. -/
theorem insert (apart : SlotsApart next entries)
    (fits : ∀ slot, filter.slot? = some slot →
      slot < next ∧ slot ∉ slotsOf (Chain.without key entries) ∧
        ∀ feature, Feature.ofSlot? slot = some feature → key = feature.name) :
    SlotsApart next (Chain.place ⟨key, priority, filter⟩ (Chain.without key entries)) := by
  have rest := apart.without key
  have perm : (slotsOf (Chain.place ⟨key, priority, filter⟩ (Chain.without key entries))).Perm
      (slotsOf (⟨key, priority, filter⟩ :: Chain.without key entries)) :=
    (Chain.place_perm _ _).filterMap _
  constructor
  · rw [perm.nodup_iff, slotsOf, List.filterMap_cons]
    cases owns : filter.slot? with
    | none => exact rest.distinct
    | some slot => exact List.nodup_cons.mpr ⟨(fits slot owns).2.1, rest.distinct⟩
  · intro slot member
    obtain ⟨entry, member, owns⟩ := List.mem_filterMap.mp (perm.mem_iff.mp member)
    rcases List.mem_cons.mp member with rfl | member
    · exact (fits slot owns).1
    · exact rest.reserved slot (List.mem_filterMap.mpr ⟨entry, member, owns⟩)
  · intro entry member slot feature owns
    rcases Chain.mem_place_iff.mp member with rfl | member
    · exact (fits slot owns).2.2 feature
    · exact rest.atHome entry member slot feature owns

/-- A feature's own filter can always be put in under the feature's name, -/
theorem insert_own (apart : SlotsApart next entries) (feature : Feature)
    (own : ∀ slot, filter.slot? = some slot →
      slot < next ∧ Feature.ofSlot? slot = some feature) :
    SlotsApart next
      (Chain.place ⟨feature.name, priority, filter⟩ (Chain.without feature.name entries)) := by
  refine apart.insert fun slot owns => ?_
  obtain ⟨bound, home⟩ := own slot owns
  refine ⟨bound, fun member => ?_, fun other same => ?_⟩
  · obtain ⟨entry, member, owns⟩ := List.mem_filterMap.mp member
    obtain ⟨member, differs⟩ := Chain.mem_without_iff.mp member
    exact differs (apart.atHome entry member slot feature owns home)
  · cases home.symm.trans same
    rfl

/-- and any other with a slot that is reserved for it. -/
theorem insert_guest (apart : SlotsApart next entries) (begun : noFilters.nextSlot ≤ next)
    (own : ∀ slot, filter.slot? = some slot → slot = next) :
    SlotsApart (next + 1)
      (Chain.place ⟨key, priority, filter⟩ (Chain.without key entries)) := by
  refine (apart.mono (Nat.le_succ next)).insert fun slot owns => ?_
  obtain rfl := own slot owns
  refine ⟨Nat.lt_succ_self slot, fun member => ?_, fun feature home => ?_⟩
  · exact Nat.lt_irrefl slot ((apart.without key).reserved slot member)
  · rw [Feature.ofSlot?, List.getElem?_eq_none begun] at home
    cases home

end SlotsApart

/-! ## Filters in use -/

/-- What everything that is done to a switchboard preserves, if only filters of its own kinds are
added. -/
structure Filters.Native (filters : Filters) : Prop where
  text : ∀ entry ∈ filters.text.entries, entry.filter.isBuiltIn = true
  message : ∀ entry ∈ filters.message.entries, entry.filter.isBuiltIn = true
  begun : noFilters.nextSlot ≤ filters.nextSlot
  apart : SlotsApart filters.nextSlot filters.text.entries

/-- A filter of the switchboard's own kinds that keeps its histories in the slot reserved for it. -/
structure TextFilter.Guest (slot : Nat) (filter : TextFilter) : Prop where
  builtIn : filter.isBuiltIn = true
  inPlace : ∀ other, filter.slot? = some other → other = slot

namespace Filters.Native

variable {filters : Filters} {key : String}

theorem builtIn (native : filters.Native) : filters.BuiltIn := ⟨native.text, native.message⟩

theorem withMemory (native : filters.Native) (memory : Memory) :
    Native { filters with memory } :=
  ⟨native.text, native.message, native.begun, native.apart⟩

theorem forall_mem_place {φ : Type u} (holds : φ → Bool) {entries : List (Entry φ)}
    (all : ∀ entry ∈ entries, holds entry.filter = true) {priority : Int} {filter : φ}
    (new : holds filter = true) :
    ∀ entry ∈ Chain.place ⟨key, priority, filter⟩ (Chain.without key entries),
      holds entry.filter = true := by
  intro entry member
  rcases Chain.mem_place_iff.mp member with rfl | member
  · exact new
  · exact all entry (Chain.mem_without_iff.mp member).1

theorem dropText (native : filters.Native) (key : String) : (filters.dropText key).Native :=
  ⟨fun entry member => native.text entry (Chain.mem_without_iff.mp member).1, native.message,
    native.begun, native.apart.without key⟩

theorem dropMessage (native : filters.Native) (key : String) :
    (filters.dropMessage key).Native :=
  ⟨native.text, fun entry member => native.message entry (Chain.mem_without_iff.mp member).1,
    native.begun, native.apart⟩

theorem addMessage (native : filters.Native) {filter : MessageFilter}
    (builtIn : filter.isBuiltIn = true) : (filters.addMessage key filter).Native :=
  ⟨native.text, forall_mem_place MessageFilter.isBuiltIn native.message builtIn, native.begun,
    native.apart⟩

theorem addText (native : filters.Native) {filter : TextFilter}
    (guest : filter.Guest filters.nextSlot) : (filters.reserve.2.addText key filter).Native where
  text := forall_mem_place TextFilter.isBuiltIn native.text guest.builtIn
  message := native.message
  begun := Nat.le_succ_of_le native.begun
  apart := native.apart.insert_guest native.begun guest.inPlace

variable {config : Config} {feature : Feature}

theorem addConfigured (native : filters.Native) {filter : TextFilter}
    (owns : configuredText config feature = some filter) :
    (filters.addText feature.name filter).Native where
  text := forall_mem_place TextFilter.isBuiltIn native.text
    (TextFilter.isBuiltIn_of_configured owns)
  message := native.message
  begun := native.begun
  apart := by
    refine native.apart.insert_own feature fun slot keeps => ?_
    have home : slot < noFilters.nextSlot ∧ Feature.ofSlot? slot = some feature := by
      cases feature <;> cases owns <;> cases keeps <;> decide
    exact ⟨Nat.lt_of_lt_of_le home.1 native.begun, home.2⟩

theorem filterText (native : filters.Native) (clock : Clock) (sender : Account) (text : String) :
    (filters.filterText clock sender text).2.Native := by
  obtain ⟨memory, same, -⟩ := native.builtIn.filterText clock sender text
  rw [same]
  exact native.withMemory memory

theorem filterMessage (native : filters.Native) (sender : Account) (message : Message) :
    (filters.filterMessage sender message).2.Native := by
  rw [Filters.filterMessage, runMessage_builtIn native.message]
  exact native

end Filters.Native

/-! ## Histories of one filter -/

namespace Ledger

variable {α : Type} {ledger : Ledger α}

theorem slots_sublist
    (own : ∀ filter slot, ledger.slot? filter = some slot → filter.slot? = some slot)
    (entries : List (Entry TextFilter)) : (ledger.slots entries).Sublist (slotsOf entries) := by
  induction entries with
  | nil => exact .slnil
  | cons entry rest ih =>
    rw [slots, slotsOf, List.filterMap_cons, List.filterMap_cons]
    cases owns : ledger.slot? entry.filter with
    | some slot =>
      rw [own _ _ owns]
      exact ih.cons_cons slot
    | none =>
      cases entry.filter.slot? with
      | none => exact ih
      | some slot => exact ih.cons slot

/-- Where filters have slots of their own, the sender's history in each is revised once at most. -/
theorem Kept.revised {clock : Clock} {sender : Account} {text : String}
    {entries : List (Entry TextFilter)} {memory later : Memory} {next : Nat}
    (own : ∀ filter slot, ledger.slot? filter = some slot → filter.slot? = some slot)
    (apart : SlotsApart next entries)
    (kept : ledger.Kept clock sender text entries memory later) {entry : Entry TextFilter}
    (member : entry ∈ entries) {slot : Nat} (owns : ledger.slot? entry.filter = some slot) :
    ledger.revises entry.filter clock.elapsed text
      ((ledger.histories memory).get slot sender.id)
      ((ledger.histories later).get slot sender.id) :=
  kept.owned entry member slot owns <| List.count_eq_one_of_mem
    (apart.distinct.sublist (slots_sublist own entries)) (mem_slots member owns)

end Ledger

/-! ## Switchboards in use -/

/-- The features' filters are those of the settings, and there are no filters but those of the
switchboard's own kinds. -/
structure Registry.Native (config : Config) (registry : Registry) : Prop where
  textFilter : registry.textFilter = configuredText config
  messageFilter : registry.messageFilter = configuredMessage config
  filters : registry.filters.Native

/-- The step adds no filters but those of the switchboard's own kinds. -/
def Step.Plain : Step → Prop
  | .addText _ filter => ∀ slot, (filter slot).Guest slot
  | .addMessage _ filter => filter.isBuiltIn = true
  | .line _ | .event _ | .join _ | .change _ _ | .dispatch _ | .dropText _ | .dropMessage _
  | .turn _ _ | .wait _ => True

namespace Registry.Native

variable {config : Config} {registry : Registry}

theorem idle (config : Config) : (Registry.idle config noFilters).Native config :=
  ⟨rfl, rfl, nofun, nofun, Nat.le_refl _, .nothing _⟩

theorem withFilters (native : registry.Native config) {filters : Filters} (later : filters.Native) :
    Native config { registry with filters } :=
  ⟨native.textFilter, native.messageFilter, later⟩

theorem setEnabled (native : registry.Native config) (feature : Feature) (on : Bool) :
    (registry.setEnabled feature on).Native config := by
  have changed : ((registry.changes feature on).foldl Filters.edit registry.filters).Native := by
    unfold changes
    rw [native.textFilter, native.messageFilter]
    split
    · exact native.filters
    · split
      · rw [List.foldl_append]
        have texts : (((configuredText config feature).map
            (Edit.addText feature.name)).toList.foldl Filters.edit registry.filters).Native := by
          cases owns : configuredText config feature with
          | none => exact native.filters
          | some filter => exact native.filters.addConfigured owns
        cases owns : configuredMessage config feature with
        | none => exact texts
        | some filter => exact texts.addMessage (by cases feature <;> cases owns; rfl)
      · exact (native.filters.dropText _).dropMessage _
  rw [setEnabled_eq]
  exact ⟨native.textFilter, native.messageFilter, changed⟩

theorem ofConfig (config : Config) : (Registry.ofConfig config).Native config :=
  List.foldlRecOn _ _ (idle config) fun _ native feature _ => native.setEnabled feature true

end Registry.Native

namespace Session

variable {config : Config} {session : Session} {world : World}

theorem regular_native (clock : Clock) :
    Dispatching.Regular (fun filters other => filters.Native ∧ other = filters) clock where
  text sender raw := by
    rintro filters _ ⟨native, rfl⟩
    exact ⟨rfl, native.filterText clock sender raw, rfl⟩
  message sender message := by
    rintro filters _ ⟨native, rfl⟩
    exact ⟨rfl, native.filterMessage sender message, rfl⟩

theorem native_dispatch (native : session.filters.Native) (context : Context) :
    (session.dispatch world context).2.filters.Native := by
  obtain ⟨result, sent, later, _, run, -, nativeLater, -⟩ :=
    session.uniform_send (regular_native world.clock) (session.channelOf context)
      { context with channel := some (session.channelOf context) } session.filters
      session.filters {} ⟨native, rfl⟩
  have dispatched : session.dispatch world context =
      (result, { filters := later, outbox := sent }) := run
  rw [dispatched]
  exact nativeLater

theorem native_handle (native : session.registry.Native config) (event : Event) :
    (session.handle world event).session.registry.Native config := by
  obtain ⟨plan, -, handled⟩ := session.handle_cases world event
  rw [handled]
  cases plan with
  | fail | change => exact native
  | toggle feature on => exact native.setEnabled feature on
  | send during context later =>
    have held : ({ session with directory := during } : Session).filters.Native := native.filters
    exact native.withFilters (native_dispatch held context)

theorem native_perform (native : session.registry.Native config) {step : Step}
    (plain : step.Plain) : (session.perform world step).session.registry.Native config := by
  cases step with
  | line text =>
    rcases session.handleLine_cases world text with idle | malformed | ⟨event, -, handled⟩
    · rw [perform, idle]
      exact native
    · rw [perform, malformed]
      exact native
    · rw [perform, handled]
      exact native_handle native event
  | event event => exact native_handle native event
  | dispatch context => exact native.withFilters (native_dispatch native.filters _)
  | addText key filter => exact native.withFilters (native.filters.addText (plain _))
  | dropText key => exact native.withFilters (native.filters.dropText key)
  | addMessage key filter => exact native.withFilters (native.filters.addMessage plain)
  | dropMessage key => exact native.withFilters (native.filters.dropMessage key)
  | turn feature on => exact native.setEnabled feature on
  | join | change | wait => exact native

theorem native_after (config : Config) (clock : Clock) (uptake : Uptake) {steps : List Step}
    (plain : ∀ step ∈ steps, step.Plain) :
    (Progress.after uptake { session := ofConfig config, clock } steps).session.registry.Native
      config := by
  induction steps using List.reverseRecOn with
  | nil => exact .ofConfig config
  | append_singleton steps last ih =>
    rw [Progress.after, List.foldl_append]
    exact native_perform (ih fun step member => plain step (List.mem_append_left _ member))
      (plain last (by simp))

/-- Whatever was done to a switchboard: as long as no filters were added but those of its own kinds,
it has no others, and a message that is dispatched revises the history of its sender that a filter
keeps at most once. -/
theorem histories_revised (config : Config) (clock : Clock) (uptake : Uptake) (steps : List Step)
    (plain : ∀ step ∈ steps, step.Plain) (world : World) (context : Context) (sender : Account)
    (text : String) (speaks : context.sender = some sender) (wrote : context.message = some text) :
    let session := (Progress.after uptake { session := ofConfig config, clock } steps).session
    let memory := session.filters.memory
    let later := (session.dispatch world context).2.filters.memory
    session.filters.BuiltIn ∧ ∀ entry ∈ session.filters.text.entries, ∀ slot,
      (Ledger.utterances.slot? entry.filter = some slot →
        Ledger.utterances.revises entry.filter world.clock.elapsed text
          (memory.utterances.get slot sender.id) (later.utterances.get slot sender.id)) ∧
      (Ledger.times.slot? entry.filter = some slot →
        Ledger.times.revises entry.filter world.clock.elapsed text
          (memory.times.get slot sender.id) (later.times.get slot sender.id)) := by
  intro session memory later
  have native : session.filters.Native := (native_after config clock uptake plain).filters
  obtain ⟨utterances, times⟩ :=
    session.dispatch_kept world native.builtIn speaks wrote
  refine ⟨native.builtIn, fun entry member slot => ⟨fun owns => ?_, fun owns => ?_⟩⟩
  · refine utterances.revised (fun filter slot keeps => ?_) native.apart member owns
    cases filter <;> cases keeps
    rfl
  · refine times.revised (fun filter slot keeps => ?_) native.apart member owns
    cases filter <;> cases keeps
    rfl

end Session

end Switchboard
