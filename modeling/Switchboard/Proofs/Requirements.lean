import Mathlib.Tactic.Common
import Switchboard.Channel.Requirements

/-! What the checks of a context establish. A context that passes the structural check of its
channel has everything but its parsed message, and processing takes nothing away from it. -/
namespace Switchboard

namespace Context

/-- Neither filtering nor parsing has left its mark on the context. -/
structure Fresh (context : Context) : Prop where
  unfiltered : context.filtered = none
  unparsed : context.rendered = none

theorem require_eq_ok_iff {context : Context} {requirements : List Requirement} :
    context.require requirements = .ok () ↔
      ∀ requirement ∈ requirements, requirement.metBy context = true := by
  unfold require
  cases found : requirements.find? (fun requirement => !requirement.metBy context) with
  | none => simpa using List.find?_eq_none.mp found
  | some requirement =>
    have unmet := List.find?_some found
    have member := List.mem_of_find?_eq_some found
    constructor
    · intro same; cases same
    · intro met; simp [met requirement member] at unmet

/-- The first of the requirements that the context does not meet. -/
def FirstUnmet (context : Context) (requirements : List Requirement) (unmet : Requirement) : Prop :=
  ∃ before after, requirements = before ++ unmet :: after ∧
    (∀ requirement ∈ before, requirement.metBy context = true) ∧ unmet.metBy context = false

theorem require_eq_error_iff {context : Context} {requirements : List Requirement}
    {error : ContextError} : context.require requirements = .error error ↔
      ∃ unmet, context.FirstUnmet requirements unmet ∧ error = .unmet unmet := by
  unfold require
  cases found : requirements.find? (fun requirement => !requirement.metBy context) with
  | none =>
    have met := List.find?_eq_none.mp found
    constructor
    · intro failed; cases failed
    · rintro ⟨unmet, ⟨before, after, rfl, -, fails⟩, -⟩
      simpa [fails] using met unmet (by simp)
  | some first =>
    obtain ⟨fails, before, after, parts, earlier⟩ := List.find?_eq_some_iff_append.mp found
    have firstUnmet : context.FirstUnmet requirements first :=
      ⟨before, after, parts, by simpa using earlier, by simpa using fails⟩
    constructor
    · intro failed
      cases failed
      exact ⟨first, firstUnmet, rfl⟩
    · rintro ⟨unmet, ⟨front, back, same, met, unmetFails⟩, rfl⟩
      have alsoFound : requirements.find? (fun requirement => !requirement.metBy context) =
          some unmet :=
        List.find?_eq_some_iff_append.mpr
          ⟨by simp [unmetFails], front, back, same, by simpa using met⟩
      rw [found] at alsoFound
      cases alsoFound
      rfl

/-- Requirements that are checked in two lots fail as one list would. -/
theorem require_append (context : Context) (first second : List Requirement) :
    context.require (first ++ second) = (do context.require first; context.require second) := by
  unfold require
  rw [List.find?_append]
  cases first.find? (fun requirement => !requirement.metBy context) <;> rfl

theorem requireSender_of_some {context : Context} {sender : Account}
    (speaks : context.sender = some sender) : context.requireSender = .ok sender := by
  rw [requireSender, speaks, demand]

theorem requireTarget_of_some {context : Context} {target : Account}
    (addressed : context.target = some target) : context.requireTarget = .ok target := by
  rw [requireTarget, addressed, demand]

theorem requireServer_of_some {context : Context} {server : String}
    (placed : context.server = some server) : context.requireServer = .ok server := by
  rw [requireServer, placed, demand]

theorem setFiltered_of_unfiltered {context : Context} (unfiltered : context.filtered = none)
    (text : String) : context.setFiltered text = .ok { context with filtered := some text } := by
  simp [setFiltered, require, Requirement.metBy, has, unfiltered]

theorem setFiltered_of_filtered {context : Context} (filtered : context.filtered.isSome)
    (text : String) : context.setFiltered text = .error (.unmet (.absent .filtered)) := by
  simp [setFiltered, require, Requirement.metBy, has, filtered]

theorem setRendered_of_unparsed {context : Context} (unparsed : context.rendered = none)
    (message : Message) :
    context.setRendered message = .ok { context with rendered := some message } := by
  simp [setRendered, require, Requirement.metBy, has, unparsed]

theorem setRendered_of_parsed {context : Context} (parsed : context.rendered.isSome)
    (message : Message) : context.setRendered message = .error (.unmet (.absent .parsed)) := by
  simp [setRendered, require, Requirement.metBy, has, parsed]

end Context

namespace Channel

variable {channel : Channel} {context : Context}

/-- Whether messages on the channel say what somebody wrote. Of the others, the template says
everything. -/
def carriesMessage : Channel → Bool
  | join | leave | switch => false
  | globalChat | localChat | multicastChat | staffChat | direct | alert => true

theorem message_required (carries : channel.carriesMessage = true) :
    .present .message ∈ channel.requirements := by
  cases channel <;> simp_all [carriesMessage, requirements]

theorem seq_eq_ok_iff {first second : Except ContextError Unit} :
    (first >>= fun _ => second) = .ok () ↔ first = .ok () ∧ second = .ok () := by
  cases first <;> simp [bind, Except.bind]

/-- What the structural check asks, in its order. -/
def structural (channel : Channel) : List Requirement :=
  common ++ channel.requirements.filter (fun requirement => !requirement.deferred)

theorem checkStructure_eq_require :
    channel.checkStructure context = context.require channel.structural := by
  rw [structural, Context.require_append, checkStructure]

theorem checkStructure_eq_ok_iff : channel.checkStructure context = .ok () ↔
    (∀ requirement ∈ common, requirement.metBy context = true) ∧
    ∀ requirement ∈ channel.requirements, requirement.deferred = false →
      requirement.metBy context = true := by
  unfold checkStructure
  rw [seq_eq_ok_iff, Context.require_eq_ok_iff, Context.require_eq_ok_iff]
  simp [and_imp]

theorem checkProgress_eq_ok_iff : channel.checkProgress context = .ok () ↔
    ∀ requirement ∈ channel.requirements, requirement.deferred = true →
      requirement.metBy context = true := by
  unfold checkProgress
  rw [Context.require_eq_ok_iff]
  simp [and_imp]

theorem checkRequirements_eq_ok_iff : channel.checkRequirements context = .ok () ↔
    channel.checkStructure context = .ok () ∧ channel.checkProgress context = .ok () := by
  unfold checkRequirements
  rw [seq_eq_ok_iff, Context.require_eq_ok_iff, Context.require_eq_ok_iff,
    checkStructure_eq_ok_iff, checkProgress_eq_ok_iff]
  constructor
  · rintro ⟨base, own⟩
    exact ⟨⟨base, fun requirement member _ => own requirement member⟩,
      fun requirement member _ => own requirement member⟩
  · rintro ⟨⟨base, now⟩, later⟩
    refine ⟨base, fun requirement member => ?_⟩
    cases deferred : requirement.deferred with
    | false => exact now requirement member deferred
    | true => exact later requirement member deferred

theorem sender_of_structure (sound : channel.checkStructure context = .ok ()) :
    ∃ sender, context.sender = some sender := by
  have met := (checkStructure_eq_ok_iff.mp sound).1 (.present .sender) (by simp [common])
  exact Option.isSome_iff_exists.mp (by simpa [Requirement.metBy, Context.has] using met)

theorem has_of_structure {field : Field} (sound : channel.checkStructure context = .ok ())
    (asked : Requirement.present field ∈ channel.requirements)
    (now : (Requirement.present field).deferred = false) : context.has field = true := by
  simpa [Requirement.metBy] using (checkStructure_eq_ok_iff.mp sound).2 _ asked now

theorem untargeted_of_structure (sound : channel.checkStructure context = .ok ())
    (asked : Requirement.absent .target ∈ channel.requirements) : context.target = none := by
  have met := (checkStructure_eq_ok_iff.mp sound).2 _ asked rfl
  simpa [Requirement.metBy, Context.has] using met

/-- A channel that says no more than its template takes no message. -/
theorem wordless_of_structure (sound : channel.checkStructure context = .ok ())
    (silent : channel.carriesMessage = false) : context.message = none := by
  have asked : .absent .message ∈ channel.requirements := by
    cases channel <;> simp_all [carriesMessage, requirements]
  have met := (checkStructure_eq_ok_iff.mp sound).2 _ asked rfl
  simpa [Requirement.metBy, Context.has] using met

theorem message_of_structure (sound : channel.checkStructure context = .ok ())
    (asked : Requirement.present .message ∈ channel.requirements) :
    ∃ raw, context.message = some raw :=
  Option.isSome_iff_exists.mp (has_of_structure sound asked rfl)

theorem target_of_structure (sound : channel.checkStructure context = .ok ())
    (asked : Requirement.present .target ∈ channel.requirements) :
    ∃ target, context.target = some target :=
  Option.isSome_iff_exists.mp (has_of_structure sound asked rfl)

theorem server_of_structure (sound : channel.checkStructure context = .ok ())
    (asked : Requirement.present .server ∈ channel.requirements) :
    ∃ server, context.server = some server :=
  Option.isSome_iff_exists.mp (has_of_structure sound asked rfl)

/-- The structural check does not look at what processing fills in. -/
theorem checkStructure_processed (filtered : Option String) (rendered : Option Message) :
    channel.checkStructure { context with filtered, rendered } =
      channel.checkStructure context := by
  cases channel <;> rfl

/-- The parsed message is all that any channel asks of processing. -/
theorem checkProgress_of_parsed {message : Message} (parsed : context.rendered = some message) :
    channel.checkProgress context = .ok () := by
  rw [checkProgress_eq_ok_iff]
  cases channel <;>
    simp [requirements, Requirement.deferred, Requirement.metBy, Context.has, parsed]

/-- Local chat that may be sent may also be relayed. -/
theorem checkStructure_relayed (sound : localChat.checkStructure context = .ok ()) :
    multicastChat.checkStructure { context with channel := some .multicastChat } = .ok () := by
  obtain ⟨base, own⟩ := checkStructure_eq_ok_iff.mp sound
  have speaks := base (.present .sender) (by simp [common])
  refine checkStructure_eq_ok_iff.mpr ⟨?_, ?_⟩
  · intro requirement member
    simp only [common, List.mem_cons, List.not_mem_nil, or_false] at member
    rcases member with rfl | rfl
    · rfl
    · exact speaks
  · intro requirement member now
    have met := own requirement member now
    simp only [requirements, List.mem_cons, List.not_mem_nil, or_false] at member
    rcases member with rfl | rfl | rfl | rfl <;> exact met

end Channel

end Switchboard
