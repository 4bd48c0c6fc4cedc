import Mathlib.Data.List.Pairwise
import Mathlib.Tactic.Common
import Switchboard.Proofs.Recipients
import Switchboard.Proofs.Validation
import Switchboard.Session

/-! Which servers share local chat. The groups of accepted settings have no server in common, so it
does not matter that only the first group of a server counts: two servers share local chat if some
group has both, and then they share it both ways. -/
namespace Switchboard

namespace ServerGroups

variable {groups : ServerGroups} {group other : List String} {server source : String}

/-- Local chat from `source` reaches everyone on `server`. -/
def Reaches (groups : ServerGroups) (source server : String) : Prop :=
  ∀ account : Account, account.server = some server →
    Audience.within groups (some source) account = true

theorem Separate.unique (separate : groups.Separate) (member : group ∈ groups)
    (memberOther : other ∈ groups) (here : server ∈ group) (there : server ∈ other) :
    group = other := by
  have symmetric : Std.Symm (List.Disjoint (α := String)) :=
    ⟨fun _ _ apart _ here there => apart there here⟩
  by_contra differs
  exact separate.disjoint.forall member memberOther differs here there

/-- Without overlaps, any group with both servers is the first group of either. -/
theorem Separate.linked_iff (separate : groups.Separate) :
    groups.Linked server source ↔ ∃ group ∈ groups, source ∈ group ∧ server ∈ group := by
  constructor
  · rintro ⟨earlier, group, later, rfl, -, here, there⟩
    exact ⟨group, List.mem_append_right earlier List.mem_cons_self, there, here⟩
  · rintro ⟨group, member, there, here⟩
    obtain ⟨earlier, later, rfl⟩ := List.append_of_mem member
    refine ⟨earlier, group, later, rfl, fun other before inOther => ?_, here, there⟩
    have apart := (List.pairwise_append.mp separate.disjoint).2.2
    exact apart other before group List.mem_cons_self inOther here

theorem Separate.within_iff (separate : groups.Separate) {account : Account}
    (placed : account.server = some server) :
    Audience.within groups (some source) account = true ↔
      source = server ∨ ∃ group ∈ groups, source ∈ group ∧ server ∈ group := by
  rw [Audience.within, Audience.either_iff, Audience.onServer_iff, Audience.onJoined_iff, placed,
    ← separate.linked_iff]
  constructor
  · rintro (same | ⟨_, same, -, linked⟩)
    · exact .inl (Option.some.inj same).symm
    · exact .inr (Option.some.inj same ▸ linked)
  · rintro (rfl | linked)
    · exact .inl rfl
    · by_cases same : server = source
      · exact .inl (congrArg some same)
      · exact .inr ⟨server, rfl, same, linked⟩

theorem Separate.reaches_iff (separate : groups.Separate) :
    groups.Reaches source server ↔
      source = server ∨ ∃ group ∈ groups, source ∈ group ∧ server ∈ group := by
  constructor
  · intro reaches
    exact (separate.within_iff rfl).mp (reaches { id := 0, name := "", server := some server } rfl)
  · intro shared account placed
    exact (separate.within_iff placed).mpr shared

theorem Separate.equivalence (separate : groups.Separate) : Equivalence groups.Reaches where
  refl server := separate.reaches_iff.mpr (.inl rfl)
  symm reaches := by
    rcases separate.reaches_iff.mp reaches with rfl | ⟨group, member, here, there⟩
    · exact reaches
    · exact separate.reaches_iff.mpr (.inr ⟨group, member, there, here⟩)
  trans reaches reachesOn := by
    rcases separate.reaches_iff.mp reaches with rfl | ⟨group, member, here, there⟩
    · exact reachesOn
    rcases separate.reaches_iff.mp reachesOn with rfl | ⟨next, memberNext, hereNext, thereNext⟩
    · exact reaches
    -- The server in the middle is in both groups, so there is only one.
    have same : group = next := separate.unique member memberNext there hereNext
    exact separate.reaches_iff.mpr (.inr ⟨group, member, here, same ▸ thereNext⟩)

end ServerGroups

/-- Accepted settings with multicasting divide the servers into classes that share local chat: the
groups, and every other server by itself. -/
theorem Config.sharing_equivalence {config : Config} (accepted : config.validate = .ok ())
    (multicasts : config.enabled .multicastChat = true) :
    let groups := (Settings.ofConfig config).serverGroups
    Equivalence groups.Reaches ∧
      ∀ source server account, account.server = some server →
        (Audience.within groups (some source) account = true ↔
          source = server ∨ ∃ group ∈ config.serverGroups, source ∈ group ∧ server ∈ group) := by
  intro groups
  have separate : groups.Separate := (validate_eq_ok_iff.mp accepted).2 .multicastChat multicasts
  exact ⟨separate.equivalence, fun source server account placed => separate.within_iff placed⟩

/-- A server may be named twice in its group. -/
theorem Config.sharing_equivalence_twice :
    let config : Config := {
      enabled := fun _ => true
      serverGroups := [["hub", "lobby", "hub"], ["isle", "reef"]] }
    let groups := (Settings.ofConfig config).serverGroups
    config.validate = .ok () ∧ groups.Reaches "lobby" "hub" ∧ groups.Reaches "hub" "lobby" ∧
      ¬groups.Reaches "reef" "hub" := by
  intro config groups
  have accepted : config.validate = .ok () := validate_of_problems.mpr (by decide +kernel)
  obtain ⟨equivalence, exactly⟩ := sharing_equivalence accepted rfl
  have shared : groups.Reaches "lobby" "hub" := fun account placed =>
    (exactly _ _ account placed).mpr (.inr ⟨_, List.mem_cons_self, by decide, by decide⟩)
  refine ⟨accepted, shared, equivalence.symm shared, fun reaches => ?_⟩
  have apart := (exactly "reef" "hub" { id := 0, name := "", server := some "hub" } rfl).mp
    (reaches _ rfl)
  revert apart
  decide

end Switchboard
