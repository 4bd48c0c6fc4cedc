import Mathlib.Data.List.Basic
import Mathlib.Tactic.Common
import Switchboard.Config.Problem

/-! Servers that are in several groups. The groups are gone through once, and only the latest group
of each server is kept in mind. So a server is reported once for every group but the first that has
it, beside the group before, however often it is named within one group. -/
namespace Switchboard

/-- The numbers of the groups that have the server, in ascending order. -/
def ServerGroups.holding (groups : ServerGroups) (server : String) : List Nat :=
  groups.findIdxs fun group => group.contains server

/-- Each number of a list with the one that comes next. -/
def neighbours (numbers : List Nat) : List (Nat × Nat) := numbers.zip numbers.tail

/-- The server that is in two groups, if that is the problem. -/
def Problem.sharing? : Problem → Option String
  | sharedServer server _ _ => some server
  | _ => none

theorem length_neighbours (numbers : List Nat) :
    (neighbours numbers).length = numbers.length - 1 := by
  simp [neighbours]

theorem neighbours_eq_nil_iff {numbers : List Nat} :
    neighbours numbers = [] ↔ numbers.length ≤ 1 := by
  rw [← List.length_eq_zero_iff, length_neighbours]
  omega

theorem ServerGroups.length_holding (groups : ServerGroups) (server : String) :
    (groups.holding server).length = groups.countP fun group => group.contains server :=
  List.length_findIdxs

/-- No two groups have a server in common exactly if each server is in one group at most. -/
theorem ServerGroups.disjoint_iff (groups : ServerGroups) :
    groups.Pairwise List.Disjoint ↔ ∀ server, (groups.holding server).length ≤ 1 := by
  simp only [length_holding]
  induction groups with
  | nil => simp
  | cons group rest ih =>
    simp only [List.pairwise_cons, ih, List.countP_cons, List.contains_iff_mem]
    constructor
    · rintro ⟨apart, atMost⟩ server
      by_cases here : server ∈ group
      · have elsewhere : rest.countP (fun group => group.contains server) = 0 :=
          List.countP_eq_zero.mpr fun other there => by simpa using apart other there here
        exact Nat.le_of_eq (by rw [elsewhere, if_pos here])
      · rw [if_neg here]
        exact atMost server
    · intro atMost
      refine ⟨fun other there server here inOther => ?_, fun server => ?_⟩
      · have found : 0 < rest.countP fun group => group.contains server :=
          List.countP_pos_iff.mpr ⟨other, there, by simpa using inOther⟩
        have := atMost server
        rw [if_pos here] at this
        omega
      · have := atMost server
        omega

namespace Config

/-- Only groups before that number were seen. -/
def Seen.Before (seen : Seen) (index : Nat) : Prop :=
  ∀ server last, seen.lookup server = some last → last < index

/-- What is reported of a server of a group when it comes up. -/
def recurrence (index : Nat) (seen : Seen) (server : String) : List Problem :=
  (seen.lookup server).elim [] fun last => need (last == index) (.sharedServer server last index)

variable {config : Config} {problems : List Problem} {index : Nat} {seen : Seen}

theorem scanGroup_cons (index : Nat) (server : String) (rest : List String) (seen : Seen) :
    (scanGroup index (server :: rest) seen).1 =
      recurrence index seen server ++ (scanGroup index rest ((server, index) :: seen)).1 := by
  rw [scanGroup, recurrence]
  cases seen.lookup server <;> rfl

theorem scanGroups_cons (index : Nat) (group : List String) (rest : ServerGroups) (seen : Seen) :
    scanGroups index (group :: rest) seen =
      need (group.length ≥ 2) (.smallGroup index) ++ (scanGroup index group seen).1 ++
        scanGroups (index + 1) rest (scanGroup index group seen).2 := rfl

theorem lookup_scanGroup (index : Nat) (group : List String) (seen : Seen) (server : String) :
    (scanGroup index group seen).2.lookup server =
      if server ∈ group then some index else seen.lookup server := by
  induction group generalizing seen with
  | nil => rfl
  | cons first rest ih =>
    have onward : (scanGroup index (first :: rest) seen).2 =
        (scanGroup index rest ((first, index) :: seen)).2 := rfl
    rw [onward, ih, List.lookup_cons]
    by_cases same : server = first
    · simp [same]
    · simp [same, beq_eq_false_iff_ne.mpr same]

theorem Seen.Before.scanGroup (before : Seen.Before seen index) (group : List String) :
    Seen.Before (scanGroup index group seen).2 (index + 1) := by
  intro server last found
  rw [lookup_scanGroup] at found
  split at found
  · cases found
    exact Nat.lt_add_one _
  · exact Nat.lt_add_right 1 (before server last found)

theorem filter_recurrence (index : Nat) (seen : Seen) (server other : String) :
    (recurrence index seen other).filter (·.sharing? == some server) =
      if server = other then recurrence index seen other else [] := by
  rw [recurrence]
  cases seen.lookup other with
  | none => simp
  | some last =>
    by_cases same : last = index
    · simp [need, same]
    · by_cases own : server = other
      · simp [need, same, own, Problem.sharing?]
      · simp [need, same, own, Ne.symm own, Problem.sharing?]

/-- A server that is named again within a group adds nothing. -/
theorem filter_scanGroup (index : Nat) (group : List String) (seen : Seen) (server : String) :
    (scanGroup index group seen).1.filter (·.sharing? == some server) =
      if server ∈ group then recurrence index seen server else [] := by
  induction group generalizing seen with
  | nil => rfl
  | cons first rest ih =>
    rw [scanGroup_cons, List.filter_append, filter_recurrence, ih]
    by_cases same : server = first
    · -- In what is left, `first` counts as last seen in this group.
      have again : recurrence index ((first, index) :: seen) first = [] := by
        simp [recurrence, need]
      simp [same, again]
    · have onward : recurrence index ((first, index) :: seen) server =
          recurrence index seen server := by
        rw [recurrence, List.lookup_cons, beq_eq_false_iff_ne.mpr same]
        rfl
      simp [same, onward]

theorem filter_scanGroups (index : Nat) (groups : ServerGroups) (seen : Seen)
    (before : Seen.Before seen index) (server : String) :
    (scanGroups index groups seen).filter (·.sharing? == some server) =
      (neighbours ((seen.lookup server).toList ++
        groups.findIdxs (fun group => group.contains server) index)).map
          fun (first, second) => .sharedServer server first second := by
  induction groups generalizing index seen with
  | nil =>
    cases seen.lookup server <;> rfl
  | cons group rest ih =>
    have small : (need (group.length ≥ 2) (.smallGroup index)).filter
        (·.sharing? == some server) = [] := by
      by_cases large : group.length ≥ 2 <;> simp [need, large, Problem.sharing?]
    rw [scanGroups_cons, List.filter_append, List.filter_append, small, List.nil_append,
      filter_scanGroup, ih _ _ (before.scanGroup group), lookup_scanGroup, List.findIdxs_cons]
    by_cases member : server ∈ group
    · simp only [member, List.contains_eq_mem, decide_true, if_true]
      cases found : seen.lookup server with
      | none => simp [recurrence, found]
      | some last =>
        have earlier : last ≠ index := Nat.ne_of_lt (before server last found)
        simp [recurrence, found, need, earlier, neighbours]
    · simp [member]

theorem sharing_of_mem_scanGroup (index : Nat) (group : List String) (seen : Seen) :
    ∀ problem ∈ (scanGroup index group seen).1, problem.sharing? ≠ none := by
  induction group generalizing seen with
  | nil => nofun
  | cons first rest ih =>
    rw [scanGroup_cons, List.forall_mem_append]
    refine ⟨?_, ih _⟩
    rw [recurrence]
    cases seen.lookup first with
    | none => nofun
    | some last => by_cases same : last = index <;> simp [need, same, Problem.sharing?]

theorem filter_none_scanGroups (index : Nat) (groups : ServerGroups) (seen : Seen) :
    (scanGroups index groups seen).filter (·.sharing? == none) =
      (groups.findIdxs (fun group => group.length < 2) index).map .smallGroup := by
  induction groups generalizing index seen with
  | nil => rfl
  | cons group rest ih =>
    have shared : (scanGroup index group seen).1.filter (·.sharing? == none) = [] := by
      simpa using sharing_of_mem_scanGroup index group seen
    rw [scanGroups_cons, List.filter_append, List.filter_append, shared, ih, List.findIdxs_cons]
    by_cases small : group.length < 2
    · have few : ¬2 ≤ group.length := Nat.not_le.mpr small
      simp [need, small, few, Problem.sharing?]
    · simp [need, small, Nat.not_lt.mp small]

theorem filter_start (groups : ServerGroups) (server : String) :
    (scanGroups 0 groups []).filter (·.sharing? == some server) =
      (neighbours (groups.holding server)).map
        fun (first, second) => .sharedServer server first second :=
  filter_scanGroups 0 groups [] nofun server

theorem unshared_iff :
    (∀ problem ∈ problems, problem.sharing? = none) ↔
      ∀ server, problems.filter (·.sharing? == some server) = [] := by
  simp only [List.filter_eq_nil_iff, beq_iff_eq]
  constructor
  · intro unshared server problem member
    rw [unshared problem member]
    nofun
  · intro unshared problem member
    exact Option.eq_none_iff_forall_ne_some.mpr fun server => unshared server problem member

/-- Of each server that is in several groups, every two groups that come next to each other among
them are reported once, in order, and no other two. So nothing of the kind is reported exactly if
each server is in one group at most; what remains is said of groups with fewer than two entries. -/
theorem overlaps_reported (multicasts : config.enabled .multicastChat = true) :
    let groups := config.serverGroups
    (∀ server, config.groupProblems.filter (·.sharing? == some server) =
      (neighbours (groups.holding server)).map
        fun (first, second) => .sharedServer server first second) ∧
    (∀ server, (config.groupProblems.filter (·.sharing? == some server)).length =
      (groups.holding server).length - 1) ∧
    ((∀ problem ∈ config.groupProblems, problem.sharing? = none) ↔
      ∀ server, (groups.holding server).length ≤ 1) ∧
    config.groupProblems.filter (·.sharing? == none) =
      (groups.findIdxs fun group => group.length < 2).map .smallGroup := by
  intro groups
  have scanned : config.groupProblems = scanGroups 0 groups [] := if_pos multicasts
  rw [scanned]
  refine ⟨filter_start groups, fun server => ?_, ?_, filter_none_scanGroups 0 groups []⟩
  · rw [filter_start, List.length_map, length_neighbours]
  · simp only [unshared_iff, filter_start, List.map_eq_nil_iff, neighbours_eq_nil_iff]

/-- The server `hub` is named twice in a group, and a group without it comes between two with it. -/
theorem overlaps_reported_repeated :
    let config : Config := {
      enabled := fun _ => true
      serverGroups := [["hub", "lobby", "hub"], ["isle"], ["hub", "hub"], ["reef", "hub"]] }
    config.enabled .multicastChat = true ∧
      (config.groupProblems.filter (·.sharing? == some "hub")).map Problem.message =
        ["server 'hub' is in multicast groups 0 and 2",
          "server 'hub' is in multicast groups 2 and 3"] := by
  intro config
  have multicasts : config.enabled .multicastChat = true := rfl
  refine ⟨multicasts, ?_⟩
  rw [(overlaps_reported multicasts).1]
  decide

end Config

end Switchboard
