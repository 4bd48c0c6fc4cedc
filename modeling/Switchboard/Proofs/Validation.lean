import Mathlib.Data.List.Basic
import Mathlib.Tactic.Common
import Switchboard.Proofs.Overlaps

/-! What settings without problems are like. Some of it all settings have to satisfy, and some of it
only those that turn a feature on; `validate_eq_ok_iff` tells the two apart. The groups of servers
are in order exactly if each has two entries and no server is in two of them. -/
namespace Switchboard

/-- Every group has at least two entries, and no server is in two groups. -/
structure ServerGroups.Separate (groups : ServerGroups) : Prop where
  sized : ∀ group ∈ groups, 2 ≤ group.length
  disjoint : groups.Pairwise List.Disjoint

namespace Config

/-- What settings have to be like whatever features are on. -/
structure Sound (config : Config) : Prop where
  channel : carriesChat config.defaultChannel = true
  patterns : ∀ pattern ∈ config.patterns, (Regex.read? pattern).isSome = true
  shortcodes : ∀ entry ∈ config.shortcodes, isShortcodeName entry.1 = true
  templates : ∀ format : Format, format.carriesMessage = true →
    Template.carriesMessage (config.templates format) = true

/-- What they have to be like for a feature to be on. -/
def Fit (config : Config) : Feature → Prop
  | .antiDuplication => config.pastMessages ≠ 0 ∧ config.expireAfter ≠ 0
  | .antiSpam => config.messagesPerMinute ≠ 0
  | .multicastChat => config.serverGroups.Separate
  | .globalChat => config.globalServers ≠ some []
  | .filter | .muting | .emoji | .spy | .ignoring | .chatLogging => True

variable {config : Config}

theorem need_eq_nil_iff {holds : Bool} {problem : Problem} :
    need holds problem = [] ↔ holds = true := by
  cases holds <;> simp [need]

theorem scanGroups_eq_nil_iff (groups : ServerGroups) :
    scanGroups 0 groups [] = [] ↔ groups.Separate := by
  have kinds : scanGroups 0 groups [] = [] ↔
      (scanGroups 0 groups []).filter (·.sharing? == none) = [] ∧
      ∀ problem ∈ scanGroups 0 groups [], problem.sharing? = none := by
    rw [List.filter_eq_nil_iff]
    constructor
    · intro nothing
      rw [nothing]
      exact ⟨nofun, nofun⟩
    · rintro ⟨shared, unshared⟩
      refine List.eq_nil_iff_forall_not_mem.mpr fun problem member => ?_
      exact shared problem member (beq_iff_eq.mpr (unshared problem member))
  rw [kinds, filter_none_scanGroups, List.map_eq_nil_iff, List.findIdxs_eq_nil_iff, unshared_iff]
  simp only [filter_start, List.map_eq_nil_iff, neighbours_eq_nil_iff, ← groups.disjoint_iff]
  have sized (group : List String) : decide (group.length < 2) = false ↔ 2 ≤ group.length := by
    rw [decide_eq_false_iff_not, Nat.not_lt]
  simp only [sized]
  exact ⟨fun ⟨sized, disjoint⟩ => ⟨sized, disjoint⟩, fun separate => ⟨separate.1, separate.2⟩⟩

/-! ## All settings -/

theorem duplicationProblems_eq_nil_iff : config.duplicationProblems = [] ↔
    (config.enabled .antiDuplication = true → config.Fit .antiDuplication) := by
  unfold duplicationProblems Fit
  cases config.enabled .antiDuplication <;> simp [need_eq_nil_iff]

theorem groupProblems_eq_nil_iff : config.groupProblems = [] ↔
    (config.enabled .multicastChat = true → config.Fit .multicastChat) := by
  unfold groupProblems Fit
  cases config.enabled .multicastChat <;> simp [scanGroups_eq_nil_iff]

theorem patternProblems_eq_nil_iff : config.patternProblems = [] ↔
    ∀ pattern ∈ config.patterns, (Regex.read? pattern).isSome = true := by
  simp only [patternProblems, List.flatten_eq_nil_iff, List.mem_mapIdx]
  constructor
  · intro faultless pattern member
    obtain ⟨index, bound, rfl⟩ := List.getElem_of_mem member
    exact need_eq_nil_iff.mp (faultless _ ⟨index, bound, rfl⟩)
  · rintro readable _ ⟨index, bound, rfl⟩
    exact need_eq_nil_iff.mpr (readable _ (List.getElem_mem bound))

theorem shortcodeProblems_eq_nil_iff : config.shortcodeProblems = [] ↔
    ∀ entry ∈ config.shortcodes, isShortcodeName entry.1 = true := by
  simp only [shortcodeProblems, List.flatMap_eq_nil_iff, need_eq_nil_iff]

theorem templateProblems_eq_nil_iff : config.templateProblems = [] ↔
    ∀ format : Format, format.carriesMessage = true →
      Template.carriesMessage (config.templates format) = true := by
  simp only [templateProblems, List.flatMap_eq_nil_iff, need_eq_nil_iff, Format.mem_all,
    forall_const]
  apply forall_congr'
  intro format
  cases format.carriesMessage <;> simp

theorem validate_of_problems : config.validate = .ok () ↔ config.problems = [] := by
  unfold validate
  cases config.problems <;> simp

/-- Settings are accepted exactly if they are sound and fit for all the features that they turn
on. -/
theorem validate_eq_ok_iff : config.validate = .ok () ↔
    config.Sound ∧ ∀ feature, config.enabled feature = true → config.Fit feature := by
  have antiSpam : (!config.enabled .antiSpam || config.messagesPerMinute != 0) = true ↔
      (config.enabled .antiSpam = true → config.Fit .antiSpam) := by
    cases config.enabled .antiSpam <;> simp [Fit]
  have globalChat : (!config.enabled .globalChat || config.globalServers != some []) = true ↔
      (config.enabled .globalChat = true → config.Fit .globalChat) := by
    cases config.enabled .globalChat <;> simp [Fit]
  simp only [validate_of_problems, problems, List.append_eq_nil_iff, need_eq_nil_iff, antiSpam,
    globalChat, duplicationProblems_eq_nil_iff, patternProblems_eq_nil_iff,
    shortcodeProblems_eq_nil_iff, groupProblems_eq_nil_iff, templateProblems_eq_nil_iff]
  constructor
  · rintro ⟨⟨⟨⟨⟨⟨⟨channel, duplication⟩, spam⟩, patterns⟩, shortcodes⟩, groups⟩, list⟩, templates⟩
    refine ⟨⟨channel, patterns, shortcodes, templates⟩, fun feature on => ?_⟩
    cases feature with
    | antiDuplication => exact duplication on
    | antiSpam => exact spam on
    | multicastChat => exact groups on
    | globalChat => exact list on
    | filter | muting | emoji | spy | ignoring | chatLogging => trivial
  · rintro ⟨sound, fit⟩
    exact ⟨⟨⟨⟨⟨⟨⟨sound.channel, fit _⟩, fit _⟩, sound.patterns⟩, sound.shortcodes⟩, fit _⟩, fit _⟩,
      sound.templates⟩

end Config

end Switchboard
