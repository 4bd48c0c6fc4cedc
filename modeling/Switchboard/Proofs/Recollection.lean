import Mathlib.Tactic.Common
import Switchboard.Proofs.Standing

/-! What the filters of a configuration can tell of their memory. They look at a history only
after its expired front is gone, so two memories that agree from now on, expired messages apart,
make the filters do the same, and agree afterwards. -/
namespace Switchboard

/-- Dropping a front twice is dropping it once, by the test that drops more. -/
theorem dropWhile_dropWhile {α : Type u} {drops dropsMore : α → Bool} {items : List α}
    (more : ∀ item, drops item = true → dropsMore item = true) :
    (items.dropWhile drops).dropWhile dropsMore = items.dropWhile dropsMore := by
  induction items with
  | nil => rfl
  | cons item rest ih =>
    cases dropped : drops item with
    | false => rw [List.dropWhile_cons, dropped, if_neg (by decide)]
    | true =>
      rw [List.dropWhile_cons, dropped, if_pos rfl, ih, List.dropWhile_cons,
        more item dropped, if_pos rfl]

namespace DuplicationRule

theorem remembered_remembered (rule : DuplicationRule) {now later : Nat} (after : now ≤ later)
    (history : List Utterance) :
    rule.remembered later (rule.remembered now history) = rule.remembered later history := by
  refine dropWhile_dropWhile fun utterance expired => ?_
  simp only [decide_eq_true_eq] at expired ⊢
  omega

theorem accept_remembered (rule : DuplicationRule) (now : Nat) (text : String)
    {history other : List Utterance}
    (alike : rule.remembered now history = rule.remembered now other) :
    rule.accept now text history = rule.accept now text other := by
  rw [accept, accept, alike]

end DuplicationRule

namespace RateLimit

theorem current_current {now later : Nat} (after : now ≤ later) (history : List Nat) :
    current later (current now history) = current later history := by
  refine dropWhile_dropWhile fun time passed => ?_
  simp only [ge_iff_le, decide_eq_true_eq] at passed ⊢
  omega

theorem accept_current (limit now : Nat) {history other : List Nat}
    (alike : current now history = current now other) :
    accept limit now history = accept limit now other := by
  rw [accept, accept, alike]

end RateLimit

open Registry

/-- The rule that the settings lay down for repetitions. -/
def Config.repetitions (config : Config) : DuplicationRule :=
  ⟨config.pastMessages, config.expireAfter * Clock.second, true⟩

/-- No filter of the settings can tell the memories apart, now or later. -/
structure Memory.Alike (config : Config) (now : Nat) (memory other : Memory) : Prop where
  utterances : ∀ id,
    config.repetitions.remembered now (memory.utterances.get duplicationSlot id) =
      config.repetitions.remembered now (other.utterances.get duplicationSlot id)
  times : ∀ id, RateLimit.current now (memory.times.get rateSlot id) =
    RateLimit.current now (other.times.get rateSlot id)

namespace Memory.Alike

variable {config : Config} {now later : Nat} {memory other : Memory} {id : AccountId}

theorem refl (config : Config) (now : Nat) (memory : Memory) : memory.Alike config now memory :=
  ⟨fun _ => rfl, fun _ => rfl⟩

theorem mono (alike : memory.Alike config now other) (after : now ≤ later) :
    memory.Alike config later other where
  utterances id := by
    rw [← config.repetitions.remembered_remembered after, alike.utterances id,
      config.repetitions.remembered_remembered after]
  times id := by
    rw [← RateLimit.current_current after, alike.times id, RateLimit.current_current after]

theorem keep_utterances (alike : memory.Alike config now other) {history otherHistory}
    (same : config.repetitions.remembered now history =
      config.repetitions.remembered now otherHistory) :
    Memory.Alike config now
      { memory with utterances := memory.utterances.keep duplicationSlot id history }
      { other with utterances := other.utterances.keep duplicationSlot id otherHistory } where
  utterances account := by
    by_cases kept : account = id
    · subst kept
      rw [Histories.get_keep_self, Histories.get_keep_self, same]
    · rw [Histories.get_keep_of_ne _ _ _ _ kept, Histories.get_keep_of_ne _ _ _ _ kept]
      exact alike.utterances account
  times := alike.times

theorem keep_times (alike : memory.Alike config now other) {history otherHistory}
    (same : RateLimit.current now history = RateLimit.current now otherHistory) :
    Memory.Alike config now { memory with times := memory.times.keep rateSlot id history }
      { other with times := other.times.keep rateSlot id otherHistory } where
  utterances := alike.utterances
  times account := by
    by_cases kept : account = id
    · subst kept
      rw [Histories.get_keep_self, Histories.get_keep_self, same]
    · rw [Histories.get_keep_of_ne _ _ _ _ kept, Histories.get_keep_of_ne _ _ _ _ kept]
      exact alike.times account

/-- That a history has lost its expired front makes no difference. -/
theorem prune_utterances (memory : Memory) (id : AccountId) :
    memory.Alike config now
      { memory with
        utterances := memory.utterances.keep duplicationSlot id
          (config.repetitions.remembered now (memory.utterances.get duplicationSlot id)) } where
  utterances account := by
    by_cases kept : account = id
    · subst kept
      rw [Histories.get_keep_self, config.repetitions.remembered_remembered (Nat.le_refl now)]
    · rw [Histories.get_keep_of_ne _ _ _ _ kept]
  times _ := rfl

theorem prune_times (memory : Memory) (id : AccountId) :
    memory.Alike config now
      { memory with
        times := memory.times.keep rateSlot id
          (RateLimit.current now (memory.times.get rateSlot id)) } where
  utterances _ := rfl
  times account := by
    by_cases kept : account = id
    · subst kept
      rw [Histories.get_keep_self, RateLimit.current_current (Nat.le_refl now)]
    · rw [Histories.get_keep_of_ne _ _ _ _ kept]

end Memory.Alike

/-! ## Filters of the switchboard's own kinds -/

def TextFilter.isBuiltIn : TextFilter → Bool
  | custom _ _ => false
  | mute _ | pattern _ _ | duplication _ _ _ | rateLimit _ _ _ => true

/-- The entry belongs to a feature as the settings have it. -/
def Entry.Configured (config : Config) (entry : Entry TextFilter) : Prop :=
  ∃ feature filter, configuredText config feature = some filter ∧
    entry = feature.entry TextFilter.priority filter

variable {config : Config} {feature : Feature} {filter : TextFilter} {clock : Clock}
  {sender : Account} {text : String} {memory other : Memory}

namespace TextFilter

theorem passIf_cases (passes : Bool) (notice : Message) (text : String) :
    passIf passes notice text = .ok text ∨ passIf passes notice text = .error ⟨notice⟩ := by
  cases passes
  · exact .inr rfl
  · exact .inl rfl

/-- Such a filter lets a text pass as it is or blocks it, and edits no chain. -/
theorem run_builtIn (builtIn : filter.isBuiltIn = true) :
    (filter.run clock sender text memory).edits = [] ∧
      ((filter.run clock sender text memory).outcome = .ok text ∨
        ∃ blocked, (filter.run clock sender text memory).outcome = .error blocked) := by
  cases filter with
  | custom => cases builtIn
  | mute | pattern =>
    refine ⟨rfl, (passIf_cases _ _ text).imp_right fun stopped => ⟨_, stopped⟩⟩
  | duplication =>
    refine ⟨rfl, ?_⟩
    simp only [run, runDuplication]
    split
    · exact .inl rfl
    · exact (passIf_cases _ _ text).imp_right fun stopped => ⟨_, stopped⟩
  | rateLimit =>
    refine ⟨rfl, ?_⟩
    simp only [run, runRateLimit]
    split
    · exact .inl rfl
    · exact (passIf_cases _ _ text).imp_right fun stopped => ⟨_, stopped⟩

theorem isBuiltIn_of_configured (owns : configuredText config feature = some filter) :
    filter.isBuiltIn = true := by
  cases feature <;> cases owns <;> rfl

theorem run_alike (owns : configuredText config feature = some filter)
    (alike : memory.Alike config clock.elapsed other) :
    (filter.run clock sender text memory).outcome = (filter.run clock sender text other).outcome ∧
      (filter.run clock sender text memory).memory.Alike config clock.elapsed
        (filter.run clock sender text other).memory := by
  cases feature <;> cases owns
  case filter | muting => exact ⟨rfl, alike⟩
  case antiDuplication =>
    simp only [run, runDuplication]
    split
    · exact ⟨rfl, alike⟩
    · have same := config.repetitions.accept_remembered clock.elapsed text
        (alike.utterances sender.id)
      unfold Config.repetitions at same
      rw [same]
      exact ⟨rfl, alike.keep_utterances rfl⟩
  case antiSpam =>
    simp only [run, runRateLimit]
    split
    · exact ⟨rfl, alike⟩
    · rw [RateLimit.accept_current config.messagesPerMinute clock.elapsed (alike.times sender.id)]
      exact ⟨rfl, alike.keep_times rfl⟩

end TextFilter

namespace Filters

/-- The same chains, and memories that no filter of the settings can tell apart. -/
def Alike (config : Config) (now : Nat) (filters other : Filters) : Prop :=
  ∃ memory, other = { filters with memory } ∧ filters.memory.Alike config now memory

variable {filters others : Filters} {entries : List (Entry TextFilter)}

theorem applyText_builtIn (builtIn : filter.isBuiltIn = true) :
    filters.applyText clock sender filter text =
      ((filter.run clock sender text filters.memory).outcome,
        { filters with memory := (filter.run clock sender text filters.memory).memory }) := by
  rw [applyText, (TextFilter.run_builtIn builtIn).1]
  rfl

/-- Running such filters changes what they remember and nothing else. -/
theorem runText_memory (configured : ∀ entry ∈ entries, entry.Configured config) :
    ∃ memory, (runText clock sender entries text filters).2 = { filters with memory } := by
  induction entries generalizing text filters with
  | nil => exact ⟨filters.memory, rfl⟩
  | cons entry rest ih =>
    obtain ⟨feature, filter, owns, rfl⟩ := configured entry List.mem_cons_self
    rw [runText, Feature.entry, applyText_builtIn (TextFilter.isBuiltIn_of_configured owns)]
    cases (filter.run clock sender text filters.memory).outcome with
    | error blocked => exact ⟨_, rfl⟩
    | ok passed => exact ih fun entry member => configured entry (.tail _ member)

theorem runText_alike (configured : ∀ entry ∈ entries, entry.Configured config)
    (alike : filters.Alike config clock.elapsed others) :
    (runText clock sender entries text filters).1 = (runText clock sender entries text others).1 ∧
      (runText clock sender entries text filters).2.Alike config clock.elapsed
        (runText clock sender entries text others).2 := by
  induction entries generalizing text filters others with
  | nil => exact ⟨rfl, alike⟩
  | cons entry rest ih =>
    obtain ⟨feature, filter, owns, rfl⟩ := configured entry List.mem_cons_self
    obtain ⟨memory, rfl, alike⟩ := alike
    obtain ⟨same, alikeAfter⟩ : (filter.run clock sender text filters.memory).outcome =
        (filter.run clock sender text memory).outcome ∧ _ := TextFilter.run_alike owns alike
    have builtIn := TextFilter.isBuiltIn_of_configured owns
    rw [runText, runText, Feature.entry, applyText_builtIn builtIn, applyText_builtIn builtIn,
      ← same]
    cases (filter.run clock sender text filters.memory).outcome with
    | error blocked => exact ⟨rfl, _, rfl, alikeAfter⟩
    | ok passed =>
      exact ih (fun entry member => configured entry (.tail _ member)) ⟨_, rfl, alikeAfter⟩

/-- The message as the features' filters over messages leave it. -/
def resolved (config : Config) (active : Feature → Bool) (message : Message) : Message :=
  if active .emoji then MessageFilter.runEmoji (.ofEntries config.shortcodes) message else message

/-- Chains of the features' filters and an alike memory. -/
def Twins (config : Config) (active : Feature → Bool) (now : Nat) (filters other : Filters) :
    Prop :=
  filters.Standing config active ∧ filters.Alike config now other

namespace Standing

variable {active : Feature → Bool}

theorem configured (standing : filters.Standing config active) :
    ∀ entry ∈ filters.text.entries, entry.Configured config := by
  intro entry member
  obtain ⟨feature, filter, -, owns, same⟩ := (standing.text.complete entry).mp member
  exact ⟨feature, filter, owns, same⟩

theorem filterText (standing : filters.Standing config active) :
    (filters.filterText clock sender text).2.Standing config active := by
  obtain ⟨memory, same⟩ : ∃ memory, (filters.filterText clock sender text).2 =
    { filters with memory } := runText_memory standing.configured
  rw [same]
  exact ⟨standing.text, standing.message⟩

/-- The chain over messages has one filter at most, that for shortcodes. -/
theorem message_entries (standing : filters.Standing config active) :
    filters.message.entries =
      if active .emoji then
        [Feature.emoji.entry MessageFilter.priority (.ofShortcodes config.shortcodes)]
      else [] := by
  let expected : Chain MessageFilter :=
    ⟨if active .emoji then
      [Feature.emoji.entry MessageFilter.priority (.ofShortcodes config.shortcodes)]
    else []⟩
  have stands : expected.Standing MessageFilter.priority (configuredMessage config) active := by
    constructor
    · change List.Pairwise _ (if _ then _ else _)
      split
      · exact List.pairwise_singleton _ _
      · exact List.Pairwise.nil
    · intro entry
      change entry ∈ (if _ then _ else _) ↔ _
      constructor
      · intro member
        split at member
        case isTrue on => exact ⟨.emoji, _, on, rfl, List.mem_singleton.mp member⟩
        case isFalse => cases member
      · rintro ⟨feature, filter, on, owns, rfl⟩
        cases feature <;> cases owns
        rw [if_pos on]
        exact List.mem_singleton.mpr rfl
  rw [standing.message.unique stands]

theorem filterMessage (standing : filters.Standing config active) (sender : Account)
    (message : Message) :
    filters.filterMessage sender message = (.ok (resolved config active message), filters) := by
  rw [Filters.filterMessage, standing.message_entries, resolved]
  split <;> rfl

end Standing

end Filters

end Switchboard
