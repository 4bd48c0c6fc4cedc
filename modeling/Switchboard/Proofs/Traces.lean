import Mathlib.Tactic.Common
import Switchboard.Proofs.Processing
import Switchboard.Proofs.Recollection

/-! What a blocked text leaves behind in the filters' memory. Each filter records what it lets pass
itself, whatever those behind it do. The one filter with a memory that has another behind it is
that against repetitions, so a text that comes too soon is remembered as one that was sent. -/
namespace Switchboard

open Registry

namespace Filters

/-- The filter of the feature blocks the text, which those ahead of it in the chain let pass. -/
def StoppedBy (filters : Filters) (clock : Clock) (sender : Account) (text : String)
    (feature : Feature) (reason : Message) : Prop :=
  ∃ ahead entry behind passed held later, filters.text.entries = ahead ++ entry :: behind ∧
    entry.key = feature.name ∧ runText clock sender ahead text filters = (.ok passed, held) ∧
    held.applyText clock sender entry.filter passed = (.error ⟨reason⟩, later)

variable {config : Config} {active : Feature → Bool} {filters held later : Filters} {clock : Clock}
  {sender : Account} {text passed : String} {entries others : List (Entry TextFilter)}
  {blocked : Blocked}

theorem runText_append (run : runText clock sender (entries ++ others) text filters =
    (.ok passed, held)) :
    ∃ between middle, runText clock sender entries text filters = (.ok between, middle) ∧
      runText clock sender others between middle = (.ok passed, held) := by
  induction entries generalizing text filters with
  | nil => exact ⟨text, filters, rfl, run⟩
  | cons entry rest ih =>
    rw [List.cons_append, runText] at run
    rw [runText]
    rcases same : filters.applyText clock sender entry.filter text with
      ⟨stopped | between, next⟩ <;> rw [same] at run
    · cases run
    · exact ih run

/-- A run that is blocked is blocked by one filter, after all those ahead of it. -/
theorem runText_blocked
    (run : runText clock sender entries text filters = (.error blocked, later)) :
    ∃ ahead entry behind passed held, entries = ahead ++ entry :: behind ∧
      runText clock sender ahead text filters = (.ok passed, held) ∧
      held.applyText clock sender entry.filter passed = (.error blocked, later) := by
  induction entries generalizing text filters with
  | nil => cases run
  | cons entry rest ih =>
    rw [runText] at run
    rcases same : filters.applyText clock sender entry.filter text with
      ⟨stopped | between, next⟩ <;> rw [same] at run
    · cases run
      exact ⟨[], entry, rest, text, filters, rfl, rfl, same⟩
    · obtain ⟨ahead, last, behind, passed, held, rfl, before, stops⟩ := ih run
      refine ⟨entry :: ahead, last, behind, passed, held, rfl, ?_, stops⟩
      rw [runText, same]
      exact before

theorem runText_text (configured : ∀ entry ∈ entries, entry.Configured config)
    (run : runText clock sender entries text filters = (.ok passed, held)) : passed = text := by
  induction entries generalizing filters with
  | nil =>
    cases run
    rfl
  | cons entry rest ih =>
    obtain ⟨feature, filter, owns, rfl⟩ := configured entry List.mem_cons_self
    have builtIn := TextFilter.isBuiltIn_of_configured owns
    rw [runText, Feature.entry, applyText_builtIn builtIn] at run
    rcases (TextFilter.run_builtIn builtIn).2 with same | ⟨stopped, same⟩ <;> rw [same] at run
    · exact ih (fun entry member => configured entry (.tail _ member)) run
    · cases run

end Filters

/-- The entry is that of muting or of the filter by patterns, which remember nothing. -/
def Entry.Plain (config : Config) (entry : Entry TextFilter) : Prop :=
  ∃ feature filter, (feature = .muting ∨ feature = .filter) ∧
    configuredText config feature = some filter ∧
    entry = feature.entry TextFilter.priority filter

/-- Only the filters against repetitions and haste, which stand at 300 and 400, are not plain. -/
theorem Entry.Configured.plain {config : Config} {entry : Entry TextFilter}
    (configured : entry.Configured config) (notRepetition : entry.priority ≠ 300)
    (notHaste : entry.priority ≠ 400) : entry.Plain config := by
  obtain ⟨feature, filter, owns, rfl⟩ := configured
  cases feature <;> cases owns
  case antiDuplication => exact absurd rfl notRepetition
  case antiSpam => exact absurd rfl notHaste
  case filter => exact ⟨_, _, .inr rfl, rfl, rfl⟩
  case muting => exact ⟨_, _, .inl rfl, rfl, rfl⟩

namespace Filters

variable {config : Config} {active : Feature → Bool} {filters held later : Filters} {clock : Clock}
  {sender : Account} {text passed : String} {entries : List (Entry TextFilter)}

theorem runText_plain (plain : ∀ entry ∈ entries, entry.Plain config) :
    (runText clock sender entries text filters).2 = filters := by
  induction entries generalizing text with
  | nil => rfl
  | cons entry rest ih =>
    obtain ⟨feature, filter, which, owns, rfl⟩ := plain entry List.mem_cons_self
    have kept : (filter.run clock sender text filters.memory).memory = filters.memory := by
      rcases which with rfl | rfl <;> cases owns <;> rfl
    have builtIn := TextFilter.isBuiltIn_of_configured owns
    rw [runText, Feature.entry, applyText_builtIn builtIn, kept]
    cases (filter.run clock sender text filters.memory).outcome with
    | error blocked => rfl
    | ok passed => exact ih fun entry member => plain entry (.tail _ member)

end Filters

/-! ## What each filter leaves -/

namespace DuplicationRule

variable {rule : DuplicationRule} {now : Nat} {text : String} {history : List Utterance}

theorem mem_accept {utterance : Utterance}
    (member : utterance ∈ (rule.accept now text history).2) :
    utterance ∈ history ∨ utterance = ⟨now, text⟩ := by
  have front : ∀ {utterance}, utterance ∈ rule.remembered now history → utterance ∈ history :=
    fun member => (List.dropWhile_sublist _).subset member
  unfold accept at member
  dsimp only at member
  split at member
  · exact .inl (front member)
  · rcases List.mem_append.mp member with earlier | last
    · split at earlier
      · exact .inl (front (List.mem_of_mem_drop earlier))
      · exact .inl (front earlier)
    · exact .inr (List.mem_singleton.mp last)

theorem known_of_rejected (rejected : (rule.accept now text history).1 = false) :
    (rule.accept now text history).2 = rule.remembered now history ∧
      ∃ utterance ∈ history, utterance.text = text := by
  unfold accept at rejected ⊢
  dsimp only at rejected ⊢
  split at rejected
  case isTrue known =>
    obtain ⟨utterance, member, same⟩ := List.any_eq_true.mp known
    rw [if_pos known]
    refine ⟨rfl, utterance, ?_, beq_iff_eq.mp same⟩
    exact (List.dropWhile_sublist _).subset member
  case isFalse => cases rejected

end DuplicationRule

theorem RateLimit.kept_of_rejected {limit now : Nat} {history : List Nat}
    (rejected : (accept limit now history).1 = false) :
    (accept limit now history).2 = current now history := by
  unfold accept at rejected ⊢
  dsimp only at rejected ⊢
  split at rejected
  case isTrue full => rw [if_pos full]
  case isFalse => cases rejected

namespace TextFilter

variable {clock : Clock} {sender : Account} {text : String} {memory : Memory} {notice : Message}
  {blocked : Blocked} {slot : Nat}

theorem passIf_error {passes : Bool} (stopped : passIf passes notice text = .error blocked) :
    passes = false := by
  cases passes
  · rfl
  · cases stopped

/-- A repetition is a text that the sender's history has, and the history only loses what has
expired. -/
theorem runDuplication_error {rule : DuplicationRule}
    (stopped : (runDuplication rule notice slot clock sender text memory).1 = .error blocked) :
    (∃ utterance ∈ memory.utterances.get slot sender.id, utterance.text = text) ∧
      (runDuplication rule notice slot clock sender text memory).2 =
        { memory with
          utterances := memory.utterances.keep slot sender.id
            (rule.remembered clock.elapsed (memory.utterances.get slot sender.id)) } := by
  unfold runDuplication at stopped ⊢
  split at stopped
  case isTrue => cases stopped
  case isFalse bound =>
    obtain ⟨kept, known⟩ := DuplicationRule.known_of_rejected (passIf_error stopped)
    rw [if_neg bound]
    dsimp only
    rw [kept]
    exact ⟨known, rfl⟩

theorem runRateLimit_error {limit : Nat}
    (stopped : (runRateLimit limit notice slot clock sender text memory).1 = .error blocked) :
    (runRateLimit limit notice slot clock sender text memory).2 =
      { memory with
        times := memory.times.keep slot sender.id
          (RateLimit.current clock.elapsed (memory.times.get slot sender.id)) } := by
  unfold runRateLimit at stopped ⊢
  split at stopped
  case isTrue => cases stopped
  case isFalse bound =>
    rw [if_neg bound]
    dsimp only
    rw [RateLimit.kept_of_rejected (passIf_error stopped)]

end TextFilter

/-! ## What a blocked text leaves -/

/-- The memory once the filter against repetitions has seen the text, if it is `noted` at all. -/
def Memory.noting (config : Config) (noted : Bool) (clock : Clock) (sender : Account)
    (text : String) (memory : Memory) : Memory :=
  if noted then
    (TextFilter.runDuplication config.repetitions (.ofText config.notices.antiDuplication)
      duplicationSlot clock sender text memory).2
  else memory

/-- The memory after a text is blocked, by the feature whose filter blocks it. -/
inductive Memory.Trace (config : Config) (noted : Bool) (clock : Clock) (sender : Account)
    (text : String) (memory : Memory) : Feature → Memory → Prop where
  | muted : Trace config noted clock sender text memory .muting memory
  | matched : Trace config noted clock sender text memory .filter memory
  | repeated
      (known : ∃ utterance ∈ memory.utterances.get duplicationSlot sender.id,
        utterance.text = text) :
      Trace config noted clock sender text memory .antiDuplication
        { memory with
          utterances := memory.utterances.keep duplicationSlot sender.id
            (config.repetitions.remembered clock.elapsed
              (memory.utterances.get duplicationSlot sender.id)) }
  /-- The text itself is noted as one that the sender has sent. -/
  | hurried (seen : Memory) (same : seen = memory.noting config noted clock sender text) :
      Trace config noted clock sender text memory .antiSpam
        { seen with
          times := seen.times.keep rateSlot sender.id
            (RateLimit.current clock.elapsed (seen.times.get rateSlot sender.id)) }

namespace Filters

variable {config : Config} {active : Feature → Bool} {filters held later : Filters} {clock : Clock}
  {sender : Account} {text passed : String} {ahead behind : List (Entry TextFilter)}
  {entry : Entry TextFilter} {reason : Message}

theorem plain_of_early (configured : ∀ other ∈ ahead, other.Configured config) {bound : Int}
    (early : ∀ other ∈ ahead, other.priority < bound) (low : bound ≤ 300) :
    ∀ other ∈ ahead, other.Plain config := by
  intro other member
  have before := early other member
  refine (configured other member).plain ?_ ?_ <;> omega

theorem held_of_plain (plain : ∀ other ∈ ahead, other.Plain config)
    (run : runText clock sender ahead text filters = (.ok passed, held)) : held = filters := by
  have kept : (runText clock sender ahead text filters).2 = filters := runText_plain plain
  rw [run] at kept
  exact kept

def repetitionsEntry (config : Config) : Entry TextFilter :=
  Feature.antiDuplication.entry TextFilter.priority
    (.duplication config.repetitions (.ofText config.notices.antiDuplication) duplicationSlot)

section

variable (standing : filters.Standing config active)
  (parts : filters.text.entries = ahead ++ entry :: behind)

include standing parts

theorem ahead_configured : ∀ other ∈ ahead, other.Configured config := by
  intro other member
  refine standing.configured other ?_
  rw [parts]
  exact List.mem_append_left _ member

theorem ahead_early : ∀ other ∈ ahead, other.priority < entry.priority := by
  have ascending := standing.text.ascending
  rw [parts, List.pairwise_append] at ascending
  exact fun other member => ascending.2.2 other member entry List.mem_cons_self

theorem ahead_ascending :
    ahead.Pairwise fun first second => first.priority < second.priority := by
  have ascending := standing.text.ascending
  rw [parts, List.pairwise_append] at ascending
  exact ascending.1

/-- Ahead of the filter against haste stand plain ones alone while repetitions are allowed. -/
theorem ahead_plain (hasty : entry.priority = 400) (noted : active .antiDuplication = false) :
    ∀ other ∈ ahead, other.Plain config := by
  intro other member
  have before := ahead_early standing parts other member
  refine (ahead_configured standing parts other member).plain ?_ (by omega)
  intro low
  obtain ⟨feature, filter, isActive, owns, rfl⟩ := (standing.text.complete other).mp (by
    rw [parts]
    exact List.mem_append_left _ member)
  cases feature <;> cases owns
  case antiDuplication => cases noted.symm.trans isActive
  all_goals cases low

/-- While they are not, the filter against them stands ahead, between plain ones. -/
theorem ahead_repetitions (hasty : entry.priority = 400) (noted : active .antiDuplication = true) :
    ∃ front back, ahead = front ++ repetitionsEntry config :: back ∧
      (∀ other ∈ front, other.Plain config) ∧ ∀ other ∈ back, other.Plain config := by
  have low : (repetitionsEntry config).priority = 300 := rfl
  have member : repetitionsEntry config ∈ ahead ++ entry :: behind := by
    rw [← parts]
    exact (standing.text.complete _).mpr ⟨_, _, noted, rfl, rfl⟩
  -- At or behind an entry of priority 400 there is no room for it.
  have standsAhead : repetitionsEntry config ∈ ahead := by
    rcases List.mem_append.mp member with here | there
    · exact here
    have ascending := standing.text.ascending
    rw [parts, List.pairwise_append, List.pairwise_cons] at ascending
    rcases List.mem_cons.mp there with same | there
    · rw [same] at low
      omega
    · have above := ascending.2.1.1 _ there
      omega
  obtain ⟨front, back, rfl⟩ := List.append_of_mem standsAhead
  have configured := ahead_configured standing parts
  have early := ahead_early standing parts
  have inOrder := ahead_ascending standing parts
  rw [List.pairwise_append, List.pairwise_cons] at inOrder
  obtain ⟨-, ⟨aboveFront, -⟩, belowFront⟩ := inOrder
  refine ⟨front, back, rfl, ?_, ?_⟩
  · intro other member
    have before := belowFront other member _ List.mem_cons_self
    refine (configured other (List.mem_append_left _ member)).plain ?_ ?_ <;> omega
  · intro other member
    have inAhead : other ∈ front ++ repetitionsEntry config :: back :=
      List.mem_append_right _ (.tail _ member)
    have before := aboveFront other member
    have after := early other inAhead
    refine (configured other inAhead).plain ?_ ?_ <;> omega

/-- The filters ahead of the one against haste remember a text as one that the sender has sent, if
the one against repetitions is among them. -/
theorem held_of_hurried (hasty : entry.priority = 400)
    (run : runText clock sender ahead text filters = (.ok passed, held)) :
    held = { filters with
      memory := filters.memory.noting config (active .antiDuplication) clock sender text } := by
  cases noted : active .antiDuplication with
  | false =>
    have plain := ahead_plain standing parts hasty noted
    rw [held_of_plain plain run]
    rfl
  | true =>
    obtain ⟨front, back, rfl, plainFront, plainBack⟩ :=
      ahead_repetitions standing parts hasty noted
    obtain ⟨between, middle, runFront, runBack⟩ := runText_append run
    have configured : ∀ other ∈ front, other.Configured config := fun other member =>
      ahead_configured standing parts other (List.mem_append_left _ member)
    cases held_of_plain plainFront runFront
    cases runText_text configured runFront
    have builtIn : (repetitionsEntry config).filter.isBuiltIn = true := rfl
    rw [runText, applyText_builtIn builtIn] at runBack
    rcases (TextFilter.run_builtIn builtIn).2 with same | ⟨stopped, same⟩ <;> rw [same] at runBack
    · exact held_of_plain plainBack runBack
    · cases runBack

end

/-- A text that the features' filters block is blocked by one of them, and leaves its trace. -/
theorem filterText_stopped (standing : filters.Standing config active)
    (stopped : filters.filterText clock sender text = (.error ⟨reason⟩, later)) :
    ∃ feature memory, filters.StoppedBy clock sender text feature reason ∧
      later = { filters with memory } ∧
      filters.memory.Trace config (active .antiDuplication) clock sender text feature memory := by
  obtain ⟨ahead, entry, behind, passed, held, parts, run, stops⟩ := runText_blocked stopped
  have configured : ∀ other ∈ ahead, other.Configured config := ahead_configured standing parts
  have early : ∀ other ∈ ahead, other.priority < entry.priority := ahead_early standing parts
  have passes : passed = text := runText_text configured run
  rw [passes] at run stops
  have stoppedBy : ∀ feature : Feature, entry.key = feature.name →
      filters.StoppedBy clock sender text feature reason :=
    fun feature key => ⟨ahead, entry, behind, text, held, later, parts, key, run, stops⟩
  obtain ⟨feature, filter, -, owns, rfl⟩ := (standing.text.complete entry).mp (by rw [parts]; simp)
  rw [Feature.entry, applyText_builtIn (TextFilter.isBuiltIn_of_configured owns)] at stops
  obtain ⟨outcome, same⟩ := Prod.mk.inj stops
  subst same
  -- Ahead of all but the filter against haste stand plain filters alone, so memory is as it was.
  cases feature <;> cases owns
  case muting =>
    have low : (0 : Int) ≤ 300 := by decide
    obtain rfl := held_of_plain (plain_of_early configured early low) run
    exact ⟨.muting, _, stoppedBy .muting rfl, rfl, .muted⟩
  case filter =>
    have low : (100 : Int) ≤ 300 := by decide
    obtain rfl := held_of_plain (plain_of_early configured early low) run
    exact ⟨.filter, _, stoppedBy .filter rfl, rfl, .matched⟩
  case antiDuplication =>
    obtain rfl := held_of_plain (plain_of_early configured early (Int.le_refl 300)) run
    obtain ⟨known, kept⟩ := TextFilter.runDuplication_error outcome
    refine ⟨.antiDuplication, _, stoppedBy .antiDuplication rfl, rfl, ?_⟩
    change Memory.Trace _ _ _ _ _ _ _ (TextFilter.runDuplication _ _ _ _ _ _ _).2
    rw [kept]
    exact .repeated known
  case antiSpam =>
    have same := held_of_hurried standing parts rfl run
    have kept := TextFilter.runRateLimit_error outcome
    refine ⟨.antiSpam, _, stoppedBy .antiSpam rfl, ?_, .hurried _ rfl⟩
    change ({ held with memory := (TextFilter.runRateLimit _ _ _ _ _ _ _).2 } : Filters) = _
    rw [kept, same]

end Filters

/-! ## What a trace is good for -/

section

variable {config : Config} {noted : Bool} {clock : Clock} {sender : Account} {text : String}
  {memory left : Memory} {feature : Feature} {id : AccountId} {utterance : Utterance}

/-- No filter can tell that a text was blocked by another filter than that against haste. -/
theorem Memory.Trace.alike (trace : memory.Trace config noted clock sender text feature left)
    (patient : feature ≠ .antiSpam) : memory.Alike config clock.elapsed left := by
  cases trace with
  | muted | matched => exact .refl config clock.elapsed memory
  | repeated => exact .prune_utterances memory sender.id
  | hurried => exact absurd rfl patient

/-- Nor can it tell more than that the filter against repetitions has seen the text. -/
theorem Memory.Trace.alike_noting
    (trace : memory.Trace config noted clock sender text .antiSpam left) :
    (memory.noting config noted clock sender text).Alike config clock.elapsed left := by
  cases trace with
  | hurried seen same =>
    rw [← same]
    exact .prune_times seen sender.id

/-- The filter against repetitions notes nothing while it is off, of those it spares, and where it
is to remember no messages. -/
theorem Memory.noting_eq_self
    (unnoted : noted = false ∨ sender.holds .bypassAntiDuplicate = true ∨ config.pastMessages = 0) :
    memory.noting config noted clock sender text = memory := by
  cases noted with
  | false => rfl
  | true =>
    have spared : config.repetitions.capacity = 0 ∨ (config.repetitions.sparesExempt = true ∧
        sender.holds .bypassAntiDuplicate = true) := by
      rcases unnoted with off | exempt | forgets
      · cases off
      · exact .inr ⟨rfl, exempt⟩
      · exact .inl forgets
    rw [noting, if_pos rfl, TextFilter.runDuplication, if_pos spared]

/-- Unless a text is blocked for haste and noted as sent, no filter can tell that it was written. -/
theorem Memory.Trace.alike_of_unmarked
    (trace : memory.Trace config noted clock sender text feature left)
    (unmarked : feature ≠ .antiSpam ∨ noted = false ∨
      sender.holds .bypassAntiDuplicate = true ∨ config.pastMessages = 0) :
    memory.Alike config clock.elapsed left := by
  by_cases hasty : feature = .antiSpam
  · subst hasty
    have unnoted := unmarked.resolve_left fun patient => patient rfl
    have alike := trace.alike_noting
    rw [noting_eq_self unnoted] at alike
    exact alike
  · exact trace.alike hasty

/-! ## Where a remembered text comes from -/

theorem TextFilter.runDuplication_origin {rule : DuplicationRule} {notice : Message} {slot : Nat}
    (member : utterance ∈
      (runDuplication rule notice slot clock sender text memory).2.utterances.get slot id) :
    utterance ∈ memory.utterances.get slot id ∨ id = sender.id ∧ utterance.text = text := by
  unfold runDuplication at member
  split at member
  · exact .inl member
  · dsimp only at member
    by_cases same : id = sender.id
    · subst same
      rw [Histories.get_keep_self] at member
      refine (DuplicationRule.mem_accept member).imp_right ?_
      rintro rfl
      exact ⟨rfl, rfl⟩
    · rw [Histories.get_keep_of_ne _ _ _ _ same] at member
      exact .inl member

theorem TextFilter.run_origin {filter : TextFilter}
    (owns : configuredText config feature = some filter)
    (member : utterance ∈
      (filter.run clock sender text memory).memory.utterances.get duplicationSlot id) :
    utterance ∈ memory.utterances.get duplicationSlot id ∨
      id = sender.id ∧ utterance.text = text := by
  cases feature <;> cases owns
  case antiDuplication => exact runDuplication_origin member
  case filter | muting => exact .inl member
  case antiSpam =>
    change utterance ∈
      (runRateLimit _ _ _ clock sender text memory).2.utterances.get duplicationSlot id at member
    unfold runRateLimit at member
    split at member <;> exact .inl member

/-- A text that runs through filters is all that they can remember of it. -/
theorem Filters.runText_origin {filters : Filters} {entries : List (Entry TextFilter)}
    (configured : ∀ entry ∈ entries, entry.Configured config)
    (member : utterance ∈ (runText clock sender entries text filters).2.memory.utterances.get
      duplicationSlot id) :
    utterance ∈ filters.memory.utterances.get duplicationSlot id ∨
      id = sender.id ∧ utterance.text = text := by
  induction entries generalizing filters with
  | nil => exact .inl member
  | cons entry rest ih =>
    obtain ⟨feature, filter, owns, rfl⟩ := configured entry List.mem_cons_self
    have builtIn := TextFilter.isBuiltIn_of_configured owns
    rw [runText, Feature.entry, applyText_builtIn builtIn] at member
    rcases (TextFilter.run_builtIn builtIn).2 with same | ⟨stopped, same⟩ <;> rw [same] at member
    · rcases ih (fun entry member => configured entry (.tail _ member)) member with earlier | now
      · exact TextFilter.run_origin owns earlier
      · exact .inr now
    · exact TextFilter.run_origin owns member

theorem Memory.Trace.origin (trace : memory.Trace config noted clock sender text feature left)
    (member : utterance ∈ left.utterances.get duplicationSlot id) :
    utterance ∈ memory.utterances.get duplicationSlot id ∨
      feature = .antiSpam ∧ id = sender.id ∧ utterance.text = text := by
  cases trace with
  | muted | matched => exact .inl member
  | repeated =>
    dsimp only at member
    by_cases same : id = sender.id
    · subst same
      rw [Histories.get_keep_self] at member
      exact .inl ((List.dropWhile_sublist _).subset member)
    · rw [Histories.get_keep_of_ne _ _ _ _ same] at member
      exact .inl member
  | hurried seen same =>
    subst same
    cases noted with
    | false => exact .inl member
    | true =>
      have origin := TextFilter.runDuplication_origin member
      exact origin.imp_right fun ⟨own, said⟩ => ⟨rfl, own, said⟩

end

end Switchboard
