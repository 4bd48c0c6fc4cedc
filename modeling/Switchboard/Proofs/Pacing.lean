import Mathlib.Tactic.Common
import Switchboard.Proofs.Blocking
import Switchboard.Proofs.Speech

/-! The limit on the number of messages, over a whole run. The filter against haste remembers of
each account when it let messages pass. Every message that it limits and that is delivered is among
them as long as it counts, so no minute of the run holds more of them than the settings allow. -/
namespace Switchboard

open Registry

namespace RateLimit

variable {limit now instant : Nat} {history : List Nat}

theorem length_current_concat (recent : instant < now + window) :
    (current instant (history ++ [now])).length = (current instant history).length + 1 := by
  have minute : 0 < window := by decide
  have kept : [now].dropWhile (fun time => decide (instant - time ≥ window)) = [now] := by
    rw [List.dropWhile_cons, if_neg]
    simp only [ge_iff_le, decide_eq_true_eq, Nat.not_le]
    omega
  unfold current
  rw [List.dropWhile_append, kept]
  split
  case isTrue gone => rw [List.isEmpty_iff.mp gone]; rfl
  case isFalse => exact List.length_append

theorem length_current_le_concat :
    (current instant history).length ≤ (current instant (history ++ [now])).length := by
  unfold current
  rw [List.dropWhile_append]
  split
  case isTrue gone => rw [List.isEmpty_iff.mp gone]; exact Nat.zero_le _
  case isFalse => rw [List.length_append]; exact Nat.le_add_right _ _

theorem room_of_accepted (accepted : (accept limit now history).1 = true) :
    (current now history).length < limit ∧
      (accept limit now history).2 = current now history ++ [now] := by
  unfold accept at accepted ⊢
  dsimp only at accepted ⊢
  split at accepted
  case isTrue => cases accepted
  case isFalse room =>
    rw [if_neg room]
    exact ⟨Nat.not_le.mp room, rfl⟩

theorem length_current_le_accept (after : now ≤ instant) :
    (current instant history).length ≤ (current instant (accept limit now history).2).length := by
  cases accepted : (accept limit now history).1 with
  | true =>
    rw [(room_of_accepted accepted).2, ← current_current after]
    exact length_current_le_concat
  | false => exact Nat.le_of_eq (by rw [kept_of_rejected accepted, current_current after])

theorem length_current_accept (accepted : (accept limit now history).1 = true)
    (after : now ≤ instant) (recent : instant < now + window) :
    (current instant (accept limit now history).2).length =
      (current instant history).length + 1 := by
  rw [(room_of_accepted accepted).2, length_current_concat recent, current_current after]

end RateLimit

/-! ## What passing texts leave behind -/

/-- Whatever counts of an account in the one memory counts in the other, from `now` on. -/
def Memory.Outlasts (now : Nat) (memory later : Memory) : Prop :=
  ∀ id instant, now ≤ instant →
    (RateLimit.current instant (memory.times.get rateSlot id)).length ≤
      (RateLimit.current instant (later.times.get rateSlot id)).length

variable {config : Config} {active : Feature → Bool} {feature : Feature} {filter : TextFilter}
  {clock : Clock} {sender : Account} {text passed : String} {memory : Memory}
  {filters held later : Filters} {entries : List (Entry TextFilter)}

namespace TextFilter

theorem run_times (owns : configuredText config feature = some filter)
    (patient : feature ≠ .antiSpam) :
    (filter.run clock sender text memory).memory.times = memory.times := by
  cases feature <;> cases owns
  case filter | muting => rfl
  case antiDuplication =>
    simp only [run, runDuplication]
    split <;> rfl
  case antiSpam => exact absurd rfl patient

theorem run_outlasts (owns : configuredText config feature = some filter) :
    memory.Outlasts clock.elapsed (filter.run clock sender text memory).memory := by
  intro id instant after
  by_cases hasty : feature = .antiSpam
  · subst hasty
    cases owns
    simp only [run, runRateLimit]
    split
    · exact Nat.le_refl _
    · by_cases own : id = sender.id
      · subst own
        rw [Histories.get_keep_self]
        exact RateLimit.length_current_le_accept after
      · exact Nat.le_of_eq (by rw [Histories.get_keep_of_ne _ _ _ _ own])
  · exact Nat.le_of_eq (by rw [run_times owns hasty])

theorem run_accepted (owns : configuredText config .antiSpam = some filter)
    (bound : sender.holds .bypassAntiSpam = false)
    (passes : (filter.run clock sender text memory).outcome = .ok passed) :
    let accepts := RateLimit.accept config.messagesPerMinute clock.elapsed
      (memory.times.get rateSlot sender.id)
    accepts.1 = true ∧
      (filter.run clock sender text memory).memory.times.get rateSlot sender.id = accepts.2 := by
  cases owns
  simp only [run, runRateLimit, if_neg (ne_true_of_eq_false bound)] at passes ⊢
  refine ⟨?_, Histories.get_keep_self _ _ _ _⟩
  unfold passIf at passes
  split at passes
  case isTrue accepted => exact accepted
  case isFalse => cases passes

end TextFilter

/-- The entry is that of a feature other than the one against haste, whose filter stands at 400. -/
def Entry.Patient (config : Config) (entry : Entry TextFilter) : Prop :=
  entry.Configured config ∧ entry.priority ≠ 400

namespace Filters

theorem runText_outlasts (configured : ∀ entry ∈ entries, entry.Configured config) :
    filters.memory.Outlasts clock.elapsed
      (runText clock sender entries text filters).2.memory := by
  induction entries generalizing text filters with
  | nil => exact fun _ _ _ => Nat.le_refl _
  | cons entry rest ih =>
    obtain ⟨feature, filter, owns, rfl⟩ := configured entry List.mem_cons_self
    let next : Filters :=
      { filters with memory := (filter.run clock sender text filters.memory).memory }
    have first : filters.memory.Outlasts clock.elapsed next.memory := TextFilter.run_outlasts owns
    rw [runText, Feature.entry, applyText_builtIn (TextFilter.isBuiltIn_of_configured owns)]
    cases (filter.run clock sender text filters.memory).outcome with
    | error blocked => exact first
    | ok passed =>
      have onward : next.memory.Outlasts clock.elapsed
          (runText clock sender rest passed next).2.memory :=
        ih fun entry member => configured entry (.tail _ member)
      exact fun id instant after =>
        Nat.le_trans (first id instant after) (onward id instant after)

theorem runText_times (patient : ∀ entry ∈ entries, entry.Patient config) :
    (runText clock sender entries text filters).2.memory.times = filters.memory.times := by
  induction entries generalizing text filters with
  | nil => rfl
  | cons entry rest ih =>
    have patientRest : ∀ entry ∈ rest, entry.Patient config :=
      fun entry member => patient entry (.tail _ member)
    obtain ⟨⟨feature, filter, owns, rfl⟩, low⟩ := patient entry List.mem_cons_self
    have kept : (filter.run clock sender text filters.memory).memory.times =
        filters.memory.times := by
      refine TextFilter.run_times owns ?_
      rintro rfl
      cases owns
      exact low rfl
    rw [runText, Feature.entry, applyText_builtIn (TextFilter.isBuiltIn_of_configured owns)]
    cases (filter.run clock sender text filters.memory).outcome with
    | error blocked => exact kept
    | ok passed => exact (ih patientRest).trans kept

theorem passage_outlasts (standing : filters.Standing config active) {result}
    (passage : filters.passage clock sender text = (result, later)) :
    filters.memory.Outlasts clock.elapsed later.memory := by
  have outlasts : filters.memory.Outlasts clock.elapsed
      (filters.filterText clock sender text).2.memory := runText_outlasts standing.configured
  obtain ⟨last, ⟨blocked, run, same⟩ | ⟨run, same⟩⟩ := passage_cases standing clock sender text
  all_goals
    cases passage.symm.trans same
    rw [run] at outlasts
    exact outlasts

/-- While haste is not allowed, the filter against it is the only one that is not patient. -/
theorem around_antiSpam (standing : filters.Standing config active)
    (limited : active .antiSpam = true) :
    ∃ ahead filter behind, configuredText config .antiSpam = some filter ∧
      filters.text.entries =
        ahead ++ Feature.antiSpam.entry TextFilter.priority filter :: behind ∧
      (∀ entry ∈ ahead, entry.Patient config) ∧ ∀ entry ∈ behind, entry.Patient config := by
  obtain ⟨filter, owns⟩ : ∃ filter, configuredText config .antiSpam = some filter := ⟨_, rfl⟩
  have stands : Feature.antiSpam.entry TextFilter.priority filter ∈ filters.text.entries :=
    (standing.text.complete _).mpr ⟨_, _, limited, owns, rfl⟩
  have here : (Feature.antiSpam.entry TextFilter.priority filter).priority = 400 := by
    cases owns
    rfl
  obtain ⟨ahead, behind, parts⟩ := List.append_of_mem stands
  have configured := standing.configured
  have ascending := standing.text.ascending
  rw [parts] at configured ascending
  rw [List.pairwise_append, List.pairwise_cons] at ascending
  obtain ⟨-, ⟨above, -⟩, below⟩ := ascending
  refine ⟨ahead, filter, behind, owns, parts, ?_, ?_⟩
  · intro entry member
    have before := below entry member _ List.mem_cons_self
    exact ⟨configured entry (List.mem_append_left _ member), by omega⟩
  · intro entry member
    have after := above entry member
    exact ⟨configured entry (List.mem_append_right _ (.tail _ member)), by omega⟩

/-- While haste is not allowed, a text that passes the chain was let through by the filter against
it, which has noted it. -/
theorem filterText_accepted (standing : filters.Standing config active)
    (limited : active .antiSpam = true) (bound : sender.holds .bypassAntiSpam = false)
    (passes : filters.filterText clock sender text = (.ok passed, later)) :
    let accepts := RateLimit.accept config.messagesPerMinute clock.elapsed
      (filters.memory.times.get rateSlot sender.id)
    accepts.1 = true ∧ later.memory.times.get rateSlot sender.id = accepts.2 := by
  obtain ⟨ahead, filter, behind, owns, parts, patientAhead, patientBehind⟩ :=
    around_antiSpam standing limited
  unfold filterText at passes
  rw [parts] at passes
  obtain ⟨between, middle, runAhead, runRest⟩ := runText_append passes
  have timesAhead : (runText clock sender ahead text filters).2.memory.times =
      filters.memory.times := runText_times patientAhead
  rw [runAhead] at timesAhead
  rw [runText, Feature.entry, applyText_builtIn (TextFilter.isBuiltIn_of_configured owns)]
    at runRest
  cases ran : (filter.run clock sender between middle.memory).outcome with
  | error blocked =>
    rw [ran] at runRest
    cases runRest
  | ok onward =>
    let next : Filters :=
      { middle with memory := (filter.run clock sender between middle.memory).memory }
    rw [ran] at runRest
    change runText clock sender behind onward next = _ at runRest
    have timesBehind : (runText clock sender behind onward next).2.memory.times =
        next.memory.times := runText_times patientBehind
    rw [runRest] at timesBehind
    have accepted := TextFilter.run_accepted owns bound ran
    rw [timesAhead] at accepted
    rw [timesBehind]
    exact accepted

end Filters

namespace Session

variable {session : Session} {occurrence : Occurrence} {id : AccountId} {run : List Occurrence}
  {instant : Nat}

/-- The event delivers a message of the account that the limit counts: it passes the filters on its
channel, and no permission spares its sender the limit. -/
def paced (session : Session) (id : AccountId) (occurrence : Occurrence) : Bool :=
  match session.speech? occurrence.event, (session.meet occurrence).result with
  | some speech, .ok (some (.delivered _)) =>
    speech.sender.id == id && session.filtering speech.channel &&
      !speech.sender.holds .bypassAntiSpam
  | _, _ => false

/-- When the account sent the messages of a run that the limit counts. -/
def pacedTimes (id : AccountId) : Session → List Occurrence → List Nat
  | _, [] => []
  | session, occurrence :: rest =>
    (if session.paced id occurrence then [occurrence.time] else []) ++
      pacedTimes id (session.meet occurrence).session rest

theorem pacedTimes_concat (id : AccountId) (session : Session) (run : List Occurrence)
    (last : Occurrence) :
    pacedTimes id session (run ++ [last]) = pacedTimes id session run ++
      if (session.after run).paced id last then [last.time] else [] := by
  induction run generalizing session with
  | nil => exact List.append_nil _
  | cons first rest ih =>
    rw [List.cons_append, pacedTimes, ih, ← List.append_assoc]
    rfl

theorem meet_outlasts (standing : session.registry.Standing config) (occurrence : Occurrence) :
    session.filters.memory.Outlasts occurrence.time
      (session.meet occurrence).session.filters.memory := by
  rcases session.meet_heard occurrence with unheard | ⟨sender, raw, -, -, heard⟩
  · rw [unheard.kept]
    exact fun _ _ _ => Nat.le_refl _
  cases heard with
  | stopped passage _ kept | passed passage _ kept =>
    rw [kept]
    exact Filters.passage_outlasts standing.filters passage

/-- A message that the limit counts was let through by the filter against haste. -/
theorem meet_accepted (standing : session.registry.Standing config)
    (limited : session.isActive .antiSpam = true) (paced : session.paced id occurrence = true) :
    let accepts := RateLimit.accept config.messagesPerMinute occurrence.time
      (session.filters.memory.times.get rateSlot id)
    accepts.1 = true ∧
      (session.meet occurrence).session.filters.memory.times.get rateSlot id = accepts.2 := by
  unfold Session.paced at paced
  split at paced
  case h_2 => cases paced
  case h_1 speech copies spoken delivered =>
    simp only [Bool.and_eq_true, beq_iff_eq, Bool.not_eq_true'] at paced
    obtain ⟨⟨rfl, filtering⟩, bound⟩ := paced
    rcases meet_judged spoken filtering with
      ⟨error, failed⟩ | ⟨context, result, stage, wrote, verdict, report⟩
    · rw [failed] at delivered
      cases delivered
    rw [report] at delivered ⊢
    cases verdict with
    | rejected | refused | stopped => cases delivered
    | passed _ words passage =>
      cases wrote.symm.trans words
      have passed := Filters.filterText_of_passed standing.filters passage
      exact Filters.filterText_accepted standing.filters limited bound passed

/-- The filter against haste remembers the messages that the limit counts as long as they are less
than a minute old. -/
theorem pacedTimes_remembered (id : AccountId) (limited : config.enabled .antiSpam = true)
    (kept : ∀ occurrence ∈ run, occurrence.event ≠ .toggle .antiSpam false)
    (past : ∀ occurrence ∈ run, occurrence.time ≤ instant) :
    (pacedTimes id (ofConfig config) run).countP (fun time => instant < time + RateLimit.window) ≤
      (RateLimit.current instant
        (((ofConfig config).after run).filters.memory.times.get rateSlot id)).length := by
  induction run using List.reverseRecOn with
  | nil => exact Nat.zero_le _
  | append_singleton run last ih =>
    have before := ih (fun occurrence member => kept occurrence (List.mem_append_left _ member))
      fun occurrence member => past occurrence (List.mem_append_left _ member)
    have here : last.time ≤ instant := past last (by simp)
    have standing := standing_after config run
    have active : ((ofConfig config).after run).isActive .antiSpam = true :=
      active_after limited fun occurrence member => kept occurrence (List.mem_append_left _ member)
    have outlasts := meet_outlasts standing last id instant here
    rw [pacedTimes_concat, List.countP_append, after_concat]
    split
    case isFalse => exact Nat.le_trans before outlasts
    case isTrue paced =>
      by_cases recent : instant < last.time + RateLimit.window
      · -- It counts, and it was let through, so one more is remembered.
        obtain ⟨accepted, noted⟩ := meet_accepted standing active paced
        rw [noted, RateLimit.length_current_accept accepted here recent]
        rw [List.countP_singleton, if_pos (decide_eq_true recent)]
        exact Nat.succ_le_succ before
      · rw [List.countP_singleton, if_neg (by simpa using recent)]
        exact Nat.le_trans before outlasts

/-- In no minute are more messages of one account delivered than the settings allow, not counting
those that it sends with the permission that lifts the limit. -/
theorem pacedTimes_limited (config : Config) (run : List Occurrence)
    (limited : config.enabled .antiSpam = true)
    (kept : ∀ occurrence ∈ run, occurrence.event ≠ .toggle .antiSpam false) (steady : Steady run)
    (id : AccountId) (instant : Nat) :
    (pacedTimes id (ofConfig config) run).countP
      (fun time => time ≤ instant ∧ instant < time + 60 * Clock.second) ≤
        config.messagesPerMinute := by
  induction run using List.reverseRecOn with
  | nil => exact Nat.zero_le _
  | append_singleton run last ih =>
    have keptBefore : ∀ occurrence ∈ run, occurrence.event ≠ .toggle .antiSpam false :=
      fun occurrence member => kept occurrence (List.mem_append_left _ member)
    obtain ⟨steadyBefore, -, inOrder⟩ := List.pairwise_append.mp steady
    have before := ih keptBefore steadyBefore
    have past : ∀ occurrence ∈ run, occurrence.time ≤ last.time :=
      fun occurrence member => inOrder occurrence member last (List.mem_singleton_self _)
    have active : ((ofConfig config).after run).isActive .antiSpam = true :=
      active_after limited keptBefore
    rw [pacedTimes_concat, List.countP_append]
    split
    case isFalse => exact before
    case isTrue paced =>
      by_cases inWindow : last.time ≤ instant ∧ instant < last.time + 60 * Clock.second
      · -- Whatever else the minute holds counted when this message was let through.
        obtain ⟨accepted, -⟩ := meet_accepted (standing_after config run) active paced
        have room := (RateLimit.room_of_accepted accepted).1
        have remembered := pacedTimes_remembered id limited keptBefore past
        have counted : (pacedTimes id (ofConfig config) run).countP
            (fun time => time ≤ instant ∧ instant < time + 60 * Clock.second) ≤
            (pacedTimes id (ofConfig config) run).countP
              (fun time => last.time < time + RateLimit.window) := by
          refine List.countP_mono_left fun time _ within => ?_
          simp only [decide_eq_true_eq] at within ⊢
          change last.time < time + 60 * Clock.second
          omega
        rw [List.countP_singleton, if_pos (decide_eq_true inWindow)]
        omega
      · rw [List.countP_singleton, if_neg (by simpa using inWindow)]
        exact before

/-- One message a minute: the second is too early, the third is not. -/
theorem pacedTimes_limited_hurrying :
    let minuteLater : World := { clock := Clock.advance default 60000 }
    let run := [arriving, saying "a", saying "b", ⟨minuteLater, .chat 1 (some .globalChat) "c"⟩]
    let minute := 60 * Clock.second
    pacedTimes 1 (ofConfig hurrying) run = [0, minute] ∧
      (pacedTimes 1 (ofConfig hurrying) run).countP
        (fun time => time ≤ minute ∧ minute < time + minute) ≤ hurrying.messagesPerMinute := by
  intro minuteLater run minute
  refine ⟨by decide +kernel, pacedTimes_limited hurrying run rfl ?_ ?_ 1 minute⟩
  · simp [run, arriving, saying]
  · simp [Steady, run, minuteLater, arriving, saying, Occurrence.time, Clock.advance]
    exact Nat.zero_le _

end Session

end Switchboard
