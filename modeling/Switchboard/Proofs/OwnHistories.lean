import Mathlib.Data.List.TakeWhile
import Mathlib.Tactic.Common
import Switchboard.Proofs.Staleness

/-! What a message leaves behind in the switchboard's own filters. They keep their histories by slot
and by account, and a message touches none but those of its sender, in the slots of the filters that
it passes; to each of these it adds itself at most once. A message that comes to no filter, because
its target refuses it or its channel does not filter, leaves all histories as they were. -/
namespace Switchboard

theorem Histories.get_keep_of_slot_ne {α : Type u} (histories : Histories α) {slot other : Nat}
    (id account : AccountId) (history : List α) (differs : other ≠ slot) :
    (histories.keep slot id history).get other account = histories.get other account := by
  simp only [get, keep, IdMap.get?_insert_of_ne _ _ differs]

/-! ## What becomes of one history -/

/-- A history without its expired front and with the text at its end at most, for which the oldest
of the others goes if there is no room. -/
inductive DuplicationRule.Revises (rule : DuplicationRule) (now : Nat) (text : String) :
    List Utterance → List Utterance → Prop where
  | forgets (expired : ∀ utterance ∈ gone, rule.expiry < now - utterance.time) :
      Revises rule now text (gone ++ kept) kept
  | records (expired : ∀ utterance ∈ gone, rule.expiry < now - utterance.time)
      (room : kept.length < rule.capacity) :
      Revises rule now text (gone ++ kept) (kept ++ [⟨now, text⟩])
  | displaces (expired : ∀ utterance ∈ gone, rule.expiry < now - utterance.time)
      (full : rule.capacity ≤ (oldest :: kept).length) :
      Revises rule now text (gone ++ oldest :: kept) (kept ++ [⟨now, text⟩])

/-- A history without the times that have left the window and with the current one at its end at
most. -/
inductive RateLimit.Revises (limit now : Nat) : List Nat → List Nat → Prop where
  | forgets (expired : ∀ time ∈ gone, window ≤ now - time) : Revises limit now (gone ++ kept) kept
  | records (expired : ∀ time ∈ gone, window ≤ now - time) (room : kept.length < limit) :
      Revises limit now (gone ++ kept) (kept ++ [now])

theorem DuplicationRule.Revises.refl (rule : DuplicationRule) (now : Nat) (text : String)
    (history : List Utterance) : rule.Revises now text history history := by
  have nothing : ∀ utterance ∈ [], rule.expiry < now - Utterance.time utterance := nofun
  exact .forgets nothing

theorem RateLimit.Revises.refl (limit now : Nat) (history : List Nat) :
    Revises limit now history history := by
  have nothing : ∀ time ∈ [], window ≤ now - time := nofun
  exact .forgets nothing

theorem exists_front {α : Type u} (drops : α → Bool) (items : List α) :
    ∃ gone, items = gone ++ items.dropWhile drops ∧ ∀ item ∈ gone, drops item = true :=
  ⟨items.takeWhile drops, List.takeWhile_append_dropWhile.symm, fun _ => List.mem_takeWhile_imp⟩

theorem DuplicationRule.revises_accept (rule : DuplicationRule) (limited : rule.capacity ≠ 0)
    (now : Nat) (text : String) (history : List Utterance) :
    rule.Revises now text history (rule.accept now text history).2 := by
  obtain ⟨gone, parts, expired⟩ : ∃ gone, history = gone ++ rule.remembered now history ∧ _ :=
    exists_front _ history
  simp only [decide_eq_true_eq] at expired
  rw [accept]
  generalize rule.remembered now history = kept at parts
  subst parts
  split
  · exact .forgets expired
  · rw [record]
    split
    case isFalse room => exact .records expired (Nat.lt_of_not_le room)
    case isTrue full =>
      cases kept with
      | nil => exact absurd (Nat.le_zero.mp full) limited
      | cons oldest kept => exact .displaces expired full

theorem RateLimit.revises_accept (limit now : Nat) (history : List Nat) :
    Revises limit now history (accept limit now history).2 := by
  obtain ⟨gone, parts, expired⟩ : ∃ gone, history = gone ++ current now history ∧ _ :=
    exists_front _ history
  simp only [decide_eq_true_eq] at expired
  rw [accept]
  generalize current now history = kept at parts
  subst parts
  split
  · exact .forgets expired
  case isFalse room => exact .records expired (Nat.lt_of_not_le room)

/-! ## What becomes of all histories -/

/-- Histories of one kind: which filters keep them, and what becomes of one that a filter keeps when
its account sends a text. -/
structure Ledger (α : Type) where
  histories : Memory → Histories α
  /-- The slot of a filter that keeps such histories. -/
  slot? : TextFilter → Option Nat
  revises : TextFilter → Nat → String → List α → List α → Prop
  /-- A history may stay as it is. -/
  stays : ∀ filter slot now text history, slot? filter = some slot →
    revises filter now text history history

namespace Ledger

def utterances : Ledger Utterance where
  histories := Memory.utterances
  slot?
    | .duplication _ _ slot => some slot
    | _ => none
  revises
    | .duplication rule _ _, now, text, history, later => rule.Revises now text history later
    | _, _, _, _, _ => False
  stays filter _ now text history owns := by
    cases filter <;> cases owns
    exact .refl ..

def times : Ledger Nat where
  histories := Memory.times
  slot?
    | .rateLimit _ _ slot => some slot
    | _ => none
  revises
    | .rateLimit limit _ _, now, _, history, later => RateLimit.Revises limit now history later
    | _, _, _, _, _ => False
  stays filter _ now text history owns := by
    cases filter <;> cases owns
    exact .refl ..

variable {α : Type} {ledger : Ledger α} {clock : Clock} {sender : Account} {text : String}
  {memory middle later : Memory} {entry : Entry TextFilter} {entries : List (Entry TextFilter)}

/-- The slots of the filters that keep such histories. -/
def slots (ledger : Ledger α) (entries : List (Entry TextFilter)) : List Nat :=
  entries.filterMap fun entry => ledger.slot? entry.filter

/-- What becomes of the histories when a text of the sender's passes the filters. -/
structure Kept (ledger : Ledger α) (clock : Clock) (sender : Account) (text : String)
    (entries : List (Entry TextFilter)) (memory later : Memory) : Prop where
  /-- Those of others stay as they are, -/
  others : ∀ slot id, id ≠ sender.id →
    (ledger.histories later).get slot id = (ledger.histories memory).get slot id
  /-- and so do the sender's that none of the filters keeps; -/
  unowned : ∀ slot, slot ∉ ledger.slots entries →
    (ledger.histories later).get slot sender.id = (ledger.histories memory).get slot sender.id
  /-- one that is kept by one of them alone may be revised once. -/
  owned : ∀ entry ∈ entries, ∀ slot, ledger.slot? entry.filter = some slot →
    (ledger.slots entries).count slot = 1 →
      ledger.revises entry.filter clock.elapsed text
        ((ledger.histories memory).get slot sender.id) ((ledger.histories later).get slot sender.id)

theorem mem_slots (member : entry ∈ entries) {slot : Nat}
    (owns : ledger.slot? entry.filter = some slot) : slot ∈ ledger.slots entries :=
  List.mem_filterMap.mpr ⟨entry, member, owns⟩

namespace Kept

theorem unchanged (same : ledger.histories later = ledger.histories memory) :
    ledger.Kept clock sender text entries memory later where
  others _ _ _ := by rw [same]
  unowned _ _ := by rw [same]
  owned entry _ slot owns _ := by
    rw [same]
    exact ledger.stays _ _ _ _ _ owns

theorem keep (owns : ledger.slot? entry.filter = some slot)
    (kept : ledger.histories later = (ledger.histories memory).keep slot sender.id history)
    (revised : ledger.revises entry.filter clock.elapsed text
      ((ledger.histories memory).get slot sender.id) history) :
    ledger.Kept clock sender text [entry] memory later where
  others other id differs := by
    rw [kept]
    by_cases same : other = slot
    · rw [same, Histories.get_keep_of_ne _ _ _ _ differs]
    · rw [Histories.get_keep_of_slot_ne _ _ _ _ same]
  unowned other missing := by
    rw [kept]
    have differs : other ≠ slot := by
      rintro rfl
      exact missing (mem_slots List.mem_cons_self owns)
    rw [Histories.get_keep_of_slot_ne _ _ _ _ differs]
  owned other member slot' owns' _ := by
    cases List.mem_singleton.mp member
    cases owns.symm.trans owns'
    rw [kept, Histories.get_keep_self]
    exact revised

/-- Of filters in a row, those that share no history with another keep theirs apart. -/
theorem cons (first : ledger.Kept clock sender text [entry] memory middle)
    (rest : ledger.Kept clock sender text entries middle later) :
    ledger.Kept clock sender text (entry :: entries) memory later := by
  have parts : ledger.slots (entry :: entries) = ledger.slots [entry] ++ ledger.slots entries := by
    rw [slots, slots, slots, ← List.filterMap_append]
    rfl
  refine ⟨fun slot id differs => ?_, fun slot missing => ?_, fun other member slot owns alone => ?_⟩
  · rw [rest.others slot id differs, first.others slot id differs]
  · rw [parts, List.mem_append, not_or] at missing
    rw [rest.unowned slot missing.2, first.unowned slot missing.1]
  · rw [parts, List.count_append] at alone
    rcases List.mem_cons.mp member with rfl | member
    · have here := List.count_pos_iff.mpr (mem_slots (List.mem_singleton_self other) owns)
      rw [rest.unowned slot (List.count_eq_zero.mp (by omega))]
      exact first.owned other List.mem_cons_self slot owns (by omega)
    · have here := List.count_pos_iff.mpr (mem_slots member owns)
      rw [← first.unowned slot (List.count_eq_zero.mp (by omega))]
      exact rest.owned other member slot owns (by omega)

end Kept

end Ledger

/-! ## Filters of the switchboard's own kinds -/

def MessageFilter.isBuiltIn : MessageFilter → Bool
  | custom _ _ => false
  | emoji _ => true

/-- No filters but the switchboard's own kinds. -/
structure Filters.BuiltIn (filters : Filters) : Prop where
  text : ∀ entry ∈ filters.text.entries, entry.filter.isBuiltIn = true
  message : ∀ entry ∈ filters.message.entries, entry.filter.isBuiltIn = true

section

variable {clock : Clock} {sender : Account} {text : String} {entry : Entry TextFilter}
  {entries : List (Entry TextFilter)} {memory : Memory} {filters : Filters}

theorem TextFilter.run_kept (entry : Entry TextFilter) (clock : Clock) (sender : Account)
    (text : String) (memory : Memory) :
    let later := (entry.filter.run clock sender text memory).memory
    Ledger.utterances.Kept clock sender text [entry] memory later ∧
      Ledger.times.Kept clock sender text [entry] memory later := by
  obtain ⟨key, priority, filter⟩ := entry
  cases filter with
  | mute | pattern | custom => exact ⟨.unchanged rfl, .unchanged rfl⟩
  | duplication rule notice slot =>
    simp only [run, runDuplication]
    split
    case isTrue => exact ⟨.unchanged rfl, .unchanged rfl⟩
    case isFalse bound =>
      have limited : rule.capacity ≠ 0 := fun none => bound (.inl none)
      exact ⟨.keep rfl rfl (rule.revises_accept limited _ _ _), .unchanged rfl⟩
  | rateLimit limit notice slot =>
    simp only [run, runRateLimit]
    split
    case isTrue => exact ⟨.unchanged rfl, .unchanged rfl⟩
    case isFalse =>
      exact ⟨.unchanged rfl, .keep rfl rfl (RateLimit.revises_accept limit _ _)⟩

namespace Filters

theorem runText_builtIn (builtIn : ∀ entry ∈ entries, entry.filter.isBuiltIn = true) :
    ∃ later, (runText clock sender entries text filters).2 = { filters with memory := later } ∧
      Ledger.utterances.Kept clock sender text entries filters.memory later ∧
      Ledger.times.Kept clock sender text entries filters.memory later := by
  induction entries generalizing filters with
  | nil => exact ⟨filters.memory, rfl, .unchanged rfl, .unchanged rfl⟩
  | cons entry rest ih =>
    have here : entry.filter.isBuiltIn = true := builtIn entry List.mem_cons_self
    obtain ⟨keptUtterances, keptTimes⟩ :=
      TextFilter.run_kept entry clock sender text filters.memory
    rw [runText, applyText_builtIn here]
    rcases (TextFilter.run_builtIn here).2 with passes | ⟨blocked, stops⟩
    · rw [passes]
      obtain ⟨later, left, restUtterances, restTimes⟩ :=
        ih fun other member => builtIn other (.tail _ member)
      exact ⟨later, left, keptUtterances.cons restUtterances, keptTimes.cons restTimes⟩
    · rw [stops]
      exact ⟨_, rfl, keptUtterances.cons (.unchanged rfl), keptTimes.cons (.unchanged rfl)⟩

theorem runMessage_builtIn {entries : List (Entry MessageFilter)} {message : Message}
    (builtIn : ∀ entry ∈ entries, entry.filter.isBuiltIn = true) :
    (runMessage sender entries message filters).2 = filters := by
  induction entries generalizing message with
  | nil => rfl
  | cons entry rest ih =>
    obtain ⟨key, priority, filter⟩ := entry
    cases filter with
    | custom => cases builtIn _ List.mem_cons_self
    | emoji glossary => exact ih fun other member => builtIn other (.tail _ member)

theorem BuiltIn.filterText (builtIn : filters.BuiltIn) (clock : Clock) (sender : Account)
    (text : String) :
    ∃ later, (filters.filterText clock sender text).2 = { filters with memory := later } ∧
      Ledger.utterances.Kept clock sender text filters.text.entries filters.memory later ∧
      Ledger.times.Kept clock sender text filters.text.entries filters.memory later :=
  runText_builtIn builtIn.text

end Filters

end

/-! ## Dispatches -/

namespace Session

variable {session : Session} {world : World} {context : Context} {channel : Channel}
  {sender : Account} {raw : String} {left : Filters} {stage : Stage}
  {result : Except ContextError Outcome}

theorem Treatment.filters_left {clock : Clock} {filtering : Bool} {filters : Filters}
    {outcome : Except ContextError (Except Blocked Context)} (builtIn : filters.BuiltIn)
    (treatment : Treatment clock filtering context sender raw filters outcome left) :
    left = filters ∨ filtering = true ∧ left = (filters.filterText clock sender raw).2 := by
  -- No message filter of the switchboard's own edits a chain or remembers anything.
  have onward {passed message later last}
      (text : filters.filterText clock sender raw = (.ok passed, later))
      (filtered : later.filterMessage sender (.parse passed) = (message, last)) :
      last = (filters.filterText clock sender raw).2 := by
    obtain ⟨memory, same, -⟩ := builtIn.filterText clock sender raw
    rw [text] at same ⊢
    dsimp only at same ⊢
    have unchanged : (later.filterMessage sender (.parse passed)).2 = later := by
      rw [same]
      exact Filters.runMessage_builtIn builtIn.message
    rw [filtered] at unchanged
    exact unchanged
  cases treatment with
  | parsed | parsedBefore => exact .inl rfl
  | textStopped filtered text | filteredBefore filtered text => exact .inr ⟨filtered, by rw [text]⟩
  | messageStopped filtered text _ message | passedBefore filtered text _ message
  | passed filtered text _ message => exact .inr ⟨filtered, onward text message⟩

/-- The filters are left as they were, or as one message leaves them that passes them. -/
theorem Course.filters_left (builtIn : session.filters.BuiltIn)
    (speaks : context.sender = some sender)
    (course : session.Course world context channel result stage) :
    stage.filters = session.filters ∨
      session.filtering channel = true ∧ (∀ reason, result ≠ .ok (.refused reason)) ∧
        ∃ raw, context.message = some raw ∧
          stage.filters = (session.filters.filterText world.clock sender raw).2 := by
  have processed {outcome later} (processes : session.Processes world context channel outcome later)
      (heard : ∀ reason, result ≠ .ok (.refused reason)) :
      later = session.filters ∨
        session.filtering channel = true ∧ (∀ reason, result ≠ .ok (.refused reason)) ∧
          ∃ raw, context.message = some raw ∧
            later = (session.filters.filterText world.clock sender raw).2 := by
    obtain ⟨raw, wrote⟩ := processes.message
    exact ((processes.treatment speaks wrote).filters_left builtIn).imp_right
      fun ⟨filters, left⟩ => ⟨filters, heard, raw, wrote, left⟩
  cases course with
  | unsound | announcedTwice | announced | refused => exact .inl rfl
  | processedTwice _ processes | blocked _ _ processes | broadcast _ _ _ processes
  | nearby _ _ processes | direct _ _ processes => exact processed processes nofun

/-- Of the sender's histories, each that one filter of the chain keeps is revised at most once, and
those that none keeps stay as they were. -/
theorem dispatch_kept (session : Session) (world : World) {text : String}
    (builtIn : session.filters.BuiltIn) (speaks : context.sender = some sender)
    (wrote : context.message = some text) :
    let entries := session.filters.text.entries
    let memory := session.filters.memory
    let later := (session.dispatch world context).2.filters.memory
    Ledger.utterances.Kept world.clock sender text entries memory later ∧
      Ledger.times.Kept world.clock sender text entries memory later := by
  intro entries memory later
  have course :=
    Course.filters_left builtIn (by exact speaks) (session.dispatch_course world context)
  rcases course with same | ⟨-, -, raw, wrote', filtered⟩
  · have same : later = memory := congrArg Filters.memory same
    rw [same]
    exact ⟨.unchanged rfl, .unchanged rfl⟩
  · cases wrote.symm.trans wrote'
    obtain ⟨left, same, utterances, times⟩ := builtIn.filterText world.clock sender text
    have same : later = left := congrArg Filters.memory (filtered.trans same)
    rw [same]
    exact ⟨utterances, times⟩

/-- What a dispatch changes in filters of the switchboard's own kinds: nothing in the chains and in
the histories of others, and nothing at all if the message is refused or its channel does not
filter. Of the sender's histories, each that one filter of the chain keeps is revised at most once,
and those that none keeps stay as they were. -/
theorem dispatch_histories (session : Session) (world : World) (context : Context)
    (sender : Account) (builtIn : session.filters.BuiltIn)
    (speaks : context.sender = some sender) :
    let result := (session.dispatch world context).1
    let stage := (session.dispatch world context).2
    let memory := session.filters.memory
    let later := stage.filters.memory
    stage.filters = { session.filters with memory := later } ∧
      (∀ slot id, id ≠ sender.id → later.utterances.get slot id = memory.utterances.get slot id ∧
        later.times.get slot id = memory.times.get slot id) ∧
      ((∃ reason, result = .ok (.refused reason)) ∨
        session.filtering (session.channelOf context) = false ∨ context.message = none →
          stage.filters = session.filters) ∧
      ∀ text, context.message = some text →
        Ledger.utterances.Kept world.clock sender text session.filters.text.entries memory later ∧
        Ledger.times.Kept world.clock sender text session.filters.text.entries memory later := by
  have course :=
    Course.filters_left builtIn (by exact speaks) (session.dispatch_course world context)
  have kept {text : String} (wrote : context.message = some text) :=
    session.dispatch_kept world builtIn speaks wrote
  generalize session.dispatch world context = sent at course kept ⊢
  obtain ⟨result, filters, outbox⟩ := sent
  dsimp only at course kept ⊢
  rcases course with rfl | ⟨filtering, heard, raw, wrote, rfl⟩
  · exact ⟨rfl, fun _ _ _ => ⟨rfl, rfl⟩, fun _ => rfl, fun _ => kept⟩
  · obtain ⟨memory, same, -⟩ := builtIn.filterText world.clock sender raw
    obtain ⟨utterances, times⟩ := kept wrote
    refine ⟨by rw [same], fun slot id differs => ⟨utterances.others slot id differs,
      times.others slot id differs⟩, ?_, fun _ => kept⟩
    rintro (⟨reason, refused⟩ | idle | silent)
    · exact absurd refused (heard reason)
    · cases filtering.symm.trans idle
    · cases wrote.symm.trans silent

theorem dispatch_histories_hurrying :
    let session := ofConfig hurrying
    let context := { refiltered with filtered := none }
    let later := (session.dispatch default context).2.filters.memory
    session.filters.BuiltIn ∧
      later.utterances.get Registry.duplicationSlot 1 = [⟨0, "hi"⟩] ∧
      later.times.get Registry.rateSlot 1 = [0] ∧
      ∀ slot id, id ≠ 1 →
        later.utterances.get slot id = session.filters.memory.utterances.get slot id ∧
        later.times.get slot id = session.filters.memory.times.get slot id := by
  intro session context later
  have builtIn : session.filters.BuiltIn := ⟨by decide, by decide⟩
  have histories := session.dispatch_histories default context
    { id := 1, name := "ada", server := some "lobby" } builtIn rfl
  exact ⟨builtIn, by decide +kernel, by decide +kernel, histories.2.1⟩

end Session

end Switchboard
