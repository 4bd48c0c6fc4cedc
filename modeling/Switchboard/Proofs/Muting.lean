import Mathlib.Tactic.Common
import Switchboard.Proofs.Blocking
import Switchboard.Proofs.Gate
import Switchboard.Proofs.Speech

/-! A mute holds. While muting is active its filter stands first in the chain of texts, whatever has
been turned on and off before, so nothing that a muted sender says on a channel whose messages pass
the filters gets any further, and no other filter hears of it. -/
namespace Switchboard

open Registry

/-- A message was stopped, its sender was told so, and nothing else happened. -/
structure Report.Silenced (report : Report) (session : Session) (sender : Account)
    (reason : Message) : Prop where
  unchanged : report.session = session
  result : report.result = .ok (some (.blocked reason))
  answered : report.outbox.deliveries = [⟨sender, reason⟩]
  unlogged : report.outbox.entries = []

namespace Filters

variable {config : Config} {active : Feature → Bool} {filters : Filters} {clock : Clock}
  {sender : Account} {text : String}

def muteEntry (config : Config) : Entry TextFilter :=
  Feature.muting.entry TextFilter.priority (.mute (.ofText config.notices.muted))

theorem priority_nonneg {entry : Entry TextFilter} (configured : entry.Configured config) :
    0 ≤ entry.priority := by
  obtain ⟨feature, filter, owns, rfl⟩ := configured
  cases feature <;> cases owns
  case muting => exact Int.le_refl 0
  case filter => exact (by decide : (0 : Int) ≤ 100)
  case antiDuplication => exact (by decide : (0 : Int) ≤ 300)
  case antiSpam => exact (by decide : (0 : Int) ≤ 400)

theorem muteEntry_first (standing : filters.Standing config active)
    (muting : active .muting = true) :
    ∃ behind, filters.text.entries = muteEntry config :: behind := by
  have stands : muteEntry config ∈ filters.text.entries :=
    (standing.text.complete _).mpr ⟨_, _, muting, rfl, rfl⟩
  have low : (muteEntry config).priority = 0 := rfl
  have configured := standing.configured
  have ascending := standing.text.ascending
  cases entries : filters.text.entries with
  | nil =>
    rw [entries] at stands
    cases stands
  | cons first behind =>
    rw [entries] at stands configured ascending
    rcases List.mem_cons.mp stands with rfl | later
    · exact ⟨behind, rfl⟩
    · -- An entry ahead of it would have a priority below zero.
      have before := (List.pairwise_cons.mp ascending).1 _ later
      have nonneg := priority_nonneg (configured first List.mem_cons_self)
      omega

section

variable (muted : sender.muted clock = true) (bound : sender.holds .bypassMute = false)

include muted bound

theorem applyText_muted : filters.applyText clock sender (muteEntry config).filter text =
    (.error ⟨.ofText config.notices.muted⟩, filters) := by
  have stops : ((muteEntry config).filter.run clock sender text filters.memory).outcome =
      .error ⟨.ofText config.notices.muted⟩ := by
    change TextFilter.runMute _ clock sender text = _
    rw [TextFilter.runMute, muted, bound]
    rfl
  have builtIn : (muteEntry config).filter.isBuiltIn = true := rfl
  rw [applyText_builtIn builtIn, stops]
  rfl

variable (standing : filters.Standing config active) (muting : active .muting = true)

include standing muting

theorem passage_muted :
    filters.passage clock sender text = (.error ⟨.ofText config.notices.muted⟩, filters) := by
  obtain ⟨behind, entries⟩ := muteEntry_first standing muting
  have stopped : filters.filterText clock sender text =
      (.error ⟨.ofText config.notices.muted⟩, filters) := by
    rw [filterText, entries, runText, applyText_muted muted bound]
  rw [passage, stopped]

theorem stoppedBy_muting :
    filters.StoppedBy clock sender text .muting (.ofText config.notices.muted) := by
  obtain ⟨behind, entries⟩ := muteEntry_first standing muting
  exact ⟨[], muteEntry config, behind, text, filters, filters, entries, rfl, rfl,
    applyText_muted muted bound⟩

end

end Filters

namespace Session

variable {session : Session} {occurrence : Occurrence} {speech : Speech}

/-- Chat on a channel that no filter sees, other than an alert, lacks what the channel requires. -/
theorem chat_lacks {channel : Channel} (sender : Account) (text : String)
    (unfiltered : session.filtering channel = false) (audible : channel ≠ .alert) :
    ∃ error, channel.checkStructure
      { Context.ofSender sender with message := some text, channel := some channel } =
        .error error := by
  cases channel with
  | globalChat | localChat | multicastChat | staffChat => cases unfiltered
  | alert => exact absurd rfl audible
  | direct | join | leave | switch => exact ⟨_, rfl⟩

theorem chat_rejected {id : AccountId} {channel : Option Channel} {text : String} {world : World}
    {sender : Account} (here : session.directory.get? id = some sender)
    (unfiltered : session.filtering
      (session.channelOf { Context.ofSender sender with channel }) = false)
    (audible : session.channelOf { Context.ofSender sender with channel } ≠ .alert) :
    ∃ error, session.chat world id channel text = session.fail (.rejected error) := by
  let spoken : Context := { Context.ofSender sender with message := some text, channel }
  have sent : session.chat world id channel text = session.submit world spoken := by
    rw [chat, submitFrom, here]
  obtain ⟨error, lacks⟩ := chat_lacks sender text unfiltered audible
  obtain ⟨_, result, stage, rfl, course, report⟩ := session.submit_course world spoken
  refine ⟨error, ?_⟩
  rw [sent]
  refine submit_error ⟨rfl, rfl⟩ ?_
  rw [report, (course_error_iff course ⟨rfl, rfl⟩ error).mpr lacks]
  rfl

/-- Whatever is said on a channel other than that for alerts is rejected unless filters see it. -/
theorem meet_unfiltered (spoken : session.speech? occurrence.event = some speech)
    (audible : speech.channel ≠ .alert)
    (unfiltered : session.filtering speech.channel = false) :
    (∃ error, session.meet occurrence = session.fail (.rejected error)) ∨
      session.settings.filtersPrivate = false ∧
        ∃ id target text, occurrence.event = .direct id target text := by
  obtain ⟨world, event⟩ := occurrence
  cases event with
  | chat id channel text =>
    obtain ⟨sender, here, rfl⟩ := Option.map_eq_some_iff.mp spoken
    exact .inl (chat_rejected here unfiltered audible)
  | alert id text =>
    obtain ⟨sender, here, rfl⟩ := Option.map_eq_some_iff.mp spoken
    exact absurd rfl audible
  | direct id target text =>
    obtain ⟨sender, here, rfl⟩ := Option.map_eq_some_iff.mp spoken
    exact .inr ⟨unfiltered, id, target, text, rfl⟩
  | connect | disconnect | switch | prefer | ignore | unignore | vanish | mute | spy | toggle =>
    cases spoken

theorem meet_refused {reason : Message} (spoken : session.speech? occurrence.event = some speech)
    (refused : (session.meet occurrence).result = .ok (some (.refused reason))) :
    (∃ id target text, occurrence.event = .direct id target text) ∧
      (session.meet occurrence).TurnedAway session speech.sender reason := by
  obtain ⟨world, event⟩ := occurrence
  obtain ⟨id, target, text, sender, rfl, here, turned⟩ :=
    session.handle_refused world event refused
  obtain ⟨same, found, rfl⟩ := Option.map_eq_some_iff.mp spoken
  cases here.symm.trans found
  exact ⟨⟨id, target, text, rfl⟩, turned⟩

/-- What a muted sender says comes to nothing: it fails, or its target turns it away, or the filter
for mutes stops it, and then nobody but the sender is told, nothing is logged, and the session is as
it was. Exempt are alerts, and private messages where they do not pass the filters. -/
theorem muted_silenced (config : Config) (run : List Occurrence) (occurrence : Occurrence)
    (speech : Speech)
    (spoken : ((ofConfig config).after run).speech? occurrence.event = some speech)
    (muting : ((ofConfig config).after run).isActive .muting = true)
    (muted : speech.sender.muted occurrence.world.clock = true)
    (bound : speech.sender.holds .bypassMute = false) (audible : speech.channel ≠ .alert)
    (filters : (∃ id target text, occurrence.event = .direct id target text) →
      config.filtersPrivate = true) :
    let session := (ofConfig config).after run
    let report := session.meet occurrence
    let reason := Message.ofText config.notices.muted
    (∃ error, report = session.fail (.rejected error)) ∨
    ((∃ id target text, occurrence.event = .direct id target text) ∧
      ∃ reason, report.TurnedAway session speech.sender reason) ∨
    report.Silenced session speech.sender reason ∧
      session.Stops occurrence speech.sender speech.text .muting reason := by
  intro session report reason
  have standing : session.registry.Standing config := standing_after config run
  have settings : session.settings = .ofConfig config := settings_after config run
  cases filtering : session.filtering speech.channel with
  | false =>
    rcases meet_unfiltered spoken audible filtering with failed | ⟨unfiltered, direct⟩
    · exact .inl failed
    · rw [settings] at unfiltered
      cases (filters direct).symm.trans unfiltered
  | true =>
    rcases meet_judged spoken filtering with failed | ⟨context, result, stage, wrote, verdict, same⟩
    · exact .inl failed
    have stops : session.filters.passage occurrence.world.clock speech.sender speech.text =
        (.error ⟨reason⟩, session.filters) :=
      Filters.passage_muted muted bound standing.filters muting
    cases verdict with
    | rejected => exact .inl ⟨_, same⟩
    | refused =>
      have refused : report.result = .ok (some (.refused _)) := congrArg Report.result same
      obtain ⟨direct, turned⟩ := meet_refused spoken refused
      exact .inr (.inl ⟨direct, _, turned⟩)
    | passed _ words passage =>
      cases wrote.symm.trans words
      cases stops.symm.trans passage
    | stopped _ words passage =>
      cases wrote.symm.trans words
      cases stops.symm.trans passage
      have result : report.result = .ok (some (.blocked reason)) := congrArg Report.result same
      have silenced : report.Silenced session speech.sender reason := by
        change session.meet occurrence = _ at same
        constructor <;> simp only [report, same]
        · rfl
        · rfl
        · exact Outbox.deliveries_deliver ..
        · exact Outbox.entries_deliver ..
      exact .inr (.inr ⟨silenced, result, speech_spoken spoken, speech_connected spoken,
        Filters.stoppedBy_muting muted bound standing.filters muting⟩)

/-- The mute holds although muting was off in between. -/
theorem muted_silenced_hurrying :
    let run := [arriving, ⟨default, .mute 1 (some 5)⟩, ⟨default, .toggle .muting false⟩,
      ⟨default, .toggle .muting true⟩]
    let session := (ofConfig hurrying).after run
    ∃ sender, session.speech? (saying "a").event = some ⟨sender, .globalChat, "a"⟩ ∧
      (session.meet (saying "a")).Silenced session sender (.ofText hurrying.notices.muted) := by
  intro run session
  let ada : Account :=
    { id := 1, name := "ada", server := some "lobby", mutedUntil := some 300000000000 }
  refine ⟨ada, rfl, ?_⟩
  rcases muted_silenced hurrying run (saying "a") _ rfl rfl rfl rfl (by decide) nofun with
    ⟨_, failed⟩ | ⟨direct, -⟩ | ⟨silenced, -⟩
  · have stopped : (session.meet (saying "a")).result =
        .ok (some (.blocked (.ofText hurrying.notices.muted))) := rfl
    rw [failed] at stopped
    cases stopped
  · obtain ⟨id, target, text, direct⟩ := direct
    cases direct
  · exact silenced

end Session

end Switchboard
