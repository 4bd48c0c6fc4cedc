import Mathlib.Tactic.Common
import Switchboard.Proofs.Blocking
import Switchboard.Proofs.FanOut
import Switchboard.Proofs.PlainText
import Switchboard.Proofs.Speech
import Switchboard.Proofs.Validation

/-! What somebody says arrives. The features' filters over text pass a text as it is or not at all,
so that all that can change it is the filter for shortcodes; and every copy is shown through a
template that has a place for the message, which accepted settings see to. -/
namespace Switchboard.Session

/-! ## What is carried -/

/-- What the channel carries of a text: the text parsed, and with its shortcodes resolved where
messages pass the filters while that feature is active. -/
def carried (session : Session) (config : Config) (channel : Channel) (raw : String) : Message :=
  if session.filtering channel && session.isActive .emoji then
    MessageFilter.runEmoji (.ofEntries config.shortcodes) (.parse raw)
  else .parse raw

variable {session : Session} {config : Config} {channel : Channel} {clock : Clock}
  {sender : Account} {raw : String} {message : Message}

theorem plainText_carried
    (plain : (session.filtering channel && session.isActive .emoji) = false) :
    (session.carried config channel raw).plainText = raw := by
  rw [carried, if_neg (ne_true_of_eq_false plain), Message.plainText_parse]

theorem processed_eq_carried {filtered : Option String} {later : Filters}
    (standing : session.registry.Standing config)
    (processed : session.processed clock sender channel raw = (.ok (filtered, message), later)) :
    message = session.carried config channel raw := by
  unfold carried
  cases filtering : session.filtering channel with
  | true =>
    obtain ⟨text, passage⟩ := passage_of_ready filtering processed
    rw [Bool.true_and]
    exact (Filters.passage_eq standing.filters passage).2
  | false =>
    rw [Session.processed, if_neg (ne_true_of_eq_false filtering)] at processed
    cases processed
    rfl

/-! ## What is shown -/

/-- Whatever carries messages is shown through a template with a place for them. -/
def Spacious (session : Session) : Prop :=
  ∀ format : Format, format.carriesMessage = true →
    Template.carriesMessage (session.settings.templates format) = true

variable {world : World} {context ready : Context} {body : Message}

theorem render_shows (spacious : session.Spacious) {format : Format}
    (carries : format.carriesMessage = true) (parsed : ready.rendered = some body) :
    (session.render world format ready).Shows body := by
  have shows : (Template.render (.ofContext world.clock ready) body
      (session.settings.templates format)).Shows body :=
    Template.shows_render _ body (spacious format carries)
  rw [render, Template.renderContext, parsed]
  exact shows

theorem format_carries (carries : channel.carriesMessage = true) :
    channel.format.carriesMessage = true := by
  cases channel <;> first | rfl | cases carries

theorem fanOuts_show (spacious : session.Spacious) (carries : channel.carriesMessage = true)
    (parsed : ready.rendered = some body) :
    ∀ fanOut ∈ session.fanOuts world channel sender ready, fanOut.message.Shows body := by
  have own : (session.ownCopies world channel ready).message.Shows body := by
    rw [ownCopies, shown_of_carries carries]
    exact render_shows spacious (format_carries carries) parsed
  have relayed : (session.relayCopies world ready).message.Shows body :=
    render_shows spacious rfl parsed
  have overheard : (session.localSpyCopies world sender ready).message.Shows body :=
    render_shows spacious rfl parsed
  have overseen : (session.socialSpyCopies world sender ready).message.Shows body :=
    render_shows spacious rfl parsed
  intro fanOut member
  rcases List.mem_cons.mp member with rfl | member
  · exact own
  cases channel with
  | localChat =>
    rcases List.mem_pair.mp member with rfl | rfl
    · exact relayed
    · exact overheard
  | direct =>
    rw [List.mem_singleton.mp member]
    exact overseen
  | globalChat | multicastChat | staffChat | alert | join | leave | switch => cases member

theorem confirmation_shows (spacious : session.Spacious) (parsed : ready.rendered = some body) :
    ∀ delivery ∈ session.confirmation world channel sender ready, delivery.message.Shows body := by
  intro delivery member
  unfold confirmation at member
  split at member
  · rw [List.mem_singleton.mp member]
    exact render_shows spacious rfl parsed
  · cases member

theorem FanOut.message_of_mem {fanOut : FanOut} {delivery : Delivery}
    (member : delivery ∈ fanOut.copies) : delivery.message = fanOut.message := by
  obtain ⟨recipient, -, rfl⟩ := List.mem_map.mp member
  rfl

/-- A context that carries somebody's words is prepared by parsing what is carried of them. -/
theorem Prepares.rendered (prepares : session.Prepares world context channel ready)
    (standing : session.registry.Standing config) (fresh : context.Fresh)
    (speaks : context.sender = some sender) (wrote : context.message = some raw) :
    channel.carriesMessage = true ∧
      ready.rendered = some (session.carried config channel raw) := by
  cases prepares with
  | announced silent sound =>
    have wordless := Channel.wordless_of_structure sound silent
    cases wordless.symm.trans wrote
  | processed processes =>
    obtain ⟨text, filtered, message, alsoWrote, processed, same⟩ :=
      processes.ready_of_fresh fresh speaks
    cases wrote.symm.trans alsoWrote
    refine ⟨processes.carries, ?_⟩
    rw [same, processed_eq_carried standing processed]

theorem course_shows {copies : Nat} {stage : Stage} (spacious : session.Spacious)
    (standing : session.registry.Standing config) (fresh : context.Fresh)
    (wrote : context.message = some raw)
    (course : session.Course world context channel (.ok (.delivered copies)) stage) :
    ∀ delivery ∈ stage.outbox.deliveries,
      delivery.message.Shows (session.carried config channel raw) := by
  obtain ⟨sender, ready, speaks, prepares, deliveries⟩ := course_fannedOut course
  obtain ⟨carries, parsed⟩ := prepares.rendered standing fresh speaks wrote
  intro delivery member
  rw [deliveries] at member
  rcases List.mem_append.mp member with confirmed | copied
  · exact confirmation_shows spacious parsed delivery confirmed
  · obtain ⟨fanOut, out, member⟩ := List.mem_flatMap.mp copied
    rw [FanOut.message_of_mem member]
    exact fanOuts_show spacious carries parsed fanOut out

/-- What somebody says is shown by every copy that goes out. -/
theorem meet_shows {occurrence : Occurrence} {speech : Speech} {copies : Nat}
    (spacious : session.Spacious) (standing : session.registry.Standing config)
    (spoken : session.speech? occurrence.event = some speech)
    (sent : (session.meet occurrence).result = .ok (some (.delivered copies))) :
    ∀ delivery ∈ (session.meet occurrence).outbox.deliveries,
      delivery.message.Shows (session.carried config speech.channel speech.text) := by
  rcases meet_submits spoken with ⟨error, failed⟩ | ⟨context, fresh, -, wrote, on, submits⟩
  · rw [failed] at sent
    cases sent
  obtain ⟨channel, result, stage, same, course, report⟩ :=
    session.submit_course occurrence.world context
  cases same.trans on
  rw [submits, report] at sent ⊢
  rcases result with error | outcome <;> cases sent
  have freshOn : ({ context with channel := some speech.channel } : Context).Fresh :=
    ⟨fresh.unfiltered, fresh.unparsed⟩
  exact course_shows spacious standing freshOn wrote course

/-! ## Runs -/

theorem spacious_after (accepted : config.validate = .ok ()) (run : List Occurrence) :
    ((ofConfig config).after run).Spacious := by
  intro format carries
  rw [settings_after]
  exact (Config.validate_eq_ok_iff.mp accepted).1.templates format carries

/-- In every session that events have made of accepted settings, every copy of what somebody says
shows in one piece what the channel carries of it, which reads as it was written unless shortcodes
are resolved. -/
theorem delivered_shows (accepted : config.validate = .ok ()) (run : List Occurrence)
    (occurrence : Occurrence) {id : AccountId} {copies : Nat}
    (spoken : occurrence.event.spoken? = some (id, raw))
    (sent : (((ofConfig config).after run).meet occurrence).result =
      .ok (some (.delivered copies))) :
    let session := (ofConfig config).after run
    ∃ sender channel, session.directory.get? id = some sender ∧
      session.speech? occurrence.event = some ⟨sender, channel, raw⟩ ∧
      (∀ delivery ∈ (session.meet occurrence).outbox.deliveries,
        delivery.message.Shows (session.carried config channel raw)) ∧
      ((session.filtering channel && session.isActive .emoji) = false →
        (session.carried config channel raw).plainText = raw) := by
  have spacious := spacious_after accepted run
  have standing := standing_after config run
  rcases speech_of_spoken spoken with ⟨error, failed⟩ | ⟨sender, channel, here, said⟩
  · rw [failed] at sent
    cases sent
  · have shows := meet_shows spacious standing said sent
    exact ⟨sender, channel, here, said, shows, plainText_carried⟩

def waving : Config where
  shortcodes := [("wave", "👋")]

def greeting : String := "hi :wave: https://a.b"

theorem delivered_shows_waving :
    let session := (ofConfig waving).after [arriving]
    (session.meet (saying greeting)).outbox.deliveries ≠ [] ∧
      (session.carried waving .globalChat greeting).plainText = "hi 👋 https://a.b" ∧
      ∀ delivery ∈ (session.meet (saying greeting)).outbox.deliveries,
        delivery.message.Shows (session.carried waving .globalChat greeting) := by
  have accepted : waving.validate = .ok () :=
    Config.validate_of_problems.mpr (by decide +kernel)
  have sent : (((ofConfig waving).after [arriving]).meet (saying greeting)).result =
      .ok (some (.delivered 1)) := rfl
  obtain ⟨sender, channel, -, said, shows, -⟩ :=
    delivered_shows accepted [arriving] (saying greeting) rfl sent
  -- The event names the channel.
  obtain rfl : channel = .globalChat := congrArg Speech.channel (Option.some.inj said.symm)
  exact ⟨by decide +kernel, by decide +kernel, shows⟩

end Switchboard.Session
