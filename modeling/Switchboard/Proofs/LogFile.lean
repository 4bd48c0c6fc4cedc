import Mathlib.Data.List.Induction
import Mathlib.Tactic.Common
import Switchboard.Proofs.Framing
import Switchboard.Proofs.Isolation
import Switchboard.Proofs.Logging
import Switchboard.Proofs.Presence
import Switchboard.Proofs.Speech
import Switchboard.Proofs.Traces

/-! The log file. Each entry is written as one line, but nothing keeps a line feed out of it: names,
servers and messages stand in an entry as events carry them. So a line of the file is an entry just
as long as none of these has a line feed in it, and whoever writes one can go on with a line that
looks like somebody else's entry. -/
namespace Switchboard

open Text

namespace LogEntry

/-- The lines that are written for the entries, each with the time when it is written. -/
def stamped (stamp : Nat → String) (entries : List LogEntry) : List String :=
  entries.mapIdx fun number entry => entry.stampedLine (stamp number)

variable {stamp : Nat → String} {entries : List LogEntry} {time : String}

theorem length_stamped (stamp : Nat → String) (entries : List LogEntry) :
    (stamped stamp entries).length = entries.length := List.length_mapIdx

theorem count_stampedLine (plain : Unbroken time) (entry : LogEntry) :
    (entry.stampedLine time).toList.count '\n' = entry.line.toList.count '\n' := by
  have before : Unbroken ("[" ++ time ++ "] ") :=
    unbroken_append.mpr ⟨unbroken_append.mpr ⟨by decide, plain⟩, by decide⟩
  rw [stampedLine, String.toList_append, List.count_append, List.count_eq_zero.mpr before,
    Nat.zero_add]

theorem unbroken_stampedLine_iff (plain : Unbroken time) (entry : LogEntry) :
    Unbroken (entry.stampedLine time) ↔ Unbroken entry.line := by
  rw [Unbroken, Unbroken, ← List.count_eq_zero, ← List.count_eq_zero, count_stampedLine plain]

theorem counts_stamped (plain : ∀ number, Unbroken (stamp number)) :
    (stamped stamp entries).map (fun line => line.toList.count '\n') =
      entries.map fun entry => entry.line.toList.count '\n' := by
  apply List.ext_getElem
  · simp [stamped]
  · intro number _ _
    simp [stamped, count_stampedLine (plain number)]

theorem unbroken_stamped_iff (plain : ∀ number, Unbroken (stamp number)) :
    (∀ line ∈ stamped stamp entries, Unbroken line) ↔ ∀ entry ∈ entries, Unbroken entry.line := by
  constructor
  · intro unbroken entry member
    obtain ⟨number, inside, rfl⟩ := List.getElem_of_mem member
    apply (unbroken_stampedLine_iff (plain number) _).mp
    apply unbroken
    exact List.mem_mapIdx.mpr ⟨number, inside, rfl⟩
  · intro unbroken line member
    obtain ⟨number, inside, rfl⟩ := List.mem_mapIdx.mp member
    apply (unbroken_stampedLine_iff (plain number) _).mpr
    exact unbroken _ (List.getElem_mem inside)

/-- An entry in whose text the line of another follows after a line feed leaves the same file as
both entries. -/
theorem ofLines_forged (entry other : LogEntry) (time later : String) (rest : List String) :
    let forged : LogEntry := { entry with text := entry.text ++ "\n" ++ other.stampedLine later }
    ofLines (forged.stampedLine time :: rest) =
      ofLines (entry.stampedLine time :: other.stampedLine later :: rest) := by
  intro forged
  apply String.toList_inj.mp
  simp [forged, toList_ofLines_cons, stampedLine, line, String.toList_append]

end LogEntry

namespace Account

/-- The name and the server of the account are each on one line. -/
structure Unbroken (account : Account) : Prop where
  name : Text.Unbroken account.name
  server : ∀ server ∈ account.server, Text.Unbroken server

theorem Unbroken.grants {account : Account} (unbroken : account.Unbroken)
    (permissions : List Permission) : (permissions.foldl grant account).Unbroken := by
  induction permissions generalizing account with
  | nil => exact unbroken
  | cons permission rest ih =>
    apply ih
    exact ⟨unbroken.name, unbroken.server⟩

end Account

namespace Event

/-- Every name, server and message in the event is on one line. -/
def Unbroken : Event → Prop
  | connect _ name server _ _ => Text.Unbroken name ∧ ∀ place ∈ server, Text.Unbroken place
  | switch _ server => Text.Unbroken server
  | chat _ _ message | direct _ _ message | alert _ message => Text.Unbroken message
  | disconnect _ | prefer .. | ignore .. | unignore .. | vanish .. | mute .. | spy .. | toggle .. =>
    True

theorem unbroken_revise {event : Event} (unbroken : event.Unbroken)
    {deadline? : Int → Option Int} {found : Option Account}
    (before : ∀ account ∈ found, account.Unbroken) :
    ∀ account ∈ event.revise deadline? found, account.Unbroken := by
  have changed {change : Account → Account}
      (keeps : ∀ account, (change account).name = account.name ∧
        (change account).server = account.server) :
      ∀ account ∈ found.map change, account.Unbroken := by
    intro account member
    obtain ⟨earlier, there, rfl⟩ := Option.map_eq_some_iff.mp member
    obtain ⟨name, server⟩ := keeps earlier
    obtain ⟨own, place⟩ := before earlier there
    exact ⟨name ▸ own, server ▸ place⟩
  cases event with
  | connect id name server permissions channel =>
    rintro _ ⟨⟩
    apply Account.Unbroken.grants
    exact ⟨unbroken.1, unbroken.2⟩
  | disconnect => exact fun _ => nofun
  | switch id server =>
    intro account member
    obtain ⟨earlier, there, rfl⟩ := Option.map_eq_some_iff.mp member
    refine ⟨(before earlier there).name, ?_⟩
    rintro _ ⟨⟩
    exact unbroken
  | prefer | ignore | unignore | vanish | spy => exact changed fun _ => ⟨rfl, rfl⟩
  | mute id minutes =>
    cases minutes with
    | none => exact changed fun _ => ⟨rfl, rfl⟩
    | some minutes =>
      rw [revise]
      split
      · exact changed fun _ => ⟨rfl, rfl⟩
      · exact before
  | chat | direct | alert | toggle => exact before

end Event

namespace Session

variable {session : Session} {config : Config} {world : World} {context : Context}
  {sender : Account} {channel : Channel} {clock : Clock} {raw text : String} {entry : LogEntry}
  {occurrence : Occurrence}

/-! ## What an event leaves in the log -/

theorem Passes.eq_raw (passes : session.Passes clock sender channel raw text)
    (standing : session.registry.Standing config) : text = raw := by
  unfold Passes at passes
  split at passes
  · exact Filters.runText_text standing.filters.configured (Prod.ext passes rfl)
  · exact passes

/-- The entry tells of a message with the text in which a connected account speaks, of the server
where the account is, and of no other connected account but the one that is addressed. -/
structure Tells (session : Session) (speech : Speech) (entry : LogEntry) : Prop where
  sender : entry.sender = speech.sender.name
  server : entry.server = speech.sender.server
  text : entry.text = speech.text
  label : entry.label = speech.channel.name.toUpper ∨
    ∃ target, session.directory.get? target.id = some target ∧ entry.label = "PM to " ++ target.name

theorem submit_entries (standing : session.registry.Standing config) (fresh : context.Fresh)
    (speaks : context.sender = some sender) (wrote : context.message = some raw)
    (member : entry ∈ (session.submit world context).outbox.entries) :
    entry.sender = sender.name ∧ entry.server = context.server ∧ entry.text = raw ∧
      entry.label = logLabel (session.channelOf context) context := by
  obtain ⟨channel, result, stage, rfl, course, report⟩ := session.submit_course world context
  rw [report] at member
  have freshOn : ({ context with channel := some (session.channelOf context) } : Context).Fresh :=
    ⟨fresh.unfiltered, fresh.unparsed⟩
  obtain ⟨-, -, -, -, other, ready, later, alsoSpeaks, processes, rfl⟩ :=
    course_of_entry course member
  cases speaks.symm.trans alsoSpeaks
  obtain ⟨written, logged⟩ := logged_of_ready freshOn alsoSpeaks processes
  cases wrote.symm.trans logged.wrote
  exact ⟨logged.author, logged.server, logged.text.eq_raw standing, logged.label⟩

theorem submit_unlogged (silent : (session.channelOf context).carriesMessage = false) :
    (session.submit world context).outbox.entries = [] := by
  obtain ⟨channel, result, stage, rfl, course, report⟩ := session.submit_course world context
  rw [report]
  apply List.eq_nil_iff_forall_not_mem.mpr
  intro entry member
  obtain ⟨-, -, logged, -⟩ := course_of_entry course member
  rw [logs_of_silent silent] at logged
  cases logged

theorem logLabel_untargeted (untargeted : context.target = none) :
    logLabel channel context = channel.name.toUpper := by
  unfold logLabel
  rw [untargeted]
  cases channel <;> rfl

theorem speaks_entries {event : Event} {told : Context}
    (standing : session.registry.Standing config)
    (speaks : session.directory.Speaks event sender told)
    (member : entry ∈ (session.submit world told).outbox.entries) :
    ∃ speech, session.speech? event = some speech ∧ session.Tells speech entry := by
  cases speaks with
  | chat here | alert here =>
    obtain ⟨author, server, text, label⟩ := submit_entries standing ⟨rfl, rfl⟩ rfl rfl member
    refine ⟨_, by rw [speech?, here]; rfl, author, server, text, .inl ?_⟩
    exact label.trans (logLabel_untargeted rfl)
  | direct here there =>
    obtain ⟨author, server, text, label⟩ := submit_entries standing ⟨rfl, rfl⟩ rfl rfl member
    refine ⟨_, by rw [speech?, here]; rfl, author, server, text, .inr ⟨_, ?_, label⟩⟩
    rw [Directory.id_of_get? there]
    exact there

/-- Only what connected accounts say is logged, as they say it. -/
theorem meet_entries (standing : session.registry.Standing config)
    (member : entry ∈ (session.meet occurrence).outbox.entries) :
    ∃ speech, session.speech? occurrence.event = some speech ∧ session.Tells speech entry := by
  obtain ⟨world, event⟩ := occurrence
  obtain ⟨plan, asks, handled⟩ := session.handle_cases world event
  rw [meet, handled] at member
  cases asks with
  | fail | change | toggle => cases member
  | notice notifies =>
    rw [carryOut] at member
    dsimp only at member
    rw [submit_unlogged (by exact notifies.silent)] at member
    cases member
  | speech speaks => exact speaks_entries standing speaks member

/-! ## Line feeds -/

/-- The names and servers of all who are connected are each on one line. -/
def Tidy (session : Session) : Prop :=
  ∀ id, ∀ account ∈ session.directory.get? id, account.Unbroken

theorem Tidy.meet (tidy : session.Tidy) (unbroken : occurrence.event.Unbroken) :
    (session.meet occurrence).session.Tidy := by
  intro id
  rw [get?_meet]
  split
  · exact Event.unbroken_revise unbroken (tidy id)
  · exact tidy id

theorem unbroken_label (channel : Channel) : Text.Unbroken channel.name.toUpper := by
  cases channel <;> decide +kernel

theorem Tells.unbroken {speech : Speech} (tells : session.Tells speech entry)
    (tidy : session.Tidy) (own : speech.sender.Unbroken) (said : Text.Unbroken speech.text) :
    Text.Unbroken entry.line := by
  have server : Text.Unbroken (entry.server.getD "-") := by
    rw [tells.server]
    cases place : speech.sender.server with
    | none => decide
    | some server => exact own.server server place
  have label : Text.Unbroken entry.label := by
    rcases tells.label with same | ⟨target, here, same⟩
    · rw [same]
      exact unbroken_label _
    · rw [same]
      exact unbroken_append.mpr ⟨by decide, (tidy target.id target here).name⟩
  have author : Text.Unbroken entry.sender := tells.sender ▸ own.name
  have text : Text.Unbroken entry.text := tells.text ▸ said
  have opening : Text.Unbroken "[" := by decide
  have between : Text.Unbroken "] [" := by decide
  have closing : Text.Unbroken "] " := by decide
  have colon : Text.Unbroken ": " := by decide
  simp [LogEntry.line, opening, server, between, label, closing, author, colon, text]

/-- What is logged of an event is on one line where the event and all who are connected are. -/
theorem meet_unbroken (standing : session.registry.Standing config) (tidy : session.Tidy)
    (unbroken : occurrence.event.Unbroken) :
    ∀ entry ∈ (session.meet occurrence).outbox.entries, Text.Unbroken entry.line := by
  intro entry member
  obtain ⟨speech, spoken, tells⟩ := meet_entries standing member
  have own : speech.sender.Unbroken := tidy _ _ (speech_connected spoken)
  apply tells.unbroken tidy own
  obtain ⟨world, event⟩ := occurrence
  cases event with
  | chat | direct | alert =>
    obtain ⟨sender, -, rfl⟩ := Option.map_eq_some_iff.mp spoken
    exact unbroken
  | connect | disconnect | switch | prefer | ignore | unignore | vanish | mute | spy | toggle =>
    cases spoken

/-! ## The file -/

theorem recorded_subset (session : Session) (occurrence : Occurrence) :
    (session.meet occurrence).outbox.recorded ⊆ (session.meet occurrence).outbox.entries := by
  obtain ⟨world, event⟩ := occurrence
  have parallel : (session.handle (world.uptake.world world.clock) event).Parallel world.uptake
      world.uptake (session.handle (world.uptake.world world.clock) event) := handle_parallel event
  have recorded := parallel.outbox.writes.recorded
  rw [world.uptake_world] at recorded
  rw [meet, recorded]
  exact Outbox.taken_subset ..

def recorded (session : Session) (run : List Occurrence) : List LogEntry :=
  (session.transcript run).flatMap fun seen => seen.2.recorded

/-- The log file after a run, the entries written at these times. -/
def logFile (session : Session) (stamp : Nat → String) (run : List Occurrence) : String :=
  ofLines (LogEntry.stamped stamp (session.recorded run))

theorem recorded_unbroken {run : List Occurrence} (standing : session.registry.Standing config)
    (tidy : session.Tidy) (unbroken : ∀ occurrence ∈ run, occurrence.event.Unbroken) :
    ∀ entry ∈ session.recorded run, Text.Unbroken entry.line := by
  induction run generalizing session with
  | nil => exact fun _ => nofun
  | cons occurrence rest ih =>
    obtain ⟨own, others⟩ := List.forall_mem_cons.mp unbroken
    have standingAfter : (session.meet occurrence).session.registry.Standing config := by
      have twins : session.Twins config occurrence.time session := .refl standing
      exact (twins_meet twins).2.2.standing
    intro entry member
    rcases List.mem_append.mp member with now | after
    · exact meet_unbroken standing tidy own entry (recorded_subset session occurrence now)
    · exact ih standingAfter (tidy.meet own) others entry after

/-- The file has one line for each entry and one more for each line feed in an entry. Its lines are
the entries exactly if no entry has a line feed in it, and none has where none is in the names,
servers and messages of the events. -/
theorem logFile_lines (config : Config) (run : List Occurrence) {stamp : Nat → String}
    (plain : ∀ number, Text.Unbroken (stamp number)) :
    let entries := (ofConfig config).recorded run
    let stamped := LogEntry.stamped stamp entries
    let lines := stamped.flatMap linePieces
    lines? ((ofConfig config).logFile stamp run) = some lines ∧
      lines.length = entries.length + (entries.map fun entry => entry.line.toList.count '\n').sum ∧
      (lines = stamped ↔ ∀ entry ∈ entries, Text.Unbroken entry.line) ∧
      ((∀ occurrence ∈ run, occurrence.event.Unbroken) → lines = stamped) := by
  intro entries stamped lines
  have framed : lines = stamped ↔ ∀ entry ∈ entries, Text.Unbroken entry.line := by
    rw [flatMap_linePieces_eq_self_iff]
    exact LogEntry.unbroken_stamped_iff plain
  refine ⟨lines?_ofLines stamped, ?_, framed, ?_⟩
  · rw [length_flatMap_linePieces, LogEntry.counts_stamped plain, LogEntry.length_stamped]
  · intro unbroken
    have standing : (ofConfig config).registry.Standing config := standing_after config []
    have tidy : (ofConfig config).Tidy := fun _ _ => nofun
    exact framed.mpr (recorded_unbroken standing tidy unbroken)

def pair : List Occurrence := [
  ⟨{ clock := default }, .connect 1 "ada" (some "lobby") [] none⟩,
  ⟨{ clock := default }, .connect 2 "bo" (some "lobby") [] none⟩]

/-- What one of them says has a line feed in it. -/
def forging : List Occurrence :=
  pair ++ [⟨{ clock := default }, .chat 1 (some .globalChat) "hi\n[noon] [lobby] [GLOBAL] bo: bye"⟩]

def talking : List Occurrence := pair ++ [
  ⟨{ clock := default }, .chat 1 (some .globalChat) "hi"⟩,
  ⟨{ clock := default }, .chat 2 (some .globalChat) "bye"⟩]

theorem recorded_talking : (ofConfig {}).recorded talking =
    [⟨some "lobby", "GLOBAL", "ada", "hi"⟩, ⟨some "lobby", "GLOBAL", "bo", "bye"⟩] := by
  decide +kernel

theorem logFile_lines_talking :
    lines? ((ofConfig {}).logFile (fun _ => "noon") talking) =
      some ["[noon] [lobby] [GLOBAL] ada: hi", "[noon] [lobby] [GLOBAL] bo: bye"] := by
  have noon : Text.Unbroken "noon" := by decide
  have unbroken : ∀ occurrence ∈ talking, occurrence.event.Unbroken := by
    simp [talking, pair, Event.Unbroken, Text.Unbroken]
  obtain ⟨found, -, -, framed⟩ := logFile_lines {} talking fun _ => noon
  rw [found, framed unbroken, recorded_talking]
  rfl

/-- One message may leave two lines, and the file may be the same as if somebody else had written
the second. -/
theorem logFile_forged :
    ((ofConfig {}).recorded forging).length = 1 ∧
      lines? ((ofConfig {}).logFile (fun _ => "noon") forging) =
        some ["[noon] [lobby] [GLOBAL] ada: hi", "[noon] [lobby] [GLOBAL] bo: bye"] ∧
      (ofConfig {}).logFile (fun _ => "noon") forging =
        (ofConfig {}).logFile (fun _ => "noon") talking := by
  let hi : LogEntry := ⟨some "lobby", "GLOBAL", "ada", "hi"⟩
  let bye : LogEntry := ⟨some "lobby", "GLOBAL", "bo", "bye"⟩
  have forged : (ofConfig {}).recorded forging =
      [{ hi with text := hi.text ++ "\n" ++ bye.stampedLine "noon" }] := by decide +kernel
  have same : (ofConfig {}).logFile (fun _ => "noon") forging =
      (ofConfig {}).logFile (fun _ => "noon") talking := by
    rw [logFile, logFile, forged, recorded_talking]
    exact LogEntry.ofLines_forged hi bye "noon" "noon" []
  have lines : lines? (ofLines [hi.stampedLine "noon", bye.stampedLine "noon"]) =
      some [hi.stampedLine "noon", bye.stampedLine "noon"] := by decide +kernel
  refine ⟨by rw [forged]; rfl, ?_, same⟩
  rw [same, logFile, recorded_talking]
  exact lines

end Session

end Switchboard
