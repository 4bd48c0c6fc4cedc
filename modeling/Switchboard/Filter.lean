import Switchboard.Emoji
import Switchboard.Filter.History
import Switchboard.Filter.Memory
import Switchboard.Filter.Shortcode
import Switchboard.Message
import Switchboard.Regex

/-! Filters: what can happen to a message on its way. Filters over text see what was typed,
filters over messages see the parsed message, and either kind may change the message, block it
or edit the chains that filters stand in. -/
namespace Switchboard

/-- A message was stopped, and the sender is to be told this. -/
structure Blocked where
  reason : Message
deriving DecidableEq, Repr, Inhabited

def Blocked.message (blocked : Blocked) : String :=
  "Message blocked: " ++ blocked.reason.display

mutual

inductive TextFilter where
  | mute (notice : Message)
  | pattern (patterns : List Regex) (notice : Message)
  | duplication (rule : DuplicationRule) (notice : Message) (slot : Nat)
  | rateLimit (limit : Nat) (notice : Message) (slot : Nat)
  /-- Any function of sender and text, with the edits it makes while it runs. -/
  | custom (priority : Int) (run : Account → String → Except Blocked String × List Edit)

inductive MessageFilter where
  | emoji (glossary : Shortcode.Glossary)
  | custom (priority : Int) (run : Account → Message → Except Blocked Message × List Edit)

inductive Edit where
  | addText (key : String) (filter : TextFilter)
  | dropText (key : String)
  | addMessage (key : String) (filter : MessageFilter)
  | dropMessage (key : String)

end

namespace TextFilter

/-- Filters run in ascending priority. -/
def priority : TextFilter → Int
  | mute _ => 0
  | pattern _ _ => 100
  | duplication _ _ _ => 300
  | rateLimit _ _ _ => 400
  | custom priority _ => priority

/-- A filter by regular expressions; texts that are none are left out. -/
def ofPatterns (patterns : List String) (notice : Message) : TextFilter :=
  pattern (patterns.filterMap Regex.read?) notice

def ofFunction (priority : Int) (change : String → String) : TextFilter :=
  custom priority fun _ text => (.ok (change text), [])

/-- What comes of running a filter: the text or the block, what is remembered from then on, and
the edits made meanwhile. -/
structure Result (α : Type u) where
  outcome : Except Blocked α
  memory : Memory
  edits : List Edit := []

/-- Blocks with a notice unless the text may pass. -/
def passIf (passes : Bool) (notice : Message) (text : String) : Except Blocked String :=
  if passes then .ok text else .error ⟨notice⟩

def runMute (notice : Message) (clock : Clock) (sender : Account) (text : String) :
    Except Blocked String :=
  passIf (!sender.muted clock || sender.holds .bypassMute) notice text

def runPattern (patterns : List Regex) (notice : Message) (sender : Account) (text : String) :
    Except Blocked String :=
  passIf (sender.holds .bypassFilter || !patterns.any (·.occursIn text)) notice text

/-- Senders whom the rule spares, and all where it remembers nothing, pass unrecorded. -/
def runDuplication (rule : DuplicationRule) (notice : Message) (slot : Nat) (clock : Clock)
    (sender : Account) (text : String) (memory : Memory) : Except Blocked String × Memory :=
  if rule.capacity = 0 ∨ (rule.sparesExempt = true ∧ sender.holds .bypassAntiDuplicate = true) then
    (.ok text, memory)
  else
    let (passes, history) :=
      rule.accept clock.elapsed text (memory.utterances.get slot sender.id)
    (passIf passes notice text,
      { memory with utterances := memory.utterances.keep slot sender.id history })

/-- Senders whom no limit binds pass unrecorded. -/
def runRateLimit (limit : Nat) (notice : Message) (slot : Nat) (clock : Clock)
    (sender : Account) (text : String) (memory : Memory) : Except Blocked String × Memory :=
  if sender.holds .bypassAntiSpam then (.ok text, memory)
  else
    let (passes, history) :=
      RateLimit.accept limit clock.elapsed (memory.times.get slot sender.id)
    (passIf passes notice text,
      { memory with times := memory.times.keep slot sender.id history })

def run (filter : TextFilter) (clock : Clock) (sender : Account) (text : String)
    (memory : Memory) : Result String :=
  match filter with
  | mute notice => { outcome := runMute notice clock sender text, memory }
  | pattern patterns notice => { outcome := runPattern patterns notice sender text, memory }
  | duplication rule notice slot =>
    let (outcome, memory) := runDuplication rule notice slot clock sender text memory
    { outcome, memory }
  | rateLimit limit notice slot =>
    let (outcome, memory) := runRateLimit limit notice slot clock sender text memory
    { outcome, memory }
  | custom _ change =>
    let (outcome, edits) := change sender text
    { outcome, memory, edits }

end TextFilter

namespace MessageFilter

def priority : MessageFilter → Int
  | emoji _ => 600
  | custom priority _ => priority

def ofShortcodes (custom : List (String × String)) : MessageFilter :=
  emoji (.ofEntries custom)

def runEmoji (glossary : Shortcode.Glossary) (message : Message) : Message :=
  Shortcode.resolveMessage (Shortcode.glyph? Emoji.ofShortcode? glossary) message

def run (filter : MessageFilter) (sender : Account) (message : Message) :
    Except Blocked Message × List Edit :=
  match filter with
  | emoji glossary => (.ok (runEmoji glossary message), [])
  | custom _ change => change sender message

end MessageFilter

end Switchboard
