import Switchboard.Filter
import Switchboard.Filter.Chain

/-! The two chains of filters that every message passes, with what their filters remember. A
message runs through the filters that stood in the chain when its run began; what they do to the
chains meanwhile counts from the next message on. -/
namespace Switchboard

structure Filters where
  text : Chain TextFilter := {}
  message : Chain MessageFilter := {}
  memory : Memory := {}
  /-- The first slot of memory that no filter owns. -/
  nextSlot : Nat := 0
deriving Inhabited

namespace Filters

def addText (filters : Filters) (key : String) (filter : TextFilter) : Filters :=
  { filters with text := filters.text.insert key filter.priority filter }

def addMessage (filters : Filters) (key : String) (filter : MessageFilter) : Filters :=
  { filters with message := filters.message.insert key filter.priority filter }

def removeText (filters : Filters) (key : String) : Bool × Filters :=
  let (present, text) := filters.text.remove key
  (present, { filters with text })

def removeMessage (filters : Filters) (key : String) : Bool × Filters :=
  let (present, message) := filters.message.remove key
  (present, { filters with message })

def dropText (filters : Filters) (key : String) : Filters := (filters.removeText key).2

def dropMessage (filters : Filters) (key : String) : Filters := (filters.removeMessage key).2

/-- A slot of memory for a new filter. -/
def reserve (filters : Filters) : Nat × Filters :=
  (filters.nextSlot, { filters with nextSlot := filters.nextSlot + 1 })

def edit (filters : Filters) : Edit → Filters
  | .addText key filter => filters.addText key filter
  | .dropText key => filters.dropText key
  | .addMessage key filter => filters.addMessage key filter
  | .dropMessage key => filters.dropMessage key

/-- Runs one filter over a text and carries out its edits. -/
def applyText (filters : Filters) (clock : Clock) (sender : Account) (filter : TextFilter)
    (text : String) : Except Blocked String × Filters :=
  let result := filter.run clock sender text filters.memory
  (result.outcome, result.edits.foldl edit { filters with memory := result.memory })

def applyMessage (filters : Filters) (sender : Account) (filter : MessageFilter)
    (message : Message) : Except Blocked Message × Filters :=
  let (outcome, edits) := filter.run sender message
  (outcome, edits.foldl edit filters)

/-- Runs filters one after another, up to the first that blocks. -/
def runText (clock : Clock) (sender : Account) :
    List (Entry TextFilter) → String → Filters → Except Blocked String × Filters
  | [], text, filters => (.ok text, filters)
  | entry :: rest, text, filters =>
    match filters.applyText clock sender entry.filter text with
    | (.ok text, filters) => runText clock sender rest text filters
    | (.error blocked, filters) => (.error blocked, filters)

def runMessage (sender : Account) :
    List (Entry MessageFilter) → Message → Filters → Except Blocked Message × Filters
  | [], message, filters => (.ok message, filters)
  | entry :: rest, message, filters =>
    match filters.applyMessage sender entry.filter message with
    | (.ok message, filters) => runMessage sender rest message filters
    | (.error blocked, filters) => (.error blocked, filters)

def filterText (filters : Filters) (clock : Clock) (sender : Account) (text : String) :
    Except Blocked String × Filters :=
  runText clock sender filters.text.entries text filters

def filterMessage (filters : Filters) (sender : Account) (message : Message) :
    Except Blocked Message × Filters :=
  runMessage sender filters.message.entries message filters

end Filters

end Switchboard
