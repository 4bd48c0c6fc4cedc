import Switchboard.Clock
import Switchboard.Context
import Switchboard.Text.Pieces

/-! Templates: text with placeholders for the values of a context, and with `%message` where the
message itself goes. A template is read once, so a value or message that looks like a placeholder
is shown as it is. -/
namespace Switchboard.Template

structure Values where
  time : String := ""
  user : String := ""
  target : String := ""
  server : String := ""
  channel : String := ""
deriving Repr, Inhabited

inductive Placeholder where
  | time
  | user
  | target
  | server
  | channel
deriving DecidableEq, Repr

namespace Placeholder

def all : List Placeholder := [time, user, target, server, channel]

def word : Placeholder → String
  | time => "%time"
  | user => "%user"
  | target => "%target"
  | server => "%server"
  | channel => "%channel"

/-- The placeholder at the start of the text and what follows it. No word starts another, so
there is at most one. -/
def readAt? (text : List Char) : Option (Placeholder × List Char) :=
  all.findSome? fun placeholder =>
    (placeholder.word.toList.isPrefixOf? text).map fun rest => (placeholder, rest)

theorem length_of_readAt? {text rest : List Char} {placeholder : Placeholder}
    (found : readAt? text = some (placeholder, rest)) : rest.length < text.length := by
  obtain ⟨candidate, _, here⟩ := List.exists_of_findSome?_eq_some found
  obtain ⟨after, start, same⟩ := Option.map_eq_some_iff.mp here
  cases same
  have whole := congrArg List.length (Text.isPrefixOf?_eq_some start)
  cases placeholder <;> simp [word] at whole <;> omega

end Placeholder

namespace Values

def get (values : Values) : Placeholder → String
  | .time => values.time
  | .user => values.user
  | .target => values.target
  | .server => values.server
  | .channel => values.channel

/-- The values of a context; what a context lacks is the empty text. -/
def ofContext (clock : Clock) (context : Context) : Values where
  time := clock.timeOfDay
  user := (context.sender.map Account.name).getD ""
  target := (context.target.map Account.name).getD ""
  server := context.server.getD ""
  channel := (context.channel.map Channel.name).getD ""

end Values

/-- Replaces placeholders by their values. -/
def fill (values : Values) (text : List Char) : List Char :=
  match text with
  | [] => []
  | c :: rest =>
    match found : Placeholder.readAt? (c :: rest) with
    | some (placeholder, after) =>
      have := Placeholder.length_of_readAt? found
      (values.get placeholder).toList ++ fill values after
    | none => c :: fill values rest
termination_by text.length
decreasing_by
  · assumption
  · simp

def format (values : Values) (template : String) : String :=
  String.ofList (fill values template.toList)

/-- The word at which the message is spliced in. -/
def messageWord : String := "%message"

def carriesMessage (template : String) : Bool :=
  Text.holds messageWord.toList template.toList

/-- Fills the template and puts `body` at every `%message`. -/
def render (values : Values) (body : Message) (template : String) : Message :=
  match Text.pieces messageWord.toList template.toList with
  | [] => .empty
  | first :: rest =>
    rest.foldl (fun shown piece => (shown.append body).push (textOf piece))
      (Message.empty.push (textOf first))
where
  textOf (piece : List Char) : Segment := .text (String.ofList (fill values piece))

/-- Shows a context through a template; an unparsed message shows as nothing. -/
def renderContext (clock : Clock) (context : Context) (template : String) : Message :=
  render (.ofContext clock context) (context.rendered.getD .empty) template

end Switchboard.Template
