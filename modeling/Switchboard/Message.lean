/-! Messages ready for display: runs of text, links and emoji. Text that meets text merges and
empty text disappears, so a message built by `push` has one shape for what it shows. -/
namespace Switchboard

inductive Segment where
  | text (value : String)
  | link (value : String)
  | emoji (value : String)
deriving DecidableEq, Repr, Inhabited

namespace Segment

def value : Segment → String
  | text value | link value | emoji value => value

def kind : Segment → String
  | text _ => "text"
  | link _ => "link"
  | emoji _ => "emoji"

end Segment

structure Message where
  segments : List Segment := []
deriving DecidableEq, Repr, Inhabited

namespace Message

def empty : Message := {}

/-- Appends text to a list of segments whose last one may be text already. -/
def joinText (value : String) : List Segment → List Segment
  | [] => [.text value]
  | [.text last] => [.text (last ++ value)]
  | [last] => [last, .text value]
  | first :: second :: rest => first :: joinText value (second :: rest)

/-- Appends a segment, merging text with text and dropping empty text. Empty links and emoji
stay. -/
def push (message : Message) : Segment → Message
  | .text value => if value.isEmpty then message else ⟨joinText value message.segments⟩
  | other => ⟨message.segments ++ [other]⟩

def ofSegments (segments : List Segment) : Message := segments.foldl push empty

def ofText (value : String) : Message := empty.push (.text value)

def append (message other : Message) : Message := other.segments.foldl push message

def isEmpty (message : Message) : Bool := message.segments.isEmpty

/-- What the message reads without its markup. -/
def plainText (message : Message) : String := String.join (message.segments.map Segment.value)

/-- The message written out, one segment behind the other. -/
def display (message : Message) : String :=
  message.segments.foldl (fun written segment => written ++ segment.value) ""

end Message

end Switchboard
