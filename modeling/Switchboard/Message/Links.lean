import Switchboard.Message

/-! Reading raw text into a message. Words are what single spaces separate; a word that is a
web address becomes a link and everything else stays text, the spaces included. -/
namespace Switchboard.Message

/-- A web address names a scheme and at least one character after it. -/
def isLink (word : List Char) : Bool :=
  match "https://".toList.isPrefixOf? word with
  | some rest => !rest.isEmpty
  | none =>
    match "http://".toList.isPrefixOf? word with
    | some rest => !rest.isEmpty
    | none => false

def ofWord (word : List Char) : Segment :=
  if isLink word then .link (String.ofList word) else .text (String.ofList word)

def ofWords : List (List Char) → List Segment
  | [] => []
  | [word] => [ofWord word]
  | word :: rest => ofWord word :: .text " " :: ofWords rest

def parse (raw : String) : Message := ofSegments (ofWords (raw.toList.splitOn ' '))

end Switchboard.Message
