import Mathlib.Tactic.Common
import Switchboard.Proofs.Merging
import Switchboard.Proofs.PlainText
import Switchboard.Proofs.Scanning

/-! A template is read in one scan from left to right. Where a placeholder starts it is taken whole,
and any other character stands for itself, so what a template is made of depends on the template
alone, and values and messages are put in as they are. Cutting the template at `%message` and
filling each piece comes to the same, because no placeholder reaches into another. -/
namespace Switchboard

namespace Text

variable {word text front first : List Char} {c : Char} {rest : List (List Char)}

end Text

namespace Template

/-- What a template has a word for. -/
inductive Slot where
  | value (placeholder : Placeholder)
  | message
deriving DecidableEq, Repr

def Slot.word : Slot → List Char
  | value placeholder => placeholder.word.toList
  | message => messageWord.toList

/-- What a template is made of. -/
abbrev Part := Text.Part Slot

def Part.segments (values : Values) (body : Option Message) : Part → List Segment
  | .letter c => [.text (String.singleton c)]
  | .token (.value placeholder) => [.text (values.get placeholder)]
  | .token .message => (body.map Message.segments).getD []

/-- The scan of a template from left to right finds the parts. -/
abbrev Scans : List Char → List Part → Prop := Text.Scans Slot.word fun _ => True

variable {slot other : Slot} {placeholder : Placeholder} {values : Values} {c : Char}
  {text after piece : List Char} {parts others : List Part}

/-! ## The scan -/

end Template

end Switchboard
