import Switchboard.Message
import Switchboard.Text.Blank

/-! Shortcodes: names between colons that stand for an emoji. What the names mean is a table,
and the scan takes any. -/
namespace Switchboard.Shortcode

def isNameChar (c : Char) : Bool := c.isAlphanum || c == '_' || c == '+' || c == '-'

def isName (name : List Char) : Bool := !name.isEmpty && name.all isNameChar

/-- Lower case as far as it yields characters of shortcodes: of all letters only A to Z and the
Kelvin sign have such a lower case. -/
def lower (c : Char) : Char := if c == '\u212A' then 'k' else Text.lowerAscii c

def lowerName (name : String) : String := String.ofList (name.toList.map lower)

abbrev Glossary := List (String × String)

/-- A glossary of entries whose names may be written in any case. A later entry takes the place
of an earlier one with the same name. -/
def Glossary.ofEntries (entries : List (String × String)) : Glossary :=
  (entries.map fun entry => (lowerName entry.1, entry.2)).reverse

/-- The glyph of a name: the glossary's under the name in lower case, else the table's under the
name as it is written. -/
def glyph? (table : String → Option String) (glossary : Glossary) (name : List Char) :
    Option String :=
  if isName name then
    let name := String.ofList name
    glossary.lookup (lowerName name) <|> table name
  else none

/-- What stands before the first colon and what stands after it. -/
def cutColon? : List Char → Option (List Char × List Char)
  | [] => none
  | c :: rest =>
    if c = ':' then some ([], rest)
    else (cutColon? rest).map fun parts => (c :: parts.1, parts.2)

theorem eq_of_cutColon? {text before after : List Char}
    (cut : cutColon? text = some (before, after)) : text = before ++ ':' :: after := by
  induction text generalizing before with
  | nil => simp [cutColon?] at cut
  | cons c rest ih =>
    unfold cutColon? at cut
    split at cut
    case isTrue colon =>
      cases cut
      simp [colon]
    case isFalse =>
      obtain ⟨⟨front, back⟩, found, same⟩ := Option.map_eq_some_iff.mp cut
      cases same
      simp [ih found]

theorem length_of_cutColon? {text before after : List Char}
    (cut : cutColon? text = some (before, after)) : after.length < text.length := by
  have whole := congrArg List.length (eq_of_cutColon? cut)
  simp at whole
  omega

/-- Writes the text to the end of a message with its shortcodes resolved. After a name that
stands for nothing the scan goes on at its closing colon, which may open another name. -/
def resolve (glyphOf : List Char → Option String) (text : List Char) (shown : Message) : Message :=
  match opening : cutColon? text with
  | none => shown.push (.text (String.ofList text))
  | some (before, after) =>
    have shorter := length_of_cutColon? opening
    match closing : cutColon? after with
    | none => shown.push (.text (String.ofList text))
    | some (name, rest) =>
      have := Nat.lt_trans (length_of_cutColon? closing) shorter
      match glyphOf name with
      | some glyph =>
        resolve glyphOf rest ((shown.push (.text (String.ofList before))).push (.emoji glyph))
      | none => resolve glyphOf after (shown.push (.text (String.ofList (before ++ [':']))))
termination_by text.length

/-- Resolves the shortcodes in the text of a message. Links and emoji stay as they are. -/
def resolveMessage (glyphOf : List Char → Option String) (message : Message) : Message :=
  message.segments.foldl
    (fun shown segment =>
      match segment with
      | .text value => resolve glyphOf value.toList shown
      | other => shown.push other)
    .empty

end Switchboard.Shortcode
