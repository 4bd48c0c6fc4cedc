import Switchboard.Hocon.Piece

/-! The members of a HOCON document. A document in braces is read as a whole; of any other, what
follows the first member that cannot be read is left out. -/
namespace Switchboard.Hocon

/-- What follows the references at the start of a text. -/
def skipReferences (text : List Char) : Nat → List Char
  | 0 => text
  | steps + 1 =>
    match cutReference? (text.dropWhile isSpace) with
    | some (_, rest) => skipReferences rest steps
    | none => text.dropWhile isSpace

mutual

/-- Reads members up to the first that cannot be read or is not followed by a separator. -/
def readMembers (fuel : Nat) (text : List Char) : List Member × List Char :=
  match fuel with
  | 0 => ([], text)
  | fuel + 1 =>
    match readMember? fuel text with
    | none => ([], text)
    | some (member, rest) =>
      match cutSeparator? rest with
      | none => ([member], rest.dropWhile isSpace)
      | some rest =>
        let (members, rest) := readMembers fuel rest
        (member :: members, rest)

/-- Reads a path and its value: one after a sign, or a table. -/
def readMember? (fuel : Nat) (text : List Char) : Option (Member × List Char) :=
  match fuel with
  | 0 => none
  | fuel + 1 => do
    let (path, rest) ← cutPath? text
    let (value, rest) ←
      match rest.dropWhile Text.isBlank with
      | '=' :: rest | ':' :: rest => readValue? fuel rest
      | '\x7b' :: rest => readValue? fuel ('\x7b' :: rest)
      | _ => none
    return ((path, value), rest)

/-- Reads a value, which is a table or list if its first part that is no reference is one. -/
def readValue? (fuel : Nat) (text : List Char) : Option (Value × List Char) :=
  match fuel with
  | 0 => none
  | fuel + 1 =>
    let text := text.dropWhile Text.isBlank
    match skipReferences text text.length with
    | '\x7b' :: _ => (readTables? fuel text).map fun (members, rest) => (.table members, rest)
    | '[' :: _ => (readLists? fuel text).map fun (items, rest) => (.list items, rest)
    | _ => (cutParts? text).map fun (parts, rest) => (.plain parts, rest)

/-- Reads a table. One with neither members nor anything else between its braces is empty, and
otherwise it has members. -/
def readTable? (fuel : Nat) (text : List Char) : Option (List Member × List Char) :=
  match fuel with
  | 0 => none
  | fuel + 1 =>
    match text with
    | '\x7b' :: '\x7d' :: rest => some ([([], .emptied)], rest)
    | '\x7b' :: rest =>
      match readMembers fuel (skipBlanks false rest) with
      | (member :: members, '\x7d' :: rest) => some (member :: members, rest)
      | _ => none
    | _ => none

/-- Reads tables, and references to tables, that stand side by side. -/
def readTables? (fuel : Nat) (text : List Char) : Option (List Member × List Char) :=
  match fuel with
  | 0 => none
  | fuel + 1 => do
    let next := text.dropWhile isSpace
    if next.head? = some '\x7b' then
      let (members, rest) ← readTable? fuel next
      let (others, rest) ← readTables? fuel rest
      return (members ++ others, rest)
    else
      match cutReference? next with
      | some (reference, rest) =>
        let (others, rest) ← readTables? fuel rest
        return (([], .plain [reference]) :: others, rest)
      | none => return ([], text)

/-- Reads items up to the first that cannot be read or is not followed by a separator. -/
def readItems (fuel : Nat) (text : List Char) : List Value × List Char :=
  match fuel with
  | 0 => ([], text)
  | fuel + 1 =>
    match readValue? fuel text with
    | none => ([], text)
    | some (item, rest) =>
      match cutSeparator? rest with
      | none => ([item], rest.dropWhile isSpace)
      | some rest =>
        let (items, rest) := readItems fuel rest
        (item :: items, rest)

/-- Reads lists, and references to lists, that stand side by side. A list is empty, or else it
has items. -/
def readLists? (fuel : Nat) (text : List Char) : Option (List Value × List Char) :=
  match fuel with
  | 0 => none
  | fuel + 1 => do
    let next := text.dropWhile isSpace
    match next with
    | '[' :: ']' :: rest => readLists? fuel rest
    | '[' :: rest =>
      match readItems fuel (skipBlanks false rest) with
      | (item :: items, ']' :: rest) =>
        let (others, rest) ← readLists? fuel rest
        return (item :: items ++ others, rest)
      | _ => none
    | _ =>
      match cutReference? next with
      | some (.reference path _, rest) =>
        let (others, rest) ← readLists? fuel rest
        return (.spread path :: others, rest)
      | _ => return ([], text)

end

/-- The members of a document. A carriage return ends a line like a line feed. Reading goes no
deeper than four steps for each character. -/
def readMembers? (document : String) : Option (List Member) :=
  let text := document.toList.map fun c => if c == '\r' then '\n' else c
  let text := skipBlanks false text
  let fuel := 4 * text.length + 4
  match text with
  | '\x7b' :: _ =>
    match readTable? fuel text with
    | some (members, rest) => if (skipBlanks false rest).isEmpty then some members else none
    | none => none
  | '[' :: _ => none
  | _ => some (readMembers fuel text).1

end Switchboard.Hocon
