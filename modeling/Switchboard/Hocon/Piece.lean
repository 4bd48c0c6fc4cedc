import Switchboard.Hocon.Value
import Switchboard.Json.Token
import Switchboard.Numeral
import Switchboard.Text.Blank

/-! The pieces that lines of HOCON documents consist of. Each function cuts one off the start of a
text and returns it with what follows. -/
namespace Switchboard.Hocon

/-- White space within a line. -/
def isSpace (c : Char) : Bool := c != '\n' && (Text.isBlank c || c == '\uFEFF')

/-- A character of texts without quotes, which extend over white space. -/
def isBareChar (c : Char) : Bool := !"\n$\"\x7b\x7d[]:=,+#`^?!@*&\\".toList.contains c

/-- A text without quotes; two slashes begin a comment. -/
def cutBare : List Char → List Char × List Char
  | '/' :: '/' :: rest => ([], '/' :: '/' :: rest)
  | c :: rest =>
    if isBareChar c then
      let (word, after) := cutBare rest
      (c :: word, after)
    else ([], c :: rest)
  | [] => ([], [])

/-- The text without the white space, line ends and comments at its start. -/
def skipBlanks (inComment : Bool) : List Char → List Char
  | [] => []
  | '\n' :: rest => skipBlanks false rest
  | '#' :: rest => skipBlanks true rest
  | '/' :: '/' :: rest => skipBlanks true rest
  | c :: rest => if inComment || isSpace c then skipBlanks inComment rest else c :: rest

/-- What follows a separator: a comma, or else the end of the line. -/
def cutSeparator? (text : List Char) : Option (List Char) :=
  match text.dropWhile isSpace with
  | ',' :: rest => some (skipBlanks false rest)
  | [] => some []
  | '\n' :: rest => some (skipBlanks false rest)
  | '#' :: rest => some (skipBlanks true rest)
  | '/' :: '/' :: rest => some (skipBlanks true rest)
  | _ => none

/-- The text up to three quotes. Quotes that follow more than two others belong to the text. -/
def cutTripleQuote? : List Char → Option (List Char × List Char)
  | '"' :: '"' :: '"' :: '"' :: rest =>
    (cutTripleQuote? ('"' :: '"' :: '"' :: rest)).map fun (inside, after) => ('"' :: inside, after)
  | '"' :: '"' :: '"' :: rest => some ([], rest)
  | c :: rest => (cutTripleQuote? rest).map fun (inside, after) => (c :: inside, after)
  | [] => none

def cutQuoted? (text : List Char) : Option (String × List Char) := do
  let (inside, rest) ← Json.cutQuote? text
  return (String.ofList (← Json.unescape? inside), rest)

/-- A path: one name in quotes, or names with points between them. -/
def cutPath? : List Char → Option (List String × List Char)
  | '"' :: rest => (cutQuoted? rest).map fun (name, rest) => ([name], rest)
  | text =>
    let (names, rest) := cutBare text
    let names := (Text.trim (String.ofList names)).toList
    if names.isEmpty then none else some ((names.splitOn '.').map String.ofList, rest)

def cutReference? : List Char → Option (Part × List Char)
  | '$' :: '\x7b' :: text => do
    let (optional, text) :=
      match text with
      | '?' :: text => (true, text)
      | text => (false, text)
    let (path, rest) ← cutPath? (text.dropWhile isSpace)
    match rest.dropWhile isSpace with
    | '\x7d' :: rest => some (.reference path optional, rest)
    | _ => none
  | _ => none

/-- A number, which begins with a digit after its sign. It is whole if it has neither point nor
exponent and fits a word. -/
def cutNumber? (text : List Char) : Option (Setting × List Char) :=
  let (negative, unsigned) := Decimal.cutSign text
  let digits := unsigned.takeWhile Char.isDigit
  let rest := unsigned.dropWhile Char.isDigit
  let magnitude : Int := Nat.ofDigitChars 10 digits 0
  let value := if negative then -magnitude else magnitude
  let ends := !(rest.head?.any fun c => c == '.' || c == 'e' || c == 'E')
  if digits.isEmpty then none
  else if ends && Word.fitsSigned value then some (.integer value, rest)
  else (Decimal.cut? text).map fun (number, rest) => (.decimal number.nearestText, rest)

inductive Piece where
  | part (part : Part)
  | bare (text : List Char)
deriving Repr, Inhabited

/-- A number or truth value, or else a text without quotes. The word `null` is a text unless it is
all of one. -/
def cutWord? (text : List Char) : Option (Piece × List Char) :=
  match cutNumber? text with
  | some (number, rest) => some (.part (.setting number), rest)
  | none =>
    match text with
    | 't' :: 'r' :: 'u' :: 'e' :: rest => some (.part (.setting (.bool true)), rest)
    | 'f' :: 'a' :: 'l' :: 's' :: 'e' :: rest => some (.part (.setting (.bool false)), rest)
    | _ =>
      match cutBare text with
      | ([], _) => none
      | (word, rest) =>
        if word = "null".toList then some (.part (.setting .null), rest)
        else some (.bare word, rest)

def Piece.cut? : List Char → Option (Piece × List Char)
  | '"' :: '"' :: '"' :: rest =>
    (cutTripleQuote? rest).map fun (inside, rest) =>
      (.part (.setting (.text (String.ofList inside))), rest)
  | '"' :: rest =>
    (cutQuoted? rest).map fun (inside, rest) => (.part (.setting (.text inside)), rest)
  | '$' :: rest =>
    (cutReference? ('$' :: rest)).map fun (reference, rest) => (.part reference, rest)
  | text => cutWord? text

/-- The pieces at the start of a text, of which there are no more than characters. -/
def Piece.cutAll (text : List Char) : Nat → List Piece × List Char
  | 0 => ([], text)
  | steps + 1 =>
    match Piece.cut? text with
    | some (piece, rest) =>
      let (pieces, rest) := Piece.cutAll rest steps
      (piece :: pieces, rest)
    | none => ([], text)

def Piece.trimFirst : List Piece → List Piece
  | .bare text :: rest =>
    let text := text.dropWhile Text.isBlank
    if text.isEmpty then rest else .bare text :: rest
  | pieces => pieces

def Piece.trimLast (pieces : List Piece) : List Piece :=
  match pieces.reverse with
  | .bare text :: rest =>
    let text := Text.dropBlanksEnd text
    (if text.isEmpty then rest else .bare text :: rest).reverse
  | _ => pieces

def Piece.toPart : Piece → Part
  | .part whole => whole
  | .bare text => .setting (.text (String.ofList text))

def cutParts? (text : List Char) : Option (List Part × List Char) :=
  let (pieces, rest) := Piece.cutAll text text.length
  match Piece.trimLast (Piece.trimFirst pieces) with
  | [] => none
  | pieces => some (pieces.map Piece.toPart, rest)

end Switchboard.Hocon
