import Switchboard.Numeral
import Switchboard.Regex.ClassReader
import Switchboard.Regex.Pattern
import Switchboard.Unicode.Name

/-! Reading patterns from text. -/
namespace Switchboard.Regex

open Unicode (CharSet)

structure Flags where
  ignoreCase : Bool := false
  multiLine : Bool := false
  dotMatchesAll : Bool := false
  swapGreed : Bool := false
  ignoreSpace : Bool := false

/-- What is still to be read, and what has been learnt so far. -/
structure Scan where
  rest : List Char
  /-- The length of the whole pattern in bytes; no group number reaches half of it. -/
  size : Nat
  flags : Flags := {}
  groups : Nat := 0
  names : List (String × Nat) := []
  /-- Whether a group has been recalled by number. -/
  numbered : Bool := false

abbrev Reading := StateT Scan Option

namespace Reading

inductive Skipping where
  | code
  | lineComment
  | groupComment

/-- Drops comments and, where the pattern ignores them, blanks. An open group comment is an
error. -/
def skip (ignoreSpace : Bool) : Skipping → List Char → Option (List Char)
  | .code, [] => some []
  | .code, '(' :: '?' :: '#' :: rest => skip ignoreSpace .groupComment rest
  | .code, c :: rest =>
    if ignoreSpace && c == '#' then skip ignoreSpace .lineComment rest
    else if ignoreSpace && (c == ' ' || c == '\r' || c == '\n' || c == '\t') then
      skip ignoreSpace .code rest
    else some (c :: rest)
  | .lineComment, [] => some []
  | .lineComment, c :: rest =>
    skip ignoreSpace (if c == '\n' then .code else .lineComment) rest
  | .groupComment, [] => none
  | .groupComment, '\\' :: _ :: rest => skip ignoreSpace .groupComment rest
  | .groupComment, c :: rest =>
    skip ignoreSpace (if c == ')' then .code else .groupComment) rest

def skipSpace : Reading Unit := do
  let scan ← get
  let rest ← skip scan.flags.ignoreSpace .code scan.rest
  set { scan with rest }

def remaining : Reading (List Char) := do return (← get).rest

def setRemaining (rest : List Char) : Reading Unit := modify ({ · with rest })

def currentFlags : Reading Flags := do return (← get).flags

/-- Takes the word if the text goes on with it. -/
def take? (word : String) : Reading Bool := do
  match word.toList.isPrefixOf? (← remaining) with
  | some rest => setRemaining rest; return true
  | none => return false

def closeGroup : Reading Unit := do
  skipSpace
  unless ← take? ")" do failure

/-- A literal character, in any case if the pattern ignores case. -/
def literal (c : Char) : Reading Pattern := do
  if (← currentFlags).ignoreCase then return .set (.ofList (Unicode.CaseOrbit.of c))
  else return .set (.single c)

def decimal? (text : List Char) : Option (Nat × List Char) :=
  let digits := text.takeWhile Char.isDigit
  let value := digits.foldl (fun value c => value * 10 + (c.toNat - '0'.toNat)) 0
  if digits.isEmpty || value ≥ Word.limit then none else some (value, text.dropWhile Char.isDigit)

def nameChars : CharSet := .join [Unicode.alphabetic, Unicode.number, .single '_']

/-- A nonempty name between two signs. -/
def name? (opening closing : String) (text : List Char) : Option (String × List Char) := do
  let text ← opening.toList.isPrefixOf? text
  let name := text.takeWhile nameChars.contains
  let rest ← closing.toList.isPrefixOf? (text.dropWhile nameChars.contains)
  if name.isEmpty then none else some (String.ofList name, rest)

/-- Bounds of a repetition after its opening brace; nothing if the brace is only a character. The
greatest number of a word bounds nothing. -/
def bounds? (ignoreSpace : Bool) (text : List Char) :
    Option (Nat × Option Nat × List Char) := do
  let text ← skip ignoreSpace .code text
  let (least, text) ←
    match text with
    | ',' :: _ => some (0, text)
    | _ => decimal? text
  let text ← skip ignoreSpace .code text
  let (most, text) ←
    match text with
    | '}' :: _ => some (some least, text)
    | ',' :: text => do
      let text ← skip ignoreSpace .code text
      match decimal? text with
      | some (most, text) => some (if most + 1 = Word.limit then none else some most, text)
      | none => some (none, text)
    | _ => none
  match ← skip ignoreSpace .code text with
  | '}' :: rest => some (least, most, rest)
  | _ => none

def repetition? (ignoreSpace : Bool) (text : List Char) : Option (Nat × Option Nat × List Char) :=
  match text with
  | '?' :: rest => some (0, some 1, rest)
  | '*' :: rest => some (0, none, rest)
  | '+' :: rest => some (1, none, rest)
  | '{' :: rest => bounds? ignoreSpace rest
  | _ => none

/-- A character by its code: exactly `width` hexadecimal digits, or up to eight in braces. -/
def hexChar? (width : Nat) (text : List Char) : Option (Char × List Char) := do
  let isHex := fun c => (Text.hexDigit? c).isSome
  let fixed := text.take width
  let (digits, rest) ←
    if fixed.length == width && fixed.all isHex then some (fixed, text.drop width)
    else
      match text with
      | '{' :: body =>
        let digits := body.takeWhile isHex
        match body.dropWhile isHex with
        | '}' :: rest =>
          if digits.isEmpty || digits.length > 8 then none else some (digits, rest)
        | _ => none
      | _ => none
  let code := Text.hexValue digits
  if code.isValidChar then some (Char.ofNat code, rest) else none

inductive Escape where
  | literal (c : Char)
  | set (accepts : CharSet)
  | property (accepts : CharSet) (negated : Bool)
  | anchor (anchor : Anchor)
  | backreference (group : Nat)
  | resetStart
  | searchStart

/-- The group known by a name, or the group whose number the name is. -/
def groupNamed? (names : List (String × Nat)) (name : String) : Option Nat :=
  match names.lookup name with
  | some group => some group
  | none =>
    match decimal? name.toList with
    | some (group, []) => some group
    | _ => none

/-- Recalls a group by its name, or by its number written as a name. Only a group that has been
opened can be recalled; the whole match has number 0 and is open from the start. -/
def recallNamed (opening closing : String) : Reading Nat := do
  let scan ← get
  let (name, rest) ← name? opening closing scan.rest
  let group ← groupNamed? scan.names name
  if group > scan.groups then failure
  set { scan with rest }
  return group

def recallNumbered : Reading Nat := do
  let scan ← get
  let (group, rest) ← decimal? scan.rest
  if group ≥ scan.size / 2 || group > scan.groups then failure
  set { scan with rest, numbered := true }
  return group

/-- The property of an escape whose letter has been read. -/
def readProperty (negated : Bool) : Reading Escape := do
  match ← remaining with
  | '{' :: body =>
    let name := body.takeWhile (· != '}')
    match body.dropWhile (· != '}') with
    | _ :: rest =>
      setRemaining rest
      let (accepts, excluded) ← Unicode.Name.query? (String.ofList name)
      return .property accepts (negated != excluded)
    | [] => failure
  | c :: rest =>
    setRemaining rest
    let accepts ← Unicode.Name.plain? (String.singleton c)
    return .property accepts negated
  | [] => failure

def readEscape (inClass : Bool) : Reading Escape := do
  match ← remaining with
  | [] => failure
  | c :: rest =>
    if c.isDigit then return .backreference (← recallNumbered)
    setRemaining rest
    match c with
    | 'k' =>
      if inClass then failure
      return .backreference (← recallNamed "<" ">")
    | 'A' => return .anchor .textStart
    | 'z' => return .anchor .textEnd
    | 'b' => return .anchor .wordBoundary
    | 'B' => return .anchor .insideWord
    | 'd' => return .set Unicode.decimal
    | 'D' => return .set Unicode.decimal.complement
    | 's' => return .set Unicode.whiteSpace
    | 'S' => return .set Unicode.whiteSpace.complement
    | 'w' => return .set Unicode.word
    | 'W' => return .set Unicode.word.complement
    | 'h' => return .set Posix.hexDigit
    | 'H' => return .set Posix.hexDigit.complement
    | 'a' => return .literal '\x07'
    | 'e' => return .literal '\x1B'
    | 'f' => return .literal '\x0C'
    | 'n' => return .literal '\n'
    | 'r' => return .literal '\r'
    | 't' => return .literal '\t'
    | 'v' => return .literal '\x0B'
    | 'x' => hex 2
    | 'u' => hex 4
    | 'U' => hex 8
    | 'p' => readProperty false
    | 'P' => readProperty true
    | 'K' => return .resetStart
    | 'G' => return .searchStart
    | c => if c.isAlpha || c.toNat ≥ 128 then failure else return .literal c
where
  hex (width : Nat) : Reading Escape := do
    let (c, rest) ← hexChar? width (← remaining)
    setRemaining rest
    return .literal c

/-- The tokens of a class up to the bracket that closes the outermost of `depth` open ones. -/
def readClassTokens : Nat → Nat → Reading (List ClassToken)
  | 0, _ => failure
  | fuel + 1, depth => do
    match ← remaining with
    | [] => failure
    | c :: rest =>
      setRemaining rest
      match c with
      | '\\' =>
        let token ←
          match ← readEscape true with
          | .literal c => pure (ClassToken.escaped c)
          | .set accepts => pure (.set accepts)
          | .property accepts negated => pure (.property accepts negated)
          | _ => failure
        return token :: (← readClassTokens fuel depth)
      | '[' => return .plain c :: (← readClassTokens fuel (depth + 1))
      | ']' =>
        if depth ≤ 1 then return [.plain c]
        else return .plain c :: (← readClassTokens fuel (depth - 1))
      | _ => return .plain c :: (← readClassTokens fuel depth)

/-- A class, after its opening bracket. A closing bracket that comes first is a character. -/
def readClass : Reading Pattern := do
  let negation ← if ← take? "^" then pure [ClassToken.plain '^'] else pure []
  let bracket ← if ← take? "]" then pure [ClassToken.escaped ']'] else pure []
  let tokens ← readClassTokens ((← remaining).length + 1) 1
  let accepts ← ClassToken.readClass? (← currentFlags).ignoreCase (negation ++ bracket ++ tokens)
  return .set accepts

def setFlag (on : Bool) (letter : Char) (flags : Flags) : Option Flags :=
  match letter with
  | 'i' => some { flags with ignoreCase := on }
  | 'm' => some { flags with multiLine := on }
  | 's' => some { flags with dotMatchesAll := on }
  | 'U' => some { flags with swapGreed := on }
  | 'x' => some { flags with ignoreSpace := on }
  | 'u' => if on then some flags else none
  | _ => none

/-- Reads flags up to a colon or a closing parenthesis, and tells whether it was the colon. What
follows at least one flag or blank is not checked for emptiness, so the number `first` of
characters from the start of the flags is compared. -/
def readFlags (first : Nat) : Nat → Bool → Reading Bool
  | 0, _ => failure
  | fuel + 1, on => do
    skipSpace
    let left := (← remaining).length
    let onlyHyphen := !on && left + 1 == first
    match ← remaining with
    | ')' :: rest =>
      if left == first || onlyHyphen then failure
      setRemaining rest
      return false
    | ':' :: rest =>
      if onlyHyphen then failure
      setRemaining rest
      return true
    | '-' :: rest =>
      if !on then failure
      setRemaining rest
      readFlags first fuel false
    | c :: rest =>
      let flags ← setFlag on c (← currentFlags)
      modify ({ · with rest, flags })
      readFlags first fuel on
    | [] => failure

/-- Nothing is gained by repeating what looks around or holds at the ends of lines. -/
def repeatable : Pattern → Bool
  | .look .. | .empty => false
  | .anchor .lineStart | .anchor .lineEnd | .anchor .onlyLineStart | .anchor .onlyLineEnd => false
  | _ => true

/-- Groups nest less deeply than this. -/
def maxDepth : Nat := 64

mutual

def readChoice : Nat → Nat → Reading Pattern
  | 0, _ => failure
  | fuel + 1, depth => do
    let first ← readBranch fuel depth
    skipSpace
    match ← remaining with
    | '|' :: _ => return .choice (first :: (← readBranches fuel depth))
    | _ =>
      let scan ← get
      if scan.numbered && !scan.names.isEmpty then failure
      return first

def readBranches : Nat → Nat → Reading (List Pattern)
  | 0, _ => failure
  | fuel + 1, depth => do
    if ← take? "|" then
      let branch ← readBranch fuel depth
      skipSpace
      return branch :: (← readBranches fuel depth)
    else return []

def readBranch : Nat → Nat → Reading Pattern
  | 0, _ => failure
  | fuel + 1, depth => do
    match ← readPieces fuel depth with
    | [] => return .empty
    | [piece] => return piece
    | pieces => return .sequence pieces

/-- Pieces up to one that takes no text. -/
def readPieces : Nat → Nat → Reading (List Pattern)
  | 0, _ => failure
  | fuel + 1, depth => do
    let before := (← remaining).length
    if before == 0 then return []
    let piece ← readPiece fuel depth
    if (← remaining).length == before then return []
    let pieces ← readPieces fuel depth
    return if piece.isEmpty then pieces else piece :: pieces

def readPiece : Nat → Nat → Reading Pattern
  | 0, _ => failure
  | fuel + 1, depth => do
    let atom ← readAtom fuel depth
    skipSpace
    match repetition? (← currentFlags).ignoreSpace (← remaining) with
    | none => return atom
    | some (least, most, rest) =>
      if !repeatable atom then failure
      setRemaining rest
      skipSpace
      let lazy ← take? "?"
      let greedy := lazy == (← currentFlags).swapGreed
      let repetition := Pattern.repeated atom least most greedy
      if ← take? "+" then return .atomic repetition else return repetition

def readAtom : Nat → Nat → Reading Pattern
  | 0, _ => failure
  | fuel + 1, depth => do
    skipSpace
    match ← remaining with
    | [] => return .empty
    | c :: rest =>
      match c with
      | '+' | '*' | '?' | '|' | ')' => return .empty
      | _ =>
        setRemaining rest
        match c with
        | '.' =>
          if (← currentFlags).dotMatchesAll then return .set .all
          else return .set (CharSet.all \ .single '\n')
        | '^' =>
          return .anchor (if (← currentFlags).multiLine then .lineStart else .onlyLineStart)
        | '$' => return .anchor (if (← currentFlags).multiLine then .lineEnd else .onlyLineEnd)
        | '(' => readGroup fuel (depth + 1)
        | '[' => readClass
        | '\\' =>
          match ← readEscape false with
          | .literal c => literal c
          | .set accepts => return .set accepts
          | .property accepts negated =>
            let folded := foldCaseIf (← currentFlags).ignoreCase accepts
            return .set (if negated then folded.complement else folded)
          | .anchor anchor => return .anchor anchor
          | .backreference group => return .backreference group
          | .resetStart => return .resetStart
          | .searchStart => return .searchStart
        | c => literal c

def readGroup : Nat → Nat → Reading Pattern
  | 0, _ => failure
  | fuel + 1, depth => do
    if depth ≥ maxDepth then failure
    skipSpace
    if ← take? "?=" then return .look false false (← readBody fuel depth)
    else if ← take? "?!" then return .look false true (← readBody fuel depth)
    else if ← take? "?<=" then return .look true false (← readBody fuel depth)
    else if ← take? "?<!" then return .look true true (← readBody fuel depth)
    else if ← take? "?<" then readNamedGroup fuel depth
    else if ← take? "?P<" then readNamedGroup fuel depth
    else if ← take? "?P=" then return .backreference (← recallNamed "" ")")
    else if ← take? "?>" then return .atomic (← readBody fuel depth)
    else if ← take? "?(" then readConditional fuel depth
    else if ← take? "?" then
      let outer ← currentFlags
      let first := (← remaining).length
      if ← readFlags first (first + 1) true then
        let body ← readChoice fuel depth
        unless ← take? ")" do failure
        modify ({ · with flags := outer })
        return body
      else return .empty
    else
      let number := (← get).groups + 1
      modify ({ · with groups := number })
      return .group number (← readBody fuel depth)

/-- A group that is known by a name, after the sign that opens the name. -/
def readNamedGroup : Nat → Nat → Reading Pattern
  | 0, _ => failure
  | fuel + 1, depth => do
    let scan ← get
    let (name, rest) ← name? "" ">" scan.rest
    let number := scan.groups + 1
    set { scan with rest, groups := number, names := (name, number) :: scan.names }
    return .group number (← readBody fuel depth)

/-- The rest of a group up to its closing parenthesis. -/
def readBody : Nat → Nat → Reading Pattern
  | 0, _ => failure
  | fuel + 1, depth => do
    let body ← readChoice fuel depth
    closeGroup
    return body

/-- A condition and the branches between which it decides. -/
def readConditional : Nat → Nat → Reading Pattern
  | 0, _ => failure
  | fuel + 1, depth => do
    let condition ←
      match ← remaining with
      | [] => failure
      | c :: _ =>
        if c.isDigit then pure (Pattern.groupMatched (← recallNumbered))
        else if c == '\'' then pure (.groupMatched (← recallNamed "'" "'"))
        else if c == '<' then pure (.groupMatched (← recallNamed "<" ">"))
        else
          match ← readChoice fuel depth with
          | .backreference group => pure (.groupMatched group)
          | pattern => pure pattern
    closeGroup
    let before := (← remaining).length
    let branches ← readChoice fuel depth
    let unchanged := (← remaining).length == before
    closeGroup
    if unchanged then
      match condition with
      | .groupMatched _ => return condition
      | _ => failure
    let (whenTrue, whenFalse) :=
      match branches with
      | .choice [whenTrue, whenFalse] => (whenTrue, whenFalse)
      | .choice (whenTrue :: others) => (whenTrue, .choice others)
      | branch => (branch, .empty)
    if whenTrue.isEmpty && whenFalse.isEmpty then return condition
    return .conditional condition whenTrue whenFalse

end

/-- The pattern a text stands for. Each nested call is due to a character or one of a few in a row
that take none, which bounds the fuel. -/
def readPattern? (text : String) : Option Pattern := do
  let start : Scan := { rest := text.toList, size := text.utf8ByteSize }
  let (pattern, scan) ← (readChoice (8 * (text.length + 2)) 0).run start
  if scan.rest.isEmpty then some pattern else none

end Reading

end Switchboard.Regex
