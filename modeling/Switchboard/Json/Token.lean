import Switchboard.Binary64
import Switchboard.Json
import Switchboard.Numeral

/-! The tokens of JSON texts. A number or literal extends over all characters that can stand in
one, so it is cut out first and judged as a whole. -/
namespace Switchboard.Json

inductive Token where
  | openArray
  | closeArray
  | openObject
  | closeObject
  | comma
  | colon
  /-- A string, a number or a literal. -/
  | scalar (value : Json)
deriving BEq, Repr, Inhabited

def isSpace (c : Char) : Bool := c == ' ' || c == '\t' || c == '\n' || c == '\r'

def codeUnit? (digits : List Char) : Option Nat := do
  let values ← digits.mapM Text.hexDigit?
  return values.foldl (fun unit value => unit * 16 + value) 0

def isHighSurrogate (unit : Nat) : Bool := 0xD800 ≤ unit && unit < 0xDC00

def isLowSurrogate (unit : Nat) : Bool := 0xDC00 ≤ unit && unit < 0xE000

/-- The character that a backslash and this letter stand for. -/
def shortEscape? : Char → Option Char
  | '"' => some '"'
  | '\\' => some '\\'
  | '/' => some '/'
  | 'b' => some '\x08'
  | 'f' => some '\x0c'
  | 'n' => some '\n'
  | 'r' => some '\r'
  | 't' => some '\t'
  | _ => none

/-- What stands between the quotes of a string, escapes resolved. A character beyond the first
65536 is escaped by both its code units. -/
def unescape? : List Char → Option (List Char)
  | [] => some []
  | '\\' :: 'u' :: a :: b :: c :: d :: rest => do
    let unit ← codeUnit? [a, b, c, d]
    if isHighSurrogate unit then
      match rest with
      | '\\' :: 'u' :: a :: b :: c :: d :: rest => do
        let low ← codeUnit? [a, b, c, d]
        if isLowSurrogate low then
          return Char.ofNat (0x10000 + (unit - 0xD800) * 0x400 + (low - 0xDC00)) ::
            (← unescape? rest)
        else none
      | _ => none
    else if isLowSurrogate unit then none
    else return Char.ofNat unit :: (← unescape? rest)
  | '\\' :: letter :: rest => do
    let c ← shortEscape? letter
    return c :: (← unescape? rest)
  | c :: rest => if c == '\\' then none else do return c :: (← unescape? rest)

/-- The text up to the quote that closes a string, and what follows that quote. -/
def cutQuote? : List Char → Option (List Char × List Char)
  | [] => none
  | '"' :: rest => some ([], rest)
  | '\\' :: c :: rest => (cutQuote? rest).map fun (inside, after) => ('\\' :: c :: inside, after)
  | c :: rest => (cutQuote? rest).map fun (inside, after) => (c :: inside, after)

theorem length_of_cutQuote? {text inside after : List Char}
    (cut : cutQuote? text = some (inside, after)) : after.length < text.length := by
  fun_induction cutQuote? text generalizing inside after with
  | case1 => simp at cut
  | case2 rest => cases cut; simp
  | case3 c rest ih =>
    obtain ⟨⟨front, back⟩, found, same⟩ := Option.map_eq_some_iff.mp cut
    cases same
    have := ih found
    simp
    omega
  | case4 c rest _ _ ih =>
    obtain ⟨⟨front, back⟩, found, same⟩ := Option.map_eq_some_iff.mp cut
    cases same
    have := ih found
    simp
    omega

/-- A fraction at the start of a number's end; a point needs digits after it. -/
def fraction? : List Char → Option (List Char × List Char)
  | '.' :: rest =>
    let digits := rest.takeWhile Char.isDigit
    if digits.isEmpty then none else some (digits, rest.dropWhile Char.isDigit)
  | text => some ([], text)

def exponent? : List Char → Option Int
  | [] => some 0
  | e :: rest =>
    if e == 'e' || e == 'E' then
      match rest with
      | '-' :: digits => (magnitude? digits).map fun value => -(value : Int)
      | '+' :: digits => (magnitude? digits).map Int.ofNat
      | digits => (magnitude? digits).map Int.ofNat
    else none
where
  magnitude? (digits : List Char) : Option Nat :=
    if digits.isEmpty || !digits.all Char.isDigit then none
    else some (Nat.ofDigitChars 10 digits 0)

/-- A number, whose whole part has no superfluous zero. It must not be too large for 64 bits. -/
def number? (word : List Char) : Option Json := do
  let (negative, unsigned) :=
    match word with
    | '-' :: rest => (true, rest)
    | _ => (false, word)
  let whole := unsigned.takeWhile Char.isDigit
  if whole.isEmpty || (whole.length > 1 && whole.head? == some '0') then none
  let ending := unsigned.dropWhile Char.isDigit
  let value := Nat.ofDigitChars 10 whole 0
  if ending.isEmpty && !negative && value < Word.limit then
    return .integer value
  if ending.isEmpty && negative && 0 < value && value ≤ Word.signedLimit then
    return .integer (-value)
  let (fraction, ending) ← fraction? ending
  let exponent ← exponent? ending
  let decimal : Decimal := ⟨negative, whole ++ fraction, exponent - fraction.length⟩
  let _ ← Binary64.ofDecimal? decimal
  return .decimal (String.ofList word)

def isWordChar (c : Char) : Bool := c.isAlphanum || c == '+' || c == '-' || c == '.'

def word? (word : List Char) : Option Json :=
  if word = "null".toList then some .null
  else if word = "true".toList then some (.bool true)
  else if word = "false".toList then some (.bool false)
  else number? word

/-- The text of a string, in which control characters have to be escaped. -/
def text? (inside : List Char) : Option (List Char) :=
  if inside.any (· < ' ') then none else unescape? inside

/-- The token at the start of a text that does not start with white space. -/
def Token.scan? : List Char → Option (Token × List Char)
  | [] => none
  | '[' :: rest => some (openArray, rest)
  | ']' :: rest => some (closeArray, rest)
  | '\x7b' :: rest => some (openObject, rest)
  | '\x7d' :: rest => some (closeObject, rest)
  | ',' :: rest => some (comma, rest)
  | ':' :: rest => some (colon, rest)
  | '"' :: rest => do
    let (inside, after) ← cutQuote? rest
    let value ← text? inside
    return (scalar (.string (String.ofList value)), after)
  | c :: rest => do
    let value ← word? (c :: rest.takeWhile isWordChar)
    return (scalar value, rest.dropWhile isWordChar)

theorem Token.length_of_scan? {text rest : List Char} {token : Token}
    (found : Token.scan? text = some (token, rest)) : rest.length < text.length := by
  unfold Token.scan? at found
  split at found
  case h_8 tail =>
    obtain ⟨⟨inside, after⟩, cut, found⟩ := Option.bind_eq_some_iff.mp found
    obtain ⟨value, _, found⟩ := Option.bind_eq_some_iff.mp found
    cases found
    have := length_of_cutQuote? cut
    simp
    omega
  case h_9 tail _ _ _ _ _ _ _ =>
    obtain ⟨value, _, found⟩ := Option.bind_eq_some_iff.mp found
    cases found
    have := (List.dropWhile_sublist isWordChar (l := tail)).length_le
    simp
    omega
  all_goals simp_all

def tokens? (text : List Char) : Option (List Token) :=
  match text with
  | [] => some []
  | c :: rest =>
    if isSpace c then tokens? rest
    else
      match found : Token.scan? (c :: rest) with
      | some (token, after) =>
        have := Token.length_of_scan? found
        (tokens? after).map (token :: ·)
      | none => none
termination_by text.length
decreasing_by
  · simp
  · assumption

end Switchboard.Json
