import Mathlib.Data.List.Basic
import Mathlib.Tactic.Common
import Switchboard.Json.Token
import Switchboard.Proofs.Cutting

/-! The texts of JSON values. A value has many: white space may stand between any two tokens, and a
character of a string may be written as it is or by an escape. Of numbers, the whole ones that fit
64 bits are written by their digits and any other is kept as it is written. -/
namespace Switchboard.Json

variable {c : Char} {rest text : List Char} {value : Json}

/-! ## The grammar -/

/-- White space, or none. -/
def Gap (text : List Char) : Prop := ∀ c ∈ text, c ∈ [' ', '\t', '\n', '\r']

/-- Four hexadecimal digits that write this number. -/
def FourDigits (unit : Nat) : List Char → Prop
  | [a, b, c, d] => ∃ p q r s, Text.hexDigit? a = some p ∧ Text.hexDigit? b = some q ∧
    Text.hexDigit? c = some r ∧ Text.hexDigit? d = some s ∧
    unit = ((p * 16 + q) * 16 + r) * 16 + s
  | _ => False

/-- The letters after a backslash and the characters for which they stand. -/
def shortEscapes : List (Char × Char) := [
  ('"', '"'), ('\\', '\\'), ('/', '/'), ('b', '\x08'), ('f', '\x0c'), ('n', '\n'), ('r', '\r'),
  ('t', '\t')]

/-- What can stand for a character between quotes. -/
inductive SpellsChar : Char → List Char → Prop
  | plain {c : Char} (notQuote : c ≠ '"') (notBackslash : c ≠ '\\') (visible : ' ' ≤ c) :
    SpellsChar c [c]
  | short {letter c : Char} (stands : (letter, c) ∈ shortEscapes) : SpellsChar c ['\\', letter]
  | unit {c : Char} {digits : List Char} (written : FourDigits c.toNat digits) :
    SpellsChar c ('\\' :: 'u' :: digits)
  /-- A character beyond the first 65536 is written by its two code units. -/
  | pair {c : Char} (high low : Nat) {digits more : List Char}
    (writtenHigh : FourDigits high digits) (writtenLow : FourDigits low more)
    (isHigh : 0xD800 ≤ high ∧ high < 0xDC00) (isLow : 0xDC00 ≤ low ∧ low < 0xE000)
    (together : c.toNat = 0x10000 + (high - 0xD800) * 0x400 + (low - 0xDC00)) :
    SpellsChar c ('\\' :: 'u' :: digits ++ '\\' :: 'u' :: more)

inductive SpellsChars : List Char → List Char → Prop
  | nil : SpellsChars [] []
  | cons {c : Char} {value piece inside : List Char} (first : SpellsChar c piece)
    (others : SpellsChars value inside) : SpellsChars (c :: value) (piece ++ inside)

/-- The text is that of a string, with its quotes. -/
def Quotes (value : String) (text : List Char) : Prop :=
  ∃ inside, SpellsChars value.toList inside ∧ text = '"' :: inside ++ ['"']

/-- The name of a member and its colon, with white space around them. -/
def SpellsName (name : String) (text : List Char) : Prop :=
  ∃ before quoted between after, Gap before ∧ Quotes name quoted ∧ Gap between ∧ Gap after ∧
    text = before ++ quoted ++ between ++ ':' :: after

/-- The number fits 64 bits, with a sign if it needs one. -/
def FitsWord (value : Int) : Prop := -(Word.signedLimit : Int) ≤ value ∧ value < Word.limit

mutual

/-- The text is that of the value, from its first character to its last. -/
inductive Spells : Json → List Char → Prop
  | null : Spells null "null".toList
  | yes : Spells (bool true) "true".toList
  | no : Spells (bool false) "false".toList
  | integer {value : Int} (fits : FitsWord value) : Spells (integer value) (toString value).toList
  | decimal {word : List Char} (reads : number? word = some (decimal (String.ofList word)))
    (chars : ∀ c ∈ word, isWordChar c = true) : Spells (decimal (String.ofList word)) word
  | string {value : String} {text : List Char} (quotes : Quotes value text) :
    Spells (string value) text
  | array {items : List Json} {inside : List Char} (spelled : SpellsItems items inside) :
    Spells (array items) ('[' :: inside)
  | object {members : List (String × Json)} {inside : List Char}
    (spelled : SpellsMembers members inside) : Spells (object members) ('\x7b' :: inside)

inductive SpellsItems : List Json → List Char → Prop
  | none {gap : List Char} (space : Gap gap) : SpellsItems [] (gap ++ [']'])
  | last {item : Json} {before text after : List Char} (spaceBefore : Gap before)
    (spelled : Spells item text) (space : Gap after) :
    SpellsItems [item] (before ++ text ++ after ++ [']'])
  | more {item next : Json} {others : List Json} {before text after inside : List Char}
    (spaceBefore : Gap before) (spelled : Spells item text) (space : Gap after)
    (spelledOthers : SpellsItems (next :: others) inside) :
    SpellsItems (item :: next :: others) (before ++ text ++ after ++ ',' :: inside)

inductive SpellsMembers : List (String × Json) → List Char → Prop
  | none {gap : List Char} (space : Gap gap) : SpellsMembers [] (gap ++ ['\x7d'])
  | last {name : String} {value : Json} {head text after : List Char} (named : SpellsName name head)
    (spelled : Spells value text) (space : Gap after) :
    SpellsMembers [(name, value)] (head ++ text ++ after ++ ['\x7d'])
  | more {name : String} {value : Json} {next : String × Json} {others : List (String × Json)}
    {head text after inside : List Char} (named : SpellsName name head)
    (spelled : Spells value text) (space : Gap after)
    (spelledOthers : SpellsMembers (next :: others) inside) :
    SpellsMembers ((name, value) :: next :: others) (head ++ text ++ after ++ ',' :: inside)

end

/-- The text is that of the value, white space around it apart. -/
def Spelled (value : Json) (text : String) : Prop :=
  ∃ before inside after, Gap before ∧ Spells value inside ∧ Gap after ∧
    text.toList = before ++ inside ++ after

/-! ## White space -/

theorem gap_nil : Gap [] := List.forall_mem_nil _

theorem space_of_gap {gap : List Char} (space : Gap gap) (member : c ∈ gap) :
    isSpace c = true ∧ isWordChar c = false := by
  have listed := space c member
  simp only [List.mem_cons, List.not_mem_nil, or_false] at listed
  rcases listed with rfl | rfl | rfl | rfl <;> exact ⟨rfl, rfl⟩

theorem tokens?_gap {gap : List Char} (space : Gap gap) (rest : List Char) :
    tokens? (gap ++ rest) = tokens? rest := by
  induction gap with
  | nil => rfl
  | cons c gap ih =>
    have blank := (space_of_gap space List.mem_cons_self).1
    rw [List.cons_append, tokens?, if_pos blank]
    exact ih fun c member => space c (List.mem_cons_of_mem _ member)

theorem outside_gap {gap : List Char} (space : Gap gap) (outside : Text.Outside isWordChar rest) :
    Text.Outside isWordChar (gap ++ rest) := by
  cases gap with
  | nil => exact outside
  | cons c gap => exact Text.outside_cons (space_of_gap space List.mem_cons_self).2 _

/-! ## Strings -/

/-- The character stands for itself between quotes. -/
def Plain (c : Char) : Prop := c ≠ '"' ∧ c ≠ '\\' ∧ ' ' ≤ c

theorem of_control {motive : Char → Prop} (all : ∀ code < 32, motive (Char.ofNat code))
    (control : c < ' ') : motive c := by
  have small : c.toNat < 32 := control
  rw [← Char.ofNat_toNat c]
  exact all c.toNat small

theorem plain_of_hexDigit {digit : Nat} (reads : Text.hexDigit? c = some digit) : Plain c := by
  have other (sign : Char) (none : Text.hexDigit? sign = none) : c ≠ sign := by
    rintro rfl
    cases none.symm.trans reads
  refine ⟨other _ rfl, other _ rfl, ?_⟩
  by_contra control
  have noDigit : Text.hexDigit? c = none :=
    of_control (motive := fun c => Text.hexDigit? c = none) (by decide) (Char.not_le.mp control)
  cases noDigit.symm.trans reads

theorem FourDigits.plain {unit : Nat} {digits : List Char} (written : FourDigits unit digits) :
    ∀ c ∈ digits, Plain c := by
  match digits, written with
  | [_, _, _, _], ⟨_, _, _, _, first, second, third, fourth, _⟩ =>
    simp only [List.forall_mem_cons]
    exact ⟨plain_of_hexDigit first, plain_of_hexDigit second, plain_of_hexDigit third,
      plain_of_hexDigit fourth, nofun⟩

theorem FourDigits.exists_codeUnit? {unit : Nat} {digits : List Char}
    (written : FourDigits unit digits) :
    ∃ a b c d, digits = [a, b, c, d] ∧ codeUnit? [a, b, c, d] = some unit := by
  match digits, written with
  | [a, b, c, d], ⟨_, _, _, _, first, second, third, fourth, same⟩ =>
    refine ⟨a, b, c, d, rfl, ?_⟩
    simp [codeUnit?, first, second, third, fourth, same]

theorem cutQuote?_plain {word : List Char} (plain : ∀ c ∈ word, Plain c) (rest : List Char) :
    cutQuote? (word ++ rest) =
      (cutQuote? rest).map fun (inside, after) => (word ++ inside, after) := by
  induction word with
  | nil => simp
  | cons c word ih =>
    obtain ⟨⟨notQuote, notBackslash, -⟩, others⟩ := List.forall_mem_cons.mp plain
    rw [List.cons_append, cutQuote?.eq_4, ih others, Option.map_map]
    · rfl
    · exact notQuote
    · exact fun _ _ same _ => notBackslash same

theorem cutQuote?_escaped (letter : Char) {word : List Char} (plain : ∀ c ∈ word, Plain c)
    (rest : List Char) :
    cutQuote? ('\\' :: letter :: word ++ rest) =
      (cutQuote? rest).map fun (inside, after) => ('\\' :: letter :: word ++ inside, after) := by
  rw [List.cons_append, List.cons_append, cutQuote?, cutQuote?_plain plain, Option.map_map]
  rfl

theorem shortEscape?_of_mem {letter : Char} (stands : (letter, c) ∈ shortEscapes) :
    shortEscape? letter = some c ∧ letter ≠ 'u' ∧ ' ' ≤ letter := by
  simp only [shortEscapes, List.mem_cons, Prod.mk.injEq, List.not_mem_nil, or_false] at stands
  rcases stands with ⟨rfl, rfl⟩ | ⟨rfl, rfl⟩ | ⟨rfl, rfl⟩ | ⟨rfl, rfl⟩ | ⟨rfl, rfl⟩ | ⟨rfl, rfl⟩ |
    ⟨rfl, rfl⟩ | ⟨rfl, rfl⟩ <;> exact ⟨rfl, by decide, by decide⟩

variable {piece inside : List Char}

theorem cutQuote?_of_spells (spells : SpellsChar c piece) (rest : List Char) :
    cutQuote? (piece ++ rest) =
      (cutQuote? rest).map fun (inside, after) => (piece ++ inside, after) := by
  cases spells with
  | plain notQuote notBackslash visible =>
    exact cutQuote?_plain (List.forall_mem_singleton.mpr ⟨notQuote, notBackslash, visible⟩) rest
  | short => exact cutQuote?_escaped _ (List.forall_mem_nil _) rest
  | unit written => exact cutQuote?_escaped 'u' written.plain rest
  | pair high low writtenHigh writtenLow =>
    rw [List.append_assoc, cutQuote?_escaped 'u' writtenHigh.plain,
      cutQuote?_escaped 'u' writtenLow.plain, Option.map_map]
    simp [Function.comp_def]

theorem unescape?_of_spells (spells : SpellsChar c piece) (rest : List Char) :
    unescape? (piece ++ rest) = (unescape? rest).map (c :: ·) := by
  cases spells with
  | plain notQuote notBackslash visible =>
    rw [List.singleton_append, unescape?.eq_4]
    · rw [if_neg (by simpa using notBackslash), Option.map_eq_bind]
      rfl
    · exact fun _ _ _ _ _ same _ => notBackslash same
    · exact fun _ _ same _ => notBackslash same
  | short stands =>
    obtain ⟨reads, notUnit, -⟩ := shortEscape?_of_mem stands
    rw [List.cons_append, List.singleton_append, unescape?.eq_3]
    · rw [reads, Option.map_eq_bind]
      rfl
    · exact fun _ _ _ _ _ same _ => notUnit same
  | unit written =>
    obtain ⟨a, b, c', d, rfl, reads⟩ := written.exists_codeUnit?
    have notSurrogate : isHighSurrogate c.toNat = false ∧ isLowSurrogate c.toNat = false := by
      have valid : c.toNat < 0xD800 ∨ 0xDFFF < c.toNat ∧ c.toNat < 0x110000 := c.valid
      simp only [isHighSurrogate, isLowSurrogate, Bool.and_eq_false_iff, decide_eq_false_iff_not]
      omega
    simp only [List.cons_append, List.nil_append]
    rw [unescape?, reads]
    simp only [Option.bind_eq_bind, Option.bind_some, notSurrogate, Char.ofNat_toNat,
      Option.map_eq_bind]
    rfl
  | pair high low writtenHigh writtenLow isHigh isLow together =>
    obtain ⟨a, b, c', d, rfl, readsHigh⟩ := writtenHigh.exists_codeUnit?
    obtain ⟨e, f, g, h, rfl, readsLow⟩ := writtenLow.exists_codeUnit?
    have surrogateHigh : isHighSurrogate high = true := by simpa [isHighSurrogate] using isHigh
    have surrogateLow : isLowSurrogate low = true := by simpa [isLowSurrogate] using isLow
    simp only [List.cons_append, List.nil_append]
    rw [unescape?, readsHigh]
    simp only [Option.bind_eq_bind, Option.bind_some, surrogateHigh, readsLow, surrogateLow,
      ← together, if_true, Char.ofNat_toNat, Option.map_eq_bind]
    rfl

/-- What stands for a character has no control characters. -/
theorem visible_of_spells (spells : SpellsChar c piece) : ∀ written ∈ piece, ' ' ≤ written := by
  have visible {word : List Char} (plain : ∀ c ∈ word, Plain c) : ∀ c ∈ word, ' ' ≤ c :=
    fun c member => (plain c member).2.2
  cases spells with
  | plain notQuote notBackslash visible => exact List.forall_mem_singleton.mpr visible
  | short stands =>
    simp only [List.forall_mem_cons]
    exact ⟨by decide, (shortEscape?_of_mem stands).2.2, List.forall_mem_nil _⟩
  | unit written =>
    simp only [List.forall_mem_cons]
    exact ⟨by decide, by decide, visible written.plain⟩
  | pair high low writtenHigh writtenLow =>
    simp only [List.forall_mem_append, List.forall_mem_cons]
    exact ⟨⟨by decide, by decide, visible writtenHigh.plain⟩, by decide, by decide,
      visible writtenLow.plain⟩

theorem visible_of_spellsChars {value : List Char} (spells : SpellsChars value inside) :
    ∀ written ∈ inside, ' ' ≤ written := by
  induction spells with
  | nil => exact List.forall_mem_nil _
  | cons first _ ih => exact List.forall_mem_append.mpr ⟨visible_of_spells first, ih⟩

theorem unescape?_of_spellsChars {value : List Char} (spells : SpellsChars value inside) :
    unescape? inside = some value := by
  induction spells with
  | nil => rfl
  | cons first _ ih => rw [unescape?_of_spells first, ih, Option.map_some]

theorem text?_of_spells {value : List Char} (spells : SpellsChars value inside) :
    text? inside = some value := by
  have visible : inside.any (· < ' ') = false :=
    List.any_eq_false.mpr fun written member => by
      simpa using visible_of_spellsChars spells written member
  rw [text?, visible]
  exact unescape?_of_spellsChars spells

theorem cutQuote?_of_spellsChars {value : List Char} (spells : SpellsChars value inside)
    (rest : List Char) : cutQuote? (inside ++ '"' :: rest) = some (inside, rest) := by
  induction spells with
  | nil => rfl
  | cons first _ ih =>
    rw [List.append_assoc, cutQuote?_of_spells first, ih]
    rfl

theorem scan?_of_quotes {value : String} (quotes : Quotes value text) (rest : List Char) :
    Token.scan? (text ++ rest) = some (.scalar (.string value), rest) := by
  obtain ⟨inside, spells, rfl⟩ := quotes
  simp only [List.cons_append, List.append_assoc, List.nil_append, Token.scan?,
    cutQuote?_of_spellsChars spells, text?_of_spells spells, Option.bind_eq_bind, Option.bind_some,
    String.ofList_toList]
  rfl

/-! ## Numbers -/

theorem digitChar_ne_zero : ∀ value < 10, 0 < value → value.digitChar ≠ '0' := by decide

theorem head?_toDigits_ne_zero {value : Nat} (positive : 0 < value) :
    (Nat.toDigits 10 value).head? ≠ some '0' := by
  induction value using Nat.strongRecOn with
  | ind value ih =>
    by_cases small : value < 10
    · rw [Nat.toDigits_of_lt_base small]
      simpa using digitChar_ne_zero value small positive
    · rw [Nat.toDigits_of_base_le (by decide) (by omega),
        List.head?_append_of_ne_nil _ Nat.toDigits_ne_nil]
      exact ih (value / 10) (by omega) (by omega)

/-- A whole number has no superfluous zero. -/
theorem toDigits_not_padded (value : Nat) :
    ((Nat.toDigits 10 value).isEmpty ||
      (decide ((Nat.toDigits 10 value).length > 1) &&
        (Nat.toDigits 10 value).head? == some '0')) = false := by
  rcases Nat.eq_zero_or_pos value with rfl | positive
  · decide
  · simp [Nat.toDigits_ne_nil, head?_toDigits_ne_zero positive]

theorem digits_toDigits (value : Nat) :
    (Nat.toDigits 10 value).takeWhile Char.isDigit = Nat.toDigits 10 value ∧
    (Nat.toDigits 10 value).dropWhile Char.isDigit = [] := by
  have digits : ∀ c ∈ Nat.toDigits 10 value, c.isDigit = true :=
    fun _ member => Nat.isDigit_of_mem_toDigits (by decide) (by decide) member
  exact ⟨List.takeWhile_eq_self_iff.mpr digits, List.dropWhile_eq_nil_iff.mpr digits⟩

theorem number?_ofNat {value : Nat} (small : value < Word.limit) :
    number? (Nat.toDigits 10 value) = some (.integer value) := by
  obtain ⟨whole, ending⟩ := digits_toDigits value
  have unsigned : ∀ rest, Nat.toDigits 10 value ≠ '-' :: rest := by
    intro rest same
    have sign : '-' ∈ Nat.toDigits 10 value := same ▸ List.mem_cons_self
    cases Nat.isDigit_of_mem_toDigits (by decide) (by decide) sign
  unfold number?
  split
  case h_1 negative written sign =>
    split at sign
    case h_1 rest same => exact absurd same (unsigned rest)
    case h_2 =>
      cases sign
      simp only [whole, ending, toDigits_not_padded, Nat.ofDigitChars_ten_toDigits]
      simp [small]

theorem number?_negative {value : Nat} (positive : 0 < value) (small : value ≤ Word.signedLimit) :
    number? ('-' :: Nat.toDigits 10 value) = some (.integer (-value)) := by
  obtain ⟨whole, ending⟩ := digits_toDigits value
  simp only [number?, whole, ending, toDigits_not_padded, Nat.ofDigitChars_ten_toDigits]
  simp [positive, small]

/-- A number is written by its digits, after a sign if it is negative. -/
theorem toList_toString (value : Int) :
    (∃ size : Nat, value = size ∧ (toString value).toList = Nat.toDigits 10 size) ∨
    ∃ size : Nat, 0 < size ∧ value = -size ∧
      (toString value).toList = '-' :: Nat.toDigits 10 size := by
  cases value with
  | ofNat size =>
    refine .inl ⟨size, rfl, ?_⟩
    change size.repr.toList = _
    rw [Nat.repr_eq_ofList_toDigits, String.toList_ofList]
  | negSucc less =>
    refine .inr ⟨less.succ, by omega, rfl, ?_⟩
    change ("-" ++ less.succ.repr).toList = _
    simp only [String.toList_append, Nat.repr_eq_ofList_toDigits, String.toList_ofList]
    rfl

theorem number?_toString {value : Int} (fits : FitsWord value) :
    number? (toString value).toList = some (.integer value) := by
  obtain ⟨least, most⟩ := fits
  obtain ⟨size, rfl, written⟩ | ⟨size, positive, rfl, written⟩ := toList_toString value
  · rw [written]
    exact number?_ofNat (by omega)
  · rw [written]
    exact number?_negative positive (by omega)

theorem wordChar_of_mem_toString {value : Int} (member : c ∈ (toString value).toList) :
    isWordChar c = true := by
  have digits (size : Nat) (member : c ∈ Nat.toDigits 10 size) : isWordChar c = true := by
    simp [isWordChar, Char.isAlphanum,
      Nat.isDigit_of_mem_toDigits (by decide) (by decide) member]
  obtain ⟨size, -, written⟩ | ⟨size, -, -, written⟩ := toList_toString value
  · rw [written] at member
    exact digits size member
  · rw [written] at member
    rcases List.mem_cons.mp member with rfl | member
    · rfl
    · exact digits size member

/-! ## Objects -/

theorem ends_of_spellsMembers {members : List (String × Json)} {inside : List Char}
    (spells : SpellsMembers members inside) : ∃ front, inside = front ++ ['\x7d'] :=
  match spells with
  | .none _ => ⟨_, rfl⟩
  | .last .. => ⟨_, rfl⟩
  | .more named spelled space spelledOthers => by
    obtain ⟨front, rfl⟩ := ends_of_spellsMembers spelledOthers
    exact ⟨_, by rw [← List.cons_append, ← List.append_assoc]⟩

theorem blank_of_gap {gap : List Char} (space : Gap gap) : ∀ c ∈ gap, Text.isBlank c = true := by
  intro c member
  have listed := space c member
  simp only [List.mem_cons, List.not_mem_nil, or_false] at listed
  rcases listed with rfl | rfl | rfl | rfl <;> rfl

/-- Trimming takes away nothing but the white space around an object. -/
theorem trim_of_spelled {members : List (String × Json)} {line : String}
    (spelled : Spelled (object members) line) :
    ∃ inside, SpellsMembers members inside ∧ (Text.trim line).toList = '\x7b' :: inside := by
  obtain ⟨before, text, after, gapBefore, spells, gapAfter, written⟩ := spelled
  cases spells with
  | object spelled =>
    refine ⟨_, spelled, ?_⟩
    obtain ⟨front, rfl⟩ := ends_of_spellsMembers spelled
    have begins : Text.Outside Text.isBlank ('\x7b' :: (front ++ ['\x7d']) ++ after) :=
      Text.outside_cons rfl _
    have ends : Text.Outside Text.isBlank ('\x7b' :: (front ++ ['\x7d'])).reverse := by
      rw [← List.cons_append, List.reverse_append]
      exact Text.outside_cons rfl _
    rw [Text.trim, String.toList_ofList, written, List.append_assoc,
      (Text.cut_front (blank_of_gap gapBefore) begins).2,
      Text.dropBlanksEnd_append (blank_of_gap gapAfter) ends]

end Switchboard.Json
