import Mathlib.Tactic.Common
import Switchboard.Json.Reader
import Switchboard.Proofs.Spelling

/-! Reading the texts of JSON values. Each text of a value falls into the tokens of that value, and
from these the reader puts the value together again, unless arrays and objects are nested deeper in
it than the reader goes. -/
namespace Switchboard.Json

variable {c : Char} {rest text : List Char} {value : Json}

/-! ## Tokens -/

theorem scan?_wordChar (begins : isWordChar c = true) :
    Token.scan? (c :: rest) = do
      let value ← word? (c :: rest.takeWhile isWordChar)
      return (.scalar value, rest.dropWhile isWordChar) := by
  have other (sign : Char) (noWord : isWordChar sign = false) : c ≠ sign := by
    rintro rfl
    exact ne_true_of_eq_false noWord begins
  rw [Token.scan?.eq_9] <;> exact other _ (by decide)

theorem scan?_word {word : List Char} {value : Json} (judged : word? word = some value)
    (chars : ∀ c ∈ word, isWordChar c = true) (outside : Text.Outside isWordChar rest) :
    Token.scan? (word ++ rest) = some (.scalar value, rest) := by
  cases word with
  | nil => cases judged
  | cons c word =>
    obtain ⟨first, others⟩ := List.forall_mem_cons.mp chars
    obtain ⟨taken, left⟩ := Text.cut_front others outside
    rw [List.cons_append, scan?_wordChar first, taken, left, judged]
    rfl

theorem tokens?_of_scan? {token : Token} {after : List Char} (noSpace : isSpace c = false)
    (found : Token.scan? (c :: rest) = some (token, after)) :
    tokens? (c :: rest) = (tokens? after).map (token :: ·) := by
  rw [tokens?, if_neg (ne_true_of_eq_false noSpace)]
  split
  case h_1 token' after' found' =>
    cases found.symm.trans found'
    rfl
  case h_2 nothing => cases found.symm.trans nothing

theorem not_space_of_wordChar (stands : isWordChar c = true) : isSpace c = false := by
  cases space : isSpace c with
  | false => rfl
  | true =>
    simp only [isSpace, Bool.or_eq_true, beq_iff_eq] at space
    rcases space with ((rfl | rfl) | rfl) | rfl <;> cases stands

theorem tokens?_word {word : List Char} {value : Json} (judged : word? word = some value)
    (chars : ∀ c ∈ word, isWordChar c = true) (outside : Text.Outside isWordChar rest) :
    tokens? (word ++ rest) = (tokens? rest).map (.scalar value :: ·) := by
  have found := scan?_word judged chars outside
  cases word with
  | nil => cases judged
  | cons c word => exact tokens?_of_scan? (not_space_of_wordChar (chars c List.mem_cons_self)) found

theorem tokens?_literal (literal : String) {value : Json}
    (judged : word? literal.toList = some value)
    (letters : literal.toList.all isWordChar = true) (outside : Text.Outside isWordChar rest) :
    tokens? (literal.toList ++ rest) = (tokens? rest).map (.scalar value :: ·) :=
  tokens?_word judged (List.all_eq_true.mp letters) outside

theorem word?_of_number {value : Json} {word : List Char} (number : number? word = some value) :
    word? word = some value := by
  have other (name : List Char) (noNumber : number? name = none) : word ≠ name := by
    rintro rfl
    cases noNumber.symm.trans number
  rw [word?, if_neg (other _ rfl), if_neg (other _ rfl), if_neg (other _ rfl), number]

theorem tokens?_mark {token : Token} (noSpace : isSpace c = false)
    (found : ∀ rest, Token.scan? (c :: rest) = some (token, rest)) (text : List Char) :
    tokens? (c :: text) = (tokens? text).map (token :: ·) :=
  tokens?_of_scan? noSpace (found text)

mutual

/-- The tokens of which a value is made. -/
def tokens : Json → List Token
  | array items => .openArray :: itemTokens items
  | object members => .openObject :: memberTokens members
  | null => [.scalar null]
  | bool value => [.scalar (bool value)]
  | integer value => [.scalar (integer value)]
  | decimal literal => [.scalar (decimal literal)]
  | string value => [.scalar (string value)]

def itemTokens : List Json → List Token
  | [] => [.closeArray]
  | [item] => tokens item ++ [.closeArray]
  | item :: next :: rest => tokens item ++ .comma :: itemTokens (next :: rest)

def memberTokens : List (String × Json) → List Token
  | [] => [.closeObject]
  | [(name, value)] => .scalar (.string name) :: .colon :: (tokens value ++ [.closeObject])
  | (name, value) :: next :: rest =>
    .scalar (.string name) :: .colon :: (tokens value ++ .comma :: memberTokens (next :: rest))

end

theorem tokens?_of_quotes {value : String} (quotes : Quotes value text) (rest : List Char) :
    tokens? (text ++ rest) = (tokens? rest).map (.scalar (.string value) :: ·) := by
  have found := scan?_of_quotes quotes rest
  obtain ⟨inside, -, rfl⟩ := quotes
  exact tokens?_of_scan? rfl found

theorem tokens?_of_spellsName {name : String} (named : SpellsName name text) (rest : List Char) :
    tokens? (text ++ rest) =
      (tokens? rest).map fun tokens => .scalar (.string name) :: .colon :: tokens := by
  obtain ⟨before, quoted, between, after, gapBefore, quotes, gapBetween, gapAfter, rfl⟩ := named
  simp only [List.append_assoc, List.cons_append]
  rw [tokens?_gap gapBefore, tokens?_of_quotes quotes, tokens?_gap gapBetween,
    tokens?_mark rfl fun _ => rfl, tokens?_gap gapAfter, Option.map_map]
  rfl

mutual

/-- A text of a value falls into the tokens of the value, if no number or literal goes on behind
it. -/
theorem tokens?_of_spells {value : Json} {text : List Char} (spells : Spells value text)
    (rest : List Char) (outside : Text.Outside isWordChar rest) :
    tokens? (text ++ rest) = (tokens? rest).map (tokens value ++ ·) :=
  match spells with
  | .null => tokens?_literal "null" rfl rfl outside
  | .yes => tokens?_literal "true" rfl rfl outside
  | .no => tokens?_literal "false" rfl rfl outside
  | .integer fits =>
    tokens?_word (word?_of_number (number?_toString fits))
      (fun _ member => wordChar_of_mem_toString member) outside
  | .decimal reads chars => tokens?_word (word?_of_number reads) chars outside
  | .string quotes => tokens?_of_quotes quotes rest
  | .array spelled => by
    rw [List.cons_append, tokens?_mark rfl fun _ => rfl, tokens?_of_spellsItems spelled,
      Option.map_map]
    rfl
  | .object spelled => by
    rw [List.cons_append, tokens?_mark rfl fun _ => rfl, tokens?_of_spellsMembers spelled,
      Option.map_map]
    rfl

theorem tokens?_of_spellsItems {items : List Json} {text : List Char}
    (spells : SpellsItems items text) (rest : List Char) :
    tokens? (text ++ rest) = (tokens? rest).map (itemTokens items ++ ·) :=
  match spells with
  | .none space => by
    rw [List.append_assoc, tokens?_gap space]
    exact tokens?_mark rfl (fun _ => rfl) rest
  | .last spaceBefore spelled space => by
    simp only [List.append_assoc, List.singleton_append]
    rw [tokens?_gap spaceBefore,
      tokens?_of_spells spelled _ (outside_gap space (Text.outside_cons rfl _)),
      tokens?_gap space, tokens?_mark rfl fun _ => rfl, Option.map_map]
    simp [itemTokens, Function.comp_def]
  | .more spaceBefore spelled space spelledOthers => by
    simp only [List.append_assoc, List.cons_append]
    rw [tokens?_gap spaceBefore,
      tokens?_of_spells spelled _ (outside_gap space (Text.outside_cons rfl _)),
      tokens?_gap space, tokens?_mark rfl fun _ => rfl, tokens?_of_spellsItems spelledOthers,
      Option.map_map, Option.map_map]
    simp [itemTokens, Function.comp_def]

theorem tokens?_of_spellsMembers {members : List (String × Json)} {text : List Char}
    (spells : SpellsMembers members text) (rest : List Char) :
    tokens? (text ++ rest) = (tokens? rest).map (memberTokens members ++ ·) :=
  match spells with
  | .none space => by
    rw [List.append_assoc, tokens?_gap space]
    exact tokens?_mark rfl (fun _ => rfl) rest
  | .last named spelled space => by
    simp only [List.append_assoc, List.singleton_append]
    rw [tokens?_of_spellsName named,
      tokens?_of_spells spelled _ (outside_gap space (Text.outside_cons rfl _)),
      tokens?_gap space, tokens?_mark rfl fun _ => rfl, Option.map_map, Option.map_map]
    simp [memberTokens, Function.comp_def]
  | .more named spelled space spelledOthers => by
    simp only [List.append_assoc, List.cons_append]
    rw [tokens?_of_spellsName named,
      tokens?_of_spells spelled _ (outside_gap space (Text.outside_cons rfl _)),
      tokens?_gap space, tokens?_mark rfl fun _ => rfl, tokens?_of_spellsMembers spelledOthers,
      Option.map_map, Option.map_map, Option.map_map]
    simp [memberTokens, Function.comp_def]

end

/-! ## Reading -/

mutual

/-- How deep arrays and objects are nested in the value, itself included. -/
def depth : Json → Nat
  | array items => itemsDepth items + 1
  | object members => membersDepth members + 1
  | null | bool _ | integer _ | decimal _ | string _ => 0

def itemsDepth : List Json → Nat
  | [] => 0
  | item :: rest => max (depth item) (itemsDepth rest)

def membersDepth : List (String × Json) → Nat
  | [] => 0
  | (_, value) :: rest => max (depth value) (membersDepth rest)

end

namespace Progress

theorem run_cons (progress : Progress) (token : Token) (rest : List Token) :
    progress.run (token :: rest) = (progress.step token).bind fun next => next.run rest := rfl

theorem run_name (closable : Bool) (members : List (String × Json)) (name : String)
    (stack : List Open) (rest : List Token) :
    (beforeName closable members stack).run (.scalar (.string name) :: .colon :: rest) =
      (beforeValue false (.object members name :: stack)).run rest := rfl

mutual

/-- The tokens of a value are read as that value, if there is room for it. -/
theorem run_tokens : ∀ (value : Json) (closable : Bool) (stack : List Open) (rest : List Token),
    stack.length ≤ maxDepth →
    (beforeValue closable stack).run (value.tokens ++ rest) =
      if stack.length + value.depth ≤ maxDepth then (complete value stack).run rest else none
  | null, _, _, _, room | bool _, _, _, _, room | integer _, _, _, _, room
  | decimal _, _, _, _, room | string _, _, _, _, room => (if_pos room).symm
  | array items, closable, stack, rest, _ => by
    rw [tokens, List.cons_append, run_cons, step, enter, depth]
    by_cases room : stack.length < maxDepth
    · rw [if_pos room, Option.bind_some,
        run_itemTokens items [] true stack rest room fun _ => ⟨rfl, rfl⟩]
      rfl
    · rw [if_neg room, if_neg (by omega), Option.bind_none]
  | object members, closable, stack, rest, _ => by
    rw [tokens, List.cons_append, run_cons, step, enter, depth]
    by_cases room : stack.length < maxDepth
    · rw [if_pos room, Option.bind_some,
        run_memberTokens members [] true stack rest room fun _ => rfl]
      rfl
    · rw [if_neg room, if_neg (by omega), Option.bind_none]

/-- An array can end before its next item only where it has just begun. -/
theorem run_itemTokens : ∀ (items before : List Json) (closable : Bool) (stack : List Open)
    (rest : List Token), stack.length < maxDepth → (items = [] → closable = true ∧ before = []) →
    (beforeValue closable (.array before :: stack)).run (itemTokens items ++ rest) =
      if stack.length + itemsDepth items < maxDepth then
        (complete (.array (before.reverse ++ items)) stack).run rest
      else none
  | [], before, closable, stack, rest, room, closes => by
    obtain ⟨rfl, rfl⟩ := closes rfl
    exact (if_pos room).symm
  | [item], before, closable, stack, rest, room, _ => by
    rw [itemTokens, List.append_assoc, List.singleton_append,
      run_tokens item closable (.array before :: stack) _ room, run_cons, step, List.reverse_cons]
    refine if_congr ?_ rfl rfl
    simp only [itemsDepth, List.length_cons]
    omega
  | item :: next :: more, before, closable, stack, rest, room, _ => by
    rw [itemTokens, List.append_assoc, List.cons_append,
      run_tokens item closable (.array before :: stack) _ room, run_cons, step, Option.bind_some,
      run_itemTokens (next :: more) _ _ stack rest room nofun, List.reverse_cons,
      List.append_assoc, List.singleton_append, ← ite_and]
    refine if_congr ?_ rfl rfl
    simp only [itemsDepth, List.length_cons]
    omega

theorem run_memberTokens : ∀ (members before : List (String × Json)) (closable : Bool)
    (stack : List Open) (rest : List Token), stack.length < maxDepth →
    (members = [] → closable = true) →
    (beforeName closable before stack).run (memberTokens members ++ rest) =
      if stack.length + membersDepth members < maxDepth then
        (complete (.object (before.reverse ++ members)) stack).run rest
      else none
  | [], before, closable, stack, rest, room, closes => by
    cases closes rfl
    rw [membersDepth, if_pos (by omega), List.append_nil]
    rfl
  | [(name, value)], before, closable, stack, rest, room, _ => by
    rw [memberTokens, List.cons_append, List.cons_append, run_name, List.append_assoc,
      List.singleton_append, run_tokens value _ (.object before name :: stack) _ room, run_cons,
      step, List.reverse_cons]
    refine if_congr ?_ rfl rfl
    simp only [membersDepth, List.length_cons]
    omega
  | (name, value) :: next :: more, before, closable, stack, rest, room, _ => by
    rw [memberTokens, List.cons_append, List.cons_append, run_name, List.append_assoc,
      List.cons_append, run_tokens value _ (.object before name :: stack) _ room, run_cons, step,
      Option.bind_some, run_memberTokens (next :: more) _ _ stack rest room nofun,
      List.reverse_cons, List.append_assoc, List.singleton_append, ← ite_and]
    refine if_congr ?_ rfl rfl
    simp only [membersDepth, List.length_cons]
    omega

end

end Progress

/-- A text of a value is read as that value, unless it goes too deep. -/
theorem read?_of_spelled {text : String} (spelled : Spelled value text) :
    read? text = if value.depth ≤ maxDepth then some value else none := by
  obtain ⟨before, inside, after, gapBefore, spells, gapAfter, written⟩ := spelled
  have tokenized : tokens? text.toList = some value.tokens := by
    have ending : tokens? after = some [] := by
      have := tokens?_gap gapAfter []
      rwa [List.append_nil, tokens?] at this
    have outside : Text.Outside isWordChar after := by
      have := outside_gap gapAfter Text.outside_nil
      rwa [List.append_nil] at this
    rw [written, List.append_assoc, tokens?_gap gapBefore, tokens?_of_spells spells after outside,
      ending, Option.map_some, List.append_nil]
  have run := Progress.run_tokens value false [] [] (Nat.zero_le _)
  rw [List.append_nil, List.length_nil, Nat.zero_add] at run
  rw [read?, tokenized, Option.bind_eq_bind, Option.bind_some, run]
  split <;> rfl

theorem itemsDepth_le {items : List Json} {bound : Nat}
    (shallow : ∀ item ∈ items, item.depth ≤ bound) : itemsDepth items ≤ bound := by
  induction items with
  | nil => exact Nat.zero_le bound
  | cons item rest ih =>
    obtain ⟨own, others⟩ := List.forall_mem_cons.mp shallow
    exact Nat.max_le.mpr ⟨own, ih others⟩

theorem membersDepth_le {members : List (String × Json)} {bound : Nat}
    (shallow : ∀ member ∈ members, member.2.depth ≤ bound) : membersDepth members ≤ bound := by
  induction members with
  | nil => exact Nat.zero_le bound
  | cons member rest ih =>
    obtain ⟨own, others⟩ := List.forall_mem_cons.mp shallow
    exact Nat.max_le.mpr ⟨own, ih others⟩

theorem depth_ofOption {write : α → Json} (flat : ∀ value, (write value).depth = 0)
    (content : Option α) : (ofOption write content).depth = 0 := by
  cases content with
  | none => rfl
  | some value => exact flat value

end Switchboard.Json
