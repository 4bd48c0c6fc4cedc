import Mathlib.Data.List.Induction
import Mathlib.Tactic.Common
import Switchboard.Filter.Shortcode
import Switchboard.Proofs.Merging
import Switchboard.Proofs.Scanning

/-! Shortcodes in a text are found in one scan from left to right. Where a known name stands between
a colon and the next one it is taken with both colons, and any other character stands for itself, so
a colon that closes an unknown name may open another. What is shown for a text gives the text back,
and no shortcode is left in it. All this holds whatever the names mean. -/
namespace Switchboard.Shortcode

/-- A name and what it stands for. -/
structure Code where
  name : List Char
  glyph : String
deriving DecidableEq, Repr

def Code.written (code : Code) : List Char := ':' :: (code.name ++ [':'])

abbrev Part := Text.Part Code

namespace Part

abbrev written : Part → List Char := Text.Part.written Code.written

def shown : Part → Segment
  | .letter c => .text (String.singleton c)
  | .token code => .emoji code.glyph

end Part

section

variable (known : List Char → String → Prop)

/-- The text starts with a known name between one colon and the next. -/
def Opens (text : List Char) : Prop :=
  ∃ name glyph rest, ':' ∉ name ∧ known name glyph ∧ text = ':' :: (name ++ ':' :: rest)

/-- There is a known name between some colon in the text and the next. -/
def HasCode (text : List Char) : Prop := ∃ suffix, suffix <:+ text ∧ Opens known suffix

def Code.Known (code : Code) : Prop := ':' ∉ code.name ∧ known code.name code.glyph

abbrev Scans : List Char → List Part → Prop := Text.Scans Code.written (Code.Known known)

end

/-- The table has a glyph for exactly the known names. -/
def Decides (glyphOf : List Char → Option String) (known : List Char → String → Prop) : Prop :=
  ∀ name glyph, glyphOf name = some glyph ↔ known name glyph

variable {glyphOf : List Char → Option String} {known : List Char → String → Prop}
  {text name other rest after before : List Char} {glyph : String} {parts others : List Part}
  {c : Char}

/-! ## Colons -/

theorem cutColon?_append (within : ':' ∉ name) (rest : List Char) :
    cutColon? (name ++ ':' :: rest) = some (name, rest) := by
  induction name with
  | nil => rfl
  | cons c name ih =>
    rw [List.mem_cons, not_or] at within
    rw [List.cons_append, cutColon?, if_neg (Ne.symm within.1), ih within.2]
    rfl

theorem colonless_of_cutColon? (cut : cutColon? text = some (before, after)) : ':' ∉ before := by
  induction text generalizing before with
  | nil => cases cut
  | cons c rest ih =>
    unfold cutColon? at cut
    split at cut
    case isTrue =>
      cases cut
      exact List.not_mem_nil
    case isFalse differs =>
      obtain ⟨⟨front, back⟩, found, same⟩ := Option.map_eq_some_iff.mp cut
      cases same
      exact List.not_mem_cons_of_ne_of_not_mem (Ne.symm differs) (ih found)

theorem colonless_of_uncut (uncut : cutColon? text = none) : ':' ∉ text := by
  induction text with
  | nil => exact List.not_mem_nil
  | cons c rest ih =>
    unfold cutColon? at uncut
    split at uncut
    case isTrue => cases uncut
    case isFalse differs =>
      exact List.not_mem_cons_of_ne_of_not_mem (Ne.symm differs)
        (ih (Option.map_eq_none_iff.mp uncut))

/-- The name that a colon opens ends at the next colon. -/
theorem eq_of_cut (within : ':' ∉ name) (withinAlso : ':' ∉ other)
    (same : name ++ ':' :: rest = other ++ ':' :: after) : name = other ∧ rest = after := by
  have cut := cutColon?_append within rest
  rw [same, cutColon?_append withinAlso after] at cut
  cases cut
  exact ⟨rfl, rfl⟩

/-! ## The scan -/

theorem Opens.append (opens : Opens known text) (rest : List Char) :
    Opens known (text ++ rest) := by
  obtain ⟨name, glyph, behind, within, means, rfl⟩ := opens
  exact ⟨name, glyph, behind ++ rest, within, means, by simp⟩

theorem Opens.ne_nil (opens : Opens known text) : text ≠ [] := by
  obtain ⟨_, _, _, _, _, rfl⟩ := opens
  exact List.cons_ne_nil _ _

theorem Opens.head (opens : Opens known (c :: rest)) : c = ':' := by
  obtain ⟨_, _, _, _, _, same⟩ := opens
  exact (List.cons.inj same).1

/-- Whether a name is opened is decided by the name up to the next colon. -/
theorem opens_iff (within : ':' ∉ name) :
    Opens known (':' :: (name ++ ':' :: rest)) ↔ ∃ glyph, known name glyph := by
  constructor
  · rintro ⟨other, glyph, after, withinAlso, means, same⟩
    obtain ⟨rfl, -⟩ := eq_of_cut within withinAlso (List.cons.inj same).2
    exact ⟨glyph, means⟩
  · rintro ⟨glyph, means⟩
    exact ⟨name, glyph, rest, within, means, rfl⟩

theorem starts_iff_opens : Text.Starts Code.written (Code.Known known) text ↔ Opens known text := by
  constructor
  · rintro ⟨⟨name, glyph⟩, ⟨within, means⟩, rest, rfl⟩
    exact ⟨name, glyph, rest, within, means, by simp [Code.written]⟩
  · rintro ⟨name, glyph, rest, within, means, rfl⟩
    exact ⟨⟨name, glyph⟩, ⟨within, means⟩, rest, by simp [Code.written]⟩

theorem distinct_codes (decided : Decides glyphOf known) :
    Text.Distinct Code.written (Code.Known known) where
  filled _ _ := List.cons_ne_nil _ _
  single := by
    rintro ⟨name, glyph⟩ ⟨other, otherGlyph⟩ text ⟨within, means⟩ ⟨withinAlso, meansAlso⟩
      ⟨rest, rfl⟩ ⟨after, same⟩
    simp only [Code.written, List.cons_append, List.append_assoc, List.nil_append,
      List.cons.injEq, true_and] at same
    obtain ⟨rfl, -⟩ := eq_of_cut withinAlso within same
    cases ((decided _ _).mpr means).symm.trans ((decided _ _).mpr meansAlso)
    rfl

theorem exists_scan (known : List Char → String → Prop) (text : List Char) :
    ∃ parts, Scans known text parts :=
  Text.Scans.exists_parts (fun _ _ => List.cons_ne_nil _ _) text

theorem scans_code (within : ':' ∉ name) (means : known name glyph)
    (after : Scans known rest parts) :
    Scans known (':' :: (name ++ ':' :: rest)) (.token ⟨name, glyph⟩ :: parts) := by
  have scans : Scans known (Code.written ⟨name, glyph⟩ ++ rest) _ := .token ⟨within, means⟩ after
  simpa [Code.written] using scans

theorem of_scans_code (decided : Decides glyphOf known) (within : ':' ∉ name)
    (means : known name glyph) (scans : Scans known (':' :: (name ++ ':' :: rest)) parts) :
    ∃ others, parts = .token ⟨name, glyph⟩ :: others ∧ Scans known rest others := by
  have whole : ':' :: (name ++ ':' :: rest) = Code.written ⟨name, glyph⟩ ++ rest := by
    simp [Code.written]
  rw [whole] at scans
  exact scans.of_token (distinct_codes decided) ⟨within, means⟩

theorem of_scans_letter (plain : ¬Opens known (c :: rest))
    (scans : Scans known (c :: rest) parts) :
    ∃ others, parts = .letter c :: others ∧ Scans known rest others :=
  scans.of_letter (mt starts_iff_opens.mp plain)

/-- Without a colon there is nothing to find. -/
theorem of_scans_colonless (within : ':' ∉ before) (scans : Scans known (before ++ text) parts) :
    ∃ others, parts = before.map .letter ++ others ∧ Scans known text others := by
  induction before generalizing parts with
  | nil => exact ⟨parts, rfl, scans⟩
  | cons c front ih =>
    rw [List.mem_cons, not_or] at within
    obtain ⟨behind, rfl, after⟩ := of_scans_letter (fun opens => within.1 opens.head.symm) scans
    obtain ⟨others, rfl, found⟩ := ih within.2 after
    exact ⟨others, rfl, found⟩

theorem scans_letters (codeless : ¬HasCode known text) : Scans known text (text.map .letter) := by
  induction text with
  | nil => exact .done
  | cons c rest ih =>
    have plain : ¬Opens known (c :: rest) := fun opens => codeless ⟨_, List.suffix_rfl, opens⟩
    have later : ¬HasCode known rest := fun ⟨suffix, ends, opens⟩ =>
      codeless ⟨suffix, ends.trans (List.suffix_cons c rest), opens⟩
    exact .letter (mt starts_iff_opens.mp plain) (ih later)

theorem of_scans_codeless (decided : Decides glyphOf known) (scans : Scans known text parts)
    (codeless : ¬HasCode known text) : parts = text.map .letter :=
  (scans_letters codeless).unique (distinct_codes decided) scans

/-- It takes two colons to write a name between them. -/
theorem codeless_of_count (few : text.count ':' < 2) : ¬HasCode known text := by
  rintro ⟨_, ⟨front, rfl⟩, name, glyph, rest, -, -, rfl⟩
  simp only [List.count_append, List.count_cons_self] at few
  omega

/-! ## Resolving -/

theorem foldl_letters (text : List Char) (shown : Message) :
    ((text.map Text.Part.letter).map Part.shown).foldl Message.push shown =
      shown.push (.text (String.ofList text)) := by
  induction text generalizing shown with
  | nil => rfl
  | cons c rest ih =>
    have split : String.ofList (c :: rest) = String.singleton c ++ String.ofList rest := by
      rw [← String.toList_inj]
      simp
    rw [split, Message.push_text_append]
    exact ih (shown.push (.text (String.singleton c)))

theorem resolve_eq (decided : Decides glyphOf known)
    (scans : Scans known text parts) (shown : Message) :
    resolve glyphOf text shown = (parts.map Part.shown).foldl Message.push shown := by
  fun_induction resolve glyphOf text shown generalizing parts with
  | case1 text shown uncut =>
    have none : text.count ':' = 0 := List.count_eq_zero.mpr (colonless_of_uncut uncut)
    have codeless : ¬HasCode known text := codeless_of_count (by omega)
    rw [of_scans_codeless decided scans codeless, foldl_letters]
  | case2 text shown before after opening shorter uncut =>
    have one : text.count ':' = 1 := by
      rw [eq_of_cutColon? opening, List.count_append, List.count_cons_self,
        List.count_eq_zero.mpr (colonless_of_cutColon? opening),
        List.count_eq_zero.mpr (colonless_of_uncut uncut)]
    have codeless : ¬HasCode known text := codeless_of_count (by omega)
    rw [of_scans_codeless decided scans codeless, foldl_letters]
  | case3 text shown before after opening shorter name rest closing _ glyph found ih =>
    rw [eq_of_cutColon? opening, eq_of_cutColon? closing] at scans
    obtain ⟨_, rfl, scansCode⟩ := of_scans_colonless (colonless_of_cutColon? opening) scans
    obtain ⟨others, rfl, scansRest⟩ :=
      of_scans_code decided (colonless_of_cutColon? closing) ((decided name glyph).mp found)
        scansCode
    rw [ih scansRest, List.map_append, List.foldl_append, foldl_letters]
    rfl
  | case4 text shown before after opening shorter name rest closing _ unknown ih =>
    have plain : ¬Opens known (':' :: after) := by
      rw [eq_of_cutColon? closing, opens_iff (colonless_of_cutColon? closing)]
      rintro ⟨glyph, means⟩
      cases unknown.symm.trans ((decided name glyph).mpr means)
    rw [eq_of_cutColon? opening] at scans
    obtain ⟨_, rfl, scansColon⟩ := of_scans_colonless (colonless_of_cutColon? opening) scans
    obtain ⟨others, rfl, scansAfter⟩ := of_scans_letter plain scansColon
    rw [ih scansAfter, String.ofList_append, Message.push_text_append, List.map_append,
      List.foldl_append, foldl_letters]
    rfl

theorem resolve_codeless (decided : Decides glyphOf known) (codeless : ¬HasCode known text)
    (shown : Message) : resolve glyphOf text shown = shown.push (.text (String.ofList text)) := by
  rw [resolve_eq decided (scans_letters codeless), foldl_letters]

/-! ## What is left -/

/-- No shortcode begins in the first text if the second follows it. -/
def Closed (known : List Char → String → Prop) (before text : List Char) : Prop :=
  ∀ suffix, suffix <:+ before → suffix ≠ [] → ¬Opens known (suffix ++ text)

theorem closed_nil (text : List Char) : Closed known [] text :=
  fun _ ends some => absurd (List.suffix_nil.mp ends) some

theorem Closed.codeless (closed : Closed known before text) : ¬HasCode known before :=
  fun ⟨suffix, ends, opens⟩ => closed suffix ends opens.ne_nil (opens.append text)

theorem Closed.letter (closed : Closed known before (c :: rest))
    (plain : ¬Opens known (c :: rest)) :
    Closed known (before ++ [c]) rest := by
  intro suffix ends some
  rw [List.suffix_concat_iff] at ends
  obtain ⟨front, rfl, endsBefore⟩ := ends.resolve_left some
  rw [List.append_assoc, List.singleton_append]
  by_cases first : front = []
  · rw [first, List.nil_append]
    exact plain
  · exact closed front endsBefore first

/-- No shortcode stands in the message, and none can come about at its end once the text follows
that is still to be scanned. -/
structure Settled (known : List Char → String → Prop) (shown : Message) (text : List Char) :
    Prop where
  clean : ∀ value, .text value ∈ shown.segments → ¬HasCode known value.toList
  ahead : ∀ last, shown.segments.getLast? = some (.text last) → Closed known last.toList text

variable {shown : Message}

theorem Settled.letter (settled : Settled known shown (c :: rest))
    (plain : ¬Opens known (c :: rest)) :
    Settled known (shown.push (.text (String.singleton c))) rest := by
  have filled : String.singleton c ≠ "" := String.singleton_ne_empty
  obtain ⟨front, last, pushed, others, ends⟩ := shown.exists_push_text filled
  have before : Closed known last.toList (c :: rest) := by
    rcases ends with rfl | ends
    · exact closed_nil _
    · exact settled.ahead last ends
  have closed : Closed known (last ++ String.singleton c).toList rest := by
    rw [String.toList_append, String.toList_singleton]
    exact before.letter plain
  constructor
  · intro value member
    rw [pushed, List.mem_append, List.mem_singleton] at member
    rcases member with member | same
    · exact settled.clean value (others member)
    · cases same
      exact closed.codeless
  · intro value ends
    rw [pushed, List.getLast?_concat] at ends
    cases ends
    exact closed

theorem Settled.emoji (settled : Settled known shown text) (glyph : String) (rest : List Char) :
    Settled known (shown.push (.emoji glyph)) rest := by
  have pushed : (shown.push (.emoji glyph)).segments = shown.segments ++ [.emoji glyph] := rfl
  constructor
  · intro value member
    rw [pushed, List.mem_append, List.mem_singleton] at member
    exact settled.clean value (member.resolve_right nofun)
  · intro last ends
    rw [pushed, List.getLast?_concat] at ends
    cases ends

/-- The scan leaves no shortcode behind. -/
theorem Settled.scans (settled : Settled known shown text) (scans : Scans known text parts) :
    Settled known ((parts.map Part.shown).foldl Message.push shown) [] := by
  induction scans generalizing shown with
  | done => exact settled
  | token _ after ih => exact ih (settled.emoji _ _)
  | letter plain after ih => exact ih (settled.letter (mt starts_iff_opens.mpr plain))

/-! ## Messages -/

/-- What is shown for a segment: the parts of a text, and any other segment itself. -/
def shownFor (parts : String → List Part) : Segment → List Segment
  | .text value => (parts value).map Part.shown
  | .link value => [.link value]
  | .emoji value => [.emoji value]

theorem resolveMessage_eq (decided : Decides glyphOf known) {parts : String → List Part}
    (scans : ∀ text, Scans known text.toList (parts text)) (message : Message) :
    resolveMessage glyphOf message = .ofSegments (message.segments.flatMap (shownFor parts)) := by
  rw [resolveMessage, Message.ofSegments, List.foldl_flatMap]
  refine List.foldl_ext _ _ _ fun shown segment _ => ?_
  cases segment with
  | text value => exact resolve_eq decided (scans value) shown
  | link value | emoji value => rfl

theorem normal_resolveMessage (decided : Decides glyphOf known) (message : Message) :
    (resolveMessage glyphOf message).Normal := by
  choose parts scans using fun text : String => exists_scan known text.toList
  rw [resolveMessage_eq decided scans]
  exact Message.normal_ofSegments _

theorem resolveMessage_codeless (decided : Decides glyphOf known) {message : Message}
    (normal : message.Normal)
    (codeless : ∀ value, .text value ∈ message.segments → ¬HasCode known value.toList) :
    resolveMessage glyphOf message = message := by
  refine Eq.trans ?_ normal.ofSegments_eq
  refine List.foldl_ext _ _ _ fun shown segment member => ?_
  cases segment with
  | text value =>
    have stays := resolve_codeless decided (codeless value member) shown
    rwa [String.ofList_toList] at stays
  | link value | emoji value => rfl

/-- No shortcode is left in a message, and it ends in text only if it did so before. -/
structure Cleared (known : List Char → String → Prop) (message shown : Message) : Prop where
  clean : ∀ value, .text value ∈ shown.segments → ¬HasCode known value.toList
  ends : ∀ last, shown.segments.getLast? = some (.text last) →
    ∃ value, message.segments.getLast? = some (.text value)

theorem Cleared.mark {front : List Segment} (cleared : Cleared known ⟨front⟩ shown)
    {segment : Segment} (other : segment.isText = false) :
    Cleared known ⟨front ++ [segment]⟩ (shown.push segment) := by
  rw [Message.push_other other]
  constructor
  · intro value member
    rcases List.mem_append.mp member with member | member
    · exact cleared.clean value member
    · cases List.mem_singleton.mp member
      cases other
  · intro last ends
    rw [List.getLast?_concat] at ends
    cases ends
    cases other

theorem Cleared.resolve (decided : Decides glyphOf known) {front : List Segment} {value : String}
    (cleared : Cleared known ⟨front⟩ shown)
    (apart : ∀ segment ∈ front.getLast?, segment.isText = false) :
    Cleared known ⟨front ++ [.text value]⟩ (resolve glyphOf value.toList shown) := by
  have settled : Settled known shown value.toList := by
    refine ⟨cleared.clean, fun last ends => ?_⟩
    obtain ⟨before, endsFront⟩ := cleared.ends last ends
    cases apart _ endsFront
  obtain ⟨parts, scans⟩ := exists_scan known value.toList
  rw [resolve_eq decided scans]
  exact ⟨(settled.scans scans).clean, fun last _ => ⟨value, List.getLast?_concat⟩⟩

/-- No two texts of the message meet, so no shortcode comes about between what is shown for them. -/
theorem cleared_resolveMessage (decided : Decides glyphOf known) {message : Message}
    (normal : message.Normal) : Cleared known message (resolveMessage glyphOf message) := by
  obtain ⟨segments⟩ := message
  induction segments using List.reverseRecOn with
  | nil => exact ⟨nofun, nofun⟩
  | append_singleton front last ih =>
    obtain ⟨before, -, apart⟩ := normal.of_concat
    rw [resolveMessage, List.foldl_append]
    cases last with
    | text value => exact (ih before).resolve decided (apart rfl)
    | link value | emoji value => exact (ih before).mark rfl

/-! ## Names -/

/-- The name is written in letters, digits and three signs. -/
structure Spelled (name : List Char) : Prop where
  any : name ≠ []
  signs : ∀ c ∈ name, c.isAlphanum = true ∨ c ∈ ['_', '+', '-']

/-- The name stands for the glyph, which the glossary has under the name in lower case, or the table
has under the name itself if the glossary lacks it. -/
structure Means (table : String → Option String) (glossary : Glossary) (name : List Char)
    (glyph : String) : Prop where
  spelled : Spelled name
  found : (glossary.lookup (lowerName (String.ofList name))).or (table (String.ofList name)) =
    some glyph

theorem isName_iff : isName name = true ↔ Spelled name := by
  have signs : isName name = true ↔
      name ≠ [] ∧ ∀ c ∈ name, c.isAlphanum = true ∨ c ∈ ['_', '+', '-'] := by
    simp [isName, isNameChar, or_assoc]
  exact signs.trans ⟨fun ⟨any, signs⟩ => ⟨any, signs⟩, fun ⟨any, signs⟩ => ⟨any, signs⟩⟩

theorem Spelled.colonless (spelled : Spelled name) : ':' ∉ name := by
  intro member
  have sign := spelled.signs ':' member
  revert sign
  decide

theorem decides_glyph? (table : String → Option String) (glossary : Glossary) :
    Decides (glyph? table glossary) (Means table glossary) := by
  intro name glyph
  unfold glyph?
  split
  case isTrue named =>
    rw [Option.orElse_eq_orElse, Option.orElse_eq_or]
    exact ⟨fun found => ⟨isName_iff.mp named, found⟩, Means.found⟩
  case isFalse unnamed =>
    exact ⟨nofun, fun means => absurd (isName_iff.mpr means.spelled) unnamed⟩

/-- Whatever the names mean, glyphs are put in for the shortcodes of every text of a message, as one
scan from left to right finds them, and all else is left alone. Messages are made by pushing
segments, so each of them is in normal form. -/
theorem resolveMessage_scans (table : String → Option String) (glossary : Glossary)
    {message : Message} (normal : message.Normal) :
    let known := Means table glossary
    let resolved := resolveMessage (glyph? table glossary)
    ∃ parts : String → List Part,
      (∀ text found, Scans known text.toList found ↔ found = parts text) ∧
      (∀ text, (parts text).flatMap Part.written = text.toList) ∧
      resolved message = .ofSegments (message.segments.flatMap (shownFor parts)) ∧
      (∀ value, .text value ∈ (resolved message).segments → ¬HasCode known value.toList) ∧
      resolved (resolved message) = resolved message := by
  intro known resolved
  have decided : Decides (glyph? table glossary) known := decides_glyph? table glossary
  choose parts scans using fun text : String => exists_scan known text.toList
  have cleared := cleared_resolveMessage decided normal
  refine ⟨parts, fun text found => ⟨(scans text).unique (distinct_codes decided), ?_⟩,
    fun text => (scans text).written, resolveMessage_eq decided scans message, cleared.clean, ?_⟩
  · rintro rfl
    exact scans text
  · exact resolveMessage_codeless decided (normal_resolveMessage decided message) cleared.clean

end Switchboard.Shortcode
