import Mathlib.Data.List.Basic
import Mathlib.Tactic.Common
import Switchboard.Proofs.Merging
import Switchboard.Proofs.PlainText

/-! Reading raw text is exact. Nothing of the text is lost, its links are the web addresses among
its words, in their order, and what stands between them is text in one piece. -/
namespace Switchboard

def Segment.link? : Segment → Option String
  | link value => some value
  | text _ | emoji _ => none

def Segment.emoji? : Segment → Option String
  | emoji value => some value
  | text _ | link _ => none

namespace Message

def links (message : Message) : List String := message.segments.filterMap Segment.link?

/-- The words of a text are what stands between its spaces. Two spaces have the empty word between
them, and white space of other kinds is part of a word. -/
structure Words (text : List Char) (words : List (List Char)) : Prop where
  any : words ≠ []
  spaceless : ∀ word ∈ words, ' ' ∉ word
  joined : [' '].intercalate words = text

/-- The word is a web address, which has something behind its scheme. -/
def Address (word : List Char) : Prop :=
  ∃ scheme ∈ ["https://", "http://"], ∃ host, host ≠ [] ∧ word = scheme.toList ++ host

variable {text word : List Char} {words : List (List Char)}

/-! ## Words -/

theorem spaceless_of_mem_splitOn (member : word ∈ text.splitOn ' ') : ' ' ∉ word := by
  induction text generalizing word with
  | nil =>
    rw [List.splitOn_nil, List.mem_singleton] at member
    simp [member]
  | cons c rest ih =>
    rw [List.splitOn_cons_eq_if_modifyHead] at member
    split at member
    case isTrue =>
      rcases List.mem_cons.mp member with rfl | member
      · exact List.not_mem_nil
      · exact ih member
    case isFalse other =>
      obtain ⟨first, others, cut⟩ := List.exists_cons_of_ne_nil (List.splitOn_ne_nil ' ' rest)
      rw [cut] at member ih
      rw [List.modifyHead_cons] at member
      rcases List.mem_cons.mp member with rfl | member
      · have differs : ' ' ≠ c := fun same => other (beq_iff_eq.mpr same.symm)
        exact List.not_mem_cons_of_ne_of_not_mem differs (ih List.mem_cons_self)
      · exact ih (.tail _ member)

theorem words_iff : Words text words ↔ words = text.splitOn ' ' := by
  constructor
  · rintro ⟨any, spaceless, rfl⟩
    exact (List.splitOn_intercalate ' ' spaceless any).symm
  · rintro rfl
    exact ⟨List.splitOn_ne_nil ' ' text, fun _ => spaceless_of_mem_splitOn,
      List.intercalate_splitOn ' '⟩

/-! ## Web addresses -/

theorem schemes_apart (host other : List Char) :
    "https://".toList ++ host ≠ "http://".toList ++ other := by
  simp

theorem host_iff {scheme rest : List Char} (starts : scheme.isPrefixOf? word = some rest) :
    (∃ host, host ≠ [] ∧ word = scheme ++ host) ↔ (!rest.isEmpty) = true := by
  obtain rfl := List.append_eq_of_isPrefixOf?_eq_some starts
  simp

theorem no_host {scheme : List Char} (elsewhere : scheme.isPrefixOf? word = none) :
    ¬∃ host, host ≠ [] ∧ word = scheme ++ host := by
  rintro ⟨host, -, rfl⟩
  cases elsewhere.symm.trans (List.isPrefixOf?_eq_some_iff_append_eq.mpr rfl)

theorem isLink_iff : isLink word = true ↔ Address word := by
  have either : Address word ↔ (∃ host, host ≠ [] ∧ word = "https://".toList ++ host) ∨
      ∃ host, host ≠ [] ∧ word = "http://".toList ++ host := by
    simp [Address]
  rw [either, isLink]
  split
  case h_1 rest secure =>
    have notPlain : ¬∃ host, host ≠ [] ∧ word = "http://".toList ++ host := by
      rintro ⟨host, -, rfl⟩
      exact schemes_apart rest host (List.append_eq_of_isPrefixOf?_eq_some secure)
    rw [or_iff_left notPlain, host_iff secure]
  case h_2 notSecure =>
    rw [or_iff_right (no_host notSecure)]
    split
    case h_1 rest plain => rw [host_iff plain]
    case h_2 notPlain => exact iff_of_false Bool.false_ne_true (no_host notPlain)

instance : DecidablePred Address := fun _ => decidable_of_iff _ isLink_iff

/-! ## Segments -/

/-- How a word is shown. -/
def segmentOf (word : List Char) : Segment :=
  if Address word then .link (String.ofList word) else .text (String.ofList word)

theorem ofWord_eq (word : List Char) : ofWord word = segmentOf word := by
  rw [ofWord, segmentOf]
  simp only [isLink_iff]

theorem ofWords_eq (words : List (List Char)) :
    ofWords words = (words.map segmentOf).intersperse (.text " ") := by
  fun_induction ofWords words with
  | case1 => rfl
  | case2 word => rw [ofWord_eq]; rfl
  | case3 word rest more ih =>
    obtain ⟨second, later, rfl⟩ := List.exists_cons_of_ne_nil more
    rw [ofWord_eq, ih]
    rfl

theorem parse_eq (raw : String) :
    parse raw = .ofSegments (((raw.toList.splitOn ' ').map segmentOf).intersperse (.text " ")) :=
  congrArg ofSegments (ofWords_eq _)

section

variable {α : Type u} {f : Segment → Option α}

theorem filterMap_intersperse (textless : ∀ value, f (.text value) = none)
    (segments : List Segment) :
    (segments.intersperse (.text " ")).filterMap f = segments.filterMap f := by
  induction segments with
  | nil => rfl
  | cons first rest ih =>
    cases rest with
    | nil => rfl
    | cons second later =>
      rw [List.intersperse_cons_cons, List.filterMap_cons, List.filterMap_cons_none (textless " "),
        ih, List.filterMap_cons (l := second :: later)]

/-- Beside text there is only what the words are shown as. -/
theorem filterMap_parse (textless : ∀ value, f (.text value) = none) (raw : String) :
    (parse raw).segments.filterMap f =
      ((raw.toList.splitOn ' ').map segmentOf).filterMap f := by
  rw [parse_eq, filterMap_ofSegments textless, filterMap_intersperse textless]

end

theorem links_segmentOf (words : List (List Char)) :
    (words.map segmentOf).filterMap Segment.link? =
      (words.filter (Address ·)).map String.ofList := by
  induction words with
  | nil => rfl
  | cons word rest ih =>
    rw [List.map_cons, List.filterMap_cons, List.filter_cons, ih, segmentOf]
    by_cases address : Address word <;> simp [address, Segment.link?]

theorem kind_parse (raw : String) :
    ∀ segment ∈ (parse raw).segments, segment.kind ∈ ["text", "link"] := by
  have noEmoji : (parse raw).segments.filterMap Segment.emoji? = [] := by
    rw [filterMap_parse fun _ => rfl, List.filterMap_map, List.filterMap_eq_nil_iff]
    intro word _
    rw [Function.comp_apply, segmentOf]
    split <;> rfl
  intro segment member
  have notEmoji := List.filterMap_eq_nil_iff.mp noEmoji segment member
  cases segment with
  | text | link => simp [Segment.kind]
  | emoji => cases notEmoji

/-- Raw text is read into a message that shows all of it, in which the words that are web addresses
are links, and what is between them is text in one piece. -/
theorem parse_exact (raw : String) :
    ∃ words, (∀ others, Words raw.toList others ↔ others = words) ∧
      parse raw = .ofSegments ((words.map segmentOf).intersperse (.text " ")) ∧
      (parse raw).plainText = raw ∧
      (parse raw).links = (words.filter (Address ·)).map String.ofList ∧
      (∀ segment ∈ (parse raw).segments, segment.kind ∈ ["text", "link"]) ∧
      (parse raw).Normal := by
  have linked : (parse raw).links =
      ((raw.toList.splitOn ' ').filter (Address ·)).map String.ofList := by
    rw [links, filterMap_parse fun _ => rfl, links_segmentOf]
  have normal : (parse raw).Normal := parse_eq raw ▸ normal_ofSegments _
  exact ⟨raw.toList.splitOn ' ', fun others => words_iff, parse_eq raw, plainText_parse raw,
    linked, kind_parse raw, normal⟩

/-- A tab does not end a word. -/
example : (parse "http://a http://\thttps:// x").segments =
    [.link "http://a", .text " ", .link "http://\thttps://", .text " x"] := by decide

end Message

end Switchboard
