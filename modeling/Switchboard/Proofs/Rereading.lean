import Mathlib.Tactic.Common
import Switchboard.Json.Writer
import Switchboard.Proofs.Parsing

/-! JSON texts that are written are read back: what is written for a value is one of its texts, as
far as its numbers are whole and fit 64 bits. Such a text is all on one line. -/
namespace Switchboard

/-- Values of which each is read back after it is written are read back all together. -/
theorem mapM_of_reads {write : α → β} {read : β → Option γ} {value : α → γ} {items : List α}
    (reads : ∀ item ∈ items, read (write item) = some (value item)) :
    (items.map write).mapM read = some (items.map value) := by
  induction items with
  | nil => rfl
  | cons item rest ih =>
    obtain ⟨own, others⟩ := List.forall_mem_cons.mp reads
    rw [List.map_cons, List.mapM_cons, own, ih others]
    rfl

namespace Json

variable {c : Char}

mutual

/-- All numbers in the value are whole and fit 64 bits. -/
def Whole : Json → Prop
  | integer value => FitsWord value
  | decimal _ => False
  | array items => WholeItems items
  | object members => WholeMembers members
  | null | bool _ | string _ => True

def WholeItems : List Json → Prop
  | [] => True
  | item :: rest => Whole item ∧ WholeItems rest

def WholeMembers : List (String × Json) → Prop
  | [] => True
  | (_, value) :: rest => Whole value ∧ WholeMembers rest

end

theorem whole_ofNat {value : Nat} (small : value < Word.limit) : (ofNat value).Whole :=
  ⟨by omega, by exact_mod_cast small⟩

theorem whole_ofOption {write : α → Json} {content : Option α}
    (whole : ∀ value ∈ content, (write value).Whole) : (ofOption write content).Whole := by
  cases content with
  | none => trivial
  | some value => exact whole value rfl

theorem wholeItems_of_forall {items : List Json} (whole : ∀ item ∈ items, item.Whole) :
    WholeItems items := by
  induction items with
  | nil => trivial
  | cons item rest ih =>
    obtain ⟨own, others⟩ := List.forall_mem_cons.mp whole
    exact ⟨own, ih others⟩

/-! ## Texts -/

theorem spellsChar_escape (c : Char) : SpellsChar c (escape c) := by
  -- Seven characters have a letter of their own.
  by_cases short : c ∈ ['"', '\\', '\x08', '\x0c', '\n', '\r', '\t']
  · simp only [List.mem_cons, List.not_mem_nil, or_false] at short
    rcases short with rfl | rfl | rfl | rfl | rfl | rfl | rfl <;> exact .short (by decide)
  · simp only [List.mem_cons, List.not_mem_nil, or_false, not_or] at short
    obtain ⟨quote, backslash, backspace, feed, line, back, tab⟩ := short
    simp only [escape, quote, backslash, backspace, feed, line, back, tab, if_false]
    by_cases control : c < ' '
    · have small : c.toNat < 32 := control
      rw [if_pos control]
      exact .unit ⟨0, 0, _, _, rfl, rfl, Text.hexDigit?_hexDigit _ (by omega),
        Text.hexDigit?_hexDigit _ (by omega), by omega⟩
    · rw [if_neg control]
      exact .plain quote backslash (Char.not_lt.mp control)

theorem spellsChars_flatMap_escape (text : List Char) :
    SpellsChars text (text.flatMap escape) := by
  induction text with
  | nil => exact .nil
  | cons c text ih => exact .cons (spellsChar_escape c) ih

theorem quotes_writeString (value : String) : Quotes value (writeString value) :=
  ⟨_, spellsChars_flatMap_escape value.toList, rfl⟩

theorem spellsName_writeString (name : String) : SpellsName name (writeString name ++ [':']) :=
  ⟨[], writeString name, [], [], gap_nil, quotes_writeString name, gap_nil, gap_nil, by simp⟩

mutual

/-- What is written for a value is a text of it, without white space. -/
theorem spells_writeChars : ∀ (value : Json), value.Whole → Spells value (writeChars value)
  | null, _ => .null
  | bool true, _ => .yes
  | bool false, _ => .no
  | integer _, fits => .integer fits
  | decimal _, whole => whole.elim
  | string value, _ => .string (quotes_writeString value)
  | array items, whole => .array (spellsItems_writeItems items whole)
  | object members, whole => .object (spellsMembers_writeMembers members whole)

theorem spellsItems_writeItems : ∀ (items : List Json), WholeItems items →
    SpellsItems items (writeItems items)
  | [], _ => .none gap_nil
  | [item], whole => by
    simpa [writeItems] using
      SpellsItems.last gap_nil (spells_writeChars item whole.1) gap_nil
  | item :: next :: more, whole => by
    simpa [writeItems] using
      SpellsItems.more gap_nil (spells_writeChars item whole.1) gap_nil
        (spellsItems_writeItems (next :: more) whole.2)

theorem spellsMembers_writeMembers : ∀ (members : List (String × Json)), WholeMembers members →
    SpellsMembers members (writeMembers members)
  | [], _ => .none gap_nil
  | [(name, value)], whole => by
    simpa [writeMembers] using
      SpellsMembers.last (spellsName_writeString name) (spells_writeChars value whole.1) gap_nil
  | (name, value) :: next :: more, whole => by
    simpa [writeMembers] using
      SpellsMembers.more (spellsName_writeString name) (spells_writeChars value whole.1) gap_nil
        (spellsMembers_writeMembers (next :: more) whole.2)

end

theorem spelled_write {value : Json} (whole : value.Whole) : Spelled value value.write :=
  ⟨[], writeChars value, [], gap_nil, spells_writeChars value whole, gap_nil, by simp [write]⟩

/-- What is written is read back. -/
theorem read?_write {value : Json} (whole : value.Whole) (shallow : value.depth ≤ maxDepth) :
    read? value.write = some value := by
  rw [read?_of_spelled (spelled_write whole), if_pos shallow]

/-! ## Lines -/

theorem visible_of_wordChar (stands : isWordChar c = true) : ' ' ≤ c := by
  by_contra control
  have noWord : isWordChar c = false :=
    of_control (motive := fun c => isWordChar c = false) (by decide) (Char.not_le.mp control)
  exact ne_true_of_eq_false noWord stands

theorem visible_writeString {value : String} (member : c ∈ writeString value) : ' ' ≤ c := by
  simp only [writeString, List.cons_append, List.mem_cons, List.mem_append, List.not_mem_nil,
    or_false] at member
  obtain rfl | member | rfl := member
  · decide
  · exact visible_of_spellsChars (spellsChars_flatMap_escape value.toList) c member
  · decide

mutual

/-- A text that is written has no control characters, line feeds among them. -/
theorem visible_writeChars : ∀ (value : Json), value.Whole → ∀ c ∈ writeChars value, ' ' ≤ c
  | null, _ | bool true, _ | bool false, _ =>
    fun c member => visible_of_wordChar (List.all_eq_true.mp rfl c member)
  | integer _, _ => fun _ member => visible_of_wordChar (wordChar_of_mem_toString member)
  | decimal _, whole => whole.elim
  | string value, _ => fun _ member => visible_writeString member
  | array items, whole => by
    rw [writeChars, List.forall_mem_cons]
    exact ⟨by decide, visible_writeItems items whole⟩
  | object members, whole => by
    rw [writeChars, List.forall_mem_cons]
    exact ⟨by decide, visible_writeMembers members whole⟩

theorem visible_writeItems : ∀ (items : List Json), WholeItems items →
    ∀ c ∈ writeItems items, ' ' ≤ c
  | [], _ => List.forall_mem_singleton.mpr (by decide)
  | [item], whole => by
    rw [writeItems, List.forall_mem_append, List.forall_mem_singleton]
    exact ⟨visible_writeChars item whole.1, by decide⟩
  | item :: next :: more, whole => by
    rw [writeItems, List.forall_mem_append, List.forall_mem_cons]
    · exact ⟨visible_writeChars item whole.1, by decide, visible_writeItems (next :: more) whole.2⟩
    · nofun

theorem visible_writeMembers : ∀ (members : List (String × Json)), WholeMembers members →
    ∀ c ∈ writeMembers members, ' ' ≤ c
  | [], _ => List.forall_mem_singleton.mpr (by decide)
  | [(name, value)], whole => by
    rw [writeMembers, List.forall_mem_append, List.forall_mem_append, List.forall_mem_cons,
      List.forall_mem_singleton]
    exact ⟨⟨fun _ => visible_writeString, by decide, visible_writeChars value whole.1⟩, by decide⟩
  | (name, value) :: next :: more, whole => by
    rw [writeMembers, List.forall_mem_append, List.forall_mem_append, List.forall_mem_cons,
      List.forall_mem_cons]
    · exact ⟨⟨fun _ => visible_writeString, by decide, visible_writeChars value whole.1⟩, by decide,
        visible_writeMembers (next :: more) whole.2⟩
    · nofun

end

end Json

end Switchboard
