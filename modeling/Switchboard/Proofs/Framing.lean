import Mathlib.Algebra.GroupWithZero.Nat
import Mathlib.Tactic.Common
import Switchboard.Text.Pieces

/-! Lines that are written one after another, and what a reader finds who cuts the text at its line
feeds. Nothing is lost, and each line is found as it was written if none has a line feed in it. -/
namespace Switchboard.Text

/-- The text that writing these lines one after another comes to. -/
def ofLines (lines : List String) : String := String.join (lines.map endLine)

/-- The text is all on one line. -/
def Unbroken (text : String) : Prop := '\n' ∉ text.toList

instance (text : String) : Decidable (Unbroken text) :=
  inferInstanceAs (Decidable ('\n' ∉ text.toList))

/-- What stands between the line feeds of a text. -/
def linePieces (text : String) : List String := (text.toList.splitOn '\n').map String.ofList

/-- The lines of a text in which each is ended by a line feed. -/
def lines? (text : String) : Option (List String) :=
  if (linePieces text).getLast? = some "" then some (linePieces text).dropLast else none

variable {line : String} {lines : List String}

@[simp] theorem unbroken_append {text other : String} :
    Unbroken (text ++ other) ↔ Unbroken text ∧ Unbroken other := by
  simp [Unbroken, String.toList_append]

theorem toList_endLine (line : String) : (endLine line).toList = line.toList ++ ['\n'] := by
  rw [endLine, String.toList_append]
  rfl

theorem toList_ofLines_cons (line : String) (rest : List String) :
    (ofLines (line :: rest)).toList = line.toList ++ '\n' :: (ofLines rest).toList := by
  simp [ofLines, String.toList_join, toList_endLine]

theorem linePieces_ofLines (lines : List String) :
    linePieces (ofLines lines) = lines.flatMap linePieces ++ [""] := by
  induction lines with
  | nil => rfl
  | cons line rest ih =>
    rw [linePieces, toList_ofLines_cons, List.splitOn_append_cons_self, List.map_append,
      List.flatMap_cons, List.append_assoc]
    exact congrArg _ ih

/-- A line falls into pieces where it has line feeds of its own. -/
theorem lines?_ofLines (lines : List String) :
    lines? (ofLines lines) = some (lines.flatMap linePieces) := by
  rw [lines?, linePieces_ofLines, if_pos List.getLast?_concat, List.dropLast_concat]

theorem linePieces_of_unbroken (unbroken : Unbroken line) : linePieces line = [line] := by
  rw [linePieces, List.splitOn_eq_singleton unbroken, List.map_singleton, String.ofList_toList]

theorem length_splitOn (sep : Char) (text : List Char) :
    (text.splitOn sep).length = text.count sep + 1 := by
  induction text with
  | nil => rfl
  | cons c rest ih =>
    rw [List.splitOn_cons_eq_if_modifyHead, List.count_cons]
    split
    · rw [List.length_cons, ih]
    · rw [List.length_modifyHead, ih, Nat.add_zero]

theorem length_linePieces (line : String) :
    (linePieces line).length = line.toList.count '\n' + 1 := by
  rw [linePieces, List.length_map, length_splitOn]

/-- There is a line for each that was written and one more for each line feed within them. -/
theorem length_flatMap_linePieces (lines : List String) :
    (lines.flatMap linePieces).length =
      lines.length + (lines.map fun line => line.toList.count '\n').sum := by
  induction lines with
  | nil => rfl
  | cons line rest ih =>
    rw [List.flatMap_cons, List.length_append, length_linePieces, ih, List.length_cons,
      List.map_cons, List.sum_cons]
    omega

theorem flatMap_linePieces_eq_self_iff :
    lines.flatMap linePieces = lines ↔ ∀ line ∈ lines, Unbroken line := by
  constructor
  · intro same line member
    have more := length_flatMap_linePieces lines
    rw [same] at more
    have noFeeds : (lines.map fun line => line.toList.count '\n').sum = 0 := by omega
    apply List.count_eq_zero.mp
    exact List.sum_eq_zero_iff_forall_eq_nat.mp noFeeds _ (List.mem_map_of_mem member)
  · intro unbroken
    induction lines with
    | nil => rfl
    | cons line rest ih =>
      obtain ⟨own, others⟩ := List.forall_mem_cons.mp unbroken
      rw [List.flatMap_cons, linePieces_of_unbroken own, ih others, List.singleton_append]

end Switchboard.Text
