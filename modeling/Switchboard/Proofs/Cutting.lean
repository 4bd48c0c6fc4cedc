import Mathlib.Data.List.TakeWhile
import Mathlib.Tactic.Common
import Switchboard.Text.Blank

/-! Characters of a class at the start of a text. They are cut off as one, however many there are,
if what follows them begins with another character. So it is with blanks at the end of a text. -/
namespace Switchboard.Text

variable {inside : Char → Bool} {front rest : List Char} {c : Char}

/-- The text does not begin with a character of the class. -/
def Outside (inside : Char → Bool) (text : List Char) : Prop := ∀ c ∈ text.head?, inside c = false

theorem outside_nil : Outside inside [] := nofun

theorem outside_cons (outside : inside c = false) (rest : List Char) :
    Outside inside (c :: rest) := by
  intro first same
  cases same
  exact outside

theorem cut_front (chars : ∀ c ∈ front, inside c = true) (outside : Outside inside rest) :
    (front ++ rest).takeWhile inside = front ∧ (front ++ rest).dropWhile inside = rest := by
  rw [List.takeWhile_append_of_pos chars, List.dropWhile_append_of_pos chars]
  cases rest with
  | nil => exact ⟨List.append_nil front, rfl⟩
  | cons c rest =>
    have stops : ¬inside c = true := ne_true_of_eq_false (outside c rfl)
    rw [List.takeWhile_cons_of_neg stops, List.dropWhile_cons_of_neg stops, List.append_nil]
    exact ⟨rfl, rfl⟩

theorem dropBlanksEnd_append {text blanks : List Char} (blank : ∀ c ∈ blanks, isBlank c = true)
    (ends : Outside isBlank text.reverse) : dropBlanksEnd (text ++ blanks) = text := by
  have chars : ∀ c ∈ blanks.reverse, isBlank c = true :=
    fun c member => blank c (List.mem_reverse.mp member)
  rw [dropBlanksEnd, List.reverse_append, (cut_front chars ends).2, List.reverse_reverse]

end Switchboard.Text
