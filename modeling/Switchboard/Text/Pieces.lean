/-! Lines of a text, and cutting a text at the occurrences of a word. Occurrences are found from
left to right and do not overlap. -/
namespace Switchboard.Text

def endLine (line : String) : String := line ++ "\n"

theorem isPrefixOf?_eq_some {word text rest : List Char} (h : word.isPrefixOf? text = some rest) :
    text = word ++ rest := by
  induction word generalizing text with
  | nil => exact Option.some.inj h
  | cons c word ih =>
    cases text with
    | nil => exact absurd (show none = some rest from h) nofun
    | cons d text =>
      change (if c == d then word.isPrefixOf? text else none) = some rest at h
      by_cases same : c = d
      · subst same
        simp only [beq_self_eq_true, if_true] at h
        rw [ih h, List.cons_append]
      · simp [same] at h

/-- Puts a character in front of the first piece. -/
def consFirst (c : Char) : List (List Char) → List (List Char)
  | [] => [[c]]
  | piece :: rest => (c :: piece) :: rest

/-- What lies between the occurrences of `word`; one piece if it does not occur. The empty word
occurs nowhere. -/
def pieces (word text : List Char) : List (List Char) :=
  match text with
  | [] => [[]]
  | c :: rest =>
    match word.isPrefixOf? (c :: rest) with
    | none => consFirst c (pieces word rest)
    | some after =>
      if after.length < rest.length + 1 then [] :: pieces word after
      else consFirst c (pieces word rest)
termination_by text.length

def holds (word : List Char) : List Char → Bool
  | [] => word.isEmpty
  | c :: rest => word.isPrefixOf (c :: rest) || holds word rest

/-- Every occurrence of `old` replaced by `new`. The empty text occurs before every character
and at the end. -/
def replaceAll (old new text : String) : String :=
  if old.isEmpty then
    new ++ String.join (text.toList.map fun c => String.singleton c ++ new)
  else
    new.intercalate ((pieces old.toList text.toList).map String.ofList)

end Switchboard.Text
