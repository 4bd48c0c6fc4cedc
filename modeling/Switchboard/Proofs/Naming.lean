import Mathlib.Data.List.Basic
import Mathlib.Tactic.Common
import Switchboard.Proofs.Cutting
import Switchboard.Proofs.Requirements

/-! The names of requirements. A name begins with a word that tells the kind of requirement, and
where there are parts, brackets enclose their names; the word ends where no letter follows, and each
name in the brackets where a comma or the closing bracket does. So a requirement can be told from
its name, and an error says which one a context does not meet. -/
namespace Switchboard

namespace Requirement

/-- What a requirement is apart from its parts. -/
inductive Kind where
  | present (field : Field)
  | absent (field : Field)
  | all
  | notAll

namespace Kind

/-- The word with which names of the kind begin. -/
def word : Kind → String
  | present field => field.presentName
  | absent field => field.absentName
  | all => "ALL"
  | notAll => "NOT"

def every : List Kind :=
  let fields : List Field := [.sender, .target, .message, .channel, .server, .filtered, .parsed]
  fields.map present ++ fields.map absent ++ [all, notAll]

theorem find?_word (kind : Kind) : every.find? (·.word == kind.word) = some kind := by
  cases kind with
  | present field | absent field => cases field <;> rfl
  | all | notAll => rfl

theorem word_injective {kind other : Kind} (same : kind.word = other.word) : kind = other := by
  have found := find?_word kind
  rw [same, find?_word] at found
  exact (Option.some.inj found).symm

end Kind

def kind : Requirement → Kind
  | present field => .present field
  | absent field => .absent field
  | all _ => .all
  | notAll _ => .notAll

/-- What follows the word in a requirement's name. -/
def brackets : Requirement → List Char
  | present _ | absent _ => []
  | all parts => '(' :: ((nameList parts).toList ++ [')'])
  | notAll parts => '(' :: 'A' :: 'L' :: 'L' :: '(' :: ((nameList parts).toList ++ [')', ')'])

/-- The letters of which the words are made. -/
def isLetter (c : Char) : Bool := c.isUpper || c == '_'

variable {requirement other : Requirement} {rest more : List Char}

theorem isLetter_of_mem_word (kind : Kind) : ∀ c ∈ kind.word.toList, isLetter c = true := by
  apply List.all_eq_true.mp
  cases kind with
  | present field | absent field => cases field <;> rfl
  | all | notAll => rfl

theorem word_ne_nil (kind : Kind) : kind.word.toList ≠ [] := by
  cases kind with
  | present field | absent field => cases field <;> decide
  | all | notAll => decide

theorem toList_name (requirement : Requirement) :
    requirement.name.toList = requirement.kind.word.toList ++ requirement.brackets := by
  cases requirement with
  | present | absent => exact (List.append_nil _).symm
  | all parts =>
    change _ = "ALL".toList ++ '(' :: ((nameList parts).toList ++ [')'])
    rw [name, String.toList_append, String.toList_append, List.append_assoc]
    rfl
  | notAll parts =>
    change _ = "NOT".toList ++
      '(' :: 'A' :: 'L' :: 'L' :: '(' :: ((nameList parts).toList ++ [')', ')'])
    rw [name, String.toList_append, String.toList_append, List.append_assoc]
    rfl

theorem exists_letter (requirement : Requirement) :
    ∃ c rest, requirement.name.toList = c :: rest ∧ isLetter c = true := by
  rw [toList_name]
  have letters := isLetter_of_mem_word requirement.kind
  cases same : requirement.kind.word.toList with
  | nil => exact absurd same (word_ne_nil _)
  | cons c rest => exact ⟨c, _, rfl, letters c (same ▸ List.mem_cons_self)⟩

/-- What follows the first name of a list. -/
def moreNames : List Requirement → List Char
  | [] => []
  | parts => ',' :: ' ' :: (nameList parts).toList

theorem toList_nameList (part : Requirement) (parts : List Requirement) :
    (nameList (part :: parts)).toList = part.name.toList ++ moreNames parts := by
  cases parts with
  | nil => rw [nameList, moreNames, List.append_nil]
  | cons next rest =>
    rw [nameList, String.toList_append, String.toList_append, List.append_assoc]
    · rfl
    · nofun

theorem outside_moreNames (parts : List Requirement) (rest : List Char) :
    Text.Outside isLetter (moreNames parts ++ ')' :: rest) := by
  cases parts with
  | nil => exact Text.outside_cons rfl _
  | cons => exact Text.outside_cons rfl _

theorem outside_brackets (outside : Text.Outside isLetter rest) :
    Text.Outside isLetter (requirement.brackets ++ rest) := by
  cases requirement with
  | present | absent => exact outside
  | all | notAll => exact Text.outside_cons rfl _

theorem cut_name (requirement : Requirement) (outside : Text.Outside isLetter rest) :
    (requirement.name.toList ++ rest).takeWhile isLetter = requirement.kind.word.toList ∧
    (requirement.name.toList ++ rest).dropWhile isLetter = requirement.brackets ++ rest := by
  rw [toList_name, List.append_assoc]
  exact Text.cut_front (isLetter_of_mem_word _) (outside_brackets outside)

/-- Names that go on into texts without further letters are of one kind if these texts agree. -/
theorem kind_of_names (outside : Text.Outside isLetter rest)
    (outsideMore : Text.Outside isLetter more)
    (same : requirement.name.toList ++ rest = other.name.toList ++ more) :
    requirement.kind = other.kind ∧ requirement.brackets ++ rest = other.brackets ++ more := by
  obtain ⟨word, left⟩ := requirement.cut_name outside
  obtain ⟨otherWord, otherLeft⟩ := other.cut_name outsideMore
  rw [same, otherWord] at word
  rw [same, otherLeft] at left
  exact ⟨(Kind.word_injective (String.toList_inj.mp word)).symm, left.symm⟩

mutual

/-- A name tells the requirement and where the name ends. -/
theorem eq_of_names : ∀ (requirement other : Requirement) {rest more : List Char},
    Text.Outside isLetter rest → Text.Outside isLetter more →
    requirement.name.toList ++ rest = other.name.toList ++ more →
    requirement = other ∧ rest = more
  | present field, other, rest, more, outside, outsideMore, same => by
    obtain ⟨sameKind, left⟩ := kind_of_names outside outsideMore same
    cases other <;> cases sameKind
    exact ⟨rfl, left⟩
  | absent field, other, rest, more, outside, outsideMore, same => by
    obtain ⟨sameKind, left⟩ := kind_of_names outside outsideMore same
    cases other <;> cases sameKind
    exact ⟨rfl, left⟩
  | all parts, other, rest, more, outside, outsideMore, same => by
    obtain ⟨sameKind, left⟩ := kind_of_names outside outsideMore same
    cases other <;> cases sameKind
    case all others =>
      simp only [brackets, List.cons_append, List.append_assoc, List.cons.injEq, true_and] at left
      obtain ⟨rfl, closed⟩ := eq_of_nameLists parts others left
      exact ⟨rfl, closed⟩
  | notAll parts, other, rest, more, outside, outsideMore, same => by
    obtain ⟨sameKind, left⟩ := kind_of_names outside outsideMore same
    cases other <;> cases sameKind
    case notAll others =>
      simp only [brackets, List.cons_append, List.append_assoc, List.cons.injEq, true_and] at left
      obtain ⟨rfl, closed⟩ := eq_of_nameLists parts others left
      exact ⟨rfl, (List.cons.inj closed).2⟩

/-- The names of a list tell its requirements, up to the bracket that closes it. -/
theorem eq_of_nameLists : ∀ (parts others : List Requirement) {rest more : List Char},
    (nameList parts).toList ++ ')' :: rest = (nameList others).toList ++ ')' :: more →
    parts = others ∧ rest = more
  | [], [], rest, more, same => ⟨rfl, (List.cons.inj same).2⟩
  | [], other :: others, rest, more, same => by
    obtain ⟨c, tail, begins, letter⟩ := exists_letter other
    rw [toList_nameList, begins] at same
    cases (List.cons.inj same).1
    cases letter
  | part :: parts, [], rest, more, same => by
    obtain ⟨c, tail, begins, letter⟩ := exists_letter part
    rw [toList_nameList, begins] at same
    cases (List.cons.inj same).1
    cases letter
  | part :: parts, other :: others, rest, more, same => by
    rw [toList_nameList, toList_nameList, List.append_assoc, List.append_assoc] at same
    obtain ⟨rfl, left⟩ := eq_of_names part other (outside_moreNames parts rest)
      (outside_moreNames others more) same
    -- A comma follows where there are further names, and the closing bracket where there are none.
    match parts, others with
    | [], [] => exact ⟨rfl, (List.cons.inj left).2⟩
    | [], _ :: _ | _ :: _, [] => cases (List.cons.inj left).1
    | next :: parts, nextOther :: others =>
      have inside := (List.cons.inj (List.cons.inj left).2).2
      obtain ⟨alike, closed⟩ := eq_of_nameLists (next :: parts) (nextOther :: others) inside
      exact ⟨congrArg (part :: ·) alike, closed⟩

end

theorem name_injective (same : requirement.name = other.name) : requirement = other := by
  refine (eq_of_names requirement other Text.outside_nil Text.outside_nil ?_).1
  rw [same]

end Requirement

namespace Context

/-- An error is told by its text. -/
theorem message_unmet_iff {requirement unmet : Requirement} :
    (ContextError.unmet unmet).message =
        "Context does not meet requirement " ++ requirement.name ++ "!" ↔
      requirement = unmet := by
  have sameName : (ContextError.unmet unmet).message =
      "Context does not meet requirement " ++ requirement.name ++ "!" ↔
        unmet.name = requirement.name :=
    (String.append_left_inj "!").trans (String.append_right_inj _)
  rw [sameName]
  exact ⟨fun same => (Requirement.name_injective same).symm, fun same => congrArg _ same.symm⟩

theorem require_fails_iff {context : Context} {requirements : List Requirement} :
    (∃ error, context.require requirements = .error error) ↔
      ∃ requirement ∈ requirements, requirement.metBy context = false := by
  constructor
  · rintro ⟨error, failed⟩
    obtain ⟨unmet, ⟨before, after, rfl, -, fails⟩, -⟩ := require_eq_error_iff.mp failed
    exact ⟨unmet, List.mem_append_right before List.mem_cons_self, fails⟩
  · rintro ⟨requirement, member, fails⟩
    cases checked : context.require requirements with
    | error error => exact ⟨error, rfl⟩
    | ok =>
      have met := require_eq_ok_iff.mp checked requirement member
      cases fails.symm.trans met

/-- Requirements can be told by their names, however their parts are nested. Checking a context
against a list of them fails exactly if it does not meet one of the list, and the text of the error
names the first of these and no other requirement. -/
theorem error_names_first_unmet :
    (∀ requirement other : Requirement, requirement.name = other.name ↔ requirement = other) ∧
    ∀ (context : Context) (requirements : List Requirement),
      ((∃ error, context.require requirements = .error error) ↔
        ∃ requirement ∈ requirements, requirement.metBy context = false) ∧
      ∀ error, context.require requirements = .error error ↔
        ∃ unmet, context.FirstUnmet requirements unmet ∧ error = .unmet unmet ∧
          ∀ requirement : Requirement,
            error.message = "Context does not meet requirement " ++ requirement.name ++ "!" ↔
              requirement = unmet := by
  refine ⟨fun requirement other => ⟨Requirement.name_injective, congrArg _⟩,
    fun context requirements => ⟨require_fails_iff, fun error => ?_⟩⟩
  rw [require_eq_error_iff]
  constructor
  · rintro ⟨unmet, first, rfl⟩
    exact ⟨unmet, first, rfl, fun requirement => message_unmet_iff⟩
  · rintro ⟨unmet, first, same, -⟩
    exact ⟨unmet, first, same⟩

end Context

end Switchboard
