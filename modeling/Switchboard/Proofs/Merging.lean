import Mathlib.Data.List.Chain
import Mathlib.Data.List.Induction
import Mathlib.Tactic.Common
import Switchboard.Message

/-! Messages in normal form: no text in them is empty and no two texts meet. Pushing a segment keeps
the form, so every message that is built by pushing has it, and it makes no difference whether a
text is pushed in one piece or in several. -/
namespace Switchboard

def Segment.isText : Segment → Bool
  | text _ => true
  | link _ | emoji _ => false

namespace Message

/-- No text is empty, and no two texts stand side by side. -/
structure Normal (message : Message) : Prop where
  filled : Segment.text "" ∉ message.segments
  apart : message.segments.IsChain fun first second =>
    ¬(first.isText = true ∧ second.isText = true)

variable {message : Message} {value : String}

/-! ## Where a text goes -/

theorem joinText_concat_text (value last : String) (segments : List Segment) :
    joinText value (segments ++ [.text last]) = segments ++ [.text (last ++ value)] := by
  induction segments with
  | nil => rfl
  | cons first rest ih =>
    -- There is a second segment, so the text goes behind it.
    obtain ⟨second, others, more⟩ : ∃ second others, rest ++ [.text last] = second :: others :=
      List.exists_cons_of_ne_nil (by simp)
    rw [List.cons_append, more, joinText, ← more, ih, List.cons_append]

theorem joinText_concat_other (value : String) (segments : List Segment) {segment : Segment}
    (other : segment.isText = false) :
    joinText value (segments ++ [segment]) = segments ++ [segment, .text value] := by
  induction segments with
  | nil => cases segment <;> first | rfl | cases other
  | cons first rest ih =>
    obtain ⟨second, others, more⟩ : ∃ second others, rest ++ [segment] = second :: others :=
      List.exists_cons_of_ne_nil (by simp)
    rw [List.cons_append, more, joinText, ← more, ih, List.cons_append]

/-- A text goes into the last segment, if that is a text, and behind all segments if not. -/
theorem joinText_cases (segments : List Segment) :
    (∃ front last, segments = front ++ [.text last] ∧
      ∀ value, joinText value segments = front ++ [.text (last ++ value)]) ∨
    (∀ last ∈ segments.getLast?, last.isText = false) ∧
      ∀ value, joinText value segments = segments ++ [.text value] := by
  rcases List.eq_nil_or_concat segments with rfl | ⟨front, last, rfl⟩
  · right
    exact ⟨by simp, fun _ => rfl⟩
  · cases kind : last.isText with
    | true =>
      left
      cases last with
      | text last => exact ⟨front, last, by simp, fun value => by simp [joinText_concat_text]⟩
      | link | emoji => cases kind
    | false =>
      right
      refine ⟨by simp [kind], fun value => ?_⟩
      simp [joinText_concat_other value front kind]

theorem push_blank (message : Message) : message.push (.text "") = message := rfl

theorem push_text (filled : value ≠ "") :
    message.push (.text value) = ⟨joinText value message.segments⟩ := by
  rw [push, if_neg (by simpa using filled)]

theorem exists_push_text (message : Message) (filled : value ≠ "") :
    ∃ front last, (message.push (.text value)).segments = front ++ [.text (last ++ value)] ∧
      front ⊆ message.segments ∧
      (last = "" ∨ message.segments.getLast? = some (.text last)) := by
  rw [push_text filled]
  rcases joinText_cases message.segments with ⟨front, last, same, joined⟩ | ⟨-, joined⟩
  · rw [same]
    exact ⟨front, last, same ▸ joined value, List.subset_append_left _ _, .inr List.getLast?_concat⟩
  · exact ⟨message.segments, "", by rw [joined, String.empty_append], List.Subset.refl _, .inl rfl⟩

/-- A text may be pushed in two pieces. -/
theorem push_text_append (message : Message) (first second : String) :
    message.push (.text (first ++ second)) =
      (message.push (.text first)).push (.text second) := by
  by_cases noFirst : first = ""
  · subst noFirst
    rw [String.empty_append, push_blank]
  by_cases noSecond : second = ""
  · subst noSecond
    rw [String.append_empty, push_blank]
  have filled : first ++ second ≠ "" := by simp [noFirst]
  rw [push_text filled, push_text noFirst, push_text noSecond]
  rcases joinText_cases message.segments with ⟨front, last, -, joined⟩ | ⟨-, joined⟩
  · rw [joined, joined, joinText_concat_text, String.append_assoc]
  · rw [joined, joined, joinText_concat_text]

theorem push_other {segment : Segment} (other : segment.isText = false) :
    message.push segment = ⟨message.segments ++ [segment]⟩ := by
  cases segment <;> first | rfl | cases other

theorem ofSegments_concat (front : List Segment) (last : Segment) :
    ofSegments (front ++ [last]) = (ofSegments front).push last := by
  rw [ofSegments, List.foldl_append]
  rfl

/-! ## What is not text -/

section

variable {α : Type u} {f : Segment → Option α}

/-- Merging is felt by text only. -/
theorem filterMap_push (textless : ∀ value, f (.text value) = none) (message : Message)
    (segment : Segment) :
    (message.push segment).segments.filterMap f =
      message.segments.filterMap f ++ [segment].filterMap f := by
  cases segment with
  | link value | emoji value => exact List.filterMap_append
  | text value =>
    have nothing : [Segment.text value].filterMap f = [] := by simp [textless]
    rw [nothing, List.append_nil]
    by_cases blank : value = ""
    · subst blank
      rfl
    rw [push_text blank]
    rcases joinText_cases message.segments with ⟨front, last, same, joined⟩ | ⟨-, joined⟩
    · rw [joined, same]
      simp [textless]
    · rw [joined]
      simp [textless]

theorem filterMap_ofSegments (textless : ∀ value, f (.text value) = none)
    (segments : List Segment) :
    (ofSegments segments).segments.filterMap f = segments.filterMap f := by
  induction segments using List.reverseRecOn with
  | nil => rfl
  | append_singleton front last ih =>
    rw [ofSegments_concat, filterMap_push textless, ih, List.filterMap_append]

end

/-! ## Normal forms -/

theorem normal_empty : empty.Normal := ⟨nofun, .nil⟩

theorem Normal.concat (normal : message.Normal) {segment : Segment}
    (filled : segment ≠ .text "")
    (other : segment.isText = false ∨ ∀ last ∈ message.segments.getLast?, last.isText = false) :
    (⟨message.segments ++ [segment]⟩ : Message).Normal := by
  constructor
  · simpa [Ne.symm filled] using normal.filled
  · apply normal.apart.append (List.isChain_singleton segment)
    intro last ends next here
    simp only [List.head?_cons, Option.mem_some_iff] at here
    subst here
    rintro ⟨text, also⟩
    rcases other with other | other
    · cases other.symm.trans also
    · cases (other last ends).symm.trans text

theorem Normal.push (normal : message.Normal) (segment : Segment) :
    (message.push segment).Normal := by
  cases segment with
  | link value | emoji value => exact normal.concat (by simp) (.inl rfl)
  | text value =>
    by_cases blank : value = ""
    · subst blank
      exact normal
    rw [push_text blank]
    rcases joinText_cases message.segments with ⟨front, last, same, joined⟩ | ⟨other, joined⟩
    · obtain ⟨filled, apart⟩ := normal
      rw [same] at filled apart
      obtain ⟨before, -, meets⟩ := List.isChain_append.mp apart
      rw [joined]
      constructor
      · have longer : last ++ value ≠ "" := by simp [blank]
        simp_all
      · -- The last segment is a text as before.
        exact before.append (List.isChain_singleton _) (by simpa [Segment.isText] using meets)
    · rw [joined]
      exact normal.concat (by simpa using blank) (.inr other)

theorem normal_ofSegments (segments : List Segment) : (ofSegments segments).Normal :=
  List.foldlRecOn (motive := Normal) segments _ normal_empty
    fun _ normal segment _ => normal.push segment

theorem Normal.of_concat {front : List Segment} {last : Segment}
    (normal : (⟨front ++ [last]⟩ : Message).Normal) :
    (⟨front⟩ : Message).Normal ∧ last ≠ .text "" ∧
      (last.isText = true → ∀ segment ∈ front.getLast?, segment.isText = false) := by
  obtain ⟨filled, apart⟩ := normal
  rw [List.mem_append, not_or, List.mem_singleton] at filled
  obtain ⟨before, -, meets⟩ := List.isChain_append.mp apart
  refine ⟨⟨filled.1, before⟩, Ne.symm filled.2, fun text segment ends => ?_⟩
  exact eq_false_of_ne_true fun also => meets segment ends last rfl ⟨also, text⟩

/-- Pushing what a message in normal form is made of makes the message again. -/
theorem Normal.ofSegments_eq (normal : message.Normal) : ofSegments message.segments = message := by
  obtain ⟨segments⟩ := message
  induction segments using List.reverseRecOn with
  | nil => rfl
  | append_singleton front last ih =>
    obtain ⟨before, filled, apart⟩ := normal.of_concat
    change ofSegments (front ++ [last]) = _
    rw [ofSegments_concat, ih before]
    cases last with
    | link | emoji => rfl
    | text value =>
      have some : value ≠ "" := fun blank => filled (blank ▸ rfl)
      rw [push_text some]
      rcases joinText_cases front with ⟨others, last, rfl, -⟩ | ⟨-, joined⟩
      · cases apart rfl (.text last) (by simp)
      · rw [joined]

end Message

end Switchboard
