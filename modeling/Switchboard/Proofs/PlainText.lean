import Mathlib.Data.List.Basic
import Mathlib.Tactic.Common
import Switchboard.Message.Links
import Switchboard.Template

/-! What a message reads without its markup. Pushing and appending put one text behind the other,
reading raw text keeps every character of it, and a template that has a place for the message
shows it whole. -/
namespace Switchboard

namespace Message

variable {message body : Message}

theorem join_joinText (value : String) (segments : List Segment) :
    String.join ((joinText value segments).map Segment.value) =
      String.join (segments.map Segment.value) ++ value := by
  fun_induction joinText value segments with
  | case1 => simp [Segment.value]
  | case2 last => simp [Segment.value]
  | case3 last => simp [Segment.value]
  | case4 first second rest ih =>
    rw [List.map_cons, String.join_cons, ih, ← String.append_assoc, ← String.join_cons,
      ← List.map_cons]

theorem plainText_push (message : Message) (segment : Segment) :
    (message.push segment).plainText = message.plainText ++ segment.value := by
  cases segment with
  | text value =>
    change (if value.isEmpty then message else ⟨joinText value message.segments⟩).plainText = _
    split
    case isTrue blank =>
      have nothing : value = "" := String.isEmpty_iff.mp blank
      rw [nothing, Segment.value, String.append_empty]
    case isFalse => exact join_joinText value message.segments
  | link value | emoji value => simp [push, plainText, Segment.value]

theorem plainText_foldl_push (segments : List Segment) (message : Message) :
    (segments.foldl push message).plainText =
      message.plainText ++ String.join (segments.map Segment.value) := by
  induction segments generalizing message with
  | nil => simp
  | cons first rest ih =>
    rw [List.foldl_cons, ih, plainText_push, List.map_cons, String.join_cons,
      String.append_assoc]

theorem plainText_append (message other : Message) :
    (message.append other).plainText = message.plainText ++ other.plainText :=
  plainText_foldl_push other.segments message

/-! ## Raw text -/

theorem value_ofWord (word : List Char) : (ofWord word).value = String.ofList word := by
  unfold ofWord
  split <;> rfl

theorem join_ofWords (words : List (List Char)) :
    String.join ((ofWords words).map Segment.value) =
      String.ofList ([' '].intercalate words) := by
  fun_induction ofWords words with
  | case1 => rfl
  | case2 word => simp [value_ofWord]
  | case3 word rest more ih =>
    obtain ⟨second, later, rfl⟩ := List.exists_cons_of_ne_nil more
    rw [List.map_cons, List.map_cons, String.join_cons, String.join_cons, ih, value_ofWord,
      List.intercalate_cons_cons]
    simp [Segment.value]

/-- A parsed text reads as it was written. -/
theorem plainText_parse (raw : String) : (parse raw).plainText = raw := by
  have cut : [' '].intercalate (raw.toList.splitOn ' ') = raw.toList :=
    List.intercalate_splitOn ' '
  have read : (parse raw).plainText =
      String.join ((ofWords (raw.toList.splitOn ' ')).map Segment.value) := by
    rw [parse, ofSegments, plainText_foldl_push]
    exact String.empty_append
  rw [read, join_ofWords, cut, String.ofList_toList]

/-! ## A message within another -/

/-- What `body` reads stands in the message, in one piece. -/
def Shows (message body : Message) : Prop :=
  ∃ before after, message.plainText = before ++ body.plainText ++ after

theorem shows_append (message body : Message) : (message.append body).Shows body := by
  refine ⟨message.plainText, "", ?_⟩
  rw [plainText_append, String.append_empty]

theorem Shows.push (shows : message.Shows body) (segment : Segment) :
    (message.push segment).Shows body := by
  obtain ⟨before, after, reads⟩ := shows
  refine ⟨before, after ++ segment.value, ?_⟩
  rw [plainText_push, reads, String.append_assoc]

theorem Shows.append (shows : message.Shows body) (other : Message) :
    (message.append other).Shows body := by
  obtain ⟨before, after, reads⟩ := shows
  refine ⟨before, after ++ other.plainText, ?_⟩
  rw [plainText_append, reads, String.append_assoc]

end Message

/-! ## Templates -/

namespace Text

variable {word text : List Char}

theorem length_consFirst (c : Char) (pieces : List (List Char)) :
    (consFirst c pieces).length = max 1 pieces.length := by
  cases pieces with
  | nil => rfl
  | cons piece rest =>
    rw [consFirst, List.length_cons, List.length_cons]
    omega

theorem length_pieces_pos (word text : List Char) : 0 < (pieces word text).length := by
  fun_induction pieces word text with
  | case1 => decide
  | case2 | case4 =>
    rw [length_consFirst]
    omega
  | case3 => exact Nat.succ_pos _

/-- A text in which the word stands is cut at least once. -/
theorem two_le_length_pieces (spelled : word ≠ []) (found : holds word text = true) :
    2 ≤ (pieces word text).length := by
  fun_induction pieces word text with
  | case1 => exact absurd (List.isEmpty_iff.mp found) spelled
  | case2 c rest elsewhere ih =>
    have notHere : word.isPrefixOf (c :: rest) = false := by
      rw [← List.isSome_isPrefixOf?_eq_isPrefixOf, elsewhere]
      rfl
    rw [holds, notHere, Bool.false_or] at found
    have cut := ih found
    rw [length_consFirst]
    omega
  | case3 c rest after here shorter ih =>
    have more := length_pieces_pos word after
    rw [List.length_cons]
    omega
  | case4 c rest after here same ih =>
    -- Only the empty word leaves all of the text behind it.
    have whole := congrArg List.length (isPrefixOf?_eq_some here)
    have some := List.length_pos_iff.mpr spelled
    rw [List.length_cons, List.length_append] at whole
    omega

end Text

namespace Template

variable {body : Message} {template : String}

theorem shows_render (values : Values) (body : Message)
    (carries : carriesMessage template = true) : (render values body template).Shows body := by
  have cut : 2 ≤ (Text.pieces messageWord.toList template.toList).length :=
    Text.two_le_length_pieces (by decide) carries
  unfold render
  match Text.pieces messageWord.toList template.toList, cut with
  | first :: second :: rest, _ =>
    -- The first `%message` puts the body in, and the pieces behind it leave it there.
    have spliced := ((Message.empty.push (render.textOf values first)).shows_append body).push
      (render.textOf values second)
    exact List.foldlRecOn (motive := (Message.Shows · body)) rest _ spliced
      fun shown shows piece _ => (shows.append body).push (render.textOf values piece)

end Template

end Switchboard
