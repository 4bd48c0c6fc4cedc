import Mathlib.Tactic.Common
import Switchboard.Filter
import Switchboard.Proofs.Links
import Switchboard.Proofs.Shortcodes

/-! Messages joined to each other. Whatever the operations on messages make is in normal form, and
they make every normal form. Joining is associative with the empty message as its unit, and what a
message reads is what its parts read, one behind the other. -/
namespace Switchboard.Message

/-! ## Joining -/

section

variable {message : Message}

/-- What is pushed onto the joined message is pushed onto the whole. -/
theorem append_push (first message : Message) (segment : Segment) :
    first.append (message.push segment) = (first.append message).push segment := by
  have behind (segment : Segment) :
      first.append ⟨message.segments ++ [segment]⟩ = (first.append message).push segment :=
    List.foldl_append
  cases segment with
  | link value | emoji value => exact behind _
  | text value =>
    by_cases blank : value = ""
    · subst blank
      rfl
    rw [push_text blank]
    rcases joinText_cases message.segments with ⟨front, last, same, joined⟩ | ⟨-, joined⟩
    · -- The text at the end is pushed in one piece, and then in two.
      rw [joined, append, append, same, List.foldl_append, List.foldl_append]
      exact push_text_append _ last value
    · rw [joined]
      exact behind _

theorem append_foldl_push (first message : Message) (segments : List Segment) :
    first.append (segments.foldl push message) = segments.foldl push (first.append message) := by
  induction segments generalizing message with
  | nil => rfl
  | cons segment rest ih => rw [List.foldl_cons, List.foldl_cons, ih, append_push]

theorem append_assoc (first second third : Message) :
    (first.append second).append third = first.append (second.append third) :=
  (append_foldl_push first second third.segments).symm

theorem append_empty (message : Message) : message.append empty = message := rfl

theorem Normal.empty_append (normal : message.Normal) : empty.append message = message :=
  normal.ofSegments_eq

theorem ofSegments_append (segments others : List Segment) :
    ofSegments (segments ++ others) = (ofSegments segments).append (ofSegments others) := by
  rw [ofSegments, List.foldl_append]
  exact (append_foldl_push (ofSegments segments) empty others).symm

/-! ## What a message reads -/

theorem display_eq (message : Message) : message.display = message.plainText := by
  rw [display, plainText, String.join, List.foldl_map]

/-! ## Messages in normal form -/

theorem Normal.append (normal : message.Normal) (other : Message) :
    (message.append other).Normal :=
  List.foldlRecOn (motive := Normal) other.segments _ normal
    fun _ normal segment _ => normal.push segment

theorem normal_render (values : Template.Values) (body : Message) (template : String) :
    (Template.render values body template).Normal := by
  unfold Template.render
  split
  · exact normal_empty
  · exact List.foldlRecOn (motive := Normal) _ _ (normal_empty.push _)
      fun _ normal _ _ => (normal.append body).push _

end

/-- The messages that the operations on messages make. -/
inductive Made : Message → Prop where
  | ofSegments (segments : List Segment) : Made (.ofSegments segments)
  | ofText (value : String) : Made (.ofText value)
  | push (made : Made message) (segment : Segment) : Made (message.push segment)
  | append (made : Made message) (madeOther : Made other) : Made (message.append other)
  | parse (raw : String) : Made (.parse raw)
  | render (clock : Clock) (context : Context) (template : String)
      (made : ∀ body ∈ context.rendered, Made body) :
      Made (Template.renderContext clock context template)
  | resolve (glossary : Shortcode.Glossary) (sender : Account) (made : Made message)
      (runs : (MessageFilter.emoji glossary).run sender message = (.ok other, edits)) : Made other

theorem made_iff_normal {message : Message} : Made message ↔ message.Normal := by
  constructor
  · intro made
    induction made with
    | ofSegments segments => exact normal_ofSegments segments
    | ofText value => exact normal_empty.push _
    | push _ segment normal => exact normal.push segment
    | append _ _ normal _ => exact normal.append _
    | parse raw => exact normal_ofSegments _
    | render clock context template => exact normal_render _ _ template
    | resolve glossary _ _ runs =>
      cases runs
      exact Shortcode.normal_resolveMessage (Shortcode.decides_glyph? _ glossary) _
  · intro normal
    rw [← normal.ofSegments_eq]
    exact .ofSegments message.segments

/-- The operations make the messages in normal form and no others, and they keep links and emoji,
empty ones included. Joining is associative, the empty message is its unit, and segments in two
parts make what the parts make, joined. A message is what its own segments make, it reads what its
parts read, and it is written out as it reads. -/
theorem made_messages_join :
    (∀ message, Made message ↔ message.Normal) ∧
    (∀ (message : Message) segment, segment.isText = false →
      (message.push segment).segments = message.segments ++ [segment]) ∧
    (∀ first second third : Message,
      (first.append second).append third = first.append (second.append third)) ∧
    (∀ message : Message, message.append empty = message) ∧
    (∀ message : Message, message.Normal → empty.append message = message) ∧
    (∀ segments others : List Segment,
      ofSegments (segments ++ others) = (ofSegments segments).append (ofSegments others)) ∧
    (∀ message : Message, message.Normal → ofSegments message.segments = message) ∧
    empty.plainText = "" ∧
    (∀ message other : Message,
      (message.append other).plainText = message.plainText ++ other.plainText) ∧
    ∀ message : Message, message.display = message.plainText := by
  refine ⟨fun _ => made_iff_normal, fun message segment other => ?_, append_assoc, append_empty,
    fun _ normal => normal.empty_append, ofSegments_append, fun _ normal => normal.ofSegments_eq,
    rfl, plainText_append, display_eq⟩
  rw [push_other other]

/-- Where two messages meet, texts become one; links and emoji stay, even those that show
nothing. -/
example : (append ⟨[.link "", .text "a"]⟩ ⟨[.text "b", .emoji ""]⟩).segments =
    [.link "", .text "ab", .emoji ""] := by decide

end Switchboard.Message
