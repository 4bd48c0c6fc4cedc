import Mathlib.Data.List.Perm.Basic
import Mathlib.Tactic.Common
import Switchboard.Filter
import Switchboard.Proofs.Shortcodes
import Switchboard.Proofs.Validation

/-! The filter for shortcodes, and which of those that accepted settings add are of use. Settings
are accepted whose names can stand between colons, but the scan knows only names in letters, digits
and three signs, and of names that differ in case it knows the last. -/
namespace Switchboard

namespace Shortcode

/-! ## The filter -/

/-- The filter resolves the shortcodes that the glossary and the standard table know, as one scan
from left to right finds them. What it leaves has no shortcode in it and is left alone. -/
theorem emoji_resolves (glossary : Glossary) (sender : Account) {message : Message}
    (normal : message.Normal) :
    let known := Means Emoji.ofShortcode? glossary
    ∃ (parts : String → List Part) (shown : Message),
      (∀ text found, Scans known text.toList found ↔ found = parts text) ∧
      (∀ text, (parts text).flatMap Part.written = text.toList) ∧
      (MessageFilter.emoji glossary).run sender message = (.ok shown, []) ∧
      shown = .ofSegments (message.segments.flatMap (shownFor parts)) ∧
      (∀ value, .text value ∈ shown.segments → ¬HasCode known value.toList) ∧
      (MessageFilter.emoji glossary).run sender shown = (.ok shown, []) := by
  intro known
  obtain ⟨parts, scans, written, shows, clean, still⟩ :=
    resolveMessage_scans Emoji.ofShortcode? glossary normal
  refine ⟨parts, _, scans, written, rfl, shows, clean, ?_⟩
  exact congrArg (fun shown => (Except.ok shown, [])) still

/-- A colon that closes an unknown name opens the next, and an emoji without a glyph stays. -/
theorem emoji_resolves_overlapping :
    let glossary : Glossary := .ofEntries [("Smile", "☺")]
    let ada : Account := { id := 1, name := "ada" }
    let message : Message := ⟨[.text ":a b:smile:b:", .link "https://x/:smile:", .emoji ""]⟩
    let shown : Message :=
      ⟨[.text ":a b", .emoji "☺", .text "b:", .link "https://x/:smile:", .emoji ""]⟩
    message.Normal ∧ (MessageFilter.emoji glossary).run ada message = (.ok shown, []) ∧
      (MessageFilter.emoji glossary).run ada shown = (.ok shown, []) := by
  intro glossary ada message shown
  have normal : message.Normal := Message.normal_ofSegments message.segments
  obtain ⟨parts, result, -, -, runs, -, -, still⟩ := emoji_resolves glossary ada normal
  have same : MessageFilter.runEmoji glossary message = shown := by decide +kernel
  have reached : shown = result := same.symm.trans (Except.ok.inj (congrArg Prod.fst runs))
  exact ⟨normal, reached ▸ runs, reached ▸ still⟩

/-! ## Custom names -/

/-- The glyph of the last entry that has the name, be it in another case. -/
def glyphUnder (entries : List (String × String)) (name : String) : Option String :=
  (entries.filter fun entry => lowerName entry.1 = lowerName name).getLast?.map Prod.snd

variable {entries order : List (String × String)} {name glyph : String}

theorem lookup_ofEntries (entries : List (String × String)) (name : String) :
    (Glossary.ofEntries entries).lookup (lowerName name) = glyphUnder entries name := by
  induction entries using List.reverseRecOn with
  | nil => rfl
  | append_singleton front last ih =>
    have first : Glossary.ofEntries (front ++ [last]) =
        (lowerName last.1, last.2) :: Glossary.ofEntries front := by
      simp [Glossary.ofEntries]
    rw [first, List.lookup_cons, glyphUnder, List.filter_append]
    by_cases same : lowerName last.1 = lowerName name
    · simp [same]
    · rw [beq_eq_false_iff_ne.mpr (Ne.symm same), ih, glyphUnder]
      simp [same]

theorem exists_glyphUnder (member : (name, glyph) ∈ entries) :
    ∃ last, glyphUnder entries name = some last ∧
      ∃ entry ∈ entries, lowerName entry.1 = lowerName name ∧ entry.2 = last := by
  have kept : (name, glyph) ∈ entries.filter fun entry => lowerName entry.1 = lowerName name :=
    List.mem_filter.mpr ⟨member, decide_eq_true rfl⟩
  have any := List.ne_nil_of_mem kept
  obtain ⟨found, same⟩ := List.mem_filter.mp (List.getLast_mem any)
  refine ⟨_, ?_, _, found, of_decide_eq_true same, rfl⟩
  rw [glyphUnder, List.getLast?_eq_some_getLast any]
  rfl

/-- The name between two colons. -/
def typed (name : String) : Message := .ofText (":" ++ name ++ ":")

variable {glyphOf : List Char → Option String} {known : List Char → String → Prop}

theorem typed_segments (name : String) : (typed name).segments = [.text (":" ++ name ++ ":")] := by
  have filled : ":" ++ name ++ ":" ≠ "" := by simp
  rw [typed, Message.ofText, Message.push_text filled]
  rfl

theorem toList_typed (name : String) :
    (":" ++ name ++ ":").toList = ':' :: (name.toList ++ ':' :: []) := by
  simp

theorem resolveMessage_typed (decided : Decides glyphOf known) (within : ':' ∉ name.toList)
    (means : known name.toList glyph) : resolveMessage glyphOf (typed name) = ⟨[.emoji glyph]⟩ := by
  have scans : Scans known (":" ++ name ++ ":").toList [.token ⟨name.toList, glyph⟩] := by
    rw [toList_typed]
    exact scans_code within means .done
  have one : resolveMessage glyphOf (typed name) =
      resolve glyphOf (":" ++ name ++ ":").toList .empty := by
    rw [resolveMessage, typed_segments]
    rfl
  rw [one, resolve_eq decided scans]
  rfl

theorem resolveMessage_unknown (decided : Decides glyphOf known) (within : ':' ∉ name.toList)
    (unknown : ∀ glyph, ¬known name.toList glyph) :
    resolveMessage glyphOf (typed name) = typed name := by
  have normal : (typed name).Normal := Message.normal_ofSegments [.text (":" ++ name ++ ":")]
  refine resolveMessage_codeless decided normal fun value member => ?_
  rw [typed_segments, List.mem_singleton] at member
  cases member
  rw [toList_typed]
  rintro ⟨suffix, ends, opens⟩
  rcases List.suffix_cons_iff.mp ends with rfl | ends
  · obtain ⟨glyph, means⟩ := (opens_iff within).mp opens
    exact unknown glyph means
  · have few : (name.toList ++ ':' :: []).count ':' < 2 := by
      simp [List.count_eq_zero.mpr within]
    exact codeless_of_count few ⟨suffix, ends, opens⟩

end Shortcode

namespace MessageFilter

open Shortcode

variable {order : List (String × String)} {name glyph : String}

/-- What is shown for the name of an entry, if it is one that the scan knows. -/
theorem run_spelled (sender : Account) (spelled : Spelled name.toList)
    (found : glyphUnder order name = some glyph) :
    (ofShortcodes order).run sender (typed name) = (.ok ⟨[.emoji glyph]⟩, []) := by
  have means : Means Emoji.ofShortcode? (.ofEntries order) name.toList glyph := by
    refine ⟨spelled, ?_⟩
    rw [String.ofList_toList, lookup_ofEntries, found]
    rfl
  have shown := resolveMessage_typed (decides_glyph? _ _) spelled.colonless means
  exact congrArg (fun message => (Except.ok message, [])) shown

theorem run_misspelled (sender : Account) (within : ':' ∉ name.toList)
    (misspelled : ¬Spelled name.toList) :
    (ofShortcodes order).run sender (typed name) = (.ok (typed name), []) := by
  have shown : runEmoji (.ofEntries order) (typed name) = typed name :=
    resolveMessage_unknown (decides_glyph? _ _) within fun _ means => misspelled means.spelled
  exact congrArg (fun message => (Except.ok message, [])) shown

theorem run_misspelled_ne (sender : Account) (within : ':' ∉ name.toList)
    (misspelled : ¬Spelled name.toList) :
    (ofShortcodes order).run sender (typed name) ≠ (.ok ⟨[.emoji glyph]⟩, []) := by
  rw [run_misspelled sender within misspelled]
  intro same
  have segments := congrArg Message.segments (Except.ok.inj (congrArg Prod.fst same))
  rw [typed_segments] at segments
  cases segments

end MessageFilter

namespace Config

open Shortcode

variable {config : Config} {name glyph : String}

theorem colonless_of_accepted (accepted : config.validate = .ok ())
    (configured : (name, glyph) ∈ config.shortcodes) : ':' ∉ name.toList := by
  have valid : isShortcodeName name = true :=
    (validate_eq_ok_iff.mp accepted).1.shortcodes _ configured
  rw [isShortcodeName, Bool.and_eq_true, List.all_eq_true] at valid
  intro member
  have apart := valid.2 ':' member
  cases apart

theorem exists_order_last {entry : String × String} (configured : entry ∈ config.shortcodes)
    (same : lowerName entry.1 = lowerName name) :
    ∃ order, order.Perm config.shortcodes ∧ glyphUnder order name = some entry.2 := by
  refine ⟨config.shortcodes.erase entry ++ [entry], ?_, ?_⟩
  · exact (List.perm_append_singleton _ _).trans (List.perm_cons_erase configured).symm
  · simp [glyphUnder, same]

/-- An entry of accepted settings is of use, in whatever order the entries are read, exactly if its
name is spelled as the scan knows names and all entries that have the name have its glyph. Else what
is typed stays as it is, or shows the glyph of the entry that was read last. -/
theorem shortcode_works_iff (accepted : config.validate = .ok ())
    (configured : (name, glyph) ∈ config.shortcodes) (sender : Account) :
    let shown (order : List (String × String)) :=
      (MessageFilter.ofShortcodes order).run sender (typed name)
    (∀ order, order.Perm config.shortcodes →
      (Spelled name.toList → ∃ last, glyphUnder order name = some last ∧
        shown order = (.ok ⟨[.emoji last]⟩, [])) ∧
      (¬Spelled name.toList → shown order = (.ok (typed name), []))) ∧
    ((∀ order, order.Perm config.shortcodes → shown order = (.ok ⟨[.emoji glyph]⟩, [])) ↔
      Spelled name.toList ∧ ∀ entry ∈ config.shortcodes,
        lowerName entry.1 = lowerName name → entry.2 = glyph) := by
  intro shown
  have within := colonless_of_accepted accepted configured
  refine ⟨fun order reordered => ⟨fun spelled => ?_, MessageFilter.run_misspelled sender within⟩,
    fun works => ?_, ?_⟩
  · obtain ⟨last, found, -⟩ := exists_glyphUnder (reordered.mem_iff.mpr configured)
    exact ⟨last, found, MessageFilter.run_spelled sender spelled found⟩
  · have spelled : Spelled name.toList := by
      by_contra misspelled
      exact MessageFilter.run_misspelled_ne sender within misspelled (works _ (.refl _))
    refine ⟨spelled, fun entry member same => ?_⟩
    obtain ⟨order, reordered, found⟩ := exists_order_last member same
    have shows := MessageFilter.run_spelled sender spelled found
    cases shows.symm.trans (works order reordered)
    rfl
  · rintro ⟨spelled, alike⟩ order reordered
    obtain ⟨last, found, entry, member, same, rfl⟩ :=
      exists_glyphUnder (reordered.mem_iff.mpr configured)
    have own := alike entry (reordered.mem_iff.mp member) same
    exact (MessageFilter.run_spelled sender spelled found).trans (by rw [own])

/-- Two entries that have one name in two cases agree on its glyph. -/
theorem shortcode_works_shouted :
    let config : Config := { shortcodes := [("Heart", "<3"), ("wow!", "W"), ("HEART", "<3")] }
    let ada : Account := { id := 1, name := "ada" }
    config.validate = .ok () ∧ ("Heart", "<3") ∈ config.shortcodes ∧
      ∀ order, order.Perm config.shortcodes →
        (MessageFilter.ofShortcodes order).run ada (typed "Heart") = (.ok ⟨[.emoji "<3"]⟩, []) := by
  intro config ada
  have accepted : config.validate = .ok () := validate_of_problems.mpr (by decide +kernel)
  have configured : ("Heart", "<3") ∈ config.shortcodes := List.mem_cons_self
  have spelled : Spelled "Heart".toList := isName_iff.mp (by decide)
  have alike : ∀ entry ∈ config.shortcodes,
      lowerName entry.1 = lowerName "Heart" → entry.2 = "<3" := by decide
  exact ⟨accepted, configured,
    (shortcode_works_iff accepted configured ada).2.mpr ⟨spelled, alike⟩⟩

/-- That settings are accepted does not mean that all their shortcodes are of use: a name may have
signs in it that the scan takes for no part of a name. -/
theorem shortcode_not_every :
    ¬∀ (config : Config) (order : List (String × String)) (name glyph : String) (sender : Account),
      config.validate = .ok () → order.Perm config.shortcodes →
        (name, glyph) ∈ config.shortcodes →
          (MessageFilter.ofShortcodes order).run sender (typed name) =
            (.ok ⟨[.emoji glyph]⟩, []) := by
  intro every
  let config : Config := { shortcodes := [("wow!", "W")] }
  let ada : Account := { id := 1, name := "ada" }
  have accepted : config.validate = .ok () := validate_of_problems.mpr (by decide +kernel)
  have misspelled : ¬Spelled "wow!".toList := mt isName_iff.mpr (by decide)
  exact MessageFilter.run_misspelled_ne ada (by decide) misspelled
    (every config config.shortcodes "wow!" "W" ada accepted (.refl _) List.mem_cons_self)

end Config

end Switchboard
