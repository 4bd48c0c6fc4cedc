import Mathlib.Tactic.Common
import Switchboard.Event.Reader
import Switchboard.Proofs.Rereading
import Switchboard.Proofs.Standing

/-! Lines that tell of events. Such a line is an object that names the kind of the event and its
fields in some order, whatever white space and escapes it is written with. Members that the event
does not know make no difference and those that it knows stand there once, so one line cannot tell
of two events. -/
namespace Switchboard

theorem Channel.ofName?_name (channel : Channel) : ofName? channel.name = some channel := by
  cases channel <;> rfl

theorem Permission.ofName?_name (permission : Permission) :
    ofName? permission.name = some permission := by
  cases permission <;> rfl

namespace Event

/-! ## Members -/

namespace Fields

variable {fields : Fields} {name : String} {value : Json}

/-- The values of all members of that name, in order. -/
def named (fields : Fields) (name : String) : List Json :=
  (fields.filter fun field => field.1 == name).map Prod.snd

theorem mem_named : value ∈ fields.named name ↔ (name, value) ∈ fields := by
  simp [named]

theorem once_iff : fields.once name = true ↔ (fields.named name).length ≤ 1 := by
  simp [once, named]

theorem lookup_eq_head? (fields : Fields) (name : String) :
    fields.lookup name = (fields.named name).head? := by
  rw [named, List.head?_map, List.head?_filter]
  induction fields with
  | nil => rfl
  | cons field rest ih =>
    rw [List.lookup_cons, List.find?_cons, Bool.beq_comm]
    cases field.1 == name with
    | true => rfl
    | false => exact ih

theorem lookup_of_named {others : List Json} (single : fields.named name = value :: others) :
    fields.lookup name = some value := by
  rw [lookup_eq_head?, single, List.head?_cons]

theorem lookup_of_unnamed (absent : fields.named name = []) : fields.lookup name = none := by
  rw [lookup_eq_head?, absent, List.head?_nil]

theorem named_of_once (single : fields.once name = true) (member : (name, value) ∈ fields) :
    fields.named name = [value] := by
  have least := mem_named.mpr member
  match named : fields.named name, once_iff.mp single with
  | [], _ =>
    rw [named] at least
    cases least
  | [other], _ =>
    rw [named] at least
    rw [List.mem_singleton.mp least]
  | _ :: _ :: _, most => simp only [List.length_cons] at most; omega

theorem named_of_distinct (distinct : (fields.map Prod.fst).Nodup)
    (member : (name, value) ∈ fields) : fields.named name = [value] := by
  have most := List.nodup_iff_count_le_one.mp distinct name
  rw [List.count, List.countP_map, List.countP_eq_length_filter] at most
  exact named_of_once (decide_eq_true most) member

end Fields

/-! ## Objects -/

/-- The names that the event's kind knows. -/
def names (event : Event) : List String := "event" :: event.fields.map Prod.fst

/-- What stands in a field that may as well be left out. -/
def Omissible (value : Json) : Prop := value = .null ∨ value = .array []

/-- A string, a truth value or null. -/
def Simple : Json → Prop
  | .null | .bool _ | .string _ => True
  | _ => False

/-- The members of an object tell of the event: one names its kind and, for each of its fields, one
has the field's value, or none where the field may be left out. Others are simple. -/
structure ToldBy (event : Event) (members : Fields) : Prop where
  kind : members.named "event" = [.string event.kind]
  field : ∀ field ∈ event.fields, members.named field.1 = [field.2] ∨
    Omissible field.2 ∧ members.named field.1 = []
  other : ∀ member ∈ members, member.1 ∉ event.names → Simple member.2

/-- Ids and minutes are numbers of 64 bits, minutes with a sign. -/
def Fits : Event → Prop
  | connect id .. | disconnect id | switch id _ | chat id .. | alert id _ | prefer id _
  | vanish id _ | spy id .. => id < Word.limit
  | direct id target _ | ignore id target | unignore id target =>
    id < Word.limit ∧ target < Word.limit
  | mute id minutes => id < Word.limit ∧ ∀ count ∈ minutes, Word.fitsSigned count = true
  | toggle .. => True

variable {event : Event} {members : Fields} {name : String}

namespace ToldBy

theorem required (told : event.ToldBy members) {value : Json}
    (field : (name, value) ∈ event.fields) (needed : ¬Omissible value) (read : Json → Option α) :
    members.required name read = read value := by
  obtain single | ⟨omissible, -⟩ := told.field _ field
  · rw [Fields.required, Fields.lookup_of_named single, Option.bind_some]
  · exact absurd omissible needed

theorem required_id (told : event.ToldBy members) {id : AccountId}
    (field : (name, .ofNat id) ∈ event.fields) : members.required name readId? = some id :=
  told.required field (by simp [Omissible, Json.ofNat]) readId?

theorem required_text (told : event.ToldBy members) {text : String}
    (field : (name, .string text) ∈ event.fields) :
    members.required name readText? = some text :=
  told.required field (by simp [Omissible]) readText?

theorem required_bool (told : event.ToldBy members) {value : Bool}
    (field : (name, .bool value) ∈ event.fields) :
    members.required name readBool? = some value :=
  told.required field (by simp [Omissible]) readBool?

theorem required_feature (told : event.ToldBy members) {feature : Feature}
    (field : (name, .string feature.name) ∈ event.fields) :
    members.required name readFeature? = some feature :=
  (told.required field (by simp [Omissible]) readFeature?).trans feature.ofName?_name

theorem optional (told : event.ToldBy members) {content : Option α} {write : α → Json}
    {read : Json → Option α} (field : (name, .ofOption write content) ∈ event.fields)
    (reads : ∀ value ∈ content, read (write value) = some value) (notNull : read .null = none)
    (notEmpty : read (.array []) = none) : members.optional name read = some content := by
  -- What is read as a value is neither null nor empty, so only `none` can be left out.
  have needed : ∀ value ∈ content, ¬Omissible (write value) := by
    rintro value member (null | empty)
    · cases (null ▸ reads value member).symm.trans notNull
    · cases (empty ▸ reads value member).symm.trans notEmpty
  obtain single | ⟨omissible, absent⟩ := told.field _ field
  · rw [Fields.optional, Fields.lookup_of_named single]
    cases content with
    | none => rfl
    | some value =>
      rw [Json.ofOption]
      split
      case h_1 none => cases none
      case h_2 null => exact absurd (.inl (Option.some.inj null)) (needed value rfl)
      case h_3 stated _ same =>
        cases same
        rw [reads value rfl, Option.map_some]
  · rw [Fields.optional, Fields.lookup_of_unnamed absent]
    cases content with
    | none => rfl
    | some value => exact absurd omissible (needed value rfl)

theorem optional_channel (told : event.ToldBy members) {channel : Option Channel}
    (field : (name, channelJson channel) ∈ event.fields) :
    members.optional name readChannel? = some channel :=
  told.optional field (fun channel _ => channel.ofName?_name) rfl rfl

theorem optional_bool (told : event.ToldBy members) {value : Option Bool}
    (field : (name, .ofOption .bool value) ∈ event.fields) :
    members.optional name readBool? = some value :=
  told.optional field (fun _ _ => rfl) rfl rfl

theorem orElse_permissions (told : event.ToldBy members) {permissions : List Permission}
    (field : (name, .array (permissions.map fun permission => .string permission.name)) ∈
      event.fields) :
    members.orElse name readPermissions? [] = some permissions := by
  obtain single | ⟨omissible, absent⟩ := told.field _ field
  · have read : (permissions.map fun permission => Json.string permission.name).mapM
        readPermission? = some (permissions.map id) :=
      mapM_of_reads fun permission _ => permission.ofName?_name
    rw [Fields.orElse, Fields.lookup_of_named single]
    rwa [List.map_id] at read
  · rw [Fields.orElse, Fields.lookup_of_unnamed absent]
    cases permissions with
    | nil => rfl
    | cons permission rest => simp [Omissible] at omissible

end ToldBy

theorem fieldNames?_kind (event : Event) :
    fieldNames? event.kind = some (event.fields.map Prod.fst) := by
  cases event <;> rfl

theorem ofFields?_of_toldBy (fits : event.Fits) (told : event.ToldBy members) :
    ofFields? event.kind members = some event := by
  -- A field is cited by its place in the event, which says nothing about its place on the line.
  cases event with
  | connect id name server permissions channel =>
    have server : members.optional "server" readText? = some server :=
      told.optional (.tail _ (.tail _ (.head _))) (fun _ _ => rfl) rfl rfl
    have permissions : members.orElse "permissions" readPermissions? [] = some permissions :=
      told.orElse_permissions (.tail _ (.tail _ (.tail _ (.head _))))
    have channel : members.optional "channel" readChannel? = some channel :=
      told.optional_channel (.tail _ (.tail _ (.tail _ (.tail _ (.head _)))))
    simp only [kind, ofFields?, told.required_id (.head _), told.required_text (.tail _ (.head _)),
      server, permissions, channel]
    rfl
  | disconnect id =>
    simp only [kind, ofFields?, told.required_id (.head _)]
    rfl
  | switch id server =>
    simp only [kind, ofFields?, told.required_id (.head _), told.required_text (.tail _ (.head _))]
    rfl
  | chat id channel message =>
    simp only [kind, ofFields?, told.required_id (.head _),
      told.optional_channel (.tail _ (.head _)), told.required_text (.tail _ (.tail _ (.head _)))]
    rfl
  | direct id target message =>
    simp only [kind, ofFields?, told.required_id (.head _), told.required_id (.tail _ (.head _)),
      told.required_text (.tail _ (.tail _ (.head _)))]
    rfl
  | alert id message =>
    simp only [kind, ofFields?, told.required_id (.head _), told.required_text (.tail _ (.head _))]
    rfl
  | prefer id channel =>
    simp only [kind, ofFields?, told.required_id (.head _),
      told.optional_channel (.tail _ (.head _))]
    rfl
  | ignore id target | unignore id target =>
    simp only [kind, ofFields?, told.required_id (.head _), told.required_id (.tail _ (.head _))]
    rfl
  | vanish id vanished =>
    simp only [kind, ofFields?, told.required_id (.head _), told.required_bool (.tail _ (.head _))]
    rfl
  | mute id minutes =>
    have minutes : members.optional "minutes" readMinutes? = some minutes :=
      told.optional (.tail _ (.head _)) (fun count some => if_pos (fits.2 count some)) rfl rfl
    simp only [kind, ofFields?, told.required_id (.head _), minutes]
    rfl
  | spy id social nearby =>
    simp only [kind, ofFields?, told.required_id (.head _), told.optional_bool (.tail _ (.head _)),
      told.optional_bool (.tail _ (.tail _ (.head _)))]
    rfl
  | toggle feature enabled =>
    simp only [kind, ofFields?, told.required_feature (.head _),
      told.required_bool (.tail _ (.head _))]
    rfl

theorem ofMembers?_cases (read : ofMembers? members = some event) :
    ∃ kind names, members.lookup "event" = some (.string kind) ∧ fieldNames? kind = some names ∧
      (∀ name ∈ "event" :: names, members.once name = true) ∧
      ofFields? kind members = some event := by
  obtain ⟨kind, named, read⟩ := Option.bind_eq_some_iff.mp read
  obtain ⟨names, known, read⟩ := Option.bind_eq_some_iff.mp read
  obtain ⟨value, found, isText⟩ := Option.bind_eq_some_iff.mp named
  split at read
  case isTrue single =>
    refine ⟨kind, names, ?_, known, List.all_eq_true.mp single, read⟩
    cases value <;> cases isText
    exact found
  case isFalse => cases read

theorem ofMembers?_of_toldBy (fits : event.Fits) (told : event.ToldBy members) :
    ofMembers? members = some event := by
  have kind : members.required "event" readText? = some event.kind := by
    rw [Fields.required, Fields.lookup_of_named told.kind]
    rfl
  have single : ("event" :: event.fields.map Prod.fst).all members.once = true := by
    rw [List.all_cons, List.all_map, Bool.and_eq_true, List.all_eq_true]
    refine ⟨Fields.once_iff.mpr (by simp [told.kind]), fun field member => ?_⟩
    obtain named | ⟨-, named⟩ := told.field field member
    · exact Fields.once_iff.mpr (by simp [named])
    · exact Fields.once_iff.mpr (by simp [named])
  simp only [ofMembers?, kind, fieldNames?_kind, single, Option.bind_eq_bind, Option.bind_some,
    if_true, ofFields?_of_toldBy fits told]

theorem ofMembers?_of_repeated (stated : ("event", .string event.kind) ∈ members)
    (known : name ∈ event.names) (twice : 2 ≤ (members.named name).length) :
    ofMembers? members = none := by
  rw [Option.eq_none_iff_forall_ne_some]
  intro other read
  obtain ⟨kind, names, found, expected, single, -⟩ := ofMembers?_cases read
  -- Another member may come first that names a kind, but then the kind itself is repeated.
  have own := Fields.lookup_of_named (Fields.named_of_once (single "event" (.head _)) stated)
  cases found.symm.trans own
  cases expected.symm.trans event.fieldNames?_kind
  have := Fields.once_iff.mp (single name known)
  omega

/-! ## Depth -/

theorem depth_of_mem_fields {field : String × Json} (member : field ∈ event.fields) :
    field.2.depth ≤ 1 := by
  have channel (channel : Option Channel) : (channelJson channel).depth = 0 :=
    Json.depth_ofOption (fun _ => rfl) channel
  have text (text : Option String) : (Json.ofOption .string text).depth = 0 :=
    Json.depth_ofOption (fun _ => rfl) text
  have bool (value : Option Bool) : (Json.ofOption .bool value).depth = 0 :=
    Json.depth_ofOption (fun _ => rfl) value
  have minutes (minutes : Option Int) : (Json.ofOption .integer minutes).depth = 0 :=
    Json.depth_ofOption (fun _ => rfl) minutes
  have permissions (permissions : List Permission) :
      Json.itemsDepth (permissions.map fun permission => .string permission.name) = 0 :=
    Nat.le_zero.mp (Json.itemsDepth_le (List.forall_mem_map.mpr fun _ _ => Nat.le_refl 0))
  revert field
  cases event <;>
    simp [fields, Json.depth, Json.ofNat, channel, text, bool, minutes, permissions]

theorem depth_of_toldBy (told : event.ToldBy members) :
    (Json.object members).depth ≤ Json.maxDepth := by
  have shallow : Json.membersDepth members ≤ 1 := by
    refine Json.membersDepth_le fun member listed => ?_
    have stated := Fields.mem_named.mpr listed
    by_cases known : member.1 ∈ event.names
    · rcases List.mem_cons.mp known with isKind | known
      · rw [isKind, told.kind] at stated
        rw [List.mem_singleton.mp stated]
        exact Nat.zero_le 1
      · obtain ⟨field, own, same⟩ := List.mem_map.mp known
        rw [← same] at stated
        obtain named | ⟨-, named⟩ := told.field field own
        · rw [named] at stated
          rw [List.mem_singleton.mp stated]
          exact depth_of_mem_fields own
        · rw [named] at stated
          cases stated
    · have simple := told.other member listed known
      cases value : member.2 with
      | null | bool | string => exact Nat.zero_le 1
      | integer | decimal | array | object =>
        rw [value] at simple
        exact simple.elim
  rw [Json.depth, Json.maxDepth]
  omega

/-! ## Lines -/

/-- The line tells of the event, however its object is written. -/
def Tells (event : Event) (line : String) : Prop :=
  ∃ members, Json.Spelled (.object members) line ∧ event.ToldBy members

/-- The line has an object of the event's kind with a repeated member that this kind knows. -/
def Repeats (event : Event) (line : String) : Prop :=
  ∃ members : Fields, Json.Spelled (.object members) line ∧
    ("event", .string event.kind) ∈ members ∧
    ∃ name ∈ event.names, 2 ≤ (members.named name).length

variable {line : String}

theorem read?_of_tells (fits : event.Fits) (tells : event.Tells line) :
    read? line = some event := by
  obtain ⟨members, spelled, told⟩ := tells
  rw [read?, Json.read?_of_spelled spelled, if_pos (depth_of_toldBy told), Option.bind_some]
  exact ofMembers?_of_toldBy fits told

theorem read?_of_repeats (repeats : event.Repeats line) : read? line = none := by
  obtain ⟨members, spelled, stated, name, known, twice⟩ := repeats
  rw [read?, Json.read?_of_spelled spelled]
  split
  · exact ofMembers?_of_repeated stated known twice
  · rfl

theorem toldBy_fields (event : Event) :
    event.ToldBy (("event", .string event.kind) :: event.fields) := by
  have distinct : ("event" :: event.fields.map Prod.fst).Nodup := by
    cases event <;> simp [fields]
  refine ⟨Fields.named_of_distinct distinct (.head _), fun field member => .inl ?_, ?_⟩
  · exact Fields.named_of_distinct distinct (.tail _ member)
  · exact fun member listed unknown => absurd (List.mem_map_of_mem listed) unknown

theorem fitsWord_of_fitsSigned {count : Int} (fits : Word.fitsSigned count = true) :
    Json.FitsWord count := by
  simp only [Word.fitsSigned, Bool.and_eq_true, decide_eq_true_eq] at fits
  have : (Word.signedLimit : Int) < Word.limit := by decide
  exact ⟨fits.1, by omega⟩

theorem whole_toJson (fits : event.Fits) : event.toJson.Whole := by
  have permissions (permissions : List Permission) :
      Json.WholeItems (permissions.map fun permission => .string permission.name) :=
    Json.wholeItems_of_forall (List.forall_mem_map.mpr fun _ _ => trivial)
  cases event with
  | connect id name server held channel =>
    exact ⟨trivial, Json.whole_ofNat fits, trivial, Json.whole_ofOption fun _ _ => trivial,
      permissions held, Json.whole_ofOption fun _ _ => trivial, trivial⟩
  | disconnect id => exact ⟨trivial, Json.whole_ofNat fits, trivial⟩
  | switch id server => exact ⟨trivial, Json.whole_ofNat fits, trivial, trivial⟩
  | chat id channel message =>
    exact ⟨trivial, Json.whole_ofNat fits, Json.whole_ofOption fun _ _ => trivial, trivial, trivial⟩
  | direct id target message =>
    exact ⟨trivial, Json.whole_ofNat fits.1, Json.whole_ofNat fits.2, trivial, trivial⟩
  | alert id message => exact ⟨trivial, Json.whole_ofNat fits, trivial, trivial⟩
  | prefer id channel =>
    exact ⟨trivial, Json.whole_ofNat fits, Json.whole_ofOption fun _ _ => trivial, trivial⟩
  | ignore id target | unignore id target =>
    exact ⟨trivial, Json.whole_ofNat fits.1, Json.whole_ofNat fits.2, trivial⟩
  | vanish id vanished => exact ⟨trivial, Json.whole_ofNat fits, trivial, trivial⟩
  | mute id minutes =>
    exact ⟨trivial, Json.whole_ofNat fits.1,
      Json.whole_ofOption fun count some => fitsWord_of_fitsSigned (fits.2 count some), trivial⟩
  | spy id social nearby =>
    exact ⟨trivial, Json.whole_ofNat fits, Json.whole_ofOption fun _ _ => trivial,
      Json.whole_ofOption fun _ _ => trivial, trivial⟩
  | toggle feature enabled => exact ⟨trivial, trivial, trivial, trivial⟩

/-- What is written for an event tells of it. -/
theorem tells_write (fits : event.Fits) : event.Tells event.toJson.write :=
  ⟨_, Json.spelled_write (whole_toJson fits), event.toldBy_fields⟩

end Event

namespace Session

/-- A line with an object is never passed over. -/
theorem handleLine_of_spelled (session : Session) (world : World) {line : String}
    {members : Event.Fields} (spelled : Json.Spelled (.object members) line) :
    session.handleLine world line =
      match Event.read? line with
      | some event => session.handle world event
      | none => session.fail .malformed := by
  obtain ⟨inside, spells, trimmed⟩ := Json.trim_of_spelled spelled
  have same : Event.read? (Text.trim line) = Event.read? line := by
    have spelledTrimmed : Json.Spelled (.object members) (Text.trim line) :=
      ⟨[], _, [], Json.gap_nil, .object spells, Json.gap_nil, by simp [trimmed]⟩
    rw [Event.read?, Event.read?, Json.read?_of_spelled spelled,
      Json.read?_of_spelled spelledTrimmed]
  have notEmpty : (Text.trim line).isEmpty = false := by
    rw [Bool.eq_false_iff, Ne, String.isEmpty_iff]
    intro empty
    cases (congrArg String.toList empty).symm.trans trimmed
  have noComment : (Text.trim line).startsWith "#" = false := by
    rw [Bool.eq_false_iff, Ne, String.startsWith_string_iff, trimmed]
    intro comment
    cases (List.cons_prefix_cons.mp comment).1
  cases read : Event.read? line with
  | none => simp [handleLine, notEmpty, noComment, same, read]
  | some event => simp [handleLine, notEmpty, noComment, same, read]

end Session

namespace Event

variable {event : Event} {line : String}

theorem read?_write (fits : event.Fits) : read? event.toJson.write = some event :=
  read?_of_tells fits (tells_write fits)

/-- A line that tells of an event is taken for that event: neither the order of its members nor
white space, escapes or unknown members make a difference, so it tells of no other event. A line
that repeats a member is rejected. -/
theorem line_determines_event (event : Event) (line : String) :
    (event.Fits → event.Tells line →
      read? line = some event ∧
      (∀ (session : Session) (world : World),
        session.handleLine world line = session.handle world event) ∧
      ∀ other : Event, other.Fits → other.Tells line → other = event) ∧
    (event.Repeats line →
      read? line = none ∧
      ∀ (session : Session) (world : World),
        session.handleLine world line = session.fail .malformed) := by
  constructor
  · intro fits tells
    have read := read?_of_tells fits tells
    refine ⟨read, fun session world => ?_, fun other otherFits otherTells => ?_⟩
    · obtain ⟨members, spelled, -⟩ := tells
      rw [session.handleLine_of_spelled world spelled, read]
    · exact Option.some.inj ((read?_of_tells otherFits otherTells).symm.trans read)
  · intro repeats
    have read := read?_of_repeats repeats
    refine ⟨read, fun session world => ?_⟩
    obtain ⟨members, spelled, -⟩ := repeats
    rw [session.handleLine_of_spelled world spelled, read]

theorem spellsName_escaped : Json.SpellsName "id" "\"\\u0069d\":".toList := by
  have inside : Json.SpellsChars "id".toList (['\\', 'u', '0', '0', '6', '9'] ++ ['d']) :=
    .cons (.unit ⟨0, 0, 6, 9, rfl, rfl, rfl, rfl, rfl⟩)
      (.cons (.plain (by decide) (by decide) (by decide)) .nil)
  exact ⟨[], _, [], [], Json.gap_nil, ⟨_, inside, rfl⟩, Json.gap_nil, Json.gap_nil, rfl⟩

/-- The kind comes last, the channel is left out and an unknown member stands between. -/
theorem tells_escaped :
    (chat 18446744073709551615 none "a🙂\"").Tells
      ("\x7b \"message\" : \"a\\ud83d\\uDE42\\\"\",\"note\":true,\"\\u0069d\":" ++
        "18446744073709551615,\"event\":\"chat\"\x7d\n") := by
  have name : Json.SpellsName "message" " \"message\" : ".toList := by
    have space : Json.Gap [' '] := by simp [Json.Gap]
    exact ⟨[' '], _, [' '], [' '], space, Json.quotes_writeString "message", space, space, rfl⟩
  have message : Json.Quotes "a🙂\"" "\"a\\ud83d\\uDE42\\\"\"".toList := by
    have high : Json.FourDigits 0xD83D ['d', '8', '3', 'd'] :=
      ⟨13, 8, 3, 13, rfl, rfl, rfl, rfl, rfl⟩
    have low : Json.FourDigits 0xDE42 ['D', 'E', '4', '2'] :=
      ⟨13, 14, 4, 2, rfl, rfl, rfl, rfl, rfl⟩
    have quote : ('"', '"') ∈ Json.shortEscapes := .head _
    exact ⟨_, .cons (.plain (by decide) (by decide) (by decide))
      (.cons (.pair _ _ high low (by decide) (by decide) (by decide))
        (.cons (.short quote) .nil)), rfl⟩
  have fits : Json.FitsWord 18446744073709551615 := by simp [Json.FitsWord, Word.limit]
  refine ⟨[("message", .string "a🙂\""), ("note", .bool true),
    ("id", .integer 18446744073709551615), ("event", .string "chat")], ?_, rfl, ?_, ?_⟩
  · exact ⟨[], _, ['\n'], Json.gap_nil,
      .object (.more name (.string message) Json.gap_nil
        (.more (Json.spellsName_writeString "note") .yes Json.gap_nil
          (.more spellsName_escaped (.integer fits) Json.gap_nil
            (.last (Json.spellsName_writeString "event")
              (.string (Json.quotes_writeString "chat")) Json.gap_nil)))),
      by simp [Json.Gap], by decide +kernel⟩
  · simp only [fields, List.forall_mem_cons]
    exact ⟨.inl rfl, .inr ⟨.inl rfl, rfl⟩, .inl rfl, List.forall_mem_nil _⟩
  · simp [names, fields, Simple]

/-- The id is repeated under a name that is the same but for an escape. -/
theorem repeats_escaped :
    (disconnect 1).Repeats
      "\x7b\"event\":\"disconnect\",\"id\":1,\"\\u0069d\":1\x7d" := by
  have fits : Json.FitsWord 1 := by simp [Json.FitsWord, Word.limit, Word.signedLimit]
  refine ⟨[("event", .string "disconnect"), ("id", .integer 1), ("id", .integer 1)],
    ?_, .head _, "id", .tail _ (.head _), by decide⟩
  exact ⟨[], _, [], Json.gap_nil,
    .object (.more (Json.spellsName_writeString "event")
      (.string (Json.quotes_writeString "disconnect")) Json.gap_nil
      (.more (Json.spellsName_writeString "id") (.integer fits) Json.gap_nil
        (.last spellsName_escaped (.integer fits) Json.gap_nil))),
    Json.gap_nil, by decide +kernel⟩

theorem line_determines_event_escaped :
    let line := "\x7b \"message\" : \"a\\ud83d\\uDE42\\\"\",\"note\":true,\"\\u0069d\":" ++
      "18446744073709551615,\"event\":\"chat\"\x7d\n"
    let doubled := "\x7b\"event\":\"disconnect\",\"id\":1,\"\\u0069d\":1\x7d"
    read? line = some (chat 18446744073709551615 none "a🙂\"") ∧ read? doubled = none := by
  have fits : (chat 18446744073709551615 none "a🙂\"").Fits := by simp [Fits, Word.limit]
  exact ⟨((line_determines_event _ _).1 fits tells_escaped).1,
    ((line_determines_event _ _).2 repeats_escaped).1⟩

end Event

end Switchboard
