import Mathlib.Tactic.Common
import Switchboard.Proofs.Rejection
import Switchboard.Proofs.Runs

/-! What the directory owes to whose events. An event changes at most the account that it is about,
and how it changes that account depends on nothing but the account and the time. So each entry of
the directory is what the events about its id have made of it, in whatever way those about different
ids and those that send messages come in between; likewise the active features are what the events
that toggle features have made of them. -/
namespace Switchboard

namespace IdMap

variable {α : Type u}

theorem ext_get? {map other : IdMap α} (same : ∀ id, map.get? id = other.get? id) :
    map = other := by
  have members (entry : Nat × α) : entry ∈ map.entries ↔ entry ∈ other.entries := by
    rw [← get?_eq_some_iff, ← get?_eq_some_iff, same]
  have equal : map.entries = other.entries :=
    eq_of_ascending map.ascending other.ascending members
  cases map
  cases other
  cases equal
  rfl

theorem get?_insert (map : IdMap α) (id other : Nat) (value : α) :
    (map.insert id value).get? other = if id = other then some value else map.get? other := by
  by_cases same : id = other
  · subst same
    rw [if_pos rfl, get?_insert_self]
  · rw [if_neg same, get?_insert_of_ne map value (Ne.symm same)]

theorem get?_erase (map : IdMap α) (id other : Nat) :
    (map.erase id).get? other = if id = other then none else map.get? other := by
  ext value
  rw [get?_eq_some_iff, erase, List.mem_filter]
  by_cases same : id = other
  · simp [same]
  · simp [same, get?_eq_some_iff, Ne.symm same]

end IdMap

namespace Directory

variable {directory other : Directory}

theorem ext_get? (same : ∀ id, directory.get? id = other.get? id) : directory = other := by
  have entries : directory.byId = other.byId := IdMap.ext_get? same
  cases directory
  cases other
  cases entries
  rfl

theorem get?_connect (directory : Directory) (account : Account) (id : AccountId) :
    (directory.connect account).get? id =
      if account.id = id then some account else directory.get? id :=
  directory.byId.get?_insert account.id id account

theorem get?_disconnect (directory : Directory) (id other : AccountId) :
    (directory.disconnect id).get? other = if id = other then none else directory.get? other :=
  directory.byId.get?_erase id other

end Directory

theorem Account.id_grants (permissions : List Permission) (account : Account) :
    (permissions.foldl grant account).id = account.id := by
  induction permissions generalizing account with
  | nil => rfl
  | cons permission rest ih => exact ih (account.grant permission)

namespace Event

/-- The account that the event is about, if it changes one. -/
def subject? : Event → Option AccountId
  | connect id .. | disconnect id | switch id _ | prefer id _ | ignore id _ | unignore id _
  | vanish id _ | mute id _ | spy id .. => some id
  | chat .. | direct .. | alert .. | toggle .. => none

/-- What the event makes of the account that it is about, where a mute of so many minutes from now
ends at `deadline?`. Only connecting makes something of an account that is not there. -/
def revise (deadline? : Int → Option Int) : Event → Option Account → Option Account
  | connect id name server permissions channel, _ =>
    some (permissions.foldl Account.grant { id, name, server, channel })
  | disconnect _, _ => none
  | switch _ server, found => found.map fun account => { account with server := some server }
  | prefer _ channel, found => found.map fun account => { account with channel }
  | ignore _ target, found => found.map (·.ignore target)
  | unignore _ target, found => found.map (·.unignore target)
  | vanish _ vanished, found => found.map fun account => { account with vanished }
  | mute _ none, found => found.map fun account => { account with mutedUntil := none }
  | mute _ (some minutes), found =>
    match deadline? minutes with
    | some instant => found.map fun account => { account with mutedUntil := some instant }
    | none => found
  | spy _ social nearby, found => found.map fun account =>
    { account with
      socialSpy := social.getD account.socialSpy, localSpy := nearby.getD account.localSpy }
  | chat .., found | direct .., found | alert .., found | toggle .., found => found

def toggles : Event → Bool
  | toggle .. => true
  | _ => false

/-- The features that are active once the event has turned one on or off. -/
def mark (active : List Feature) : Event → List Feature
  | toggle feature on =>
    if active.contains feature = on then active else Registry.mark active feature on
  | _ => active

end Event

namespace Session

variable {session : Session} {world : World} {occurrence : Occurrence} {id : AccountId}

/-! ## One event -/

theorem directory_submitFrom (context : Account → Context) :
    (session.submitFrom world id context).session.directory = session.directory := by
  unfold submitFrom
  split <;> rfl

theorem directory_sendDirect (target : AccountId) (message : String) :
    (session.sendDirect world id target message).session.directory = session.directory := by
  unfold sendDirect
  split <;> rfl

/-- A change that leaves the id alone is felt under that id alone. -/
theorem get?_change {change : Account → Account}
    (keeps : ∀ account, (change account).id = account.id) (other : AccountId) :
    (session.change id change).session.directory.get? other =
      if id = other then (session.directory.get? other).map change
      else session.directory.get? other := by
  unfold Session.change
  cases here : session.directory.get? id with
  | none =>
    change session.directory.get? other = _
    split
    case isTrue same => rw [← same, here, Option.map_none]
    case isFalse => rfl
  | some account =>
    change (session.directory.connect (change account)).get? other = _
    rw [Directory.get?_connect, keeps, Directory.id_of_get? here]
    split
    case isTrue same => rw [← same, here, Option.map_some]
    case isFalse => rfl

/-- The notice that an account leaves always goes out, so the account is always removed. -/
theorem get?_disconnected (other : AccountId) :
    (session.disconnect world id).session.directory.get? other =
      if id = other then none else session.directory.get? other := by
  cases here : session.directory.get? id with
  | some account =>
    rw [disconnect_of_found here]
    exact Directory.get?_disconnect ..
  | none =>
    rw [disconnect_of_absent here]
    change session.directory.get? other = _
    split
    case isTrue same => rw [← same, here]
    case isFalse => rfl

theorem directory_move (server : String) :
    (session.move world id server).session.directory =
      (session.change id fun account =>
        { account with server := some server }).session.directory := by
  unfold move Session.change
  split <;> rfl

theorem get?_mute (clock : Clock) (minutes : Option Int) (other : AccountId) :
    (session.mute clock id minutes).session.directory.get? other =
      if id = other then
        (Event.mute id minutes).revise clock.deadline? (session.directory.get? other)
      else session.directory.get? other := by
  cases minutes with
  | none => exact get?_change (by exact fun _ => rfl) other
  | some minutes =>
    simp only [mute, Event.revise]
    cases clock.deadline? minutes with
    | none => exact (ite_self _).symm
    | some instant => exact get?_change (by exact fun _ => rfl) other

/-- An event changes the entry of the account that it is about, and no other. -/
theorem get?_meet (session : Session) (occurrence : Occurrence) (id : AccountId) :
    (session.meet occurrence).session.directory.get? id =
      if occurrence.event.subject? = some id then
        occurrence.event.revise occurrence.world.clock.deadline? (session.directory.get? id)
      else session.directory.get? id := by
  obtain ⟨world, event⟩ := occurrence
  cases event with
  | connect subject name server permissions channel =>
    simp only [meet, handle, connect, announce, Event.subject?, Option.some.injEq]
    rw [directory_submitFrom, Directory.get?_connect, Account.id_grants]
    rfl
  | disconnect subject =>
    simp only [meet, handle, get?_disconnected, Event.subject?, Option.some.injEq]
    rfl
  | switch subject server =>
    simp only [meet, handle, directory_move, Event.subject?, Option.some.injEq]
    exact get?_change (by exact fun _ => rfl) id
  | mute subject minutes =>
    simp only [Event.subject?, Option.some.injEq]
    exact get?_mute world.clock minutes id
  | prefer | ignore | unignore | vanish | spy =>
    simp only [Event.subject?, Option.some.injEq]
    exact get?_change (by exact fun _ => rfl) id
  | chat | alert => exact congrArg (Directory.get? · id) (directory_submitFrom _)
  | direct => exact congrArg (Directory.get? · id) (directory_sendDirect _ _)
  | toggle => rfl

theorem active_meet (session : Session) (occurrence : Occurrence) :
    (session.meet occurrence).session.registry.active =
      if occurrence.event.toggles = true then occurrence.event.mark session.registry.active
      else session.registry.active := by
  cases toggling : occurrence.event.toggles with
  | true =>
    obtain ⟨world, event⟩ := occurrence
    cases event with
    | toggle feature on =>
      change (session.registry.setEnabled feature on).active = _
      rw [Registry.setEnabled_eq]
      rfl
    | connect | disconnect | switch | chat | direct | alert | prefer | ignore | unignore | vanish
    | mute | spy => cases toggling
  | false =>
    obtain ⟨world, event⟩ := occurrence
    obtain ⟨plan, asks, handled⟩ := session.handle_cases world event
    rw [meet, handled]
    cases asks with
    | toggle => cases toggling
    | fail | change | notice | speech => rfl

/-! ## Runs -/

/-- What is felt of certain events only, and of each in the same way, is after a run what those
events have made of it. -/
theorem part_after {β : Type u} (part : Session → β) (concerns : Event → Bool)
    (effect : β → Event → β) {run : List Occurrence}
    (felt : ∀ session : Session, ∀ occurrence ∈ run, part (session.meet occurrence).session =
      if concerns occurrence.event = true then effect (part session) occurrence.event
      else part session)
    (session : Session) :
    part (session.after run) =
      ((run.map Occurrence.event).filter concerns).foldl effect (part session) := by
  induction run generalizing session with
  | nil => rfl
  | cons occurrence rest ih =>
    have onward : session.after (occurrence :: rest) =
        (session.meet occurrence).session.after rest := rfl
    rw [onward, ih (fun session later member => felt session later (List.mem_cons_of_mem _ member)),
      felt session occurrence List.mem_cons_self, List.map_cons, List.filter_cons]
    split <;> rfl

theorem active_after_eq (session : Session) (run : List Occurrence) :
    (session.after run).registry.active =
      ((run.map Occurrence.event).filter Event.toggles).foldl Event.mark session.registry.active :=
  part_after (·.registry.active) Event.toggles Event.mark
    (fun session occurrence _ => session.active_meet occurrence) session

theorem deadline?_congr {clock other : Clock} (same : clock.civil = other.civil) :
    clock.deadline? = other.deadline? := by
  funext minutes
  simp only [Clock.deadline?, same]

/-- An account is what the events about its id have made of it. -/
theorem get?_after {run : List Occurrence} (clock : Clock)
    (still : ∀ occurrence ∈ run, occurrence.world.clock.civil = clock.civil) (session : Session)
    (id : AccountId) :
    (session.after run).directory.get? id =
      ((run.map Occurrence.event).filter fun event => event.subject? == some id).foldl
        (fun found event => event.revise clock.deadline? found) (session.directory.get? id) := by
  refine part_after (fun session => session.directory.get? id)
    (fun event => event.subject? == some id) _ (fun session occurrence member => ?_) session
  rw [get?_meet, deadline?_congr (still occurrence member)]
  simp only [beq_iff_eq]

/-- Runs in which the same happens to every id, and the same features are turned on and off, each in
the same order, end with the same directory and the same features, however the rest of the events
differs and whatever comes between them. -/
theorem directory_after_eq (session : Session) (first second : List Occurrence) (now : Int)
    (still : ∀ occurrence ∈ first ++ second, occurrence.world.clock.civil = now)
    (own : ∀ id, (first.map Occurrence.event).filter (·.subject? == some id) =
      (second.map Occurrence.event).filter (·.subject? == some id))
    (toggles : (first.map Occurrence.event).filter Event.toggles =
      (second.map Occurrence.event).filter Event.toggles) :
    (session.after first).directory = (session.after second).directory ∧
      (session.after first).registry.active = (session.after second).registry.active := by
  obtain ⟨stillFirst, stillSecond⟩ := List.forall_mem_append.mp still
  let clock : Clock := { elapsed := 0, civil := now, timeOfDay := "" }
  constructor
  · refine Directory.ext_get? fun id => ?_
    let revised (events : List Event) : Option Account :=
      events.foldl (fun found event => event.revise clock.deadline? found)
        (session.directory.get? id)
    calc (session.after first).directory.get? id
        = revised ((first.map Occurrence.event).filter (·.subject? == some id)) :=
          get?_after clock stillFirst session id
      _ = revised ((second.map Occurrence.event).filter (·.subject? == some id)) := by rw [own id]
      _ = (session.after second).directory.get? id :=
          (get?_after clock stillSecond session id).symm
  · rw [active_after_eq, active_after_eq, toggles]

/-- One comes back elsewhere, another is muted and moves, and in between they say this and that. -/
theorem directory_after_eq_linked :
    let back : Event := .connect 2 "bo" (some "isle") [.localSpy] none
    let first : List Occurrence := [⟨default, .mute 1 (some 5)⟩, ⟨default, .toggle .spy false⟩,
      ⟨default, .disconnect 2⟩, ⟨default, .chat 1 none "hi"⟩, ⟨default, .switch 1 "hub"⟩,
      ⟨default, back⟩, ⟨default, .ignore 2 1⟩]
    let second : List Occurrence := [⟨default, .direct 2 7 "hi"⟩, ⟨default, .disconnect 2⟩,
      ⟨default, back⟩, ⟨default, .ignore 2 1⟩, ⟨default, .mute 1 (some 5)⟩,
      ⟨default, .switch 1 "hub"⟩, ⟨default, .toggle .spy false⟩]
    let session := linkedServers.after first
    session.directory = (linkedServers.after second).directory ∧
      session.registry.active = (linkedServers.after second).registry.active ∧
      session.directory.accounts.map (·.id) = [1, 2, 3, 4] := by
  intro back first second session
  have own (id : AccountId) : (first.map Occurrence.event).filter (·.subject? == some id) =
      (second.map Occurrence.event).filter (·.subject? == some id) := by
    by_cases one : id = 1
    · subst one
      decide
    by_cases two : id = 2
    · subst two
      decide
    simp [first, second, back, Event.subject?, Ne.symm one, Ne.symm two]
  obtain ⟨directory, active⟩ := directory_after_eq linkedServers first second 0 (by decide) own
    (by decide)
  exact ⟨directory, active, rfl⟩

end Session

end Switchboard
