import Mathlib.Tactic.Common
import Switchboard.Proofs.Dispatching
import Switchboard.Proofs.Standing

/-! Who is in an audience, in plain terms. Audiences are built from parts and tested on one
account at a time; what is said of recipients is said of the accounts of the directory. -/
namespace Switchboard

/-- The first group with `server` in it has `source` in it too. Groups may overlap. -/
def ServerGroups.Linked (groups : ServerGroups) (server source : String) : Prop :=
  ∃ earlier group later, groups = earlier ++ group :: later ∧
    (∀ other ∈ earlier, server ∉ other) ∧ server ∈ group ∧ source ∈ group

theorem ServerGroups.joins_iff_linked {groups : ServerGroups} {server source : String} :
    groups.joins server source = true ↔ groups.Linked server source := by
  unfold joins groupOf?
  constructor
  · intro joined
    split at joined
    case h_2 => cases joined
    case h_1 group found =>
      obtain ⟨here, earlier, later, parts, before⟩ := List.find?_eq_some_iff_append.mp found
      refine ⟨earlier, group, later, parts, ?_, List.contains_iff_mem.mp here,
        List.contains_iff_mem.mp joined⟩
      intro other member
      simpa using before other member
  · rintro ⟨earlier, group, later, rfl, before, here, there⟩
    have found : (earlier ++ group :: later).find? (·.contains server) = some group := by
      refine List.find?_eq_some_iff_append.mpr ⟨List.contains_iff_mem.mpr here, _, _, rfl, ?_⟩
      intro other member
      simpa using before other member
    rw [found]
    exact List.contains_iff_mem.mpr there

namespace Audience

variable {account sender : Account}

theorem both_iff {first second : Audience} :
    first.both second account = true ↔ first account = true ∧ second account = true :=
  Bool.and_eq_true_iff

theorem either_iff {first second : Audience} :
    first.either second account = true ↔ first account = true ∨ second account = true :=
  Bool.or_eq_true_iff

theorem others_iff {audience : Audience} :
    audience.others account = true ↔ ¬audience account = true := by
  simp [others]

theorem onServer_iff {server : String} :
    onServer (some server) account = true ↔ account.server = some server :=
  beq_iff_eq

theorem onJoined_iff {groups : ServerGroups} {source : String} :
    onJoined groups (some source) account = true ↔
      ∃ server, account.server = some server ∧ server ≠ source ∧ groups.Linked server source := by
  unfold onJoined
  cases placed : account.server with
  | none => simp [placed]
  | some server => simp [placed, ServerGroups.joins_iff_linked]

theorem heeding_iff : heeding sender account = true ↔
    (sender.holds .bypassIgnore = false → account.ignores sender.id = false) := by
  unfold heeding everyone
  cases sender.holds .bypassIgnore <;> simp

/-- The audience is known and the account is in it. -/
def Includes (audience : Except ContextError Audience) (account : Account) : Prop :=
  ∃ known, audience = .ok known ∧ known account = true

@[simp] theorem includes_ok_iff {known : Audience} :
    Includes (.ok known) account ↔ known account = true :=
  ⟨fun ⟨_, same, member⟩ => by cases same; exact member, fun member => ⟨known, rfl, member⟩⟩

@[simp] theorem not_includes_error {error : ContextError} : ¬Includes (.error error) account :=
  nofun

theorem includes_both_iff {audience : Except ContextError Audience} {other : Audience} :
    Includes (audience.map (·.both other)) account ↔
      Includes audience account ∧ other account = true := by
  cases audience with
  | error error => simp [Except.map]
  | ok known => simp only [Except.map, includes_ok_iff, both_iff]

end Audience

/-- The message for each of the recipients. -/
def Message.copies (message : Message) (recipients : List Account) : List Delivery :=
  recipients.map fun recipient => ⟨recipient, message⟩

theorem Message.ids_copies (message : Message) (recipients : List Account) :
    (message.copies recipients).map (·.recipient.id) = recipients.map (·.id) := by
  simp [copies]

theorem Message.recipients_copies (message : Message) (recipients : List Account) :
    (message.copies recipients).map (·.recipient) = recipients := by
  simp [copies, Function.comp_def]

namespace Session

/-- The account is not left out for ignoring the sender. -/
def Hears (session : Session) (sender account : Account) : Prop :=
  session.isActive .ignoring = true → sender.holds .bypassIgnore = false →
    account.ignores sender.id = false

variable {session : Session} {account sender : Account} {audience : Audience}

theorem heeded_iff : session.heeded sender audience account = true ↔
    audience account = true ∧ session.Hears sender account := by
  unfold heeded Hears
  cases session.isActive .ignoring with
  | false => simp
  | true => simp only [if_true, Audience.both_iff, Audience.heeding_iff, forall_const]

theorem narrow_iff {channel : Channel} : session.narrow channel sender audience account = true ↔
    audience account = true ∧ (channel.ignorable = true → session.Hears sender account) ∧
      (channel.respectsVanish = true → sender.vanished = true →
        account.holds .vanishView = true) := by
  have heeds :
      (if channel.ignorable then session.heeded sender audience else audience) account = true ↔
        audience account = true ∧ (channel.ignorable = true → session.Hears sender account) := by
    cases channel.ignorable with
    | false => simp
    | true => simp [heeded_iff]
  unfold narrow
  cases hidden : channel.respectsVanish && sender.vanished with
  | false =>
    have seen : channel.respectsVanish = true → sender.vanished = true →
        account.holds .vanishView = true := by
      intro respects vanished
      simp [respects, vanished] at hidden
    rw [if_neg (by decide), heeds]
    exact ⟨fun ⟨reached, heeds⟩ => ⟨reached, heeds, seen⟩,
      fun ⟨reached, heeds, _⟩ => ⟨reached, heeds⟩⟩
  | true =>
    obtain ⟨respects, vanished⟩ := Bool.and_eq_true_iff.mp hidden
    rw [if_pos rfl, Audience.both_iff, heeds, and_assoc]
    simp [respects, vanished, Audience.seeingVanished, Audience.holding]

/-- An audience is what its channel reaches, less those whom the rules on ignoring and vanishing
leave out, each where the channel is subject to it. -/
theorem audience_iff {channel : Channel} {context : Context}
    (speaks : context.sender = some sender) :
    Audience.Includes (session.audience channel context) account ↔
      Audience.Includes (session.reach channel context) account ∧
      (channel.ignorable = true → session.Hears sender account) ∧
      (channel.respectsVanish = true → sender.vanished = true →
        account.holds .vanishView = true) := by
  unfold Session.audience
  rw [Context.requireSender_of_some speaks]
  cases session.reach channel context with
  | error error => exact iff_of_false Audience.not_includes_error fun reached => nomatch reached.1
  | ok reached => exact Audience.includes_ok_iff.trans (narrow_iff.trans (by simp))

theorem mem_connected_iff :
    account ∈ session.connected audience ↔
      account ∈ session.directory.accounts ∧ audience account = true :=
  List.mem_filter

theorem mem_gathered_iff {audience : Except ContextError Audience} :
    account ∈ session.gathered audience ↔
      account ∈ session.directory.accounts ∧ Audience.Includes audience account := by
  cases audience with
  | error error => simp [gathered]
  | ok known => rw [gathered, mem_connected_iff, Audience.includes_ok_iff]

/-- The accounts are those connected that are chosen, all of them, in ascending order of ids. -/
structure Selects (session : Session) (chosen : Account → Prop) (accounts : List Account) :
    Prop where
  ascending : accounts.Pairwise (fun a b => a.id < b.id)
  complete : ∀ account,
    account ∈ accounts ↔ account ∈ session.directory.accounts ∧ chosen account

variable {chosen other : Account → Prop} {accounts others : List Account}

theorem connected_selects (exactly : ∀ account, audience account = true ↔ chosen account) :
    session.Selects chosen (session.connected audience) where
  ascending := session.directory.accounts_ascending.filter _
  complete account := by rw [connected, Audience.among, List.mem_filter, exactly]

theorem gathered_selects {audience : Except ContextError Audience}
    (exactly : ∀ account, Audience.Includes audience account ↔ chosen account) :
    session.Selects chosen (session.gathered audience) where
  ascending := by
    cases audience with
    | error error => exact .nil
    | ok known => exact session.directory.accounts_ascending.filter _
  complete account := by rw [mem_gathered_iff, exactly]

theorem nil_selects (nobody : ∀ account, ¬chosen account) : session.Selects chosen [] where
  ascending := .nil
  complete account := by simp [nobody account]

namespace Selects

theorem ids_nodup (selects : session.Selects chosen accounts) : (accounts.map (·.id)).Nodup := by
  rw [List.Nodup, List.pairwise_map]
  exact selects.ascending.imp Nat.ne_of_lt

theorem nodup (selects : session.Selects chosen accounts) : accounts.Nodup := by
  refine selects.ascending.imp fun {a b} before same => ?_
  rw [same] at before
  exact Nat.lt_irrefl b.id before

/-- What is chosen determines the list. -/
theorem unique (selects : session.Selects chosen accounts)
    (selectsAlso : session.Selects chosen others) : accounts = others :=
  eq_of_ascending selects.ascending selectsAlso.ascending fun account =>
    (selects.complete account).trans (selectsAlso.complete account).symm

/-- Choices that exclude each other have no id in common: an id belongs to one account. -/
theorem ids_disjoint (selects : session.Selects chosen accounts)
    (selectsOther : session.Selects other others)
    (exclusive : ∀ account, chosen account → ¬other account) :
    ∀ id ∈ accounts.map (·.id), ∀ idOther ∈ others.map (·.id), id ≠ idOther := by
  intro id here idOther there same
  obtain ⟨first, member, rfl⟩ := List.mem_map.mp here
  obtain ⟨second, memberOther, rfl⟩ := List.mem_map.mp there
  obtain ⟨connected, isChosen⟩ := (selects.complete first).mp member
  obtain ⟨connectedOther, isOther⟩ := (selectsOther.complete second).mp memberOther
  have found := Directory.mem_accounts_iff.mp connectedOther
  rw [← same, Directory.mem_accounts_iff.mp connected] at found
  cases found
  exact exclusive first isChosen isOther

end Selects

/-! ## A small switchboard

Two linked servers with one account on each, a spy on a third, and one who ignores the first. -/

def ada : Account := { id := 1, name := "ada", server := some "lobby" }

def bo : Account := { id := 2, name := "bo", server := some "hub" }

def cy : Account where
  id := 3
  name := "cy"
  server := some "isle"
  socialSpy := true
  localSpy := true
  permissions := [.socialSpy, .localSpy]

def di : Account := { id := 4, name := "di", server := some "lobby", ignored := [1] }

def linkedServers : Session where
  directory := [ada, bo, cy, di].foldl .connect .empty
  registry := { active := [.spy, .multicastChat, .ignoring] }
  settings := .ofConfig { serverGroups := [["hub", "lobby"]] }

end Session

end Switchboard
