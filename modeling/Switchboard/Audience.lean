import Switchboard.Directory

/-! Who receives a message: predicates over accounts, and the accounts of a directory that
satisfy one. -/
namespace Switchboard

/-- Groups of servers that share local chat. -/
abbrev ServerGroups := List (List String)

namespace ServerGroups

def groupOf? (groups : ServerGroups) (server : String) : Option (List String) :=
  groups.find? (·.contains server)

/-- Whether the first group of `server` also contains `source`. -/
def joins (groups : ServerGroups) (server source : String) : Bool :=
  match groups.groupOf? server with
  | some group => group.contains source
  | none => false

end ServerGroups

abbrev Audience := Account → Bool

namespace Audience

def everyone : Audience := fun _ => true

def nobody : Audience := fun _ => false

def both (first second : Audience) : Audience := fun account => first account && second account

def either (first second : Audience) : Audience := fun account => first account || second account

def others (audience : Audience) : Audience := fun account => !audience account

/-- Everyone in each of the audiences; without audiences, everyone. -/
def common : List Audience → Audience
  | [] => everyone
  | first :: rest => rest.foldl both first

/-- Accounts on the server; without a server, nobody. -/
def onServer : Option String → Audience
  | some server => fun account => account.server == some server
  | none => nobody

/-- Accounts on one of the servers; without a list, everyone. -/
def onListed : Option (List String) → Audience
  | some servers => fun account =>
    match account.server with
    | some server => servers.contains server
    | none => false
  | none => everyone

/-- Accounts on the servers joined with `source`, those on `source` itself left out. -/
def onJoined (groups : ServerGroups) : Option String → Audience
  | some source => fun account =>
    match account.server with
    | some server => server != source && groups.joins server source
    | none => false
  | none => nobody

/-- Accounts on `source` and on the servers joined with it. -/
def within (groups : ServerGroups) (source : Option String) : Audience :=
  (onServer source).either (onJoined groups source)

def grouped (groups : ServerGroups) : Audience := fun account =>
  (account.server.bind groups.groupOf?).isSome

def holding (permission : Permission) : Audience := fun account => account.holds permission

/-- Accounts that do not ignore the sender. Nobody ignores a sender who may bypass it. -/
def heeding (sender : Account) : Audience :=
  if sender.holds .bypassIgnore then everyone else fun account => !account.ignores sender.id

def socialSpies : Audience := Account.spiesSocially

def localSpies : Audience := Account.spiesLocally

def seeingVanished : Audience := holding .vanishView

def only (id : AccountId) : Audience := fun account => account.id == id

def except (id : AccountId) : Audience := fun account => account.id != id

def among (audience : Audience) (accounts : List Account) : List Account :=
  accounts.filter audience

end Audience

end Switchboard
