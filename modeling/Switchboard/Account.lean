import Switchboard.Channel
import Switchboard.Clock
import Switchboard.Permission

/-! Accounts as the switchboard sees them: who they are, where they are, and what they have
chosen. -/
namespace Switchboard

abbrev AccountId := Nat

structure Account where
  id : AccountId
  name : String
  server : Option String := none
  /-- The channel chosen for messages sent without one. -/
  channel : Option Channel := none
  vanished : Bool := false
  /-- Whether the account accepts private messages. -/
  messenger : Bool := true
  socialSpy : Bool := false
  localSpy : Bool := false
  /-- The civil time at which a mute ends. -/
  mutedUntil : Option Int := none
  ignored : List AccountId := []
  permissions : List Permission := []
deriving Repr, Inhabited, DecidableEq

namespace Account

def holds (account : Account) (permission : Permission) : Bool :=
  account.permissions.contains permission

def ignores (account : Account) (other : AccountId) : Bool := account.ignored.contains other

/-- A mute counts while its end lies strictly in the future. -/
def muted (account : Account) (clock : Clock) : Bool :=
  match account.mutedUntil with
  | some instant => clock.civil < instant
  | none => false

/-- Social spying counts only while the account holds the permission for it. -/
def spiesSocially (account : Account) : Bool := account.socialSpy && account.holds .socialSpy

def spiesLocally (account : Account) : Bool := account.localSpy && account.holds .localSpy

def grant (account : Account) (permission : Permission) : Account :=
  { account with permissions := account.permissions.insert permission }

def revoke (account : Account) (permission : Permission) : Account :=
  { account with permissions := account.permissions.filter (· != permission) }

def ignore (account : Account) (other : AccountId) : Account :=
  { account with ignored := account.ignored.insert other }

def unignore (account : Account) (other : AccountId) : Account :=
  { account with ignored := account.ignored.filter (· != other) }

end Account

end Switchboard
