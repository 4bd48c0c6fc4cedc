/-! What an account may be allowed to do. Permissions are granted by the network; the
switchboard only asks whether an account holds one. -/
namespace Switchboard

inductive Permission where
  | bypassAntiDuplicate
  | bypassAntiSpam
  | bypassFilter
  | bypassMute
  | bypassIgnore
  | bypassMessenger
  | staffChatView
  | socialSpy
  | socialSpyExempt
  | localSpy
  | localSpyExempt
  | joinMessageView
  | leaveMessageView
  | switchMessageView
  | vanishView
deriving DecidableEq, Repr, Inhabited

namespace Permission

def all : List Permission := [
  bypassAntiDuplicate, bypassAntiSpam, bypassFilter, bypassMute, bypassIgnore, bypassMessenger,
  staffChatView, socialSpy, socialSpyExempt, localSpy, localSpyExempt,
  joinMessageView, leaveMessageView, switchMessageView, vanishView]

def name : Permission → String
  | bypassAntiDuplicate => "bypass-anti-duplicate"
  | bypassAntiSpam => "bypass-anti-spam"
  | bypassFilter => "bypass-filter"
  | bypassMute => "bypass-mute"
  | bypassIgnore => "bypass-ignore"
  | bypassMessenger => "bypass-messenger"
  | staffChatView => "staff-chat-view"
  | socialSpy => "social-spy"
  | socialSpyExempt => "social-spy-exempt"
  | localSpy => "local-spy"
  | localSpyExempt => "local-spy-exempt"
  | joinMessageView => "join-message-view"
  | leaveMessageView => "leave-message-view"
  | switchMessageView => "switch-message-view"
  | vanishView => "vanish-view"

/-- The node under which the network's permission provider knows it. -/
def node : Permission → String
  | bypassAntiDuplicate => "chatrelay.bypass.antiduplicate"
  | bypassAntiSpam => "chatrelay.bypass.antispam"
  | bypassFilter => "chatrelay.bypass.filter"
  | bypassMute => "chatrelay.bypass.mute"
  | bypassIgnore => "chatrelay.bypass.ignore"
  | bypassMessenger => "chatrelay.bypass.messenger"
  | staffChatView => "chatrelay.command.staffchat.view"
  | socialSpy => "chatrelay.command.socialspy"
  | socialSpyExempt => "chatrelay.command.socialspy.exempt"
  | localSpy => "chatrelay.command.localspy"
  | localSpyExempt => "chatrelay.command.localspy.exempt"
  | joinMessageView => "chatrelay.message.join.view"
  | leaveMessageView => "chatrelay.message.leave.view"
  | switchMessageView => "chatrelay.message.switch.view"
  | vanishView => "chatrelay.command.vanish.view"

/-- Names are matched exactly. -/
def ofName? (name : String) : Option Permission := all.find? (·.name == name)

theorem mem_all (permission : Permission) : permission ∈ all := by
  cases permission <;> decide

end Permission

end Switchboard
