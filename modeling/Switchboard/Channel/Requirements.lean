import Switchboard.Context

/-! What each channel requires of a context. The requirements on filtering and parsing are
checked apart from the others, because they hold only after the message has been processed. -/
namespace Switchboard.Channel

def common : List Requirement := [.present .channel, .present .sender]

def requirements : Channel → List Requirement
  | globalChat | staffChat | alert =>
    [.present .message, .present .parsed, .absent .target]
  | localChat | multicastChat =>
    [.present .message, .present .parsed, .absent .target, .present .server]
  | direct => [.present .target, .present .message, .present .parsed]
  | join | leave => [.absent .message, .absent .target]
  | switch => [.absent .message, .present .server, .absent .target]

def checkRequirements (channel : Channel) (context : Context) : Except ContextError Unit := do
  context.require common
  context.require channel.requirements

/-- The check made before the message is processed. -/
def checkStructure (channel : Channel) (context : Context) : Except ContextError Unit := do
  context.require common
  context.require (channel.requirements.filter (fun requirement => !requirement.deferred))

/-- The check of what `checkStructure` leaves out. -/
def checkProgress (channel : Channel) (context : Context) : Except ContextError Unit :=
  context.require (channel.requirements.filter Requirement.deferred)

end Switchboard.Channel
