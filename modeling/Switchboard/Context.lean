import Switchboard.Account
import Switchboard.Message

/-! Everything known about one message in flight, and the named requirements that a channel
puts on it. The caller supplies who speaks to whom and where; filtering and parsing each fill
their slot once. -/
namespace Switchboard

structure Context where
  sender : Option Account := none
  target : Option Account := none
  message : Option String := none
  channel : Option Channel := none
  server : Option String := none
  /-- The text as the filters left it. -/
  filtered : Option String := none
  /-- The message as it was parsed. -/
  rendered : Option Message := none
deriving Inhabited

inductive Field where
  | sender
  | target
  | message
  | channel
  | server
  | filtered
  | parsed
deriving DecidableEq, Repr, Inhabited

namespace Field

def presentName : Field → String
  | sender => "HAS_SENDER"
  | target => "HAS_TARGET"
  | message => "HAS_MESSAGE"
  | channel => "HAS_CHANNEL"
  | server => "HAS_SERVER"
  | filtered => "IS_FILTERED"
  | parsed => "IS_PARSED"

def absentName : Field → String
  | sender => "HAS_NO_SENDER"
  | target => "HAS_NO_TARGET"
  | message => "HAS_NO_MESSAGE"
  | channel => "HAS_NO_CHANNEL"
  | server => "HAS_NO_SERVER"
  | filtered => "IS_NOT_FILTERED"
  | parsed => "IS_NOT_PARSED"

end Field

namespace Context

def has (context : Context) : Field → Bool
  | .sender => context.sender.isSome
  | .target => context.target.isSome
  | .message => context.message.isSome
  | .channel => context.channel.isSome
  | .server => context.server.isSome
  | .filtered => context.filtered.isSome
  | .parsed => context.rendered.isSome

/-- A message from `sender`, placed on the server where the sender is now. -/
def ofSender (sender : Account) : Context := { sender := some sender, server := sender.server }

/-- The most processed text there is: filtered, else raw, else what the parsed message reads. -/
def bestText (context : Context) : Option String :=
  context.filtered <|> context.message <|> context.rendered.map Message.plainText

end Context

inductive Requirement where
  | present (field : Field)
  | absent (field : Field)
  | all (parts : List Requirement)
  | notAll (parts : List Requirement)
deriving BEq, Repr, Inhabited

namespace Requirement

def negate : Requirement → Requirement
  | present field => absent field
  | absent field => present field
  | all parts => notAll parts
  | notAll parts => all parts

mutual

def metBy (context : Context) : Requirement → Bool
  | present field => context.has field
  | absent field => !context.has field
  | all parts => allMetBy context parts
  | notAll parts => !allMetBy context parts

def allMetBy (context : Context) : List Requirement → Bool
  | [] => true
  | part :: rest => metBy context part && allMetBy context rest

end

mutual

/-- Whether the requirement asks how far filtering and parsing have come, which nobody can
answer before they have run. -/
def deferred : Requirement → Bool
  | present field | absent field => field == .filtered || field == .parsed
  | all parts | notAll parts => anyDeferred parts

def anyDeferred : List Requirement → Bool
  | [] => false
  | part :: rest => deferred part || anyDeferred rest

end

mutual

def name : Requirement → String
  | present field => field.presentName
  | absent field => field.absentName
  | all parts => "ALL(" ++ nameList parts ++ ")"
  | notAll parts => "NOT(ALL(" ++ nameList parts ++ "))"

def nameList : List Requirement → String
  | [] => ""
  | [part] => name part
  | part :: rest => name part ++ ", " ++ nameList rest

end

end Requirement

inductive ContextError where
  | unmet (requirement : Requirement)
  | unknownAccount (id : AccountId)
deriving Repr, Inhabited

namespace ContextError

def message : ContextError → String
  | unmet requirement => "Context does not meet requirement " ++ requirement.name ++ "!"
  | unknownAccount id => "Unknown account: " ++ toString id

end ContextError

namespace Context

/-- Fails with the first requirement that is not met. -/
def require (context : Context) (requirements : List Requirement) : Except ContextError Unit :=
  match requirements.find? (fun requirement => !requirement.metBy context) with
  | some requirement => .error (.unmet requirement)
  | none => .ok ()

/-- The content of a slot, or the requirement that it be filled. -/
def demand (slot : Option α) (field : Field) : Except ContextError α :=
  match slot with
  | some value => .ok value
  | none => .error (.unmet (.present field))

def requireSender (context : Context) : Except ContextError Account :=
  demand context.sender .sender

def requireTarget (context : Context) : Except ContextError Account :=
  demand context.target .target

def requireMessage (context : Context) : Except ContextError String :=
  demand context.message .message

def requireServer (context : Context) : Except ContextError String :=
  demand context.server .server

def requireRendered (context : Context) : Except ContextError Message :=
  demand context.rendered .parsed

/-- Fills the slot of the filtered text, which can be done once. -/
def setFiltered (context : Context) (text : String) : Except ContextError Context := do
  context.require [.absent .filtered]
  return { context with filtered := some text }

def setRendered (context : Context) (message : Message) : Except ContextError Context := do
  context.require [.absent .parsed]
  return { context with rendered := some message }

end Context

end Switchboard
