import Switchboard.Channel.Requirements
import Switchboard.Message.Links
import Switchboard.Outbox
import Switchboard.Session
import Switchboard.Template

/-! Sending a message. Its context is checked, the message is filtered and parsed, its recipients
are found, and each gets a copy. A context that lacks something is an error of the caller, and
then nobody gets anything; a message that is blocked or refused is answered to its sender. -/
namespace Switchboard

inductive Outcome where
  /-- The message went out as this many copies. -/
  | delivered (copies : Nat)
  | blocked (reason : Message)
  | refused (reason : Message)
deriving DecidableEq, Repr, Inhabited

/-- What changes while a message is sent. -/
structure Stage where
  filters : Filters
  outbox : Outbox := {}

abbrev Dispatching := ExceptT ContextError (StateM Stage)

namespace Dispatching

def check (result : Except ContextError α) : Dispatching α :=
  ExceptT.mk (fun stage => (result, stage))

/-- Runs filters, which may change all filters. -/
def filter (run : Filters → β × Filters) : Dispatching β :=
  ExceptT.mk fun stage =>
    let (result, filters) := run stage.filters
    (.ok result, { stage with filters })

def write (action : StateM Outbox α) : Dispatching α :=
  ExceptT.mk fun stage =>
    let (result, outbox) := action stage.outbox
    (.ok result, { stage with outbox })

end Dispatching

namespace Session

open Dispatching

/-- The context's channel, else the sender's, else the default. -/
def channelOf (session : Session) (context : Context) : Channel :=
  (context.channel <|> context.sender.bind (·.channel)).getD session.settings.defaultChannel

/-- Those whom a channel reaches, before rules about ignoring and vanishing. -/
def reach (session : Session) (channel : Channel) (context : Context) :
    Except ContextError Audience := do
  match channel with
  | .globalChat =>
    return if session.isActive .globalChat then .onListed session.settings.globalServers
      else .everyone
  | .localChat => return .onServer (some (← context.requireServer))
  | .multicastChat =>
    let server ← context.requireServer
    return if session.isActive .multicastChat then
        .within session.settings.serverGroups (some server)
      else .onServer (some server)
  | .staffChat => return .holding .staffChatView
  | .direct => return .only (← context.requireTarget).id
  | .join => return .holding .joinMessageView
  | .leave => return .holding .leaveMessageView
  | .switch => return .holding .switchMessageView
  | .alert => return .everyone

/-- Narrows an audience to those who do not ignore the sender, while ignoring is possible. -/
def heeded (session : Session) (sender : Account) (audience : Audience) : Audience :=
  if session.isActive .ignoring then audience.both (.heeding sender) else audience

/-- Narrows what a channel reaches by the rules about ignoring and vanishing. -/
def narrow (session : Session) (channel : Channel) (sender : Account) (reached : Audience) :
    Audience :=
  let reached := if channel.ignorable then session.heeded sender reached else reached
  if channel.respectsVanish && sender.vanished then reached.both .seeingVanished else reached

def audience (session : Session) (channel : Channel) (context : Context) :
    Except ContextError Audience := do
  let sender ← context.requireSender
  return session.narrow channel sender (← session.reach channel context)

/-- Those who spy on local chat on the server and do not get it anyway. -/
def localSpies (session : Session) (sender : Account) (server : String) : Audience :=
  let reached :=
    if session.isActive .multicastChat then
      Audience.within session.settings.serverGroups (some server)
    else .onServer (some server)
  session.heeded sender (Audience.localSpies.both reached.others)

/-- Those who spy on private messages and take no part in this one. -/
def socialSpies (sender target : Account) : Audience :=
  (Audience.socialSpies.both (.except sender.id)).both (.except target.id)

def render (session : Session) (world : World) (format : Format) (context : Context) : Message :=
  Template.renderContext world.clock context (session.settings.templates format)

def deliver (world : World) (recipient : Account) (message : Message) : Dispatching Unit :=
  write ((Outbox.sink world).deliver recipient message)

/-- Gives the message to all connected accounts of the audience, in ascending order of ids. -/
def fanOut (session : Session) (world : World) (message : Message) (audience : Audience) :
    Dispatching Nat := do
  let recipients := audience.among session.directory.accounts
  recipients.forM fun recipient => deliver world recipient message
  return recipients.length

def log (session : Session) (world : World) (label : String) (context : Context) :
    Dispatching Unit :=
  if session.isActive .chatLogging then
    write ((Outbox.sink world).log (.ofContext label context))
  else return

def logOn (session : Session) (world : World) (channel : Channel) (context : Context) :
    Dispatching Unit :=
  if channel.loggable then session.log world channel.label context else return

/-- Parses the message of a context; with `filtering`, between the two chains of filters. -/
def process (world : World) (filtering : Bool) (context : Context) :
    Dispatching (Except Blocked Context) := do
  let sender ← check context.requireSender
  let raw ← check context.requireMessage
  if filtering then
    match ← filter (fun filters => filters.filterText world.clock sender raw) with
    | .error blocked => return .error blocked
    | .ok text =>
      let context ← check (context.setFiltered text)
      match ← filter (fun filters => filters.filterMessage sender (.parse text)) with
      | .error blocked => return .error blocked
      | .ok message => return .ok (← check (context.setRendered message))
  else return .ok (← check (context.setRendered (.parse raw)))

/-- Tells the sender why the message was stopped. -/
def block (world : World) (sender : Account) (blocked : Blocked) : Dispatching Outcome := do
  deliver world sender blocked.reason
  return .blocked blocked.reason

def refuse (world : World) (sender : Account) (notice : String) : Dispatching Outcome := do
  let reason := Message.ofText notice
  deliver world sender reason
  return .refused reason

/-- Checks a context and processes its message. A block ends its way with this outcome. -/
def prepare (world : World) (channel : Channel) (filtering : Bool) (context : Context) :
    Dispatching (Except Outcome Context) := do
  check (channel.checkStructure context)
  match ← process world filtering context with
  | .error blocked =>
    let sender ← check context.requireSender
    return .error (← block world sender blocked)
  | .ok context =>
    check (channel.checkProgress context)
    return .ok context

/-- Global, staff and multicast chat, and alerts. -/
def sendBroadcast (session : Session) (world : World) (channel : Channel) (format : Format)
    (filtering : Bool) (context : Context) : Dispatching Outcome := do
  match ← prepare world channel filtering context with
  | .error outcome => return outcome
  | .ok context =>
    let audience ← check (session.audience channel context)
    let copies ← session.fanOut world (session.render world format context) audience
    session.logOn world channel context
    return .delivered copies

/-- The copies of local chat for the other servers of the group. -/
def sendOn (session : Session) (world : World) (source : String) (context : Context) :
    Dispatching Nat := do
  let context := { context with channel := some .multicastChat }
  check (Channel.multicastChat.checkRequirements context)
  let audience ← check (session.audience .multicastChat context)
  let copies ← session.fanOut world (session.render world .multicastChat context)
    (audience.both (Audience.onServer (some source)).others)
  session.logOn world .multicastChat context
  return copies

/-- Local chat, copies of it for other servers, and copies for spies. -/
def sendLocal (session : Session) (world : World) (context : Context) :
    Dispatching Outcome := do
  match ← prepare world .localChat true context with
  | .error outcome => return outcome
  | .ok context =>
    let sender ← check context.requireSender
    let server ← check context.requireServer
    let audience ← check (session.audience .localChat context)
    let near ← session.fanOut world (session.render world .localChat context) audience
    session.logOn world .localChat context
    let far ←
      if session.isActive .multicastChat then session.sendOn world server context else pure 0
    let spying ←
      if session.isActive .spy && !sender.holds .localSpyExempt then
        session.fanOut world (session.render world .localSpy context)
          (session.localSpies sender server)
      else pure 0
    return .delivered (near + far + spying)

/-- A private message: a copy for the sender, one for the target, and copies for spies. -/
def sendPrivate (session : Session) (world : World) (context : Context) :
    Dispatching Outcome := do
  check (Channel.direct.checkStructure context)
  let sender ← check context.requireSender
  let target ← check context.requireTarget
  let notices := session.settings.notices
  if target.ignores sender.id && !sender.holds .bypassIgnore then
    refuse world sender notices.hasIgnored
  else if !target.messenger && !sender.holds .bypassMessenger then
    refuse world sender notices.messengerDisabled
  else
    match ← process world session.settings.filtersPrivate context with
    | .error blocked => block world sender blocked
    | .ok context =>
      check (Channel.direct.checkProgress context)
      deliver world sender (session.render world .messageSender context)
      let audience ← check (session.audience .direct context)
      let copies ← session.fanOut world (session.render world .messageTarget context) audience
      let spying ←
        if session.isActive .spy && !sender.holds .socialSpyExempt then
          session.fanOut world (session.render world .socialSpy context)
            (socialSpies sender target)
        else pure 0
      if Channel.direct.loggable && session.settings.logsPrivate then
        session.log world ("PM to " ++ target.name) context
      return .delivered (1 + copies + spying)

/-- Notices that somebody joins, leaves or switches servers. What they say is all in their
template. -/
def sendPresence (session : Session) (world : World) (channel : Channel) (format : Format)
    (context : Context) : Dispatching Outcome := do
  check (channel.checkStructure context)
  let message := session.render world format context
  let context ← check (context.setRendered message)
  check (channel.checkProgress context)
  let audience ← check (session.audience channel context)
  let copies ← session.fanOut world message audience
  session.logOn world channel context
  return .delivered copies

def send (session : Session) (world : World) (channel : Channel) (context : Context) :
    Dispatching Outcome :=
  match channel with
  | .globalChat => session.sendBroadcast world channel .globalChat true context
  | .localChat => session.sendLocal world context
  | .multicastChat => session.sendBroadcast world channel .multicastChat true context
  | .staffChat => session.sendBroadcast world channel .staffChat true context
  | .alert => session.sendBroadcast world channel .alert false context
  | .direct => session.sendPrivate world context
  | .join => session.sendPresence world channel .joinMessage context
  | .leave => session.sendPresence world channel .leaveMessage context
  | .switch => session.sendPresence world channel .serverSwitch context

/-- Sends a message on the channel that its context, its sender or the settings name. Filters
are all that sending can change in a session. -/
def dispatch (session : Session) (world : World) (context : Context) :
    Except ContextError Outcome × Stage :=
  let channel := session.channelOf context
  (session.send world channel { context with channel := some channel }).run.run
    { filters := session.filters }

end Session

end Switchboard
