import Switchboard.Event.Reader
import Switchboard.Session.Dispatch

/-! Events and what they do to a session. Most change one account, some send a message, and a
line that is no event changes nothing. -/
namespace Switchboard

inductive SessionError where
  | rejected (error : ContextError)
  | malformed
  | unknownAccount (id : AccountId)
  | outOfRange (minutes : Int)
deriving Repr, Inhabited

namespace SessionError

def message : SessionError → String
  | rejected error => "Invalid context: " ++ error.message
  | malformed => "Replay error: Malformed event"
  | unknownAccount id => "Replay error: Event refers to unknown account " ++ toString id
  | outOfRange minutes =>
    "Replay error: Invalid event: mute of " ++ toString minutes ++ " minutes is out of range"

end SessionError

structure Report where
  session : Session
  /-- The outcome, if something was sent, or why the event came to nothing. -/
  result : Except SessionError (Option Outcome)
  outbox : Outbox := {}
deriving Inhabited

namespace Session

def submit (session : Session) (world : World) (context : Context) : Report :=
  let (result, stage) := session.dispatch world context
  { session := session.withFilters stage.filters
    result := (result.map some).mapError .rejected
    outbox := stage.outbox }

def fail (session : Session) (error : SessionError) : Report := { session, result := .error error }

/-- Dispatches a message of an account that has to be connected. -/
def submitFrom (session : Session) (world : World) (id : AccountId)
    (context : Account → Context) : Report :=
  match session.directory.get? id with
  | some sender => session.submit world (context sender)
  | none => session.fail (.rejected (.unknownAccount id))

/-- Sends chat on a channel, or on that which the sender prefers. -/
def chat (session : Session) (world : World) (id : AccountId) (channel : Option Channel)
    (message : String) : Report :=
  session.submitFrom world id fun sender =>
    { Context.ofSender sender with message := some message, channel }

def sendDirect (session : Session) (world : World) (id target : AccountId) (message : String) :
    Report :=
  match session.directory.get? id, session.directory.get? target with
  | none, _ => session.fail (.rejected (.unknownAccount id))
  | some _, none => session.fail (.rejected (.unknownAccount target))
  | some sender, some target =>
    session.submit world
      { Context.ofSender sender with
        target := some target, message := some message, channel := some .direct }

/-- Tells of an account's coming or going on the channel for it. -/
def announce (session : Session) (world : World) (id : AccountId) (channel : Channel) : Report :=
  session.submitFrom world id fun account =>
    { Context.ofSender account with channel := some channel }

def change (session : Session) (id : AccountId) (change : Account → Account) : Report :=
  match session.directory.get? id with
  | some account =>
    { session := { session with directory := session.directory.connect (change account) }
      result := .ok none }
  | none => session.fail (.unknownAccount id)

/-- Connects an account, in place of any earlier one with its id, and announces it. -/
def connect (session : Session) (world : World) (account : Account) : Report :=
  let session := { session with directory := session.directory.connect account }
  session.announce world account.id .join

/-- Announces that an account leaves and then disconnects it. -/
def disconnect (session : Session) (world : World) (id : AccountId) : Report :=
  if session.directory.contains id then
    let report := session.announce world id .leave
    match report.result with
    | .ok _ =>
      { report with
        session :=
          { report.session with directory := report.session.directory.disconnect id } }
    | .error _ => report
  else session.fail (.unknownAccount id)

def move (session : Session) (world : World) (id : AccountId) (server : String) : Report :=
  match session.directory.get? id with
  | some account =>
    let moved := { account with server := some server }
    let session := { session with directory := session.directory.connect moved }
    session.submit world { Context.ofSender moved with channel := some .switch }
  | none => session.fail (.unknownAccount id)

def mute (session : Session) (clock : Clock) (id : AccountId) : Option Int → Report
  | none => session.change id fun account => { account with mutedUntil := none }
  | some minutes =>
    match clock.deadline? minutes with
    | some instant => session.change id fun account => { account with mutedUntil := some instant }
    | none => session.fail (.outOfRange minutes)

def toggle (session : Session) (feature : Feature) (enabled : Bool) : Report where
  session := { session with registry := session.registry.setEnabled feature enabled }
  result := .ok none

def handle (session : Session) (world : World) : Event → Report
  | .connect id name server permissions channel =>
    session.connect world
      (permissions.foldl Account.grant { id, name, server, channel })
  | .disconnect id => session.disconnect world id
  | .switch id server => session.move world id server
  | .chat id channel message => session.chat world id channel message
  | .direct id target message => session.sendDirect world id target message
  | .alert id message => session.chat world id (some .alert) message
  | .prefer id channel => session.change id fun account => { account with channel }
  | .ignore id target => session.change id (·.ignore target)
  | .unignore id target => session.change id (·.unignore target)
  | .vanish id vanished => session.change id fun account => { account with vanished }
  | .mute id minutes => session.mute world.clock id minutes
  | .spy id social nearby =>
    session.change id fun account =>
      { account with
        socialSpy := social.getD account.socialSpy, localSpy := nearby.getD account.localSpy }
  | .toggle feature enabled => session.toggle feature enabled

/-- Handles one line of an event stream. Blank lines and comments are passed over. -/
def handleLine (session : Session) (world : World) (line : String) : Report :=
  let text := Text.trim line
  if text.isEmpty || text.startsWith "#" then { session, result := .ok none }
  else
    match Event.read? text with
    | some event => session.handle world event
    | none => session.fail .malformed

end Session

end Switchboard
