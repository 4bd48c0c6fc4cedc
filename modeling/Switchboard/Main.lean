import Std.Time
import Switchboard.Config.Reader
import Switchboard.Session.Events
import Switchboard.Text.Pieces

/-! The program. It reads events from standard input, one to a line, writes each delivery to
standard output as a line of JSON, and keeps the chat log. Lines that are no events are passed
over, and what cannot be written is lost. -/
namespace Switchboard

def readVariables (names : List String) : IO (String → Option String) := do
  let found ← names.mapM fun name => do return (name, ← IO.getEnv name)
  return fun name => (found.lookup name).join

/-- The settings at a path; without a file there, the defaults. -/
def loadSettings (path : String) : IO (Except ConfigError Config) := do
  let own := [Config.logVariable, Config.channelVariable]
  try
    let document ← IO.FS.readFile path
    return Config.load (← readVariables (own ++ Hocon.references document)) document
  catch
    | .noFileOrDirectory _ _ _ => return Config.loadDefault (← readVariables own)
    | error => return .error (.unreadable path (toString error))

/-- The local time; universal time where the zone is not known. -/
def localTime (now : Std.Time.Timestamp) : IO Std.Time.DateTime := do
  try
    return .ofTimestamp now (← Std.Time.Database.defaultGetLocalZoneRules)
  catch _ =>
    return .ofTimestamp now .UTC

def readWorld : IO World := do
  let now ← Std.Time.Timestamp.now
  let shown ← localTime now
  return {
    clock := {
      elapsed := ← IO.monoNanosNow
      civil := now.toNanosecondsSinceUnixEpoch.val
      timeOfDay := shown.format "HH:mm:ss" } }

def attempt (action : IO α) : IO (Except String α) := do
  try
    return .ok (← action)
  catch error =>
    return .error (toString error)

/-- The log file, which is opened for the first entry. -/
def openLog (path : String) : StateT (Option IO.FS.Handle) IO (Except String IO.FS.Handle) := do
  if let some handle ← get then return .ok handle
  let opened ← attempt (IO.FS.Handle.mk path .append)
  if let .ok handle := opened then set (some handle)
  return opened

def writeEntry (path : String) (entry : LogEntry) :
    StateT (Option IO.FS.Handle) IO (Except StorageError Unit) := do
  match ← openLog path with
  | .error cause => return .error (.io cause)
  | .ok handle =>
    let now ← localTime (← Std.Time.Timestamp.now)
    let written ← attempt do
      handle.putStr (Text.endLine (entry.stampedLine (now.format "uuuu-MM-dd HH:mm:ss")))
      handle.flush
    return written.mapError .io

/-- Deliveries go to a stream, entries to the log file or else to the program's own log. -/
def outside (config : Config) (output : IO.FS.Stream) :
    Sink (StateT (Option IO.FS.Handle) IO) where
  writeLine delivery := attempt do
    output.putStr (Text.endLine delivery.line)
    output.flush
  logMessage entry :=
    match config.logFile with
    | some path => writeEntry path entry
    | none => do
      IO.eprintln entry.line
      return .ok ()
  warn text := IO.eprintln text

partial def serve (config : Config) (input output : IO.FS.Stream) (session : Session) :
    StateT (Option IO.FS.Handle) IO Unit := do
  let line ← input.getLine
  if line.isEmpty then return
  let report := session.handleLine (← readWorld) line
  if let .error error := report.result then
    IO.eprintln ("Event failed: " ++ error.message)
  let sink := outside config output
  report.outbox.deliveries.forM fun delivery => sink.deliver delivery.recipient delivery.message
  report.outbox.entries.forM sink.log
  serve config input output report.session

/-- Runs the program with the settings that its argument or the environment names. -/
def runProgram (arguments : List String) : IO UInt32 := do
  let environment ← readVariables [Config.pathVariable]
  match ← loadSettings (Config.path arguments.head? environment) with
  | .error error =>
    IO.eprintln ("Error: " ++ error.message)
    return 1
  | .ok config =>
    try
      (serve config (← IO.getStdin) (← IO.getStdout) (.ofConfig config)).run' none
    catch error =>
      IO.eprintln ("Failed to read events: " ++ toString error)
    return 0

end Switchboard

def main (arguments : List String) : IO UInt32 := Switchboard.runProgram arguments
