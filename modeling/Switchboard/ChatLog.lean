import Switchboard.Context

/-! Entries of the chat log, and why one cannot be kept. -/
namespace Switchboard

structure LogEntry where
  server : Option String
  label : String
  sender : String
  text : String
deriving DecidableEq, Repr, Inhabited

namespace LogEntry

/-- The entry for a message: who wrote what where, as far as the context knows. -/
def ofContext (label : String) (context : Context) : LogEntry where
  server := context.server
  label := label
  sender := (context.sender.map Account.name).getD ""
  text := context.bestText.getD ""

def line (entry : LogEntry) : String :=
  "[" ++ entry.server.getD "-" ++ "] [" ++ entry.label ++ "] " ++ entry.sender ++ ": " ++
    entry.text

def stampedLine (time : String) (entry : LogEntry) : String := "[" ++ time ++ "] " ++ entry.line

end LogEntry

inductive StorageError where
  | io (cause : String)
  | unavailable (message : String)
deriving DecidableEq, Repr, Inhabited

def StorageError.message : StorageError → String
  | io cause => "Chat log IO error: " ++ cause
  | unavailable message => "Chat log unavailable: " ++ message

end Switchboard
