import Postbag.Imap.Fault
import Postbag.Query
/-!
# Command — what is sent to a server

A command is one line.  Its arguments stand between quotes, where a quote and a backslash get a backslash in front; a
line end cannot stand there at all, so an argument that holds one is refused before anything is sent.
-/
namespace Postbag
namespace Imap

inductive Command
  | startTls
  | login (username password : String)
  | select (mailbox : String)
  | fetch (query : Query)
  | logout
  deriving Repr, DecidableEq

def escaped : List Char → List Char
  | [] => []
  | c :: s => if c = '"' || c = '\\' then '\\' :: c :: escaped s else c :: escaped s

def argument (s : String) : String := String.ofList ('"' :: escaped s.toList ++ ['"'])

/-- The line end that keeps a text from being an argument: a line feed, or else a carriage return. -/
def lineEnd? (s : String) : Option Char :=
  if s.toList.contains '\n' then some '\n' else if s.toList.contains '\r' then some '\r' else none

def checkArgument (s : String) : Except Fault Unit :=
  match lineEnd? s with
  | some c => .error (.invalidCharacter c)
  | none => .ok ()

namespace Command

def text : Command → String
  | startTls => "STARTTLS"
  | login username password => "LOGIN " ++ argument username ++ " " ++ argument password
  | select mailbox => "SELECT " ++ argument mailbox
  | fetch query => "FETCH " ++ Query.allMessages ++ " " ++ query.text
  | logout => "LOGOUT"

/-- Whether every argument of a command may be one; the first that may not is the one that is reported. -/
def check : Command → Except Fault Unit
  | login username password => do
    checkArgument username
    checkArgument password
  | select mailbox => checkArgument mailbox
  | _ => .ok ()

end Command

def tag (n : Nat) : String := String.ofList ('A' :: Text.zeroPadded 4 n)

end Imap
end Postbag
