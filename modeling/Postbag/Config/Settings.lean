import Postbag.Text.Decimal
/-!
# Settings — where the mailbox is and who reads it

Four variables say it.  The host and the port have defaults; the name and the password have none.  The port is looked at
first, so a bad port is reported before a missing name, and a missing name before a missing password.
-/
namespace Postbag

structure Settings where
  host : String
  port : UInt16
  username : String
  password : String
  deriving Repr, DecidableEq

namespace Settings

inductive Fault
  | invalidPort (cause : Text.NumberFault)
  | missing (name : String)
  deriving Repr, DecidableEq

def Fault.message : Fault → String
  | .invalidPort cause => "Invalid IMAP_PORT: " ++ cause.message
  | .missing name => name ++ " not set"

def defaultHost : String := "127.0.0.1"

def defaultPort : UInt16 := 1143

def readPort : Option String → Except Fault UInt16
  | none => .ok defaultPort
  | some raw =>
    match Text.readNumber 65535 raw.toList with
    | .ok n => .ok (UInt16.ofNat n)
    | .error cause => .error (.invalidPort cause)

def required (lookup : String → Option String) (name : String) : Except Fault String :=
  match lookup name with
  | some value => .ok value
  | none => .error (.missing name)

def ofLookup (lookup : String → Option String) : Except Fault Settings := do
  let port ← readPort (lookup "IMAP_PORT")
  let username ← required lookup "IMAP_USERNAME"
  let password ← required lookup "IMAP_PASSWORD"
  return { host := (lookup "IMAP_HOST").getD defaultHost, port, username, password }

end Settings
end Postbag
