import Postbag.Text.Decimal
import Postbag.Text.Search
/-!
# Arguments — what the command line asks for

Arguments are read from the left, and the first thing that is wrong ends the reading; a request for help that comes
before it is granted.  Options have long names, a value may follow its option or stand behind `=`, and no option may be
given twice.
-/
namespace Postbag
namespace Cli

structure Options where
  mailbox : String
  limit : Option Nat
  json : Bool
  deriving Repr, DecidableEq

inductive Request
  | list (options : Options)
  | help
  | misuse
  deriving Repr, DecidableEq

structure Given where
  mailbox : Option String
  limit : Option Nat
  json : Bool
  deriving Repr, DecidableEq

namespace Given

def none : Given := ⟨.none, .none, false⟩

def options (g : Given) : Options := ⟨g.mailbox.getD "INBOX", g.limit, g.json⟩

def setMailbox (g : Given) (value : String) : Option Given :=
  if g.mailbox.isSome then .none else some { g with mailbox := some value }

def setLimit (g : Given) (value : String) : Option Given :=
  if g.limit.isSome then .none
  else
    match Text.readNumber (UInt64.size - 1) value.toList with
    | .ok n => some { g with limit := some n }
    | .error _ => .none

def setJson (g : Given) : Option Given := if g.json then .none else some { g with json := true }

end Given

inductive Argument
  | mailbox (value : Option String)
  | limit (value : Option String)
  | json
  | help
  /-- `--`, behind which there are no options. -/
  | separator
  | unknown
  deriving Repr, DecidableEq

def Argument.ofString (a : String) : Argument :=
  if a = "--mailbox" then .mailbox none
  else if a = "--limit" then .limit none
  else if a = "--json" then .json
  else if a = "--help" || Text.startsWith "-h".toList a.toList then .help
  else if a = "--" then .separator
  else
    match Text.after? "--mailbox=".toList a.toList with
    | some value => .mailbox (some (String.ofList value))
    | none =>
      match Text.after? "--limit=".toList a.toList with
      | some value => .limit (some (String.ofList value))
      | none => .unknown

/-- Whether an argument can be the value of the option before it: one that looks like an option cannot. -/
def isValue (a : String) : Bool := a = "-" || !Text.startsWith ['-'] a.toList

/-- What arguments come to, behind those that were read.  `set` takes the value of an option that still lacks it. -/
def readFrom : (set : Option (String → Option Given)) → Given → List String → Request
  | none, g, [] => .list g.options
  | some _, _, [] => .misuse
  | some set, _, a :: as =>
    if isValue a then
      match set a with
      | some g => readFrom none g as
      | none => .misuse
    else .misuse
  | none, g, a :: as =>
    match Argument.ofString a with
    | .mailbox none => if g.mailbox.isSome then .misuse else readFrom (some g.setMailbox) g as
    | .mailbox (some value) =>
      match g.setMailbox value with
      | some g => readFrom none g as
      | none => .misuse
    | .limit none => if g.limit.isSome then .misuse else readFrom (some g.setLimit) g as
    | .limit (some value) =>
      match g.setLimit value with
      | some g => readFrom none g as
      | none => .misuse
    | .json =>
      match g.setJson with
      | some g => readFrom none g as
      | none => .misuse
    | .help => .help
    | .separator => if as.isEmpty then .list g.options else .misuse
    | .unknown => .misuse

def Request.ofArguments (as : List String) : Request := readFrom none .none as

end Cli
end Postbag
