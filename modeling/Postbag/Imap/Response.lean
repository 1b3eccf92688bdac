import Postbag.Message
/-!
# Response — what a server says

A response is one of three: a line that begins with `+` and asks to go on, data that begins with `*`, or the end of a
command, which begins with the command's tag.  Of the data, the number of messages, the status lines and the FETCH
responses matter here; the rest is read so that it can be passed over.
-/
namespace Postbag
namespace Imap

inductive Status
  | ok | no | bad | preauth | bye
  deriving Repr, DecidableEq

def Status.name : Status → String
  | .ok => "Ok"
  | .no => "No"
  | .bad => "Bad"
  | .preauth => "PreAuth"
  | .bye => "Bye"

inductive Capability
  | imap4rev1
  | auth (mechanism : String)
  | atom (name : String)
  deriving Repr, DecidableEq

/-- What a status line says in brackets, of the things that are known. -/
inductive Code
  | alert | parse | readOnly | readWrite | tryCreate | uidNotSticky
  | uidNext (n : Nat)
  | uidValidity (n : Nat)
  | unseen (n : Nat)
  | highestModSeq (n : Nat)
  | permanentFlags (flags : List String)
  | badCharset (charsets : Option (List String))
  | capabilities (list : List Capability)
  deriving Repr, DecidableEq

structure Remark where
  code : Option Code
  text : Option String
  deriving Repr, DecidableEq

inductive Response
  | goOn
  | condition (status : Status) (remark : Remark)
  | count (n : UInt32)
  | fetch (record : Record)
  | other
  | tagged (tag : List UInt8) (status : Status) (remark : Remark)
  deriving Repr, DecidableEq

end Imap
end Postbag
