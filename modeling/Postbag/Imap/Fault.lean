import Postbag.Bytes.Utf8
import Postbag.Failure.Tree
import Postbag.Text.Search
/-!
# Fault — what can go wrong in a conversation with a server

Each fault has a text of its own.  As a `Failure` it keeps that text, with one exception: the text of a response that
could not be read ends in everything that was received, mail included.  Such a text is reduced to the name of the
reader's complaint and the number of the FETCH response that it is about.
-/
namespace Postbag
namespace Imap

inductive Fault
  | io (text : String)
  | bad (text : String)
  | no (text : String)
  | connectionLost
  | append
  | invalidCharacter (c : Char)
  | invalidStatus
  | unexpected (text : String)
  | missing (text : String)
  | authentication (text : String)
  | notUtf8 (octets : List UInt8)
  deriving Repr, DecidableEq

namespace Fault

def listText (octets : List UInt8) : String := "[" ++ ", ".intercalate (octets.map fun b => toString b.toNat) ++ "]"

def lengthText : Option Nat → String
  | none => "None"
  | some n => "Some(" ++ toString n ++ ")"

def utf8Text (octets : List UInt8) : String :=
  let fault := (Utf8.fault? octets).getD ⟨octets.length, none⟩
  "Utf8Error \x7b valid_up_to: " ++ toString fault.validUpTo ++ ", error_len: " ++ lengthText fault.length ++ " \x7d"

def text : Fault → String
  | io t => "io: " ++ t
  | bad t => "bad response: " ++ t
  | no t => "no response: " ++ t
  | connectionLost => "connection lost"
  | append => "could not append mail to mailbox"
  | invalidCharacter c => "validate: invalid character in input: '" ++ c.toString ++ "'"
  | invalidStatus => "parse: unable to parse status response"
  | unexpected t => "parse: encountered unexpected parsed response: " ++ t
  | missing t => "parse: expected response not found for: " ++ t
  | authentication t => "parse: unable to parse authentication response: " ++ t ++ " - None"
  | notUtf8 octets =>
    "parse: unable to parse data (" ++ listText octets ++ ") as UTF-8 text: " ++ utf8Text octets

/-- What stands between a reader's complaint and what it was reading. -/
def marker : List Char := " during parsing of ".toList

/-- The name of a complaint: the letters and digits after its first `code: `. -/
def complaintName (complaint : List Char) : List Char :=
  match Text.cut? "code: ".toList complaint with
  | some (_, rest) => rest.takeWhile fun c => c.isAlphanum
  | none => "unknown".toList

/-- The number of the FETCH response that a text in quotes begins with. -/
def responseNumber? (quoted : List Char) : Option UInt32 := do
  let rest ← Text.after? "* ".toList (quoted.dropWhile (· == '"'))
  let (number, rest) ← Text.cut? [' '] rest
  if Text.startsWith "FETCH".toList rest then
    match Text.readNumber (UInt32.size - 1) number with
    | .ok n => some (UInt32.ofNat n)
    | .error _ => none
  else none

/-- **The reduction of a device's text** that quotes what could not be read. -/
def unparsable? (t : String) : Option Failure :=
  (Text.cut? marker t.toList).map fun (complaint, quoted) =>
    .unparsable (responseNumber? quoted) (String.ofList (complaintName complaint))

/-- **The failure that a fault is to the caller.** -/
def toFailure : Fault → Failure
  | io t => (unparsable? t).getD (.imap (io t).text)
  | fault => .imap fault.text

end Fault
end Imap
end Postbag
