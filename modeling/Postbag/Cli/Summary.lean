import Postbag.Cli.Document
import Postbag.Message
/-!
# Summary — what is printed of a message

As a document, a message is its number, the number of its octets and its headers.  In the table it is one row of four
columns; a sender or a subject that is too long is cut and ends in three dots.
-/
namespace Postbag
namespace Cli

/-- What is printed of a message; of the body only its size. -/
structure Summary where
  uid : UInt32
  size : Nat
  headers : Headers
  deriving Repr, DecidableEq

namespace Summary

def ofMessage (m : Message) : Summary := ⟨m.uid, m.body.length, m.headers⟩

/-! ## As a document -/

def texts (l : List String) : Document := .list (l.map .text)

def headersDocument (h : Headers) : Document := .object [
  ("date", match h.date with
    | some t => .text t.zulu
    | none => .null),
  ("subject", .text h.subject),
  ("from", texts h.sender),
  ("recipients", texts h.recipients),
  ("message_id", .text h.messageId)]

def document (s : Summary) : Document :=
  .object [("uid", .number s.uid.toNat), ("size", .number s.size), ("envelope", headersDocument s.headers)]

/-- **All messages as one document.** -/
def documentText (l : List Summary) : String := (Document.list (l.map document)).render ++ "\n"

/-! ## In a table -/

def padded (width : Nat) (s : List Char) : List Char := s ++ List.replicate (width - s.length) ' '

/-- A text in at most `max` characters, the last three of which are dots where it was cut. -/
def truncated (max : Nat) (s : List Char) : List Char :=
  if s.length ≤ max then s else s.take (max - 3) ++ ['.', '.', '.']

def columns (number date sender subject : List Char) : List Char :=
  padded 8 number ++ ' ' :: padded 20 date ++ ' ' :: padded 30 sender ++ ' ' :: subject

def heading : List Char := columns "UID".toList "Date".toList "From".toList "Subject".toList

def rule : List Char := List.replicate 100 '-'

def dateColumn (s : Summary) : List Char := ((s.headers.date.map Timestamp.short).getD "-").toList

def senderColumn (s : Summary) : List Char := truncated 28 (", ".intercalate s.headers.sender).toList

def subjectColumn (s : Summary) : List Char := truncated 40 s.headers.subject.toList

def row (s : Summary) : List Char := columns (Text.digits s.uid.toNat) s.dateColumn s.senderColumn s.subjectColumn

def total (l : List Summary) : List Char := Text.digits l.length ++ " message(s)".toList

def tableLines (l : List Summary) : List (List Char) :=
  if l.isEmpty then ["No messages found.".toList] else [heading, rule] ++ l.map row ++ [[], total l]

/-- **All messages as a table.** -/
def tableText (l : List Summary) : String := String.ofList ((tableLines l).flatMap (· ++ ['\n']))

end Summary
end Cli
end Postbag
