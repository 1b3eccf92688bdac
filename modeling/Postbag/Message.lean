import Postbag.Envelope
import Postbag.Log
/-!
# Message — a mail with its number, its headers and its octets

A server answers a FETCH with *records*, each of which may lack anything.  A record is looked at in a fixed order: the
number, the envelope, the body; the first thing that is wrong is the one that is reported.
-/
namespace Postbag

structure Record where
  uid : UInt32
  envelope : Option Envelope
  body : Option (List UInt8)
  deriving Repr, DecidableEq

structure Message where
  uid : UInt32
  body : List UInt8
  headers : Headers
  deriving Repr, DecidableEq

namespace Message

/-- **The message of a record**, or what is wrong with the record. -/
def ofRecord (r : Record) : Except Failure Message :=
  if r.uid = 0 then .error .invalidUid
  else
    match r.envelope with
    | none => .error (.malformedEnvelope r.uid)
    | some envelope =>
      match r.body with
      | none => .error (.missingBody r.uid)
      | some [] => .error (.emptyBody r.uid)
      | some (b :: bs) => .ok ⟨r.uid, b :: bs, Headers.ofEnvelope envelope⟩

end Message

namespace Envelope

/-- A date that is none is told, and otherwise passed over. -/
def log (e : Envelope) : List LogEntry :=
  match e.date with
  | none => []
  | some raw => if (Headers.readDate raw).isNone then [.badDate raw] else []

end Envelope

namespace Record

/-- What is told of a record while it is looked at: nothing before its number and its envelope are seen to be there, and
nothing of its body. -/
def log (r : Record) : List LogEntry :=
  if r.uid = 0 then []
  else
    match r.envelope with
    | none => []
    | some envelope => envelope.log ++ [.fetched r.uid (Headers.ofEnvelope envelope).subject]

end Record
end Postbag
