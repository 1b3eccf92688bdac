import Postbag.Address
import Postbag.Date.Header
import Postbag.EncodedWord
/-!
# Envelope — what a server tells of a message's header

An `Envelope` holds the header fields as they were sent.  `Headers` is what a reader of mail gets of them: the date as a
moment, the subject decoded, each correspondent as one text.  The recipients are those of To, of Cc and of Cc again;
Bcc and display names do not come out.
-/
namespace Postbag

structure Envelope where
  date : Option String
  subject : Option String
  sender : List Address
  «to» : List Address
  cc : List Address
  bcc : List Address
  messageId : Option String
  deriving Repr, DecidableEq

structure Headers where
  date : Option Timestamp
  subject : String
  sender : List String
  recipients : List String
  messageId : String
  deriving Repr, DecidableEq

namespace Headers

def empty : Headers := ⟨none, "", [], [], ""⟩

def readDate (raw : String) : Option Timestamp := HeaderDate.read raw.toList

/-- **What a reader gets of an envelope.** -/
def ofEnvelope (e : Envelope) : Headers where
  date := e.date.bind readDate
  subject := (e.subject.map HeaderText.decode).getD ""
  sender := e.sender.map Address.spec
  recipients := e.«to».map Address.spec ++ e.cc.map Address.spec ++ e.cc.map Address.spec
  messageId := e.messageId.getD ""

end Headers
end Postbag
