import Postbag.Envelope
import Postbag.Imap.Strings
/-!
# Envelopes — the header fields of a message as they are sent

Ten fields stand in a fixed order.  Sender, Reply-To, In-Reply-To and the route of an address are read and dropped.
-/
namespace Postbag
namespace Imap

open Reader

def address : Reader Address := do
  word "("
  let name ← ntext
  word " "
  let _ ← nstring
  word " "
  let mailbox ← ntext
  word " "
  let host ← ntext
  word ")"
  return ⟨name, mailbox, host⟩

/-- One or more addresses, or `NIL` for none; a space may follow each. -/
def addresses : Reader (List Address) :=
  either (do word "NIL"; return [])
    (do
      word "("
      let one : Reader Address := do
        let a ← address
        let _ ← optional (word " ")
        return a
      let a ← one
      let as ← many one
      word ")"
      return a :: as)

def envelope : Reader Envelope := do
  word "("
  let date ← ntext
  word " "
  let subject ← ntext
  word " "
  let sender ← addresses
  word " "
  let _ ← addresses
  word " "
  let _ ← addresses
  word " "
  let «to» ← addresses
  word " "
  let cc ← addresses
  word " "
  let bcc ← addresses
  word " "
  let _ ← nstring
  word " "
  let messageId ← ntext
  word ")"
  return { date, subject, sender, «to», cc, bcc, messageId }

end Imap
end Postbag
