import Postbag.Failure.Tree
import Postbag.Text.Search
/-!
# Class — which failures concern a single message only

A message whose ENVELOPE the server broke can be passed over; any other failure ends the reading of a mailbox.  A
failure is told to be of the first class by the library's own word for it anywhere in the chain, or by a text that
some server is known to use.  A response that could not be read at all is never of that class, whatever text stands
around it, because it may hide any number of messages.
-/
namespace Postbag

/-- A text by which a malformed ENVELOPE is known, and where it comes from. -/
structure KnownPattern where
  origin : String
  pattern : String
  deriving Repr, DecidableEq

namespace Failure

def knownPatterns : List KnownPattern :=
  [⟨"imapwire", "in envelope"⟩, ⟨"imapwire", "imapwire: expected ')',"⟩]

def matchesKnownPattern (text : String) : Bool :=
  knownPatterns.any fun k => Text.occursIn k.pattern.toList text.toList

def isUnparsable : Failure → Bool
  | unparsable _ _ => true
  | boxed e => e.isUnparsable
  | _ => false

def isSentinel : Failure → Bool
  | malformedEnvelope _ => true
  | boxed e => e.isSentinel
  | _ => false

/-- **Whether a failure tells of a malformed ENVELOPE** and of nothing worse. -/
def isMalformed (e : Failure) : Bool :=
  !e.chain.any isUnparsable && e.chain.any fun link => link.isSentinel || matchesKnownPattern link.text

inductive Class
  /-- The failure concerns one message; reading can go on. -/
  | malformedEnvelope
  | fatal
  deriving Repr, DecidableEq

def classify (e : Failure) : Class := if e.isMalformed then .malformedEnvelope else .fatal

end Failure
end Postbag
