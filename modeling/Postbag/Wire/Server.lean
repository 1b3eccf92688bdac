import Postbag.Text.Search
/-!
# Server — a server whose side of a conversation is written down

The server greets, then answers each line with the next reply it has.  A reply may be the last thing it says.  When the
replies are used up it answers a LOGOUT as servers do, and hangs up on anything else.
-/
namespace Postbag

inductive ReplyPart
  | octet (b : UInt8)
  | tag
  deriving Repr, DecidableEq

structure Reply where
  parts : List ReplyPart
  /-- Nothing is said after them. -/
  closes : Bool
  deriving Repr, DecidableEq

namespace Reply

def placeholder : List UInt8 := [0x7B, 0x74, 0x61, 0x67, 0x7D]

/-- The parts of a template; `skip` counts the octets of a placeholder that are still to be passed over. -/
def partsFrom : (skip : Nat) → List UInt8 → List ReplyPart
  | _, [] => []
  | skip + 1, _ :: bs => partsFrom skip bs
  | 0, b :: bs =>
    if Text.startsWith placeholder (b :: bs) then .tag :: partsFrom (placeholder.length - 1) bs
    else .octet b :: partsFrom 0 bs

/-- A reply in which each `{tag}` stands for the tag. -/
def ofTemplate (octets : List UInt8) (closes : Bool) : Reply := ⟨partsFrom 0 octets, closes⟩

def ofText (t : String) : Reply := ofTemplate (t.toList.map fun c => UInt8.ofNat c.toNat) false

def hangUp : Reply := ⟨[], true⟩

def said (r : Reply) (tag : List UInt8) : List UInt8 :=
  r.parts.flatMap fun part =>
    match part with
    | .octet b => [b]
    | .tag => tag

/-- The answer to a LOGOUT for which no other was written down. -/
def goodbye : Reply := ofText "* BYE logging out\r\n\x7btag\x7d OK LOGOUT completed\r\n"

end Reply

/-- What a server makes of the handshake by which a connection becomes a private one. -/
inductive Handshake
  | succeeds
  | garbage
  | closes
  deriving Repr, DecidableEq

structure Server where
  greeting : List UInt8
  startTls : Reply
  handshake : Handshake
  login : Reply
  replies : List Reply
  deriving Repr, DecidableEq

inductive DialFault
  | refused | unreachable
  deriving Repr, DecidableEq

def DialFault.text : DialFault → String
  | .refused => "Connection refused (os error 111)"
  | .unreachable => "Network is unreachable (os error 101)"

inductive Dial
  | reached (server : Server)
  | failed (fault : DialFault)
  deriving Repr, DecidableEq

end Postbag
