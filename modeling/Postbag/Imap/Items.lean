import Postbag.Imap.Envelopes
import Postbag.Message
/-!
# Items — what a FETCH response tells of a message
-/
namespace Postbag
namespace Imap

open Reader

inductive Attribute
  | uid (n : UInt32)
  | envelope (e : Envelope)
  | body (octets : Option (List UInt8))
  | other
  deriving Repr, DecidableEq

/-- The part of a message between the brackets of `BODY[…]`: whether it is the whole message. -/
def wholeSection : Reader Bool := do
  let named : Reader Unit := firstOf [
    (do
      word "HEADER.FIELDS"
      let _ ← optional (word ".NOT")
      word " "
      let _ ← parenthesized astring),
    word "HEADER", word "TEXT", word "MIME"]
  let numbered : Reader Unit := do
    let _ ← number
    let _ ← many (do word "."; number)
    let _ ← optional (do word "."; named)
  Option.isNone <$> optional (either named numbered)

def bodySection : Reader Attribute := do
  word "BODY["
  let whole ← wholeSection
  word "]"
  let _ ← optional (do word "<"; let _ ← number; word ">")
  word " "
  let octets ← nstring
  return if whole then .body octets else .other

def item : Reader Attribute := firstOf [
  (do word "UID "; Attribute.uid <$> number),
  (do word "ENVELOPE "; Attribute.envelope <$> envelope),
  bodySection,
  (do word "RFC822.SIZE "; let _ ← number; return .other),
  (do word "RFC822.HEADER "; let _ ← nstring; return .other),
  (do word "RFC822.TEXT "; let _ ← nstring; return .other),
  (do word "RFC822 "; Attribute.body <$> nstring),
  (do word "FLAGS "; let _ ← parenthesized flag; return .other),
  (do word "INTERNALDATE "; let _ ← string; return .other),
  (do word "MODSEQ ("; let _ ← numberBelow UInt64.size; word ")"; return .other)]

/-- **The record of a FETCH response**: the last number, the first envelope, and the first whole message that is
there. -/
def recordOf (as : List Attribute) : Record where
  uid := (as.foldl (fun n a => match a with | .uid m => some m | _ => n) none).getD 0
  envelope := as.findSome? fun a => match a with | .envelope e => some e | _ => none
  body := as.findSome? fun a => match a with | .body b => b | _ => none

end Imap
end Postbag
