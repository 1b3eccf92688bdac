import Postbag.Imap.Response
import Postbag.Imap.Strings
/-!
# Conditions — status lines, and the codes in them
-/
namespace Postbag
namespace Imap

open Reader

def asciiText (bs : List UInt8) : String := Utf8.decodeString bs

def capability (name : List UInt8) : Capability :=
  let lowered := name.map lower
  if lowered = ascii "imap4rev1" then .imap4rev1
  else if lowered.take 5 = ascii "auth=" then .auth (asciiText (name.drop 5))
  else .atom (asciiText name)

def capabilities : Reader (List Capability) := do
  word "CAPABILITY"
  let cs ← many (do word " "; capability <$> span1 isAtom)
  if cs.contains .imap4rev1 then return cs else refuse

def code : Reader Code := do
  word "["
  let c ← firstOf [
    (do word "ALERT"; return Code.alert),
    (do
      word "BADCHARSET"
      let cs ← optional (do word " "; parenthesized astring)
      return .badCharset (cs.map (List.map asciiText))),
    Code.capabilities <$> capabilities,
    (do word "PARSE"; return .parse),
    (do word "PERMANENTFLAGS "; (fun fs => .permanentFlags (fs.map asciiText)) <$>
          parenthesized (either (do word "\\*"; return [0x5C, 0x2A]) flag)),
    (do word "UIDVALIDITY "; (fun n => .uidValidity n.toNat) <$> number),
    (do word "UIDNEXT "; (fun n => .uidNext n.toNat) <$> number),
    (do word "UNSEEN "; (fun n => .unseen n.toNat) <$> number),
    (do word "READ-ONLY"; return .readOnly),
    (do word "READ-WRITE"; return .readWrite),
    (do word "TRYCREATE"; return .tryCreate),
    (do word "UIDNOTSTICKY"; return .uidNotSticky),
    (do word "HIGHESTMODSEQ "; Code.highestModSeq <$> numberBelow UInt64.size)]
  word "]"
  return c

/-- The words behind a status and its space.  A code that is not known is part of the text; of the text behind a known
code, the first character is the space between them. -/
def remark : Reader Remark := do
  let c ← optional code
  let t ← span isText
  return ⟨c, if t.isEmpty then none else some (asciiText (if c.isSome then t.drop 1 else t))⟩

def status : Reader Status := firstOf [
  (do word "OK"; return .ok), (do word "NO"; return .no), (do word "BAD"; return .bad),
  (do word "PREAUTH"; return .preauth), (do word "BYE"; return .bye)]

def condition : Reader (Status × Remark) := do
  let s ← status
  let r ← optional (do word " "; remark)
  return (s, r.getD ⟨none, none⟩)

end Imap
end Postbag
