import Postbag.Imap.Conditions
import Postbag.Imap.Items
/-!
# Received — responses at the front of the octets that a connection holds
-/
namespace Postbag
namespace Imap

open Reader

def messageData : Reader Response := do
  let n ← number
  word " "
  firstOf [
    (do word "EXISTS"; return .count n),
    (do word "RECENT"; return .other),
    (do word "EXPUNGE"; return .other),
    (do
      word "FETCH ("
      let as ← spaced item
      let _ ← span (· = 0x20)
      word ")"
      return .fetch (recordOf as))]

def data : Reader Response := do
  word "* "
  let r ← firstOf [
    (do let (s, r) ← condition; return Response.condition s r),
    messageData,
    (do word "FLAGS "; let _ ← parenthesized flag; return .other),
    (do
      word "LIST "
      let _ ← parenthesized flag
      word " "
      let _ ← either (do word "NIL"; return []) quoted
      word " "
      let _ ← astring
      return .other),
    (do word "SEARCH"; let _ ← many (do word " "; number); return .other),
    (do let _ ← capabilities; return .other)]
  let _ ← span (· = 0x20)
  word "\r\n"
  return r

def goOn : Reader Response := do
  word "+"
  let _ ← optional (word " ")
  let _ ← remark
  word "\r\n"
  return .goOn

def tagged : Reader Response := do
  let tag ← span1 isTag
  word " "
  let (s, r) ← condition
  word "\r\n"
  return .tagged tag s r

/-- **The response at the front of octets.** -/
def response : Reader Response := firstOf [goOn, data, tagged]

/-- Where octets that are no response stop being the end of a command, and the name of the complaint. -/
def complaint (received : List UInt8) : List UInt8 × String :=
  match span1 isTag received with
  | .done _ behindTag =>
    match word " " behindTag with
    | .done _ behindSpace =>
      match condition behindSpace with
      | .done _ behindCondition => (behindCondition, "Tag")
      | _ => (behindSpace, "Tag")
    | _ => (behindTag, "Tag")
  | _ => (received, "TakeWhile1")

end Imap
end Postbag
