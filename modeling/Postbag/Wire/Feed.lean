import Postbag.Imap.Fault
import Postbag.Imap.Received
import Postbag.Stream
import Postbag.Text.Shown
/-!
# Feed — the responses that the octets of a connection hold

Octets that are no response, and octets that stop inside one, end the feed with a fault; behind it nothing is read any
more.  A server that says nothing more is taken to have hung up.
-/
namespace Postbag
namespace Wire

open Imap (Response Status Remark Fault)

inductive Feed
  /-- A response, the octets behind it, and what they hold. -/
  | response (r : Response) (behind : List UInt8) (next : Feed)
  | fault (f : Fault)
  | ended

def unreadable (received : List UInt8) : Fault :=
  let (stuck, name) := Imap.complaint received
  .io ("Error(Error \x7b input: " ++ Fault.listText stuck ++ ", code: " ++ name ++ " \x7d)" ++
    String.ofList Fault.marker ++ String.ofList (Text.shown (Utf8.decode received)))

def unfinished : Fault := .io "bytes remaining in stream"

namespace Feed

def upTo : (limit : Nat) → List UInt8 → Feed
  | _, [] => .ended
  | 0, _ :: _ => .ended
  | limit + 1, b :: bs =>
    match Imap.response (b :: bs) with
    | .done r behind => .response r behind (upTo limit behind)
    | .more => .fault unfinished
    | .refused => .fault (unreadable (b :: bs))

/-- **The responses of octets**, each of which is at least one octet. -/
def ofOctets (bs : List UInt8) : Feed := upTo bs.length bs

end Feed

/-- What was learnt from a feed, and the octets that are left; none are where nothing more can be read. -/
structure Heard (α : Type) where
  value : α
  left : Option (List UInt8)

def codeText : Option Imap.Code → String
  | none => "None"
  | some c => "Some(" ++ shownCode c ++ ")"
where
  quotedText (s : String) : String := String.ofList (Text.shown s.toList)
  listText (l : List String) : String := "[" ++ ", ".intercalate l ++ "]"
  shownCapability : Imap.Capability → String
    | .imap4rev1 => "Imap4rev1"
    | .auth m => "Auth(" ++ quotedText m ++ ")"
    | .atom n => "Atom(" ++ quotedText n ++ ")"
  shownCode : Imap.Code → String
    | .alert => "Alert"
    | .parse => "Parse"
    | .readOnly => "ReadOnly"
    | .readWrite => "ReadWrite"
    | .tryCreate => "TryCreate"
    | .uidNotSticky => "UidNotSticky"
    | .uidNext n => "UidNext(" ++ toString n ++ ")"
    | .uidValidity n => "UidValidity(" ++ toString n ++ ")"
    | .unseen n => "Unseen(" ++ toString n ++ ")"
    | .highestModSeq n => "HighestModSeq(" ++ toString n ++ ")"
    | .permanentFlags fs => "PermanentFlags(" ++ listText (fs.map quotedText) ++ ")"
    | .badCharset none => "BadCharset(None)"
    | .badCharset (some cs) => "BadCharset(Some(" ++ listText (cs.map quotedText) ++ "))"
    | .capabilities cs => "Capabilities(" ++ listText (cs.map shownCapability) ++ ")"

def remarkText : Option String → String
  | none => "None"
  | some t => "Some(" ++ String.ofList (Text.shown t.toList) ++ ")"

def statusFault (s : Status) (r : Remark) : Fault :=
  match s with
  | .bad => .bad ("code: " ++ codeText r.code ++ ", info: " ++ remarkText r.text)
  | .no => .no ("code: " ++ codeText r.code ++ ", info: " ++ remarkText r.text)
  | s => .io ("status: " ++ s.name ++ ", code: " ++ codeText r.code ++ ", information: " ++ remarkText r.text)

namespace Feed

/-- **The outcome of a command that only succeeds or fails.**  The end of any command that is not `OK` is a failure; data
is passed over. -/
def outcome (tag : List UInt8) : Feed → Heard (Except Fault Unit)
  | .ended => ⟨.error .connectionLost, none⟩
  | .fault f => ⟨.error f, none⟩
  | .response (.tagged t .ok _) behind next => if t = tag then ⟨.ok (), some behind⟩ else next.outcome tag
  | .response (.tagged _ s r) behind _ => ⟨.error (statusFault s r), some behind⟩
  | .response _ _ next => next.outcome tag

/-- **The number of messages in a mailbox that is selected**: the last one that is told, after `count`.  A status line
that is not `OK` is a failure; the end of another command is passed over. -/
def selected (tag : List UInt8) : (count : UInt32) → Feed → Heard (Except Fault UInt32)
  | count, .ended => ⟨.ok count, none⟩
  | _, .fault f => ⟨.error f, none⟩
  | count, .response r behind next =>
    match r with
    | .tagged t s remark =>
      if t = tag then
        match s with
        | .ok => ⟨.ok count, some behind⟩
        | s => ⟨.error (statusFault s remark), some behind⟩
      else next.selected tag count
    | .condition .ok _ => next.selected tag count
    | .condition s remark => ⟨.error (statusFault s remark), some behind⟩
    | .count n => next.selected tag n
    | _ => next.selected tag count

/-- **The steps of a FETCH**: its responses up to the end of the command, whatever its status, or up to a fault. -/
def steps (tag : List UInt8) : Feed → Heard (List Step)
  | .ended => ⟨[], none⟩
  | .fault f => ⟨[.error f.toFailure], none⟩
  | .response r behind next =>
    match r with
    | .tagged t _ _ => if t = tag then ⟨[], some behind⟩ else next.steps tag
    | .fetch record =>
      let h := next.steps tag
      ⟨.ok record :: h.value, h.left⟩
    | _ => next.steps tag

end Feed
end Wire
end Postbag
