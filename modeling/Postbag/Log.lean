import Postbag.Failure.Tree
/-!
# Log — what is told of a reading while it goes on
-/
namespace Postbag

inductive LogLevel
  | debug | info | warn
  deriving Repr, DecidableEq

def LogLevel.name : LogLevel → String
  | .debug => "DEBUG"
  | .info => "INFO"
  | .warn => "WARN"

inductive LogEntry
  | connecting (address : String)
  | connected (host : String)
  | selected (count : UInt32)
  | emptyMailbox
  | found (count : UInt32)
  | badDate (raw : String)
  | fetched (uid : UInt32) (subject : String)
  | skipped (failure : Failure)
  | stopped
  | discarded (count : Nat)
  | releaseFailed (malformed : Bool) (failure : Failure)
  deriving Repr, DecidableEq

inductive LogValue
  | text (t : String)
  | number (n : Nat)
  deriving Repr, DecidableEq

namespace LogEntry

def level : LogEntry → LogLevel
  | connected _ | emptyMailbox => .info
  | skipped _ | releaseFailed _ _ => .warn
  | _ => .debug

def message : LogEntry → String
  | connecting address => "Connecting to IMAP server at " ++ address
  | connected _ => "Connected to IMAP server"
  | selected _ => "mailbox selected"
  | emptyMailbox => "mailbox is empty"
  | found _ => "new messages found"
  | badDate _ => "ignoring unparseable envelope date"
  | fetched _ _ => "fetched message"
  | skipped _ => "skipping message due to malformed ENVELOPE"
  | stopped => "consumer stopped the stream"
  | discarded _ => "discarded unread FETCH responses"
  | releaseFailed malformed _ => "releasing fetch command failed" ++ Failure.malformedNote malformed

def fields : LogEntry → List (String × LogValue)
  | connecting _ => []
  | connected host => [("host", .text host)]
  | selected count => [("event", .text "imap.mailbox_selected"), ("count", .number count.toNat)]
  | emptyMailbox => [("event", .text "imap.mailbox_empty")]
  | found count => [("event", .text "imap.new_messages"), ("count", .number count.toNat)]
  | badDate raw => [("date", .text raw)]
  | fetched uid subject => [("mail.uid", .number uid.toNat), ("mail.subject", .text subject)]
  | skipped failure => [("error", .text failure.text)]
  | stopped => []
  | discarded count => [("discarded", .number count)]
  | releaseFailed _ failure => [("error", .text failure.text)]

end LogEntry
end Postbag
