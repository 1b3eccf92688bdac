import Postbag.Config.Settings
import Postbag.Imap.Command
import Postbag.Wire.Feed
import Postbag.Wire.HostName
import Postbag.Wire.Server
/-!
# Connection — a conversation with a server, from the first octet to the last

A connection holds what the server has said and the client has not read yet, what the server will say, and every line
that was sent.  It begins in the open, where the only command is the one that asks for a private connection.  What was
said in the open is dropped when the private connection begins: the two share no octets.
-/
namespace Postbag
namespace Wire

open Imap (Command Fault)

/-- A line that was sent; `heard` tells whether the server still listened. -/
structure Sent where
  tag : Nat
  command : Command
  heard : Bool
  deriving Repr, DecidableEq

def Sent.line (s : Sent) : String := Imap.tag s.tag ++ " " ++ s.command.text

structure Connection where
  /-- What was received and not read; nothing where nothing more will be read. -/
  incoming : Option (List UInt8)
  /-- What the server will say; nothing where it has hung up. -/
  replies : Option (List Reply)
  lastTag : Nat
  sent : List Sent

/-- A connection on which nothing was sent, after those lines. -/
def Connection.fresh (greeting : List UInt8) (replies : List Reply) (sent : List Sent) : Connection :=
  ⟨some greeting, some replies, 0, sent⟩

def answer (command : Command) : List Reply → Reply × List Reply
  | r :: rs => (r, rs)
  | [] => (match command with
    | .logout => Reply.goodbye
    | _ => Reply.hangUp, [])

namespace Connection

def tagOctets (c : Connection) : List UInt8 := Imap.Reader.ascii (Imap.tag c.lastTag)

/-- **Sends a command.**  A server that listens answers it; one that has hung up never hears it. -/
def send (c : Connection) (command : Command) : Connection :=
  let tag := c.lastTag + 1
  match c.replies with
  | none => { c with lastTag := tag, sent := c.sent ++ [⟨tag, command, false⟩] }
  | some replies =>
    let (reply, rest) := answer command replies
    { incoming := c.incoming.map (· ++ reply.said (Imap.Reader.ascii (Imap.tag tag)))
      replies := if reply.closes then none else some rest
      lastTag := tag
      sent := c.sent ++ [⟨tag, command, true⟩] }

def feed (c : Connection) : Feed := (c.incoming.map Feed.ofOctets).getD .ended

def ask {α : Type} (c : Connection) (command : Command) (hear : (tag : List UInt8) → Feed → Heard α) :
    α × Connection :=
  let c := c.send command
  let h := hear c.tagOctets c.feed
  (h.value, { c with incoming := h.left })

/-- A command that is only sent if its arguments may be sent. -/
def askChecked {α : Type} (c : Connection) (command : Command)
    (hear : (tag : List UInt8) → Feed → Heard (Except Fault α)) : Except Fault α × Connection :=
  match command.check with
  | .error f => (.error f, c)
  | .ok () => c.ask command hear

/-! ## Connecting -/

/-- What is logged before an address is dialled. -/
def announcement (s : Settings) : LogEntry := .connecting (s.host ++ ":" ++ toString s.port.toNat)

/-- A private connection that is logged in, or why there is none; what is logged behind the announcement; and every line
that was sent up to then. -/
structure Attempt where
  outcome : Except Failure Connection
  log : List LogEntry
  sent : List Sent

def Attempt.failed (e : Failure) (sent : List Sent) : Attempt := ⟨.error e, [], sent⟩

def login (s : Settings) (c : Connection) : Attempt :=
  let (result, c) := c.askChecked (.login s.username s.password) Feed.outcome
  match result with
  | .error f => .failed (.imap ("Login failed: " ++ f.text)) c.sent
  | .ok () => ⟨.ok c, [.connected s.host], c.sent⟩

def secure (s : Settings) (server : Server) (c : Connection) : Attempt :=
  if !HostName.isValid s.host then .failed (.tls "Invalid server name: invalid dns name") c.sent
  else if c.replies.isNone then .failed (.tls "tls handshake eof") c.sent
  else
    match server.handshake with
    | .closes => .failed (.tls "tls handshake eof") c.sent
    | .garbage => .failed (.tls "received corrupt message of type InvalidContentType") c.sent
    | .succeeds => login s (.fresh [] (server.login :: server.replies) c.sent)

def connect (s : Settings) : Dial → Attempt
  | .failed fault => .failed (.io (.device fault.text)) []
  | .reached server =>
    let (result, c) := (fresh server.greeting [server.startTls] []).ask .startTls Feed.outcome
    match result with
    | .error f => .failed (.tls ("STARTTLS failed: " ++ f.text)) c.sent
    | .ok () => secure s server c

/-! ## Reading mailboxes -/

def select (c : Connection) (mailbox : String) : Except Failure UInt32 × Connection :=
  let (result, c) := c.askChecked (.select mailbox) fun tag feed => feed.selected tag 0
  (result.mapError Fault.toFailure, c)

/-- A FETCH of every message.  What the consumer leaves unread is read and dropped when it is released, so the connection
is behind the end of the command whatever happens. -/
def fetch (c : Connection) : Fetch × Connection :=
  let (steps, c) := c.ask (.fetch .messages) Feed.steps
  (⟨steps, .drains⟩, c)

def stream (c : Connection) (mailbox : String) (consumer : Consumer) : Run × Connection :=
  let (count, c) := c.select mailbox
  match count with
  | .error e => (Stream.run ⟨.error e, .ok ⟨[], .drains⟩⟩ [] mailbox consumer, c)
  | .ok n =>
    if n = 0 then (Stream.run ⟨.ok n, .ok ⟨[], .drains⟩⟩ [] mailbox consumer, c)
    else
      let (fetch, c) := c.fetch
      (Stream.run ⟨.ok n, .ok fetch⟩ [] mailbox consumer, c)

def collect (c : Connection) (mailbox : String) : (Run × Except Failure (List Message)) × Connection :=
  let (r, c) := c.stream mailbox .collecting
  ((r, r.messages), c)

def logout (c : Connection) : Except Failure Unit × Connection :=
  let (result, c) := c.ask .logout Feed.outcome
  (result.mapError Fault.toFailure, c)

end Connection
end Wire
end Postbag
