import Postbag.Proofs.Bytes.Utf8
import Postbag.Proofs.Imap.Request
import Postbag.Proofs.Wire.Opening
import Postbag.Proofs.Wire.Rejection
/-!
# Lines — the shape of what a session sends

A session sends the request for a private connection, one login, for each call one selection of its mailbox and at most
one FETCH, and one LOGOUT where it leaves; and nothing else, whatever the names, the consumers and the server are.  What
a server reads of the octets, line by line, is what was meant, because no name can hold the end of a line, and a name
stands between quotes in a form of its own.
-/
namespace Postbag
namespace Wire

open Imap (Command Sendable)

/-! ## The octets of lines -/

def Sent.octets (line : Sent) : List UInt8 := Utf8.encode (line.line.toList ++ ['\r', '\n'])

/-- The lines of octets, each up to a line feed; what stands behind the last one is no line. -/
def linesOf : List UInt8 → List (List UInt8)
  | [] => []
  | b :: bs =>
    if b = 0x0A then [] :: linesOf bs
    else
      match linesOf bs with
      | [] => []
      | l :: ls => (b :: l) :: ls

/-- **What a server reads of a line**: its tag and its command. -/
def request? (line : List UInt8) : Option (String × Command) := do
  let (text, behind) ← Text.cut? ['\r'] (Utf8.decode line)
  let (tag, text) ← Text.cut? [' '] text
  let command ← Command.read? text
  if behind.isEmpty then some (String.ofList tag, command) else none

theorem linesOf_append {l : List UInt8} (h : 0x0A ∉ l) (bs : List UInt8) :
    linesOf (l ++ 0x0A :: bs) = l :: linesOf bs := by
  induction l with
  | nil => rfl
  | cons b l ih =>
    rw [List.mem_cons, not_or] at h
    rw [List.cons_append, linesOf, if_neg (Ne.symm h.1), ih h.2]

theorem mem_tag {n : Nat} {c : Char} (h : c ∈ (Imap.tag n).toList) : c = 'A' ∨ c.isDigit = true := by
  rw [Imap.tag, String.toList_ofList] at h
  rcases List.mem_cons.1 h with h | h
  · exact .inl h
  · exact .inr (Text.isDigit_of_mem_zeroPadded h)

theorem not_mem_tag {c : Char} (hletter : c ≠ 'A') (hdigit : c.isDigit = false) (n : Nat) : c ∉ (Imap.tag n).toList := by
  intro h
  rcases mem_tag h with h | h
  · exact hletter h
  · rw [h] at hdigit
    cases hdigit

theorem toList_line (line : Sent) : line.line.toList = (Imap.tag line.tag).toList ++ ' ' :: line.command.text.toList := by
  simp [Sent.line]

/-- A line that a session sends. -/
structure Sent.Proper (line : Sent) : Prop where
  sendable : line.command.Sendable
  own : line.command.IsOwn

namespace Sent.Proper

variable {line : Sent}

/-- **A line is one line.** -/
theorem sendable_line (h : line.Proper) : Sendable line.line := by
  obtain ⟨hn, hr⟩ := Command.sendable_text h.sendable
  unfold Sendable
  rw [toList_line]
  simp only [List.mem_append, List.mem_cons, not_or]
  exact ⟨⟨not_mem_tag (by decide) (by decide) _, by decide, hn⟩, not_mem_tag (by decide) (by decide) _, by decide, hr⟩

theorem request?_line (h : line.Proper) :
    request? (Utf8.encode (line.line.toList ++ ['\r'])) = some (Imap.tag line.tag, line.command) := by
  have hend := Text.cut?_append (u := []) (v := []) (c := '\r') List.not_mem_nil h.sendable_line.2 []
  have htag := Text.cut?_append (u := []) (v := []) (c := ' ') List.not_mem_nil
    (not_mem_tag (c := ' ') (by decide) (by decide) line.tag) line.command.text.toList
  simp only [List.nil_append, List.append_nil, List.singleton_append] at hend htag
  rw [request?, Utf8.decode_encode, hend]
  simp only [Option.bind_eq_bind, Option.bind_some, toList_line, htag, Command.read?_text h.own]
  simp

end Sent.Proper

/-- **A server reads the lines that were sent**, and no others. -/
theorem requests_of_octets {sent : List Sent} (h : ∀ line ∈ sent, line.Proper) :
    (linesOf (sent.flatMap Sent.octets)).map request? =
      sent.map fun line => some (Imap.tag line.tag, line.command) := by
  induction sent with
  | nil => rfl
  | cons line sent ih =>
    rw [List.forall_mem_cons] at h
    have hline := h.1.sendable_line
    have hend : '\n' ∉ line.line.toList ++ ['\r'] := by
      rw [List.mem_append, not_or]
      exact ⟨hline.1, by decide⟩
    have hoctets : line.octets = Utf8.encode (line.line.toList ++ ['\r']) ++ [0x0A] := by
      rw [Sent.octets, Utf8.encode, Utf8.encode, ← List.singleton_append (x := '\r'), ← List.append_assoc,
        List.flatMap_append]
      rfl
    have hlf : (0x0A : UInt8) ∉ Utf8.encode (line.line.toList ++ ['\r']) := Utf8.not_mem_encode (by decide) hend
    rw [List.flatMap_cons, hoctets, List.append_assoc, List.singleton_append, linesOf_append hlf, List.map_cons,
      List.map_cons, h.1.request?_line, ih h.2]

/-! ## The commands of calls -/

/-- The command that a question about a mailbox comes to. -/
def commandOf? : Event → Option Command
  | .select mailbox => some (.select mailbox)
  | .fetch query => some (.fetch query)
  | _ => none

def Connection.finds (c : Connection) (mailbox : String) : Bool :=
  match (c.select mailbox).1 with
  | .ok count => count != 0
  | .error _ => false

namespace Call

/-- **The commands of a call** that begins on a connection: one that selects its mailbox, and one FETCH where that
succeeds and finds something. -/
def commands (k : Call) (c : Connection) : List Command :=
  if Sendable k.mailbox then .select k.mailbox :: if c.finds k.mailbox then [.fetch .messages] else [] else []

/-- The questions of a call that are sent. -/
def asked (k : Call) (given : Given) : List Command :=
  if Sendable k.mailbox then given.1.trace.filterMap commandOf? else []

/-- What a call gives back whose mailbox cannot be sent: one failure of the selection. -/
def Refused (k : Call) (given : Given) : Prop :=
  ∃ f, given.1.elements = [.error (.select k.mailbox f)] ∧
    given.2 = match k with
      | .messages _ _ => none
      | .collect _ => some (.error (.select k.mailbox f))

end Call

/-- The commands of calls, each on the connection that those before it leave. -/
def commandsOf : Connection → List Call → List Command
  | _, [] => []
  | c, k :: calls => k.commands c ++ commandsOf (k.perform c).2 calls

namespace Connection

theorem select_of_not_sendable {mailbox : String} (h : ¬ Sendable mailbox) (c : Connection) :
    ∃ f, c.select mailbox = (.error f, c) := by
  obtain ⟨f, hf⟩ := Imap.checkArgument_of_not_sendable h
  have hcheck : (Command.select mailbox).check = .error f := hf
  refine ⟨f.toFailure, ?_⟩
  rw [select, askChecked, hcheck]
  rfl

theorem sent_select {mailbox : String} (h : Sendable mailbox) (c : Connection) :
    (c.select mailbox).2.sent = c.sent ++ [⟨c.lastTag + 1, .select mailbox, c.replies.isSome⟩] := by
  have hcheck : (Command.select mailbox).check = .ok () := (Imap.checkArgument_eq_ok_iff mailbox).2 h
  rw [select, askChecked, hcheck]
  exact sent_send c (.select mailbox)

/-- A stream asks on the connection what its trace says. -/
theorem stream_cases (c : Connection) (mailbox : String) (consumer : Consumer) :
    (c.stream mailbox consumer).1.trace.filter Event.isAboutMailbox =
        .select mailbox :: (if c.finds mailbox then [.fetch .messages] else []) ∧
      (c.stream mailbox consumer).2 = if c.finds mailbox then (c.select mailbox).2.fetch.2 else (c.select mailbox).2 := by
  have hfinds : (Answers.mk (c.select mailbox).1 (.ok (c.select mailbox).2.fetch.1)).holds = c.finds mailbox := rfl
  cases hh : c.finds mailbox with
  | false =>
    rw [hh] at hfinds
    rw [stream_of_not_holds consumer rfl hfinds, Stream.filter_isAboutMailbox_run, hfinds]
    exact ⟨rfl, rfl⟩
  | true =>
    rw [hh] at hfinds
    rw [stream_of_holds consumer rfl hfinds rfl, Stream.filter_isAboutMailbox_run, hfinds]
    exact ⟨rfl, rfl⟩

/-- What a consumer does is not told to the server. -/
theorem stream_snd (c : Connection) (mailbox : String) (consumer consumer' : Consumer) :
    (c.stream mailbox consumer).2 = (c.stream mailbox consumer').2 := by
  rw [(stream_cases c mailbox consumer).2, (stream_cases c mailbox consumer').2]

theorem filterMap_commandOf? (t : List Event) :
    t.filterMap commandOf? = (t.filter Event.isAboutMailbox).filterMap commandOf? := by
  rw [List.filterMap_filter]
  refine List.filterMap_congr fun e _ => ?_
  cases e <;> rfl

/-- **A call sends its commands**, which are what its trace asks about the mailbox. -/
theorem commands_perform (c : Connection) (k : Call) :
    (k.perform c).2.sent.map Sent.command = c.sent.map Sent.command ++ k.commands c ∧
      k.asked (k.perform c).1 = k.commands c := by
  obtain ⟨htrace, hleft⟩ := stream_cases c k.mailbox k.consumer
  rw [Call.perform_eq]
  unfold Call.commands Call.asked
  by_cases hs : Sendable k.mailbox
  · rw [if_pos hs, if_pos hs, filterMap_commandOf?, htrace, hleft]
    cases c.finds k.mailbox with
    | false => simp [sent_select hs, commandOf?]
    | true =>
      have hfetch := sent_send (c.select k.mailbox).2 (.fetch .messages)
      refine ⟨?_, rfl⟩
      show ((c.select k.mailbox).2.send (.fetch .messages)).sent.map Sent.command = _
      rw [hfetch, sent_select hs]
      simp
  · obtain ⟨f, hf⟩ := select_of_not_sendable hs c
    have hfinds : c.finds k.mailbox = false := by rw [finds, hf]
    rw [if_neg hs, if_neg hs, hleft, hfinds, hf]
    exact ⟨(List.append_nil _).symm, rfl⟩

/-- **Calls send their commands**, one call after another. -/
theorem commands_performAll (c : Connection) (calls : List Call) :
    (performAll c calls).2.sent.map Sent.command = c.sent.map Sent.command ++ commandsOf c calls ∧
      (List.zipWith Call.asked calls (performAll c calls).1).flatten = commandsOf c calls := by
  induction calls generalizing c with
  | nil => exact ⟨(List.append_nil _).symm, rfl⟩
  | cons k calls ih =>
    obtain ⟨hsent, hasked⟩ := commands_perform c k
    obtain ⟨hsent', hasked'⟩ := ih (k.perform c).2
    constructor
    · show (performAll (k.perform c).2 calls).2.sent.map Sent.command = _
      rw [hsent', hsent, List.append_assoc]
      rfl
    · show k.asked (k.perform c).1 ++ (List.zipWith Call.asked calls (performAll (k.perform c).2 calls).1).flatten = _
      rw [hasked, hasked']
      rfl

/-! ## Lines that were sent, and lines that were heard -/

open Relation (ReflTransGen)

/-- What is kept of the lines that were sent on a connection: each is proper, and the server hears a front of them. -/
structure Kept (c : Connection) : Prop where
  proper : ∀ line ∈ c.sent, line.Proper
  listening : c.replies.isSome = true → ∀ line ∈ c.sent, line.heard = true
  heard : c.sent.filter Sent.heard <+: c.sent

namespace Kept

variable {c c' : Connection}

theorem send (h : Kept c) {command : Command} (hs : command.Sendable) (ho : command.IsOwn) :
    Kept (c.send command) := by
  have hsent := sent_send c command
  have hproper : ∀ line ∈ (c.send command).sent, line.Proper := by
    rw [hsent]
    exact List.forall_mem_append.2 ⟨h.proper, List.forall_mem_singleton.2 ⟨hs, ho⟩⟩
  cases hr : c.replies with
  | none =>
    -- the server has hung up, and hears nothing more
    have hdeaf : (c.send command).replies = none := by
      unfold Connection.send
      rw [hr]
    refine ⟨hproper, fun hl => ?_, ?_⟩
    · rw [hdeaf] at hl
      cases hl
    · rw [hsent, hr, List.filter_append, Option.isSome_none, List.filter_cons_of_neg Bool.false_ne_true, List.filter_nil,
        List.append_nil]
      exact h.heard.trans (List.prefix_append _ _)
  | some replies =>
    have hall : ∀ line ∈ (c.send command).sent, line.heard = true := by
      rw [hsent, hr]
      exact List.forall_mem_append.2 ⟨h.listening (by rw [hr]; rfl), List.forall_mem_singleton.2 rfl⟩
    exact ⟨hproper, fun _ => hall, [], (List.append_nil _).trans (List.filter_eq_self.2 hall)⟩

theorem ask {α : Type} (h : Kept c) (command : Command) (hs : command.Sendable) (ho : command.IsOwn)
    (hear : List UInt8 → Feed → Heard α) : Kept (c.ask command hear).2 := by
  obtain ⟨hproper, hlistening, hheard⟩ := h.send hs ho
  exact ⟨hproper, hlistening, hheard⟩

theorem reads (h : Kept c) (hr : ReflTransGen Reads c c') : Kept c' := by
  induction hr with
  | refl => exact h
  | tail _ hstep ih =>
    cases hstep with
    | select hm => exact ih.ask _ ((Command.check_eq_ok_iff _).1 hm) (fun _ hq => by cases hq) _
    | fetch => exact ih.ask (.fetch .messages) trivial (fun _ hq => by cases hq; rfl) _

theorem begun (server : Server) : Kept (begun server) where
  proper := List.forall_mem_singleton.2 ⟨trivial, fun _ hq => by cases hq⟩
  listening := fun _ => List.forall_mem_singleton.2 rfl
  heard := List.prefix_refl _

theorem entered {s : Settings} (h : (Command.login s.username s.password).Sendable) (server : Server) :
    Kept (entered s server) := (begun server).ask _ h (fun _ hq => by cases hq) _

theorem logout (h : Kept c) : Kept c.logout.2 := h.ask .logout trivial (fun _ hq => by cases hq) _

end Kept

/-! ## The whole of it -/

/-- **A login that cannot be sent is not sent**, and there is no session. -/
theorem connect_of_not_sendable {s : Settings} (h : ¬ (Command.login s.username s.password).Sendable) (dial : Dial) :
    ∃ e sent, connect s dial = .failed e sent ∧ sent <+: [upgradeLine] := by
  cases dial with
  | failed fault => exact ⟨_, [], rfl, List.nil_prefix⟩
  | reached server =>
    by_cases hs : Secures s server
    · obtain ⟨f, hcheck⟩ : ∃ f, (Command.login s.username s.password).check = .error f := by
        cases hcheck : (Command.login s.username s.password).check with
        | ok u => exact absurd ((Command.check_eq_ok_iff _).1 hcheck) h
        | error f => exact ⟨f, rfl⟩
      refine ⟨.imap ("Login failed: " ++ f.text), [upgradeLine], ?_, List.prefix_refl _⟩
      rw [connect_of_secures hs, login, askChecked, hcheck]
      rfl
    · obtain ⟨e, he⟩ := connect_of_not_secures hs
      exact ⟨e, _, he, List.prefix_refl _⟩

/-- A dial comes to a session, or to a failure behind no more lines than ask for one. -/
theorem connect_shape (s : Settings) (dial : Dial) :
    (∃ e sent, connect s dial = .failed e sent ∧ sent <+: [upgradeLine, loginLine s] ∧ ∀ line ∈ sent, line.Proper) ∨
      ∃ server, dial = .reached server ∧ Admits s server := by
  have hupgrade : ∀ line ∈ [upgradeLine], line.Proper :=
    List.forall_mem_singleton.2 ⟨trivial, fun _ hq => by cases hq⟩
  have hfront : [upgradeLine] <+: [upgradeLine, loginLine s] := List.prefix_append [_] [_]
  by_cases hsendable : (Command.login s.username s.password).Sendable
  · cases dial with
    | failed fault => exact .inl ⟨_, [], rfl, List.nil_prefix, fun _ hm => by cases hm⟩
    | reached server =>
      by_cases hs : Secures s server
      · by_cases ha : Admits s server
        · exact .inr ⟨server, rfl, ha⟩
        · obtain ⟨e, sent, he, rfl | rfl⟩ := connect_of_not_admits hs ha
          · exact .inl ⟨e, _, he, hfront, hupgrade⟩
          · refine .inl ⟨e, _, he, List.prefix_refl _, List.forall_mem_append.2 ⟨hupgrade, ?_⟩⟩
            exact List.forall_mem_singleton.2 ⟨hsendable, fun _ hq => by cases hq⟩
      · obtain ⟨e, he⟩ := connect_of_not_secures hs
        exact .inl ⟨e, _, he, hfront, hupgrade⟩
  · obtain ⟨e, sent, he, hsent⟩ := connect_of_not_sendable hsendable dial
    exact .inl ⟨e, sent, he, hsent.trans hfront, fun line hm => hupgrade line (hsent.subset hm)⟩

theorem refused_perform (c : Connection) {k : Call} (h : ¬ Sendable k.mailbox) : k.Refused (k.perform c).1 := by
  obtain ⟨f, hf⟩ := select_of_not_sendable h c
  have hrun : (c.stream k.mailbox k.consumer).1.elements = [.error (.select k.mailbox f)] := by
    rw [stream_eq, hf]
    rfl
  refine ⟨f, ?_⟩
  rw [Call.perform_eq]
  refine ⟨hrun, ?_⟩
  cases k with
  | messages mailbox consumer => rfl
  | collect mailbox =>
    have hgathered : (c.stream mailbox .collecting).1.messages = .error (.select mailbox f) := congrArg gather hrun
    exact congrArg some hgathered

theorem refused_performAll (c : Connection) (calls : List Call) :
    List.Forall₂ (fun k given => ¬ Sendable k.mailbox → k.Refused given) calls (performAll c calls).1 := by
  induction calls generalizing c with
  | nil => exact .nil
  | cons k calls ih => exact .cons (refused_perform c) (ih _)

/-- **Lines that a server reads as they were meant.** -/
structure Legible (sent : List Sent) : Prop where
  oneLine : ∀ line ∈ sent, Sendable line.line
  read : (linesOf (sent.flatMap Sent.octets)).map request? =
    sent.map fun line => some (Imap.tag line.tag, line.command)
  /-- Looking at a mail this way does not mark it as seen. -/
  peeks : ∀ line ∈ sent, ∀ query, line.command = .fetch query →
    line.command.text = "FETCH 1:* (UID ENVELOPE BODY.PEEK[])"

theorem legible_of_proper {sent : List Sent} (h : ∀ line ∈ sent, line.Proper) : Legible sent where
  oneLine := fun line hm => (h line hm).sendable_line
  read := requests_of_octets h
  peeks := by
    intro line hm query hq
    rw [hq, (h line hm).own query hq]
    rfl

/-- **The shape of what a session sends**, and of what it comes to where something in it cannot be sent. -/
structure Shaped (s : Settings) (dial : Dial) (calls : List Call) (leaves : Bool) (x : Session) : Prop
    extends Legible x.sent where
  /-- Where no session begins, no more was sent than what asks for one. -/
  opening : ∀ e, (connect s dial).outcome = .error e →
    x.sent.map Sent.command <+: [.startTls, .login s.username s.password]
  /-- The commands of the calls are what the calls ask about their mailboxes. -/
  whole : ∀ c, (connect s dial).outcome = .ok c →
    x.sent.map Sent.command =
        [.startTls, .login s.username s.password] ++ commandsOf c calls ++ (if leaves then [.logout] else []) ∧
      (List.zipWith Call.asked calls x.given).flatten = commandsOf c calls
  heard : x.sent.filter Sent.heard <+: x.sent
  unsendableLogin : ¬ (Sendable s.username ∧ Sendable s.password) →
    (∃ e, x.outcome = .error e) ∧ x.sent <+: [upgradeLine]
  unsendableMailbox : x.outcome = .ok () →
    List.Forall₂ (fun k given => ¬ Sendable k.mailbox → k.Refused given) calls x.given

/-- Where no session begins, what was sent is a front of the opening, and all of it was heard. -/
theorem shaped_of_failed {s : Settings} {dial : Dial} {e : Failure} {sent : List Sent}
    (hconnect : connect s dial = .failed e sent) (hsent : sent <+: [upgradeLine, loginLine s])
    (hproper : ∀ line ∈ sent, line.Proper) (calls : List Call) (leaves : Bool) :
    Shaped s dial calls leaves (session s dial calls leaves) := by
  have hheard : ∀ line ∈ sent, line.heard = true := by
    intro line hm
    have hall : ∀ line ∈ [upgradeLine, loginLine s], line.heard = true :=
      List.forall_mem_cons.2 ⟨rfl, List.forall_mem_singleton.2 rfl⟩
    exact hall line (hsent.subset hm)
  rw [session_of_failed hconnect]
  exact {
    toLegible := legible_of_proper hproper
    opening := fun _ _ => hsent.map Sent.command
    whole := fun c hc => by rw [hconnect] at hc; cases hc
    heard := ⟨[], (List.append_nil _).trans (List.filter_eq_self.2 hheard)⟩
    unsendableLogin := fun h => by
      obtain ⟨e', sent', he, hsent'⟩ := connect_of_not_sendable (s := s) h dial
      obtain rfl : sent = sent' := congrArg Attempt.sent (hconnect.symm.trans he)
      exact ⟨⟨e, rfl⟩, hsent'⟩
    unsendableMailbox := fun h => by cases h }

/-- The connection that is left where a session `leaves`, or does not. -/
def left (c : Connection) (leaves : Bool) : Connection := if leaves then c.logout.2 else c

theorem session_of_admits {s : Settings} {server : Server} (h : Admits s server) (calls : List Call) (leaves : Bool) :
    (session s (.reached server) calls leaves).given = (performAll (entered s server) calls).1 ∧
      (session s (.reached server) calls leaves).sent =
        ((performAll (entered s server) calls).2.left leaves).sent := by
  unfold session
  rw [connect_of_admits h]
  cases leaves <;> exact ⟨rfl, rfl⟩

theorem shaped_of_admits {s : Settings} {server : Server} (h : Admits s server) (calls : List Call) (leaves : Bool) :
    Shaped s (.reached server) calls leaves (session s (.reached server) calls leaves) := by
  have hconnect := connect_of_admits h
  have hsendable := (Command.check_eq_ok_iff _).1 h.sendable
  obtain ⟨hgiven, hsent⟩ := session_of_admits h calls leaves
  obtain ⟨hcommands, hasked⟩ := commands_performAll (entered s server) calls
  have hkept : Kept ((performAll (entered s server) calls).2.left leaves) := by
    have hcalls := (Kept.entered hsendable server).reads (reads_performAll (entered s server) calls)
    cases leaves with
    | false => exact hcalls
    | true => exact hcalls.logout
  have hlegible := legible_of_proper hkept.proper
  have hleft : ((performAll (entered s server) calls).2.left leaves).sent.map Sent.command =
      (performAll (entered s server) calls).2.sent.map Sent.command ++ if leaves then [.logout] else [] := by
    cases leaves with
    | false => exact (List.append_nil _).symm
    | true =>
      show ((performAll (entered s server) calls).2.send .logout).sent.map Sent.command = _
      rw [sent_send, List.map_append]
      rfl
  rw [← hsent] at hlegible hleft
  exact {
    toLegible := hlegible
    opening := fun e he => by rw [hconnect] at he; cases he
    whole := fun c hc => by
      rw [hconnect] at hc
      obtain rfl : entered s server = c := Except.ok.inj hc
      rw [hleft, hcommands, hgiven]
      exact ⟨rfl, hasked⟩
    heard := hsent ▸ hkept.heard
    unsendableLogin := fun hs => absurd hsendable hs
    unsendableMailbox := fun _ => hgiven ▸ refused_performAll (entered s server) calls }

/-- **What a session sends has one shape**, whatever the names, the consumers and the server are: the request for a
private connection, one login, of each call its commands, and one LOGOUT where it leaves.  A server that reads the
octets line by line reads these commands, with every name as it was given. -/
theorem session_shaped (s : Settings) (dial : Dial) (calls : List Call) (leaves : Bool) :
    Shaped s dial calls leaves (session s dial calls leaves) := by
  rcases connect_shape s dial with ⟨e, sent, hconnect, hsent, hproper⟩ | ⟨server, rfl, ha⟩
  · exact shaped_of_failed hconnect hsent hproper calls leaves
  · exact shaped_of_admits ha calls leaves

end Connection
end Wire
end Postbag
