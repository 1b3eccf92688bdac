import Mathlib.Data.List.Forall2
import Postbag.Proofs.Stream.Protocol
import Postbag.Proofs.Stream.Release
import Postbag.Proofs.Wire.Answers
/-!
# Calls — one call after another on a connection

A connection is idle where everything that was received has been read.  A call whose commands get complete answers takes
an idle connection to an idle one, whatever its consumer does and however its stream ends; so a call gives back the same
after other calls as it does alone.
-/
namespace Postbag
namespace Wire

open Imap (Command Fault)
open Imap.Reader (ascii)

/-- What a call gives back: the course of its stream, and what was gathered. -/
abbrev Given := Run × Option (Except Failure (List Message))

inductive Call
  | messages (mailbox : String) (consumer : Consumer)
  | collect (mailbox : String)

namespace Call

def mailbox : Call → String
  | messages mailbox _ => mailbox
  | collect mailbox => mailbox

def consumer : Call → Consumer
  | messages _ consumer => consumer
  | collect _ => .collecting

def gathered (r : Run) : Call → Option (Except Failure (List Message))
  | messages _ _ => none
  | collect _ => some r.messages

/-- **A call**, and what it gives back. -/
def perform (c : Connection) : Call → Given × Connection
  | messages mailbox consumer =>
    let (r, c) := c.stream mailbox consumer
    ((r, none), c)
  | collect mailbox =>
    let ((r, ms), c) := c.collect mailbox
    ((r, some ms), c)

theorem perform_eq (c : Connection) (k : Call) :
    k.perform c = (((c.stream k.mailbox k.consumer).1, k.gathered (c.stream k.mailbox k.consumer).1),
      (c.stream k.mailbox k.consumer).2) := by
  cases k <;> rfl

end Call

def performAll (c : Connection) : List Call → List Given × Connection
  | [] => ([], c)
  | k :: ks =>
    let (r, c) := k.perform c
    let (rs, c) := performAll c ks
    (r :: rs, c)

/-- **A call, and the complete answers to its commands.** -/
structure Course where
  call : Call
  selection : Answer
  fetched : Answer

namespace Course

/-- What the session answers about the mailbox.  A mailbox whose name cannot be sent is never asked for. -/
def answers (k : Course) : Answers where
  count :=
    match Imap.checkArgument k.call.mailbox with
    | .error f => .error f.toFailure
    | .ok () => k.selection.selection.mapError Fault.toFailure
  fetch := .ok ⟨k.fetched.records.map .ok, .drains⟩

def replies (k : Course) : List Reply :=
  match Imap.checkArgument k.call.mailbox with
  | .error _ => []
  | .ok () => k.selection.reply :: if k.answers.holds then [k.fetched.reply] else []

def run (k : Course) : Run := Stream.run k.answers [] k.call.mailbox k.call.consumer

/-- What the call gives back, told without a connection. -/
def given (k : Course) : Given := (k.run, k.call.gathered k.run)

/-- The call gives this back alone, on a session of its own of which the server gives the same answers. -/
def GivesAlone (s : Settings) (server : Server) (k : Course) (given : Given) : Prop :=
  ∃ c, (Connection.connect s (.reached { server with replies := k.replies })).outcome = .ok c ∧
    (k.call.perform c).1 = given

/-- Where the call asked for a FETCH, each record that was sent was pulled or dropped. -/
def Accounts (k : Course) (given : Given) : Prop :=
  given.1.trace.any Event.isFetch = true → pulled given.1.trace + dropped given.1.trace = k.fetched.records.length

end Course

namespace Connection

/-- **Everything that was received has been read**, and these replies are left to the server. -/
structure Idle (c : Connection) (replies : List Reply) : Prop where
  incoming : c.incoming = some []
  replies : c.replies = some replies

/-- **A command with a complete answer leaves an idle connection idle.** -/
theorem ask_idle {α : Type} {c : Connection} {a : Answer} {rest : List Reply} {v : α}
    (hc : c.Idle (a.reply :: rest)) (command : Command) (hear : List UInt8 → Feed → Heard α)
    (hh : ∀ n, hear (ascii (Imap.tag n)) (Feed.ofOctets (a.reply.said (ascii (Imap.tag n)))) = ⟨v, some []⟩) :
    (c.ask command hear).1 = v ∧ (c.ask command hear).2.Idle rest := by
  obtain ⟨incoming, replies, lastTag, sent⟩ := c
  obtain ⟨hi, hr⟩ := hc
  cases hi
  cases hr
  have hask := hh (lastTag + 1)
  constructor
  · exact congrArg Heard.value hask
  · exact ⟨congrArg Heard.left hask, rfl⟩

/-! ## A call -/

theorem select_idle {c : Connection} {a : Answer} {mailbox : String} {rest : List Reply}
    (hc : c.Idle (a.reply :: rest)) (hm : Imap.checkArgument mailbox = .ok ()) :
    (c.select mailbox).1 = a.selection.mapError Fault.toFailure ∧ (c.select mailbox).2.Idle rest := by
  have hcheck : (Command.select mailbox).check = .ok () := hm
  obtain ⟨hv, hidle⟩ := ask_idle hc (.select mailbox) (fun tag feed => feed.selected tag 0) a.selected_said
  rw [select, askChecked, hcheck]
  exact ⟨congrArg (Except.mapError Fault.toFailure) hv, hidle⟩

theorem fetch_idle {c : Connection} {a : Answer} {rest : List Reply} (hc : c.Idle (a.reply :: rest)) :
    c.fetch.1 = ⟨a.records.map .ok, .drains⟩ ∧ c.fetch.2.Idle rest := by
  obtain ⟨hv, hidle⟩ := ask_idle hc (.fetch .messages) Feed.steps a.steps_said
  exact ⟨congrArg (Fetch.mk · .drains) hv, hidle⟩

theorem stream_of_not_holds {c : Connection} {answers : Answers} {mailbox : String} (consumer : Consumer)
    (hv : (c.select mailbox).1 = answers.count) (hh : answers.holds = false) :
    c.stream mailbox consumer = (Stream.run answers [] mailbox consumer, (c.select mailbox).2) := by
  obtain ⟨answered, fetch⟩ := answers
  cases hselect : c.select mailbox with
  | mk count c' =>
    rw [hselect] at hv
    obtain rfl : count = answered := hv
    unfold stream
    simp only [hselect]
    cases count with
    | error e => rfl
    | ok count =>
      have hn : count = 0 := by simpa [Answers.holds] using hh
      simp only [if_pos hn, Stream.run]

theorem stream_of_holds {c : Connection} {answers : Answers} {mailbox : String} (consumer : Consumer)
    (hv : (c.select mailbox).1 = answers.count) (hh : answers.holds = true)
    (hf : .ok (c.select mailbox).2.fetch.1 = answers.fetch) :
    c.stream mailbox consumer = (Stream.run answers [] mailbox consumer, (c.select mailbox).2.fetch.2) := by
  obtain ⟨answered, fetch⟩ := answers
  cases hselect : c.select mailbox with
  | mk count c' =>
    rw [hselect] at hv hf
    obtain rfl : count = answered := hv
    unfold stream
    simp only [hselect]
    cases count with
    | error e => cases hh
    | ok count =>
      have hn : count ≠ 0 := by simpa [Answers.holds] using hh
      obtain rfl : .ok c'.fetch.1 = fetch := hf
      simp only [if_neg hn]

/-- **Behind the selection of a mailbox that is not empty, a stream is that of its FETCH.** -/
theorem stream_selected {c : Connection} {selection : Answer} {mailbox : String} {count : UInt32} {rest : List Reply}
    (hc : c.Idle (selection.reply :: rest)) (hm : Imap.checkArgument mailbox = .ok ())
    (hs : selection.selection = .ok count) (hn : count ≠ 0) (consumer : Consumer) :
    (c.select mailbox).2.Idle rest ∧ c.stream mailbox consumer =
      (Stream.run ⟨.ok count, .ok (c.select mailbox).2.fetch.1⟩ [] mailbox consumer, (c.select mailbox).2.fetch.2) := by
  obtain ⟨hv, hselected⟩ := select_idle hc hm
  rw [hs] at hv
  have hh : (Answers.mk (.ok count) (.ok (c.select mailbox).2.fetch.1)).holds = true := by simp [Answers.holds, hn]
  exact ⟨hselected, stream_of_holds consumer hv hh rfl⟩

/-- **A stream with complete answers**: it is the stream that they tell, and leaves the connection idle. -/
theorem stream_idle {c : Connection} {k : Course} {rest : List Reply} (hc : c.Idle (k.replies ++ rest)) :
    (c.stream k.call.mailbox k.call.consumer).1 = k.run ∧
      (c.stream k.call.mailbox k.call.consumer).2.Idle rest := by
  cases hm : Imap.checkArgument k.call.mailbox with
  | error f =>
    have hcount : k.answers.count = .error f.toFailure := by rw [Course.answers, hm]
    have hh : k.answers.holds = false := by rw [Answers.holds, hcount]
    have hcheck : (Command.select k.call.mailbox).check = .error f := hm
    have hselect : c.select k.call.mailbox = (.error f.toFailure, c) := by rw [select, askChecked, hcheck]; rfl
    rw [Course.replies, hm] at hc
    rw [stream_of_not_holds k.call.consumer (by rw [hselect, hcount]) hh, hselect]
    exact ⟨rfl, hc⟩
  | ok u =>
    have hcount : k.answers.count = k.selection.selection.mapError Fault.toFailure := by rw [Course.answers, hm]
    rw [Course.replies, hm] at hc
    obtain ⟨hv, hselected⟩ := select_idle hc hm
    rw [← hcount] at hv
    cases hh : k.answers.holds with
    | false =>
      rw [stream_of_not_holds k.call.consumer hv hh]
      rw [hh] at hselected
      exact ⟨rfl, hselected⟩
    | true =>
      rw [hh] at hselected
      obtain ⟨hf, hfetched⟩ := fetch_idle hselected
      rw [stream_of_holds k.call.consumer hv hh (by rw [hf]; rfl)]
      exact ⟨rfl, hfetched⟩

/-- **A call with complete answers** gives back what they tell, and leaves the connection idle. -/
theorem perform_idle {c : Connection} {k : Course} {rest : List Reply} (hc : c.Idle (k.replies ++ rest)) :
    (k.call.perform c).1 = k.given ∧ (k.call.perform c).2.Idle rest := by
  obtain ⟨hr, hidle⟩ := stream_idle hc
  rw [Call.perform_eq, hr]
  exact ⟨rfl, hidle⟩

/-- **Calls one after another** give back what their answers tell, each its own. -/
theorem performAll_idle {c : Connection} {courses : List Course} {rest : List Reply}
    (hc : c.Idle (courses.flatMap Course.replies ++ rest)) :
    (performAll c (courses.map Course.call)).1 = courses.map Course.given := by
  induction courses generalizing c with
  | nil => rfl
  | cons k courses ih =>
    rw [List.flatMap_cons, List.append_assoc] at hc
    -- that the connection is idle again is all that the calls behind this one know of it
    obtain ⟨hv, hidle⟩ := perform_idle hc
    rw [List.map_cons, List.map_cons]
    show (k.call.perform c).1 :: (performAll (k.call.perform c).2 (courses.map Course.call)).1 = _
    rw [hv, ih hidle]

/-! ## A session -/

theorem ask_fresh {α : Type} (greeting : List UInt8) (reply : Reply) (replies : List Reply) (sent : List Sent)
    (command : Command) (hear : List UInt8 → Feed → Heard α) :
    (fresh greeting (reply :: replies) sent).ask command hear =
      ((hear (ascii (Imap.tag 1)) (Feed.ofOctets (greeting ++ reply.said (ascii (Imap.tag 1))))).value,
        ⟨(hear (ascii (Imap.tag 1)) (Feed.ofOctets (greeting ++ reply.said (ascii (Imap.tag 1))))).left,
          if reply.closes then none else some replies, 1, sent ++ [⟨1, command, true⟩]⟩) := rfl

/-- **A login that leaves nothing unread** does so whatever replies are behind it. -/
theorem login_idle {s : Settings} {reply : Reply} {rs : List Reply} {sent : List Sent} {c : Connection}
    (h : (login s (fresh [] (reply :: rs) sent)).outcome = .ok c) (hc : c.Idle rs) (rs' : List Reply) :
    ∃ c', (login s (fresh [] (reply :: rs') sent)).outcome = .ok c' ∧ c'.Idle rs' := by
  rw [login, askChecked] at h ⊢
  cases hcheck : (Command.login s.username s.password).check with
  | error f => rw [hcheck] at h; cases h
  | ok u =>
    rw [hcheck] at h
    simp only [ask_fresh, List.nil_append] at h ⊢
    generalize Feed.outcome (ascii (Imap.tag 1)) (Feed.ofOctets (reply.said (ascii (Imap.tag 1)))) = heard at h ⊢
    obtain ⟨result, left⟩ := heard
    cases result with
    | error f => cases h
    | ok u =>
      cases h
      refine ⟨_, rfl, hc.incoming, ?_⟩
      cases hcloses : reply.closes with
      | true => have hr := hc.replies; rw [hcloses] at hr; cases hr
      | false => rfl

/-- The handshake looks at no replies. -/
theorem secure_cases (s : Settings) (server : Server) (c : Connection) :
    (∀ rs, ∃ e, (secure s { server with replies := rs } c).outcome = .error e) ∨
      ∀ rs, secure s { server with replies := rs } c = login s (.fresh [] (server.login :: rs) c.sent) := by
  unfold secure
  cases hname : HostName.isValid s.host with
  | false => exact .inl fun rs => ⟨_, rfl⟩
  | true =>
    cases hreplies : c.replies.isNone with
    | true => exact .inl fun rs => ⟨_, rfl⟩
    | false =>
      cases hhandshake : server.handshake with
      | succeeds => exact .inr fun rs => rfl
      | _ => exact .inl fun rs => ⟨_, rfl⟩

theorem connect_of_refusal {s : Settings} {server : Server} {f : Fault}
    (h : ((fresh server.greeting [server.startTls] []).ask .startTls Feed.outcome).1 = .error f) :
    (connect s (.reached server)).outcome = .error (.tls ("STARTTLS failed: " ++ f.text)) := by
  cases hask : (fresh server.greeting [server.startTls] []).ask .startTls Feed.outcome with
  | mk result c =>
    rw [hask] at h
    obtain rfl : result = .error f := h
    simp only [connect, hask]
    rfl

theorem connect_of_consent {s : Settings} {server : Server}
    (h : ((fresh server.greeting [server.startTls] []).ask .startTls Feed.outcome).1 = .ok ()) :
    connect s (.reached server) =
      secure s server ((fresh server.greeting [server.startTls] []).ask .startTls Feed.outcome).2 := by
  cases hask : (fresh server.greeting [server.startTls] []).ask .startTls Feed.outcome with
  | mk result c =>
    rw [hask] at h
    obtain rfl : result = .ok () := h
    simp only [connect, hask]

/-- **The replies that a server has behind the login play no part up to there.** -/
theorem connect_cases (s : Settings) (server : Server) :
    (∀ rs, ∃ e, (connect s (.reached { server with replies := rs })).outcome = .error e) ∨
      ∃ sent, ∀ rs, connect s (.reached { server with replies := rs }) =
        login s (.fresh [] (server.login :: rs) sent) := by
  cases hresult : ((fresh server.greeting [server.startTls] []).ask .startTls Feed.outcome).1 with
  | error f => exact .inl fun rs => ⟨_, connect_of_refusal hresult⟩
  | ok u =>
    have hconnect (rs : List Reply) : connect s (.reached { server with replies := rs }) =
        secure s { server with replies := rs }
          ((fresh server.greeting [server.startTls] []).ask .startTls Feed.outcome).2 := connect_of_consent hresult
    rcases secure_cases s server ((fresh server.greeting [server.startTls] []).ask .startTls Feed.outcome).2 with h | h
    · exact .inl fun rs => by rw [hconnect rs]; exact h rs
    · exact .inr ⟨_, fun rs => (hconnect rs).trans (h rs)⟩

/-- **A session that begins with nothing unread** begins so whatever replies are behind the login. -/
theorem connect_idle {s : Settings} {server : Server} {rs : List Reply} {c : Connection}
    (h : (connect s (.reached { server with replies := rs })).outcome = .ok c) (hc : c.Idle rs) (rs' : List Reply) :
    ∃ c', (connect s (.reached { server with replies := rs' })).outcome = .ok c' ∧ c'.Idle rs' := by
  rcases connect_cases s server with hfailed | ⟨sent, hlogin⟩
  · obtain ⟨e, he⟩ := hfailed rs
    rw [he] at h
    cases h
  · rw [hlogin] at h ⊢
    exact login_idle h hc rs'

/-- **Of a call that asks for a FETCH, each record is pulled or dropped.** -/
theorem accounts_given (k : Course) : k.Accounts k.given := by
  intro h
  have hh : k.answers.holds = true := by
    obtain ⟨e, he, hf⟩ := List.any_eq_true.1 h
    have hasked : e ∈ k.run.trace.filter Event.isAboutMailbox := by
      refine List.mem_filter.2 ⟨he, ?_⟩
      cases e <;> first | rfl | cases hf
    rw [Course.run, Stream.filter_isAboutMailbox_run] at hasked
    cases hh : k.answers.holds with
    | true => rfl
    | false =>
      rw [hh] at hasked
      rw [List.mem_singleton.1 hasked] at hf
      cases hf
  obtain ⟨count, hc, hn⟩ := Answers.count_of_holds hh
  have hopening : ∀ e ∈ [Event.select k.call.mailbox, .log (.selected count), .log (.found count), .fetch .messages],
      e.isNext = false ∧ e.dropped = 0 := by
    intro e he
    simp only [List.mem_cons, List.not_mem_nil, or_false] at he
    rcases he with rfl | rfl | rfl | rfl <;> exact ⟨rfl, rfl⟩
  have hsteps : ∀ x ∈ k.fetched.records.map Except.ok, ∃ r, x = (.ok r : Step) := fun x hx => by
    obtain ⟨r, -, rfl⟩ := List.mem_map.1 hx
    exact ⟨r, rfl⟩
  have hsum := Stream.pulled_add_dropped k.call.consumer hsteps
  rw [List.length_map] at hsum
  rw [Course.given, Course.run, Stream.run_of_fetch hc hn rfl, pulled_append fun e he => (hopening e he).1, dropped_append,
    Stream.dropped_eq_zero fun e he => (hopening e he).2, Nat.zero_add]
  exact hsum

/-- **Calls on one session are independent.**  Where the session begins with nothing unread and every command of every
call gets a complete answer, each call gives back what it gives back alone on a session of its own, of which the server
gives the same answers; and of a call that asks for a FETCH, each record is pulled or dropped. -/
theorem performAll_independent (s : Settings) (server : Server) (courses : List Course) (later : List Reply)
    (c : Connection)
    (hc : (connect s (.reached { server with replies := courses.flatMap Course.replies ++ later })).outcome = .ok c)
    (hidle : c.Idle (courses.flatMap Course.replies ++ later)) :
    List.Forall₂ (fun k given => k.GivesAlone s server given ∧ k.Accounts given) courses
      (performAll c (courses.map Course.call)).1 := by
  rw [performAll_idle hidle, List.forall₂_map_right_iff, List.forall₂_same]
  intro k hk
  obtain ⟨alone, halone, hidle'⟩ := connect_idle hc hidle k.replies
  rw [← List.append_nil k.replies] at hidle'
  exact ⟨⟨alone, halone, (perform_idle hidle').1⟩, accounts_given k⟩

/-- A stream that stops at the first of two records, and the messages of a mailbox that is not there. -/
theorem performAll_independent_of_stop :
    let blank : Envelope := ⟨none, none, [], [], [], [], none⟩
    let two : Datum := ⟨ascii "* 2 EXISTS\r\n", .count 2, by decide +kernel, rfl⟩
    let first : Datum := ⟨ascii "* 1 FETCH (UID 7 ENVELOPE (NIL NIL NIL NIL NIL NIL NIL NIL NIL NIL) BODY[] \"x\")\r\n",
      .fetch ⟨7, some blank, some [0x78]⟩, by decide +kernel, rfl⟩
    let second : Datum := ⟨ascii "* 2 FETCH (UID 8)\r\n", .fetch ⟨8, none, none⟩, by decide +kernel, rfl⟩
    let ok (data : List Datum) : Answer := ⟨data, ascii " OK\r\n", .ok, ⟨none, none⟩, by decide +kernel⟩
    let no : Answer := ⟨[], ascii " NO\r\n", .no, ⟨none, none⟩, by decide +kernel⟩
    let courses : List Course := [⟨.messages "INBOX" (.stopAt (some 1)), ok [two], ok [first, second]⟩,
      ⟨.collect "Missing", no, ok []⟩]
    let s : Settings := ⟨"mail.example", 143, "user", "password"⟩
    let server : Server := ⟨[], (ok []).reply, .succeeds, (ok []).reply, []⟩
    ∃ c, (connect s (.reached { server with replies := courses.flatMap Course.replies ++ [] })).outcome = .ok c ∧
      List.Forall₂ (fun k given => k.GivesAlone s server given ∧ k.Accounts given) courses
        (performAll c (courses.map Course.call)).1 := by
  intro blank two first second ok no courses s server
  have hstart : (connect s (.reached { server with replies := courses.flatMap Course.replies ++ [] })).outcome.toOption.map
      (fun c => (c.incoming, c.replies)) = some (some [], some (courses.flatMap Course.replies ++ [])) := by
    decide +kernel
  cases hc : (connect s (.reached { server with replies := courses.flatMap Course.replies ++ [] })).outcome with
  | error e => rw [hc] at hstart; cases hstart
  | ok c =>
    rw [hc] at hstart
    obtain ⟨hi, hr⟩ := Prod.mk.inj (Option.some.inj hstart)
    exact ⟨c, rfl, performAll_independent s server courses [] c hc ⟨hi, hr⟩⟩

end Connection
end Wire
end Postbag
