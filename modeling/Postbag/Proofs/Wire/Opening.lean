import Mathlib.Logic.Relation
import Postbag.Proofs.Wire.Calls
import Postbag.Proofs.Wire.Consent
/-!
# Opening — what each line of a session waits for

A session asks for a private connection, logs in on it, performs its calls and may end with a logout.  Each of these
waits for the one before it: the name and the password are sent on a private connection only, and no line about a
mailbox, nor a logout, is sent before the login was granted.  Whatever else a server does, the session fails there and
sends nothing more.

The greeting is not read by itself but together with the answer to the first line.  So a server that greets with the end
of that line has agreed before it was asked, whatever it answers then; any other server agrees in its answer.
-/
namespace Postbag

open Imap.Reader (ascii)

/-- What is found at an address is a server of which this holds. -/
def Dial.Reaches (P : Server → Prop) : Dial → Prop
  | .reached server => P server
  | .failed _ => False

/-- **The server agrees to a private connection** in its answer to the line that asks for one. -/
def Server.Agrees (server : Server) : Prop :=
  Wire.GrantedByAnswer (ascii (Imap.tag 1)) server.greeting (server.startTls.said (ascii (Imap.tag 1)))

/-- The server agrees in its greeting, before it is asked. -/
def Server.Forestalls (server : Server) : Prop :=
  Wire.GrantedEarly (ascii (Imap.tag 1)) server.greeting (server.startTls.said (ascii (Imap.tag 1)))

namespace Wire

open Imap (Command Response)

/-- **A private connection comes about**: the server grants it, where the greeting is read before the answer, and goes
on listening; the host has a name to ask for, and the handshake succeeds. -/
structure Secures (s : Settings) (server : Server) : Prop where
  granted : ∃ behind, Granted (ascii (Imap.tag 1)) (server.greeting ++ server.startTls.said (ascii (Imap.tag 1))) behind
  named : HostName.isValid s.host = true
  listens : server.startTls.closes = false
  handshake : server.handshake = .succeeds

theorem Secures.agrees_or_forestalls {s : Settings} {server : Server} (h : Secures s server) :
    server.Agrees ∨ server.Forestalls :=
  (granted_append_iff.1 h.granted).symm

/-- **The login is granted**, on the private connection. -/
structure Admits (s : Settings) (server : Server) : Prop where
  secures : Secures s server
  sendable : (Command.login s.username s.password).check = .ok ()
  granted : ∃ behind, Granted (ascii (Imap.tag 1)) (server.login.said (ascii (Imap.tag 1))) behind

def upgradeLine : Sent := ⟨1, .startTls, true⟩

/-- The line with the name and the password, which is the first on the private connection. -/
def loginLine (s : Settings) : Sent := ⟨1, .login s.username s.password, true⟩

/-- **What a line waits for**: the lines before it, and what became of them.  `Agreed` is what is asked of the server's
consent to a private connection. -/
def Awaits (Agreed : Server → Prop) (s : Settings) (dial : Dial) (before : List Sent) (line : Sent) : Prop :=
  match line.command with
  | .startTls => before = [] ∧ line = upgradeLine
  | .login _ _ => before = [upgradeLine] ∧ line = loginLine s ∧ dial.Reaches fun x => Agreed x ∧ Secures s x
  | .select _ | .fetch _ | .logout =>
    [upgradeLine, loginLine s] <+: before ∧ dial.Reaches fun x => Agreed x ∧ Admits s x

/-! ## The whole of a session -/

/-- What a session comes to: whether it begins, what its calls give back, how its logout went, and the lines. -/
structure Session where
  outcome : Except Failure Unit
  log : List LogEntry
  given : List Given
  farewell : Option (Except Failure Unit)
  sent : List Sent

/-- **A session**, with a logout at its end where it `leaves`. -/
def session (s : Settings) (dial : Dial) (calls : List Call) (leaves : Bool) : Session :=
  let attempt := Connection.connect s dial
  let log := Connection.announcement s :: attempt.log
  match attempt.outcome with
  | .error e => ⟨.error e, log, [], none, attempt.sent⟩
  | .ok c =>
    let (given, c) := performAll c calls
    if leaves then
      let (farewell, c) := c.logout
      ⟨.ok (), log, given, some farewell, c.sent⟩
    else ⟨.ok (), log, given, none, c.sent⟩

/-- Every line has what it waits for. -/
def Awaited (Agreed : Server → Prop) (s : Settings) (dial : Dial) (sent : List Sent) : Prop :=
  ∀ before line behind, sent = before ++ line :: behind → Awaits Agreed s dial before line

/-- **A session in which every line has what it waits for**, and which fails where it does not come to a login. -/
structure Session.Guarded (Agreed : Server → Prop) (s : Settings) (dial : Dial) (x : Session) : Prop where
  awaited : Awaited Agreed s dial x.sent
  begins : x.outcome = .ok () ↔ dial.Reaches fun x => Agreed x ∧ Admits s x
  unsecured : (¬ dial.Reaches fun x => Agreed x ∧ Secures s x) → x.sent <+: [upgradeLine]
  unadmitted : (¬ dial.Reaches fun x => Agreed x ∧ Admits s x) → x.sent <+: [upgradeLine, loginLine s]

/-! ## Line by line -/

/-- A line that is sent behind the login. -/
def Sent.IsLater (line : Sent) : Prop :=
  (∃ mailbox, line.command = .select mailbox) ∨ line.command = .fetch .messages ∨ line.command = .logout

namespace Awaited

variable {Agreed : Server → Prop} {s : Settings} {dial : Dial} {sent : List Sent}

theorem nil : Awaited Agreed s dial [] := fun before _ _ h => by cases before <;> cases h

/-- A line is sent behind others that have what they wait for, and has what it waits for itself. -/
theorem concat {line : Sent} (h : Awaited Agreed s dial sent) (hl : Awaits Agreed s dial sent line) :
    Awaited Agreed s dial (sent ++ [line]) := by
  intro before line' behind heq
  -- the cut is at the last line, or it is a cut of the lines before that
  rcases List.eq_nil_or_concat behind with rfl | ⟨behind, last, rfl⟩
  · obtain ⟨rfl, hlast⟩ := List.append_inj' heq rfl
    cases hlast
    exact hl
  · rw [List.concat_eq_append, ← List.cons_append, ← List.append_assoc] at heq
    exact h before line' behind (List.append_inj' heq rfl).1

theorem upgrade : Awaited Agreed s dial [upgradeLine] := nil.concat ⟨rfl, rfl⟩

theorem login (hs : dial.Reaches fun x => Agreed x ∧ Secures s x) : Awaited Agreed s dial [upgradeLine, loginLine s] :=
  upgrade.concat ⟨rfl, rfl, hs⟩

theorem later {lines : List Sent} (ha : dial.Reaches fun x => Agreed x ∧ Admits s x)
    (hlater : ∀ line ∈ lines, line.IsLater) (h : Awaited Agreed s dial sent)
    (hsent : [upgradeLine, loginLine s] <+: sent) : Awaited Agreed s dial (sent ++ lines) := by
  induction lines generalizing sent with
  | nil =>
    rw [List.append_nil]
    exact h
  | cons line lines ih =>
    rw [List.forall_mem_cons] at hlater
    have hl : Awaits Agreed s dial sent line := by
      unfold Awaits
      rcases hlater.1 with ⟨mailbox, hc⟩ | hc | hc <;>
        · rw [hc]
          exact ⟨hsent, ha⟩
    rw [← List.singleton_append, ← List.append_assoc]
    exact ih hlater.2 (h.concat hl) (hsent.trans (List.prefix_append _ _))

end Awaited

namespace Connection

open Relation (ReflTransGen)

/-! ## The lines of the calls -/

inductive Reads : Connection → Connection → Prop
  | select {mailbox : String} (hm : (Command.select mailbox).check = .ok ()) (c : Connection) :
      Reads c (c.ask (.select mailbox) fun tag feed => feed.selected tag 0).2
  | fetch (c : Connection) : Reads c (c.ask (.fetch .messages) Feed.steps).2

theorem reads_select (c : Connection) (mailbox : String) : ReflTransGen Reads c (c.select mailbox).2 := by
  unfold select askChecked
  cases hm : (Command.select mailbox).check with
  | error f => exact .refl
  | ok u => exact .single (.select hm c)

theorem reads_stream (c : Connection) (mailbox : String) (consumer : Consumer) :
    ReflTransGen Reads c (c.stream mailbox consumer).2 := by
  have hselect := reads_select c mailbox
  cases hh : (Answers.mk (c.select mailbox).1 (.ok (c.select mailbox).2.fetch.1)).holds with
  | false =>
    rw [stream_of_not_holds consumer rfl hh]
    exact hselect
  | true =>
    rw [stream_of_holds consumer rfl hh rfl]
    exact hselect.tail (.fetch _)

/-- **Calls are commands that read mailboxes**, one after another. -/
theorem reads_performAll (c : Connection) (calls : List Call) : ReflTransGen Reads c (performAll c calls).2 := by
  induction calls generalizing c with
  | nil => exact .refl
  | cons k calls ih =>
    have hcall : ReflTransGen Reads c (k.perform c).2 := by
      rw [Call.perform_eq]
      exact reads_stream c k.mailbox k.consumer
    exact hcall.trans (ih (k.perform c).2)

/-- A command is sent once, behind all the lines before it. -/
theorem sent_send (c : Connection) (command : Command) :
    (c.send command).sent = c.sent ++ [⟨c.lastTag + 1, command, c.replies.isSome⟩] := by
  unfold send
  cases c.replies <;> rfl

theorem sent_of_step {c c' : Connection} (h : Reads c c') : ∃ line, c'.sent = c.sent ++ [line] ∧ line.IsLater := by
  cases h with
  | @select mailbox _ _ => exact ⟨_, sent_send c (.select mailbox), .inl ⟨_, rfl⟩⟩
  | fetch => exact ⟨_, sent_send c (.fetch .messages), .inr (.inl rfl)⟩

theorem sent_of_reads {c c' : Connection} (h : ReflTransGen Reads c c') :
    ∃ lines, c'.sent = c.sent ++ lines ∧ ∀ line ∈ lines, line.IsLater := by
  induction h with
  | refl => exact ⟨[], (List.append_nil _).symm, fun _ hm => by cases hm⟩
  | tail _ hstep ih =>
    obtain ⟨lines, hsent, hlater⟩ := ih
    obtain ⟨line, hline, hl⟩ := sent_of_step hstep
    refine ⟨lines ++ [line], ?_, List.forall_mem_append.2 ⟨hlater, List.forall_mem_singleton.2 hl⟩⟩
    rw [hline, hsent, List.append_assoc]

/-! ## The lines before them -/

/-- The private connection, before anything was said on it. -/
def begun (server : Server) : Connection := fresh [] (server.login :: server.replies) [upgradeLine]

def entered (s : Settings) (server : Server) : Connection :=
  ((begun server).ask (.login s.username s.password) Feed.outcome).2

theorem connect_of_not_secures {s : Settings} {server : Server} (h : ¬ Secures s server) :
    ∃ e, connect s (.reached server) = .failed e [upgradeLine] := by
  simp only [connect, ask_fresh]
  cases hresult : ((Feed.ofOctets (server.greeting ++ server.startTls.said (ascii (Imap.tag 1)))).outcome
      (ascii (Imap.tag 1))).value with
  | error f => exact ⟨_, rfl⟩
  | ok u =>
    have hgranted := (Feed.outcome_eq_ok_iff _ _).1 hresult
    simp only [secure]
    cases hnamed : HostName.isValid s.host with
    | false => exact ⟨_, rfl⟩
    | true =>
      cases hcloses : server.startTls.closes with
      | true => exact ⟨_, rfl⟩
      | false =>
        cases hhandshake : server.handshake with
        | succeeds => exact absurd ⟨hgranted, hnamed, hcloses, hhandshake⟩ h
        | _ => exact ⟨_, rfl⟩

/-- **On a private connection the client logs in**, and knows of nothing that was said before. -/
theorem connect_of_secures {s : Settings} {server : Server} (h : Secures s server) :
    connect s (.reached server) = login s (begun server) := by
  have hresult := (Feed.outcome_eq_ok_iff _ _).2 h.granted
  simp only [connect, ask_fresh, hresult, secure, h.named, h.listens, h.handshake]
  rfl

theorem connect_of_not_admits {s : Settings} {server : Server} (hs : Secures s server) (h : ¬ Admits s server) :
    ∃ e sent, connect s (.reached server) = .failed e sent ∧
      (sent = [upgradeLine] ∨ sent = [upgradeLine, loginLine s]) := by
  rw [connect_of_secures hs]
  unfold login askChecked
  cases hcheck : (Command.login s.username s.password).check with
  | error f => exact ⟨_, _, rfl, .inl rfl⟩
  | ok u =>
    simp only [begun, ask_fresh, List.nil_append]
    cases hresult : ((Feed.ofOctets (server.login.said (ascii (Imap.tag 1)))).outcome (ascii (Imap.tag 1))).value with
    | error f => exact ⟨_, _, rfl, .inr rfl⟩
    | ok u => exact absurd ⟨hs, hcheck, (Feed.outcome_eq_ok_iff _ _).1 hresult⟩ h

theorem connect_of_admits {s : Settings} {server : Server} (h : Admits s server) :
    connect s (.reached server) = ⟨.ok (entered s server), [.connected s.host], [upgradeLine, loginLine s]⟩ := by
  have hresult : ((begun server).ask (.login s.username s.password) Feed.outcome).1 = .ok () :=
    (Feed.outcome_eq_ok_iff _ _).2 h.granted
  rw [connect_of_secures h.secures]
  unfold login askChecked
  simp only [h.sendable, hresult]
  rfl

/-- **A session begins where the login is granted**, and nowhere else. -/
theorem connect_isOk_iff (s : Settings) (server : Server) :
    (connect s (.reached server)).outcome.isOk = true ↔ Admits s server := by
  constructor
  · intro h
    by_cases hs : Secures s server
    · by_cases ha : Admits s server
      · exact ha
      · obtain ⟨e, sent, hconnect, -⟩ := connect_of_not_admits hs ha
        rw [hconnect] at h
        cases h
    · obtain ⟨e, hconnect⟩ := connect_of_not_secures hs
      rw [hconnect] at h
      cases h
  · intro h
    rw [connect_of_admits h]
    rfl

/-! ## The whole of it -/

theorem session_of_failed {s : Settings} {dial : Dial} {e : Failure} {sent : List Sent}
    (h : connect s dial = .failed e sent) (calls : List Call) (leaves : Bool) :
    session s dial calls leaves = ⟨.error e, [announcement s], [], none, sent⟩ := by
  unfold session
  rw [h]
  rfl

theorem session_of_connected {s : Settings} {dial : Dial} {c : Connection} {log : List LogEntry} {sent : List Sent}
    (h : connect s dial = ⟨.ok c, log, sent⟩) (calls : List Call) (leaves : Bool) :
    (session s dial calls leaves).outcome = .ok () ∧
      ∃ lines, (session s dial calls leaves).sent = c.sent ++ lines ∧ ∀ line ∈ lines, line.IsLater := by
  obtain ⟨lines, hsent, hlater⟩ := sent_of_reads (reads_performAll c calls)
  unfold session
  rw [h]
  cases leaves with
  | false => exact ⟨rfl, lines, hsent, hlater⟩
  | true =>
    have hlogout := sent_send (performAll c calls).2 .logout
    rw [hsent, List.append_assoc] at hlogout
    exact ⟨rfl, _, hlogout, List.forall_mem_append.2 ⟨hlater, List.forall_mem_singleton.2 (.inr (.inr rfl))⟩⟩

theorem guarded_of_failed {Agreed : Server → Prop} {s : Settings} {dial : Dial} {e : Failure} {sent : List Sent}
    (hconnect : connect s dial = .failed e sent) (ha : ¬ dial.Reaches fun x => Agreed x ∧ Admits s x)
    (hawaited : Awaited Agreed s dial sent)
    (hunsecured : (¬ dial.Reaches fun x => Agreed x ∧ Secures s x) → sent <+: [upgradeLine])
    (hunadmitted : sent <+: [upgradeLine, loginLine s]) (calls : List Call) (leaves : Bool) :
    (session s dial calls leaves).Guarded Agreed s dial := by
  rw [session_of_failed hconnect]
  exact ⟨hawaited, ⟨fun h => (by cases h), fun h => absurd h ha⟩, hunsecured, fun _ => hunadmitted⟩

/-- **A session waits for whatever consent its server cannot do without.** -/
theorem guarded_of_agreed {Agreed : Server → Prop} {s : Settings} {dial : Dial}
    (hagreed : ∀ server, dial = .reached server → Secures s server → Agreed server) (calls : List Call)
    (leaves : Bool) : (session s dial calls leaves).Guarded Agreed s dial := by
  have hupgrade : [upgradeLine] <+: [upgradeLine, loginLine s] := List.prefix_append [_] [_]
  cases dial with
  | failed fault =>
    exact guarded_of_failed rfl id .nil (fun _ => List.nil_prefix) List.nil_prefix calls leaves
  | reached server =>
    -- a server that is reached is left before the login, at the login, or with a session
    by_cases hs : Secures s server
    · have hsecured : Agreed server ∧ Secures s server := ⟨hagreed server rfl hs, hs⟩
      have hlogin : Awaited Agreed s (.reached server) [upgradeLine, loginLine s] := .login hsecured
      by_cases ha : Admits s server
      · have hadmitted : Agreed server ∧ Admits s server := ⟨hsecured.1, ha⟩
        obtain ⟨hbegins, lines, hlines, hlater⟩ := session_of_connected (connect_of_admits ha) calls leaves
        have hsent : (entered s server).sent = [upgradeLine, loginLine s] := rfl
        rw [hsent] at hlines
        refine ⟨?_, ⟨fun _ => hadmitted, fun _ => hbegins⟩, fun h => absurd hsecured h, fun h => absurd hadmitted h⟩
        rw [hlines]
        exact hlogin.later hadmitted hlater (List.prefix_refl _)
      · have hnone : ¬ (Agreed server ∧ Admits s server) := fun h => ha h.2
        obtain ⟨e, sent, hconnect, rfl | rfl⟩ := connect_of_not_admits hs ha
        · exact guarded_of_failed hconnect hnone .upgrade (fun h => absurd hsecured h) hupgrade calls leaves
        · exact guarded_of_failed hconnect hnone hlogin (fun h => absurd hsecured h) (List.prefix_refl _) calls leaves
    · obtain ⟨e, hconnect⟩ := connect_of_not_secures hs
      have hnone : ¬ (Agreed server ∧ Admits s server) := fun h => hs h.2.secures
      exact guarded_of_failed hconnect hnone .upgrade (fun _ => List.prefix_refl _) hupgrade calls leaves

/-- **Every line of a session waits for what is before it.**  The first line asks for a private connection, and is the
only one of its kind.  The name and the password are sent once at most, on a private connection, and nothing about a
mailbox and no logout is sent before they were accepted.  A session that does not come to that fails, and sends nothing
more.  What is waited for is that the server agrees to the first line in its answer; only a server that greets with its
consent is taken at its greeting. -/
theorem session_guarded (s : Settings) (dial : Dial) (calls : List Call) (leaves : Bool) :
    (session s dial calls leaves).Guarded (fun x => x.Agrees ∨ x.Forestalls) s dial ∧
      (¬ dial.Reaches Server.Forestalls → (session s dial calls leaves).Guarded Server.Agrees s dial) := by
  refine ⟨guarded_of_agreed (fun _ _ hs => hs.agrees_or_forestalls) calls leaves, fun hgreeting => ?_⟩
  refine guarded_of_agreed (fun server hdial hs => ?_) calls leaves
  subst hdial
  exact hs.agrees_or_forestalls.resolve_right hgreeting

/-- A server that greets as servers do, agrees, and accepts the login. -/
theorem session_guarded_of_usual_greeting :
    let s : Settings := ⟨"mail.example", 143, "user", "password"⟩
    let ok : Reply := Reply.ofText "\x7btag\x7d OK\r\n"
    let server : Server := ⟨ascii "* OK ready\r\n", ok, .succeeds, ok, []⟩
    ¬ (Dial.reached server).Reaches Server.Forestalls ∧
      (session s (.reached server) [] true).Guarded Server.Agrees s (.reached server) ∧
      (session s (.reached server) [] true).sent = [upgradeLine, loginLine s, ⟨2, .logout, true⟩] := by
  intro s ok server
  have hread : Imap.response (ascii "* OK ready\r\n") = .done (.condition .ok ⟨none, some "ready"⟩) [] := by
    decide +kernel
  have hgreeting : ¬ (Dial.reached server).Reaches Server.Forestalls :=
    not_grantedEarly_of_readAs (.cons hread (.nil [])) (List.forall_mem_singleton.2 fun _ _ _ h => by cases h)
  exact ⟨hgreeting, (session_guarded s (.reached server) [] true).2 hgreeting, by decide +kernel⟩

/-- **A server that greets with its consent, and then refuses or says nothing**: the name and the password are sent all
the same. -/
theorem login_behind_refusal :
    let s : Settings := ⟨"mail.example", 143, "user", "password"⟩
    let server : Reply → Server := fun answer =>
      ⟨ascii "A0001 OK hi\r\n", answer, .succeeds, Reply.ofText "\x7btag\x7d OK\r\n", []⟩
    let refusal : Reply := Reply.ofText "\x7btag\x7d NO not now\r\n"
    let silence : Reply := Reply.ofText ""
    (¬ (server refusal).Agrees ∧
      ((Feed.ofOctets (refusal.said (ascii (Imap.tag 1)))).outcome (ascii (Imap.tag 1))).value =
        .error (.no "code: None, info: Some(\"not now\")") ∧
      (session s (.reached (server refusal)) [] false).outcome.isOk = true ∧
      (session s (.reached (server refusal)) [] false).sent = [upgradeLine, loginLine s]) ∧
    ¬ (server silence).Agrees ∧ silence.said (ascii (Imap.tag 1)) = [] ∧
      (session s (.reached (server silence)) [] false).outcome.isOk = true ∧
      (session s (.reached (server silence)) [] false).sent = [upgradeLine, loginLine s] := by
  intro s server refusal silence
  have hread : Imap.response (ascii "A0001 OK hi\r\n") =
      .done (.tagged (ascii (Imap.tag 1)) .ok ⟨none, some "hi"⟩) [] := by
    decide +kernel
  have hforestalls (answer : Reply) : (server answer).Forestalls := grantedEarly_of_response hread
  refine ⟨⟨(hforestalls refusal).not_byAnswer, ?_, ?_, ?_⟩, (hforestalls silence).not_byAnswer, ?_, ?_, ?_⟩ <;>
    decide +kernel

end Connection
end Wire
end Postbag
