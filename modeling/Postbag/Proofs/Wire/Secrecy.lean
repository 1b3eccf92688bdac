import Postbag.Cli.Run
import Postbag.Proofs.Imap.Request
import Postbag.Proofs.Wire.Opening
/-!
# Secrecy — where the password goes

The password goes into the login line, and nowhere else.  To *mask* is to put the empty password there.  Masking
commutes with all that a connection does, because neither the server nor the client looks at the password of a command;
only whether it can be sent is looked at.  So two runs whose settings differ in the password alone are masked to the
same run.
-/
namespace Postbag

open Imap (Command Sendable)

def Imap.Command.masked : Command → Command
  | .login username _ => .login username ""
  | c => c

def Settings.masked (s : Settings) : Settings := { s with password := "" }

namespace Wire

def Sent.masked (line : Sent) : Sent := { line with command := line.command.masked }

def Connection.masked (c : Connection) : Connection := { c with sent := c.sent.map Sent.masked }

def Connection.Attempt.masked (a : Attempt) : Attempt :=
  ⟨a.outcome.map Connection.masked, a.log, a.sent.map Sent.masked⟩

def Session.masked (x : Session) : Session := { x with sent := x.sent.map Sent.masked }

end Wire

def Cli.Outcome.masked (o : Cli.Outcome) : Cli.Outcome := { o with sent := o.sent.map Wire.Sent.masked }

theorem Imap.Command.check_masked {s : Settings} (h : Imap.Sendable s.password) :
    (Command.login s.username s.password).masked.check = (Command.login s.username s.password).check := by
  have hempty : Imap.checkArgument "" = .ok () := rfl
  have hpassword : Imap.checkArgument s.password = .ok () := (Imap.checkArgument_eq_ok_iff s.password).2 h
  unfold masked check
  simp only [hempty, hpassword]

namespace Wire
namespace Connection

/-! ## Single commands -/

theorem answer_masked (command : Command) (replies : List Reply) :
    answer command.masked replies = answer command replies := by
  cases replies <;> cases command <;> rfl

/-- **A server that is sent a masked command answers the same.** -/
theorem send_masked (c : Connection) (command : Command) :
    c.masked.send command.masked = (c.send command).masked := by
  obtain ⟨incoming, replies, lastTag, sent⟩ := c
  unfold send masked
  cases replies with
  | none => simp [Sent.masked]
  | some replies => simp [answer_masked, Sent.masked]

theorem ask_masked {α : Type} (c : Connection) (command : Command) (hear : List UInt8 → Feed → Heard α) :
    c.masked.ask command.masked hear = ((c.ask command hear).1, (c.ask command hear).2.masked) := by
  unfold ask
  simp only [send_masked]
  rfl

theorem askChecked_masked {α : Type} (command : Command) (hc : command.masked.check = command.check) (c : Connection)
    (hear : List UInt8 → Feed → Heard (Except Imap.Fault α)) :
    c.masked.askChecked command.masked hear =
      ((c.askChecked command hear).1, (c.askChecked command hear).2.masked) := by
  unfold askChecked
  rw [hc]
  cases command.check with
  | error f => rfl
  | ok u => exact ask_masked c command hear

section Own

variable {α : Type} {command : Command} (h : command.masked = command) (c : Connection)
include h

/-- A command without a password is its own mask. -/
theorem ask_own (hear : List UInt8 → Feed → Heard α) :
    c.masked.ask command hear = ((c.ask command hear).1, (c.ask command hear).2.masked) := by
  have hask := ask_masked c command hear
  rwa [h] at hask

theorem askChecked_own (hear : List UInt8 → Feed → Heard (Except Imap.Fault α)) :
    c.masked.askChecked command hear = ((c.askChecked command hear).1, (c.askChecked command hear).2.masked) := by
  have hask := askChecked_masked command (congrArg Command.check h) c hear
  rwa [h] at hask

end Own

theorem select_masked (c : Connection) (mailbox : String) :
    c.masked.select mailbox = ((c.select mailbox).1, (c.select mailbox).2.masked) := by
  unfold select
  rw [askChecked_own rfl]

theorem fetch_masked (c : Connection) : c.masked.fetch = (c.fetch.1, c.fetch.2.masked) := by
  unfold fetch
  rw [ask_own rfl]

theorem logout_masked (c : Connection) : c.masked.logout = (c.logout.1, c.logout.2.masked) := by
  unfold logout
  rw [ask_own rfl]

/-! ## Calls -/

theorem stream_masked (c : Connection) (mailbox : String) (consumer : Consumer) :
    c.masked.stream mailbox consumer = ((c.stream mailbox consumer).1, (c.stream mailbox consumer).2.masked) := by
  unfold stream
  simp only [select_masked, fetch_masked]
  cases (c.select mailbox).1 with
  | error e => rfl
  | ok count => by_cases hn : count = 0 <;> simp [hn]

theorem perform_masked (c : Connection) (k : Call) :
    k.perform c.masked = ((k.perform c).1, (k.perform c).2.masked) := by
  simp only [Call.perform_eq, stream_masked]

theorem performAll_masked (c : Connection) (calls : List Call) :
    performAll c.masked calls = ((performAll c calls).1, (performAll c calls).2.masked) := by
  induction calls generalizing c with
  | nil => rfl
  | cons k calls ih =>
    unfold performAll
    simp only [perform_masked, ih]

/-! ## Connecting -/

theorem login_masked {s : Settings} (h : Sendable s.password) (c : Connection) :
    login s.masked c.masked = (login s c).masked := by
  have hask := askChecked_masked (.login s.username s.password) (Command.check_masked h) c Feed.outcome
  simp only [Command.masked] at hask
  unfold login Settings.masked
  simp only [hask]
  cases (c.askChecked (.login s.username s.password) Feed.outcome).1 <;> rfl

theorem secure_masked {s : Settings} (h : Sendable s.password) (server : Server) (c : Connection) :
    secure s.masked server c.masked = (secure s server c).masked := by
  have hhost : s.masked.host = s.host := rfl
  have hreplies : c.masked.replies = c.replies := rfl
  have hlogin := login_masked h (.fresh [] (server.login :: server.replies) c.sent)
  unfold secure
  rw [hhost, hreplies]
  by_cases hname : HostName.isValid s.host = true
  · by_cases hdeaf : c.replies.isNone = true
    · simp [hname, hdeaf, Attempt.masked, Attempt.failed, Connection.masked, Except.map]
    · cases server.handshake <;> simp [hname, hdeaf, Attempt.masked, Attempt.failed, Connection.masked, Except.map]
      exact hlogin
  · simp [hname, Attempt.masked, Attempt.failed, Connection.masked, Except.map]

/-- **To connect with a masked password is to connect and mask what was sent.** -/
theorem connect_masked {s : Settings} (h : Sendable s.password) (dial : Dial) :
    connect s.masked dial = (connect s dial).masked := by
  cases dial with
  | failed fault => rfl
  | reached server =>
    have hfresh : (fresh server.greeting [server.startTls] []).masked = fresh server.greeting [server.startTls] [] := rfl
    have hown : Command.startTls.masked = Command.startTls := rfl
    have hask := ask_own hown (fresh server.greeting [server.startTls] []) Feed.outcome
    rw [hfresh] at hask
    unfold connect
    cases hasked : (fresh server.greeting [server.startTls] []).ask .startTls Feed.outcome with
    | mk result c =>
      simp only [hasked] at hask ⊢
      -- nothing was sent so far but the request for a private connection, which is its own mask
      have hc : c.masked = c := (congrArg Prod.snd hask).symm
      cases result with
      | error f =>
        have hsent : c.sent.map Sent.masked = c.sent := congrArg Connection.sent hc
        simp [Attempt.failed, Attempt.masked, Except.map, hsent]
      | ok u =>
        have hsecure := secure_masked h server c
        rw [hc] at hsecure
        exact hsecure

/-- **A session with a masked password is the session with what was sent masked.** -/
theorem session_masked {s : Settings} (h : Sendable s.password) (dial : Dial) (calls : List Call) (leaves : Bool) :
    session s.masked dial calls leaves = (session s dial calls leaves).masked := by
  unfold session
  simp only [connect_masked h, Attempt.masked]
  cases (connect s dial).outcome with
  | error e => rfl
  | ok c =>
    simp only [Except.map, performAll_masked]
    cases leaves with
    | false => rfl
    | true =>
      simp only [if_true, logout_masked]
      rfl

end Connection
end Wire

/-! ## The command line -/

namespace Cli

open Wire (Connection)

theorem listMailbox_masked (options : Options) (c : Connection) :
    listMailbox options c.masked = (listMailbox options c).masked := by
  unfold listMailbox
  simp only [Connection.stream_masked, Connection.logout_masked]
  rfl

/-- A run looks at its connection, and at nothing else of its settings. -/
theorem listFrom_masked {attempt attempt' : Connection.Attempt} (h : attempt.masked = attempt'.masked)
    (options : Options) : (listFrom options attempt).masked = (listFrom options attempt').masked := by
  obtain ⟨outcome, log, sent⟩ := attempt
  obtain ⟨outcome', log', sent'⟩ := attempt'
  have houtcome := congrArg Connection.Attempt.outcome h
  have hsent := congrArg Connection.Attempt.sent h
  simp only [Connection.Attempt.masked] at houtcome hsent
  unfold listFrom
  cases outcome with
  | error e =>
    cases outcome' with
    | error e' =>
      obtain rfl : e = e' := Except.error.inj houtcome
      simp [failed, Outcome.masked, hsent]
    | ok c' => cases houtcome
  | ok c =>
    cases outcome' with
    | error e' => cases houtcome
    | ok c' =>
      have hc : c.masked = c'.masked := Except.ok.inj houtcome
      simp only [← listMailbox_masked, hc]

theorem run_masked_of_start {environment environment' : Environment} {file file' : String}
    {dial dial' : Settings → Dial}
    (h : (start environment file dial).masked = (start environment' file' dial').masked) (arguments : List String) :
    (run arguments environment file dial).masked = (run arguments environment' file' dial').masked := by
  unfold run
  cases Request.ofArguments arguments with
  | list options => exact listFrom_masked h options
  | help => rfl
  | misuse => rfl

end Cli

/-! ## Two passwords -/

open Wire (Connection session Call)

/-- Of the password, the settings are told only whether there is one. -/
theorem Settings.ofLookup_masked {lookup other : String → Option String}
    (h : ∀ name, name ≠ "IMAP_PASSWORD" → lookup name = other name)
    (hp : (lookup "IMAP_PASSWORD").isSome = (other "IMAP_PASSWORD").isSome) :
    (ofLookup lookup).map masked = (ofLookup other).map masked := by
  have hhost : lookup "IMAP_HOST" = other "IMAP_HOST" := h _ (by decide)
  have hport : lookup "IMAP_PORT" = other "IMAP_PORT" := h _ (by decide)
  have huser : lookup "IMAP_USERNAME" = other "IMAP_USERNAME" := h _ (by decide)
  unfold ofLookup required
  rw [hhost, hport, huser]
  cases readPort (other "IMAP_PORT") with
  | error fault => rfl
  | ok port =>
    cases other "IMAP_USERNAME" with
    | none => rfl
    | some username =>
      cases hq : lookup "IMAP_PASSWORD" <;> cases hq' : other "IMAP_PASSWORD" <;> rw [hq, hq'] at hp <;>
        first | rfl | cases hp

/-- **What can be seen of the password is the login line.**  Two sessions whose settings differ in the password alone
are the same once it is masked: their failures, their logs, what their calls give back, how the logout went, and every
line but that one.  So are two runs of the command line, which print the same and exit the same.  And settings are read
alike, up to the password, from variables that are alike but for that of the password. -/
theorem password_only_in_login {s s' : Settings} (hs : s.masked = s'.masked) (hp : Sendable s.password)
    (hp' : Sendable s'.password) :
    (∀ dial calls leaves, (session s dial calls leaves).masked = (session s' dial calls leaves).masked) ∧
    (∀ (arguments : List String) (environment environment' : Environment) (file file' : String)
        (find : String → UInt16 → Dial),
      Settings.ofEnvironment environment file = .ok s → Settings.ofEnvironment environment' file' = .ok s' →
      let o := Cli.run arguments environment file fun s => find s.host s.port
      let o' := Cli.run arguments environment' file' fun s => find s.host s.port
      o.masked = o'.masked ∧ o.stdout = o'.stdout ∧ o.stderr = o'.stderr ∧ o.exitCode = o'.exitCode) ∧
    ∀ lookup other : String → Option String, (∀ name, name ≠ "IMAP_PASSWORD" → lookup name = other name) →
      lookup "IMAP_PASSWORD" = some s.password → other "IMAP_PASSWORD" = some s'.password →
      (Settings.ofLookup lookup).map Settings.masked = (Settings.ofLookup other).map Settings.masked := by
  refine ⟨fun dial calls leaves => ?_, fun arguments environment environment' file file' find h h' => ?_,
    fun lookup other h hl ho => ?_⟩
  · rw [← Connection.session_masked hp, hs, Connection.session_masked hp']
  · have hhost : s.host = s'.host := congrArg (fun s => s.host) hs
    have hport : s.port = s'.port := congrArg (fun s => s.port) hs
    have hstart : (Cli.start environment file fun s => find s.host s.port).masked =
        (Cli.start environment' file' fun s => find s.host s.port).masked := by
      rw [Cli.start_of_settings h, Cli.start_of_settings h', ← Connection.connect_masked hp, hs,
        Connection.connect_masked hp', hhost, hport]
    have hrun := Cli.run_masked_of_start hstart arguments
    have hactions := congrArg Cli.Outcome.actions hrun
    have hexit := congrArg Cli.Outcome.exitCode hrun
    simp only [Cli.Outcome.masked] at hactions hexit
    refine ⟨hrun, ?_, ?_, hexit⟩
    · simp only [Cli.Outcome.stdout, hactions]
    · simp only [Cli.Outcome.stderr, hactions]
  · exact Settings.ofLookup_masked h (by rw [hl, ho]; rfl)

/-- Two passwords, one of them with a quote and a letter that is no ASCII. -/
theorem password_only_in_login_of_quote :
    let environment (password : String) : Environment :=
      [("IMAP_HOST", "mail.example"), ("IMAP_USERNAME", "user"), ("IMAP_PASSWORD", password)]
    let s (password : String) : Settings := ⟨"mail.example", 1143, "user", password⟩
    (∀ dial calls leaves,
      (session (s "pass") dial calls leaves).masked = (session (s "p\"ä") dial calls leaves).masked) ∧
    ∀ (arguments : List String) (find : String → UInt16 → Dial),
      (Cli.run arguments (environment "pass") "" fun s => find s.host s.port).masked =
        (Cli.run arguments (environment "p\"ä") "" fun s => find s.host s.port).masked := by
  intro environment s
  have hs : Settings.ofEnvironment (environment "pass") "" = .ok (s "pass") := by decide +kernel
  have hs' : Settings.ofEnvironment (environment "p\"ä") "" = .ok (s "p\"ä") := by decide +kernel
  have hmasked : (s "pass").masked = (s "p\"ä").masked := rfl
  obtain ⟨hsession, hrun, -⟩ := password_only_in_login hmasked (by decide) (by decide)
  exact ⟨hsession, fun arguments find => (hrun arguments _ _ "" "" find hs hs').1⟩

end Postbag
