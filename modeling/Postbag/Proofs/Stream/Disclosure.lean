import Postbag.Cli.Run
import Postbag.Proofs.Wire.Calls
import Postbag.Script
/-!
# Disclosure — what of an envelope comes out

A server lists addresses with the names that are displayed, and it may list those of Bcc.  Nothing that a reader of mail
does looks at either: what is left of an envelope without them (`bare`) is read as the whole of it, told of in the log in
the same words, and printed the same.  So sessions that differ in names and in Bcc alone take the same course.
-/
namespace Postbag

/-! ## What is left without names and without Bcc -/

def Address.bare (a : Address) : Address := { a with name := none }

/-- **The envelope without the names that are displayed, and without Bcc.** -/
def Envelope.bare (e : Envelope) : Envelope :=
  { e with
    sender := e.sender.map Address.bare
    «to» := e.«to».map Address.bare
    cc := e.cc.map Address.bare
    bcc := [] }

def Record.bare (r : Record) : Record := { r with envelope := r.envelope.map Envelope.bare }

def Step.bare (step : Step) : Step := step.map Record.bare

def Fetch.bare (f : Fetch) : Fetch := { f with steps := f.steps.map Step.bare }

def Answers.bare (a : Answers) : Answers := { a with fetch := a.fetch.map Fetch.bare }

def Script.bare (s : Script) : Script := { s with steps := s.steps.map Step.bare }

/-- The course of a FETCH, of which the steps that are left are bare. -/
def Reading.bare (r : Reading) : Reading := { r with unread := r.unread.map Step.bare }

def Run.bare (r : Run) : Run := { r with unread := r.unread.map Step.bare }

/-! ## A record -/

theorem spec_bare (a : Address) : a.bare.spec = a.spec := rfl

theorem map_spec_bare (as : List Address) : (as.map Address.bare).map Address.spec = as.map Address.spec := by
  rw [List.map_map]
  exact List.map_congr_left fun a _ => spec_bare a

/-- **The headers of an envelope are those of what is left of it.** -/
theorem headers_bare (e : Envelope) : Headers.ofEnvelope e.bare = Headers.ofEnvelope e := by
  simp only [Headers.ofEnvelope, Envelope.bare, map_spec_bare]

theorem log_bare (r : Record) : r.bare.log = r.log := by
  obtain ⟨uid, envelope, body⟩ := r
  cases envelope with
  | none => rfl
  | some e =>
    simp only [Record.bare, Record.log, Option.map_some, headers_bare]
    rfl

theorem ofRecord_bare (r : Record) : Message.ofRecord r.bare = Message.ofRecord r := by
  obtain ⟨uid, envelope, body⟩ := r
  cases envelope with
  | none => rfl
  | some e => simp only [Record.bare, Message.ofRecord, Option.map_some, headers_bare]

namespace Stream

/-! ## A stream -/

theorem outcome_bare (step : Step) : outcome step.bare = outcome step := by
  cases step with
  | error e => rfl
  | ok r =>
    show outcome (.ok r.bare) = _
    rw [outcome, outcome, ofRecord_bare]

theorem asking_bare (step : Step) : asking step.bare = asking step := by
  cases step with
  | error e => rfl
  | ok r =>
    show asking (.ok r.bare) = _
    rw [asking, asking, stepLog, stepLog, log_bare]

theorem after_bare (es : List Event) (r : Reading) : r.bare.after es = (r.after es).bare := rfl

/-- **A reading of what is left of the steps** takes the same course, and leaves what is left of the others. -/
theorem read_bare (consumer : Consumer) (handed : List Element) (steps : List Step) :
    read consumer handed (steps.map Step.bare) = (read consumer handed steps).bare := by
  induction steps generalizing handed with
  | nil => rfl
  | cons step steps ih =>
    have ho := outcome_bare step
    rw [List.map_cons]
    cases h : outcome step with
    | skipped f =>
      rw [read_of_skipped (ho.trans h), read_of_skipped h, ih, asking_bare, after_bare]
    | fatal f =>
      rw [read_of_fatal (ho.trans h), read_of_fatal h, asking_bare]
      rfl
    | message m =>
      cases ha : consumer handed (.ok m) with
      | goOn => rw [read_of_goOn (ho.trans h) ha, read_of_goOn h ha, ih, asking_bare, after_bare]
      | stop =>
        rw [read_of_stop (ho.trans h) ha, read_of_stop h ha, asking_bare]
        rfl

theorem drain_bare (steps : List Step) : drain (steps.map Step.bare) = drain steps := by
  induction steps with
  | nil => rfl
  | cons step steps ih =>
    cases step with
    | error e => rfl
    | ok r => exact congrArg (Except.map (· + 1)) ih

theorem releasing_bare (consumer : Consumer) (release : Release) (r : Reading) :
    releasing consumer release r.bare = releasing consumer release r := by
  have hreleased : released release r.bare.unread = released release r.unread := by
    cases release with
    | ends result => rfl
    | drains => exact drain_bare r.unread
  rw [releasing, releasing, hreleased]
  rfl

theorem fetchRun_bare (consumer : Consumer) (fetch : Fetch) :
    fetchRun consumer fetch.bare = (fetchRun consumer fetch).bare := by
  simp only [fetchRun, Fetch.bare, read_bare, releasing_bare]
  rfl

/-- **A stream of what is left takes the same course.** -/
theorem run_bare (answers : Answers) (waiting : List Step) (mailbox : String) (consumer : Consumer) :
    run answers.bare (waiting.map Step.bare) mailbox consumer = (run answers waiting mailbox consumer).bare := by
  obtain ⟨count, fetch⟩ := answers
  cases count with
  | error e => rfl
  | ok count =>
    by_cases hn : count = 0
    · simp only [run, Answers.bare, if_pos hn]
      rfl
    · cases fetch with
      | error e =>
        simp only [run, Answers.bare, if_neg hn]
        rfl
      | ok fetch =>
        simp only [run, Answers.bare, Except.map, if_neg hn, fetchRun_bare]
        rfl

end Stream

/-! ## A session that is played from scripts -/

namespace Script

open Wire (Call Given)

theorem answers_bare (s : Script) : s.bare.answers = s.answers.bare := by
  obtain ⟨steps, count, selectFailure, fetchFailure, releaseFailure⟩ := s
  simp only [answers, bare, Answers.bare, fetch, List.length_map]
  cases fetchFailure <;> rfl

theorem run_bare (s : Script) (mailbox : String) (consumer : Consumer) :
    s.bare.run mailbox consumer = (s.run mailbox consumer).bare := by
  rw [run, answers_bare]
  exact Stream.run_bare s.answers s.steps mailbox consumer

/-- What a call gives back that takes up the script. -/
def given (s : Script) (k : Call) : Given := (s.run k.mailbox k.consumer, k.gathered (s.run k.mailbox k.consumer))

/-- What is printed of the messages that a run handed out. -/
def printed (options : Cli.Options) (r : Run) : String :=
  Cli.output options ((Cli.messagesOf r.elements).map Cli.Summary.ofMessage)

/-- **Two calls that nobody can tell apart**, except by what they left unread, and by that only in names and in Bcc. -/
structure SameCourse (x y : Given) : Prop where
  trace : x.1.trace = y.1.trace
  gathered : x.2 = y.2
  unread : x.1.unread.map Step.bare = y.1.unread.map Step.bare
  printed : ∀ options, printed options x.1 = printed options y.1

theorem sameCourse_of_bare_eq {s s' : Script} (h : s.bare = s'.bare) (k : Call) :
    SameCourse (s.given k) (s'.given k) := by
  have hrun : (s.run k.mailbox k.consumer).bare = (s'.run k.mailbox k.consumer).bare := by
    rw [← run_bare, ← run_bare, h]
  have htrace : (s.run k.mailbox k.consumer).trace = (s'.run k.mailbox k.consumer).trace :=
    (congrArg Run.trace hrun :)
  have helements : (s.run k.mailbox k.consumer).elements = (s'.run k.mailbox k.consumer).elements :=
    congrArg elementsOf htrace
  refine ⟨htrace, ?_, congrArg Run.unread hrun, fun options => ?_⟩
  · cases k with
    | messages => rfl
    | collect => exact congrArg (fun es => some (gather es)) helements
  · show Script.printed options (s.run _ _) = Script.printed options (s'.run _ _)
    rw [Script.printed, Script.printed, helements]

/-- **A session**, in which each call takes up the next script. -/
def play (scripts : List Script) (calls : List Call) : List Given := List.zipWith given scripts calls

/-- **Names and Bcc never come out.**  Two sessions whose scripts differ only in the names of addresses and in the
lists of Bcc are told apart by no call: the questions, the elements, the log and what is gathered are the same, whatever
the consumers do, and so is what is printed of the messages; the steps that are left unread are as many, and differ in
names and in Bcc alone. -/
theorem play_of_bare_eq (scripts scripts' : List Script) (h : scripts.map Script.bare = scripts'.map Script.bare)
    (calls : List Call) : List.Forall₂ SameCourse (play scripts calls) (play scripts' calls) := by
  -- each call takes up one script of either session, and the two are bare alike
  induction calls generalizing scripts scripts' with
  | nil =>
    rw [play, play, List.zipWith_nil_right, List.zipWith_nil_right]
    exact .nil
  | cons k calls ih =>
    cases scripts with
    | nil =>
      obtain rfl : scripts' = [] := List.map_eq_nil_iff.1 h.symm
      exact .nil
    | cons s scripts =>
      obtain ⟨s', scripts', rfl, hs, hss⟩ := List.map_eq_cons_iff.1 h.symm
      exact .cons (sameCourse_of_bare_eq hs.symm k) (ih scripts scripts' hss.symm)

/-- A mail that was sent to somebody in secret, and one that was not; a stream that stops, and one that is gathered. -/
theorem play_of_bare_eq_of_secret :
    let address (name : Option String) : Address := ⟨name, some "alice", some "mail.example"⟩
    let envelope (name : Option String) (bcc : List Address) : Envelope :=
      ⟨none, some "Minutes", [address name], [address none], [address name], bcc, none⟩
    let script (name : Option String) (bcc : List Address) : Script :=
      ⟨[.ok ⟨7, some (envelope name bcc), some [0x78]⟩, .ok ⟨8, some (envelope name bcc), none⟩], none, none, none, none⟩
    let plain : List Script := [script none [], script none []]
    let secret : List Script := [script (some "Alice") [address (some "Bob")], script (some "") [address none]]
    let calls : List Call := [.messages "INBOX" (.stopAt (some 1)), .collect "INBOX"]
    plain ≠ secret ∧ plain.map Script.bare = secret.map Script.bare ∧
      List.Forall₂ SameCourse (play plain calls) (play secret calls) := by
  intro address envelope script plain secret calls
  have hbare : plain.map Script.bare = secret.map Script.bare := rfl
  have hbcc : (plain.map fun s => s.steps.map fun step => step.toOption.bind Record.envelope) ≠
      secret.map fun s => s.steps.map fun step => step.toOption.bind Record.envelope := by decide +kernel
  exact ⟨fun h => hbcc (congrArg _ h), hbare, play_of_bare_eq plain secret hbare calls⟩

end Script
end Postbag
