import Postbag.Cli.Run
import Postbag.Proofs.Cli.Documents
import Postbag.Proofs.Stream.Consumers
import Postbag.Proofs.Wire.Later
/-!
# Printed — what a run of the command line comes to

A run without a limit prints the messages that the stream of its mailbox yields, all of them and in order, whether the
stream ends well or not.  The failure of the stream, where there is one, decides the exit code and is reported.  The
logout stands between the stream and the printing, and has no part in either.
-/
namespace Postbag
namespace Cli

open Imap (Command)
open Wire (Connection Call Admits)
open Wire.Connection (entered)

/-! ## What lists messages -/

def entry (m : Message) : Document :=
  .object [("uid", .number m.uid.toNat), ("size", .number m.body.length),
    ("envelope", Summary.headersDocument m.headers)]

/-- **A row of a message** begins with its number, and holds its date, its senders and its subject, as far as these have
room. -/
structure Row (m : Message) (row : List Char) : Prop where
  number : ∃ rest, row = Text.digits m.uid.toNat ++ ' ' :: rest
  date : (Summary.ofMessage m).dateColumn <:+: row
  sender : (Summary.ofMessage m).senderColumn <:+: row
  subject : (Summary.ofMessage m).subjectColumn <:+ row

/-- **A table of messages**: a row for each, in order, between a heading and their number. -/
structure Tabulates (messages : List Message) (text : String) : Prop where
  empty : messages = [] → text = "No messages found.\n"
  rows : messages ≠ [] → ∃ rows, List.Forall₂ Row messages rows ∧
    text.toList = ([Summary.heading, Summary.rule] ++ rows ++
      [[], Text.digits messages.length ++ " message(s)".toList]).flatMap (· ++ ['\n'])

/-- **A text lists messages**: a reader of JSON reads an entry for each of it, or it is a table of them. -/
def Lists (json : Bool) (messages : List Message) (text : String) : Prop :=
  if json then Document.read? text = some (.list (messages.map entry)) else Tabulates messages text

theorem infix_padded (width : Nat) (s : List Char) : s <:+: ' ' :: Summary.padded width s :=
  (List.prefix_append s _).isInfix.trans (List.suffix_cons _ _).isInfix

theorem columns_hold (number date sender subject : List Char) :
    (∃ rest, Summary.columns number date sender subject = number ++ ' ' :: rest) ∧
      date <:+: Summary.columns number date sender subject ∧
      sender <:+: Summary.columns number date sender subject ∧
      subject <:+ Summary.columns number date sender subject := by
  unfold Summary.columns
  refine ⟨?_, ?_, ?_, ?_⟩
  · -- behind the number there is a space, whether it fills its column or not
    unfold Summary.padded
    cases 8 - number.length with
    | zero => exact ⟨_, by simp; rfl⟩
    | succ n => exact ⟨_, by simp [List.replicate_succ]; rfl⟩
  · rw [List.append_assoc]
    exact (infix_padded 20 date).trans (List.infix_append _ _ _)
  · exact (infix_padded 30 sender).trans (List.infix_append _ _ _)
  · exact (List.suffix_cons _ _).trans (List.suffix_append _ _)

theorem row_of_summary (m : Message) : Row m (Summary.ofMessage m).row := by
  obtain ⟨hnumber, hdate, hsender, hsubject⟩ := columns_hold (Text.digits (Summary.ofMessage m).uid.toNat)
    (Summary.ofMessage m).dateColumn (Summary.ofMessage m).senderColumn (Summary.ofMessage m).subjectColumn
  exact ⟨hnumber, hdate, hsender, hsubject⟩

theorem tabulates_tableText (messages : List Message) :
    Tabulates messages (Summary.tableText (messages.map Summary.ofMessage)) := by
  constructor
  · rintro rfl
    rfl
  · intro hne
    refine ⟨messages.map fun m => (Summary.ofMessage m).row, ?_, ?_⟩
    · rw [List.forall₂_map_right_iff, List.forall₂_same]
      exact fun m _ => row_of_summary m
    · have hsome : (messages.map Summary.ofMessage).isEmpty = false := by simpa using hne
      simp [Summary.tableText, Summary.tableLines, hsome, Summary.total, Function.comp_def]

/-- **What is printed of messages lists them.** -/
theorem lists_output (options : Options) (messages : List Message) :
    Lists options.json messages (output options (messages.map Summary.ofMessage)) := by
  unfold Lists output
  cases options.json with
  | false => exact tabulates_tableText messages
  | true =>
    have hspace : ∀ c ∈ ['\n'], Document.isSpace c = true := fun c hc => by rw [List.mem_singleton.1 hc]; rfl
    have hread := Document.read?_render (.list (messages.map entry)) hspace
    have hentries : (messages.map Summary.ofMessage).map Summary.document = messages.map entry := by
      rw [List.map_map]
      rfl
    simpa [Summary.documentText, hentries] using hread

/-! ## What a run on a connection comes to -/

theorem limited_none_alike : (limited none).Alike .eager := fun _ _ => rfl

theorem messagesOf_delivered (ms : List Message) (last : Option Failure) :
    messagesOf (Stream.delivered ms last) = ms := by
  induction ms with
  | nil => cases last <;> rfl
  | cons m ms ih => exact congrArg (m :: ·) ih

theorem failureOf_delivered (ms : List Message) (last : Option Failure) :
    failureOf (Stream.delivered ms last) = last := by
  induction ms with
  | nil => cases last <;> rfl
  | cons m ms ih => exact ih

theorem join_stream (out : Action → String) (hout : ∀ e, out (.stream e) = "") (t : List Event) :
    String.join ((t.map Action.stream).map out) = "" := by
  induction t with
  | nil => rfl
  | cons e t ih =>
    rw [List.map_cons, List.map_cons, String.join_cons, hout, ih]
    rfl

section

variable (options : Options) (c : Connection)

def streamOf : Run := (c.stream options.mailbox (limited options.limit)).1

theorem exitCode_listMailbox :
    (listMailbox options c).exitCode = if (failureOf (streamOf options c).elements).isSome then 1 else 0 := rfl

theorem stdout_listMailbox : (listMailbox options c).stdout =
    output options ((messagesOf (streamOf options c).elements).map Summary.ofMessage) := by
  have hstream := join_stream Action.stdout (fun _ => rfl) (streamOf options c).trace
  have htold : String.join (((failureOf (streamOf options c).elements).toList.map .report).map Action.stdout) = "" := by
    cases failureOf (streamOf options c).elements <;> rfl
  unfold Outcome.stdout listMailbox
  simp only [List.map_append, String.join_append]
  unfold streamOf at hstream htold
  rw [hstream, htold]
  simp [Action.stdout, streamOf]

theorem stderr_listMailbox : (listMailbox options c).stderr =
    ((failureOf (streamOf options c).elements).map report).getD "" := by
  have hstream := join_stream Action.stderr (fun _ => rfl) (streamOf options c).trace
  unfold Outcome.stderr listMailbox
  simp only [List.map_append, String.join_append]
  unfold streamOf at hstream ⊢
  rw [hstream]
  cases failureOf (c.stream options.mailbox (limited options.limit)).1.elements with
  | none => simp [Action.stderr]
  | some e => simp [Action.stderr]

end

theorem upToFailure_stream (c : Connection) (mailbox : String) :
    Stream.upToFailure (c.stream mailbox .eager).1.elements = (c.stream mailbox .eager).1.elements := by
  rw [Connection.stream_eq]
  exact Stream.upToFailure_elements _ _ _

theorem unanswered_streamOf {options : Options} (hlimit : options.limit = none) (c : Connection) :
    (streamOf options c).unanswered = (c.stream options.mailbox .eager).1.unanswered := by
  unfold streamOf
  rw [hlimit, Connection.stream_eq, Connection.stream_eq]
  exact Stream.run_unanswered limited_none_alike _ _ _

theorem run_of_start {arguments : List String} {options : Options} (h : Request.ofArguments arguments = .list options)
    (environment : Environment) (file : String) (dial : Settings → Dial) :
    run arguments environment file dial = listFrom options (start environment file dial) := by
  unfold run
  rw [h]

/-- The number of commands between the login and the logout of a run. -/
def Outcome.asked (o : Outcome) : Nat := o.sent.length - 3

/-- What is printed and how the run exits. -/
def Outcome.shown (o : Outcome) : String × String × Nat := (o.stdout, o.stderr, o.exitCode)

theorem ofString_mailbox (mailbox : String) : Argument.ofString ("--mailbox=" ++ mailbox) = .mailbox (some mailbox) := by
  have htext : ("--mailbox=" ++ mailbox).toList = "--mailbox=".toList ++ mailbox.toList := String.toList_append
  have hne : ∀ a : String, Text.startsWith "--mailbox=".toList a.toList = false → "--mailbox=" ++ mailbox ≠ a := by
    intro a ha hm
    have hstarts := Text.startsWith_iff.2 ⟨_, htext⟩
    rw [hm, ha] at hstarts
    cases hstarts
  have hhelp : Text.startsWith "-h".toList ("--mailbox=" ++ mailbox).toList = false := by
    rw [htext]
    rfl
  have hnohelp : ¬ (decide ("--mailbox=" ++ mailbox = "--help") ||
      Text.startsWith "-h".toList ("--mailbox=" ++ mailbox).toList) = true := by
    rw [hhelp, decide_eq_false (hne "--help" rfl)]
    exact Bool.false_ne_true
  have hafter := Text.after?_eq_some_iff.2 htext
  unfold Argument.ofString
  rw [if_neg (hne "--mailbox" rfl), if_neg (hne "--limit" rfl), if_neg (hne "--json" rfl), if_neg hnohelp,
    if_neg (hne "--" rfl), hafter]
  simp only [String.ofList_toList]

/-- Every mailbox can be asked for. -/
theorem ofArguments_mailbox (mailbox : String) :
    Request.ofArguments ["--mailbox=" ++ mailbox] = .list ⟨mailbox, none, false⟩ ∧
      Request.ofArguments ["--json", "--mailbox=" ++ mailbox] = .list ⟨mailbox, none, true⟩ := by
  have hjson : Argument.ofString "--json" = .json := rfl
  simp [Request.ofArguments, readFrom, ofString_mailbox, hjson, Given.setMailbox, Given.setJson, Given.none,
    Given.options]

end Cli
end Postbag
