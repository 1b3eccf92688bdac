import Postbag.Cli.Arguments
import Postbag.Cli.Report
import Postbag.Cli.Summary
import Postbag.Config.Dotenv
import Postbag.Wire.Connection
/-!
# Run — the command line, from its arguments to its output

A run connects, reads one mailbox, logs out and then prints what it read, also where the reading ended in a failure.
The failure decides the exit code and is reported; how the logout went does not matter.  What a run does is the list of
its actions, and what it prints is read off them.
-/
namespace Postbag
namespace Cli

open Wire (Connection Sent)
open Wire.Connection (Attempt)

inductive Action
  | stream (e : Event)
  | logout (result : Except Failure Unit)
  | print (text : String)
  | report (e : Failure)

namespace Action

def stdout : Action → String
  | print text => text
  | _ => ""

def stderr : Action → String
  | report e => Cli.report e
  | _ => ""

end Action

structure Outcome where
  actions : List Action
  exitCode : Nat
  sent : List Sent

def Outcome.stdout (o : Outcome) : String := String.join (o.actions.map Action.stdout)

def Outcome.stderr (o : Outcome) : String := String.join (o.actions.map Action.stderr)

def usage : String :=
  "List the messages of an IMAP mailbox, skipping malformed ENVELOPEs\n\n" ++
  "Usage: mailstream-cli [OPTIONS]\n\n" ++
  "Options:\n" ++
  "      --mailbox <MAILBOX>  Mailbox to read [default: INBOX]\n" ++
  "      --limit <LIMIT>      Stop after this many messages\n" ++
  "      --json               Output as JSON\n" ++
  "  -h, --help               Print help\n"

/-- Takes messages up to a limit, of which the first message is always taken, and no more than one failure. -/
def limited (limit : Option Nat) : Consumer := fun handed e =>
  match e with
  | .error _ => .stop
  | .ok _ => if limit.any (· ≤ handed.length + 1) then .stop else .goOn

def messagesOf (es : List Element) : List Message := es.filterMap Except.toOption

def failureOf (es : List Element) : Option Failure :=
  es.findSome? fun e =>
    match e with
    | .error f => some f
    | .ok _ => none

def output (options : Options) (l : List Summary) : String :=
  if options.json then Summary.documentText l else Summary.tableText l

def failed (e : Failure) (sent : List Sent) : Outcome := ⟨[.report e], 1, sent⟩

def listMailbox (options : Options) (c : Connection) : Outcome :=
  let (run, c) := c.stream options.mailbox (limited options.limit)
  let (farewell, c) := c.logout
  let summaries := (messagesOf run.elements).map Summary.ofMessage
  let failure := failureOf run.elements
  ⟨run.trace.map .stream ++ [.logout farewell, .print (output options summaries)] ++ failure.toList.map .report,
    if failure.isSome then 1 else 0, c.sent⟩

def listFrom (options : Options) (attempt : Attempt) : Outcome :=
  match attempt.outcome with
  | .error e => failed e attempt.sent
  | .ok c => listMailbox options c

def start (environment : Environment) (file : String) (dial : Settings → Dial) : Attempt :=
  match Settings.ofEnvironment environment file with
  | .error fault => .failed (.config fault.message) []
  | .ok settings => Connection.connect settings (dial settings)

theorem start_of_settings {environment : Environment} {file : String} {s : Settings}
    (h : Settings.ofEnvironment environment file = .ok s) (dial : Settings → Dial) :
    start environment file dial = Connection.connect s (dial s) := by
  unfold start
  rw [h]

/-- **A run of the command line**, in an environment, with a file of variables, where `dial` tells what is found at the
address that the settings name. -/
def run (arguments : List String) (environment : Environment) (file : String) (dial : Settings → Dial) : Outcome :=
  match Request.ofArguments arguments with
  | .help => ⟨[.print usage], 0, []⟩
  | .misuse => ⟨[], 2, []⟩
  | .list options =>
    listFrom options (start environment file dial)

end Cli
end Postbag
