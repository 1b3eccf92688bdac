import Postbag.Failure.Class
import Postbag.Message
import Postbag.Query
/-!
# Stream — the messages of a mailbox, handed out one at a time

A session answers three questions about a mailbox: how many messages it holds, whether a FETCH of them can begin, and
what the FETCH gives, one step at a time.  A consumer is handed *elements*, messages and at most one failure, and says
after each whether it wants another.  A failure is always the last element.

A step whose failure concerns one message only is passed over.  Any other failure is handed out and ends the stream.
Whatever ends it, a FETCH that began is released; a failure of the release is handed out if the consumer can still
take an element, and told in the log otherwise.

The whole course of a stream is its trace: the questions, the elements and the log, in order.
-/
namespace Postbag

abbrev Step := Except Failure Record

abbrev Element := Except Failure Message

inductive Flow
  | goOn | stop
  deriving Repr, DecidableEq

/-- **A consumer** answers an element, knowing those it was handed before. -/
abbrev Consumer := (handed : List Element) → Element → Flow

inductive Event
  | select (mailbox : String)
  | fetch (query : Query)
  | next
  | release
  | element (e : Element) (answer : Flow)
  | log (entry : LogEntry)

inductive Release
  /-- It ends as it ends, whatever was left unread. -/
  | ends (result : Except Failure Unit)
  /-- What was left unread is read and dropped. -/
  | drains
  deriving Repr

structure Fetch where
  steps : List Step
  release : Release

/-- What a session answers about a mailbox.  `fetch` is only asked for where the mailbox holds something. -/
structure Answers where
  count : Except Failure UInt32
  fetch : Except Failure Fetch

/-- The course of a stream, and the steps that it left unread. -/
structure Run where
  trace : List Event
  unread : List Step

/-- The course of a FETCH up to its release. -/
structure Reading where
  trace : List Event
  handed : List Element
  unread : List Step
  /-- The consumer can take no further element: it stopped the stream, or it was handed a failure. -/
  finished : Bool

def Reading.after (events : List Event) (r : Reading) : Reading := { r with trace := events ++ r.trace }

namespace Stream

inductive Outcome
  | message (m : Message)
  | skipped (failure : Failure)
  | fatal (failure : Failure)
  deriving Repr, DecidableEq

def Outcome.ofFailure (e : Failure) : Outcome :=
  match e.classify with
  | .malformedEnvelope => .skipped e
  | .fatal => .fatal e

def outcome : Step → Outcome
  | .error e => .ofFailure (.collect e)
  | .ok r =>
    match Message.ofRecord r with
    | .ok m => .message m
    | .error e => .ofFailure e

def stepLog : Step → List LogEntry
  | .error _ => []
  | .ok r => r.log

def asking (step : Step) : List Event := .next :: (stepLog step).map .log

def hand (consumer : Consumer) (handed : List Element) (e : Element) : Event := .element e (consumer handed e)

/-- **The steps of a FETCH**, read until a failure is handed out, the consumer stops, or no step is left. -/
def read (consumer : Consumer) : (handed : List Element) → List Step → Reading
  | handed, [] => ⟨[.next], handed, [], false⟩
  | handed, step :: steps =>
    match outcome step with
    | .skipped e => Reading.after (asking step ++ [.log (.skipped e)]) (read consumer handed steps)
    | .fatal e => ⟨asking step ++ [hand consumer handed (.error e)], handed ++ [.error e], steps, true⟩
    | .message m =>
      match consumer handed (.ok m) with
      | .goOn => Reading.after (asking step ++ [.element (.ok m) .goOn]) (read consumer (handed ++ [.ok m]) steps)
      | .stop =>
        ⟨asking step ++ [.element (.ok m) .stop, .log .stopped], handed ++ [.ok m], steps, true⟩

/-- The number of steps that are dropped, or the first failure among them. -/
def drain : List Step → Except Failure Nat
  | [] => .ok 0
  | .error e :: _ => .error e
  | .ok _ :: steps => (drain steps).map (· + 1)

def released : Release → List Step → Except Failure Nat
  | .ends result, _ => result.map fun _ => 0
  | .drains, unread => drain unread

def releaseFailure (consumer : Consumer) (r : Reading) (e : Failure) : List Event :=
  (if e.isMalformed || r.finished then [.log (.releaseFailed e.isMalformed e)] else []) ++
    (if r.finished then [] else [hand consumer r.handed (.error (.release e.isMalformed e))])

def releasing (consumer : Consumer) (release : Release) (r : Reading) : List Event :=
  .release ::
    match released release r.unread with
    | .ok 0 => []
    | .ok (n + 1) => [.log (.discarded (n + 1))]
    | .error e => releaseFailure consumer r e

def fetchRun (consumer : Consumer) (fetch : Fetch) : Run :=
  let r := read consumer [] fetch.steps
  ⟨r.trace ++ releasing consumer fetch.release r, r.unread⟩

/-- **The stream of a mailbox.**  `waiting` is what would be left unread where no FETCH begins. -/
def run (answers : Answers) (waiting : List Step) (mailbox : String) (consumer : Consumer) : Run :=
  match answers.count with
  | .error e => ⟨[.select mailbox, hand consumer [] (.error (.select mailbox e))], waiting⟩
  | .ok count =>
    let opening : List Event := [.select mailbox, .log (.selected count)]
    if count = 0 then ⟨opening ++ [.log .emptyMailbox], waiting⟩
    else
      let opening := opening ++ [.log (.found count), .fetch .messages]
      match answers.fetch with
      | .error e => ⟨opening ++ [hand consumer [] (.error (.fetch e))], waiting⟩
      | .ok fetch =>
        let r := fetchRun consumer fetch
        ⟨opening ++ r.trace, r.unread⟩

end Stream

def gather : List Element → Except Failure (List Message)
  | [] => .ok []
  | .error e :: _ => .error e
  | .ok m :: es => (gather es).map (m :: ·)

def Event.element? : Event → Option Element
  | .element e _ => some e
  | _ => none

namespace Run

def elements (r : Run) : List Element := r.trace.filterMap Event.element?

def messages (r : Run) : Except Failure (List Message) := gather r.elements

end Run

namespace Consumer

def eager : Consumer := fun _ _ => .goOn

/-- Stops at the `k`-th element, where there is such a `k`. -/
def stopAt : Option Nat → Consumer
  | none => eager
  | some k => fun handed _ => if handed.length + 1 = k then .stop else .goOn

/-- Takes every message and no more than one failure. -/
def collecting : Consumer := fun _ e =>
  match e with
  | .ok _ => .goOn
  | .error _ => .stop

end Consumer
end Postbag
