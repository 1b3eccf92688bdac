import Postbag.Stream
/-!
# Script — a session whose answers are written down beforehand

A script says what a session answers to one stream.  A session that is played from several scripts takes up the next one
with each stream, so that the streams of one session do not depend on each other.
-/
namespace Postbag

structure Script where
  steps : List Step
  /-- What the selection reports; the number of steps, unless given. -/
  count : Option UInt32
  selectFailure : Option Failure
  fetchFailure : Option Failure
  releaseFailure : Option Failure

def failing {α : Type} (value : α) : Option Failure → Except Failure α
  | none => .ok value
  | some e => .error e

namespace Script

def fetch (s : Script) : Fetch := ⟨s.steps, .ends (failing () s.releaseFailure)⟩

def answers (s : Script) : Answers where
  count := failing (s.count.getD (UInt32.ofNat s.steps.length)) s.selectFailure
  fetch := failing s.fetch s.fetchFailure

def run (s : Script) (mailbox : String) (consumer : Consumer) : Run := Stream.run s.answers s.steps mailbox consumer

def collect (s : Script) (mailbox : String) : Run × Except Failure (List Message) :=
  let r := s.run mailbox .collecting
  (r, r.messages)

end Script
end Postbag
