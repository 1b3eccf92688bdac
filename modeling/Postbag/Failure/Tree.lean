import Postbag.Text.Decimal
/-!
# Tree — failures, and the failures behind them

A failure may wrap another one, which is then its *source*; following the sources gives a chain.  Three kinds of node
differ from a plain wrapper.  A `device` failure that carries another one shows the other's text and goes on with the
other's source, so that the one it carries is itself no link of the chain.  A `boxed` failure is the one inside, in
every respect.  A `foreign` failure is somebody else's: only its text and its source can be seen.
-/
namespace Postbag

inductive Failure
  | imap (text : String)
  | config (text : String)
  | tls (text : String)
  | io (source : Failure)
  | select (mailbox : String) (source : Failure)
  | fetch (source : Failure)
  | collect (source : Failure)
  | release (malformed : Bool) (source : Failure)
  | malformedEnvelope (uid : UInt32)
  | invalidUid
  | missingBody (uid : UInt32)
  | emptyBody (uid : UInt32)
  /-- A response that is none, with its number if it was to be a FETCH response. -/
  | unparsable (seq : Option UInt32) (code : String)
  | device (text : String)
  /-- What a device reports by way of another failure. -/
  | deviceCarrying (payload : Failure)
  | foreign (text : String)
  | foreignOver (text : String) (source : Failure)
  | boxed (inner : Failure)
  deriving Repr, DecidableEq

namespace Failure

def number (n : UInt32) : String := toString n.toNat

def malformedNote (malformed : Bool) : String := if malformed then " (malformed ENVELOPE)" else ""

def responseNote : Option UInt32 → String
  | none => ""
  | some n => " (FETCH response " ++ number n ++ ")"

/-- **The text of a failure**: its own words, then those of its source. -/
def text : Failure → String
  | imap t => "IMAP error: " ++ t
  | config t => "Configuration error: " ++ t
  | tls t => "TLS error: " ++ t
  | io e => "IO error: " ++ e.text
  | select mailbox e => "selecting mailbox " ++ mailbox ++ " failed: " ++ e.text
  | fetch e => "issuing fetch command failed: " ++ e.text
  | collect e => "collecting message failed: " ++ e.text
  | release malformed e => "releasing fetch command failed" ++ malformedNote malformed ++ ": " ++ e.text
  | malformedEnvelope uid => "malformed IMAP ENVELOPE: uid=" ++ number uid
  | invalidUid => "message uid is 0"
  | missingBody uid => "message " ++ number uid ++ " is missing body section"
  | emptyBody uid => "message " ++ number uid ++ " data reader is empty"
  | unparsable seq code => "server response could not be parsed" ++ responseNote seq ++ ": " ++ code
  | device t => t
  | deviceCarrying e => e.text
  | foreign t => t
  | foreignOver t _ => t
  | boxed e => e.text

def source? : Failure → Option Failure
  | io e | select _ e | fetch e | collect e | release _ e | foreignOver _ e => some e
  | deviceCarrying e | boxed e => e.source?
  | _ => none

/-- **The chain of a failure**: itself, then the chain of its source. -/
def chain : Failure → List Failure
  | e@(io s) | e@(select _ s) | e@(fetch s) | e@(collect s) | e@(release _ s) | e@(foreignOver _ s) => e :: chain s
  | e@(deviceCarrying s) | e@(boxed s) => e :: (chain s).tail
  | e => [e]

/-- Whether a failure is one of this library, and not a device's, somebody else's or a box. -/
def isOwn : Failure → Bool
  | device _ | deviceCarrying _ | foreign _ | foreignOver _ _ | boxed _ => false
  | _ => true

theorem chain_eq (e : Failure) : e.chain = e :: (e.source?.map chain).getD [] := by
  induction e with
  | deviceCarrying s ih => rw [chain, source?, ih]; rfl
  | boxed s ih => rw [chain, source?, ih]; rfl
  | _ => rfl

end Failure
end Postbag
