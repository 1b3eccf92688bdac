import Postbag.Proofs.Failure.Unparsable
import Postbag.Proofs.Wire.Rejection
/-!
# Loss — a FETCH whose answer cannot be read to its end

Octets that are no response hide whatever stands behind them.  The stream that meets them is handed what stands before,
and then one failure: it neither ends as if nothing were missing nor goes on behind them.  But the failure is told once
only.  Nothing more is read on the connection, and a selection that hears nothing is taken for one of an empty mailbox:
the calls behind are handed nothing at all, no failure either.
-/
namespace Postbag

namespace Stream

/-- The steps of a FETCH that breaks off. -/
def breakingOff (records : List Record) (f : Failure) : List Step := records.map .ok ++ [.error f]

/-- **A FETCH that breaks off with a fatal failure** hands out what the records give, and then the failure, up to the
first failure of them all. -/
theorem elements_breakingOff {count : UInt32} (hn : count ≠ 0) (records : List Record) {f : Failure}
    (hf : given (.error f) = some (.error (.collect f))) (waiting : List Step) (mailbox : String) :
    (run ⟨.ok count, .ok ⟨breakingOff records f, .drains⟩⟩ waiting mailbox .eager).elements =
      upToFailure ((records.map Except.ok).filterMap given ++ [.error (.collect f)]) := by
  rw [elements_run_drains hn, breakingOff, List.filterMap_append, List.filterMap_cons_some hf, List.filterMap_nil]

end Stream

namespace Wire

open Imap (Command Fault announced complaint)
open Imap.Reader (ascii)
open Postbag.Stream (given upToFailure breakingOff)

/-- **An answer of which only a front can be read**, to the command with the tag: data, and octets that are no response,
whatever else stands in them. -/
structure Broken (tag : List UInt8) where
  reply : Reply
  data : List Datum
  rejected : List UInt8
  said : reply.said tag = data.flatMap Datum.octets ++ rejected
  refused : Imap.response rejected = .refused

namespace Broken

variable {tag : List UInt8}

def records (b : Broken tag) : List Record := b.data.filterMap Datum.record?

/-- What is left of the octets that are no response. -/
def failure (b : Broken tag) : Failure :=
  .unparsable (announced (Utf8.decode b.rejected)) (complaint b.rejected).2

/-- Data and octets that are no response, without a tag in them. -/
def untagged (data : List Datum) (rejected : List UInt8) (h : Imap.response rejected = .refused) : Broken tag where
  reply := ⟨(data.flatMap Datum.octets ++ rejected).map .octet, false⟩
  data := data
  rejected := rejected
  said := by simp only [Reply.said, List.flatMap_map, List.flatMap_singleton']
  refused := h

theorem steps_said (b : Broken tag) :
    (Feed.ofOctets (b.reply.said tag)).steps tag = ⟨breakingOff b.records b.failure, none⟩ := by
  rw [b.said, Feed.steps_data, Feed.ofOctets_of_refused b.refused, Feed.steps, toFailure_unreadable]
  rfl

theorem given_failure (b : Broken tag) : given (.error b.failure) = some (.error (.collect b.failure)) := by
  have hfatal : (Failure.collect b.failure).isMalformed = false := Failure.isMalformed_of_unparsable rfl
  rw [given, hfatal]
  rfl

end Broken

namespace Connection

/-! ## The stream that meets the octets -/

theorem lastTag_select {c : Connection} {mailbox : String} (hm : Imap.checkArgument mailbox = .ok ()) :
    (c.select mailbox).2.lastTag = c.lastTag + 1 := by
  have hcheck : (Command.select mailbox).check = .ok () := hm
  rw [select, askChecked, hcheck]
  exact lastTag_send c (.select mailbox)

theorem fetch_broken {c : Connection} {tag : List UInt8} {b : Broken tag} {rest : List Reply}
    (hc : c.Idle (b.reply :: rest)) (ht : tag = ascii (Imap.tag (c.lastTag + 1))) :
    c.fetch.1 = ⟨breakingOff b.records b.failure, .drains⟩ ∧ c.fetch.2.incoming = none := by
  obtain ⟨incoming, replies, lastTag, sent⟩ := c
  obtain ⟨hi, hr⟩ := hc
  cases hi
  cases hr
  have hsteps := b.steps_said
  simp only at ht
  subst ht
  exact ⟨congrArg (fun h => Fetch.mk h.value .drains) hsteps, congrArg Heard.left hsteps⟩

theorem stream_broken {c : Connection} {mailbox : String} {count : UInt32} {selection : Answer}
    {b : Broken (ascii (Imap.tag (c.lastTag + 2)))} {rest : List Reply}
    (hc : c.Idle (selection.reply :: b.reply :: rest)) (hm : Imap.checkArgument mailbox = .ok ())
    (hs : selection.selection = .ok count) (hn : count ≠ 0) (consumer : Consumer) :
    (c.stream mailbox consumer).1 =
        Stream.run ⟨.ok count, .ok ⟨breakingOff b.records b.failure, .drains⟩⟩ [] mailbox consumer ∧
      (c.stream mailbox consumer).2.incoming = none := by
  obtain ⟨hselected, hstream⟩ := stream_selected hc hm hs hn consumer
  obtain ⟨hf, hdeaf⟩ := fetch_broken hselected (by rw [lastTag_select hm])
  rw [hstream, hf]
  exact ⟨rfl, hdeaf⟩

/-! ## The calls behind it -/

/-- What a session answers on which nothing more is read: a mailbox that can be asked for seems to be empty. -/
def deafAnswers (mailbox : String) : Answers where
  count :=
    match Imap.checkArgument mailbox with
    | .error f => .error f.toFailure
    | .ok () => .ok 0
  fetch := .ok ⟨[], .drains⟩

theorem feed_send_of_deaf {c : Connection} (hc : c.incoming = none) (command : Command) :
    (c.send command).feed = .ended := by
  unfold send
  cases hr : c.replies <;> simp [feed, hc]

theorem select_deaf {c : Connection} (hc : c.incoming = none) (mailbox : String) :
    (c.select mailbox).1 = (deafAnswers mailbox).count ∧ (c.select mailbox).2.incoming = none := by
  rw [select, askChecked, deafAnswers, Command.check]
  cases Imap.checkArgument mailbox with
  | error f => exact ⟨rfl, hc⟩
  | ok u =>
    simp only [ask, feed_send_of_deaf hc]
    exact ⟨rfl, rfl⟩

theorem stream_deaf {c : Connection} (hc : c.incoming = none) (mailbox : String) (consumer : Consumer) :
    (c.stream mailbox consumer).1 = Stream.run (deafAnswers mailbox) [] mailbox consumer ∧
      (c.stream mailbox consumer).2.incoming = none := by
  obtain ⟨hv, hdeaf⟩ := select_deaf hc mailbox
  have hh : (deafAnswers mailbox).holds = false := by
    rw [Answers.holds, deafAnswers]
    cases Imap.checkArgument mailbox <;> rfl
  rw [stream_of_not_holds consumer hv hh]
  exact ⟨rfl, hdeaf⟩

/-- **Calls on a connection on which nothing more is read**, one after another. -/
theorem performAll_deaf {c : Connection} (hc : c.incoming = none) (ks : List Call) :
    (performAll c ks).1 = ks.map fun k =>
      (Stream.run (deafAnswers k.mailbox) [] k.mailbox k.consumer,
        k.gathered (Stream.run (deafAnswers k.mailbox) [] k.mailbox k.consumer)) := by
  induction ks generalizing c with
  | nil => rfl
  | cons k ks ih =>
    obtain ⟨hr, hdeaf⟩ := stream_deaf hc k.mailbox k.consumer
    show (k.perform c).1 :: (performAll (k.perform c).2 ks).1 = _
    rw [Call.perform_eq, hr, ih hdeaf]
    rfl

theorem elements_run_deafAnswers {mailbox : String} (hm : Imap.checkArgument mailbox = .ok ()) (consumer : Consumer) :
    (Stream.run (deafAnswers mailbox) [] mailbox consumer).elements = [] := by
  rw [deafAnswers, hm]
  rfl

/-- A connection that still holds octets that are no response reports them to the next selection. -/
theorem stream_of_kept {c : Connection} {octets : List UInt8} (hi : c.incoming = some octets)
    (ho : Imap.response octets = .refused) (mailbox : String) :
    ∃ f, ∀ consumer, (c.stream mailbox consumer).1.elements = [.error (.select mailbox f)] := by
  have hcount : ∃ f, (c.select mailbox).1 = .error f := by
    rw [select, askChecked]
    cases (Command.select mailbox).check with
    | error f => exact ⟨f.toFailure, rfl⟩
    | ok u =>
      obtain ⟨t, ht⟩ : ∃ t, (c.send (.select mailbox)).feed = .fault (unreadable (octets ++ t)) := by
        unfold send
        cases hr : c.replies with
        | none => exact ⟨[], by simp [feed, hi, Feed.ofOctets_of_refused ho]⟩
        | some replies =>
          simp only [feed, hi, Option.map_some, Option.getD_some]
          exact ⟨_, Feed.ofOctets_of_refused (Imap.regular_response.refused ho _)⟩
      simp only [ask, ht]
      exact ⟨_, rfl⟩
  obtain ⟨f, hf⟩ := hcount
  refine ⟨f, fun consumer => ?_⟩
  rw [stream_eq, hf]
  rfl

/-- **A loss is told once.**  Of a FETCH whose answer breaks off in octets that are no response, a consumer that takes
every element is handed what the records before them give, and then one failure, up to the first failure of them all.
Behind it nothing more is read on the connection: every later call seems to meet an empty mailbox, and is handed neither
a message nor a failure.  Only a connection that still held the octets would report them again, once in each call. -/
theorem rejection_told_once (c : Connection) (mailbox : String) (count : UInt32) (selection : Answer)
    (b : Broken (ascii (Imap.tag (c.lastTag + 2)))) (rest : List Reply)
    (hc : c.Idle (selection.reply :: b.reply :: rest)) (hm : Imap.checkArgument mailbox = .ok ())
    (hs : selection.selection = .ok count) (hn : count ≠ 0) :
    (c.stream mailbox .eager).1.elements = upToFailure ((b.records.map Except.ok).filterMap given ++
        [.error (.collect (.unparsable (announced (Utf8.decode b.rejected)) (complaint b.rejected).2))]) ∧
      (∀ ks : List Call, (∀ k ∈ ks, Imap.checkArgument k.mailbox = .ok ()) →
        ∀ g ∈ (performAll (c.stream mailbox .eager).2 ks).1,
          g.1.elements = [] ∧ (g.2 = none ∨ g.2 = some (.ok []))) ∧
      ∀ (c' : Connection) (octets : List UInt8), c'.incoming = some octets → Imap.response octets = .refused →
        ∀ mailbox', ∃ f, (∀ consumer, (c'.stream mailbox' consumer).1.elements = [.error (.select mailbox' f)]) ∧
          (c'.collect mailbox').1.2 = .error (.select mailbox' f) := by
  obtain ⟨hrun, hdeaf⟩ := stream_broken hc hm hs hn .eager
  refine ⟨?_, fun ks hks g hg => ?_, fun c' octets hi ho mailbox' => ?_⟩
  · rw [hrun]
    exact Stream.elements_breakingOff hn b.records b.given_failure [] mailbox
  · rw [performAll_deaf hdeaf] at hg
    obtain ⟨k, hk, rfl⟩ := List.mem_map.1 hg
    have helements := elements_run_deafAnswers (hks k hk) k.consumer
    refine ⟨helements, ?_⟩
    cases k with
    | messages => exact .inl rfl
    | collect mailbox => exact .inr (congrArg (fun es => some (gather es)) helements)
  · obtain ⟨f, hf⟩ := stream_of_kept hi ho mailbox'
    exact ⟨f, hf, congrArg gather (hf .collecting)⟩

/-- A mail, and a FETCH response whose ENVELOPE is none, with a mail behind it. -/
theorem rejection_told_once_of_envelope :
    let blank : Envelope := ⟨none, none, [], [], [], [], none⟩
    let first : Datum := ⟨ascii "* 1 FETCH (UID 6 ENVELOPE (NIL NIL NIL NIL NIL NIL NIL NIL NIL NIL) BODY[] \"y\")\r\n",
      .fetch ⟨6, some blank, some [0x79]⟩, by decide +kernel, rfl⟩
    let selection : Answer := .succeeding [.counting 2]
    let b : Broken (ascii (Imap.tag 2)) := .untagged [first]
      (ascii "* 2 FETCH (UID 8 ENVELOPE (NIL))\r\n* 3 FETCH (UID 9)\r\n") (by decide +kernel)
    let c := fresh [] [selection.reply, b.reply] []
    c.Idle [selection.reply, b.reply] ∧
      (c.stream "INBOX" .eager).1.elements =
        [.ok ⟨6, [0x79], Headers.ofEnvelope blank⟩, .error (.collect (.unparsable (some 2) "TakeWhile1"))] ∧
      ∀ g ∈ (performAll (c.stream "INBOX" .eager).2 [.messages "INBOX" .eager, .collect "INBOX"]).1,
        g.1.elements = [] ∧ (g.2 = none ∨ g.2 = some (.ok [])) := by
  intro blank first selection b c
  have hc : c.Idle [selection.reply, b.reply] := ⟨rfl, rfl⟩
  have hsendable : Imap.checkArgument "INBOX" = .ok () := by decide +kernel
  have hleft : Failure.unparsable (announced (Utf8.decode b.rejected)) (complaint b.rejected).2 =
      .unparsable (some 2) "TakeWhile1" := by decide +kernel
  obtain ⟨hfirst, hlater, -⟩ := rejection_told_once c "INBOX" 2 selection b [] hc hsendable rfl (by decide)
  rw [hleft] at hfirst
  refine ⟨hc, hfirst, hlater _ fun k hk => ?_⟩
  simp only [List.mem_cons, List.not_mem_nil, or_false] at hk
  rcases hk with rfl | rfl <;> exact hsendable

/-- **Behind a loss that was told, a mailbox with mail in it is taken for an empty one.** -/
theorem loss_untold_later :
    let selection : Answer := .succeeding [.counting 2]
    let b (tag : List UInt8) : Broken tag :=
      .untagged [] (ascii "* 1 FETCH (UID 8 ENVELOPE (NIL))\r\n") (by decide +kernel)
    let s : Settings := ⟨"mail.example", 143, "user", "password"⟩
    let server : Server := ⟨[], (Answer.succeeding []).reply, .succeeds, (Answer.succeeding []).reply,
      [selection.reply, (b []).reply, selection.reply, (b []).reply]⟩
    ∃ c, (connect s (.reached server)).outcome = .ok c ∧
      (c.stream "INBOX" .eager).1.elements = [.error (.collect (.unparsable (some 1) "TakeWhile1"))] ∧
      ((c.stream "INBOX" .eager).2.stream "INBOX" .eager).1.elements = [] ∧
      ((c.stream "INBOX" .eager).2.collect "INBOX").1.2 = .ok [] := by
  intro selection b s server
  have hstart : (connect s (.reached server)).outcome.toOption.map (fun c => (c.incoming, c.replies)) =
      some (some [], some server.replies) := by decide +kernel
  have hsendable : Imap.checkArgument "INBOX" = .ok () := by decide +kernel
  have hselection : selection.selection = .ok 2 := rfl
  have hcount : (2 : UInt32) ≠ 0 := by decide
  have hleft : (b []).failure = .unparsable (some 1) "TakeWhile1" := by decide +kernel
  cases hc : (connect s (.reached server)).outcome with
  | error e => rw [hc] at hstart; cases hstart
  | ok c =>
    rw [hc] at hstart
    obtain ⟨hi, hr⟩ := Prod.mk.inj (Option.some.inj hstart)
    obtain ⟨hrun, hdeaf⟩ := stream_broken (b := b _) ⟨hi, hr⟩ hsendable hselection hcount .eager
    obtain ⟨hlater, -⟩ := stream_deaf hdeaf "INBOX" .eager
    obtain ⟨hgathered, -⟩ := stream_deaf hdeaf "INBOX" .collecting
    refine ⟨c, rfl, ?_, ?_, ?_⟩
    · rw [hrun, Stream.elements_breakingOff hcount _ (Broken.given_failure _)]
      exact congrArg (fun f => [Except.error (Failure.collect f)]) hleft
    · rw [hlater, elements_run_deafAnswers hsendable]
    · show Run.messages ((c.stream "INBOX" .eager).2.stream "INBOX" .collecting).1 = _
      rw [hgathered, Run.messages, elements_run_deafAnswers hsendable]
      rfl

end Connection
end Wire
end Postbag
