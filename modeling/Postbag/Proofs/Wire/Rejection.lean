import Postbag.Proofs.Imap.Reduction
import Postbag.Proofs.Wire.Calls
/-!
# Rejection — what an error tells of a response that could not be read

Two conversations are alike where the same responses are heard in both, and where the octets that could not be read, if
any, leave the same of them: the name of the complaint and the number of the FETCH response.  Once a session has begun,
like conversations give like errors.  Before, they do not: a failure of STARTTLS or of the login has the text of the
fault in it, and so quotes whatever was received.
-/
namespace Postbag
namespace Wire

open Imap (Command Fault announced complaint)
open Imap.Reader (ascii)

/-- The same is left of two lists of octets that are no response. -/
structure SameComplaint (received received' : List UInt8) : Prop where
  code : (complaint received).2 = (complaint received').2
  number : announced (Utf8.decode received) = announced (Utf8.decode received')

/-- **Feeds that differ only in what could not be read**, and leave the same of that. -/
inductive Feed.Alike : Feed → Feed → Prop
  | response (r : Imap.Response) (behind behind' : List UInt8) {next next' : Feed} (h : Alike next next') :
    Alike (.response r behind next) (.response r behind' next')
  | fault (f : Fault) : Alike (.fault f) (.fault f)
  | rejected {received received' : List UInt8} (h : SameComplaint received received') :
    Alike (.fault (unreadable received)) (.fault (unreadable received'))
  | ended : Alike .ended .ended

namespace Feed

theorem ofOctets_of_refused {received : List UInt8} (h : Imap.response received = .refused) :
    ofOctets received = .fault (unreadable received) := by
  cases received with
  | nil =>
    have hmore : Imap.response [] = .more := by decide +kernel
    rw [hmore] at h
    cases h
  | cons b bs => rw [ofOctets, List.length_cons, upTo, h]

theorem toFailure_of_sameComplaint {received received' : List UInt8} (h : SameComplaint received received') :
    (unreadable received).toFailure = (unreadable received').toFailure := by
  rw [toFailure_unreadable, toFailure_unreadable, h.code, h.number]

/-! ## What is heard of feeds that are alike -/

theorem Alike.outcome {f g : Feed} (h : f.Alike g) (tag : List UInt8) :
    (f.outcome tag).value.mapError Fault.toFailure = (g.outcome tag).value.mapError Fault.toFailure := by
  induction h with
  | response r behind behind' h ih =>
    cases r with
    | tagged t s remark =>
      cases s with
      | ok =>
        rw [Feed.outcome, Feed.outcome]
        split
        · rfl
        · exact ih
      | _ => rfl
    | _ => exact ih
  | fault f => rfl
  | rejected h => exact congrArg Except.error (toFailure_of_sameComplaint h)
  | ended => rfl

theorem Alike.selected {f g : Feed} (h : f.Alike g) (tag : List UInt8) (count : UInt32) :
    (f.selected tag count).value.mapError Fault.toFailure = (g.selected tag count).value.mapError Fault.toFailure := by
  induction h generalizing count with
  | response r behind behind' h ih =>
    cases r with
    | tagged t s remark =>
      by_cases htag : t = tag
      · cases s <;> simp [Feed.selected, htag]
      · cases s <;> simpa [Feed.selected, htag] using ih count
    | condition s remark =>
      cases s with
      | ok => exact ih count
      | _ => rfl
    | count n => exact ih n
    | _ => exact ih count
  | fault f => rfl
  | rejected h => exact congrArg Except.error (toFailure_of_sameComplaint h)
  | ended => rfl

theorem Alike.steps {f g : Feed} (h : f.Alike g) (tag : List UInt8) : (f.steps tag).value = (g.steps tag).value := by
  -- what is left to read may differ, what is read does not: only the last step can be of what could not be read
  induction h with
  | response r behind behind' h ih =>
    cases r with
    | tagged t s remark =>
      rw [Feed.steps, Feed.steps]
      split
      · rfl
      · exact ih
    | fetch record => exact congrArg (Except.ok record :: ·) ih
    | _ => exact ih
  | fault f => rfl
  | rejected h => exact congrArg (fun e => [Except.error e]) (toFailure_of_sameComplaint h)
  | ended => rfl

end Feed

namespace Connection

/-! ## Behind the login -/

theorem stream_eq (c : Connection) (mailbox : String) (consumer : Consumer) :
    (c.stream mailbox consumer).1 =
      Stream.run ⟨(c.select mailbox).1, .ok (c.select mailbox).2.fetch.1⟩ [] mailbox consumer := by
  cases hh : (Answers.mk (c.select mailbox).1 (.ok (c.select mailbox).2.fetch.1)).holds with
  | false => rw [stream_of_not_holds consumer rfl hh]
  | true => rw [stream_of_holds consumer rfl hh rfl]

theorem lastTag_send (c : Connection) (command : Command) : (c.send command).lastTag = c.lastTag + 1 := by
  unfold send
  split <;> rfl

theorem ask_alike {α β : Type} {c c' : Connection} {command : Command} {hear : List UInt8 → Feed → Heard α}
    (view : α → β) (ht : c.lastTag = c'.lastTag)
    (hh : ∀ tag, view (hear tag (c.send command).feed).value = view (hear tag (c'.send command).feed).value) :
    view (c.ask command hear).1 = view (c'.ask command hear).1 := by
  have htag : (c.send command).tagOctets = (c'.send command).tagOctets := by
    rw [tagOctets, tagOctets, lastTag_send, lastTag_send, ht]
  show view (hear (c.send command).tagOctets (c.send command).feed).value =
    view (hear (c'.send command).tagOctets (c'.send command).feed).value
  rw [hh, htag]

theorem select_alike {c c' : Connection} {mailbox : String} (ht : c.lastTag = c'.lastTag)
    (hs : (c.send (.select mailbox)).feed.Alike (c'.send (.select mailbox)).feed) :
    (c.select mailbox).1 = (c'.select mailbox).1 ∧
      (c.select mailbox).2.lastTag = (c'.select mailbox).2.lastTag := by
  cases hcheck : (Command.select mailbox).check with
  | error f =>
    rw [select, select, askChecked, askChecked, hcheck]
    exact ⟨rfl, ht⟩
  | ok u =>
    have hsent : (c.send (.select mailbox)).lastTag = (c'.send (.select mailbox)).lastTag := by
      rw [lastTag_send, lastTag_send, ht]
    rw [select, select, askChecked, askChecked, hcheck]
    exact ⟨ask_alike (Except.mapError Fault.toFailure) ht fun tag => hs.selected tag 0, hsent⟩

theorem fetch_alike {c c' : Connection} (ht : c.lastTag = c'.lastTag)
    (hf : (c.send (.fetch .messages)).feed.Alike (c'.send (.fetch .messages)).feed) : c.fetch.1 = c'.fetch.1 :=
  ask_alike (fun steps => Fetch.mk steps .drains) ht fun tag => by rw [hf.steps]

/-- **Streams that are heard alike are the same**, the errors in them included. -/
theorem stream_alike {c c' : Connection} {mailbox : String} (consumer : Consumer) (ht : c.lastTag = c'.lastTag)
    (hs : (c.send (.select mailbox)).feed.Alike (c'.send (.select mailbox)).feed)
    (hf : ((c.select mailbox).2.send (.fetch .messages)).feed.Alike
      ((c'.select mailbox).2.send (.fetch .messages)).feed) :
    (c.stream mailbox consumer).1 = (c'.stream mailbox consumer).1 := by
  obtain ⟨hv, hsent⟩ := select_alike ht hs
  rw [stream_eq, stream_eq, hv, fetch_alike hsent hf]

theorem logout_alike {c c' : Connection} (ht : c.lastTag = c'.lastTag)
    (hl : (c.send .logout).feed.Alike (c'.send .logout).feed) : c.logout.1 = c'.logout.1 :=
  ask_alike (Except.mapError Fault.toFailure) ht fun tag => hl.outcome tag

/-! ## Up to the login -/

def quoted (received : List UInt8) : String := String.ofList (Text.shown (Utf8.decode received))

/-- **The text of the fault quotes all that was received.** -/
theorem text_unreadable (received : List UInt8) : ∃ front, (unreadable received).text = front ++ quoted received :=
  ⟨"io: " ++ ("Error(Error \x7b input: " ++ Fault.listText (complaint received).1 ++ ", code: " ++
    (complaint received).2 ++ " \x7d)" ++ String.ofList Fault.marker), String.append_assoc.symm⟩

theorem login_rejected {s : Settings} {c : Connection} {received : List UInt8}
    (hc : (Command.login s.username s.password).check = .ok ())
    (hr : (c.ask (.login s.username s.password) Feed.outcome).1 = .error (unreadable received)) :
    (login s c).outcome = .error (.imap ("Login failed: " ++ (unreadable received).text)) := by
  rw [login, askChecked, hc]
  generalize c.ask (.login s.username s.password) Feed.outcome = asked at hr
  obtain ⟨result, c'⟩ := asked
  cases hr
  rfl

/-- **What could not be read is reduced behind the login, and quoted up to there.**  Whatever two sessions were before,
where they are heard alike they give the same streams, the same gathered messages and the same end of the session, the
errors in them included: of octets that could not be read these tell no more than the name of the complaint and the
number of the FETCH response.  But the error of a STARTTLS or a login whose answer could not be read ends in all that
was received. -/
theorem rejection_reduced_behind_login (s : Settings) :
    (∀ (c c' : Connection) (mailbox : String), c.lastTag = c'.lastTag →
      (c.send (.select mailbox)).feed.Alike (c'.send (.select mailbox)).feed →
      ((c.select mailbox).2.send (.fetch .messages)).feed.Alike
        ((c'.select mailbox).2.send (.fetch .messages)).feed →
      (∀ consumer, (c.stream mailbox consumer).1 = (c'.stream mailbox consumer).1) ∧
        (c.collect mailbox).1 = (c'.collect mailbox).1) ∧
    (∀ c c' : Connection, c.lastTag = c'.lastTag → (c.send .logout).feed.Alike (c'.send .logout).feed →
      c.logout.1 = c'.logout.1) ∧
    (∀ (c : Connection) (received : List UInt8), (Command.login s.username s.password).check = .ok () →
      (c.ask (.login s.username s.password) Feed.outcome).1 = .error (unreadable received) →
      ∃ front, (login s c).outcome = .error (.imap (front ++ quoted received))) ∧
    ∀ (server : Server) (received : List UInt8),
      ((fresh server.greeting [server.startTls] []).ask .startTls Feed.outcome).1 = .error (unreadable received) →
      ∃ front, (connect s (.reached server)).outcome = .error (.tls (front ++ quoted received)) := by
  refine ⟨fun c c' mailbox ht hs hf => ⟨fun consumer => stream_alike consumer ht hs hf, ?_⟩, fun c c' => logout_alike,
    fun c received hc hr => ?_, fun server received hr => ?_⟩
  · have hstream := stream_alike .collecting ht hs hf
    show ((c.stream mailbox .collecting).1, (c.stream mailbox .collecting).1.messages) =
      ((c'.stream mailbox .collecting).1, (c'.stream mailbox .collecting).1.messages)
    rw [hstream]
  · obtain ⟨front, htext⟩ := text_unreadable received
    exact ⟨"Login failed: " ++ front, by rw [login_rejected hc hr, htext, String.append_assoc]⟩
  · obtain ⟨front, htext⟩ := text_unreadable received
    exact ⟨"STARTTLS failed: " ++ front, by rw [connect_of_refusal hr, htext, String.append_assoc]⟩

theorem lastTag_fresh (greeting : List UInt8) (replies : List Reply) (sent : List Sent) :
    (fresh greeting replies sent).lastTag = 0 := rfl

theorem feed_send_fresh {r : Reply} (command : Command)
    (hr : Imap.response (r.said (ascii (Imap.tag 1))) = .refused) :
    ((fresh [] [r] []).send command).feed = .fault (unreadable (r.said (ascii (Imap.tag 1)))) := by
  have hfeed : ((fresh [] [r] []).send command).feed = Feed.ofOctets ([] ++ r.said (ascii (Imap.tag 1))) := rfl
  rw [hfeed, List.nil_append]
  exact Feed.ofOctets_of_refused hr

/-- Two answers to a LOGOUT of which the same is left. -/
theorem rejection_reduced_behind_login_of_logout :
    (fresh [] [Reply.ofText "* 2 FETCH (secret)\r\n"] []).logout.1 =
      (fresh [] [Reply.ofText "* 2 FETCH (hidden)\r\n"] []).logout.1 := by
  have hsecret : Imap.response ((Reply.ofText "* 2 FETCH (secret)\r\n").said (ascii (Imap.tag 1))) = .refused := by
    decide +kernel
  have hhidden : Imap.response ((Reply.ofText "* 2 FETCH (hidden)\r\n").said (ascii (Imap.tag 1))) = .refused := by
    decide +kernel
  have hsame : SameComplaint ((Reply.ofText "* 2 FETCH (secret)\r\n").said (ascii (Imap.tag 1)))
      ((Reply.ofText "* 2 FETCH (hidden)\r\n").said (ascii (Imap.tag 1))) := ⟨by decide +kernel, by decide +kernel⟩
  have halike := Feed.Alike.rejected hsame
  rw [← feed_send_fresh .logout hsecret, ← feed_send_fresh .logout hhidden] at halike
  exact (rejection_reduced_behind_login ⟨"mail.example", 143, "user", "password"⟩).2.1
    (fresh [] [Reply.ofText "* 2 FETCH (secret)\r\n"] []) (fresh [] [Reply.ofText "* 2 FETCH (hidden)\r\n"] [])
    (by rw [lastTag_fresh, lastTag_fresh]) halike

/-- **Two answers to STARTTLS of which the same would be left, and two errors.** -/
theorem starttls_rejections_differ :
    let server (text : String) : Server := ⟨[], Reply.ofText text, .succeeds, .hangUp, []⟩
    let s : Settings := ⟨"mail.example", 143, "user", "password"⟩
    SameComplaint (ascii "secret\r\n") (ascii "hidden\r\n") ∧
      ((fresh [] [Reply.ofText "secret\r\n"] []).send .startTls).feed = .fault (unreadable (ascii "secret\r\n")) ∧
      ((fresh [] [Reply.ofText "hidden\r\n"] []).send .startTls).feed = .fault (unreadable (ascii "hidden\r\n")) ∧
      (connect s (.reached (server "secret\r\n"))).outcome ≠ (connect s (.reached (server "hidden\r\n"))).outcome := by
  intro server s
  have hsaid : (Reply.ofText "secret\r\n").said (ascii (Imap.tag 1)) = ascii "secret\r\n" ∧
      (Reply.ofText "hidden\r\n").said (ascii (Imap.tag 1)) = ascii "hidden\r\n" := by decide +kernel
  have hrefused : Imap.response (ascii "secret\r\n") = .refused ∧ Imap.response (ascii "hidden\r\n") = .refused := by
    decide +kernel
  have hsecret := feed_send_fresh .startTls (hsaid.1 ▸ hrefused.1)
  have hhidden := feed_send_fresh .startTls (hsaid.2 ▸ hrefused.2)
  rw [hsaid.1] at hsecret
  rw [hsaid.2] at hhidden
  have herror : ∀ text received, ((fresh [] [Reply.ofText text] []).send .startTls).feed = .fault (unreadable received) →
      (connect s (.reached (server text))).outcome =
        .error (.tls ("STARTTLS failed: " ++ (unreadable received).text)) := by
    intro text received hfeed
    refine connect_of_refusal ?_
    show (Feed.outcome _ ((fresh [] [Reply.ofText text] []).send .startTls).feed).value = _
    rw [hfeed]
    rfl
  refine ⟨⟨by decide +kernel, by decide +kernel⟩, hsecret, hhidden, ?_⟩
  rw [herror _ _ hsecret, herror _ _ hhidden]
  intro h
  have htext : (unreadable (ascii "secret\r\n")).text ≠ (unreadable (ascii "hidden\r\n")).text := by decide +kernel
  exact htext ((String.append_right_inj _).1 (Failure.tls.inj (Except.error.inj h)))

end Connection
end Wire
end Postbag
