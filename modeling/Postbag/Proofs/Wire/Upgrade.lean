import Postbag.Proofs.Wire.Opening
/-!
# Upgrade — what was said in the open has no part in what is private

What a server says before the private connection begins is dropped with the connection it was said on, read or not.  So
two servers that differ in that alone are told apart by nothing that a session comes to, once it has begun; and every
answer on the private connection is read from octets that were said on it.
-/
namespace Postbag
namespace Wire

open Imap (Command Response)
open Imap.Reader (ascii)

/-! ## What is left of a feed -/

/-- Octets that are left where the reading of a feed stops behind one of its responses. -/
inductive Feed.Leaves : Feed → List UInt8 → Prop
  | here (r : Response) (behind : List UInt8) (next : Feed) : Leaves (.response r behind next) behind
  | later {r : Response} {behind left : List UInt8} {next : Feed} (h : Leaves next left) :
      Leaves (.response r behind next) left

namespace Feed

theorem suffix_of_leaves {octets left : List UInt8} (h : (ofOctets octets).Leaves left) : left <:+ octets := by
  rcases ofOctets_cases octets with ⟨r, rest, hr, he⟩ | he | ⟨f, he⟩
  · have hlt := Imap.eats_response _ _ _ hr
    have hrest : rest <:+ octets := Imap.regular_response.leaves _ _ _ hr
    rw [he] at h
    cases h with
    | here => exact hrest
    | later h => exact (suffix_of_leaves h).trans hrest
  · rw [he] at h
    cases h
  · rw [he] at h
    cases h
termination_by octets.length

/-- What hears an answer leaves octets behind one of its responses, or nothing. -/
def Hears {α : Type} (hear : List UInt8 → Feed → Heard α) : Prop :=
  ∀ tag f left, (hear tag f).left = some left → f.Leaves left

theorem hears_outcome : Hears outcome := by
  intro tag f left h
  induction f with
  | response r behind next ih =>
    by_cases hp : PassedOver tag r
    · rw [outcome_of_passedOver hp] at h
      exact (ih h).later
    · rcases outcome_of_not_passedOver hp next with ⟨remark, rfl⟩ | ⟨f, hf⟩
      · rw [outcome, if_pos rfl] at h
        cases h
        exact .here ..
      · rw [hf] at h
        cases h
        exact .here ..
  | fault f => cases h
  | ended => cases h

theorem hears_selected (count : UInt32) : Hears fun tag feed => feed.selected tag count := by
  intro tag f left h
  induction f generalizing count with
  | response r behind next ih =>
    cases r with
    | tagged t s remark =>
      simp only [selected] at h
      by_cases ht : t = tag
      · rw [if_pos ht] at h
        cases s <;>
          · cases h
            exact .here ..
      · rw [if_neg ht] at h
        exact (ih count h).later
    | condition s remark =>
      cases s with
      | ok => exact (ih count h).later
      | _ =>
        cases h
        exact .here ..
    | count n => exact (ih n h).later
    | _ => exact (ih count h).later
  | fault f => cases h
  | ended => cases h

theorem hears_steps : Hears steps := by
  intro tag f left h
  induction f with
  | response r behind next ih =>
    cases r with
    | tagged t s remark =>
      simp only [steps] at h
      by_cases ht : t = tag
      · rw [if_pos ht] at h
        cases h
        exact .here ..
      · rw [if_neg ht] at h
        exact (ih h).later
    | _ => exact (ih h).later
  | fault f => cases h
  | ended => cases h

end Feed

/-! ## What is said in private -/

/-- What a server has said, and the replies that are left to it, none where it has hung up; and one line more. -/
def hearLine : List UInt8 × Option (List Reply) → Sent → List UInt8 × Option (List Reply)
  | (octets, none), _ => (octets, none)
  | (octets, some replies), line =>
    let (reply, rest) := answer line.command replies
    (octets ++ reply.said (ascii (Imap.tag line.tag)), if reply.closes then none else some rest)

namespace Connection

open Relation (ReflTransGen)

/-- What a server says in private: to the lines of the connection, without the first, which was sent in the open. -/
def saidInPrivate (server : Server) (c : Connection) : List UInt8 × Option (List Reply) :=
  c.sent.tail.foldl hearLine ([], some (server.login :: server.replies))

theorem saidInPrivate_send (server : Server) {c : Connection} (hc : c.sent ≠ []) (command : Command) :
    saidInPrivate server (c.send command) =
      hearLine (saidInPrivate server c) ⟨c.lastTag + 1, command, c.replies.isSome⟩ := by
  rw [saidInPrivate, sent_send, List.tail_append_of_ne_nil hc, List.foldl_concat]
  rfl

/-- A server with as many replies left as the connection knows of says to a line what the connection receives. -/
theorem hearLine_send {c : Connection} {said : List UInt8 × Option (List Reply)} (hreplies : said.2 = c.replies)
    (hunread : ∀ octets, c.incoming = some octets → octets <:+ said.1) (command : Command) :
    (hearLine said ⟨c.lastTag + 1, command, c.replies.isSome⟩).2 = (c.send command).replies ∧
      ∀ octets, (c.send command).incoming = some octets →
        octets <:+ (hearLine said ⟨c.lastTag + 1, command, c.replies.isSome⟩).1 := by
  obtain ⟨octets, left⟩ := said
  obtain ⟨incoming, replies, lastTag, sent⟩ := c
  obtain rfl : left = replies := hreplies
  cases left with
  | none => exact ⟨rfl, hunread⟩
  | some replies =>
    refine ⟨rfl, fun received hreceived => ?_⟩
    cases incoming with
    | none => cases hreceived
    | some unread =>
      obtain ⟨before, hbefore⟩ := hunread unread rfl
      cases hreceived
      exact ⟨before, by rw [← List.append_assoc, hbefore]; rfl⟩

/-- **What can still be read was said in private**, in answer to a line that was sent in private. -/
structure Private (server : Server) (c : Connection) : Prop where
  upgraded : c.sent.head? = some upgradeLine
  replies : (saidInPrivate server c).2 = c.replies
  unread : ∀ octets, c.incoming = some octets → octets <:+ (saidInPrivate server c).1

namespace Private

variable {server : Server} {c : Connection}

/-- **A command is answered in private**, behind what can still be read. -/
theorem send (h : Private server c) (command : Command) : Private server (c.send command) := by
  obtain ⟨hupgraded, hreplies, hunread⟩ := h
  have hne : c.sent ≠ [] := fun hnil => by
    rw [hnil] at hupgraded
    cases hupgraded
  have hsaid := saidInPrivate_send server hne command
  obtain ⟨hreplies', hunread'⟩ := hearLine_send hreplies hunread command
  rw [← hsaid] at hreplies' hunread'
  refine ⟨?_, hreplies', hunread'⟩
  rw [sent_send, List.head?_append, hupgraded]
  rfl

/-- What hears an answer hears what was said in private, and leaves the end of it. -/
theorem ask {α : Type} {hear : List UInt8 → Feed → Heard α} (hh : Feed.Hears hear) (h : Private server c)
    (command : Command) : Private server (c.ask command hear).2 := by
  obtain ⟨hupgraded, hreplies, hunread⟩ := h.send command
  refine ⟨hupgraded, hreplies, fun left hleft => ?_⟩
  have hl := hh _ _ _ hleft
  -- a connection that reads nothing more leaves nothing either
  unfold feed at hl
  cases hincoming : (c.send command).incoming with
  | none =>
    rw [hincoming] at hl
    cases hl
  | some received =>
    rw [hincoming] at hl
    exact (Feed.suffix_of_leaves hl).trans (hunread received hincoming)

theorem reads {c' : Connection} (h : Private server c) (hr : ReflTransGen Reads c c') : Private server c' := by
  induction hr with
  | refl => exact h
  | tail _ hstep ih =>
    cases hstep with
    | select => exact ih.ask (Feed.hears_selected 0) _
    | fetch => exact ih.ask Feed.hears_steps _

theorem begun (server : Server) : Private server (begun server) :=
  ⟨rfl, rfl, fun octets h => by
    cases h
    exact List.nil_suffix⟩

theorem entered (s : Settings) (server : Server) : Private server (entered s server) :=
  (begun server).ask Feed.hears_outcome _

theorem performAll (h : Private server c) (calls : List Call) : Private server (performAll c calls).2 :=
  h.reads (reads_performAll c calls)

end Private

/-- **Every answer of a session is read in private**: that to the login, those to the selections and to the logout, and
those to the commands behind a selection. -/
structure AnsweredInPrivate (s : Settings) (server : Server) : Prop where
  login : Private server ((begun server).send (.login s.username s.password))
  between : ∀ calls command, Private server ((performAll (entered s server) calls).2.send command)
  selected : ∀ calls mailbox command,
    Private server (((performAll (entered s server) calls).2.select mailbox).2.send command)

theorem answeredInPrivate (s : Settings) (server : Server) : AnsweredInPrivate s server where
  login := (Private.begun server).send _
  between calls command := ((Private.entered s server).performAll calls).send command
  selected calls mailbox command :=
    (((Private.entered s server).performAll calls).reads (reads_select _ mailbox)).send command

/-- **What was said in the open has no part in what is private.**  Two servers that differ only in their greeting and in
their answer to the request for a private connection are told apart by nothing that a session comes to, where it begins
with both of them: not by its lines, its log and what its calls give back, and not by the logout.  Each begins on the
same connection, and every answer behind that is read from what was said in private. -/
theorem session_of_plaintext (s : Settings) (server : Server) (greeting greeting' : List UInt8)
    (startTls startTls' : Reply)
    (h : (connect s (.reached { server with greeting := greeting, startTls := startTls })).outcome.isOk = true)
    (h' : (connect s (.reached { server with greeting := greeting', startTls := startTls' })).outcome.isOk = true) :
    (connect s (.reached { server with greeting := greeting, startTls := startTls })).outcome = .ok (entered s server) ∧
      (connect s (.reached { server with greeting := greeting', startTls := startTls' })).outcome =
        .ok (entered s server) ∧
      (∀ calls leaves, session s (.reached { server with greeting := greeting, startTls := startTls }) calls leaves =
        session s (.reached { server with greeting := greeting', startTls := startTls' }) calls leaves) ∧
      AnsweredInPrivate s server := by
  have hconnect := connect_of_admits ((connect_isOk_iff _ _).1 h)
  have hconnect' := connect_of_admits ((connect_isOk_iff _ _).1 h')
  refine ⟨congrArg Attempt.outcome hconnect, congrArg Attempt.outcome hconnect', fun calls leaves => ?_,
    answeredInPrivate s server⟩
  -- the connection behind the login is made of what the two servers have in common
  have hsame : connect s (.reached { server with greeting := greeting, startTls := startTls }) =
      connect s (.reached { server with greeting := greeting', startTls := startTls' }) := hconnect.trans hconnect'.symm
  unfold session
  rw [hsame]

/-- Answers to the login and to the first selection that are put behind the consent, in the open. -/
theorem session_of_plaintext_of_injection :
    let s : Settings := ⟨"mail.example", 143, "user", "password"⟩
    let ok : Reply := Reply.ofText "\x7btag\x7d OK\r\n"
    let injected : Reply := Reply.ofText "\x7btag\x7d OK\r\nA0001 OK\r\n* 7 EXISTS\r\nA0002 OK\r\n"
    let server : Server := ⟨[], .hangUp, .succeeds, ok, [Reply.ofText "\x7btag\x7d NO\r\n"]⟩
    let honest : Server := { server with greeting := ascii "* OK ready\r\n", startTls := ok }
    let injecting : Server := { server with greeting := ascii "* PREAUTH ready\r\n", startTls := injected }
    (connect s (.reached honest)).outcome = .ok (entered s server) ∧
      (connect s (.reached injecting)).outcome = .ok (entered s server) ∧
      (∀ calls leaves, session s (.reached honest) calls leaves = session s (.reached injecting) calls leaves) ∧
      AnsweredInPrivate s server := by
  intro s ok injected server honest injecting
  exact session_of_plaintext s server _ _ _ _ (by decide +kernel) (by decide +kernel)

end Connection
end Wire
end Postbag
