import Postbag.Proofs.Wire.Lines
/-!
# Later — replies that were not asked for yet

A command is answered with the first reply that is left to the server.  So connections that differ in later replies only
are told the same by as many commands as there are replies before those, and one call takes up no more replies than it
sends commands.
-/
namespace Postbag
namespace Wire

open Imap (Command Sendable)

theorem Admits.later {s : Settings} {server : Server} (h : Admits s server) (rs : List Reply) :
    Admits s { server with replies := rs } :=
  ⟨⟨h.secures.granted, h.secures.named, h.secures.listens, h.secures.handshake⟩, h.sendable, h.granted⟩

namespace Connection

/-- **Connections that are alike for `n` commands** differ in the replies behind the next `n` only. -/
structure AlikeFor (n : Nat) (c c' : Connection) : Prop where
  incoming : c.incoming = c'.incoming
  lastTag : c.lastTag = c'.lastTag
  sent : c.sent = c'.sent
  replies : c.replies.map (List.take n) = c'.replies.map (List.take n)

namespace AlikeFor

variable {n m : Nat} {c c' : Connection}

theorem mono (h : AlikeFor n c c') (hm : m ≤ n) : AlikeFor m c c' := by
  obtain ⟨hi, ht, hs, hr⟩ := h
  refine ⟨hi, ht, hs, ?_⟩
  have htake := congrArg (Option.map (List.take m)) hr
  simpa [Option.map_map, Function.comp_def, List.take_take, Nat.min_eq_left hm] using htake

theorem send (h : AlikeFor (n + 1) c c') (command : Command) : AlikeFor n (c.send command) (c'.send command) := by
  obtain ⟨incoming, replies, lastTag, sent⟩ := c
  obtain ⟨incoming', replies', lastTag', sent'⟩ := c'
  obtain ⟨rfl, rfl, rfl, hr⟩ := h
  unfold Connection.send
  cases replies with
  | none =>
    cases replies' with
    | none => exact ⟨rfl, rfl, rfl, rfl⟩
    | some replies' => cases hr
  | some replies =>
    cases replies' with
    | none => cases hr
    | some replies' =>
      have htake : replies.take (n + 1) = replies'.take (n + 1) := by simpa using hr
      cases replies with
      | nil =>
        cases replies' with
        | nil => exact ⟨rfl, rfl, rfl, rfl⟩
        | cons r' replies' => cases htake
      | cons r replies =>
        cases replies' with
        | nil => cases htake
        | cons r' replies' =>
          obtain ⟨rfl, hrest⟩ := List.cons.inj htake
          refine ⟨rfl, rfl, rfl, ?_⟩
          show Option.map (List.take n) (if r.closes then none else some replies) =
            Option.map (List.take n) (if r.closes then none else some replies')
          cases r.closes with
          | true => rfl
          | false => exact congrArg some hrest

theorem ask {α : Type} (h : AlikeFor (n + 1) c c') (command : Command) (hear : List UInt8 → Feed → Heard α) :
    (c.ask command hear).1 = (c'.ask command hear).1 ∧ AlikeFor n (c.ask command hear).2 (c'.ask command hear).2 := by
  obtain ⟨hi, ht, hs, hr⟩ := h.send command
  have htag : (c.send command).tagOctets = (c'.send command).tagOctets := by unfold tagOctets; rw [ht]
  have hfeed : (c.send command).feed = (c'.send command).feed := by unfold feed; rw [hi]
  unfold Connection.ask
  simp only [htag, hfeed, true_and]
  exact ⟨rfl, ht, hs, hr⟩

theorem select (h : AlikeFor (n + 1) c c') (mailbox : String) :
    (c.select mailbox).1 = (c'.select mailbox).1 ∧ AlikeFor n (c.select mailbox).2 (c'.select mailbox).2 := by
  unfold Connection.select askChecked
  cases (Command.select mailbox).check with
  | error f => exact ⟨rfl, h.mono (Nat.le_succ n)⟩
  | ok u =>
    obtain ⟨hv, halike⟩ := h.ask (.select mailbox) fun tag feed => feed.selected tag 0
    exact ⟨congrArg (Except.mapError Imap.Fault.toFailure) hv, halike⟩

theorem fetch (h : AlikeFor (n + 1) c c') : c.fetch.1 = c'.fetch.1 :=
  congrArg (Fetch.mk · .drains) (h.ask (.fetch .messages) Feed.steps).1

/-- **A call is told nothing by replies that it does not ask for.** -/
theorem stream {k : Call} (h : AlikeFor n c c') (hn : (k.commands c).length ≤ n) :
    (c.stream k.mailbox k.consumer).1 = (c'.stream k.mailbox k.consumer).1 := by
  unfold Call.commands at hn
  by_cases hs : Sendable k.mailbox
  · rw [if_pos hs, List.length_cons] at hn
    obtain ⟨n, rfl⟩ := Nat.exists_eq_succ_of_ne_zero (Nat.ne_of_gt (Nat.lt_of_lt_of_le (Nat.succ_pos _) hn))
    obtain ⟨hv, halike⟩ := h.select k.mailbox
    let answers : Answers := ⟨(c.select k.mailbox).1, .ok (c.select k.mailbox).2.fetch.1⟩
    cases hf : c.finds k.mailbox with
    | false =>
      have hselected : (c'.select k.mailbox).1 = answers.count := hv.symm
      have hholds : answers.holds = false := hf
      rw [stream_of_not_holds k.consumer rfl hholds, stream_of_not_holds k.consumer hselected hholds]
    | true =>
      rw [hf, if_pos rfl, List.length_singleton] at hn
      obtain ⟨n, rfl⟩ := Nat.exists_eq_succ_of_ne_zero (Nat.ne_of_gt (Nat.lt_of_succ_lt_succ hn))
      have hfetch := halike.fetch
      rw [stream_eq, stream_eq, hv, hfetch]
  · -- a mailbox that cannot be sent is asked for on neither
    obtain ⟨f, hf⟩ := Imap.checkArgument_of_not_sendable hs
    have hcheck : (Command.select k.mailbox).check = .error f := hf
    have hselect : ∀ d : Connection, d.select k.mailbox = (.error f.toFailure, d) := by
      intro d
      unfold Connection.select askChecked
      rw [hcheck]
      rfl
    unfold Connection.stream
    rw [hselect, hselect]

end AlikeFor

/-! ## Up to the login -/

end Connection
end Wire
end Postbag
