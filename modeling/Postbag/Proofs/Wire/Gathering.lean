import Postbag.Proofs.Stream.Cancellation
import Postbag.Proofs.Stream.Consumers
import Postbag.Proofs.Stream.Disclosure
import Postbag.Proofs.Wire.Lines
/-!
# Gathering — a mailbox that is gathered, beside its stream

Gathering takes messages as long as no failure comes, and a failure is always the last element.  So a mailbox is gathered
whole or not at all: what comes out are the messages of the stream, all of them, or the failure that ended it.  The
session notices no difference, in this call or in any other.
-/
namespace Postbag

open Wire (Call Connection Given performAll)

/-- **What gathering comes to**, beside the stream of a consumer that takes every element. -/
structure Gathers (gathered : Except Failure (List Message)) (collected streamed : Run) : Prop where
  messages : ∀ ms, gathered = .ok ms ↔ streamed.elements = ms.map .ok
  failure : ∀ e, gathered = .error e ↔ streamed.elements.getLast? = some (.error e)
  asked : collected.trace.filter Event.isQuestion = streamed.trace.filter Event.isQuestion
  unread : collected.unread = streamed.unread

/-! ## Elements -/

theorem gather_eq_ok_iff {es : List Element} {ms : List Message} : gather es = .ok ms ↔ es = ms.map .ok := by
  induction es generalizing ms with
  | nil => cases ms <;> simp [gather]
  | cons x es ih =>
    cases x with
    | error f => cases ms <;> simp [gather]
    | ok m =>
      cases ms with
      | nil => cases hg : gather es <;> simp [gather, hg, Except.map]
      | cons m' ms =>
        rw [List.map_cons, List.cons.injEq, ← ih]
        cases hg : gather es <;> simp [gather, hg, Except.map]

theorem gather_delivered (ms : List Message) (last : Option Failure) :
    gather (Stream.delivered ms last) = last.elim (.ok ms) .error := by
  induction ms with
  | nil => cases last <;> rfl
  | cons m ms ih =>
    show (gather (Stream.delivered ms last)).map (m :: ·) = _
    rw [ih]
    cases last <;> rfl

theorem gather_eq_error_iff {es : List Element} (h : Stream.upToFailure es = es) {e : Failure} :
    gather es = .error e ↔ es.getLast? = some (.error e) := by
  obtain ⟨ms, last, rfl⟩ := Stream.eq_delivered_of_upToFailure h
  rw [gather_delivered, Stream.getLast?_delivered]
  cases last <;> simp

namespace Stream

/-! ## A stream -/

theorem filter_isQuestion_unanswered (t : List Event) :
    (t.map Event.unanswered).filter Event.isQuestion = t.filter Event.isQuestion := by
  induction t with
  | nil => rfl
  | cons e t ih =>
    rw [List.map_cons, List.filter_cons, List.filter_cons, ih]
    cases e with
    | element x a => cases x <;> rfl
    | _ => rfl

theorem gathers_run (answers : Answers) (waiting : List Step) (mailbox : String) :
    Gathers (run answers waiting mailbox .collecting).messages (run answers waiting mailbox .collecting)
      (run answers waiting mailbox .eager) := by
  have halike : Consumer.collecting.Alike .eager := fun _ _ => rfl
  have hcourse := run_unanswered halike answers waiting mailbox
  have helements := Run.elements_of_unanswered hcourse
  have htrace : (run answers waiting mailbox .collecting).trace.map Event.unanswered =
      (run answers waiting mailbox .eager).trace.map Event.unanswered := congrArg Run.trace hcourse
  have hunread := congrArg Run.unread hcourse
  refine ⟨fun ms => ?_, fun e => ?_, ?_, hunread⟩
  · rw [Run.messages, helements]
    exact gather_eq_ok_iff
  · rw [Run.messages, helements]
    exact gather_eq_error_iff (upToFailure_elements answers waiting mailbox)
  · rw [← filter_isQuestion_unanswered, htrace, filter_isQuestion_unanswered]

end Stream

/-! ## One call among others -/

namespace Wire

theorem performAll_append (c : Connection) (before behind : List Call) : performAll c (before ++ behind) =
    ((performAll c before).1 ++ (performAll (performAll c before).2 behind).1,
      (performAll (performAll c before).2 behind).2) := by
  induction before generalizing c with
  | nil => rfl
  | cons k before ih =>
    rw [List.cons_append, performAll, performAll]
    simp only [ih, List.cons_append]

theorem length_performAll (c : Connection) (calls : List Call) : (performAll c calls).1.length = calls.length := by
  induction calls generalizing c with
  | nil => rfl
  | cons k calls ih => exact congrArg (· + 1) (ih _)

end Wire

/-- **Gathering, beside streaming, as the `n`-th call of a session**: `session` tells what the calls give back. -/
def Beside (n : Nat) (mailbox : String) (session : Call → List Given) : Prop :=
  ∃ front gathered collected streamed back, front.length = n ∧
    session (.collect mailbox) = front ++ (collected, some gathered) :: back ∧
    session (.messages mailbox .eager) = front ++ (streamed, none) :: back ∧
    Gathers gathered collected streamed

theorem beside_play (s : Script) (before behind : List (Script × Call)) (mailbox : String) :
    Beside before.length mailbox fun k =>
      Script.play ((before ++ (s, k) :: behind).map Prod.fst) ((before ++ (s, k) :: behind).map Prod.snd) := by
  have hplay : ∀ session : List (Script × Call),
      Script.play (session.map Prod.fst) (session.map Prod.snd) = session.map fun p => p.1.given p.2 := by
    intro session
    rw [Script.play, List.zipWith_map, List.zipWith_self]
  refine ⟨before.map fun p => p.1.given p.2, _, _, _, behind.map fun p => p.1.given p.2, List.length_map _, ?_, ?_,
    Stream.gathers_run s.answers s.steps mailbox⟩
  · exact (hplay _).trans List.map_append
  · exact (hplay _).trans List.map_append

theorem beside_performAll (c : Connection) (before behind : List Call) (mailbox : String) :
    (Beside before.length mailbox fun k => (performAll c (before ++ k :: behind)).1) ∧
      (performAll c (before ++ .collect mailbox :: behind)).2 =
        (performAll c (before ++ .messages mailbox .eager :: behind)).2 := by
  set before' := (performAll c before).2 with hbefore
  have hgathers : Gathers (before'.stream mailbox .collecting).1.messages (before'.stream mailbox .collecting).1
      (before'.stream mailbox .eager).1 := by
    rw [Connection.stream_eq, Connection.stream_eq]
    exact Stream.gathers_run _ _ _
  have hcollect : performAll before' (.collect mailbox :: behind) =
      (((before'.stream mailbox .collecting).1, some (before'.stream mailbox .collecting).1.messages) ::
        (performAll (before'.stream mailbox .eager).2 behind).1,
        (performAll (before'.stream mailbox .eager).2 behind).2) := by
    rw [← before'.stream_snd mailbox .collecting .eager]
    rfl
  refine ⟨⟨(performAll c before).1, _, _, _, (performAll (before'.stream mailbox .eager).2 behind).1,
    Wire.length_performAll c before, ?_, ?_, hgathers⟩, ?_⟩
  · show (performAll c (before ++ .collect mailbox :: behind)).1 = _
    rw [Wire.performAll_append, ← hbefore, hcollect]
  · show (performAll c (before ++ .messages mailbox .eager :: behind)).1 = _
    rw [Wire.performAll_append]
    rfl
  · rw [Wire.performAll_append, Wire.performAll_append, ← hbefore, hcollect]
    rfl

/-- **A mailbox is gathered whole or not at all.**  A call that gathers a mailbox gives back the messages that a consumer
who takes every element is handed, where it is handed nothing else, and otherwise the failure that it is handed last.  It
asks the same questions, leaves the same steps unread, and makes no difference to the calls around it; and so it is in
every session, played from scripts or held on a connection. -/
theorem collect_beside_stream (mailbox : String) :
    (∀ (s : Script) (before behind : List (Script × Call)), Beside before.length mailbox fun k =>
      Script.play ((before ++ (s, k) :: behind).map Prod.fst) ((before ++ (s, k) :: behind).map Prod.snd)) ∧
    ∀ (c : Connection) (before behind : List Call),
      (Beside before.length mailbox fun k => (performAll c (before ++ k :: behind)).1) ∧
        (performAll c (before ++ .collect mailbox :: behind)).2 =
          (performAll c (before ++ .messages mailbox .eager :: behind)).2 :=
  ⟨fun s before behind => beside_play s before behind mailbox,
    fun c before behind => beside_performAll c before behind mailbox⟩

end Postbag
