import Postbag.Proofs.Stream.Protocol
/-!
# Consumers — what consumers are handed, beside each other

A failure is the last element whatever its consumer answers.  So the streams of two consumers that answer messages alike
take the same course, up to those answers: they ask and tell the same, hand out the same, and leave the same unread.
Any consumer is handed what one that takes every element is handed, up to the message that it stops at.
-/
namespace Postbag

/-- The event without the answer to a failure. -/
def Event.unanswered : Event → Event
  | .element (.error e) _ => .element (.error e) .goOn
  | e => e

def Reading.unanswered (r : Reading) : Reading := { r with trace := r.trace.map Event.unanswered }

def Run.unanswered (r : Run) : Run := ⟨r.trace.map Event.unanswered, r.unread⟩

def Consumer.Alike (consumer consumer' : Consumer) : Prop :=
  ∀ handed m, consumer handed (.ok m) = consumer' handed (.ok m)

/-- **What a consumer takes of elements**, behind those that it was handed: all of them up to a message that it stops at,
or to a failure. -/
def Consumer.taken (consumer : Consumer) : (handed : List Element) → List Element → List Element
  | _, [] => []
  | _, .error e :: _ => [.error e]
  | handed, .ok m :: es =>
    match consumer handed (.ok m) with
    | .goOn => .ok m :: consumer.taken (handed ++ [.ok m]) es
    | .stop => [.ok m]

theorem elementsOf_unanswered (t : List Event) : elementsOf (t.map Event.unanswered) = elementsOf t := by
  have helement : Event.element? ∘ Event.unanswered = Event.element? := by
    funext e
    cases e with
    | element e a => cases e <;> rfl
    | _ => rfl
  unfold elementsOf
  rw [List.filterMap_map, helement]

theorem Run.elements_of_unanswered {r r' : Run} (h : r.unanswered = r'.unanswered) : r.elements = r'.elements := by
  have helements := congrArg (fun r => elementsOf (Run.trace r)) h
  simp only [unanswered, elementsOf_unanswered] at helements
  exact helements

theorem Run.elements_behind {opening : List Event} (ho : elementsOf opening = []) (t : List Event)
    (unread : List Step) : (Run.mk (opening ++ t) unread).elements = elementsOf t := by
  show elementsOf (opening ++ t) = _
  rw [elementsOf_append, ho, List.nil_append]

theorem Reading.unanswered_inj {r r' : Reading} (h : r.unanswered = r'.unanswered) :
    r.trace.map Event.unanswered = r'.trace.map Event.unanswered ∧ r.handed = r'.handed ∧ r.unread = r'.unread ∧
      r.finished = r'.finished := by
  simpa [unanswered] using h

namespace Stream

variable {consumer consumer' : Consumer}

theorem unanswered_after (es : List Event) {r r' : Reading} (h : r.unanswered = r'.unanswered) :
    (r.after es).unanswered = (r'.after es).unanswered := by
  obtain ⟨htrace, hhanded, hunread, hfinished⟩ := Reading.unanswered_inj h
  simp [Reading.unanswered, Reading.after, htrace, hhanded, hunread, hfinished]

theorem read_unanswered (h : consumer.Alike consumer') (handed : List Element) (steps : List Step) :
    (read consumer handed steps).unanswered = (read consumer' handed steps).unanswered := by
  induction steps generalizing handed with
  | nil => rfl
  | cons step steps ih =>
    cases ho : outcome step with
    | skipped f =>
      rw [read_of_skipped ho, read_of_skipped ho]
      exact unanswered_after _ (ih handed)
    | fatal f =>
      rw [read_of_fatal ho, read_of_fatal ho]
      simp [Reading.unanswered, hand, Event.unanswered]
    | message m =>
      cases ha : consumer handed (.ok m) with
      | goOn =>
        rw [read_of_goOn ho ha, read_of_goOn ho (h handed m ▸ ha)]
        exact unanswered_after _ (ih (handed ++ [.ok m]))
      | stop => rw [read_of_stop ho ha, read_of_stop ho (h handed m ▸ ha)]

theorem releasing_unanswered (consumer consumer' : Consumer) (release : Release) {r r' : Reading}
    (h : r.unanswered = r'.unanswered) :
    (releasing consumer release r).map Event.unanswered = (releasing consumer' release r').map Event.unanswered := by
  obtain ⟨-, hhanded, hunread, hfinished⟩ := Reading.unanswered_inj h
  unfold releasing releaseFailure
  rw [hhanded, hunread, hfinished]
  cases released release r'.unread with
  | ok n => cases n <;> rfl
  | error e => cases r'.finished <;> simp [hand, Event.unanswered]

/-- **Consumers that answer messages alike** have streams that take the same course, up to the answers to failures. -/
theorem run_unanswered (h : consumer.Alike consumer') (answers : Answers) (waiting : List Step) (mailbox : String) :
    (run answers waiting mailbox consumer).unanswered = (run answers waiting mailbox consumer').unanswered := by
  obtain ⟨opening, -, -, ⟨-, hrun | ⟨e, hrun⟩⟩ | ⟨fetch, -, hrun⟩⟩ := run_cases answers waiting mailbox
  · rw [hrun, hrun]
  · rw [hrun, hrun]
    simp [Run.unanswered, hand, Event.unanswered]
  · have hread := read_unanswered h [] fetch.steps
    obtain ⟨htrace, -, hunread, -⟩ := Reading.unanswered_inj hread
    have hrelease := releasing_unanswered consumer consumer' fetch.release hread
    rw [hrun, hrun]
    simp only [Run.unanswered, fetchRun, List.map_append, htrace, hunread, hrelease]

/-! ## A consumer that takes every element -/

theorem upToFailure_of_all {es : List Element} (h : es.any isFailure = false) (behind : List Element) :
    upToFailure (es ++ behind) = es ++ upToFailure behind := by
  induction es with
  | nil => rfl
  | cons e es ih =>
    rw [List.any_cons, Bool.or_eq_false_iff] at h
    cases e with
    | error e => cases h.1
    | ok m => rw [List.cons_append, upToFailure, ih h.2, List.cons_append]

theorem upToFailure_upToFailure (es : List Element) : upToFailure (upToFailure es) = upToFailure es := by
  induction es with
  | nil => rfl
  | cons e es ih =>
    cases e with
    | error e => rfl
    | ok m => rw [upToFailure, upToFailure, ih]

theorem upToFailure_fetchRun (fetch : Fetch) :
    upToFailure (fetchRun .eager fetch).elements = (fetchRun .eager fetch).elements := by
  obtain ⟨helements, hfinished, -⟩ := read_takesAll [] fetch.steps
  have hparts : (fetchRun .eager fetch).elements = upToFailure (fetch.steps.filterMap given) ++
      elementsOf (releasing .eager fetch.release (read .eager [] fetch.steps)) := by
    rw [← helements, ← elementsOf_append]
    rfl
  rw [hparts]
  rcases releasing_cases fetch.release (read .eager [] fetch.steps) with ⟨logs, hr⟩ | ⟨hgoesOn, logs, malformed, e, hr⟩
  · simp [hr, upToFailure_upToFailure]
  · -- a release hands out its failure only where no step gave one
    have hnone : (fetch.steps.filterMap given).any isFailure = false := hfinished ▸ hgoesOn
    have hall := upToFailure_of_all hnone []
    rw [List.append_nil, upToFailure, List.append_nil] at hall
    rw [hall, upToFailure_of_all hnone]
    simp [hr, hand, upToFailure]

/-- **A failure is the last element.** -/
theorem upToFailure_elements (answers : Answers) (waiting : List Step) (mailbox : String) :
    upToFailure (run answers waiting mailbox .eager).elements = (run answers waiting mailbox .eager).elements := by
  obtain ⟨opening, ho, -, ⟨-, hrun | ⟨e, hrun⟩⟩ | ⟨fetch, -, hrun⟩⟩ := run_cases answers waiting mailbox
  · rw [hrun, show (Run.mk opening waiting).elements = [] from ho]
    rfl
  · rw [hrun, Run.elements_behind ho]
    rfl
  · rw [hrun, Run.elements_behind ho]
    exact upToFailure_fetchRun fetch

/-! ## Messages, and at most one failure behind them -/

def delivered (ms : List Message) (last : Option Failure) : List Element := ms.map .ok ++ last.toList.map .error

theorem eq_delivered_of_upToFailure {es : List Element} (h : upToFailure es = es) :
    ∃ ms last, es = delivered ms last := by
  induction es with
  | nil => exact ⟨[], none, rfl⟩
  | cons e es ih =>
    cases e with
    | error e =>
      obtain rfl : [] = es := (List.cons.inj h).2
      exact ⟨[], some e, rfl⟩
    | ok m =>
      obtain ⟨ms, last, rfl⟩ := ih (List.cons.inj h).2
      exact ⟨m :: ms, last, rfl⟩

theorem getLast?_delivered {ms : List Message} {last : Option Failure} {e : Failure} :
    (delivered ms last).getLast? = some (.error e) ↔ last = some e := by
  cases last with
  | none => simp [delivered, List.getLast?_map]
  | some f => simp [delivered]

/-- **What stands in front of a cut**: the failure, only where all the messages do. -/
theorem take_delivered (ms : List Message) (last : Option Failure) (k : Nat) :
    (delivered ms last).take k = delivered (ms.take k) (if ms.length < k then last else none) := by
  rw [delivered, List.take_append, List.length_map, ← List.map_take, delivered]
  congr 1
  by_cases hk : ms.length < k
  · rw [if_pos hk, List.take_of_length_le]
    cases last with
    | none => exact Nat.zero_le _
    | some e => exact Nat.le_sub_of_add_le' hk
  · rw [if_neg hk, Nat.sub_eq_zero_of_le (Nat.le_of_not_lt hk), List.take_zero]
    rfl

/-! ## A consumer that stops -/

theorem taken_read (consumer : Consumer) (handed : List Element) (steps : List Step) (behind : List Element) :
    consumer.taken handed (upToFailure (steps.filterMap given) ++ behind) =
      elementsOf (read consumer handed steps).trace ++
        if (read consumer handed steps).finished then []
        else consumer.taken (read consumer handed steps).handed behind := by
  induction steps generalizing handed with
  | nil => rfl
  | cons step steps ih =>
    cases ho : outcome step with
    | skipped f =>
      rw [List.filterMap_cons_none (given_of_skipped ho), ih, read_of_skipped ho]
      simp [Reading.after]
    | fatal f =>
      rw [List.filterMap_cons_some (given_of_fatal ho), read_of_fatal ho]
      simp [upToFailure, Consumer.taken, hand]
    | message m =>
      rw [List.filterMap_cons_some (given_of_message ho), upToFailure, List.cons_append, Consumer.taken]
      cases ha : consumer handed (.ok m) with
      | goOn =>
        rw [read_of_goOn ho ha]
        simp [ih, Reading.after]
      | stop =>
        rw [read_of_stop ho ha]
        simp

theorem read_of_not_finished {consumer : Consumer} {handed : List Element} {steps : List Step}
    (h : (read consumer handed steps).finished = false) : read consumer handed steps = read .eager handed steps := by
  induction steps generalizing handed with
  | nil => rfl
  | cons step steps ih =>
    cases ho : outcome step with
    | skipped f =>
      rw [read_of_skipped ho] at h
      rw [read_of_skipped ho, read_of_skipped ho, ih h]
    | fatal f =>
      rw [read_of_fatal ho] at h
      cases h
    | message m =>
      cases ha : consumer handed (.ok m) with
      | goOn =>
        have heager : Consumer.eager handed (.ok m) = .goOn := rfl
        rw [read_of_goOn ho ha] at h
        rw [read_of_goOn ho ha, read_of_goOn ho heager, ih h]
      | stop =>
        rw [read_of_stop ho ha] at h
        cases h

/-- At most one element is handed out behind a release, and it is a failure. -/
theorem taken_releasing (consumer : Consumer) (handed : List Element) (release : Release) (r : Reading) :
    consumer.taken handed (elementsOf (releasing .eager release r)) = elementsOf (releasing consumer release r) := by
  rcases releasing_cases release r with ⟨logs, hr⟩ | ⟨-, logs, malformed, e, hr⟩
  · simp [hr, Consumer.taken]
  · simp [hr, hand, Consumer.taken]

/-- **A consumer is handed what it takes of the whole stream.** -/
theorem elements_run (answers : Answers) (waiting : List Step) (mailbox : String) (consumer : Consumer) :
    (run answers waiting mailbox consumer).elements =
      consumer.taken [] (run answers waiting mailbox .eager).elements := by
  obtain ⟨opening, ho, -, ⟨-, hrun | ⟨e, hrun⟩⟩ | ⟨fetch, -, hrun⟩⟩ := run_cases answers waiting mailbox
  · rw [hrun, hrun, show (Run.mk opening waiting).elements = [] from ho]
    rfl
  · rw [hrun, hrun, Run.elements_behind ho, Run.elements_behind ho]
    rfl
  · rw [hrun, hrun, Run.elements_behind ho, Run.elements_behind ho, fetchRun, fetchRun, elementsOf_append,
      elementsOf_append, (read_takesAll [] fetch.steps).elements, taken_read]
    cases hr : (read consumer [] fetch.steps).finished with
    | true => rw [elementsOf_releasing_of_finished consumer fetch.release hr, if_pos rfl]
    | false =>
      -- a reading that the consumer lets go on to its end is that of one that takes every element
      rw [if_neg Bool.false_ne_true, ← read_of_not_finished hr, taken_releasing]

end Stream
end Postbag
