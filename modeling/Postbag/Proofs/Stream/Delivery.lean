import Postbag.Proofs.Failure.Classification
import Postbag.Proofs.Stream.Events
/-!
# Delivery — what a consumer is handed of the steps of a FETCH

Each step gives nothing, a message, or a failure (`given`), whatever stands around it.  A stream handles a front of the
steps, up to the first one that ends it (`Cut`), and hands out what these give, in order.  The steps behind are left
unread.
-/
namespace Postbag
namespace Stream

/-- **What a step gives.**  Of a record the number is looked at first, then the envelope, then the body. -/
def given : Step → Option Element
  | .error e => if (Failure.collect e).isMalformed then none else some (.error (.collect e))
  | .ok r =>
    if r.uid = 0 then some (.error .invalidUid)
    else
      match r.envelope, r.body with
      | none, _ => none
      | some _, none => some (.error (.missingBody r.uid))
      | some _, some [] => some (.error (.emptyBody r.uid))
      | some envelope, some (b :: bs) => some (.ok ⟨r.uid, b :: bs, Headers.ofEnvelope envelope⟩)

/-- Whether a stream ends with a step, behind elements that were handed out: the step gives a failure, or a message that
the consumer answers with `stop`. -/
def EndsAt (consumer : Consumer) (handed : List Element) (step : Step) : Prop :=
  match given step with
  | none => False
  | some (.error _) => True
  | some (.ok m) => consumer handed (.ok m) = .stop

/-- Whether the last of the steps ends the stream. -/
def Ended (consumer : Consumer) (handed : List Element) (front : List Step) : Prop :=
  ∃ before step, front = before ++ [step] ∧ EndsAt consumer (handed ++ before.filterMap given) step

/-- **The front of the steps that a stream handles**: none of them but the last one ends it, and the last one does where
anything is left. -/
structure Cut (consumer : Consumer) (handed : List Element) (steps front rest : List Step) : Prop where
  split : steps = front ++ rest
  goesOn : ∀ before step behind, front = before ++ step :: behind → behind ≠ [] →
    ¬ EndsAt consumer (handed ++ before.filterMap given) step
  ended : rest ≠ [] → Ended consumer handed front

/-! ## A step -/

def Outcome.element? : Outcome → Option Element
  | .message m => some (.ok m)
  | .skipped _ => none
  | .fatal e => some (.error e)

theorem element?_ofFailure (e : Failure) :
    (Outcome.ofFailure e).element? = if e.isMalformed then none else some (.error e) := by
  unfold Outcome.ofFailure Failure.classify
  cases e.isMalformed <;> rfl

/-- **The outcome of a step is what it gives.** -/
theorem element?_outcome (step : Step) : (outcome step).element? = given step := by
  cases step with
  | error e => exact element?_ofFailure (.collect e)
  | ok r =>
    obtain ⟨uid, envelope, body⟩ := r
    unfold outcome Message.ofRecord given
    by_cases hu : uid = 0
    · simp [hu, element?_ofFailure]
    · cases envelope with
      | none => simp [hu, element?_ofFailure]
      | some envelope =>
        cases body with
        | none => simp [hu, element?_ofFailure]
        | some body => cases body with
          | nil => simp [hu, element?_ofFailure]
          | cons b bs => simp [hu, Outcome.element?]

theorem given_of_skipped {step : Step} {e : Failure} (h : outcome step = .skipped e) : given step = none := by
  rw [← element?_outcome, h]; rfl

theorem given_of_fatal {step : Step} {e : Failure} (h : outcome step = .fatal e) : given step = some (.error e) := by
  rw [← element?_outcome, h]; rfl

theorem given_of_message {step : Step} {m : Message} (h : outcome step = .message m) : given step = some (.ok m) := by
  rw [← element?_outcome, h]; rfl

section Steps

variable {consumer : Consumer} {handed : List Element} {step : Step} {steps : List Step}

theorem read_of_skipped {f : Failure} (h : outcome step = .skipped f) :
    read consumer handed (step :: steps) =
      Reading.after (asking step ++ [.log (.skipped f)]) (read consumer handed steps) := by
  rw [read, h]

theorem read_of_fatal {f : Failure} (h : outcome step = .fatal f) :
    read consumer handed (step :: steps) =
      ⟨asking step ++ [hand consumer handed (.error f)], handed ++ [.error f], steps, true⟩ := by
  rw [read, h]

theorem read_of_goOn {m : Message} (h : outcome step = .message m) (ha : consumer handed (.ok m) = .goOn) :
    read consumer handed (step :: steps) =
      Reading.after (asking step ++ [.element (.ok m) .goOn]) (read consumer (handed ++ [.ok m]) steps) := by
  rw [read, h]
  simp only [ha]

theorem read_of_stop {m : Message} (h : outcome step = .message m) (ha : consumer handed (.ok m) = .stop) :
    read consumer handed (step :: steps) =
      ⟨asking step ++ [.element (.ok m) .stop, .log .stopped], handed ++ [.ok m], steps, true⟩ := by
  rw [read, h]
  simp only [ha]

end Steps

/-! ## A front of the steps -/

theorem ended_nil (consumer : Consumer) (handed : List Element) : ¬ Ended consumer handed [] := by
  rintro ⟨before, step, h, -⟩
  cases before <;> cases h

theorem ended_single {consumer : Consumer} {handed : List Element} {step : Step} (h : EndsAt consumer handed step) :
    Ended consumer handed [step] := ⟨[], step, rfl, by simpa using h⟩

theorem ended_cons {consumer : Consumer} {handed : List Element} {step : Step} (front : List Step)
    (h : ¬ EndsAt consumer handed step) :
    Ended consumer handed (step :: front) ↔ Ended consumer (handed ++ (given step).toList) front := by
  have hg : ∀ before : List Step, handed ++ (step :: before).filterMap given =
      handed ++ (given step).toList ++ before.filterMap given := by
    intro before
    cases hs : given step <;> simp [hs]
  constructor
  · rintro ⟨before, x, hs, hx⟩
    cases before with
    | nil =>
      obtain ⟨rfl, -⟩ := List.cons.inj hs
      exact absurd (by simpa using hx) h
    | cons y before =>
      obtain ⟨rfl, rfl⟩ := List.cons.inj hs
      exact ⟨before, x, rfl, hg before ▸ hx⟩
  · rintro ⟨before, x, rfl, hx⟩
    exact ⟨step :: before, x, rfl, (hg before).symm ▸ hx⟩

theorem Cut.nil (consumer : Consumer) (handed : List Element) : Cut consumer handed [] [] [] where
  split := rfl
  goesOn := fun before _ _ h _ => by cases before <;> cases h
  ended := fun h => absurd rfl h

theorem Cut.last {consumer : Consumer} {handed : List Element} {step : Step} (steps : List Step)
    (h : EndsAt consumer handed step) : Cut consumer handed (step :: steps) [step] steps where
  split := rfl
  goesOn := fun before _ behind hs hb => by
    cases before with
    | nil => exact absurd (List.cons.inj hs).2.symm hb
    | cons x before => cases before <;> cases (List.cons.inj hs).2
  ended := fun _ => ended_single h

theorem Cut.cons {consumer : Consumer} {handed : List Element} {step : Step} {steps front rest : List Step}
    (h : ¬ EndsAt consumer handed step) (hc : Cut consumer (handed ++ (given step).toList) steps front rest) :
    Cut consumer handed (step :: steps) (step :: front) rest where
  split := by rw [hc.split]; rfl
  goesOn := fun before x behind hs hb => by
    cases before with
    | nil =>
      obtain ⟨rfl, -⟩ := List.cons.inj hs
      simpa using h
    | cons y before =>
      obtain ⟨rfl, ht⟩ := List.cons.inj hs
      have := hc.goesOn before x behind ht hb
      cases hg : given step <;> simp_all
  ended := fun hr => (ended_cons front h).2 (hc.ended hr)

/-! ## A reading -/

/-- What a reading comes to: a cut of its steps, the elements that the front of them gives, and one question for each
step of the front, and one more where none of them ends the stream. -/
structure Handles (consumer : Consumer) (handed : List Element) (steps front : List Step) (r : Reading) : Prop where
  cut : Cut consumer handed steps front r.unread
  elements : elementsOf r.trace = front.filterMap given
  asked : r.trace.countP Event.isNext = front.length + if r.finished then 0 else 1
  finished : r.finished = true ↔ Ended consumer handed front

theorem Handles.cons {consumer : Consumer} {handed : List Element} {step : Step} {steps front : List Step}
    {r : Reading} {e : Event} (hr : Handles consumer (handed ++ (given step).toList) steps front r)
    (h : ¬ EndsAt consumer handed step) (he : elementsOf [e] = (given step).toList) (hn : e.isNext = false) :
    Handles consumer handed (step :: steps) (step :: front) (r.after (asking step ++ [e])) where
  cut := hr.cut.cons h
  elements := by
    rw [Reading.trace_after, elementsOf_append, elementsOf_append, elementsOf_asking, he, hr.elements]
    cases hg : given step <;> simp [hg]
  asked := by
    rw [Reading.trace_after, List.countP_append, List.countP_append, countP_isNext_asking, List.countP_singleton, hn,
      hr.asked, Reading.finished_after, List.length_cons, if_neg Bool.false_ne_true]
    omega
  finished := hr.finished.trans (ended_cons front h).symm

theorem Handles.last {consumer : Consumer} {handed : List Element} {step : Step} {given' : List Element}
    (steps : List Step) {es : List Event} (h : EndsAt consumer handed step) (he : elementsOf es = (given step).toList)
    (hn : es.countP Event.isNext = 0) :
    Handles consumer handed (step :: steps) [step] ⟨asking step ++ es, given', steps, true⟩ where
  cut := Cut.last steps h
  elements := by
    rw [elementsOf_append, elementsOf_asking, he]
    cases hg : given step <;> simp [hg]
  asked := by simp [hn]
  finished := iff_of_true rfl (ended_single h)

/-- **A reading handles a front of its steps.** -/
theorem read_handles (consumer : Consumer) (handed : List Element) (steps : List Step) :
    ∃ front, Handles consumer handed steps front (read consumer handed steps) := by
  -- along the reading: what a step gives decides whether it is the last one of the front
  fun_induction read consumer handed steps with
  | case1 handed =>
    exact ⟨[], Cut.nil consumer handed, rfl, rfl, iff_of_false Bool.false_ne_true (ended_nil consumer handed)⟩
  | case2 handed step steps f ho ih =>
    obtain ⟨front, hr⟩ := ih
    have hg := given_of_skipped ho
    exact ⟨step :: front, Handles.cons (by simpa [hg] using hr) (by simp [EndsAt, hg]) (by simp [hg]) rfl⟩
  | case3 handed step steps f ho =>
    have hg := given_of_fatal ho
    exact ⟨[step], Handles.last steps (by simp [EndsAt, hg]) (by simp [hg, hand]) rfl⟩
  | case4 handed step steps m ho ha ih =>
    obtain ⟨front, hr⟩ := ih
    have hg := given_of_message ho
    exact ⟨step :: front, Handles.cons (by simpa [hg] using hr) (by simp [EndsAt, hg, ha]) (by simp [hg]) rfl⟩
  | case5 handed step steps m ho ha =>
    have hg := given_of_message ho
    exact ⟨[step], Handles.last steps (by simp [EndsAt, hg, ha]) (by simp [hg]) rfl⟩

/-! ## A consumer that takes every element -/

/-- Elements up to the first failure among them. -/
def upToFailure : List Element → List Element
  | [] => []
  | .error e :: _ => [.error e]
  | .ok m :: es => .ok m :: upToFailure es

theorem upToFailure_map_ok (ms : List Message) : upToFailure (ms.map .ok) = ms.map .ok := by
  induction ms with
  | nil => rfl
  | cons m ms ih => rw [List.map_cons, upToFailure, ih]

def isFailure : Element → Bool
  | .error _ => true
  | .ok _ => false

/-- What the reading of a consumer that takes every element comes to. -/
structure TakesAll (steps : List Step) (r : Reading) : Prop where
  elements : elementsOf r.trace = upToFailure (steps.filterMap given)
  finished : r.finished = (steps.filterMap given).any isFailure
  unread : r.finished = false → r.unread = []

theorem TakesAll.after {steps : List Step} {r : Reading} {step : Step} {x : Event} (h : TakesAll steps r)
    (hx : elementsOf [x] = (given step).toList) (hf : (given step).all fun e => !isFailure e) :
    TakesAll (step :: steps) (r.after (asking step ++ [x])) where
  elements := by
    rw [Reading.trace_after, elementsOf_append, elementsOf_append, elementsOf_asking, hx, h.elements]
    match hg : given step with
    | none => simp [hg]
    | some (.ok m) => simp [hg, upToFailure]
    | some (.error e) =>
      rw [hg] at hf
      cases hf
  finished := by
    rw [Reading.finished_after, h.finished]
    cases hg : given step with
    | none => simp [hg]
    | some e =>
      rw [hg] at hf
      have he : isFailure e = false := by simpa using hf
      simp [hg, he]
  unread := h.unread

/-- **A consumer that takes every element is handed what the steps give, up to the first failure.** -/
theorem read_takesAll (handed : List Element) (steps : List Step) : TakesAll steps (read .eager handed steps) := by
  induction steps generalizing handed with
  | nil => exact ⟨rfl, rfl, fun _ => rfl⟩
  | cons step steps ih =>
    cases ho : outcome step with
    | skipped f =>
      have hg := given_of_skipped ho
      rw [read_of_skipped ho]
      exact (ih handed).after (by rw [hg]; rfl) (by rw [hg]; rfl)
    | fatal f =>
      have hg := given_of_fatal ho
      rw [read_of_fatal ho]
      refine ⟨?_, ?_, fun h => by cases h⟩
      · rw [elementsOf_append, elementsOf_asking, List.filterMap_cons_some hg]
        rfl
      · rw [List.filterMap_cons_some hg]
        rfl
    | message m =>
      have hg := given_of_message ho
      rw [read_of_goOn ho rfl]
      exact (ih _).after (by rw [hg]; rfl) (by rw [hg]; rfl)

/-! ## A stream -/

theorem run_of_fetch {answers : Answers} {count : UInt32} {fetch : Fetch} (hc : answers.count = .ok count)
    (hn : count ≠ 0) (hf : answers.fetch = .ok fetch) (waiting : List Step) (mailbox : String) (consumer : Consumer) :
    run answers waiting mailbox consumer =
      ⟨[.select mailbox, .log (.selected count), .log (.found count), .fetch .messages] ++
          ((read consumer [] fetch.steps).trace ++ releasing consumer fetch.release (read consumer [] fetch.steps)),
        (read consumer [] fetch.steps).unread⟩ := by
  simp only [run, hc, hn, hf, if_false, fetchRun]
  rfl

/-- Where what is left is read and dropped, the release hands out nothing: nothing is left of steps that were read to
their end, and where something is left the stream has ended. -/
theorem elementsOf_releasing_drains (handed : List Element) (steps : List Step) :
    elementsOf (releasing .eager .drains (read .eager handed steps)) = [] := by
  have htakes := read_takesAll handed steps
  cases hf : (read .eager handed steps).finished with
  | false =>
    rw [releasing, released, htakes.unread hf]
    rfl
  | true => exact elementsOf_releasing_of_finished .eager .drains hf

/-- **What a consumer that takes every element is handed of a FETCH**, where what is left is read and dropped. -/
theorem elements_run_drains {count : UInt32} (hn : count ≠ 0) (steps waiting : List Step) (mailbox : String) :
    (run ⟨.ok count, .ok ⟨steps, .drains⟩⟩ waiting mailbox .eager).elements = upToFailure (steps.filterMap given) := by
  show elementsOf (run _ _ _ _).trace = _
  rw [run_of_fetch rfl hn rfl, elementsOf_append, elementsOf_append, elementsOf_releasing_drains,
    (read_takesAll [] steps).elements, List.append_nil]
  rfl

/-- **What a stream hands out before it releases its FETCH**: what a front of the steps gives, in order, where the front
is cut behind the first step that ends the stream.  The steps behind the cut are left unread: each step of the front is
asked for once, and the end of the steps is asked for where none of them ends the stream. -/
theorem elements_beforeRelease (answers : Answers) (count : UInt32) (fetch : Fetch) (waiting : List Step)
    (mailbox : String) (consumer : Consumer) (hc : answers.count = .ok count) (hn : count ≠ 0)
    (hf : answers.fetch = .ok fetch) :
    ∃ front, Cut consumer [] fetch.steps front (run answers waiting mailbox consumer).unread ∧
      elementsOf (beforeRelease (run answers waiting mailbox consumer).trace) = front.filterMap given ∧
      (Ended consumer [] front → (run answers waiting mailbox consumer).trace.countP Event.isNext = front.length) ∧
      (¬ Ended consumer [] front →
        (run answers waiting mailbox consumer).trace.countP Event.isNext = front.length + 1) := by
  obtain ⟨front, hr⟩ := read_handles consumer [] fetch.steps
  rw [run_of_fetch hc hn hf]
  have hasked : ∀ opening : List Event, opening.countP Event.isNext = 0 →
      (opening ++ ((read consumer [] fetch.steps).trace ++ releasing consumer fetch.release
        (read consumer [] fetch.steps))).countP Event.isNext =
        front.length + if (read consumer [] fetch.steps).finished then 0 else 1 := by
    intro opening ho
    rw [List.countP_append, List.countP_append, ho, hr.asked, countP_isNext_releasing]
    omega
  refine ⟨front, hr.cut, ?_, fun h => ?_, fun h => ?_⟩
  · rw [releasing, ← List.append_assoc, beforeRelease_append_cons, elementsOf_append, hr.elements]
    · rfl
    · intro e hm
      rcases List.mem_append.1 hm with hm | hm
      · simp only [List.mem_cons, List.not_mem_nil, or_false] at hm
        rcases hm with rfl | rfl | rfl | rfl <;> rfl
      · exact (isNot_of_mem_read hm).2.2
  · rw [hasked _ rfl, if_pos (hr.finished.2 h)]
    rfl
  · rw [hasked _ rfl, if_neg fun hf => h (hr.finished.1 hf)]

/-- Two mails with a record without an ENVELOPE between them, and a record without a body behind the second: the last
step is left unread. -/
theorem elements_beforeRelease_of_missingBody :
    let blank : Envelope := ⟨none, none, [], [], [], [], none⟩
    let fetch : Fetch := ⟨[.ok ⟨1, some blank, some [65]⟩, .ok ⟨2, none, none⟩, .ok ⟨3, some blank, some [66]⟩,
      .ok ⟨4, some blank, none⟩, .ok ⟨5, some blank, some [67]⟩], .drains⟩
    let answers : Answers := ⟨.ok 5, .ok fetch⟩
    let r := run answers [] "INBOX" .eager
    r.unread.length = 1 ∧
      ∃ front, Cut .eager [] fetch.steps front r.unread ∧
        elementsOf (beforeRelease r.trace) = front.filterMap given ∧
        (Ended .eager [] front → r.trace.countP Event.isNext = front.length) ∧
        (¬ Ended .eager [] front → r.trace.countP Event.isNext = front.length + 1) := by
  intro blank fetch answers r
  have hleft : r.unread.length = 1 := by
    simp [r, answers, fetch, run, fetchRun, read, outcome, Message.ofRecord, Outcome.ofFailure, Failure.classify,
      Consumer.eager]
  exact ⟨hleft, elements_beforeRelease answers 5 fetch [] "INBOX" .eager rfl (by decide) rfl⟩

end Stream
end Postbag
