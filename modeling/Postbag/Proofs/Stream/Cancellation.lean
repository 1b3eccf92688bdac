import Postbag.Proofs.Stream.Protocol
/-!
# Cancellation — the stream of a consumer that stops, beside that of one that does not

A consumer that stops at an element is handed what it would have been handed anyway, up to that element, and its stream
takes the same course up to there (`LeavesAt`).  Behind a message that it stops at, its FETCH is released and nothing
else happens: no step is read, and a failure of the release is handed to nobody.
-/
namespace Postbag

def Event.isQuestion : Event → Bool
  | .select _ | .fetch _ | .next | .release => true
  | _ => false

namespace Stream

/-- **A stream that is stopped at an element leaves the course of the whole stream there**, and takes it up to there. -/
structure LeavesAt (steps : List Step) (whole cut : Run) (before : List Event) (e : Element) : Prop where
  goesOn : ∃ behind, whole.trace = before ++ .element e .goOn :: behind
  stops : ∃ behind, cut.trace = before ++ .element e .stop :: behind ∧ elementsOf behind = [] ∧
    ∀ m, e = .ok m → behind.filter Event.isQuestion = [.release]
  /-- The steps behind that of a message are left unread; those before it gave the elements before it. -/
  unread : ∀ m, e = .ok m → ∃ front step, steps = front ++ step :: cut.unread ∧
    front.filterMap given = elementsOf before ∧ given step = some e

/-! ## The steps of a FETCH -/

theorem stopAt_eq (k : Nat) (handed : List Element) (e : Element) :
    Consumer.stopAt (some (k + 1)) handed e = if handed.length = k then .stop else .goOn := by
  simp [Consumer.stopAt]

def stopLog : Element → List Event
  | .ok _ => [.log .stopped]
  | .error _ => []

/-- A reading that is stopped leaves the course of the whole reading. -/
structure ReadingLeavesAt (steps : List Step) (whole cut : Reading) (before : List Event) (e : Element) : Prop where
  goesOn : ∃ behind, whole.trace = before ++ .element e .goOn :: behind
  stops : cut.trace = before ++ .element e .stop :: stopLog e
  finished : cut.finished = true
  unread : ∃ front step, steps = front ++ step :: cut.unread ∧ front.filterMap given = elementsOf before ∧
    given step = some e

theorem ReadingLeavesAt.after {steps : List Step} {whole cut : Reading} {before : List Event} {e : Element}
    (h : ReadingLeavesAt steps whole cut before e) (step : Step) {x : Event}
    (hx : elementsOf [x] = (given step).toList) :
    ReadingLeavesAt (step :: steps) (whole.after (asking step ++ [x])) (cut.after (asking step ++ [x]))
      (asking step ++ [x] ++ before) e where
  goesOn := by
    obtain ⟨behind, hb⟩ := h.goesOn
    exact ⟨behind, by rw [Reading.trace_after, hb, ← List.append_assoc]⟩
  stops := by rw [Reading.trace_after, h.stops, ← List.append_assoc]
  finished := h.finished
  unread := by
    obtain ⟨front, last, hs, hg, he⟩ := h.unread
    refine ⟨step :: front, last, by rw [hs]; rfl, ?_, he⟩
    rw [elementsOf_append, elementsOf_append, elementsOf_asking, hx, ← hg]
    cases hgiven : given step <;> simp [hgiven]

/-- **A reading keeps the elements that it hands out.** -/
theorem handed_read (consumer : Consumer) (handed : List Element) (steps : List Step) :
    (read consumer handed steps).handed = handed ++ elementsOf (read consumer handed steps).trace := by
  fun_induction read consumer handed steps with
  | case1 handed => exact (List.append_nil handed).symm
  | case2 handed step steps f ho ih =>
    show (read consumer handed steps).handed = _
    simp [ih]
  | case3 handed step steps f ho => simp [hand]
  | case4 handed step steps m ho ha ih =>
    show (read consumer (handed ++ [.ok m]) steps).handed = _
    simp [ih]
  | case5 handed step steps m ho ha => simp

/-- **A reading that may be stopped** is the whole reading, where that hands out too few elements to be stopped, or else
leaves its course at the element at which it is stopped. -/
theorem read_stopAt (k : Nat) (handed : List Element) (steps : List Step) (h : handed.length ≤ k) :
    (read (.stopAt (some (k + 1))) handed steps = read .eager handed steps ∧
      (read .eager handed steps).handed.length ≤ k) ∨
    ∃ before e, handed.length + (elementsOf before).length = k ∧
      ReadingLeavesAt steps (read .eager handed steps) (read (.stopAt (some (k + 1))) handed steps) before e := by
  -- on the steps: up to the element at which it is stopped, the reading treats each as the whole reading does
  induction steps generalizing handed with
  | nil => exact .inl ⟨rfl, h⟩
  | cons step steps ih =>
    cases ho : outcome step with
    | skipped f =>
      have hg : elementsOf [.log (.skipped f)] = (given step).toList := by rw [given_of_skipped ho]; rfl
      rw [read_of_skipped ho, read_of_skipped ho]
      rcases ih handed h with ⟨heq, hle⟩ | ⟨before, e, hlen, hl⟩
      · exact .inl ⟨by rw [heq], hle⟩
      · exact .inr ⟨_, e, by simpa using hlen, hl.after step hg⟩
    | fatal f =>
      rw [read_of_fatal ho, read_of_fatal ho, hand, hand, stopAt_eq]
      by_cases hk : handed.length = k
      · refine .inr ⟨asking step, .error f, by simpa using hk, ⟨[], rfl⟩, ?_, rfl, [], step, rfl, ?_, given_of_fatal ho⟩
        · rw [if_pos hk]
          rfl
        · exact (elementsOf_asking step).symm
      · rw [if_neg hk]
        refine .inl ⟨rfl, ?_⟩
        rw [List.length_append, List.length_singleton]
        omega
    | message m =>
      have heager : Consumer.eager handed (.ok m) = .goOn := rfl
      rw [read_of_goOn ho heager]
      by_cases hk : handed.length = k
      · rw [read_of_stop ho (by rw [stopAt_eq, if_pos hk])]
        refine .inr ⟨asking step, .ok m, by simpa using hk,
          ⟨(read .eager (handed ++ [.ok m]) steps).trace, ?_⟩, rfl, rfl, [], step, rfl, ?_, given_of_message ho⟩
        · rw [Reading.trace_after, List.append_assoc]
          rfl
        · exact (elementsOf_asking step).symm
      · have hg : elementsOf [.element (.ok m) .goOn] = (given step).toList := by rw [given_of_message ho]; rfl
        have hlen : (handed ++ [(.ok m : Element)]).length ≤ k := by
          rw [List.length_append, List.length_singleton]
          omega
        rw [read_of_goOn ho (by rw [stopAt_eq, if_neg hk])]
        rcases ih (handed ++ [.ok m]) hlen with ⟨heq, hle⟩ | ⟨before, e, hlen, hl⟩
        · exact .inl ⟨by rw [heq], hle⟩
        · refine .inr ⟨_, e, ?_, hl.after step hg⟩
          rw [List.length_append, List.length_singleton] at hlen
          rw [elementsOf_append, elementsOf_append, elementsOf_asking, List.length_append, List.length_append]
          simpa using by omega

/-! ## A stream -/

theorem filter_isQuestion_logs (logs : List LogEntry) : (logs.map Event.log).filter Event.isQuestion = [] := by
  induction logs with
  | nil => rfl
  | cons l logs ih => exact ih

/-- A course that is stopped is the whole course, or leaves it at the element behind `k` others. -/
def SameOrLeaves (k : Nat) (steps : List Step) (whole cut : Run) : Prop :=
  cut = whole ∧ (elementsOf whole.trace).length ≤ k ∨
    ∃ before e, (elementsOf before).length = k ∧ LeavesAt steps whole cut before e

theorem sameOrLeaves_of_failure {k : Nat} {opening : List Event} {handed : List Element} (hlen : handed.length ≤ k)
    (ho : elementsOf opening = handed) (steps unread : List Step) (f : Failure) :
    SameOrLeaves k steps ⟨opening ++ [hand .eager handed (.error f)], unread⟩
      ⟨opening ++ [hand (.stopAt (some (k + 1))) handed (.error f)], unread⟩ := by
  rw [hand, hand, stopAt_eq]
  by_cases hk : handed.length = k
  · rw [if_pos hk]
    exact .inr ⟨opening, .error f, by rw [ho, hk], ⟨[], rfl⟩, ⟨[], rfl, rfl, fun m h => by cases h⟩,
      fun m h => by cases h⟩
  · rw [if_neg hk]
    refine .inl ⟨rfl, ?_⟩
    rw [elementsOf_append, ho, List.length_append]
    show handed.length + 1 ≤ k
    omega

theorem sameOrLeaves_of_fetch (k : Nat) {opening : List Event} (ho : elementsOf opening = []) (fetch : Fetch) :
    let course (consumer : Consumer) : Run :=
      ⟨opening ++ ((read consumer [] fetch.steps).trace ++
        releasing consumer fetch.release (read consumer [] fetch.steps)), (read consumer [] fetch.steps).unread⟩
    SameOrLeaves k fetch.steps (course .eager) (course (.stopAt (some (k + 1)))) := by
  intro course
  have hhanded := handed_read .eager [] fetch.steps
  rw [List.nil_append] at hhanded
  rcases read_stopAt k [] fetch.steps (Nat.zero_le k) with ⟨heq, hle⟩ | ⟨before, e, hlen, hl⟩
  · -- the steps are read alike, and it may be the failure of the release that is stopped at
    simp only [course, heq]
    rcases releasing_cases fetch.release (read .eager [] fetch.steps) with ⟨logs, hr⟩ | ⟨-, logs, malformed, f, hr⟩
    · refine .inl ⟨by rw [hr, hr], ?_⟩
      show (elementsOf (opening ++ (_ ++ releasing _ _ _))).length ≤ k
      simpa [hr, ho, ← hhanded] using hle
    · simp only [hr, ← List.append_assoc]
      exact sameOrLeaves_of_failure hle (by simp [ho, ← hhanded]) fetch.steps _ (.release malformed f)
  · obtain ⟨behind, hgoesOn⟩ := hl.goesOn
    obtain ⟨logs, hr⟩ : ∃ logs : List LogEntry, ∀ consumer, releasing consumer fetch.release
        (read (.stopAt (some (k + 1))) [] fetch.steps) = .release :: logs.map Event.log := by
      rcases releasing_cases fetch.release (read (.stopAt (some (k + 1))) [] fetch.steps) with h | ⟨hf, -⟩
      · exact h
      · rw [hl.finished] at hf
        cases hf
    refine .inr ⟨opening ++ before, e, by simpa [ho] using hlen,
      ⟨behind ++ releasing .eager fetch.release (read .eager [] fetch.steps), ?_⟩,
      ⟨stopLog e ++ .release :: logs.map Event.log, ?_, ?_, fun m hm => ?_⟩, fun m hm => ?_⟩
    · simp only [course, hgoesOn, List.append_assoc, List.cons_append]
    · simp only [course, hl.stops, hr, List.append_assoc, List.cons_append]
    · cases e <;> simp [stopLog]
    · rw [hm]
      show (Event.log .stopped :: .release :: logs.map Event.log).filter Event.isQuestion = _
      rw [List.filter_cons_of_neg Bool.false_ne_true, List.filter_cons_of_pos rfl, filter_isQuestion_logs]
    · simpa [ho] using hl.unread

theorem run_sameOrLeaves (answers : Answers) (waiting : List Step) (mailbox : String) (k : Nat) :
    SameOrLeaves k answers.steps (run answers waiting mailbox .eager)
      (run answers waiting mailbox (.stopAt (some (k + 1)))) := by
  obtain ⟨opening, ho, -, ⟨-, hrun | ⟨e, hrun⟩⟩ | ⟨fetch, hb, hrun⟩⟩ := run_cases answers waiting mailbox
  · rw [hrun, hrun]
    exact .inl ⟨rfl, by rw [ho]; exact Nat.zero_le k⟩
  · rw [hrun, hrun]
    exact sameOrLeaves_of_failure (Nat.zero_le k) ho _ _ _
  · have hsteps : answers.steps = fetch.steps := by rw [Answers.steps, hb]; rfl
    rw [hrun, hrun, hsteps]
    exact sameOrLeaves_of_fetch k ho fetch

/-- **A consumer that stops is handed a front of what it would have been handed.**  The stream of the one that stops at
the element behind `k` others takes the course of the whole stream up to that element, and is the whole stream where
there is none.  Behind a message that it stops at, the FETCH is released and nothing else is asked for, nothing is
handed out, and the steps that are left unread are those behind the message's. -/
theorem run_stopAt (answers : Answers) (waiting : List Step) (mailbox : String) (k : Nat) :
    let whole := run answers waiting mailbox .eager
    let cut := run answers waiting mailbox (.stopAt (some (k + 1)))
    cut.elements = whole.elements.take (k + 1) ∧
      match whole.elements[k]? with
      | none => cut = whole
      | some e => ∃ before, elementsOf before = whole.elements.take k ∧ LeavesAt answers.steps whole cut before e := by
  intro whole cut
  rcases run_sameOrLeaves answers waiting mailbox k with ⟨heq, hle⟩ | ⟨before, e, hlen, hl⟩
  · have hnone : whole.elements[k]? = none := List.getElem?_eq_none hle
    have hall : whole.elements.take (k + 1) = whole.elements := List.take_of_length_le (Nat.le_succ_of_le hle)
    rw [hnone, hall]
    exact ⟨congrArg Run.elements heq, heq⟩
  · obtain ⟨behind, hgoesOn⟩ := hl.goesOn
    obtain ⟨behind', hstops, hnothing, -⟩ := hl.stops
    have hwhole : whole.elements = elementsOf before ++ e :: elementsOf behind := by
      show elementsOf whole.trace = _
      rw [hgoesOn, elementsOf_append, elementsOf_element]
    have hcut : cut.elements = elementsOf before ++ [e] := by
      show elementsOf cut.trace = _
      rw [hstops, elementsOf_append, elementsOf_element, hnothing]
    subst hlen
    rw [hwhole, hcut]
    refine ⟨by simp [List.take_append, List.take_of_length_le], ?_⟩
    simp only [List.getElem?_append_right (Nat.le_refl _), Nat.sub_self, List.getElem?_cons_zero]
    exact ⟨before, by simp, hl⟩

end Stream
end Postbag
