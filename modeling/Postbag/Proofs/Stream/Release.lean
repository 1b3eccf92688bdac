import Postbag.Proofs.Stream.Delivery
/-!
# Release — what a stream read, and what its release dropped

Of the steps of a FETCH each is asked for or left unread, and a release that reads on drops what was left unread.  Both
can be counted in the trace: a question that brought a step does not stand directly before the release, and the release
tells the log how many steps it dropped, if it dropped any.
-/
namespace Postbag

def Event.dropped : Event → Nat
  | .log (.discarded n) => n
  | _ => 0

/-- **The questions that brought a step**: a question that did not stands directly before the release. -/
def pulled : List Event → Nat
  | [] => 0
  | e :: t => pulled t + if e.isNext && !t.head?.any Event.isRelease then 1 else 0

def dropped : List Event → Nat
  | [] => 0
  | e :: t => e.dropped + dropped t

theorem dropped_append (s t : List Event) : dropped (s ++ t) = dropped s + dropped t := by
  induction s with
  | nil => exact (Nat.zero_add _).symm
  | cons e s ih =>
    rw [List.cons_append, dropped, dropped, ih]
    omega

theorem pulled_append {s : List Event} (h : ∀ e ∈ s, e.isNext = false) (t : List Event) : pulled (s ++ t) = pulled t := by
  induction s with
  | nil => rfl
  | cons e s ih =>
    rw [List.cons_append, pulled, ih fun x hx => h x (List.mem_cons_of_mem _ hx), h e List.mem_cons_self]
    rfl

namespace Stream

theorem dropped_eq_zero {t : List Event} (h : ∀ e ∈ t, e.dropped = 0) : dropped t = 0 := by
  induction t with
  | nil => rfl
  | cons e t ih =>
    rw [dropped, h e List.mem_cons_self, ih fun x hx => h x (List.mem_cons_of_mem _ hx)]

/-! ## What is pulled -/

/-- The question for a step brought it, because something stands before the release. -/
theorem pulled_asking (step : Step) {x : Event} (hx : x.isRelease = false) (hn : x.isNext = false) (t : List Event) :
    pulled (asking step ++ [x] ++ t) = pulled t + 1 := by
  have hlogs : ∀ e ∈ (stepLog step).map Event.log ++ [x], e.isNext = false ∧ e.isRelease = false := by
    intro e he
    rcases List.mem_append.1 he with he | he
    · obtain ⟨l, -, rfl⟩ := List.mem_map.1 he
      exact ⟨rfl, rfl⟩
    · rw [List.mem_singleton.1 he]
      exact ⟨hn, hx⟩
  have hhead : ((stepLog step).map Event.log ++ [x] ++ t).head?.any Event.isRelease = false := by
    cases hl : (stepLog step).map Event.log with
    | nil => simpa using hx
    | cons e es =>
      rw [hl] at hlogs
      simpa using (hlogs e (by simp)).2
  rw [asking, List.cons_append, List.cons_append, pulled, hhead, pulled_append fun e he => (hlogs e he).1]
  rfl

/-- **Each step is pulled or left unread.** -/
theorem pulled_read (consumer : Consumer) (handed : List Element) (steps : List Step) (t : List Event) :
    pulled ((read consumer handed steps).trace ++ .release :: t) + (read consumer handed steps).unread.length =
      steps.length + pulled t := by
  have hrelease : pulled (.release :: t) = pulled t := rfl
  fun_induction read consumer handed steps with
  | case1 handed => simp [pulled, Event.isNext, Event.isRelease]
  | case2 handed step steps f ho ih =>
    rw [Reading.trace_after, List.append_assoc, pulled_asking step rfl rfl, Reading.unread_after, List.length_cons]
    omega
  | case3 handed step steps f ho =>
    rw [pulled_asking step rfl rfl, hrelease, List.length_cons]
    show pulled t + 1 + steps.length = _
    omega
  | case4 handed step steps m ho ha ih =>
    rw [Reading.trace_after, List.append_assoc, pulled_asking step rfl rfl, Reading.unread_after, List.length_cons]
    omega
  | case5 handed step steps m ho ha =>
    -- the log of the stop stands between the message and the release
    have hlog : pulled (.log .stopped :: .release :: t) = pulled t := rfl
    have hcut : asking step ++ [.element (.ok m) .stop, .log .stopped] ++ .release :: t =
        asking step ++ [.element (.ok m) .stop] ++ .log .stopped :: .release :: t := by simp
    rw [hcut, pulled_asking step rfl rfl, hlog, List.length_cons]
    show pulled t + 1 + steps.length = _
    omega

/-! ## What is dropped -/

theorem dropped_read (consumer : Consumer) (handed : List Element) (steps : List Step) :
    dropped (read consumer handed steps).trace = 0 := by
  refine dropped_eq_zero fun e he => ?_
  rcases mem_read he with rfl | ⟨l, rfl⟩ | ⟨x, a, rfl⟩
  · rfl
  · have htold := tellsOfStep_of_mem_read he
    cases l with
    | discarded n => cases htold
    | _ => rfl
  · rfl

theorem drain_eq {steps : List Step} (h : ∀ x ∈ steps, ∃ r, x = .ok r) : drain steps = .ok steps.length := by
  induction steps with
  | nil => rfl
  | cons x steps ih =>
    obtain ⟨r, rfl⟩ := h x List.mem_cons_self
    rw [drain, ih fun y hy => h y (List.mem_cons_of_mem _ hy)]
    rfl

theorem releasing_of_drained (consumer : Consumer) {r : Reading} (h : ∀ x ∈ r.unread, ∃ record, x = .ok record) :
    ∃ t, releasing consumer .drains r = .release :: t ∧ pulled t = 0 ∧ dropped t = r.unread.length := by
  rw [releasing, released, drain_eq h]
  cases hn : r.unread.length with
  | zero => exact ⟨[], rfl, rfl, rfl⟩
  | succ n => exact ⟨[.log (.discarded (n + 1))], rfl, rfl, rfl⟩

/-- **Each step of a FETCH is pulled or dropped**, where no step fails and its release reads on. -/
theorem pulled_add_dropped (consumer : Consumer) {steps : List Step} (h : ∀ x ∈ steps, ∃ r, x = .ok r) :
    pulled (fetchRun consumer ⟨steps, .drains⟩).trace + dropped (fetchRun consumer ⟨steps, .drains⟩).trace =
      steps.length := by
  obtain ⟨front, hr⟩ := read_handles consumer [] steps
  obtain ⟨t, ht, hp, hd⟩ := releasing_of_drained consumer (r := read consumer [] steps) fun x hx =>
    h x (hr.cut.split ▸ List.mem_append_right front hx)
  have hpulled := pulled_read consumer [] steps t
  have hrelease : dropped (.release :: t) = dropped t := Nat.zero_add _
  have htrace : (fetchRun consumer ⟨steps, .drains⟩).trace = (read consumer [] steps).trace ++ .release :: t := by
    rw [← ht]
    rfl
  rw [htrace, dropped_append, dropped_read, hrelease, hd]
  omega

end Stream
end Postbag
