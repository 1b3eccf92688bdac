import Postbag.Stream
/-!
# Events — what a trace is made of

A trace holds three kinds of events: questions to the session, elements with the answer of the consumer, and the log.
What is said of a trace later is said through these views of its events: which question an event is, which element it
hands out, and whether the consumer can take anything behind it.
-/
namespace Postbag

namespace Event

def isSelect : Event → Bool
  | .select _ => true
  | _ => false

def isFetch : Event → Bool
  | .fetch _ => true
  | _ => false

def isNext : Event → Bool
  | .next => true
  | _ => false

def isRelease : Event → Bool
  | .release => true
  | _ => false

def isElement : Event → Bool
  | .element _ _ => true
  | _ => false

def isLog : Event → Bool
  | .log _ => true
  | _ => false

/-- **The consumer takes nothing behind it**: a failure, or an element that it answered with `stop`. -/
def isFinal : Event → Bool
  | .element (.error _) _ => true
  | .element _ .stop => true
  | _ => false

def isReleaseFailure : Event → Bool
  | .element (.error (.release _ _)) _ => true
  | _ => false

end Event

/-- Whether an entry is one that the reading of steps writes. -/
def LogEntry.tellsOfStep : LogEntry → Bool
  | .badDate _ | .fetched _ _ | .skipped _ | .stopped => true
  | _ => false

def elementsOf (t : List Event) : List Element := t.filterMap Event.element?

@[simp] theorem elementsOf_append (s t : List Event) : elementsOf (s ++ t) = elementsOf s ++ elementsOf t :=
  List.filterMap_append

@[simp] theorem elementsOf_nil : elementsOf [] = [] := rfl
@[simp] theorem elementsOf_release (t : List Event) : elementsOf (.release :: t) = elementsOf t := rfl
@[simp] theorem elementsOf_log (l : LogEntry) (t : List Event) : elementsOf (.log l :: t) = elementsOf t := rfl
@[simp] theorem elementsOf_element (e : Element) (a : Flow) (t : List Event) :
    elementsOf (.element e a :: t) = e :: elementsOf t := rfl

@[simp] theorem elementsOf_logs (logs : List LogEntry) : elementsOf (logs.map Event.log) = [] := by
  induction logs with
  | nil => rfl
  | cons l logs ih => exact ih

/-- The trace up to its first release. -/
def beforeRelease (t : List Event) : List Event := t.takeWhile fun e => !e.isRelease

theorem beforeRelease_append_cons {s t : List Event} (hs : ∀ e ∈ s, e.isRelease = false) :
    beforeRelease (s ++ .release :: t) = s := by
  rw [beforeRelease, List.takeWhile_append_of_pos (by simpa using hs)]
  simp [Event.isRelease]

@[simp] theorem Reading.trace_after (es : List Event) (r : Reading) : (r.after es).trace = es ++ r.trace := rfl
@[simp] theorem Reading.unread_after (es : List Event) (r : Reading) : (r.after es).unread = r.unread := rfl
@[simp] theorem Reading.finished_after (es : List Event) (r : Reading) : (r.after es).finished = r.finished := rfl

namespace Stream

theorem mem_asking {step : Step} {e : Event} (h : e ∈ asking step) : e = .next ∨ ∃ l, e = .log l := by
  rcases List.mem_cons.1 h with rfl | h
  · exact .inl rfl
  · obtain ⟨l, -, rfl⟩ := List.mem_map.1 h
    exact .inr ⟨l, rfl⟩

@[simp] theorem elementsOf_asking (step : Step) : elementsOf (asking step) = [] := by
  rw [elementsOf, List.filterMap_eq_nil_iff]
  intro e he
  rcases mem_asking he with rfl | ⟨l, rfl⟩ <;> rfl

@[simp] theorem countP_isNext_asking (step : Step) : (asking step).countP Event.isNext = 1 := by
  have hlog : ((stepLog step).map Event.log).countP Event.isNext = 0 := by
    rw [List.countP_eq_zero]
    intro e he
    obtain ⟨l, -, rfl⟩ := List.mem_map.1 he
    exact Bool.false_ne_true
  rw [asking, List.countP_cons, hlog]
  rfl

/-- **A reading asks for steps, hands out elements and writes the log**, and does nothing else. -/
theorem mem_read {consumer : Consumer} {handed : List Element} {steps : List Step} {e : Event}
    (h : e ∈ (read consumer handed steps).trace) : e = .next ∨ (∃ l, e = .log l) ∨ ∃ x a, e = .element x a := by
  have hask : ∀ step, e ∈ asking step → e = .next ∨ (∃ l, e = .log l) ∨ ∃ x a, e = .element x a :=
    fun step ha => (mem_asking ha).imp_right .inl
  fun_induction read consumer handed steps with
  | case1 handed => exact .inl (List.mem_singleton.1 h)
  | case2 handed step steps f _ ih =>
    simp only [Reading.trace_after, List.append_assoc, List.mem_append, List.mem_singleton] at h
    rcases h with h | rfl | h
    · exact hask step h
    · exact .inr (.inl ⟨_, rfl⟩)
    · exact ih h
  | case3 handed step steps f =>
    simp only [List.mem_append, List.mem_singleton] at h
    rcases h with h | rfl
    · exact hask step h
    · exact .inr (.inr ⟨_, _, rfl⟩)
  | case4 handed step steps m _ _ ih =>
    simp only [Reading.trace_after, List.append_assoc, List.mem_append, List.mem_singleton] at h
    rcases h with h | rfl | h
    · exact hask step h
    · exact .inr (.inr ⟨_, _, rfl⟩)
    · exact ih h
  | case5 handed step steps m =>
    simp only [List.mem_append, List.mem_cons, List.not_mem_nil, or_false] at h
    rcases h with h | rfl | rfl
    · exact hask step h
    · exact .inr (.inr ⟨_, _, rfl⟩)
    · exact .inr (.inl ⟨_, rfl⟩)

theorem tellsOfStep_of_mem_stepLog {step : Step} {l : LogEntry} (h : l ∈ stepLog step) : l.tellsOfStep = true := by
  cases step with
  | error e => cases h
  | ok r =>
    rw [stepLog, Record.log] at h
    split at h
    · cases h
    split at h
    · cases h
    rename_i envelope _
    rcases List.mem_append.1 h with h | h
    · rw [Envelope.log] at h
      split at h
      · cases h
      split at h
      · rw [List.mem_singleton.1 h]
        rfl
      · cases h
    · rw [List.mem_singleton.1 h]
      rfl

theorem tellsOfStep_of_mem_asking {step : Step} {l : LogEntry} (h : .log l ∈ asking step) : l.tellsOfStep = true := by
  obtain ⟨l', hl, he⟩ := List.mem_map.1 ((List.mem_cons.1 h).resolve_left nofun)
  cases he
  exact tellsOfStep_of_mem_stepLog hl

/-- **The log of a reading tells of its steps**, and of nothing else. -/
theorem tellsOfStep_of_mem_read {consumer : Consumer} {handed : List Element} {steps : List Step} {l : LogEntry}
    (h : .log l ∈ (read consumer handed steps).trace) : l.tellsOfStep = true := by
  fun_induction read consumer handed steps with
  | case1 handed => cases List.mem_singleton.1 h
  | case2 handed step steps f _ ih =>
    rw [Reading.trace_after, List.append_assoc, List.mem_append, List.mem_append, List.mem_singleton] at h
    rcases h with h | h | h
    · exact tellsOfStep_of_mem_asking h
    · cases h
      rfl
    · exact ih h
  | case3 handed step steps f =>
    rw [List.mem_append, List.mem_singleton] at h
    rcases h with h | h
    · exact tellsOfStep_of_mem_asking h
    · cases h
  | case4 handed step steps m _ _ ih =>
    rw [Reading.trace_after, List.append_assoc, List.mem_append, List.mem_append, List.mem_singleton] at h
    rcases h with h | h | h
    · exact tellsOfStep_of_mem_asking h
    · cases h
    · exact ih h
  | case5 handed step steps m =>
    simp only [List.mem_append, List.mem_cons, List.not_mem_nil, or_false] at h
    rcases h with h | h | h
    · exact tellsOfStep_of_mem_asking h
    · cases h
    · cases h
      rfl

theorem isNot_of_mem_read {consumer : Consumer} {handed : List Element} {steps : List Step} {e : Event}
    (h : e ∈ (read consumer handed steps).trace) :
    e.isSelect = false ∧ e.isFetch = false ∧ e.isRelease = false := by
  rcases mem_read h with rfl | ⟨l, rfl⟩ | ⟨x, a, rfl⟩ <;> exact ⟨rfl, rfl, rfl⟩

/-- **The events of a release**: behind it stands the log, and then its own failure, if the consumer can take one.  What
the consumer answers plays no part in them. -/
theorem releasing_cases (release : Release) (r : Reading) :
    (∃ logs : List LogEntry, ∀ consumer, releasing consumer release r = .release :: logs.map Event.log) ∨
      r.finished = false ∧ ∃ (logs : List LogEntry) (malformed : Bool) (e : Failure), ∀ consumer,
        releasing consumer release r =
          .release :: logs.map Event.log ++ [hand consumer r.handed (.error (.release malformed e))] := by
  cases hr : released release r.unread with
  | ok n =>
    cases n with
    | zero => exact .inl ⟨[], fun consumer => by rw [releasing, hr]; rfl⟩
    | succ n => exact .inl ⟨[.discarded (n + 1)], fun consumer => by rw [releasing, hr]; rfl⟩
  | error e =>
    cases hf : r.finished with
    | true =>
      exact .inl ⟨[.releaseFailed e.isMalformed e], fun consumer => by simp [releasing, hr, releaseFailure, hf]⟩
    | false =>
      refine .inr ⟨rfl, if e.isMalformed then [.releaseFailed e.isMalformed e] else [], e.isMalformed, e,
        fun consumer => ?_⟩
      cases hm : e.isMalformed <;> simp [releasing, hr, releaseFailure, hf, hm]

theorem elementsOf_releasing_of_finished (consumer : Consumer) (release : Release) {r : Reading}
    (h : r.finished = true) : elementsOf (releasing consumer release r) = [] := by
  rcases releasing_cases release r with ⟨logs, hr⟩ | ⟨hf, -⟩
  · rw [hr, elementsOf_release, elementsOf_logs]
  · rw [h] at hf
    cases hf

theorem releasing_eq (consumer : Consumer) (release : Release) (r : Reading) :
    ∃ (logs : List LogEntry) (handed : List Event),
      releasing consumer release r = .release :: (logs.map Event.log ++ handed) ∧
      (handed = [] ∨ r.finished = false ∧ ∃ malformed e a, handed = [.element (.error (.release malformed e)) a]) := by
  rcases releasing_cases release r with ⟨logs, hr⟩ | ⟨hf, logs, malformed, e, hr⟩
  · exact ⟨logs, [], by rw [hr, List.append_nil], .inl rfl⟩
  · exact ⟨logs, _, hr consumer, .inr ⟨hf, malformed, e, _, rfl⟩⟩

theorem mem_releasing {consumer : Consumer} {release : Release} {r : Reading} {e : Event}
    (h : e ∈ releasing consumer release r) :
    e = .release ∨ (∃ l, e = .log l) ∨ ∃ malformed f a, e = .element (.error (.release malformed f)) a := by
  obtain ⟨logs, handed, heq, hh⟩ := releasing_eq consumer release r
  rw [heq, List.mem_cons, List.mem_append] at h
  rcases h with rfl | h | h
  · exact .inl rfl
  · obtain ⟨l, -, rfl⟩ := List.mem_map.1 h
    exact .inr (.inl ⟨l, rfl⟩)
  · rcases hh with rfl | ⟨-, malformed, f, a, rfl⟩
    · cases h
    · exact .inr (.inr ⟨malformed, f, a, List.mem_singleton.1 h⟩)

theorem countP_isNext_releasing (consumer : Consumer) (release : Release) (r : Reading) :
    (releasing consumer release r).countP Event.isNext = 0 := by
  rw [List.countP_eq_zero]
  intro e he
  rcases mem_releasing he with rfl | ⟨l, rfl⟩ | ⟨malformed, f, a, rfl⟩ <;> exact Bool.false_ne_true

end Stream
end Postbag
