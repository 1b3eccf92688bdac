import Postbag.Proofs.Failure.Wrapping
import Postbag.Proofs.Stream.Protocol
/-!
# FailedRelease — how the failure of a release is told

A release comes last, so its failure changes nothing that a stream did before.  A consumer that can take another element
is handed it; one that cannot is not, and the log tells of it instead.  The log tells of it as well where it looks like
a malformed ENVELOPE, which is what the failure that is handed out says of itself.
-/
namespace Postbag

/-- A warning that a release failed, known by its words. -/
def Event.warnsOfRelease : Event → Bool
  | .log l => l.level = .warn && Text.startsWith "releasing fetch command failed".toList l.message.toList
  | _ => false

/-- The same answers, but for the release of a FETCH: it succeeds. -/
def Answers.releasing (a : Answers) : Answers :=
  { a with fetch := a.fetch.map fun f => { f with release := .ends (.ok ()) } }

namespace Answers

theorem cases_of_begun {a : Answers} {fetch : Fetch} (h : a.begun = some fetch) :
    ∃ count, a.count = .ok count ∧ count ≠ 0 ∧ a.fetch = .ok fetch := by
  cases hh : a.holds with
  | false =>
    rw [begun, hh] at h
    cases h
  | true =>
    obtain ⟨count, hc, hn⟩ := count_of_holds hh
    rw [begun, hh, if_pos rfl] at h
    cases hf : a.fetch with
    | error e =>
      rw [hf] at h
      cases h
    | ok f =>
      rw [hf] at h
      cases h
      exact ⟨count, hc, hn, rfl⟩

theorem begun_releasing {a : Answers} {fetch : Fetch} (h : a.begun = some fetch) :
    a.releasing.begun = some { fetch with release := .ends (.ok ()) } := by
  obtain ⟨count, hc, hn, hf⟩ := cases_of_begun h
  simp [begun, holds, releasing, hc, hn, hf, Except.map, Except.toOption]

end Answers

namespace Stream

/-- Whether the consumer can take nothing behind the release: it was handed a failure, or it answered a message with
`stop`. -/
def finishedIn (t : List Event) : Bool := (beforeRelease t).any Event.isFinal

/-- **How the failure of a release is told**, in a stream that would be `plain` if the release succeeded. -/
structure Told (e : Failure) (whole plain : Run) : Prop where
  /-- It is handed out behind all else, where the consumer can take it. -/
  elements : whole.elements =
    plain.elements ++ if finishedIn whole.trace then [] else [.error (.release e.isMalformed e)]
  noOther : ∀ malformed f, .error (.release malformed f) ∉ plain.elements
  /-- The log warns of it once, where it looks like a malformed ENVELOPE or is not handed out. -/
  warnings : whole.trace.filter Event.warnsOfRelease =
    if e.isMalformed || finishedIn whole.trace then [.log (.releaseFailed e.isMalformed e)] else []
  reported : .error (.release e.isMalformed e) ∈ whole.elements ∨ .log (.releaseFailed e.isMalformed e) ∈ whole.trace
  /-- What is handed out is flagged as it is classified itself. -/
  flagged : ∀ malformed f, .error (.release malformed f) ∈ whole.elements →
    malformed = (Failure.release malformed f).isMalformed

/-! ## Before the release -/

theorem warnsOfRelease_log (l : LogEntry) : (Event.log l).warnsOfRelease =
    (decide (l.level = .warn) && Text.startsWith "releasing fetch command failed".toList l.message.toList) := rfl

theorem warnsOfRelease_of_tellsOfStep {l : LogEntry} (h : l.tellsOfStep = true) :
    (Event.log l).warnsOfRelease = false := by
  cases l with
  | badDate | fetched | stopped =>
    rw [warnsOfRelease_log]
    exact Bool.false_and _
  | skipped f =>
    have hmessage : (LogEntry.skipped f).message = "skipping message due to malformed ENVELOPE" := rfl
    have hwords : Text.startsWith "releasing fetch command failed".toList
        "skipping message due to malformed ENVELOPE".toList = false := by decide
    rw [warnsOfRelease_log, hmessage, hwords, Bool.and_false]
  | _ => cases h

theorem warnsOfRelease_releaseFailed (malformed : Bool) (e : Failure) :
    (Event.log (.releaseFailed malformed e)).warnsOfRelease = true := by
  have hwords : Text.startsWith "releasing fetch command failed".toList
      ("releasing fetch command failed" ++ Failure.malformedNote malformed).toList = true := by
    cases malformed <;> decide
  exact hwords

theorem filter_warnsOfRelease_read (consumer : Consumer) (handed : List Element) (steps : List Step) :
    (read consumer handed steps).trace.filter Event.warnsOfRelease = [] := by
  refine List.filter_eq_nil_iff.2 fun e he => ?_
  rcases mem_read he with rfl | ⟨l, rfl⟩ | ⟨x, a, rfl⟩
  · exact Bool.false_ne_true
  · rw [warnsOfRelease_of_tellsOfStep (tellsOfStep_of_mem_read he)]
    exact Bool.false_ne_true
  · exact Bool.false_ne_true

/-- No step gives a failure of a release. -/
theorem given_ne_release (step : Step) (malformed : Bool) (f : Failure) :
    given step ≠ some (.error (.release malformed f)) := by
  intro h
  unfold given at h
  split at h
  · split at h <;> cases h
  · split at h
    · cases h
    · split at h <;> cases h

theorem release_not_mem_read (consumer : Consumer) (handed : List Element) (steps : List Step) (malformed : Bool)
    (f : Failure) : .error (.release malformed f) ∉ elementsOf (read consumer handed steps).trace := by
  obtain ⟨front, hr⟩ := read_handles consumer handed steps
  rw [hr.elements, List.mem_filterMap]
  rintro ⟨step, -, hg⟩
  exact given_ne_release step malformed f hg

/-! ## The release -/

theorem elementsOf_releaseFailure (consumer : Consumer) (r : Reading) (e : Failure) :
    elementsOf (releaseFailure consumer r e) =
      if r.finished then [] else [.error (.release e.isMalformed e)] := by
  unfold releaseFailure
  cases r.finished <;> cases e.isMalformed <;> rfl

theorem filter_warnsOfRelease_releaseFailure (consumer : Consumer) (r : Reading) (e : Failure) :
    (releaseFailure consumer r e).filter Event.warnsOfRelease =
      if e.isMalformed || r.finished then [.log (.releaseFailed e.isMalformed e)] else [] := by
  have hwarns := warnsOfRelease_releaseFailed e.isMalformed e
  have hhanded : ∀ x : Element, (hand consumer r.handed x).warnsOfRelease = false := fun _ => rfl
  unfold releaseFailure
  cases r.finished <;> cases hm : e.isMalformed <;> simp_all

/-! ## A stream of which a FETCH begins -/

section Begun

variable {answers : Answers} {fetch : Fetch}

theorem elements_of_begun (h : answers.begun = some fetch) (waiting : List Step) (mailbox : String)
    (consumer : Consumer) : (run answers waiting mailbox consumer).elements =
      elementsOf (read consumer [] fetch.steps).trace ++
        elementsOf (releasing consumer fetch.release (read consumer [] fetch.steps)) := by
  obtain ⟨count, hc, hn, hf⟩ := Answers.cases_of_begun h
  rw [run_of_fetch hc hn hf, ← elementsOf_append]
  rfl

theorem unread_of_begun (h : answers.begun = some fetch) (waiting : List Step) (mailbox : String)
    (consumer : Consumer) : (run answers waiting mailbox consumer).unread = (read consumer [] fetch.steps).unread := by
  obtain ⟨count, hc, hn, hf⟩ := Answers.cases_of_begun h
  rw [run_of_fetch hc hn hf]

theorem finishedIn_of_begun (h : answers.begun = some fetch) (waiting : List Step) (mailbox : String)
    (consumer : Consumer) : finishedIn (run answers waiting mailbox consumer).trace =
      (read consumer [] fetch.steps).finished := by
  obtain ⟨count, hc, hn, hf⟩ := Answers.cases_of_begun h
  have hbefore : ∀ x ∈ [Event.select mailbox, .log (.selected count), .log (.found count), .fetch .messages] ++
      (read consumer [] fetch.steps).trace, x.isRelease = false := by
    intro x hx
    rcases List.mem_append.1 hx with hx | hx
    · simp only [List.mem_cons, List.not_mem_nil, or_false] at hx
      rcases hx with rfl | rfl | rfl | rfl <;> rfl
    · exact (isNot_of_mem_read hx).2.2
  rw [run_of_fetch hc hn hf, releasing, ← List.append_assoc, finishedIn, beforeRelease_append_cons hbefore,
    List.any_append, any_isFinal_read]
  exact Bool.false_or _

theorem warnings_of_begun (h : answers.begun = some fetch) (waiting : List Step) (mailbox : String)
    (consumer : Consumer) : (run answers waiting mailbox consumer).trace.filter Event.warnsOfRelease =
      (releasing consumer fetch.release (read consumer [] fetch.steps)).filter Event.warnsOfRelease := by
  obtain ⟨count, hc, hn, hf⟩ := Answers.cases_of_begun h
  rw [run_of_fetch hc hn hf, List.filter_append, List.filter_append, filter_warnsOfRelease_read]
  rfl

end Begun

/-- **The failure of a release is always told**: it is handed out behind all else, or the log warns of it, or both.  It
is handed out just where the consumer can take it, and flagged as it is classified; the log warns of it once, where it
looks like a malformed ENVELOPE and where it is not handed out.  All else is handed out as if the release had succeeded. -/
theorem told_of_failed_release (answers : Answers) (fetch : Fetch) (h : answers.begun = some fetch)
    (waiting : List Step) (mailbox : String) (consumer : Consumer) (e : Failure)
    (he : released fetch.release (run answers waiting mailbox consumer).unread = .error e) :
    Told e (run answers waiting mailbox consumer) (run answers.releasing waiting mailbox consumer) := by
  have hplain := Answers.begun_releasing h
  have hfinished := finishedIn_of_begun h waiting mailbox consumer
  have hnothing : elementsOf (releasing consumer (.ends (.ok ())) (read consumer [] fetch.steps)) = [] := rfl
  rw [unread_of_begun h] at he
  have helements := elements_of_begun h waiting mailbox consumer
  rw [releasing, he, elementsOf_release, elementsOf_releaseFailure, ← hfinished] at helements
  have hwarnings := warnings_of_begun h waiting mailbox consumer
  rw [releasing, he, List.filter_cons_of_neg Bool.false_ne_true, filter_warnsOfRelease_releaseFailure, ← hfinished]
    at hwarnings
  have hsteps := elements_of_begun hplain waiting mailbox consumer
  rw [hnothing, List.append_nil] at hsteps
  have hother : ∀ malformed f,
      .error (.release malformed f) ∉ (run answers.releasing waiting mailbox consumer).elements := by
    rw [hsteps]
    exact release_not_mem_read consumer [] fetch.steps
  rw [← hsteps] at helements
  refine ⟨helements, hother, hwarnings, ?_, fun malformed f hf => ?_⟩
  · cases hcan : finishedIn (run answers waiting mailbox consumer).trace with
    | false =>
      rw [helements, hcan]
      exact .inl (List.mem_append_right _ (List.mem_singleton_self _))
    | true =>
      have hwarned : .log (.releaseFailed e.isMalformed e) ∈
          (run answers waiting mailbox consumer).trace.filter Event.warnsOfRelease := by
        rw [hwarnings, hcan, Bool.or_true]
        exact List.mem_singleton_self _
      exact .inr (List.mem_of_mem_filter hwarned)
  · rw [helements] at hf
    have hlast := (List.mem_append.1 hf).resolve_left (hother malformed f)
    split at hlast
    · cases hlast
    · cases List.mem_singleton.1 hlast
      exact (Failure.isMalformed_release _ e).symm

/-- A failure among the steps that a stream left unread, which is only logged, and one that looks like a malformed
ENVELOPE behind a stream that was read to its end, which is logged and handed out. -/
theorem told_of_failed_release_of_reset :
    let mail : Step := .ok ⟨7, some ⟨none, none, [], [], [], [], none⟩, some [0x78]⟩
    let reset := Failure.imap "connection reset"
    let broken := Failure.imap "in envelope: expected a list"
    let stopped : Answers := ⟨.ok 2, .ok ⟨[mail, .error reset], .drains⟩⟩
    let ended : Answers := ⟨.ok 1, .ok ⟨[mail], .ends (.error broken)⟩⟩
    (stopped.begun = some ⟨[mail, .error reset], .drains⟩ ∧
      released .drains (run stopped [] "INBOX" (.stopAt (some 1))).unread = .error reset ∧
      finishedIn (run stopped [] "INBOX" (.stopAt (some 1))).trace = true ∧
      Told reset (run stopped [] "INBOX" (.stopAt (some 1))) (run stopped.releasing [] "INBOX" (.stopAt (some 1)))) ∧
    ended.begun = some ⟨[mail], .ends (.error broken)⟩ ∧
      released (.ends (.error broken)) (run ended [] "INBOX" .eager).unread = .error broken ∧
      finishedIn (run ended [] "INBOX" .eager).trace = false ∧ broken.isMalformed = true ∧
      Told broken (run ended [] "INBOX" .eager) (run ended.releasing [] "INBOX" .eager) := by
  intro mail reset broken stopped ended
  have hstopped : released .drains (run stopped [] "INBOX" (.stopAt (some 1))).unread = .error reset := rfl
  have hended : released (.ends (.error broken)) (run ended [] "INBOX" .eager).unread = .error broken := rfl
  refine ⟨⟨rfl, hstopped, rfl, ?_⟩, rfl, hended, rfl, by decide, ?_⟩
  · exact told_of_failed_release stopped _ rfl [] "INBOX" (.stopAt (some 1)) reset hstopped
  · exact told_of_failed_release ended _ rfl [] "INBOX" .eager broken hended

end Stream
end Postbag
