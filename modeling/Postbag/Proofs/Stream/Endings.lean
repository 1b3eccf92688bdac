import Postbag.Proofs.Failure.Wrapping
import Postbag.Proofs.Stream.Protocol
import Postbag.Script
/-!
# Endings — what the failure that ends a stream claims to be

A failure can be asked whether it concerns a single message only.  One that ended the reading of steps answers that it
does not: the stream asked it the same question before it ended.  A failure of the selection or of the beginning of a
FETCH was never asked, and answers by its text, in which the name of the mailbox and the words of the server stand.
-/
namespace Postbag

theorem mem_of_gather {es : List Element} {e : Failure} (h : gather es = .error e) : .error e ∈ es := by
  induction es with
  | nil => cases h
  | cons x es ih =>
    cases x with
    | error f =>
      cases h
      exact List.mem_cons_self
    | ok m =>
      rw [gather] at h
      cases hg : gather es with
      | ok ms => rw [hg] at h; cases h
      | error f =>
        rw [hg] at h
        cases h
        exact List.mem_cons_of_mem _ (ih hg)

namespace Stream

open Failure (Shows Telling Unread)

/-! ## The failure of a step -/

theorem isMalformed_of_given {step : Step} {e : Failure} (h : given step = some (.error e)) :
    e.isMalformed = false := by
  have hfatal : ∀ f, (Outcome.ofFailure f).element? = some (.error e) → e.isMalformed = false := by
    intro f hf
    rw [element?_ofFailure] at hf
    split at hf
    · cases hf
    · cases hf
      rename_i hm
      exact Bool.not_eq_true _ ▸ hm
  rw [← element?_outcome] at h
  cases step with
  | error f => exact hfatal (.collect f) h
  | ok r =>
    unfold outcome at h
    split at h
    · rename_i heq
      cases heq
    · rename_i r' heq
      split at h
      · cases h
      · exact hfatal _ h

theorem isMalformed_of_mem_read {consumer : Consumer} {handed : List Element} {steps : List Step} {e : Failure}
    (h : .error e ∈ elementsOf (read consumer handed steps).trace) : e.isMalformed = false := by
  obtain ⟨front, hr⟩ := read_handles consumer handed steps
  rw [hr.elements, List.mem_filterMap] at h
  obtain ⟨step, -, hg⟩ := h
  exact isMalformed_of_given hg

/-! ## The failure of a stream -/

theorem mem_elementsOf_releasing {consumer : Consumer} {release : Release} {r : Reading} {e : Failure}
    (h : .error e ∈ elementsOf (releasing consumer release r)) : ∃ malformed f, e = .release malformed f := by
  rw [elementsOf, List.mem_filterMap] at h
  obtain ⟨x, hx, he⟩ := h
  rcases mem_releasing hx with rfl | ⟨l, rfl⟩ | ⟨malformed, f, a, rfl⟩
  · cases he
  · cases he
  · cases he
    exact ⟨malformed, f, rfl⟩

/-- The question that a failure answers. -/
inductive Ending (answers : Answers) (mailbox : String) : Failure → Prop
  | selection (f : Failure) (h : answers.count = .error f) : Ending answers mailbox (.select mailbox f)
  | beginning (f : Failure) (h : answers.fetch = .error f) : Ending answers mailbox (.fetch f)
  | step (e : Failure) (h : e.isMalformed = false) : Ending answers mailbox e
  | release (malformed : Bool) (f : Failure) : Ending answers mailbox (.release malformed f)

theorem ending_of_mem_elements (answers : Answers) (waiting : List Step) (mailbox : String) (consumer : Consumer)
    {e : Failure} (h : .error e ∈ (run answers waiting mailbox consumer).elements) : Ending answers mailbox e := by
  obtain ⟨count, fetch⟩ := answers
  cases count with
  | error f =>
    obtain rfl : e = .select mailbox f := Except.error.inj (List.mem_singleton.1 h)
    exact .selection f rfl
  | ok count =>
    by_cases hn : count = 0
    · subst hn
      cases h
    cases fetch with
    | error f =>
      have hrun : (run ⟨.ok count, .error f⟩ waiting mailbox consumer).elements = [.error (.fetch f)] := by
        simp only [run, if_neg hn]
        rfl
      rw [hrun, List.mem_singleton] at h
      cases h
      exact .beginning f rfl
    | ok fetch =>
      change .error e ∈ elementsOf (run ⟨.ok count, .ok fetch⟩ waiting mailbox consumer).trace at h
      rw [run_of_fetch rfl hn rfl, elementsOf_append, elementsOf_append, List.mem_append, List.mem_append] at h
      rcases h with h | h | h
      · cases h
      · exact .step e (isMalformed_of_mem_read h)
      · obtain ⟨malformed, f, rfl⟩ := mem_elementsOf_releasing h
        exact .release malformed f

/-- **What the failure that ends a stream claims to be**, whoever is handed it, and where the messages are gathered.  A
failure of a step never claims to concern a single message only.  A failed selection claims it where the failure behind
it does, and where the name of the mailbox holds a known pattern, unless a response that could not be read stands behind
it.  The failure of a FETCH that did not begin claims what the failure behind it does. -/
theorem isMalformed_of_ending (answers : Answers) (waiting : List Step) (mailbox : String) (consumer : Consumer)
    (e : Failure) (h : .error e ∈ (run answers waiting mailbox consumer).elements ∨
      (run answers waiting mailbox .collecting).messages = .error e) :
    (∃ f, answers.count = .error f ∧ e = .select mailbox f ∧
        (e.isMalformed = true ↔
          ¬ Shows Unread (fun _ => False) .whole f ∧ (Telling mailbox ∨ f.isMalformed = true))) ∨
      (∃ f, answers.fetch = .error f ∧ e = .fetch f ∧ e.isMalformed = f.isMalformed) ∨
      (∃ malformed f, e = .release malformed f) ∨ e.isMalformed = false := by
  have hending : Ending answers mailbox e := by
    rcases h with h | h
    · exact ending_of_mem_elements answers waiting mailbox consumer h
    · exact ending_of_mem_elements answers waiting mailbox .collecting (mem_of_gather h)
  cases hending with
  | selection f hf => exact .inl ⟨f, hf, rfl, Failure.isMalformed_select_iff mailbox f⟩
  | beginning f hf => exact .inr (.inl ⟨f, hf, rfl, Failure.isMalformed_fetch f⟩)
  | step _ hm => exact .inr (.inr (.inr hm))
  | release malformed f => exact .inr (.inr (.inl ⟨malformed, f, rfl⟩))

/-- A step that fails, in a mailbox of which the name holds a known pattern. -/
theorem isMalformed_of_ending_of_reset :
    let answers : Answers := ⟨.ok 1, .ok ⟨[.error (.imap "connection reset")], .drains⟩⟩
    let e := Failure.collect (.imap "connection reset")
    .error e ∈ (run answers [] "in envelope" .eager).elements ∧ e.isMalformed = false := by
  intro answers e
  have hmem : .error e ∈ (run answers [] "in envelope" .eager).elements := by decide
  rcases isMalformed_of_ending answers [] "in envelope" .eager e (.inl hmem) with
    ⟨f, hc, -⟩ | ⟨f, hf, -⟩ | ⟨malformed, f, he⟩ | h
  · cases hc
  · cases hf
  · exact Failure.noConfusion (he : Failure.collect (.imap "connection reset") = .release malformed f)
  · exact ⟨hmem, h⟩

/-- **A selection that the server refuses claims to concern a single message**, for the name of the mailbox. -/
theorem isMalformed_of_refused_selection :
    let refusal := Failure.imap "no response: code: None, info: Some(\"no such mailbox\")"
    let script : Script := ⟨[], none, some refusal, none, none⟩
    (script.run "in envelope" .eager).elements = [.error (.select "in envelope" refusal)] ∧
      (script.collect "in envelope").2 = .error (.select "in envelope" refusal) ∧
      (Failure.select "in envelope" refusal).isMalformed = true := by
  intro refusal script
  exact ⟨rfl, rfl, by decide⟩

end Stream
end Postbag
