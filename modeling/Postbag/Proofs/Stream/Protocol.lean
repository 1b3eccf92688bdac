import Postbag.Proofs.Stream.Delivery
/-!
# Protocol — the order in which a stream asks and hands out

Five things can end a stream: the selection fails, the mailbox is empty, no FETCH begins, no step is left, or a step ends
it.  Whichever it is, the questions and the elements stand in one order (`Orderly`): the selection comes first, a FETCH
that begins is released behind all else, a message follows its own question at once, and nothing follows an element that
the consumer can take nothing behind.
-/
namespace Postbag

namespace Answers

def holds (a : Answers) : Bool :=
  match a.count with
  | .ok count => count != 0
  | .error _ => false

theorem count_of_holds {a : Answers} (h : a.holds = true) : ∃ count, a.count = .ok count ∧ count ≠ 0 := by
  rw [holds] at h
  cases hc : a.count with
  | error e => rw [hc] at h; cases h
  | ok count => exact ⟨count, rfl, by simpa [hc] using h⟩

def begun (a : Answers) : Option Fetch := if a.holds then a.fetch.toOption else none

/-- What the questions for a step are answered with, in order; behind the last step the answer is that there is none. -/
def steps (a : Answers) : List Step := (a.begun.map Fetch.steps).getD []

end Answers

def Event.isMessage : Event → Bool
  | .element (.ok _) _ => true
  | _ => false

namespace Stream

/-- Behind an element that the consumer can take nothing behind, no step is asked for and nothing is handed out. -/
def Silent (e f : Event) : Prop := e.isFinal = true → f.isNext = false ∧ f.isElement = false

/-- **Each message follows the question that brought it**, apart from the log.  The question is answered with the step
whose number is that of the questions before it. -/
def Prompt (steps : List Step) (t : List Event) : Prop :=
  ∀ before m a behind, t.filter (fun e => !e.isLog) = before ++ .element (.ok m) a :: behind →
    ∃ earlier, before = earlier ++ [.next] ∧ (steps[earlier.countP Event.isNext]?).bind given = some (.ok m)

/-- **The order of a stream**, told of its trace. -/
structure Orderly (answers : Answers) (mailbox : String) (t : List Event) : Prop where
  /-- The selection comes first, and only once. -/
  selects : ∃ behind, t = .select mailbox :: behind ∧ ∀ e ∈ behind, e.isSelect = false
  /-- One FETCH is asked for, of all that makes a message, where the mailbox holds something; none is otherwise. -/
  fetches : t.filter Event.isFetch = if answers.holds then [.fetch .messages] else []
  /-- A FETCH that begins is released once, and none is otherwise. -/
  releases : t.countP Event.isRelease = if answers.begun.isSome then 1 else 0
  /-- Behind the release no step is asked for, and nothing is handed out but a failure of the release. -/
  releasedLast : t.Pairwise fun e f =>
    e.isRelease = true → f.isNext = false ∧ (f.isElement = true → f.isReleaseFailure = true)
  /-- A question that is answered with no step is the last one. -/
  exhausted : ∀ before behind, t = before ++ .next :: behind →
    answers.steps.length ≤ before.countP Event.isNext → behind.countP Event.isNext = 0
  silent : t.Pairwise Silent
  prompt : Prompt answers.steps t

/-! ## A reading -/

theorem isFinal_of_mem_asking {step : Step} {e : Event} (h : e ∈ asking step) : e.isFinal = false := by
  rcases mem_asking h with rfl | ⟨l, rfl⟩ <;> rfl

theorem pairwise_silent_append {s t : List Event} (hs : ∀ e ∈ s, e.isFinal = false) (ht : t.Pairwise Silent) :
    (s ++ t).Pairwise Silent := by
  have hsilent : ∀ e ∈ s, ∀ f, Silent e f := fun e he f hf => by rw [hs e he] at hf; cases hf
  exact List.pairwise_append.2
    ⟨List.pairwise_of_forall_mem_list fun e he f _ => hsilent e he f, ht, fun e he f _ => hsilent e he f⟩

theorem isFinal_of_mem_asking_append {step : Step} {x e : Event} (hx : x.isFinal = false)
    (h : e ∈ asking step ++ [x]) : e.isFinal = false := by
  rcases List.mem_append.1 h with h | h
  · exact isFinal_of_mem_asking h
  · rw [List.mem_singleton.1 h]
    exact hx

/-- **A reading is silent behind a final element.** -/
theorem read_silent (consumer : Consumer) (handed : List Element) (steps : List Step) :
    (read consumer handed steps).trace.Pairwise Silent := by
  fun_induction read consumer handed steps with
  | case1 handed => exact List.pairwise_singleton _ _
  | case2 handed step steps f ho ih =>
    exact pairwise_silent_append (fun e he => isFinal_of_mem_asking_append rfl he) ih
  | case3 handed step steps f ho =>
    exact pairwise_silent_append (fun e he => isFinal_of_mem_asking he) (List.pairwise_singleton _ _)
  | case4 handed step steps m ho ha ih =>
    exact pairwise_silent_append (fun e he => isFinal_of_mem_asking_append rfl he) ih
  | case5 handed step steps m ho ha =>
    refine pairwise_silent_append (fun e he => isFinal_of_mem_asking he) ?_
    exact List.pairwise_pair.2 fun _ => ⟨rfl, rfl⟩

/-- **A reading is finished by a final element**, and by nothing else. -/
theorem any_isFinal_read (consumer : Consumer) (handed : List Element) (steps : List Step) :
    (read consumer handed steps).trace.any Event.isFinal = (read consumer handed steps).finished := by
  have hnot : ∀ {step x}, x.isFinal = false → (asking step ++ [x]).any Event.isFinal = false := fun hx =>
    List.any_eq_false.2 fun e he => by
      rw [isFinal_of_mem_asking_append hx he]
      exact Bool.false_ne_true
  fun_induction read consumer handed steps with
  | case1 handed => rfl
  | case2 handed step steps f ho ih =>
    rw [Reading.trace_after, List.any_append, hnot rfl, Bool.false_or, ih, Reading.finished_after]
  | case3 handed step steps f ho =>
    rw [List.any_append]
    exact Bool.or_true _
  | case4 handed step steps m ho ha ih =>
    rw [Reading.trace_after, List.any_append, hnot rfl, Bool.false_or, ih, Reading.finished_after]
  | case5 handed step steps m ho ha =>
    rw [List.any_append]
    exact Bool.or_true _

/-! ## Each message behind its question -/

theorem cut_before {α : Type} {s t before behind : List α} {x : α} (h : s ++ t = before ++ x :: behind) (hx : x ∉ t) :
    ∃ rest, s = before ++ x :: rest := by
  rcases List.append_eq_append_iff.1 h with ⟨c, -, hc⟩ | ⟨c, hs, hc⟩
  · exact absurd (hc ▸ List.mem_append_right c List.mem_cons_self) hx
  · cases c with
    | nil =>
      rw [List.nil_append] at hc
      exact absurd (hc ▸ List.mem_cons_self) hx
    | cons y c =>
      obtain ⟨rfl, -⟩ := List.cons.inj hc
      exact ⟨c, hs⟩

theorem cut_behind {α : Type} {s t before behind : List α} {x : α} (h : s ++ t = before ++ x :: behind) (hx : x ∉ s) :
    ∃ rest, before = s ++ rest ∧ t = rest ++ x :: behind := by
  rcases List.append_eq_append_iff.1 h with ⟨c, hb, ht⟩ | ⟨c, hs, -⟩
  · exact ⟨c, hb, ht⟩
  · cases c with
    | nil => exact ⟨[], by simpa using hs.symm, by simp_all⟩
    | cons y c => simp_all

theorem Prompt.append {steps : List Step} {s t : List Event} (hs : Prompt steps s)
    (ht : ∀ e ∈ t, e.isMessage = false) : Prompt steps (s ++ t) := by
  intro before m a behind h
  rw [List.filter_append] at h
  obtain ⟨rest, hr⟩ := cut_before h fun hm => by cases ht _ (List.mem_filter.1 hm).1
  exact hs before m a rest hr

theorem Prompt.after {steps : List Step} {s t : List Event} (ht : Prompt steps t)
    (hs : ∀ e ∈ s, e.isMessage = false ∧ e.isNext = false) : Prompt steps (s ++ t) := by
  intro before m a behind h
  rw [List.filter_append] at h
  obtain ⟨rest, rfl, hr⟩ := cut_behind h fun hm => by cases (hs _ (List.mem_filter.1 hm).1).1
  obtain ⟨earlier, rfl, hg⟩ := ht rest m a behind hr
  refine ⟨s.filter (fun e => !e.isLog) ++ earlier, (List.append_assoc _ _ _).symm, ?_⟩
  have hn : (s.filter fun e => !e.isLog).countP Event.isNext = 0 :=
    List.countP_eq_zero.2 fun e he => by simp [(hs e (List.mem_filter.1 he).1).2]
  rwa [List.countP_append, hn, Nat.zero_add]

theorem filter_isLog_asking (step : Step) : (asking step).filter (fun e => !e.isLog) = [.next] := by
  have hlog : ((stepLog step).map Event.log).filter (fun e => !e.isLog) = [] :=
    List.filter_eq_nil_iff.2 fun e he => by obtain ⟨entry, -, rfl⟩ := List.mem_map.1 he; exact Bool.false_ne_true
  rw [asking, List.filter_cons, hlog]
  rfl

/-- Events with one question among them go in front of a prompt trace: the steps are counted from one more. -/
theorem Prompt.shift {step : Step} {steps : List Step} {t : List Event} (ht : Prompt steps t) (pre : List Event)
    {rest : List Event} (hp : pre.countP Event.isNext = 1) {m : Message} {a : Flow} {behind : List Event}
    (h : t.filter (fun e => !e.isLog) = rest ++ .element (.ok m) a :: behind) :
    ∃ earlier, pre ++ rest = earlier ++ [.next] ∧
      ((step :: steps)[earlier.countP Event.isNext]?).bind given = some (.ok m) := by
  obtain ⟨earlier, rfl, hg⟩ := ht rest m a behind h
  refine ⟨pre ++ earlier, (List.append_assoc _ _ _).symm, ?_⟩
  rw [List.countP_append, hp, Nat.add_comm, List.getElem?_cons_succ]
  exact hg

theorem Prompt.cons {steps : List Step} {t : List Event} (ht : Prompt steps t) (step : Step) (x : Event)
    (hn : x.isNext = false) (hx : ∀ m a, x = .element (.ok m) a → given step = some (.ok m)) :
    Prompt (step :: steps) (asking step ++ [x] ++ t) := by
  intro before m a behind h
  rw [List.filter_append, List.filter_append, filter_isLog_asking, List.append_assoc, List.singleton_append] at h
  cases before with
  | nil => cases (List.cons.inj h).1
  | cons y before =>
    rw [List.cons_append] at h
    obtain ⟨rfl, hb⟩ := List.cons.inj h
    -- the message that is looked for is `x`, or stands behind it
    cases hl : x.isLog with
    | true =>
      rw [List.filter_cons_of_neg (by simp [hl])] at hb
      exact ht.shift [.next] rfl hb
    | false =>
      rw [List.filter_cons_of_pos (by simp [hl]), List.filter_nil, List.singleton_append] at hb
      cases before with
      | nil =>
        obtain ⟨rfl, -⟩ := List.cons.inj hb
        exact ⟨[], rfl, hx m a rfl⟩
      | cons z before =>
        rw [List.cons_append] at hb
        obtain ⟨rfl, hc⟩ := List.cons.inj hb
        exact ht.shift [.next, x] (by rw [List.countP_cons, List.countP_singleton, hn]; rfl) hc

theorem prompt_nil (steps : List Step) : Prompt steps [] := by
  intro before m a behind h
  cases before <;> cases h

/-- **A reading is prompt.** -/
theorem read_prompt (consumer : Consumer) (handed : List Element) (steps : List Step) :
    Prompt steps (read consumer handed steps).trace := by
  fun_induction read consumer handed steps with
  | case1 handed =>
    intro before m a behind h
    cases before with
    | nil => cases (List.cons.inj h).1
    | cons y before => cases before <;> cases (List.cons.inj h).2
  | case2 handed step steps f ho ih => exact ih.cons step _ rfl fun m a h => by cases h
  | case3 handed step steps f ho =>
    have := (prompt_nil steps).cons step (hand consumer handed (.error f)) rfl fun m a h => by cases h
    rwa [List.append_nil] at this
  | case4 handed step steps m ho ha ih =>
    exact ih.cons step _ rfl fun m' a h => by cases h; exact given_of_message ho
  | case5 handed step steps m ho ha =>
    have := (prompt_nil steps).cons step (.element (.ok m) .stop) rfl
      fun m' a h => by cases h; exact given_of_message ho
    rw [List.append_nil] at this
    have hlog : ∀ e ∈ [Event.log .stopped], e.isMessage = false := fun e he => by rw [List.mem_singleton.1 he]; rfl
    simpa using this.append hlog

/-! ## A stream -/

theorem isFinal_of_mem_select (mailbox : String) : ∀ e ∈ [Event.select mailbox], e.isFinal = false := by
  intro e he
  rw [List.mem_singleton.1 he]
  rfl

/-- A stream of which no FETCH begins: behind the selection there is neither a question for a step nor a message. -/
theorem orderly_of_begun_none {answers : Answers} {mailbox : String} {behind : List Event}
    (hb : ∀ e ∈ behind, e.isSelect = false ∧ e.isNext = false ∧ e.isRelease = false ∧ e.isMessage = false)
    (hf : behind.filter Event.isFetch = if answers.holds then [.fetch .messages] else [])
    (hn : answers.begun = none) (hs : behind.Pairwise Silent) : Orderly answers mailbox (.select mailbox :: behind) := by
  have hnext : ∀ e ∈ Event.select mailbox :: behind, e.isNext = false ∧ e.isRelease = false ∧ e.isMessage = false := by
    intro e he
    rcases List.mem_cons.1 he with rfl | he
    · exact ⟨rfl, rfl, rfl⟩
    · exact (hb e he).2
  exact {
    selects := ⟨behind, rfl, fun e he => (hb e he).1⟩
    fetches := hf
    releases := by
      rw [hn, List.countP_eq_zero.2 fun e he => by simp [(hnext e he).2.1]]
      rfl
    releasedLast := List.pairwise_of_forall_mem_list fun e he _ _ h => by rw [(hnext e he).2.1] at h; cases h
    exhausted := fun before behind' ht _ => by
      cases (hnext .next (by rw [ht]; exact List.mem_append_right _ List.mem_cons_self)).1
    silent := pairwise_silent_append (isFinal_of_mem_select mailbox) hs
    prompt := (prompt_nil _).append fun e he => (hnext e he).2.2 }

theorem reading_silent (consumer : Consumer) (fetch : Fetch) :
    ((read consumer [] fetch.steps).trace ++
      releasing consumer fetch.release (read consumer [] fetch.steps)).Pairwise Silent := by
  obtain ⟨logs, handed, heq, hh⟩ := releasing_eq consumer fetch.release (read consumer [] fetch.steps)
  have hfinal : ∀ e ∈ Event.release :: logs.map Event.log,
      e.isFinal = false ∧ e.isNext = false ∧ e.isElement = false := by
    intro e he
    rcases List.mem_cons.1 he with rfl | he
    · exact ⟨rfl, rfl, rfl⟩
    · obtain ⟨l, -, rfl⟩ := List.mem_map.1 he
      exact ⟨rfl, rfl, rfl⟩
  rw [heq, ← List.cons_append]
  refine List.pairwise_append.2 ⟨read_silent consumer [] fetch.steps, ?_, fun e he f hf hfin => ?_⟩
  · refine pairwise_silent_append (fun e he => (hfinal e he).1) ?_
    rcases hh with rfl | ⟨-, malformed, f, a, rfl⟩
    · exact List.Pairwise.nil
    · exact List.pairwise_singleton _ _
  · rcases List.mem_append.1 hf with hf | hf
    · exact (hfinal f hf).2
    -- a failure of the release is handed out only where the reading was not finished
    · rcases hh with rfl | ⟨hr, -⟩
      · cases hf
      · rw [← any_isFinal_read, List.any_eq_true.2 ⟨e, he, hfin⟩] at hr
        cases hr

theorem releasedLast_of_append {s : List Event} (consumer : Consumer) (release : Release) (r : Reading)
    (hs : ∀ e ∈ s, e.isRelease = false) :
    (s ++ releasing consumer release r).Pairwise fun e f =>
      e.isRelease = true → f.isNext = false ∧ (f.isElement = true → f.isReleaseFailure = true) := by
  have hbehind : ∀ f ∈ releasing consumer release r,
      f.isNext = false ∧ (f.isElement = true → f.isReleaseFailure = true) := by
    intro f hf
    rcases mem_releasing hf with rfl | ⟨l, rfl⟩ | ⟨malformed, g, a, rfl⟩
    · exact ⟨rfl, fun h => h⟩
    · exact ⟨rfl, fun h => h⟩
    · exact ⟨rfl, fun h => h⟩
  refine List.pairwise_append.2 ⟨?_, ?_, ?_⟩
  · exact List.pairwise_of_forall_mem_list fun e he _ _ h => by rw [hs e he] at h; cases h
  · exact List.pairwise_of_forall_mem_list fun _ _ f hf _ => hbehind f hf
  · exact fun e he _ _ h => by rw [hs e he] at h; cases h

/-- **A stream asks for no step behind the end of the steps.** -/
theorem exhausted_of_asked {t : List Event} {n : Nat} (ht : t.countP Event.isNext ≤ n + 1) {before behind : List Event}
    (h : t = before ++ .next :: behind) (hn : n ≤ before.countP Event.isNext) : behind.countP Event.isNext = 0 := by
  have hnext : Event.isNext .next = true := rfl
  rw [h, List.countP_append, List.countP_cons, if_pos hnext] at ht
  omega

theorem Handles.asked_le {consumer : Consumer} {handed : List Element} {steps front : List Step} {r : Reading}
    (h : Handles consumer handed steps front r) : r.trace.countP Event.isNext ≤ steps.length + 1 := by
  have hlen : steps.length = front.length + r.unread.length := by rw [h.cut.split, List.length_append]
  rw [h.asked, hlen]
  split <;> omega

theorem countP_isRelease_releasing (consumer : Consumer) (release : Release) (r : Reading) :
    (releasing consumer release r).countP Event.isRelease = 1 := by
  obtain ⟨logs, handed, heq, hh⟩ := releasing_eq consumer release r
  have hlogs : (logs.map Event.log).countP Event.isRelease = 0 := by
    refine List.countP_eq_zero.2 fun e he => ?_
    obtain ⟨l, -, rfl⟩ := List.mem_map.1 he
    exact Bool.false_ne_true
  have hhanded : handed.countP Event.isRelease = 0 := by
    rcases hh with rfl | ⟨-, malformed, f, a, rfl⟩ <;> rfl
  rw [heq, List.countP_cons, List.countP_append, hlogs, hhanded]
  rfl

theorem orderly_of_begun {answers : Answers} {mailbox : String} {opening : List Event} {fetch : Fetch}
    (consumer : Consumer) (ho : opening.filter Event.isFetch = [.fetch .messages])
    (hq : ∀ e ∈ opening, e.isSelect = false ∧ e.isNext = false ∧ e.isRelease = false ∧ e.isElement = false)
    (hh : answers.holds = true) (hb : answers.begun = some fetch) :
    Orderly answers mailbox (.select mailbox :: (opening ++ ((read consumer [] fetch.steps).trace ++
      releasing consumer fetch.release (read consumer [] fetch.steps)))) := by
  have hsteps : answers.steps = fetch.steps := by rw [Answers.steps, hb]; rfl
  obtain ⟨front, hr⟩ := read_handles consumer [] fetch.steps
  have hread : ∀ e ∈ (read consumer [] fetch.steps).trace,
      e.isSelect = false ∧ e.isFetch = false ∧ e.isRelease = false := fun e he => isNot_of_mem_read he
  have hrel : ∀ e ∈ releasing consumer fetch.release (read consumer [] fetch.steps),
      e.isSelect = false ∧ e.isFetch = false ∧ e.isMessage = false := by
    intro e he
    rcases mem_releasing he with rfl | ⟨l, rfl⟩ | ⟨malformed, f, a, rfl⟩ <;> exact ⟨rfl, rfl, rfl⟩
  have hopen : ∀ e ∈ Event.select mailbox :: opening,
      e.isNext = false ∧ e.isRelease = false ∧ e.isMessage = false ∧ e.isFinal = false := by
    intro e he
    rcases List.mem_cons.1 he with rfl | he
    · exact ⟨rfl, rfl, rfl, rfl⟩
    · obtain ⟨-, h1, h2, h3⟩ := hq e he
      cases e <;> first | exact ⟨h1, h2, rfl, rfl⟩ | cases h3
  have hnone : ∀ (s : List Event) (p : Event → Bool), (∀ e ∈ s, p e = false) → s.countP p = 0 :=
    fun s p hs => List.countP_eq_zero.2 fun e he => by rw [hs e he]; exact Bool.false_ne_true
  rw [← List.cons_append]
  exact {
    selects := by
      refine ⟨_, rfl, fun e he => ?_⟩
      rcases List.mem_append.1 he with he | he
      · exact (hq e he).1
      rcases List.mem_append.1 he with he | he
      · exact (hread e he).1
      · exact (hrel e he).1
    fetches := by
      have hrest : ((read consumer [] fetch.steps).trace ++
          releasing consumer fetch.release (read consumer [] fetch.steps)).filter Event.isFetch = [] := by
        refine List.filter_eq_nil_iff.2 fun e he => ?_
        rcases List.mem_append.1 he with he | he
        · rw [(hread e he).2.1]
          exact Bool.false_ne_true
        · rw [(hrel e he).2.1]
          exact Bool.false_ne_true
      rw [List.filter_append, hrest, List.filter_cons_of_neg Bool.false_ne_true, ho, hh]
      rfl
    releases := by
      rw [hb, List.countP_append, List.countP_append, hnone _ _ fun e he => (hopen e he).2.1,
        hnone _ _ fun e he => (hread e he).2.2, countP_isRelease_releasing]
      rfl
    releasedLast := by
      rw [← List.append_assoc]
      refine releasedLast_of_append consumer fetch.release _ fun e he => ?_
      rcases List.mem_append.1 he with he | he
      · exact (hopen e he).2.1
      · exact (hread e he).2.2
    exhausted := by
      intro before behind ht hn
      rw [hsteps] at hn
      refine exhausted_of_asked ?_ ht hn
      rw [List.countP_append, List.countP_append, hnone _ _ fun e he => (hopen e he).1, countP_isNext_releasing]
      have := hr.asked_le
      omega
    silent := pairwise_silent_append (fun e he => (hopen e he).2.2.2) (reading_silent consumer fetch)
    prompt := by
      rw [hsteps]
      refine Prompt.after ?_ fun e he => ⟨(hopen e he).2.2.1, (hopen e he).1⟩
      exact (read_prompt consumer [] fetch.steps).append fun e he => (hrel e he).2.2 }

/-! ## What is asked about a mailbox -/

end Stream

/-- A question about a mailbox, and not about a step. -/
def Event.isAboutMailbox : Event → Bool
  | .select _ | .fetch _ => true
  | _ => false

namespace Stream

theorem isAboutMailbox_of_fetch (consumer : Consumer) (fetch : Fetch) :
    ((read consumer [] fetch.steps).trace ++
      releasing consumer fetch.release (read consumer [] fetch.steps)).filter Event.isAboutMailbox = [] := by
  refine List.filter_eq_nil_iff.2 fun e he => ?_
  rcases List.mem_append.1 he with he | he
  · rcases mem_read he with rfl | ⟨l, rfl⟩ | ⟨x, a, rfl⟩ <;> exact Bool.false_ne_true
  · rcases mem_releasing he with rfl | ⟨l, rfl⟩ | ⟨malformed, f, a, rfl⟩ <;> exact Bool.false_ne_true

/-- **What a stream asks about its mailbox**: to select it, and behind that, where it holds something, for one FETCH. -/
theorem filter_isAboutMailbox_run (answers : Answers) (waiting : List Step) (mailbox : String) (consumer : Consumer) :
    (run answers waiting mailbox consumer).trace.filter Event.isAboutMailbox =
      .select mailbox :: if answers.holds then [.fetch .messages] else [] := by
  cases hc : answers.count with
  | error e =>
    rw [run, Answers.holds, hc]
    rfl
  | ok count =>
    by_cases hn : count = 0
    · have hh : answers.holds = false := by simp [Answers.holds, hc, hn]
      simp only [run, hc, if_pos hn, hh]
      rfl
    · have hh : answers.holds = true := by simp [Answers.holds, hc, hn]
      cases hf : answers.fetch with
      | error e =>
        simp only [run, hc, if_neg hn, hf, hh]
        rfl
      | ok fetch =>
        rw [run_of_fetch hc hn hf, List.filter_append, isAboutMailbox_of_fetch, hh]
        rfl

/-- **How a stream goes**: it ends before a FETCH begins, with nothing or with one failure, or a FETCH begins behind its
opening and takes its course. -/
theorem run_cases (answers : Answers) (waiting : List Step) (mailbox : String) :
    ∃ opening, elementsOf opening = [] ∧ opening.countP Event.isRelease = 0 ∧
      (answers.begun = none ∧
          ((∀ consumer, run answers waiting mailbox consumer = ⟨opening, waiting⟩) ∨
            ∃ e, ∀ consumer, run answers waiting mailbox consumer =
              ⟨opening ++ [hand consumer [] (.error e)], waiting⟩) ∨
        ∃ fetch, answers.begun = some fetch ∧ ∀ consumer, run answers waiting mailbox consumer =
          ⟨opening ++ (fetchRun consumer fetch).trace, (fetchRun consumer fetch).unread⟩) := by
  obtain ⟨count, fetch⟩ := answers
  cases count with
  | error e => exact ⟨[.select mailbox], rfl, rfl, .inl ⟨rfl, .inr ⟨.select mailbox e, fun _ => rfl⟩⟩⟩
  | ok count =>
    by_cases hn : count = 0
    · subst hn
      exact ⟨[.select mailbox, .log (.selected 0), .log .emptyMailbox], rfl, rfl, .inl ⟨rfl, .inl fun _ => rfl⟩⟩
    · have hholds : (Answers.mk (.ok count) fetch).holds = true := by simp [Answers.holds, hn]
      refine ⟨[.select mailbox, .log (.selected count), .log (.found count), .fetch .messages], rfl, rfl, ?_⟩
      rw [Answers.begun, hholds, if_pos rfl]
      cases fetch with
      | error e => exact .inl ⟨rfl, .inr ⟨.fetch e, fun _ => by simp only [run, if_neg hn]; rfl⟩⟩
      | ok fetch => exact .inr ⟨fetch, rfl, fun _ => by simp only [run, if_neg hn]; rfl⟩

/-- **Every stream keeps the order**, whatever the session answers and whatever the consumer does. -/
theorem run_orderly (answers : Answers) (waiting : List Step) (mailbox : String) (consumer : Consumer) :
    Orderly answers mailbox (run answers waiting mailbox consumer).trace := by
  cases hc : answers.count with
  | error e =>
    have hh : answers.holds = false := by rw [Answers.holds, hc]
    have hb : answers.begun = none := by rw [Answers.begun, hh]; rfl
    rw [run, hc]
    refine orderly_of_begun_none ?_ (by rw [hh]; rfl) hb (List.pairwise_singleton _ _)
    intro e he
    rw [List.mem_singleton.1 he]
    exact ⟨rfl, rfl, rfl, rfl⟩
  | ok count =>
    by_cases hn : count = 0
    · have hh : answers.holds = false := by simp [Answers.holds, hc, hn]
      have hb : answers.begun = none := by rw [Answers.begun, hh]; rfl
      have hlogs : ∀ e ∈ [Event.log (.selected count), .log .emptyMailbox], ∃ l, e = .log l := by
        intro e he
        simp only [List.mem_cons, List.not_mem_nil, or_false] at he
        rcases he with rfl | rfl <;> exact ⟨_, rfl⟩
      simp only [run, hc, if_pos hn]
      refine orderly_of_begun_none ?_ (by rw [hh]; rfl) hb ?_
      · intro e he
        obtain ⟨l, rfl⟩ := hlogs e he
        exact ⟨rfl, rfl, rfl, rfl⟩
      · refine List.pairwise_of_forall_mem_list fun e he _ _ hf => ?_
        obtain ⟨l, rfl⟩ := hlogs e he
        cases hf
    · have hh : answers.holds = true := by simp [Answers.holds, hc, hn]
      cases hf : answers.fetch with
      | error e =>
        have hb : answers.begun = none := by rw [Answers.begun, hh, hf]; rfl
        have hopen : ∀ e ∈ [Event.log (.selected count), .log (.found count), .fetch .messages],
            e.isSelect = false ∧ e.isNext = false ∧ e.isRelease = false ∧ e.isMessage = false ∧ e.isFinal = false := by
          intro e he
          simp only [List.mem_cons, List.not_mem_nil, or_false] at he
          rcases he with rfl | rfl | rfl <;> exact ⟨rfl, rfl, rfl, rfl, rfl⟩
        simp only [run, hc, hf, if_neg hn]
        refine orderly_of_begun_none ?_ (by rw [hh]; rfl) hb ?_
        · intro x hx
          rcases List.mem_append.1 hx with hx | hx
          · obtain ⟨h1, h2, h3, h4, -⟩ := hopen x hx
            exact ⟨h1, h2, h3, h4⟩
          · rw [List.mem_singleton.1 hx]
            exact ⟨rfl, rfl, rfl, rfl⟩
        · exact pairwise_silent_append (fun x hx => (hopen x hx).2.2.2.2) (List.pairwise_singleton _ _)
      | ok fetch =>
        have hb : answers.begun = some fetch := by rw [Answers.begun, hh, hf]; rfl
        rw [run_of_fetch hc hn hf]
        refine orderly_of_begun consumer ?_ ?_ hh hb
        · rfl
        · simp [Event.isSelect, Event.isNext, Event.isRelease, Event.isElement]

end Stream
end Postbag
