import Postbag.Imap.Received
/-!
# Regular — what was read stays read

Octets arrive one after another, and a connection reads as soon as it can.  Which responses it reads must not depend on
how many octets have arrived by then.  A reader is *regular* where its answer stands whatever arrives behind, unless the
answer was that more is needed.  Every combination of regular readers is regular, and so every response is.
-/
namespace Postbag
namespace Imap

variable {α β : Type}

/-- An answer, when octets arrive behind what was received. -/
def Scan.behind (s : Scan α) (t : List UInt8) : Scan α :=
  match s with
  | .done a rest => .done a (rest ++ t)
  | .more => .more
  | .refused => .refused

namespace Reader

/-- **A reader whose answers stand**, and which leaves the octets behind its value as they are. -/
structure Regular (r : Reader α) : Prop where
  steady : ∀ s t, r s ≠ .more → r (s ++ t) = (r s).behind t
  leaves : ∀ s a rest, r s = .done a rest → rest <:+ s

/-- Each value is at least one octet. -/
def Eats (r : Reader α) : Prop := ∀ s a rest, r s = .done a rest → rest.length < s.length

theorem Regular.shrinks {r : Reader α} (hr : Regular r) {s rest : List UInt8} {a : α} (h : r s = .done a rest) :
    rest.length ≤ s.length :=
  (hr.leaves s a rest h).length_le

theorem Regular.done {r : Reader α} (hr : Regular r) {s rest : List UInt8} {a : α} (h : r s = .done a rest)
    (t : List UInt8) : r (s ++ t) = .done a (rest ++ t) := by
  rw [hr.steady s t (by rw [h]; exact fun hm => by cases hm), h]
  rfl

theorem Regular.refused {r : Reader α} (hr : Regular r) {s : List UInt8} (h : r s = .refused) (t : List UInt8) :
    r (s ++ t) = .refused := by
  rw [hr.steady s t (by rw [h]; exact fun hm => by cases hm), h]
  rfl

theorem Regular.intro {r : Reader α} (hd : ∀ s a rest, r s = .done a rest → ∀ t, r (s ++ t) = .done a (rest ++ t))
    (hn : ∀ s, r s = .refused → ∀ t, r (s ++ t) = .refused)
    (hs : ∀ s a rest, r s = .done a rest → rest <:+ s) : Regular r where
  steady := fun s t hm => by
    cases h : r s with
    | done a rest => exact hd s a rest h t
    | more => exact absurd h hm
    | refused => exact hn s h t
  leaves := hs

/-! ## One after another -/

theorem Scan.bind_eq_done {s : Scan α} {f : α → Reader β} {b : β} {rest : List UInt8} (h : Scan.bind s f = .done b rest) :
    ∃ a behind, s = .done a behind ∧ f a behind = .done b rest := by
  cases s with
  | done a behind => exact ⟨a, behind, rfl, h⟩
  | more => cases h
  | refused => cases h

@[simp] theorem Regular.pure (a : α) : Regular (Pure.pure a : Reader α) :=
  .intro (fun s _ rest h t => by cases h; rfl) (fun _ h => by cases h) fun s _ rest h => by cases h; exact List.suffix_rfl

@[simp] theorem Regular.refuse : Regular (refuse : Reader α) :=
  .intro (fun _ _ _ h => by cases h) (fun _ _ _ => rfl) fun _ _ _ h => by cases h

/-- **Readers one after another.** -/
@[simp] theorem Regular.bind {r : Reader α} {f : α → Reader β} (hr : Regular r) (hf : ∀ a, Regular (f a)) :
    Regular (r >>= f) := by
  refine .intro (fun s b rest h t => ?_) (fun s h t => ?_) fun s b rest h => ?_
  · obtain ⟨a, behind, ha, hb⟩ := Scan.bind_eq_done h
    rw [bind_apply, hr.done ha]
    exact (hf a).done hb t
  · rw [bind_apply] at h ⊢
    cases hs : r s with
    | done a behind =>
      rw [hs] at h
      rw [hr.done hs]
      exact (hf a).refused h t
    | more => rw [hs] at h; cases h
    | refused => rw [hr.refused hs]; rfl
  · obtain ⟨a, behind, ha, hb⟩ := Scan.bind_eq_done h
    exact ((hf a).leaves _ _ _ hb).trans (hr.leaves _ _ _ ha)

@[simp] theorem Regular.map {r : Reader α} (f : α → β) (hr : Regular r) : Regular (f <$> r) :=
  hr.bind fun a => .pure (f a)

@[simp] theorem Eats.bind {r : Reader α} {f : α → Reader β} (hr : Eats r) (hf : ∀ a, Regular (f a)) :
    Eats (r >>= f) := by
  intro s b rest h
  obtain ⟨a, behind, ha, hb⟩ := Scan.bind_eq_done h
  exact Nat.lt_of_le_of_lt ((hf a).shrinks hb) (hr _ _ _ ha)

@[simp] theorem Eats.map {r : Reader α} (f : α → β) (hr : Eats r) : Eats (f <$> r) := hr.bind fun a => .pure (f a)

@[simp] theorem Regular.ite {p : Prop} [Decidable p] {a b : Reader α} (ha : Regular a) (hb : Regular b) :
    Regular (if p then a else b) := by
  split
  · exact ha
  · exact hb

/-! ## One or another -/

theorem either_of_done {a b : Reader α} {s rest : List UInt8} {x : α} (h : a s = .done x rest) :
    either a b s = .done x rest := by
  rw [either, h]

theorem either_of_refused {a b : Reader α} {s : List UInt8} (h : a s = .refused) : either a b s = b s := by
  rw [either, h]

/-- **One reader, or another in its place.**  What the first one refuses it refuses whatever arrives. -/
@[simp] theorem Regular.either {a b : Reader α} (ha : Regular a) (hb : Regular b) : Regular (either a b) := by
  have hmore : ∀ {s}, a s = .more → Reader.either a b s = .more := fun h => by rw [Reader.either, h]
  refine .intro (fun s x rest h t => ?_) (fun s h t => ?_) fun s x rest h => ?_
  · cases hs : a s with
    | done y behind =>
      rw [either_of_done hs] at h
      cases h
      exact either_of_done (ha.done hs t)
    | more => rw [hmore hs] at h; cases h
    | refused =>
      rw [either_of_refused hs] at h
      rw [either_of_refused (ha.refused hs t)]
      exact hb.done h t
  · cases hs : a s with
    | done y behind => rw [either_of_done hs] at h; cases h
    | more => rw [hmore hs] at h; cases h
    | refused =>
      rw [either_of_refused hs] at h
      rw [either_of_refused (ha.refused hs t)]
      exact hb.refused h t
  · cases hs : a s with
    | done y behind =>
      rw [either_of_done hs] at h
      cases h
      exact ha.leaves _ _ _ hs
    | more => rw [hmore hs] at h; cases h
    | refused =>
      rw [either_of_refused hs] at h
      exact hb.leaves _ _ _ h

@[simp] theorem Eats.either {a b : Reader α} (ha : Eats a) (hb : Eats b) : Eats (either a b) := by
  intro s x rest h
  cases hs : a s with
  | done y behind =>
    rw [either_of_done hs] at h
    cases h
    exact ha _ _ _ hs
  | more => rw [Reader.either, hs] at h; cases h
  | refused =>
    rw [either_of_refused hs] at h
    exact hb _ _ _ h

@[simp] theorem Regular.firstOf : ∀ {rs : List (Reader α)}, (∀ r ∈ rs, Regular r) → Regular (firstOf rs)
  | [], _ => .refuse
  | _ :: _, h => .either (h _ List.mem_cons_self) (.firstOf fun r hr => h r (List.mem_cons_of_mem _ hr))

@[simp] theorem Eats.firstOf : ∀ {rs : List (Reader α)}, (∀ r ∈ rs, Eats r) → Eats (firstOf rs)
  | [], _ => fun _ _ _ h => by cases h
  | _ :: _, h => .either (h _ List.mem_cons_self) (.firstOf fun r hr => h r (List.mem_cons_of_mem _ hr))

@[simp] theorem Regular.optional {r : Reader α} (hr : Regular r) : Regular (optional r) := (hr.map some).either (.pure none)

/-! ## Octets -/

@[simp] theorem Regular.octet (p : UInt8 → Bool) : Regular (octet p) := by
  refine .intro (fun s b rest h t => ?_) (fun s h t => ?_) fun s b rest h => ?_
  all_goals
    cases s with
    | nil => cases h
    | cons c s =>
      rw [Reader.octet] at h
      by_cases hp : p c = true
      · rw [if_pos hp] at h
        cases h <;> simp [Reader.octet, hp]
      · rw [if_neg hp] at h
        cases h <;> simp [Reader.octet, hp]

@[simp] theorem Eats.octet (p : UInt8 → Bool) : Eats (octet p) := by
  intro s b rest h
  cases s with
  | nil => cases h
  | cons c s =>
    rw [Reader.octet] at h
    split at h <;> cases h
    exact Nat.lt_succ_self _

theorem keyword_cons (b : UInt8) (bs : List UInt8) :
    keyword (b :: bs) = (Reader.octet (fun c => lower c = lower b) >>= fun _ => keyword bs) := by
  funext s
  cases s with
  | nil => rfl
  | cons c s =>
    by_cases h : lower c = lower b <;> simp [keyword, bind_apply, Reader.octet, Scan.bind, h]

@[simp] theorem Regular.keyword : ∀ bs, Regular (keyword bs)
  | [] => .pure ()
  | b :: bs => by
    rw [keyword_cons]
    exact (Regular.octet _).bind fun _ => .keyword bs

@[simp] theorem Regular.word (w : String) : Regular (word w) := .keyword _

@[simp] theorem Eats.word {w : String} (h : w ≠ "") : Eats (word w) := by
  have hne : ascii w ≠ [] := fun h' => h (String.toList_injective (by simpa [ascii] using h'))
  obtain ⟨b, bs, hb⟩ := List.exists_cons_of_ne_nil hne
  rw [Reader.word, hb, keyword_cons]
  exact (Eats.octet _).bind fun _ => .keyword bs

/-- A class of octets: one of it and then as many as there are, or none where the next is of no such class. -/
theorem span_cons (p : UInt8 → Bool) (b : UInt8) (s : List UInt8) :
    span p (b :: s) = if p b then Scan.bind (span p s) fun bs => Pure.pure (b :: bs) else .done [] (b :: s) := by
  rw [span]
  split
  · cases span p s <;> rfl
  · rfl

theorem span_append {p : UInt8 → Bool} {s rest : List UInt8} {b : UInt8} (hs : ∀ c ∈ s, p c = true) (hb : p b = false) :
    span p (s ++ b :: rest) = .done s (b :: rest) := by
  induction s with
  | nil => rw [List.nil_append, span_cons, hb]; rfl
  | cons c s ih =>
    rw [List.cons_append, span_cons, if_pos (hs c List.mem_cons_self), ih fun d hd => hs d (List.mem_cons_of_mem _ hd)]
    rfl

@[simp] theorem Regular.span (p : UInt8 → Bool) : Regular (span p) := by
  have hd : ∀ s bs rest, Reader.span p s = .done bs rest →
      (∀ t, Reader.span p (s ++ t) = .done bs (rest ++ t)) ∧ rest <:+ s := by
    intro s
    induction s with
    | nil => exact fun _ _ h => by cases h
    | cons b s ih =>
      intro bs rest h
      rw [span_cons] at h
      by_cases hp : p b = true
      · rw [if_pos hp] at h
        obtain ⟨cs, behind, hs, hc⟩ := Scan.bind_eq_done h
        cases hc
        obtain ⟨ht, hle⟩ := ih cs rest hs
        refine ⟨fun t => ?_, hle.trans (List.suffix_cons b s)⟩
        rw [List.cons_append, span_cons, if_pos hp, ht t]
        rfl
      · rw [if_neg hp] at h
        cases h
        exact ⟨fun t => by rw [List.cons_append, span_cons, if_neg hp], List.suffix_rfl⟩
  have hn : ∀ s, Reader.span p s ≠ .refused := by
    intro s
    induction s with
    | nil => exact fun h => by cases h
    | cons b s ih =>
      rw [span_cons]
      split
      · cases hs : Reader.span p s with
        | refused => exact absurd hs ih
        | _ => exact fun h => by cases h
      · exact fun h => by cases h
  exact .intro (fun s a rest h => (hd s a rest h).1) (fun s h => absurd h (hn s)) fun s a rest h => (hd s a rest h).2

@[simp] theorem Regular.span1 (p : UInt8 → Bool) : Regular (span1 p) := by simp [Reader.span1]

@[simp] theorem Eats.span1 (p : UInt8 → Bool) : Eats (span1 p) := by simp [Reader.span1]

@[simp] theorem Regular.take (n : Nat) : Regular (take n) := by
  have hshort : ∀ s : List UInt8, s.length < n → Reader.take n s = .more := fun s h => if_pos h
  have hlong : ∀ s : List UInt8, n ≤ s.length → Reader.take n s = .done (s.take n) (s.drop n) :=
    fun s h => if_neg (Nat.not_lt_of_le h)
  refine .intro (fun s a rest h t => ?_) (fun s h t => ?_) fun s a rest h => ?_
  all_goals
    rcases Nat.lt_or_ge s.length n with hn | hn
    · rw [hshort s hn] at h
      cases h
    rw [hlong s hn] at h
    cases h
  · rw [hlong _ (by rw [List.length_append]; omega), List.take_append_of_le_length hn, List.drop_append_of_le_length hn]
  · exact List.drop_suffix n s

/-! ## Several -/

theorem manyUpTo_of_done {r : Reader α} {s rest : List UInt8} {a : α} (limit : Nat) (h : r s = .done a rest) :
    manyUpTo r (limit + 1) s = Scan.bind (manyUpTo r limit rest) fun as => Pure.pure (a :: as) := by
  simp only [manyUpTo, h]
  cases manyUpTo r limit rest <;> rfl

theorem manyUpTo_of_more {r : Reader α} {s : List UInt8} (limit : Nat) (h : r s = .more) :
    manyUpTo r (limit + 1) s = .more := by
  simp only [manyUpTo, h]

theorem manyUpTo_of_refused {r : Reader α} {s : List UInt8} (limit : Nat) (h : r s = .refused) :
    manyUpTo r (limit + 1) s = .done [] s := by
  simp only [manyUpTo, h]

/-- As many values as there are stay as many, where the limit is not reached. -/
theorem manyUpTo_done {r : Reader α} (hr : Regular r) (he : Eats r) {limit : Nat} :
    ∀ {s rest : List UInt8} {as : List α}, manyUpTo r limit s = .done as rest → s.length < limit →
      rest <:+ s ∧ ∀ (t : List UInt8) (m : Nat), (s ++ t).length < m →
        manyUpTo r m (s ++ t) = .done as (rest ++ t) := by
  induction limit with
  | zero => exact fun _ hl => absurd hl (Nat.not_lt_zero _)
  | succ limit ih =>
    intro s rest as h hl
    cases hs : r s with
    | done a behind =>
      have hlt := he s a behind hs
      rw [manyUpTo_of_done limit hs] at h
      obtain ⟨as', behind', hm, ha⟩ := Scan.bind_eq_done h
      cases ha
      obtain ⟨hle, hb⟩ := ih hm (by omega)
      refine ⟨hle.trans (hr.leaves s a behind hs), fun t m hm' => ?_⟩
      -- the value ate an octet, so one less is limit enough for what stands behind it
      obtain ⟨m, rfl⟩ := Nat.exists_eq_add_one_of_ne_zero (Nat.ne_zero_of_lt hm')
      have hlen : (behind ++ t).length < m := by
        rw [List.length_append] at hm' ⊢
        omega
      rw [manyUpTo_of_done m (hr.done hs t), hb t m hlen]
      rfl
    | more => rw [manyUpTo_of_more limit hs] at h; cases h
    | refused =>
      rw [manyUpTo_of_refused limit hs] at h
      cases h
      refine ⟨List.suffix_rfl, fun t m hm => ?_⟩
      obtain ⟨m, rfl⟩ := Nat.exists_eq_add_one_of_ne_zero (Nat.ne_zero_of_lt hm)
      exact manyUpTo_of_refused m (hr.refused hs t)

theorem manyUpTo_ne_refused (r : Reader α) (limit : Nat) (s : List UInt8) : manyUpTo r limit s ≠ .refused := by
  induction limit generalizing s with
  | zero => exact fun h => by cases h
  | succ limit ih =>
    cases hs : r s with
    | done a rest =>
      rw [manyUpTo_of_done limit hs]
      cases hm : manyUpTo r limit rest with
      | refused => exact absurd hm (ih rest)
      | _ => exact fun h => by cases h
    | more => rw [manyUpTo_of_more limit hs]; exact fun h => by cases h
    | refused => rw [manyUpTo_of_refused limit hs]; exact fun h => by cases h

@[simp] theorem Regular.many {r : Reader α} (hr : Regular r) (he : Eats r) : Regular (many r) :=
  .intro (fun _ _ _ h t => (manyUpTo_done hr he h (Nat.lt_succ_self _)).2 t _ (Nat.lt_succ_self _))
    (fun s h => absurd h (manyUpTo_ne_refused r _ s))
    fun _ _ _ h => (manyUpTo_done hr he h (Nat.lt_succ_self _)).1

theorem many_nil {r : Reader α} {s : List UInt8} (h : r s = .refused) : many r s = .done [] s :=
  manyUpTo_of_refused _ h

/-- **One value, and as many as there are behind it.** -/
theorem many_cons {r : Reader α} (hr : Regular r) (he : Eats r) {s rest behind : List UInt8} {a : α} {as : List α}
    (h : r s = .done a rest) (hm : many r rest = .done as behind) : many r s = .done (a :: as) behind := by
  have hle := he s a rest h
  have hbehind := (manyUpTo_done hr he hm (Nat.lt_succ_self _)).2 [] s.length (by simpa using hle)
  rw [List.append_nil, List.append_nil] at hbehind
  rw [many, manyUpTo_of_done _ h, hbehind]
  rfl

theorem Regular.word_then (w : String) {r : Reader α} (hr : Regular r) : Regular (do Reader.word w; r) :=
  (Regular.word w).bind fun _ => hr

theorem Eats.word_then (w : String) (h : w ≠ "") {r : Reader α} (hr : Regular r) : Eats (do Reader.word w; r) :=
  (Eats.word h).bind fun _ => hr

theorem bind_reads {r : Reader α} {f : α → Reader β} (hr : Regular r) (he : Eats r) (hf : ∀ a, Regular (f a)) :
    Regular (r >>= f) ∧ Eats (r >>= f) := ⟨hr.bind hf, he.bind hf⟩

theorem word_then_reads (w : String) (h : w ≠ "") {r : Reader α} (hr : Regular r) :
    Regular (do word w; r) ∧ Eats (do word w; r) := ⟨.word_then w hr, .word_then w h hr⟩

theorem Regular.spaced {r : Reader α} (hr : Regular r) : Regular (spaced r) :=
  hr.bind fun _ => (Regular.many (.word_then _ hr) (.word_then " " (by decide) hr)).bind fun _ => .pure _

theorem Regular.parenthesized {r : Reader α} (hr : Regular r) : Regular (parenthesized r) :=
  .word_then _ <| hr.spaced.optional.bind fun _ => .word_then _ <| .pure _

@[simp] theorem Regular.numberBelow (bound : Nat) : Regular (numberBelow bound) := by simp [Reader.numberBelow]

@[simp] theorem Eats.numberBelow (bound : Nat) : Eats (numberBelow bound) := by simp [Reader.numberBelow]

@[simp] theorem Regular.number : Regular number := by simp [Reader.number]

@[simp] theorem Eats.number : Eats number := by simp [Reader.number]

end Reader

open Reader

/-! ## Strings -/

theorem quotedRest_done {s bs rest : List UInt8} (h : quotedRest s = .done bs rest) :
    rest <:+ s ∧ ∀ t, quotedRest (s ++ t) = .done bs (rest ++ t) := by
  fun_induction quotedRest s generalizing bs with
  | case1 => cases h
  | case2 s =>
    cases h
    exact ⟨List.suffix_cons _ _, fun t => by rw [List.cons_append, quotedRest.eq_def]; rfl⟩
  | case3 => cases h
  | case4 c s hc bs' rest' hs _ ih =>
    cases h
    obtain ⟨hle, ht⟩ := ih hs
    have hbefore := hle.trans ((List.suffix_cons c s).trans (List.suffix_cons 0x5C (c :: s)))
    exact ⟨hbefore, fun t => by simp [quotedRest, hc, ht t]⟩
  | case5 c s hc _ hn => exact absurd h (hn _ _)
  | case6 => cases h
  | case7 b s hq hb hi bs' rest' hs ih =>
    cases h
    obtain ⟨hle, ht⟩ := ih hs
    refine ⟨hle.trans (List.suffix_cons b s), fun t => ?_⟩
    rw [List.cons_append, quotedRest.eq_def]
    simp [hq, hb, hi, ht t]
  | case8 b s hq hb hi hn => exact absurd h (hn _ _)
  | case9 => cases h

theorem quotedRest_refused {s : List UInt8} (h : quotedRest s = .refused) (t : List UInt8) :
    quotedRest (s ++ t) = .refused := by
  fun_induction quotedRest s with
  | case5 c s hc _ hn ih => simp [quotedRest, hc, ih h]
  | case6 c s hc => simp [quotedRest, hc]
  | case8 b s hq hb hi hn ih =>
    rw [List.cons_append, quotedRest.eq_def]
    simp [hq, hb, hi, ih h]
  | case9 b s hq hb hi =>
    rw [List.cons_append, quotedRest.eq_def]
    simp [hq, hb, hi]
  | _ => cases h

theorem regular_quotedRest : Regular quotedRest :=
  .intro (fun _ _ _ h => (quotedRest_done h).2) (fun _ h => quotedRest_refused h) fun _ _ _ h => (quotedRest_done h).1

theorem regular_quoted : Regular quoted := .word_then _ regular_quotedRest

theorem regular_string : Regular string :=
  .either (.word_then _ <| .bind .number fun _ => .word_then _ <| .take _) regular_quoted

theorem regular_nstring : Regular nstring := .either (.word_then _ <| .pure _) (.map _ regular_string)

theorem regular_ntext : Regular ntext := .map _ regular_nstring

theorem regular_astring : Regular astring := .either (.span1 _) regular_string

theorem regular_flag : Regular flag := .bind (.optional <| .word _) fun _ => .bind (.span1 _) fun _ => .pure _

/-! ## Items -/

theorem regular_address : Regular address :=
  .word_then _ <| .bind regular_ntext fun _ => .word_then _ <| .bind regular_nstring fun _ =>
    .word_then _ <| .bind regular_ntext fun _ => .word_then _ <| .bind regular_ntext fun _ =>
      .word_then _ <| .pure _

theorem eats_address : Eats address :=
  .word_then "(" (by decide) <| .bind regular_ntext fun _ => .word_then _ <| .bind regular_nstring fun _ =>
    .word_then _ <| .bind regular_ntext fun _ => .word_then _ <| .bind regular_ntext fun _ =>
      .word_then _ <| .pure _

/-- An address as it stands in a list, with the space that may follow it. -/
def listed : Reader Address := do
  let a ← address
  let _ ← optional (word " ")
  return a

theorem regular_listed : Regular listed := regular_address.bind fun _ => (Regular.word _).optional.bind fun _ => .pure _

theorem eats_listed : Eats listed := eats_address.bind fun _ => (Regular.word _).optional.bind fun _ => .pure _

theorem regular_addresses : Regular addresses :=
  .either (.word_then _ <| .pure _) <| .word_then _ <| .bind regular_listed fun _ =>
    .bind (.many regular_listed eats_listed) fun _ => .word_then _ <| .pure _

theorem regular_envelope : Regular envelope :=
  .word_then _ <| .bind regular_ntext fun _ => .word_then _ <| .bind regular_ntext fun _ =>
    .word_then _ <| .bind regular_addresses fun _ => .word_then _ <| .bind regular_addresses fun _ =>
      .word_then _ <| .bind regular_addresses fun _ => .word_then _ <| .bind regular_addresses fun _ =>
        .word_then _ <| .bind regular_addresses fun _ => .word_then _ <| .bind regular_addresses fun _ =>
          .word_then _ <| .bind regular_nstring fun _ => .word_then _ <| .bind regular_ntext fun _ =>
            .word_then _ <| .pure _

theorem regular_wholeSection : Regular wholeSection := by
  have hfields : Regular (do
      word "HEADER.FIELDS"
      let _ ← optional (word ".NOT")
      word " "
      let _ ← parenthesized astring) :=
    .word_then _ <| .bind (.optional <| .word _) fun _ => .word_then _ <|
      .bind (.parenthesized regular_astring) fun _ => .pure _
  have hnamed := Regular.either hfields <| .either (.word "HEADER") <| .either (.word "TEXT") <|
    .either (.word "MIME") .refuse
  refine .map _ <| .optional <| .either hnamed ?_
  refine .bind .number fun _ => .bind (.many (.word_then _ .number) (.word_then "." (by decide) .number)) fun _ => ?_
  exact .bind (.optional <| .word_then _ hnamed) fun _ => .pure _

theorem regular_bodySection : Regular bodySection := by
  refine .word_then _ <| .bind regular_wholeSection fun whole => .word_then _ <| .bind (.optional ?_) fun _ => ?_
  · exact .word_then _ <| .bind .number fun _ => .word _
  · exact .word_then _ <| .bind regular_nstring fun _ => .pure _

theorem regular_item : Regular item :=
  .either (.word_then _ <| .map _ .number) <|
  .either (.word_then _ <| .map _ regular_envelope) <|
  .either regular_bodySection <|
  .either (.word_then _ <| .bind .number fun _ => .pure _) <|
  .either (.word_then _ <| .bind regular_nstring fun _ => .pure _) <|
  .either (.word_then _ <| .bind regular_nstring fun _ => .pure _) <|
  .either (.word_then _ <| .map _ regular_nstring) <|
  .either (.word_then _ <| .bind (.parenthesized regular_flag) fun _ => .pure _) <|
  .either (.word_then _ <| .bind regular_string fun _ => .pure _) <|
  .either (.word_then _ <| .bind (.numberBelow _) fun _ => .word_then _ <| .pure _) .refuse

/-! ## Conditions -/

theorem regular_capabilities : Regular capabilities := by
  have hatom : Regular (capability <$> span1 isAtom) := .map _ (.span1 _)
  refine .word_then _ <| .bind (.many (.word_then _ hatom) (.word_then " " (by decide) hatom)) fun _ => ?_
  exact .ite (.pure _) .refuse

theorem regular_code : Regular code := by
  have hflag := Regular.parenthesized <| .either (.word_then "\\*" <| .pure [0x5C, 0x2A]) regular_flag
  refine .word_then _ <| .bind ?_ fun _ => .word_then _ <| .pure _
  exact .either (.word_then _ <| .pure _) <|
    .either (.word_then _ <| .bind (.optional <| .word_then _ <| .parenthesized regular_astring) fun _ => .pure _) <|
    .either (.map _ regular_capabilities) <|
    .either (.word_then _ <| .pure _) <|
    .either (.word_then _ <| .map _ hflag) <|
    .either (.word_then _ <| .map _ .number) <|
    .either (.word_then _ <| .map _ .number) <|
    .either (.word_then _ <| .map _ .number) <|
    .either (.word_then _ <| .pure _) <|
    .either (.word_then _ <| .pure _) <|
    .either (.word_then _ <| .pure _) <|
    .either (.word_then _ <| .pure _) <|
    .either (.word_then _ <| .map _ (.numberBelow _)) .refuse

theorem regular_remark : Regular remark :=
  .bind (.optional regular_code) fun _ => .bind (.span _) fun _ => .pure _

theorem regular_status : Regular status :=
  .either (.word_then _ <| .pure _) <|
  .either (.word_then _ <| .pure _) <|
  .either (.word_then _ <| .pure _) <|
  .either (.word_then _ <| .pure _) <|
  .either (.word_then _ <| .pure _) .refuse

theorem regular_condition : Regular condition :=
  .bind regular_status fun _ => .bind (.optional <| .word_then _ regular_remark) fun _ => .pure _

/-! ## Responses -/

theorem regular_messageData : Regular messageData := by
  refine .bind .number fun n => .word_then _ ?_
  exact .either (.word_then _ <| .pure _) <|
    .either (.word_then _ <| .pure _) <|
    .either (.word_then _ <| .pure _) <|
    .either (.word_then _ <| .bind (.spaced regular_item) fun _ => .bind (.span _) fun _ =>
      .word_then _ <| .pure _) .refuse

theorem goOn_reads : Regular goOn ∧ Eats goOn :=
  word_then_reads "+" (by decide) <| .bind (.optional <| .word _) fun _ => .bind regular_remark fun _ =>
    .word_then _ <| .pure _

theorem data_reads : Regular data ∧ Eats data := by
  refine word_then_reads "* " (by decide) <| .bind ?_ fun _ => .bind (.span _) fun _ => .word_then _ <| .pure _
  exact .either (.bind regular_condition fun _ => .pure _) <|
    .either regular_messageData <|
    .either (.word_then _ <| .bind (.parenthesized regular_flag) fun _ => .pure _) <|
    .either (.word_then _ <| .bind (.parenthesized regular_flag) fun _ => .word_then _ <|
      .bind (.either (.word_then _ <| .pure _) regular_quoted) fun _ => .word_then _ <|
        .bind regular_astring fun _ => .pure _) <|
    .either (.word_then _ <| .bind (.many (.word_then _ .number) (.word_then " " (by decide) .number)) fun _ =>
      .pure _) <|
    .either (.bind regular_capabilities fun _ => .pure _) .refuse

theorem tagged_reads : Regular tagged ∧ Eats tagged :=
  bind_reads (.span1 _) (.span1 _) fun _ => .word_then _ <| .bind regular_condition fun _ => .word_then _ <| .pure _

/-- **Every response is regular**: once it is read, it is the same whatever arrives behind it. -/
theorem regular_response : Regular response :=
  .either goOn_reads.1 <| .either data_reads.1 <| .either tagged_reads.1 .refuse

theorem eats_response : Eats response :=
  .either goOn_reads.2 <| .either data_reads.2 <| .either tagged_reads.2 fun _ _ _ h => by cases h

end Imap
end Postbag
