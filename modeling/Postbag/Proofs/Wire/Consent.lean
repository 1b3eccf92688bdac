import Postbag.Proofs.Wire.Answers
/-!
# Consent — what it takes that a command succeeds

A command that only succeeds or fails is granted by one line and no other: the line with its own tag, with the status
`OK`, which is read after responses that are not the end of a command, or the end of another one that succeeded.
Whatever else a server says, what it says of other commands and what breaks off, grants nothing.
-/
namespace Postbag
namespace Wire

open Imap (Response Status Remark)

/-- Responses at the front of octets, one after another, and the octets behind them. -/
inductive ReadAs : List UInt8 → List Response → List UInt8 → Prop
  | nil (octets : List UInt8) : ReadAs octets [] octets
  | cons {octets rest behind : List UInt8} {r : Response} {rs : List Response} (h : Imap.response octets = .done r rest)
    (hs : ReadAs rest rs behind) : ReadAs octets (r :: rs) behind

/-- A response that says nothing of a command with the tag. -/
def PassedOver (tag : List UInt8) (r : Response) : Prop :=
  ∀ t s remark, r = .tagged t s remark → s = .ok ∧ t ≠ tag

/-- **A command with the tag is granted in octets**, up to those behind its own line. -/
def Granted (tag octets behind : List UInt8) : Prop :=
  ∃ rs remark, ReadAs octets (rs ++ [.tagged tag .ok remark]) behind ∧ ∀ r ∈ rs, PassedOver tag r

namespace Feed

theorem ofOctets_of_done {octets rest : List UInt8} {r : Response} (h : Imap.response octets = .done r rest) :
    ofOctets octets = .response r rest (ofOctets rest) := by
  have hlt := Imap.eats_response _ _ _ h
  cases octets with
  | nil => exact absurd hlt (Nat.not_lt_zero _)
  | cons b bs =>
    rw [ofOctets, List.length_cons, upTo, h]
    exact congrArg _ (upTo_eq (Nat.le_of_lt_succ hlt) (Nat.le_refl _))

/-- Octets hold a response at their front, or none is heard. -/
theorem ofOctets_cases (octets : List UInt8) :
    (∃ r rest, Imap.response octets = .done r rest ∧ ofOctets octets = .response r rest (ofOctets rest)) ∨
      ofOctets octets = .ended ∨ ∃ f, ofOctets octets = .fault f := by
  cases octets with
  | nil => exact .inr (.inl rfl)
  | cons b bs =>
    cases hr : Imap.response (b :: bs) with
    | done r rest => exact .inl ⟨r, rest, rfl, ofOctets_of_done hr⟩
    | _ =>
      rw [ofOctets, List.length_cons, upTo, hr]
      exact .inr (.inr ⟨_, rfl⟩)

end Feed

theorem Granted.behind_passedOver {tag octets rest behind : List UInt8} {r : Response}
    (hr : Imap.response octets = .done r rest) (hp : PassedOver tag r) (h : Granted tag rest behind) :
    Granted tag octets behind := by
  obtain ⟨rs, remark, hread, hpassed⟩ := h
  exact ⟨r :: rs, remark, .cons hr hread, List.forall_mem_cons.2 ⟨hp, hpassed⟩⟩

/-! ## Where a command is granted

What was said before a command is read together with the answer to it, so the line that grants the command may have
been said too early. -/

/-- **The line that grants a command begins where those octets are left**, behind responses that say nothing of it. -/
def GrantedAt (tag octets own : List UInt8) : Prop :=
  ∃ rs remark behind, ReadAs octets rs own ∧ (∀ r ∈ rs, PassedOver tag r) ∧
    Imap.response own = .done (.tagged tag .ok remark) behind

/-- The line that grants a command begins before the answer does. -/
def GrantedEarly (tag early answer : List UInt8) : Prop :=
  ∃ front rest, early = front ++ rest ∧ rest ≠ [] ∧ GrantedAt tag (early ++ answer) (rest ++ answer)

/-- The line that grants a command stands in the answer; before it, the answer may end what was begun earlier. -/
def GrantedByAnswer (tag early answer : List UInt8) : Prop :=
  ∃ front own, answer = front ++ own ∧ GrantedAt tag (early ++ answer) own

section ReadAs

variable {octets rest behind : List UInt8} {rs rs' : List Response}

theorem ReadAs.append (h : ReadAs octets rs rest) (h' : ReadAs rest rs' behind) : ReadAs octets (rs ++ rs') behind := by
  induction h with
  | nil => exact h'
  | cons hr _ ih => exact .cons hr (ih h')

theorem ReadAs.cut (h : ReadAs octets (rs ++ rs') behind) : ∃ rest, ReadAs octets rs rest ∧ ReadAs rest rs' behind := by
  induction rs generalizing octets with
  | nil => exact ⟨octets, .nil octets, h⟩
  | cons r rs ih =>
    cases h with
    | cons hr hs =>
      obtain ⟨rest, hfront, hback⟩ := ih hs
      exact ⟨rest, .cons hr hfront, hback⟩

theorem ReadAs.suffix (h : ReadAs octets rs behind) : behind <:+ octets := by
  induction h with
  | nil => exact List.suffix_refl _
  | cons hr _ ih => exact ih.trans (Imap.regular_response.leaves _ _ _ hr)

/-- What was read is read alike when more has been said. -/
theorem ReadAs.more (h : ReadAs octets rs behind) (more : List UInt8) : ReadAs (octets ++ more) rs (behind ++ more) := by
  induction h with
  | nil => exact .nil _
  | cons hr _ ih => exact .cons (Imap.regular_response.done hr more) ih

end ReadAs

theorem not_passedOver_granting (tag : List UInt8) (remark : Remark) : ¬ PassedOver tag (.tagged tag .ok remark) :=
  fun hp => (hp _ _ _ rfl).2 rfl

section GrantedAt

variable {tag octets rest own : List UInt8}

theorem granted_iff_grantedAt : (∃ behind, Granted tag octets behind) ↔ ∃ own, GrantedAt tag octets own := by
  constructor
  · rintro ⟨behind, rs, remark, hread, hpassed⟩
    obtain ⟨own, hfront, hown⟩ := hread.cut
    cases hown with
    | cons hr _ => exact ⟨own, rs, remark, _, hfront, hpassed, hr⟩
  · rintro ⟨own, rs, remark, behind, hfront, hpassed, hr⟩
    exact ⟨behind, rs, remark, hfront.append (.cons hr (.nil _)), hpassed⟩

/-- **What says nothing of a command may as well not have been said.** -/
theorem grantedAt_iff_of_readAs {rs : List Response} (h : ReadAs octets rs rest) (hp : ∀ r ∈ rs, PassedOver tag r) :
    GrantedAt tag octets own ↔ GrantedAt tag rest own := by
  induction h with
  | nil => rfl
  | cons hr _ ih =>
    rw [List.forall_mem_cons] at hp
    rw [← ih hp.2]
    constructor
    · rintro ⟨rs', remark, behind, hread, hpassed, hown⟩
      cases hread with
      | nil =>
        -- the first line is passed over, so it is not the one that grants
        rw [hr] at hown
        cases hown
        exact absurd hp.1 (not_passedOver_granting tag remark)
      | cons hr' hs' =>
        rw [hr] at hr'
        cases hr'
        exact ⟨_, remark, behind, hs', fun r hm => hpassed r (List.mem_cons_of_mem _ hm), hown⟩
    · rintro ⟨rs', remark, behind, hread, hpassed, hown⟩
      exact ⟨_, remark, behind, .cons hr hread, List.forall_mem_cons.2 ⟨hp.1, hpassed⟩, hown⟩

/-- One line grants a command, and no other. -/
theorem GrantedAt.unique {own' : List UInt8} (h : GrantedAt tag octets own) (h' : GrantedAt tag octets own') :
    own = own' := by
  obtain ⟨rs, remark, behind, hread, hpassed, hown⟩ := h
  obtain ⟨rs', remark', behind', hread', hpassed', hown'⟩ := (grantedAt_iff_of_readAs hread hpassed).1 h'
  cases hread' with
  | nil => rfl
  | cons hr hs =>
    rw [hown] at hr
    cases hr
    exact absurd (hpassed' _ List.mem_cons_self) (not_passedOver_granting tag remark)

theorem GrantedAt.suffix (h : GrantedAt tag octets own) : own <:+ octets := by
  obtain ⟨rs, remark, behind, hread, -, -⟩ := h
  exact hread.suffix

end GrantedAt

section Early

variable {tag early answer : List UInt8}

/-- **The line that grants a command was said too early, or stands in the answer.** -/
theorem granted_append_iff :
    (∃ behind, Granted tag (early ++ answer) behind) ↔ GrantedEarly tag early answer ∨ GrantedByAnswer tag early answer := by
  rw [granted_iff_grantedAt]
  constructor
  · rintro ⟨own, h⟩
    obtain ⟨front, hcut⟩ := h.suffix
    rcases List.append_eq_append_iff.1 hcut with ⟨part, hearly, rfl⟩ | ⟨part, -, hanswer⟩
    · by_cases hpart : part = []
      · -- the line begins just where the answer does
        subst hpart
        exact .inr ⟨[], answer, rfl, h⟩
      · exact .inl ⟨front, part, hearly, hpart, h⟩
    · exact .inr ⟨part, own, hanswer, h⟩
  · rintro (⟨front, rest, -, -, h⟩ | ⟨front, own, -, h⟩)
    · exact ⟨_, h⟩
    · exact ⟨_, h⟩

theorem GrantedEarly.not_byAnswer (h : GrantedEarly tag early answer) : ¬ GrantedByAnswer tag early answer := by
  rintro ⟨front, own, hanswer, hown⟩
  obtain ⟨front', rest, -, hrest, hearly⟩ := h
  have hlength := congrArg List.length (hearly.unique hown)
  have hanswerLength := congrArg List.length hanswer
  have hpos := List.length_pos_iff.2 hrest
  rw [List.length_append] at hlength hanswerLength
  omega

theorem grantedEarly_of_response {behind : List UInt8} {remark : Remark}
    (h : Imap.response early = .done (.tagged tag .ok remark) behind) : GrantedEarly tag early answer := by
  have hearly : early ≠ [] := by
    rintro rfl
    exact absurd (Imap.eats_response _ _ _ h) (Nat.not_lt_zero _)
  have hown : Imap.response (early ++ answer) = .done (.tagged tag .ok remark) (behind ++ answer) :=
    Imap.regular_response.done h answer
  exact ⟨[], early, rfl, hearly, [], remark, _, .nil _, (fun _ hm => by cases hm), hown⟩

/-- **What was said early grants nothing** where it is whole responses that say nothing of the command. -/
theorem not_grantedEarly_of_readAs {rs : List Response} (h : ReadAs early rs []) (hp : ∀ r ∈ rs, PassedOver tag r) :
    ¬ GrantedEarly tag early answer := by
  rintro ⟨front, rest, -, hrest, hearly⟩
  have hsuffix := ((grantedAt_iff_of_readAs (h.more answer) hp).1 hearly).suffix
  have hlength := hsuffix.length_le
  have hpos := List.length_pos_iff.2 hrest
  rw [List.length_append, List.nil_append] at hlength
  omega

end Early

namespace Feed

theorem outcome_of_passedOver {tag : List UInt8} {r : Response} (hr : PassedOver tag r) (behind : List UInt8)
    (next : Feed) : (Feed.response r behind next).outcome tag = next.outcome tag := by
  cases r with
  | tagged t s remark =>
    obtain ⟨rfl, ht⟩ := hr t s remark rfl
    rw [outcome, if_neg ht]
  | _ => rfl

/-- What is not passed over is the end of the command, or a failure. -/
theorem outcome_of_not_passedOver {tag behind : List UInt8} {r : Response} (hr : ¬ PassedOver tag r) (next : Feed) :
    (∃ remark, r = .tagged tag .ok remark) ∨
      ∃ f, (Feed.response r behind next).outcome tag = ⟨.error f, some behind⟩ := by
  cases r with
  | tagged t s remark =>
    cases s with
    | ok =>
      have ht : t = tag := Classical.byContradiction fun ht => hr fun _ _ _ h => by
        cases h
        exact ⟨rfl, ht⟩
      exact .inl ⟨remark, by rw [ht]⟩
    | _ => exact .inr ⟨_, rfl⟩
  | _ => exact absurd (fun _ _ _ h => by cases h) hr

theorem granted_of_outcome {tag octets behind : List UInt8}
    (h : (ofOctets octets).outcome tag = ⟨.ok (), some behind⟩) : Granted tag octets behind := by
  -- by recursion on the octets, of which each response is at least one
  rcases ofOctets_cases octets with ⟨r, rest, hr, he⟩ | he | ⟨f, he⟩
  · have hlt := Imap.eats_response _ _ _ hr
    rw [he] at h
    by_cases hp : PassedOver tag r
    · rw [outcome_of_passedOver hp] at h
      exact .behind_passedOver hr hp (granted_of_outcome h)
    · rcases outcome_of_not_passedOver hp (ofOctets rest) with ⟨remark, rfl⟩ | ⟨f, hf⟩
      · rw [outcome, if_pos rfl] at h
        cases h
        exact ⟨[], remark, .cons hr (.nil _), fun _ hm => by cases hm⟩
      · rw [hf] at h
        cases h
  · rw [he] at h
    cases h
  · rw [he] at h
    cases h
termination_by octets.length

theorem outcome_of_granted {tag octets behind : List UInt8} (h : Granted tag octets behind) :
    (ofOctets octets).outcome tag = ⟨.ok (), some behind⟩ := by
  obtain ⟨rs, remark, hread, hpassed⟩ := h
  induction rs generalizing octets with
  | nil =>
    cases hread with
    | cons hr hs =>
      cases hs
      rw [ofOctets_of_done hr, outcome, if_pos rfl]
  | cons r rs ih =>
    cases hread with
    | cons hr hs =>
      rw [List.forall_mem_cons] at hpassed
      rw [ofOctets_of_done hr, outcome_of_passedOver hpassed.1]
      exact ih hs hpassed.2

/-- A command that succeeds leaves the octets behind its own line. -/
theorem left_of_outcome {tag : List UInt8} {f : Feed} (h : (f.outcome tag).value = .ok ()) :
    ∃ behind, f.outcome tag = ⟨.ok (), some behind⟩ := by
  induction f with
  | response r behind next ih =>
    by_cases hp : PassedOver tag r
    · rw [outcome_of_passedOver hp] at h ⊢
      exact ih h
    · rcases outcome_of_not_passedOver hp next with ⟨remark, rfl⟩ | ⟨f, hf⟩
      · exact ⟨behind, by rw [outcome, if_pos rfl]⟩
      · rw [hf] at h
        cases h
  | fault f => cases h
  | ended => cases h

/-- **A command succeeds where it is granted**, and nowhere else. -/
theorem outcome_eq_ok_iff (tag octets : List UInt8) :
    ((ofOctets octets).outcome tag).value = .ok () ↔ ∃ behind, Granted tag octets behind := by
  constructor
  · intro h
    obtain ⟨behind, hb⟩ := left_of_outcome h
    exact ⟨behind, granted_of_outcome hb⟩
  · rintro ⟨behind, h⟩
    rw [outcome_of_granted h]

end Feed
end Wire
end Postbag
