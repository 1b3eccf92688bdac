import Mathlib.Data.List.Infix
import Postbag.Proofs.Failure.Shows
/-!
# Wrapping — what is taken for a malformed ENVELOPE once it is wrapped

A wrapper puts words of its own before the text of a failure.  A known pattern could stand in these, or begin in them
and end in the text.  Neither can happen where the words are fixed, so a failure keeps its class however many wrappers
are around it.  A failed selection has the name of the mailbox among its words, and that may be anything: a name in
which a known pattern stands makes the selection look malformed.
-/
namespace Postbag

namespace Text

variable {α : Type}

/-- **What stands in two texts stands in one of them**, if it cannot be cut where they meet. -/
theorem infix_append_iff {p s t : List α}
    (h : ∀ n, 0 < n → n < p.length → ¬ (p.take n <:+ s ∧ p.drop n <+: t)) : p <:+: s ++ t ↔ p <:+: s ∨ p <:+: t := by
  refine ⟨?_, fun hp => hp.elim (fun hs => hs.trans (List.prefix_append s t).isInfix) fun ht =>
    ht.trans (List.suffix_append s t).isInfix⟩
  rintro ⟨a, b, hab⟩
  rcases List.append_eq_append_iff.1 hab with ⟨c, hs, -⟩ | ⟨c, hap, ht⟩
  · exact .inl ⟨a, c, hs.symm⟩
  rcases List.append_eq_append_iff.1 hap with ⟨d, hs, hp⟩ | ⟨d, -, hc⟩
  · -- `p` is cut where the texts meet: behind `d`, and before `c`
    by_cases hd : d = []
    · exact .inr ⟨[], b, by rw [ht, hp, hd]; rfl⟩
    by_cases hc : c = []
    · exact .inl ⟨a, [], by rw [hs, hp, hc, List.append_nil, List.append_nil]⟩
    have hlt : d.length < p.length := by
      rw [hp, List.length_append]
      exact Nat.lt_add_of_pos_right (List.length_pos_iff.2 hc)
    have hfront : p.take d.length <:+ s := by
      rw [hp, List.take_left]
      exact ⟨a, hs.symm⟩
    have hback : p.drop d.length <+: t := by
      rw [hp, List.drop_left]
      exact ⟨b, ht.symm⟩
    exact absurd ⟨hfront, hback⟩ (h d.length (List.length_pos_iff.2 hd) hlt)
  · exact .inr ⟨d, b, by rw [ht, hc]⟩

end Text

namespace Failure

/-! ## Words around a text -/

/-- No known pattern can begin in a text and end behind it. -/
def Closes (w : String) : Prop :=
  ∀ k ∈ knownPatterns, ∀ n < k.pattern.toList.length, 0 < n → ¬ k.pattern.toList.take n <:+ w.toList

/-- No known pattern can begin before a text and end in it or behind it. -/
def Opens (w : String) : Prop :=
  ∀ k ∈ knownPatterns, ∀ n < k.pattern.toList.length, 0 < n →
    ¬ k.pattern.toList.drop n <+: w.toList ∧ ¬ w.toList <+: k.pattern.toList.drop n

instance (w : String) : Decidable (Closes w) :=
  inferInstanceAs (Decidable (∀ k ∈ knownPatterns, ∀ n < k.pattern.toList.length, 0 < n →
    ¬ k.pattern.toList.take n <:+ w.toList))

instance (w : String) : Decidable (Opens w) :=
  inferInstanceAs (Decidable (∀ k ∈ knownPatterns, ∀ n < k.pattern.toList.length, 0 < n →
    ¬ k.pattern.toList.drop n <+: w.toList ∧ ¬ w.toList <+: k.pattern.toList.drop n))

theorem telling_append {w : String} (hw : Closes w) (t : String) : Telling (w ++ t) ↔ Telling w ∨ Telling t := by
  rw [Telling, Telling, Telling, ← exists_or]
  refine exists_congr fun k => ?_
  rw [← and_or_left, String.toList_append]
  refine and_congr_right fun hk => Text.infix_append_iff fun n hn hlt h => hw k hk n hlt hn h.1

theorem telling_append_of_opens {w : String} (hw : Opens w) (s t : String) :
    Telling (s ++ (w ++ t)) ↔ Telling s ∨ Telling (w ++ t) := by
  rw [Telling, Telling, Telling, ← exists_or]
  refine exists_congr fun k => ?_
  rw [← and_or_left, String.toList_append]
  refine and_congr_right fun hk => Text.infix_append_iff fun n hn hlt h => ?_
  -- two fronts of one text: the one is a front of the other
  have hfront : w.toList <+: (w ++ t).toList := by
    rw [String.toList_append]
    exact List.prefix_append _ _
  rcases List.prefix_or_prefix_of_prefix h.2 hfront with hp | hp
  · exact (hw k hk n hlt hn).1 hp
  · exact (hw k hk n hlt hn).2 hp

/-! ## A wrapper -/

theorem shows_of_words {kind : Failure → Prop} {words : String → Prop} {e : Failure} (h : words e.text)
    (sight : Sight) : Shows kind words sight e := by
  induction e generalizing sight with
  | boxed e ih => exact ih h sight
  | deviceCarrying e ih => exact ih h .text
  | io | select | fetch | collect | release | foreignOver => exact .inl h
  | _ => exact .inr h

/-- A wrapper that has no words but its own; a box has none. -/
inductive Wrapper
  | fetch
  | collect
  | release (malformed : Bool)
  | boxed
  deriving Repr, DecidableEq

namespace Wrapper

def layer : Wrapper → Layer
  | fetch => .fetch
  | collect => .collect
  | release malformed => .release malformed
  | boxed => .boxed

/-- What a wrapper puts before the text of a failure. -/
def words : Wrapper → String
  | fetch => "issuing fetch command failed: "
  | collect => "collecting message failed: "
  | release malformed => "releasing fetch command failed" ++ malformedNote malformed ++ ": "
  | boxed => ""

theorem text_around (w : Wrapper) (e : Failure) : (w.layer.around e).text = w.words ++ e.text := by
  cases w with
  | boxed => exact String.empty_append.symm
  | _ => rfl

theorem plain_words (w : Wrapper) : ¬ Telling w.words ∧ Closes w.words := by
  cases w with
  | release malformed => cases malformed <;> decide
  | _ => decide

/-- **The words of a wrapper neither hold a known pattern nor begin one.** -/
theorem telling_words_append (w : Wrapper) (t : String) : Telling (w.words ++ t) ↔ Telling t := by
  obtain ⟨hplain, hcloses⟩ := w.plain_words
  rw [telling_append hcloses, or_iff_right hplain]

/-- **A wrapper shows what the failure inside shows**, unless its own words make the difference. -/
theorem shows_around {kind : Failure → Prop} {words : String → Prop} (w : Wrapper) {e : Failure}
    (h : words (w.layer.around e).text → words e.text) :
    Shows kind words .whole (w.layer.around e) ↔ Shows kind words .whole e := by
  cases w with
  | boxed => exact Iff.rfl
  | _ => exact or_iff_right_of_imp fun ht => shows_of_words (h ht) .whole

end Wrapper

/-! ## Wrappers around wrappers -/

def nested (wrappers : List Wrapper) (e : Failure) : Failure := wrapped (wrappers.map Wrapper.layer) e

theorem shows_nested {kind : Failure → Prop} {words : String → Prop}
    (h : ∀ (w : Wrapper) t, words (w.words ++ t) → words t) (wrappers : List Wrapper) (e : Failure) :
    Shows kind words .whole (nested wrappers e) ↔ Shows kind words .whole e := by
  induction wrappers with
  | nil => exact Iff.rfl
  | cons w wrappers ih =>
    have hwords : words (w.layer.around (nested wrappers e)).text → words (nested wrappers e).text := by
      rw [w.text_around]
      exact h w _
    exact (w.shows_around hwords).trans ih

theorem isMalformed_nested (wrappers : List Wrapper) (e : Failure) : (nested wrappers e).isMalformed = e.isMalformed := by
  have htelling : ∀ (w : Wrapper) t, Telling (w.words ++ t) → Telling t := fun w t => (w.telling_words_append t).1
  rw [Bool.eq_iff_iff, isMalformed_iff, isMalformed_iff, ShowsMalformed, ShowsMalformed, shows_nested fun _ _ => id,
    shows_nested htelling]

theorem isMalformed_fetch (e : Failure) : (fetch e).isMalformed = e.isMalformed := isMalformed_nested [.fetch] e

theorem isMalformed_release (malformed : Bool) (e : Failure) : (release malformed e).isMalformed = e.isMalformed :=
  isMalformed_nested [.release malformed] e

theorem telling_select (mailbox t : String) :
    Telling ("selecting mailbox " ++ mailbox ++ " failed: " ++ t) ↔ Telling mailbox ∨ Telling t := by
  have hfront : ¬ Telling "selecting mailbox " := by decide
  have hback : ¬ Telling " failed: " := by decide
  have hclosed : Closes "selecting mailbox " ∧ Closes " failed: " ∧ Opens " failed: " := by decide
  obtain ⟨hselecting, hcloses, hopens⟩ := hclosed
  rw [String.append_assoc, telling_append_of_opens hopens, telling_append hselecting, telling_append hcloses,
    or_iff_right hfront, or_iff_right hback]

/-- **A failed selection is taken for a malformed ENVELOPE** where its failure is, and where the name of the mailbox
holds a known pattern, unless a response that could not be read stands behind it. -/
theorem isMalformed_select_iff (mailbox : String) (e : Failure) :
    (select mailbox e).isMalformed = true ↔
      ¬ Shows Unread (fun _ => False) .whole e ∧ (Telling mailbox ∨ e.isMalformed = true) := by
  have hunread : Shows Unread (fun _ => False) .whole (select mailbox e) ↔ Shows Unread (fun _ => False) .whole e :=
    iff_of_eq (false_or _)
  have htells : Shows Sentinel Telling .whole (select mailbox e) ↔
      Telling mailbox ∨ Shows Sentinel Telling .whole e := by
    have htext : Shows Sentinel Telling .whole (select mailbox e) ↔
        Telling ("selecting mailbox " ++ mailbox ++ " failed: " ++ e.text) ∨ Shows Sentinel Telling .whole e := Iff.rfl
    rw [htext, telling_select, or_assoc]
    exact or_congr_right (or_iff_right_of_imp fun h => shows_of_words h .whole)
  rw [isMalformed_iff, isMalformed_iff, ShowsMalformed, ShowsMalformed, hunread, htells]
  tauto

end Failure
end Postbag
