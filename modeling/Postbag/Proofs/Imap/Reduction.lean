import Postbag.Proofs.Failure.Classification
import Postbag.Wire.Feed
/-!
# Reduction — what is left of a response that could not be read

The text of such a fault ends in everything that was received, and has the octets themselves as numbers in front.  Its
reduction holds the name of the complaint and the number of the FETCH response, whatever else was received: the marker
and the name are found where they were put, and quoting changes no number.
-/
namespace Postbag

namespace Text

/-! ## Quoting -/

theorem not_mem_intercalate {c : Char} {between : String} {texts : List String} (hb : c ∉ between.toList)
    (ht : ∀ t ∈ texts, c ∉ t.toList) : c ∉ (between.intercalate texts).toList := by
  rw [String.toList_intercalate]
  induction texts with
  | nil => exact List.not_mem_nil
  | cons t texts ih =>
    cases texts with
    | nil => simpa using ht t List.mem_cons_self
    | cons u texts =>
      rw [List.map_cons, List.map_cons, List.intercalate_cons_cons, ← List.map_cons]
      simp only [List.mem_append, not_or]
      exact ⟨⟨ht t List.mem_cons_self, hb⟩, ih fun v hv => ht v (List.mem_cons_of_mem _ hv)⟩

theorem space_not_mem_toDigits (base n : Nat) : ' ' ∉ Nat.toDigits base n := by
  have hcore : ∀ (fuel m : Nat) (cs : List Char), ' ' ∉ cs → ' ' ∉ Nat.toDigitsCore base fuel m cs := by
    intro fuel
    induction fuel with
    | zero => exact fun m cs h => h
    | succ fuel ih =>
      intro m cs h
      have hcons : ' ' ∉ (m % base).digitChar :: cs := by
        intro hm
        rcases List.mem_cons.1 hm with hm | hm
        · exact Nat.digitChar_ne ' ' (by decide) hm.symm
        · exact h hm
      rw [Nat.toDigitsCore]
      split
      · exact hcons
      · exact ih _ _ hcons
  exact hcore _ _ _ List.not_mem_nil

def isPlain (c : Char) : Bool := showChar c = [c] && c != '"' && c != '\\'

theorem showChar_of_isPlain {c : Char} (h : isPlain c = true) : showChar c = [c] ∧ c ≠ '"' ∧ c ≠ '\\' := by
  simpa [isPlain, and_assoc] using h

theorem showChar_of_not_isPlain {c : Char} (h : isPlain c = false) : ∃ s, showChar c = '\\' :: s ∧ ' ' ∉ s := by
  by_cases h1 : c = '"'
  · exact ⟨['"'], by rw [showChar, if_pos h1], by decide⟩
  by_cases h2 : c = '\\'
  · exact ⟨['\\'], by rw [showChar, if_neg h1, if_pos h2], by decide⟩
  by_cases h3 : c = '\t'
  · exact ⟨['t'], by rw [showChar, if_neg h1, if_neg h2, if_pos h3], by decide⟩
  by_cases h4 : c = '\r'
  · exact ⟨['r'], by rw [showChar, if_neg h1, if_neg h2, if_neg h3, if_pos h4], by decide⟩
  by_cases h5 : c = '\n'
  · exact ⟨['n'], by rw [showChar, if_neg h1, if_neg h2, if_neg h3, if_neg h4, if_pos h5], by decide⟩
  by_cases h6 : c = '\x00'
  · exact ⟨['0'], by rw [showChar, if_neg h1, if_neg h2, if_neg h3, if_neg h4, if_neg h5, if_pos h6], by decide⟩
  cases hh : isHidden c with
  | true =>
    refine ⟨'u' :: '\x7b' :: (Nat.toDigits 16 c.toNat ++ ['\x7d']), ?_, ?_⟩
    · rw [showChar, if_neg h1, if_neg h2, if_neg h3, if_neg h4, if_neg h5, if_neg h6, if_pos hh]
      rfl
    · simp [space_not_mem_toDigits]
  | false =>
    have hself : showChar c = [c] := by
      rw [showChar, if_neg h1, if_neg h2, if_neg h3, if_neg h4, if_neg h5, if_neg h6, hh]
      rfl
    simp [isPlain, hself, h1, h2] at h

def shownRest (s : List Char) : List Char := s.flatMap showChar ++ ['"']

theorem shown_eq (s : List Char) : shown s = '"' :: shownRest s := rfl

theorem shownRest_cons (c : Char) (s : List Char) : shownRest (c :: s) = showChar c ++ shownRest s := by
  rw [shownRest, List.flatMap_cons, List.append_assoc]
  rfl

/-- **A plain text stands in front of a text between quotes where it stands in front of the text.** -/
theorem after?_shownRest {pat : List Char} (hp : pat.all isPlain = true) (s : List Char) :
    after? pat (shownRest s) = (after? pat s).map shownRest := by
  induction pat generalizing s with
  | nil => rfl
  | cons p pat ih =>
    rw [List.all_cons, Bool.and_eq_true] at hp
    obtain ⟨hshow, hquote, hback⟩ := showChar_of_isPlain hp.1
    cases s with
    | nil => simp [shownRest, after?, hquote]
    | cons c s =>
      rw [shownRest_cons]
      cases hc : isPlain c with
      | true =>
        rw [(showChar_of_isPlain hc).1, List.singleton_append, after?, after?]
        split
        · exact ih hp.2 s
        · rfl
      | false =>
        obtain ⟨t, ht, -⟩ := showChar_of_not_isPlain hc
        have hne : p ≠ c := fun h => by
          rw [← h, hp.1] at hc
          cases hc
        rw [ht, List.cons_append, after?, after?, if_neg hback, if_neg hne]
        rfl

theorem cut?_space_append {s : List Char} (hs : ' ' ∉ s) (t : List Char) :
    cut? [' '] (s ++ t) = (cut? [' '] t).map fun p => (s ++ p.1, p.2) := by
  induction s with
  | nil => simp
  | cons c s ih =>
    have hne : ' ' ≠ c := fun h => hs (h ▸ List.mem_cons_self)
    rw [List.cons_append, cut?, after?, if_neg hne, ih fun h => hs (List.mem_cons_of_mem _ h), Option.map_map]
    rfl

/-- **Of a text between quotes, the first space is that of the text.** -/
theorem cut?_space_shownRest (s : List Char) :
    cut? [' '] (shownRest s) = (cut? [' '] s).map fun p => (p.1.flatMap showChar, shownRest p.2) := by
  induction s with
  | nil => rfl
  | cons c s ih =>
    rw [shownRest_cons]
    by_cases hc : c = ' '
    · subst hc
      have hspace : showChar ' ' = [' '] := by decide
      rw [hspace]
      rfl
    · have hshow : ' ' ∉ showChar c := by
        cases hp : isPlain c with
        | true => simpa [(showChar_of_isPlain hp).1] using Ne.symm hc
        | false =>
          obtain ⟨t, ht, hspace⟩ := showChar_of_not_isPlain hp
          simpa [ht] using hspace
      have hcut : cut? [' '] (c :: s) = (cut? [' '] s).map fun p => (c :: p.1, p.2) := by
        rw [cut?, after?, if_neg (Ne.symm hc)]
      rw [cut?_space_append hshow, ih, hcut, Option.map_map, Option.map_map]
      congr 1

/-! ## Numbers -/

theorem mem_of_readNumber {bound n : Nat} {s : List Char} (h : readNumber bound s = .ok n) :
    ∀ c ∈ s, c = '+' ∨ c.isDigit = true := by
  have hdigit := (readNumber_eq_ok_iff.1 h).1.isDigit
  unfold unsigned at hdigit
  intro c hc
  split at hdigit
  · rcases List.mem_cons.1 hc with rfl | hc
    · exact .inl rfl
    · exact .inr (hdigit c hc)
  · exact .inr (hdigit c hc)

theorem isPlain_of_isDigit {c : Char} (h : c.isDigit = true) : isPlain c = true := by
  have hall : ∀ k < 10, isPlain (Char.ofNat (48 + k)) = true := by decide
  obtain ⟨k, hk, rfl⟩ := eq_ofNat_of_isDigit h
  exact hall k hk

/-- **Quoting changes no number**: where a text is one, it stands for itself, and where it is none, neither is what
stands for it. -/
theorem readNumber_flatMap_showChar (bound : Nat) (s : List Char) :
    (readNumber bound (s.flatMap showChar)).toOption = (readNumber bound s).toOption := by
  have hplain : ∀ t : List Char, (∀ c ∈ t, isPlain c = true) → t.flatMap showChar = t := by
    intro t ht
    induction t with
    | nil => rfl
    | cons c t ih =>
      rw [List.flatMap_cons, (showChar_of_isPlain (ht c List.mem_cons_self)).1,
        ih fun d hd => ht d (List.mem_cons_of_mem _ hd)]
      rfl
  have hnumber : ∀ c, c = '+' ∨ c.isDigit = true → isPlain c = true := by
    rintro c (rfl | hc)
    · decide
    · exact isPlain_of_isDigit hc
  by_cases hs : ∀ c ∈ s, isPlain c = true
  · rw [hplain s hs]
  · have hnone : ∀ r : Except NumberFault Nat, (∀ n, r ≠ .ok n) → r.toOption = none := by
      intro r hr
      cases r with
      | error e => rfl
      | ok n => exact absurd rfl (hr n)
    rw [hnone _ fun n h => hs fun c hc => hnumber c (mem_of_readNumber h c hc), hnone _ fun n h => hs fun c hc => ?_]
    cases hp : isPlain c with
    | true => rfl
    | false =>
      obtain ⟨t, ht, -⟩ := showChar_of_not_isPlain hp
      have hback : '\\' ∈ s.flatMap showChar := List.mem_flatMap.2 ⟨c, hc, ht ▸ List.mem_cons_self⟩
      rcases mem_of_readNumber h _ hback with h | h <;> cases h

end Text

namespace Imap

open Text (shown shownRest after? cut? startsWith readNumber)

/-- **The number of the FETCH response that a text begins with.** -/
def announced (received : List Char) : Option UInt32 := do
  let rest ← after? "* ".toList received
  let (number, rest) ← cut? [' '] rest
  if startsWith "FETCH".toList rest then (readNumber (UInt32.size - 1) number).toOption.map UInt32.ofNat else none

theorem dropWhile_shown (received : List Char) :
    (shown received).dropWhile (· == '"') = if received = [] then [] else shownRest received := by
  cases received with
  | nil => rfl
  | cons c t =>
    rw [if_neg (List.cons_ne_nil c t), Text.shown_eq, List.dropWhile_cons_of_pos rfl, Text.shownRest_cons]
    cases hc : Text.isPlain c with
    | true =>
      obtain ⟨hshow, hquote, -⟩ := Text.showChar_of_isPlain hc
      rw [hshow, List.singleton_append, List.dropWhile_cons_of_neg (by simpa using hquote)]
    | false =>
      obtain ⟨s, hs, -⟩ := Text.showChar_of_not_isPlain hc
      rw [hs, List.cons_append, List.dropWhile_cons_of_neg (by decide)]

/-- **The number is found in what was received**, quoted or not. -/
theorem responseNumber?_shown (received : List Char) :
    Fault.responseNumber? (shown received) = announced received := by
  rw [Fault.responseNumber?, announced, dropWhile_shown]
  split
  · rename_i h
    rw [h]
    rfl
  rw [Text.after?_shownRest (by decide)]
  cases hrest : after? "* ".toList received with
  | none => rfl
  | some rest =>
    show (cut? [' '] (shownRest rest) >>= _) = (cut? [' '] rest >>= _)
    rw [Text.cut?_space_shownRest]
    cases hcut : cut? [' '] rest with
    | none => rfl
    | some p =>
      obtain ⟨number, behind⟩ := p
      have hfetch : startsWith "FETCH".toList (shownRest behind) = startsWith "FETCH".toList behind := by
        rw [startsWith, startsWith, Text.after?_shownRest (by decide), Option.isSome_map]
      -- the number is still in quotes here, and need not be a number at all
      have hnumber := Text.readNumber_flatMap_showChar (UInt32.size - 1) number
      show (if startsWith "FETCH".toList (shownRest behind) = true then _ else none) =
        if startsWith "FETCH".toList behind = true then _ else none
      rw [hfetch, ← hnumber]
      cases readNumber (UInt32.size - 1) (number.flatMap Text.showChar) <;> rfl

/-! ## The complaint -/

theorem not_mem_listText {c : Char} (octets : List UInt8) (hd : c.isDigit = false) (hc : c ∉ ['[', ',', ' ', ']']) :
    c ∉ (Fault.listText octets).toList := by
  have hnumber : ∀ t ∈ octets.map fun b => toString b.toNat, c ∉ t.toList := by
    intro t ht hm
    obtain ⟨b, -, rfl⟩ := List.mem_map.1 ht
    rw [Nat.toString_eq_ofList_toDigits, String.toList_ofList] at hm
    rw [Text.isDigit_of_mem_digits hm] at hd
    cases hd
  simp only [List.mem_cons, List.not_mem_nil, or_false, not_or] at hc
  obtain ⟨hopen, hcomma, hspace, hclose⟩ := hc
  have hbetween : c ∉ (", ".intercalate (octets.map fun b => toString b.toNat)).toList :=
    Text.not_mem_intercalate (by simp [hcomma, hspace]) hnumber
  have hbrackets : c ∉ "[".toList ∧ c ∉ "]".toList := by simp [hopen, hclose]
  rw [Fault.listText, String.toList_append, String.toList_append, List.mem_append, List.mem_append]
  exact fun h => h.elim (fun h => h.elim hbrackets.1 hbetween) hbrackets.2

theorem complaint_name (received : List UInt8) :
    (complaint received).2 = "Tag" ∨ (complaint received).2 = "TakeWhile1" := by
  unfold complaint
  repeat' split
  all_goals first | exact .inl rfl | exact .inr rfl

def complaintFront (received : List UInt8) : String :=
  "Error(Error \x7b input: " ++ Fault.listText (complaint received).1 ++ ", "

theorem not_mem_complaintFront {c : Char} (received : List UInt8) (hd : c.isDigit = false)
    (hc : c ∉ ['[', ',', ' ', ']']) (hf : c ∉ "Error(Error \x7b input: ".toList) :
    c ∉ (complaintFront received).toList := by
  have hlist := not_mem_listText (complaint received).1 hd hc
  have htext : ", ".toList = [',', ' '] := by decide
  have hcomma : c ∉ ", ".toList := by
    rw [htext]
    exact fun h => hc (List.mem_cons_of_mem _ (List.mem_append_left [']'] h))
  unfold complaintFront
  rw [String.toList_append, String.toList_append, List.mem_append, List.mem_append]
  rintro ((h | h) | h)
  · exact hf h
  · exact hlist h
  · exact hcomma h

/-- **The name of a complaint is found where it was put.** -/
theorem complaintName_of_front {front : List Char} (hf : 'c' ∉ front) {name : String}
    (hn : name = "Tag" ∨ name = "TakeWhile1") :
    Fault.complaintName (front ++ ("code: ".toList ++ (name ++ " \x7d)").toList)) = name.toList := by
  have hcut : cut? "code: ".toList (front ++ ("code: ".toList ++ (name ++ " \x7d)").toList)) =
      some (front, (name ++ " \x7d)").toList) :=
    Text.cut?_append (u := []) (v := "ode: ".toList) List.not_mem_nil hf _
  rw [Fault.complaintName, hcut]
  rcases hn with rfl | rfl
  · show List.takeWhile (fun c => c.isAlphanum) ("Tag" ++ " \x7d)").toList = "Tag".toList
    decide
  · show List.takeWhile (fun c => c.isAlphanum) ("TakeWhile1" ++ " \x7d)").toList = "TakeWhile1".toList
    decide

end Imap

namespace Wire

/-- The characters of the fault's text: the complaint, the marker, and everything that was received. -/
theorem unreadable_eq (received : List UInt8) :
    ∃ t, unreadable received = .io t ∧ t.toList =
      ((Imap.complaintFront received).toList ++
        ("code: ".toList ++ ((Imap.complaint received).2 ++ " \x7d)").toList)) ++
          (Imap.Fault.marker ++ Text.shown (Utf8.decode received)) := by
  refine ⟨"Error(Error \x7b input: " ++ Imap.Fault.listText (Imap.complaint received).1 ++ ", code: " ++
    (Imap.complaint received).2 ++ " \x7d)" ++ String.ofList Imap.Fault.marker ++
      String.ofList (Text.shown (Utf8.decode received)), rfl, ?_⟩
  have hcode : ", code: ".toList = ", ".toList ++ "code: ".toList := by decide
  unfold Imap.complaintFront
  simp only [String.toList_append, String.toList_ofList, hcode, List.append_assoc]

/-- **What is left of octets that are no response**: the number of the FETCH response that they begin with, and the name
of the complaint. -/
theorem toFailure_unreadable (received : List UInt8) :
    (unreadable received).toFailure =
      .unparsable (Imap.announced (Utf8.decode received)) (Imap.complaint received).2 := by
  obtain ⟨t, ht, htext⟩ := unreadable_eq received
  have hname := Imap.complaint_name received
  have hclosing : 's' ∉ ((Imap.complaint received).2 ++ " \x7d)").toList := by
    rcases hname with h | h <;> rw [h] <;> decide
  have hcomplaint : 's' ∉ (Imap.complaintFront received).toList ++
      ("code: ".toList ++ ((Imap.complaint received).2 ++ " \x7d)").toList) := by
    rw [List.mem_append, List.mem_append]
    rintro (h | h | h)
    · exact Imap.not_mem_complaintFront received (by decide) (by decide) (by decide) h
    · revert h
      decide
    · exact hclosing h
  have hmarker : Imap.Fault.marker = " during par".toList ++ 's' :: "ing of ".toList := by decide
  have hcut := Text.cut?_append (u := " during par".toList) (v := "ing of ".toList) (by decide) hcomplaint
    (Text.shown (Utf8.decode received))
  rw [← hmarker, ← htext] at hcut
  have hunparsable : Imap.Fault.unparsable? t =
      some (.unparsable (Imap.announced (Utf8.decode received)) (Imap.complaint received).2) := by
    have hfront : 'c' ∉ (Imap.complaintFront received).toList :=
      Imap.not_mem_complaintFront received (by decide) (by decide) (by decide)
    rw [Imap.Fault.unparsable?, hcut]
    show some (Failure.unparsable _ (String.ofList (Imap.Fault.complaintName _))) = _
    rw [Imap.responseNumber?_shown, Imap.complaintName_of_front hfront hname, String.ofList_toList]
  rw [ht, Imap.Fault.toFailure, hunparsable]
  rfl

end Wire
end Postbag
