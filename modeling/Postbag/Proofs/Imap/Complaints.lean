import Postbag.Proofs.Imap.Reduction
/-!
# Complaints — what a device's text comes to

A text is cut at the first marker in it.  What stands before is the complaint and names the failure; what stands behind
is quoted and may give it a number.  A marker ends with the character that it begins with, so a complaint that lacks
only that character at its end makes a marker together with the one behind it, and is cut there.
-/
namespace Postbag

namespace Text

/-- **Where a text is cut**: before and behind the first place where `pat` stands. -/
structure FirstCut {α : Type} (pat s before behind : List α) : Prop where
  cut : s = before ++ pat ++ behind
  first : ∀ a b, s = a ++ pat ++ b → before.length ≤ a.length

theorem FirstCut.unique {α : Type} {pat s a b a' b' : List α} (h : FirstCut pat s a b) (h' : FirstCut pat s a' b') :
    a = a' ∧ b = b' := by
  have hlength : a.length = a'.length := Nat.le_antisymm (h.first a' b' h'.cut) (h'.first a b h.cut)
  have hcut : a ++ (pat ++ b) = a' ++ (pat ++ b') := by
    rw [← List.append_assoc, ← List.append_assoc, ← h.cut, ← h'.cut]
  obtain ⟨ha, hb⟩ := List.append_inj hcut hlength
  exact ⟨ha, List.append_cancel_left hb⟩

variable {α : Type} [DecidableEq α] {pat s a b : List α}

theorem firstCut_of_cut? (h : cut? pat s = some (a, b)) : FirstCut pat s a b := by
  refine ⟨cut?_eq_some h, ?_⟩
  induction s generalizing a b with
  | nil =>
    intro a' b' _
    obtain ⟨ha, -⟩ := List.append_eq_nil_iff.1 (cut?_eq_some h).symm
    rw [(List.append_eq_nil_iff.1 ha).1]
    exact Nat.zero_le _
  | cons c s ih =>
    intro a' b' hs
    rw [cut?] at h
    split at h
    · obtain ⟨rfl, -⟩ := Prod.mk.inj (Option.some.inj h)
      exact Nat.zero_le _
    · rename_i hafter
      obtain ⟨⟨front, behind⟩, hcut, hp⟩ := Option.map_eq_some_iff.1 h
      obtain ⟨rfl, rfl⟩ := Prod.mk.inj hp
      cases a' with
      | nil =>
        have hstarts : after? pat (c :: s) = some b' := after?_eq_some_iff.2 hs
        rw [hafter] at hstarts
        cases hstarts
      | cons d a' => exact Nat.succ_le_succ (ih hcut a' b' (List.cons.inj hs).2)

theorem cut?_eq_none_iff : cut? pat s = none ↔ ¬ pat <:+: s := by
  rw [← occursIn_iff, ← isSome_cut?]
  simp

/-- **The first cut** is the one that is found. -/
theorem cut?_eq_some_iff : cut? pat s = some (a, b) ↔ FirstCut pat s a b := by
  refine ⟨firstCut_of_cut?, fun h => ?_⟩
  cases hcut : cut? pat s with
  | none => exact absurd ⟨a, b, h.cut.symm⟩ (cut?_eq_none_iff.1 hcut)
  | some p =>
    obtain ⟨rfl, rfl⟩ := h.unique (firstCut_of_cut? hcut)
    rfl

end Text

namespace Imap

open Text (FirstCut Denotes after? cut? startsWith shown)

/-! ## The number and the name -/

/-- **A text that begins as the FETCH response with the number `n`.** -/
def Announces (received : List Char) (n : UInt32) : Prop :=
  ∃ number rest, received = "* ".toList ++ (number ++ (" FETCH".toList ++ rest)) ∧ Denotes number n.toNat

/-- **The name of a complaint**: the letters and digits behind the first `code: ` in it, as far as they go. -/
inductive Names (complaint : List Char) : List Char → Prop
  | unknown : ¬ "code: ".toList <:+: complaint → Names complaint "unknown".toList
  | told {before name rest : List Char} : FirstCut "code: ".toList complaint before (name ++ rest) →
      (∀ c ∈ name, c.isAlphanum = true) → (∀ c ∈ rest.head?, c.isAlphanum = false) → Names complaint name

theorem announces_of_announced {received : List Char} {n : UInt32} (h : announced received = some n) :
    Announces received n := by
  rw [announced] at h
  obtain ⟨behind, hstar, h⟩ := Option.bind_eq_some_iff.1 h
  obtain ⟨⟨number, fetched⟩, hspace, h⟩ := Option.bind_eq_some_iff.1 h
  simp only at h
  split at h
  · rename_i hfetch
    obtain ⟨rest, rfl⟩ := Text.startsWith_iff.1 hfetch
    refine ⟨number, rest, ?_, ?_⟩
    · rw [Text.after?_eq_some_iff.1 hstar, Text.cut?_eq_some hspace, List.append_assoc]
      rfl
    · cases hread : Text.readNumber (UInt32.size - 1) number with
      | error f =>
        rw [hread] at h
        cases h
      | ok m =>
        obtain ⟨hd, hbound⟩ := Text.readNumber_eq_ok_iff.1 hread
        rw [hread] at h
        obtain rfl : UInt32.ofNat m = n := Option.some.inj h
        rwa [UInt32.toNat_ofNat_of_lt' (Nat.lt_succ_of_le hbound)]
  · cases h

theorem announced_of_announces {received : List Char} {n : UInt32} (h : Announces received n) :
    announced received = some n := by
  obtain ⟨number, rest, rfl, hd⟩ := h
  have hbound : n.toNat ≤ UInt32.size - 1 := Nat.le_of_lt_succ n.toNat_lt
  have hread := Text.readNumber_of_denotes hd hbound
  have hstar : after? "* ".toList ("* ".toList ++ (number ++ (" FETCH".toList ++ rest))) =
      some (number ++ (" FETCH".toList ++ rest)) := Text.after?_eq_some_iff.2 rfl
  have hnumber : ' ' ∉ number := by
    intro hm
    rcases Text.mem_of_readNumber hread _ hm with h | h <;> cases h
  have hspace : cut? [' '] (number ++ (" FETCH".toList ++ rest)) = some (number, "FETCH".toList ++ rest) :=
    Text.cut?_append (u := []) (v := []) List.not_mem_nil hnumber _
  have hfetch : startsWith "FETCH".toList ("FETCH".toList ++ rest) = true := Text.startsWith_iff.2 ⟨rest, rfl⟩
  rw [announced, hstar, Option.bind_eq_bind, Option.bind_some, hspace, Option.bind_eq_bind, Option.bind_some]
  simp only [if_pos hfetch, hread]
  exact congrArg some n.ofNat_toNat

/-- **The number that is found** is the one that is announced. -/
theorem announced_eq_some_iff {received : List Char} {n : UInt32} :
    announced received = some n ↔ Announces received n :=
  ⟨announces_of_announced, announced_of_announces⟩

theorem names_complaintName (complaint : List Char) : Names complaint (Fault.complaintName complaint) := by
  rw [Fault.complaintName]
  cases hcut : cut? "code: ".toList complaint with
  | none => exact .unknown (Text.cut?_eq_none_iff.1 hcut)
  | some p =>
    obtain ⟨before, behind⟩ := p
    have hfirst := Text.cut?_eq_some_iff.1 hcut
    rw [← List.takeWhile_append_dropWhile (p := fun c => c.isAlphanum) (l := behind)] at hfirst
    refine .told hfirst (fun c hc => ?_) fun c hc => ?_
    · exact List.all_eq_true.1 List.all_takeWhile c hc
    · have hstop := List.head?_dropWhile_not (fun c : Char => c.isAlphanum) behind
      rw [hc] at hstop
      exact hstop

/-! ## The marker -/

namespace Fault

/-- The marker without the character at its end. -/
def stem : List Char := " during parsing of".toList

/-- What ends the marker begins it only at its last character. -/
theorem stem_of_border {t u : List Char} (h : marker = t ++ u) (ht : t ≠ []) (hu : u ≠ []) (hborder : u <+: marker) :
    t = stem := by
  have hall : ∀ k < 19, 0 < k → marker.drop k <+: marker → marker.take k = stem := by decide
  have hlength := congrArg List.length h
  rw [List.length_append] at hlength
  have hmarker : marker.length = 19 := rfl
  have htake : marker.take t.length = t := by rw [h, List.take_left' rfl]
  have hdrop : marker.drop t.length = u := by rw [h, List.drop_left' rfl]
  have hpos := List.length_pos_iff.2 ht
  have hpos' := List.length_pos_iff.2 hu
  rw [← htake]
  exact hall t.length (by omega) hpos (hdrop.symm ▸ hborder)

/-- **A marker stands before another one only where it shares a character with it.** -/
theorem marker_behind_or_stem {complaint quoted a b : List Char} (h : ¬ marker <:+: complaint)
    (hs : complaint ++ marker ++ quoted = a ++ marker ++ b) : complaint.length ≤ a.length ∨ complaint = a ++ stem := by
  rw [List.append_assoc, List.append_assoc] at hs
  rcases List.append_eq_append_iff.1 hs with ⟨c, rfl, -⟩ | ⟨t, rfl, ht⟩
  · exact .inl (by simp)
  by_cases hnil : t = []
  · exact .inl (by simp [hnil])
  rcases List.append_eq_append_iff.1 ht with ⟨c, rfl, -⟩ | ⟨u, hm, hu⟩
  · exact absurd ⟨a, c, by simp⟩ h
  · -- the two markers overlap in `u`
    have hne : u ≠ [] := by
      rintro rfl
      rw [List.append_nil] at hm
      exact h ⟨a, [], by rw [hm]; simp⟩
    have hlength : u.length ≤ marker.length := by
      rw [hm, List.length_append]
      exact Nat.le_add_left _ _
    have hborder : u <+: marker :=
      List.prefix_of_prefix_length_le ⟨b, hu.symm⟩ (List.prefix_append marker quoted) hlength
    exact .inr (congrArg (a ++ ·) (stem_of_border hm hnil hne hborder))

theorem firstCut_marker {complaint : List Char} (h : ¬ marker <:+: complaint) (hstem : ¬ stem <:+ complaint)
    (quoted : List Char) : FirstCut marker (complaint ++ marker ++ quoted) complaint quoted := by
  refine ⟨rfl, fun a b hs => ?_⟩
  rcases marker_behind_or_stem h hs with hle | rfl
  · exact hle
  · exact absurd (List.suffix_append a stem) hstem

theorem firstCut_marker_of_stem {complaint : List Char} (h : ¬ marker <:+: complaint ++ stem) (quoted : List Char) :
    FirstCut marker (complaint ++ stem ++ marker ++ quoted) complaint ("during parsing of ".toList ++ quoted) := by
  have hshared : stem ++ marker = marker ++ "during parsing of ".toList := by decide
  refine ⟨?_, fun a b hs => ?_⟩
  · rw [List.append_assoc complaint, hshared]
    simp only [List.append_assoc]
  · rcases marker_behind_or_stem h hs with hle | heq
    · rw [List.length_append] at hle
      omega
    · exact Nat.le_of_eq (congrArg List.length (List.append_cancel_right heq))

/-! ## What is left -/

theorem toFailure_of_firstCut {t : String} {complaint quoted : List Char} (h : FirstCut marker t.toList complaint quoted) :
    (io t).toFailure = .unparsable (responseNumber? quoted) (String.ofList (complaintName complaint)) := by
  rw [toFailure, unparsable?, Text.cut?_eq_some_iff.2 h]
  rfl

theorem toFailure_of_not_marker {t : String} (h : ¬ marker <:+: t.toList) :
    (io t).toFailure = .imap ("io: " ++ t) := by
  rw [toFailure, unparsable?, Text.cut?_eq_none_iff.2 h]
  rfl

theorem toList_unparsed (complaint quoted : String) :
    (complaint ++ String.ofList marker ++ quoted).toList = complaint.toList ++ marker ++ quoted.toList := by
  simp

/-- **What a device's text comes to.**  Of a complaint, the marker and what was received, between quotes, the number is
left where what was received announces one, and a name that the complaint alone gives.  A complaint that ends in all of
the marker but its last character is cut there, and no number is found.  A text without the marker is left as it is. -/
theorem toFailure_io :
    (∀ complaint : String, ¬ marker <:+: complaint.toList → ¬ stem <:+ complaint.toList →
      ∃ name, Names complaint.toList name ∧ ∀ received : List Char,
        ∃ seq, (io (complaint ++ String.ofList marker ++ String.ofList (shown received))).toFailure =
            .unparsable seq (String.ofList name) ∧
          ∀ n, seq = some n ↔ Announces received n) ∧
    (∀ complaint : String, ¬ marker <:+: complaint.toList ++ stem →
      ∃ name, Names complaint.toList name ∧ ∀ received : List Char,
        (io (complaint ++ String.ofList stem ++ String.ofList marker ++ String.ofList (shown received))).toFailure =
          .unparsable none (String.ofList name)) ∧
    ∀ t : String, ¬ marker <:+: t.toList → (io t).toFailure = .imap ("io: " ++ t) := by
  refine ⟨fun complaint h hstem => ?_, fun complaint h => ?_, fun t => toFailure_of_not_marker⟩
  · refine ⟨complaintName complaint.toList, names_complaintName _, fun received =>
      ⟨announced received, ?_, fun n => announced_eq_some_iff⟩⟩
    rw [← responseNumber?_shown]
    refine toFailure_of_firstCut ?_
    rw [toList_unparsed, String.toList_ofList]
    exact firstCut_marker h hstem _
  · refine ⟨complaintName complaint.toList, names_complaintName _, fun received => ?_⟩
    have hnone : responseNumber? ("during parsing of ".toList ++ shown received) = none := rfl
    rw [← hnone]
    refine toFailure_of_firstCut ?_
    rw [toList_unparsed, String.toList_ofList, String.toList_append, String.toList_ofList]
    exact firstCut_marker_of_stem h _

/-- The complaint about a response that breaks off, one that ends as the marker does, and a text of the device's own. -/
theorem toFailure_io_of_broken_pipe :
    let complaint := "Error(Error \x7b input: [42, 32, 50], code: Tag \x7d)"
    ¬ marker <:+: complaint.toList ∧ ¬ stem <:+ complaint.toList ∧
      (∃ name, Names complaint.toList name ∧ ∀ received : List Char,
        ∃ seq, (io (complaint ++ String.ofList marker ++ String.ofList (shown received))).toFailure =
            .unparsable seq (String.ofList name) ∧
          ∀ n, seq = some n ↔ Announces received n) ∧
      ¬ marker <:+: "code: Tag".toList ++ stem ∧
      (∃ name, Names "code: Tag".toList name ∧ ∀ received : List Char,
        (io ("code: Tag" ++ String.ofList stem ++ String.ofList marker ++ String.ofList (shown received))).toFailure =
          .unparsable none (String.ofList name)) ∧
      ¬ marker <:+: "broken pipe".toList ∧ (io "broken pipe").toFailure = .imap ("io: " ++ "broken pipe") := by
  intro complaint
  have hmarker : ¬ marker <:+: complaint.toList := by decide +kernel
  have hstem : ¬ stem <:+ complaint.toList := by decide +kernel
  have hshared : ¬ marker <:+: "code: Tag".toList ++ stem := by decide +kernel
  have hpipe : ¬ marker <:+: "broken pipe".toList := by decide +kernel
  exact ⟨hmarker, hstem, toFailure_io.1 complaint hmarker hstem, hshared, toFailure_io.2.1 "code: Tag" hshared, hpipe,
    toFailure_io.2.2 "broken pipe" hpipe⟩

/-- **The number is lost behind a complaint that ends as the marker does**, though it is announced. -/
theorem number_lost_behind_stem :
    let complaint := " during parsing of"
    let received := "* 2 FETCH".toList
    ¬ marker <:+: complaint.toList ∧ Announces received 2 ∧
      (io (complaint ++ String.ofList marker ++ String.ofList (shown received))).toFailure = .unparsable none "unknown" := by
  intro complaint received
  have hmarker : ¬ marker <:+: complaint.toList := by decide +kernel
  have hnumber : Denotes ['2'] (2 : UInt32).toNat := Text.denotes_digits 2
  exact ⟨hmarker, ⟨['2'], [], by decide, hnumber⟩, by decide +kernel⟩

end Fault
end Imap
end Postbag
