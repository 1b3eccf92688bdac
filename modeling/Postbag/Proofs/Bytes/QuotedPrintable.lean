import Postbag.Bytes.QuotedPrintable
/-!
# QuotedPrintable — octets that were written in a word are read back

There are many ways to write the same octets: any of them may be escaped, and a space has a sign of its own.  Whichever
way is taken, the text is one line, nothing in it is passed over, and it gives the octets back.  Only its end matters:
the sign of a space is read as a space, and a space at the end of a line is cut.
-/
namespace Postbag
namespace QuotedPrintable

/-- What may stand for itself in a word: what is printable and neither a blank nor a sign of the writing. -/
def IsPlain (c : Char) : Prop := '!' ≤ c ∧ c ≤ '~' ∧ c ≠ '=' ∧ c ≠ '?' ∧ c ≠ '_'

instance (c : Char) : Decidable (IsPlain c) := by
  unfold IsPlain
  infer_instance

def IsHex (n : Nat) (c : Char) : Prop := c = hexSymbol n ∨ c = (hexSymbol n).toLower

instance (n : Nat) (c : Char) : Decidable (IsHex n c) := by
  unfold IsHex
  infer_instance

/-- **The ways to write octets in a word.** -/
inductive Written : List UInt8 → List Char → Prop
  | nil : Written [] []
  | plain {c : Char} {bs : List UInt8} {s : List Char} : IsPlain c → Written bs s → Written (octet c :: bs) (c :: s)
  | space {bs : List UInt8} {s : List Char} : Written bs s → Written (32 :: bs) ('_' :: s)
  | escaped {b : UInt8} {high low : Char} {bs : List UInt8} {s : List Char} :
      IsHex (b.toNat / 16) high → IsHex (b.toNat % 16) low → Written bs s →
        Written (b :: bs) ('=' :: high :: low :: s)

def spaced (s : List Char) : List Char := s.map fun c => if c = '_' then ' ' else c

/-! ## What the text of a word is made of -/

theorem hexDigit?_hex : ∀ n < 16, hexDigit? (hexSymbol n) = some n ∧ hexDigit? (hexSymbol n).toLower = some n := by
  decide

theorem hexDigit?_of_isHex {n : Nat} {c : Char} (hn : n < 16) (h : IsHex n c) : hexDigit? c = some n := by
  obtain rfl | rfl := h
  · exact (hexDigit?_hex n hn).1
  · exact (hexDigit?_hex n hn).2

theorem isPlain_hex : ∀ n < 16, IsPlain (hexSymbol n) ∧ IsPlain (hexSymbol n).toLower := by decide

theorem isPlain_of_isHex {n : Nat} {c : Char} (hn : n < 16) (h : IsHex n c) : IsPlain c := by
  obtain rfl | rfl := h
  · exact (isPlain_hex n hn).1
  · exact (isPlain_hex n hn).2

theorem Written.isPlain_or_sign {bs : List UInt8} {s : List Char} (h : Written bs s) {c : Char} (hc : c ∈ s) :
    IsPlain c ∨ c = '_' ∨ c = '=' := by
  induction h with
  | nil => exact absurd hc List.not_mem_nil
  | plain hplain _ ih =>
    obtain rfl | hc := List.mem_cons.1 hc
    · exact .inl hplain
    · exact ih hc
  | space _ ih =>
    obtain rfl | hc := List.mem_cons.1 hc
    · exact .inr (.inl rfl)
    · exact ih hc
  | @escaped b high low bs s hhigh hlow _ ih =>
    have hb := b.toNat_lt
    simp only [List.mem_cons] at hc
    obtain rfl | rfl | rfl | hc := hc
    · exact .inr (.inr rfl)
    · exact .inl (isPlain_of_isHex (by omega) hhigh)
    · exact .inl (isPlain_of_isHex (by omega) hlow)
    · exact ih hc

theorem isPlain_bounds {c : Char} (h : IsPlain c) : 33 ≤ c.toNat ∧ c.toNat ≤ 126 := by
  obtain ⟨hleast, hgreatest, _⟩ := h
  exact ⟨hleast, hgreatest⟩

theorem isKept_spaced {bs : List UInt8} {s : List Char} (h : Written bs s) :
    ∀ c ∈ spaced s, isKept c = true ∧ c ≠ '\n' := by
  intro c hc
  obtain ⟨d, hd, rfl⟩ := List.mem_map.1 hc
  obtain hplain | rfl | rfl := h.isPlain_or_sign hd
  · have hne : d ≠ '_' := hplain.2.2.2.2
    have hbounds := isPlain_bounds hplain
    rw [if_neg hne]
    refine ⟨?_, fun he => ?_⟩
    · have hleast : ' ' ≤ d := by
        show 32 ≤ d.toNat
        omega
      simp [isKept, hleast, hplain.2.1]
    · rw [he] at hbounds
      exact absurd hbounds.1 (by decide)
  · exact ⟨by decide, by decide⟩
  · exact ⟨by decide, by decide⟩

/-! ## One line -/

theorem lines_of_not_mem : ∀ {s : List Char}, '\n' ∉ s → s ≠ [] → lines s = [⟨s, false⟩]
  | [], _, hne => absurd rfl hne
  | [c], h, _ => by
    have hc : c ≠ '\n' := fun he => h (he ▸ List.mem_cons_self)
    rw [lines.eq_3 c [] hc]
    rfl
  | c :: d :: s, h, _ => by
    have hc : c ≠ '\n' := fun he => h (he ▸ List.mem_cons_self)
    have hd : d ≠ '\n' := fun he => h (he ▸ List.mem_cons_of_mem _ List.mem_cons_self)
    rw [lines.eq_3 c _ hc, lines_of_not_mem (fun hm => h (List.mem_cons_of_mem _ hm)) (List.cons_ne_nil d s)]
    dsimp only
    split
    · rename_i he
      exact absurd (List.cons.inj he).1 hd
    · rfl

theorem cutBlanks_of_last {s : List Char} {c : Char} (hc : isLineBlank c = false) :
    cutBlanks (s ++ [c]) = s ++ [c] := by
  rw [cutBlanks, List.reverse_append, List.reverse_singleton, List.singleton_append, List.dropWhile_cons, hc]
  simp

theorem decodeLine_cons {c : Char} (h : c ≠ '=') (s : List Char) :
    decodeLine (c :: s) = (octet c :: (decodeLine s).1, (decodeLine s).2) := by
  rw [decodeLine.eq_def]
  split
  all_goals simp_all

theorem decodeLine_escaped {high low : Char} {x y : Nat} (hx : hexDigit? high = some x) (hy : hexDigit? low = some y)
    (s : List Char) :
    decodeLine ('=' :: high :: low :: s) = (UInt8.ofNat (x * 16 + y) :: (decodeLine s).1, (decodeLine s).2) := by
  rw [decodeLine, hx, hy]

theorem decodeLine_spaced {bs : List UInt8} {s : List Char} (h : Written bs s) : decodeLine (spaced s) = (bs, false) := by
  induction h with
  | nil => rfl
  | @plain c bs s hplain _ ih =>
    have hspaced : spaced (c :: s) = c :: spaced s := by
      rw [spaced, List.map_cons, if_neg hplain.2.2.2.2]
      rfl
    rw [hspaced, decodeLine_cons hplain.2.2.1, ih]
  | @space bs s _ ih =>
    have hspaced : spaced ('_' :: s) = ' ' :: spaced s := rfl
    rw [hspaced, decodeLine_cons (by decide), ih]
    rfl
  | @escaped b high low bs s hhigh hlow _ ih =>
    have hb := b.toNat_lt
    have hvalue : b.toNat / 16 * 16 + b.toNat % 16 = b.toNat := by omega
    have hspaced : spaced ('=' :: high :: low :: s) = '=' :: high :: low :: spaced s := by
      rw [spaced, List.map_cons, List.map_cons, List.map_cons, if_neg (isPlain_of_isHex (by omega) hhigh).2.2.2.2,
        if_neg (isPlain_of_isHex (by omega) hlow).2.2.2.2]
      rfl
    rw [hspaced, decodeLine_escaped (hexDigit?_of_isHex (by omega) hhigh) (hexDigit?_of_isHex (by omega) hlow), ih,
      hvalue, UInt8.ofNat_toNat]

/-- **Octets that were written in a word are read back**, unless the sign of a space ends it. -/
theorem decode_written {bs : List UInt8} {s : List Char} (h : Written bs s) (hlast : s.getLast? ≠ some '_') :
    decode (spaced s) = bs := by
  have hkept := isKept_spaced h
  have hline := decodeLine_spaced h
  have hall : (spaced s).filter isKept = spaced s := List.filter_eq_self.2 fun c hc => (hkept c hc).1
  rw [decode, hall]
  obtain rfl | ⟨front, last, rfl⟩ := List.eq_nil_or_concat s
  · exact congrArg Prod.fst hline
  · rw [List.concat_eq_append] at *
    have hsign : last ≠ '_' := fun he => hlast (by rw [he, List.getLast?_concat])
    have hspaced : spaced (front ++ [last]) = spaced front ++ [last] := by
      rw [spaced, List.map_append, List.map_singleton, if_neg hsign]
      rfl
    -- the end of the line is no blank, so nothing of it is cut
    have hblank : isLineBlank last = false := by
      obtain hplain | rfl | rfl := h.isPlain_or_sign (List.mem_append_right _ (List.mem_singleton_self last))
      · have hbounds := isPlain_bounds hplain
        have hne : ∀ d : Char, d.toNat < 33 → last ≠ d := fun d hd he => by
          rw [he] at hbounds
          omega
        simp [isLineBlank, hne ' ' (by decide), hne '\t' (by decide), hne '\r' (by decide)]
      · exact absurd rfl hsign
      · rfl
    rw [lines_of_not_mem (fun hm => (hkept _ hm).2 rfl) (by rw [hspaced]; simp), List.flatMap_singleton, Line.octets,
      hspaced, cutBlanks_of_last hblank, ← hspaced, hline]
    rfl

end QuotedPrintable
end Postbag
