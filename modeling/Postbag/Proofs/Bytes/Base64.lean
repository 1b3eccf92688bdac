import Postbag.Bytes.Base64
/-!
# Base64 — octets that were written are read back

Three octets are four characters, and the characters give the sextets back that they stand for.  Only the last group may
be padded, and no character of the alphabet is a padding, so no group before it is taken for the last one.
-/
namespace Postbag
namespace Base64

theorem sextet?_symbol : ∀ n < 64, sextet? (symbol n) = some n := by decide

theorem symbol_ne_padding : ∀ n < 64, symbol n ≠ '=' := by decide

/-- A group that does not end in a padding is followed by others. -/
theorem decode_group {a b c d : Nat} (ha : a < 64) (hb : b < 64) (hc : c < 64) (hd : d < 64) (s : List Char) :
    decode (symbol a :: symbol b :: symbol c :: symbol d :: s) =
      (decode s).map fun bs => firstOctet a b :: secondOctet b c :: thirdOctet c d :: bs := by
  have hpadding := symbol_ne_padding d hd
  -- the forms of a last group end in a padding, which no symbol is
  rw [decode.eq_def]
  split
  · rename_i h
    simp_all
  · rename_i h
    simp_all
  · rename_i h
    simp_all
  · rename_i h
    simp only [List.cons.injEq] at h
    obtain ⟨rfl, rfl, rfl, rfl, rfl⟩ := h
    rw [sextet?_symbol a ha, sextet?_symbol b hb, sextet?_symbol c hc, sextet?_symbol d hd]
    cases decode s <;> rfl
  · rename_i h
    exact absurd rfl (h _ _ _ _ _)

variable (x y z : UInt8)

theorem firstOctet_split : firstOctet (x.toNat / 4) (x.toNat % 4 * 16 + y.toNat / 16) = x := by
  have hy := y.toNat_lt
  have hvalue : x.toNat / 4 * 4 + (x.toNat % 4 * 16 + y.toNat / 16) / 16 = x.toNat := by omega
  rw [firstOctet, hvalue, UInt8.ofNat_toNat]

theorem secondOctet_split :
    secondOctet (x.toNat % 4 * 16 + y.toNat / 16) (y.toNat % 16 * 4 + z.toNat / 64) = y := by
  have hy := y.toNat_lt
  have hz := z.toNat_lt
  have hvalue : (x.toNat % 4 * 16 + y.toNat / 16) % 16 * 16 + (y.toNat % 16 * 4 + z.toNat / 64) / 4 = y.toNat := by
    omega
  rw [secondOctet, hvalue, UInt8.ofNat_toNat]

theorem thirdOctet_split : thirdOctet (y.toNat % 16 * 4 + z.toNat / 64) (z.toNat % 64) = z := by
  have hz := z.toNat_lt
  have hvalue : (y.toNat % 16 * 4 + z.toNat / 64) % 4 * 64 + z.toNat % 64 = z.toNat := by omega
  rw [thirdOctet, hvalue, UInt8.ofNat_toNat]

/-- **Octets that were written are read back.** -/
theorem decode_encode (bs : List UInt8) : decode (encode bs) = some bs := by
  fun_induction encode bs with
  | case1 => rfl
  | case2 x =>
    have hx := x.toNat_lt
    have hfirst := firstOctet_split x 0
    rw [UInt8.toNat_zero, Nat.zero_div, Nat.add_zero] at hfirst
    rw [decode, sextet?_symbol _ (by omega), sextet?_symbol _ (by omega)]
    exact congrArg (fun x => some [x]) hfirst
  | case3 x y =>
    have hx := x.toNat_lt
    have hy := y.toNat_lt
    have hsecond := secondOctet_split x y 0
    rw [UInt8.toNat_zero, Nat.zero_div, Nat.add_zero] at hsecond
    rw [decode, sextet?_symbol _ (by omega), sextet?_symbol _ (by omega), sextet?_symbol _ (by omega)]
    · show some [firstOctet _ _, secondOctet _ _] = _
      rw [firstOctet_split, hsecond]
    · exact symbol_ne_padding _ (by omega)
  | case4 x y z bs ih =>
    have hx := x.toNat_lt
    have hy := y.toNat_lt
    have hz := z.toNat_lt
    rw [decode_group (by omega) (by omega) (by omega) (by omega), ih, firstOctet_split, secondOctet_split,
      thirdOctet_split]
    rfl

theorem eq_symbol_of_mem_encode (bs : List UInt8) {c : Char} (h : c ∈ encode bs) :
    c = '=' ∨ ∃ n < 64, c = symbol n := by
  have hsymbol : ∀ {n}, n < 64 → c = symbol n → c = '=' ∨ ∃ n < 64, c = symbol n := fun hn hc => .inr ⟨_, hn, hc⟩
  fun_induction encode bs with
  | case1 => exact absurd h List.not_mem_nil
  | case2 x =>
    have hx := x.toNat_lt
    simp only [List.mem_cons, List.not_mem_nil, or_false] at h
    obtain h | h | h | h := h
    · exact hsymbol (by omega) h
    · exact hsymbol (by omega) h
    · exact .inl h
    · exact .inl h
  | case3 x y =>
    have hx := x.toNat_lt
    have hy := y.toNat_lt
    simp only [List.mem_cons, List.not_mem_nil, or_false] at h
    obtain h | h | h | h := h
    · exact hsymbol (by omega) h
    · exact hsymbol (by omega) h
    · exact hsymbol (by omega) h
    · exact .inl h
  | case4 x y z bs ih =>
    have hx := x.toNat_lt
    have hy := y.toNat_lt
    have hz := z.toNat_lt
    simp only [List.mem_cons] at h
    obtain h | h | h | h | h := h
    · exact hsymbol (by omega) h
    · exact hsymbol (by omega) h
    · exact hsymbol (by omega) h
    · exact hsymbol (by omega) h
    · exact ih h

end Base64
end Postbag
