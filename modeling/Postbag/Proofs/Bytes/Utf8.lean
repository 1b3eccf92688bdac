import Postbag.Bytes.Utf8
/-!
# Utf8 — text that was written as octets is read back

The octets of a character take the machine from between two characters to between two characters again, and what it has
read there is that character.  Octets below 0x80 are whole characters, so no part of another character is a line feed or
a carriage return.
-/
namespace Postbag
namespace Utf8

theorem toNat_ofNat {n : Nat} (h : n < 256) : (UInt8.ofNat n).toNat = n := by
  rw [UInt8.toNat_ofNat', Nat.mod_eq_of_lt h]

/-- The number of a character is below the last one, and no surrogate. -/
theorem scalar_bounds (c : Char) : c.toNat < 0xD800 ∨ 0xDFFF < c.toNat ∧ c.toNat < 0x110000 := c.valid

/-! ## The first octet -/

theorem begin_one {n : Nat} (h : n < 0x80) : begin (UInt8.ofNat n) = .scalar (Char.ofNat n) := by
  rw [begin, toNat_ofNat (by omega)]
  simp only [if_pos h]

theorem begin_two {k : Nat} (hl : 2 ≤ k) (h : k < 32) :
    begin (UInt8.ofNat (k + 192)) = .pending ⟨k, 0, 1, 0x80, 0xBF⟩ := by
  have h1 : ¬ k + 192 < 0x80 := by omega
  have h2 : ¬ k + 192 < 0xC2 := by omega
  have h3 : k + 192 < 0xE0 := by omega
  rw [begin, toNat_ofNat (by omega)]
  simp only [if_neg h1, if_neg h2, if_pos h3, Nat.add_sub_cancel]

theorem begin_three {k : Nat} (h : k < 16) :
    begin (UInt8.ofNat (k + 224)) =
      .pending ⟨k, 1, 1, if k = 0 then 0xA0 else 0x80, if k = 13 then 0x9F else 0xBF⟩ := by
  have h1 : ¬ k + 224 < 0x80 := by omega
  have h2 : ¬ k + 224 < 0xC2 := by omega
  have h3 : ¬ k + 224 < 0xE0 := by omega
  have h4 : k + 224 < 0xF0 := by omega
  rw [begin, toNat_ofNat (by omega)]
  simp only [if_neg h1, if_neg h2, if_neg h3, if_pos h4, Nat.add_sub_cancel, Nat.add_eq_right, Nat.reduceEqDiff]

theorem begin_four {k : Nat} (h : k < 5) :
    begin (UInt8.ofNat (k + 240)) =
      .pending ⟨k, 2, 1, if k = 0 then 0x90 else 0x80, if k = 4 then 0x8F else 0xBF⟩ := by
  have h1 : ¬ k + 240 < 0x80 := by omega
  have h2 : ¬ k + 240 < 0xC2 := by omega
  have h3 : ¬ k + 240 < 0xE0 := by omega
  have h4 : ¬ k + 240 < 0xF0 := by omega
  have h5 : k + 240 < 0xF5 := by omega
  rw [begin, toNat_ofNat (by omega)]
  simp only [if_neg h1, if_neg h2, if_neg h3, if_neg h4, if_pos h5, Nat.add_sub_cancel, Nat.add_eq_right,
    Nat.reduceEqDiff]

/-! ## The octets behind it -/

theorem push_last {p : Pending} {t : Nat} (ht : t < 64) (hm : p.missing = 0) (hl : p.least ≤ t + 128)
    (hg : t + 128 ≤ p.greatest) : p.push (UInt8.ofNat (t + 128)) = .scalar (Char.ofNat (p.value * 64 + t)) := by
  rw [Pending.push, toNat_ofNat (by omega), if_pos ⟨hl, hg⟩]
  simp only [hm, Nat.add_sub_cancel]

theorem push_more {p : Pending} {t missing : Nat} (ht : t < 64) (hm : p.missing = missing + 1)
    (hl : p.least ≤ t + 128) (hg : t + 128 ≤ p.greatest) :
    p.push (UInt8.ofNat (t + 128)) = .pending ⟨p.value * 64 + t, missing, p.width + 1, 0x80, 0xBF⟩ := by
  rw [Pending.push, toNat_ofNat (by omega), if_pos ⟨hl, hg⟩]
  simp only [hm, Nat.add_sub_cancel]

/-- The last octet of a character, which is any of those that go on with one. -/
theorem decodeFrom_last (value width t : Nat) (ht : t < 64) (bs : List UInt8) :
    decodeFrom (some ⟨value, 0, width, 0x80, 0xBF⟩) (UInt8.ofNat (t + 128) :: bs) =
      Char.ofNat (value * 64 + t) :: decodeFrom none bs := by
  have hg : t + 128 ≤ 0xBF := by omega
  rw [decodeFrom, push_last ht rfl (Nat.le_add_left _ _) hg]

/-- The last two octets of a character, the first of which may be bounded by what stands before. -/
theorem decodeFrom_lastTwo {p : Pending} {t u : Nat} (ht : t < 64) (hu : u < 64) (hm : p.missing = 1)
    (hl : p.least ≤ t + 128) (hg : t + 128 ≤ p.greatest) (bs : List UInt8) :
    decodeFrom (some p) (UInt8.ofNat (t + 128) :: UInt8.ofNat (u + 128) :: bs) =
      Char.ofNat ((p.value * 64 + t) * 64 + u) :: decodeFrom none bs := by
  rw [decodeFrom, push_more ht hm hl hg]
  exact decodeFrom_last _ _ u hu bs

/-- **The octets of a character are read as that character**, whatever stands behind them. -/
theorem decodeFrom_encodeChar (c : Char) (bs : List UInt8) :
    decodeFrom none (String.utf8EncodeChar c ++ bs) = c :: decodeFrom none bs := by
  have hbounds := scalar_bounds c
  have hchar : Char.ofNat c.toNat = c := Char.ofNat_toNat c
  have hval : c.val.toNat = c.toNat := rfl
  unfold String.utf8EncodeChar
  rw [hval]
  generalize c.toNat = v at hbounds hchar
  subst hchar
  -- one case for each number of octets
  by_cases h1 : v ≤ 127
  · simp only [if_pos h1, List.singleton_append]
    rw [decodeFrom, begin_one (by omega)]
  by_cases h2 : v ≤ 2047
  · have hk : v / 64 % 32 = v / 64 := Nat.mod_eq_of_lt (by omega)
    have hv : v / 64 * 64 + v % 64 = v := by omega
    simp only [if_neg h1, if_pos h2, List.cons_append, List.nil_append]
    rw [decodeFrom, hk, begin_two (by omega) (by omega)]
    show decodeFrom (some _) _ = _
    rw [decodeFrom_last _ _ _ (Nat.mod_lt _ (by decide)), hv]
  by_cases h3 : v ≤ 65535
  · have hk : v / 4096 % 16 = v / 4096 := Nat.mod_eq_of_lt (by omega)
    have hv : (v / 4096 * 64 + v / 64 % 64) * 64 + v % 64 = v := by omega
    simp only [if_neg h1, if_neg h2, if_pos h3, List.cons_append, List.nil_append]
    rw [decodeFrom, hk, begin_three (by omega)]
    show decodeFrom (some _) _ = _
    rw [decodeFrom_lastTwo (Nat.mod_lt _ (by decide)) (Nat.mod_lt _ (by decide)) rfl (by simp only; split <;> omega)
      (by simp only; split <;> omega), hv]
  · have hk : v / 262144 % 8 = v / 262144 := Nat.mod_eq_of_lt (by omega)
    have hv : ((v / 262144 * 64 + v / 4096 % 64) * 64 + v / 64 % 64) * 64 + v % 64 = v := by omega
    simp only [if_neg h1, if_neg h2, if_neg h3, List.cons_append, List.nil_append]
    rw [decodeFrom, hk, begin_four (by omega)]
    show decodeFrom (some _) _ = _
    rw [decodeFrom, push_more (Nat.mod_lt _ (by decide)) rfl (by simp only; split <;> omega)
      (by simp only; split <;> omega)]
    have hg : v / 64 % 64 + 128 ≤ 0xBF := by omega
    show decodeFrom (some _) _ = _
    rw [decodeFrom_lastTwo (Nat.mod_lt _ (by decide)) (Nat.mod_lt _ (by decide)) rfl (Nat.le_add_left _ _) hg, hv]

/-- **Text that was written as octets is read back.** -/
theorem decode_encode (s : List Char) : decode (encode s) = s := by
  induction s with
  | nil => rfl
  | cons c s ih =>
    rw [decode, encode, List.flatMap_cons, decodeFrom_encodeChar]
    exact congrArg (c :: ·) ih

/-! ## Octets that are whole characters -/

/-- An octet below 0x80 is the whole of its character. -/
theorem toNat_of_mem_encodeChar {c : Char} {b : UInt8} (h : b ∈ String.utf8EncodeChar c) (hb : b.toNat < 0x80) :
    c.toNat = b.toNat := by
  have hval : c.val.toNat = c.toNat := rfl
  unfold String.utf8EncodeChar at h
  rw [hval] at h
  generalize c.toNat = v at h
  -- every octet but the only one of a character has its highest bit
  have hhigh : ∀ n, 128 ≤ n → n < 256 → b ≠ UInt8.ofNat n := fun n hn hlt he => by
    rw [he, toNat_ofNat hlt] at hb
    omega
  by_cases h1 : v ≤ 127
  · simp only [if_pos h1, List.mem_singleton] at h
    rw [h, toNat_ofNat (by omega)]
  · exfalso
    simp only [if_neg h1] at h
    split at h
    · simp only [List.mem_cons, List.not_mem_nil, or_false] at h
      rcases h with h | h <;> exact hhigh _ (by omega) (by omega) h
    · split at h
      · simp only [List.mem_cons, List.not_mem_nil, or_false] at h
        rcases h with h | h | h <;> exact hhigh _ (by omega) (by omega) h
      · simp only [List.mem_cons, List.not_mem_nil, or_false] at h
        rcases h with h | h | h | h <;> exact hhigh _ (by omega) (by omega) h

/-- **A text that does not hold a character of one octet has no such octet.** -/
theorem not_mem_encode {s : List Char} {c : Char} (hc : c.toNat < 0x80) (h : c ∉ s) :
    UInt8.ofNat c.toNat ∉ encode s := by
  intro hm
  obtain ⟨d, hd, hb⟩ := List.mem_flatMap.1 hm
  have htoNat := toNat_ofNat (n := c.toNat) (by omega)
  have hdc := toNat_of_mem_encodeChar hb (by rw [htoNat]; exact hc)
  rw [htoNat] at hdc
  exact h (Char.toNat_inj.1 hdc ▸ hd)

end Utf8
end Postbag
