import Postbag.Text.Decimal
/-!
# Numbers — which texts are numbers, and where the others go wrong

A text is a number where it is digits, behind a `+` or not, and its value is what the digits say.  Reading it takes the
value up from digit to digit, so it has gone past a bound at the first digit that takes it there.  What is behind that
digit, or behind a character that is none, is never looked at.
-/
namespace Postbag
namespace Text

def valueOf (ds : List Char) : Nat := Nat.ofDigitChars 10 ds 0

/-- A text without the `+` that may stand in front. -/
def unsigned : List Char → List Char
  | '+' :: s => s
  | s => s

/-- **A text that denotes a number**: one digit or more, behind a `+` or not. -/
structure Denotes (s : List Char) (n : Nat) : Prop where
  nonempty : unsigned s ≠ []
  isDigit : ∀ c ∈ unsigned s, c.isDigit = true
  value : valueOf (unsigned s) = n

/-- **What goes wrong in digits**, read from the left behind those that made `value`: the first character that is no
digit, or the first digit that takes the value past the bound. -/
inductive GoesWrong (bound value : Nat) : List Char → NumberFault → Prop
  | notADigit {s t : List Char} {c : Char} : (∀ d ∈ s, d.isDigit = true) →
      Nat.ofDigitChars 10 s value ≤ bound → c.isDigit = false →
      GoesWrong bound value (s ++ c :: t) .notADigit
  | tooLarge {s t : List Char} {c : Char} : (∀ d ∈ s, d.isDigit = true) →
      Nat.ofDigitChars 10 s value ≤ bound → c.isDigit = true →
      bound < Nat.ofDigitChars 10 (s ++ [c]) value → GoesWrong bound value (s ++ c :: t) .tooLarge

/-- **Why a text is no number up to a bound.**  A `+` by itself is no digit. -/
inductive Unreadable (bound : Nat) : List Char → NumberFault → Prop
  | empty : Unreadable bound [] .empty
  | loneSign : Unreadable bound ['+'] .notADigit
  | digits {s : List Char} {f : NumberFault} : GoesWrong bound 0 (unsigned s) f → Unreadable bound s f

/-! ## Digits -/

variable {bound value n : Nat} {s : List Char} {f : NumberFault}

/-- Digits only take a value further up. -/
theorem le_ofDigitChars (s : List Char) (value : Nat) : value ≤ Nat.ofDigitChars 10 s value := by
  induction s generalizing value with
  | nil => exact Nat.le_refl value
  | cons c s ih =>
    rw [Nat.ofDigitChars_cons]
    exact Nat.le_trans (by omega) (ih _)

theorem readDigits_cons {c : Char} (hc : c.isDigit = true) (s : List Char) :
    readDigits bound value (c :: s) =
      if Nat.ofDigitChars 10 [c] value ≤ bound then readDigits bound (Nat.ofDigitChars 10 [c] value) s
      else .error .tooLarge := by
  have hvalue : Nat.ofDigitChars 10 [c] value = value * 10 + (c.toNat - 48) := by
    rw [Nat.ofDigitChars_cons, Nat.mul_comm]
    rfl
  rw [hvalue, readDigits, digit?, if_pos hc]

theorem readDigits_cons_of_not_isDigit {c : Char} (hc : c.isDigit = false) (s : List Char) :
    readDigits bound value (c :: s) = .error .notADigit := by
  rw [readDigits, digit?, hc]
  rfl

/-- **Digits up to the bound are read**, and what is behind them is read from their value on. -/
theorem readDigits_append (hs : ∀ c ∈ s, c.isDigit = true) (h : Nat.ofDigitChars 10 s value ≤ bound)
    (rest : List Char) :
    readDigits bound value (s ++ rest) = readDigits bound (Nat.ofDigitChars 10 s value) rest := by
  induction s generalizing value with
  | nil => rfl
  | cons c s ih =>
    obtain ⟨hc, hs⟩ := List.forall_mem_cons.1 hs
    have hsplit : Nat.ofDigitChars 10 (c :: s) value = Nat.ofDigitChars 10 s (Nat.ofDigitChars 10 [c] value) := rfl
    rw [hsplit] at h ⊢
    rw [List.cons_append, readDigits_cons hc, if_pos (Nat.le_trans (le_ofDigitChars s _) h), ih hs h]

/-- Digits are read to their end, or something goes wrong in them. -/
theorem readDigits_cases (s : List Char) (h : value ≤ bound) :
    ((∀ c ∈ s, c.isDigit = true) ∧ Nat.ofDigitChars 10 s value ≤ bound) ∨ ∃ f, GoesWrong bound value s f := by
  induction s generalizing value with
  | nil => exact .inl ⟨fun c hc => absurd hc List.not_mem_nil, h⟩
  | cons c s ih =>
    cases hc : c.isDigit with
    | false => exact .inr ⟨.notADigit, .notADigit (s := []) (fun d hd => absurd hd List.not_mem_nil) h hc⟩
    | true =>
      by_cases hle : Nat.ofDigitChars 10 [c] value ≤ bound
      · have hone : ∀ {front : List Char}, (∀ d ∈ front, d.isDigit = true) → ∀ d ∈ c :: front, d.isDigit = true :=
          fun hfront => List.forall_mem_cons.2 ⟨hc, hfront⟩
        rcases ih hle with ⟨hs, hvalue⟩ | ⟨f, hwrong⟩
        · exact .inl ⟨hone hs, hvalue⟩
        · -- what goes wrong behind the first digit goes wrong behind all of them
          cases hwrong with
          | notADigit hfront hvalue hd => exact .inr ⟨_, .notADigit (s := c :: _) (hone hfront) hvalue hd⟩
          | tooLarge hfront hvalue hd hpast =>
            exact .inr ⟨_, .tooLarge (s := c :: _) (hone hfront) hvalue hd hpast⟩
      · exact .inr ⟨.tooLarge, .tooLarge (s := []) (fun d hd => absurd hd List.not_mem_nil) h hc
          (Nat.lt_of_not_le hle)⟩

theorem readDigits_of_goesWrong (h : GoesWrong bound value s f) : readDigits bound value s = .error f := by
  cases h with
  | notADigit hfront hvalue hc => rw [readDigits_append hfront hvalue, readDigits_cons_of_not_isDigit hc]
  | tooLarge hfront hvalue hc hpast =>
    rw [Nat.ofDigitChars_append] at hpast
    rw [readDigits_append hfront hvalue, readDigits_cons hc, if_neg (Nat.not_le.2 hpast)]

theorem readDigits_of_isDigit (hs : ∀ c ∈ s, c.isDigit = true) (h : Nat.ofDigitChars 10 s value ≤ bound) :
    readDigits bound value s = .ok (Nat.ofDigitChars 10 s value) := by
  have hread := readDigits_append hs h []
  rwa [List.append_nil] at hread

/-! ## Numbers -/

theorem readNumber_eq (h : unsigned s ≠ []) (bound : Nat) : readNumber bound s = readDigits bound 0 (unsigned s) := by
  unfold unsigned at h ⊢
  rw [readNumber.eq_def]
  split <;> simp_all

theorem eq_of_unsigned_eq_nil (h : unsigned s = []) : s = [] ∨ s = ['+'] := by
  unfold unsigned at h
  split at h
  · exact .inr (h ▸ rfl)
  · exact .inl h

theorem readNumber_of_denotes (h : Denotes s n) (hn : n ≤ bound) : readNumber bound s = .ok n := by
  obtain ⟨hne, hdigit, rfl⟩ := h
  rw [readNumber_eq hne, readDigits_of_isDigit hdigit hn]
  rfl

theorem readNumber_of_unreadable (h : Unreadable bound s f) : readNumber bound s = .error f := by
  cases h with
  | empty => rfl
  | loneSign => rfl
  | digits hwrong =>
    have hne : unsigned s ≠ [] := by
      intro hnil
      rw [hnil] at hwrong
      cases readDigits_of_goesWrong hwrong
    rw [readNumber_eq hne, readDigits_of_goesWrong hwrong]

/-- **A text denotes a number up to the bound, or there is a reason why it does not.** -/
theorem denotes_or_unreadable (bound : Nat) (s : List Char) :
    (∃ n ≤ bound, Denotes s n) ∨ ∃ f, Unreadable bound s f := by
  by_cases hne : unsigned s = []
  · rcases eq_of_unsigned_eq_nil hne with rfl | rfl
    · exact .inr ⟨_, .empty⟩
    · exact .inr ⟨_, .loneSign⟩
  · rcases readDigits_cases (unsigned s) (Nat.zero_le bound) with ⟨hdigit, hvalue⟩ | ⟨f, hwrong⟩
    · exact .inl ⟨_, hvalue, hne, hdigit, rfl⟩
    · exact .inr ⟨f, .digits hwrong⟩

/-- **The numbers that are read** are those that texts denote. -/
theorem readNumber_eq_ok_iff : readNumber bound s = .ok n ↔ Denotes s n ∧ n ≤ bound := by
  refine ⟨fun h => ?_, fun ⟨hd, hn⟩ => readNumber_of_denotes hd hn⟩
  rcases denotes_or_unreadable bound s with ⟨m, hm, hd⟩ | ⟨f, hf⟩
  · rw [readNumber_of_denotes hd hm] at h
    cases h
    exact ⟨hd, hm⟩
  · rw [readNumber_of_unreadable hf] at h
    cases h

/-- **What is reported of any other text** is what goes wrong in it first. -/
theorem readNumber_eq_error_iff : readNumber bound s = .error f ↔ Unreadable bound s f := by
  refine ⟨fun h => ?_, readNumber_of_unreadable⟩
  rcases denotes_or_unreadable bound s with ⟨m, hm, hd⟩ | ⟨f', hf⟩
  · rw [readNumber_of_denotes hd hm] at h
    cases h
  · rw [readNumber_of_unreadable hf] at h
    cases h
    exact hf

example : readNumber 65535 "65536x".toList = .error .tooLarge ∧ readNumber 65535 "+6553x".toList = .error .notADigit :=
  ⟨rfl, rfl⟩

theorem isDigit_of_mem_digits {c : Char} (h : c ∈ digits n) : c.isDigit = true :=
  Nat.isDigit_of_mem_toDigits (by decide) (by decide) h

theorem isDigit_of_mem_zeroPadded {width : Nat} {c : Char} (h : c ∈ zeroPadded width n) : c.isDigit = true := by
  rcases List.mem_append.1 h with h | h
  · rw [List.eq_of_mem_replicate h]
    rfl
  · exact isDigit_of_mem_digits h

/-! ## Numbers of a width -/

theorem length_digits_le_iff {width : Nat} (hw : 0 < width) : (digits n).length ≤ width ↔ n < Nat.pow 10 width :=
  Nat.length_toDigits_le_iff (by decide) hw

/-- A number that is short enough is as wide as it is made. -/
theorem length_zeroPadded {width : Nat} (hw : 0 < width) (h : n < Nat.pow 10 width) :
    (zeroPadded width n).length = width := by
  have hle := (length_digits_le_iff hw).2 h
  rw [zeroPadded, List.length_append, List.length_replicate]
  omega

theorem valueOf_zeroPadded (width n : Nat) : valueOf (zeroPadded width n) = n := by
  rw [valueOf, zeroPadded, Nat.ofDigitChars_append, Nat.ofDigitChars_replicate_zero, Nat.mul_zero]
  exact Nat.ofDigitChars_ten_toDigits

theorem zeroPadded_two (h : n < 100) : zeroPadded 2 n = [Nat.digitChar (n / 10), Nat.digitChar (n % 10)] := by
  unfold zeroPadded digits
  by_cases hten : n < 10
  · rw [Nat.toDigits_of_lt_base hten, Nat.div_eq_of_lt hten, Nat.mod_eq_of_lt hten]
    rfl
  · rw [Nat.toDigits_of_base_le (by decide) (by omega), Nat.toDigits_of_lt_base (by omega)]
    rfl

theorem digit?_digitChar (h : n < 10) : digit? (Nat.digitChar n) = some n := by
  rw [digit?, Nat.isDigit_digitChar, if_pos (decide_eq_true h), Nat.toNat_digitChar_sub_48_of_lt_ten h]

/-! ## Numbers that are written -/

theorem unsigned_of_isDigit (h : ∀ c ∈ s, c.isDigit = true) : unsigned s = s := by
  rw [unsigned.eq_def]
  split
  · cases h '+' List.mem_cons_self
  · rfl

/-- **A number that is written is denoted by what is written.** -/
theorem denotes_digits (n : Nat) : Denotes (digits n) n := by
  have hplain : unsigned (digits n) = digits n := unsigned_of_isDigit fun c => isDigit_of_mem_digits
  constructor
  · rw [hplain]
    exact Nat.toDigits_ne_nil
  · rw [hplain]
    exact fun c => isDigit_of_mem_digits
  · rw [hplain]
    exact Nat.ofDigitChars_ten_toDigits

theorem readNumber_digits (h : n ≤ bound) : readNumber bound (digits n) = .ok n :=
  readNumber_of_denotes (denotes_digits n) h

end Text
end Postbag
