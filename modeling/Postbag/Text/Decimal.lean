/-!
# Decimal — whole numbers in decimal, read up to a bound and written to a width

A number is read from the left: the first character that is no digit, or the first digit that takes the value past the
bound, decides which fault is reported, whatever follows it.
-/
namespace Postbag
namespace Text

def digit? (c : Char) : Option Nat := if c.isDigit then some (c.toNat - 48) else none

inductive NumberFault
  | empty | notADigit | tooLarge
  deriving Repr, DecidableEq

def NumberFault.message : NumberFault → String
  | .empty => "cannot parse integer from empty string"
  | .notADigit => "invalid digit found in string"
  | .tooLarge => "number too large to fit in target type"

def readDigits (bound : Nat) : (value : Nat) → List Char → Except NumberFault Nat
  | value, [] => .ok value
  | value, c :: s =>
    match digit? c with
    | none => .error .notADigit
    | some d => if value * 10 + d ≤ bound then readDigits bound (value * 10 + d) s else .error .tooLarge

/-- **A number of at most `bound`**: one optional `+`, then one or more digits. -/
def readNumber (bound : Nat) : List Char → Except NumberFault Nat
  | [] => .error .empty
  | ['+'] => .error .notADigit
  | '+' :: s => readDigits bound 0 s
  | s => readDigits bound 0 s

def digits (n : Nat) : List Char := Nat.toDigits 10 n

def zeroPadded (width n : Nat) : List Char := List.replicate (width - (digits n).length) '0' ++ digits n

theorem eq_ofNat_of_isDigit {c : Char} (h : c.isDigit = true) : ∃ k < 10, c = Char.ofNat (48 + k) := by
  rw [Char.isDigit, Bool.and_eq_true, decide_eq_true_eq, decide_eq_true_eq, ge_iff_le, UInt32.le_iff_toNat_le,
    UInt32.le_iff_toNat_le] at h
  have h0 : '0'.val.toNat = 48 := rfl
  have h9 : '9'.val.toNat = 57 := rfl
  have hval : c.val.toNat = c.toNat := rfl
  have hc : 48 + (c.toNat - 48) = c.toNat := by omega
  exact ⟨c.toNat - 48, by omega, by rw [hc, Char.ofNat_toNat]⟩

end Text
end Postbag
