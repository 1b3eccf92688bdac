/-!
# Base64 — six bits to a character, in groups of four

The last group may end in one or two `=`; nothing else may stand anywhere.  The bits that padding leaves over are not
looked at.  Without padding, the last group is as long as it has to be, and the bits left over have to be zero.
-/
namespace Postbag
namespace Base64

def sextet? (c : Char) : Option Nat :=
  if 'A' ≤ c && c ≤ 'Z' then some (c.toNat - 65)
  else if 'a' ≤ c && c ≤ 'z' then some (c.toNat - 97 + 26)
  else if '0' ≤ c && c ≤ '9' then some (c.toNat - 48 + 52)
  else if c = '+' then some 62
  else if c = '/' then some 63
  else none

def symbol (n : Nat) : Char :=
  if n < 26 then Char.ofNat (n + 65)
  else if n < 52 then Char.ofNat (n - 26 + 97)
  else if n < 62 then Char.ofNat (n - 52 + 48)
  else if n = 62 then '+'
  else '/'

def firstOctet (a b : Nat) : UInt8 := UInt8.ofNat (a * 4 + b / 16)

def secondOctet (b c : Nat) : UInt8 := UInt8.ofNat (b % 16 * 16 + c / 4)

def thirdOctet (c d : Nat) : UInt8 := UInt8.ofNat (c % 4 * 64 + d)

/-- The octets of a padded text; `none` when anything in it breaks the form. -/
def decode : List Char → Option (List UInt8)
  | [] => some []
  | [a, b, '=', '='] => do
    let a ← sextet? a
    let b ← sextet? b
    some [firstOctet a b]
  | [a, b, c, '='] => do
    let a ← sextet? a
    let b ← sextet? b
    let c ← sextet? c
    some [firstOctet a b, secondOctet b c]
  | a :: b :: c :: d :: s => do
    let a ← sextet? a
    let b ← sextet? b
    let c ← sextet? c
    let d ← sextet? d
    let rest ← decode s
    some (firstOctet a b :: secondOctet b c :: thirdOctet c d :: rest)
  | _ => none

def encode : List UInt8 → List Char
  | [] => []
  | [x] => [symbol (x.toNat / 4), symbol (x.toNat % 4 * 16), '=', '=']
  | [x, y] =>
    [symbol (x.toNat / 4), symbol (x.toNat % 4 * 16 + y.toNat / 16), symbol (y.toNat % 16 * 4), '=']
  | x :: y :: z :: bs =>
    symbol (x.toNat / 4) :: symbol (x.toNat % 4 * 16 + y.toNat / 16) :: symbol (y.toNat % 16 * 4 + z.toNat / 64) ::
      symbol (z.toNat % 64) :: encode bs

/-- What sextets without padding hold: the octets of the longest part at their front that fills octets exactly, with
nothing but zeros in the bits left over; and whether that part is all of them. -/
structure Unpadded where
  octets : List UInt8
  isWhole : Bool
  deriving Repr, DecidableEq

def unpadded : List Nat → Unpadded
  | a :: b :: c :: d :: s =>
    let rest := unpadded s
    { rest with octets := firstOctet a b :: secondOctet b c :: thirdOctet c d :: rest.octets }
  | [a, b, c] =>
    if c % 4 = 0 then ⟨[firstOctet a b, secondOctet b c], true⟩
    else ⟨if b % 16 = 0 then [firstOctet a b] else [], false⟩
  | [a, b] => if b % 16 = 0 then ⟨[firstOctet a b], true⟩ else ⟨[], false⟩
  | [_] => ⟨[], false⟩
  | [] => ⟨[], true⟩

end Base64
end Postbag
