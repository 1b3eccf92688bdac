import Postbag.Text.Decimal
/-!
# Timestamp — a moment as a sender's clock showed it

The fields are those of the local clock, and the offset tells how far it is ahead of universal time.  A leap second has
the number 60.
-/
namespace Postbag

structure Timestamp where
  year : Nat
  month : Nat
  day : Nat
  hour : Nat
  minute : Nat
  second : Nat
  /-- Minutes ahead of universal time. -/
  offset : Int
  deriving Repr, DecidableEq

namespace Timestamp

open Text (zeroPadded)

/-- Four digits, or a sign and all of them when four are not enough. -/
def yearText (year : Nat) : List Char := if year ≤ 9999 then zeroPadded 4 year else '+' :: zeroPadded 4 year

def dateText (t : Timestamp) : List Char :=
  yearText t.year ++ '-' :: zeroPadded 2 t.month ++ '-' :: zeroPadded 2 t.day

def hourMinuteText (t : Timestamp) : List Char := zeroPadded 2 t.hour ++ ':' :: zeroPadded 2 t.minute

def clockText (t : Timestamp) : List Char := t.hourMinuteText ++ ':' :: zeroPadded 2 t.second

def offsetText (offset : Int) : List Char :=
  let n := offset.natAbs
  (if offset < 0 then '-' else '+') :: zeroPadded 2 (n / 60) ++ ':' :: zeroPadded 2 (n % 60)

def numeric (t : Timestamp) : String := String.ofList (t.dateText ++ 'T' :: t.clockText ++ offsetText t.offset)

/-- The same, where an offset of zero is written `Z`. -/
def zulu (t : Timestamp) : String :=
  if t.offset = 0 then String.ofList (t.dateText ++ 'T' :: t.clockText ++ ['Z']) else t.numeric

def short (t : Timestamp) : String := String.ofList (t.dateText ++ ' ' :: t.hourMinuteText)

end Timestamp
end Postbag
