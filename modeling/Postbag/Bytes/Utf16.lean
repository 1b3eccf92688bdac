import Postbag.Bytes.Utf8
/-!
# Utf16 — octets as 16-bit units, and units as text

Units come in either byte order.  A leading surrogate waits for a trailing one; whatever comes instead is read afresh
after one replacement character.  What is still waiting at the end, an odd octet or a leading surrogate, gives one
replacement character together.
-/
namespace Postbag
namespace Utf16

inductive ByteOrder
  | little | big
  deriving Repr, DecidableEq

def unit : ByteOrder → UInt8 → UInt8 → Nat
  | .little, a, b => b.toNat * 256 + a.toNat
  | .big, a, b => a.toNat * 256 + b.toNat

def isLeading (u : Nat) : Bool := 0xD800 ≤ u && u ≤ 0xDBFF

def isTrailing (u : Nat) : Bool := 0xDC00 ≤ u && u ≤ 0xDFFF

/-- The text of octets while `lead` waits for its other half. -/
def decodeFrom (order : ByteOrder) : (lead : Option Nat) → List UInt8 → List Char
  | none, [] => []
  | some _, [] => [Utf8.replacement]
  | _, [_] => [Utf8.replacement]
  | none, a :: b :: bs =>
    let u := unit order a b
    if isLeading u then decodeFrom order (some u) bs
    else (if isTrailing u then Utf8.replacement else Char.ofNat u) :: decodeFrom order none bs
  | some l, a :: b :: bs =>
    let u := unit order a b
    if isTrailing u then Char.ofNat (0x10000 + (l - 0xD800) * 0x400 + (u - 0xDC00)) :: decodeFrom order none bs
    else
      Utf8.replacement ::
        if isLeading u then decodeFrom order (some u) bs
        else Char.ofNat u :: decodeFrom order none bs

def decode (order : ByteOrder) (bs : List UInt8) : List Char := decodeFrom order none bs

end Utf16
end Postbag
