import Postbag.Bytes.Base64
import Postbag.Bytes.Utf16
/-!
# Utf7 — ASCII with base64 runs of UTF-16

A `+` begins a run of base64 characters, which are UTF-16 in big-endian order; a `-` right after the run belongs to it.
`+-` is a plus sign.  A `+` that begins no run, and every octet above ASCII, give a replacement character.  So does the
end of a run that is no whole base64 text, after what can be read of it.
-/
namespace Postbag
namespace Utf7

/-- The run that a `+` has begun, as sextets in reverse. -/
abbrev Run := Option (List Nat)

def sextet? (b : UInt8) : Option Nat := if b.toNat < 0x80 then Base64.sextet? (Char.ofNat b.toNat) else none

def runText (sextets : List Nat) : List Char :=
  match sextets with
  | [] => [Utf8.replacement]
  | _ =>
    let run := Base64.unpadded sextets.reverse
    Utf16.decode .big run.octets ++ if run.isWhole then [] else [Utf8.replacement]

def decodeFrom : Run → List UInt8 → List Char
  | none, [] => []
  | some sextets, [] => runText sextets
  | none, b :: bs =>
    if b = 0x2B then decodeFrom (some []) bs
    else (if b.toNat < 0x80 then Char.ofNat b.toNat else Utf8.replacement) :: decodeFrom none bs
  | some sextets, b :: bs =>
    match sextet? b with
    | some x => decodeFrom (some (x :: sextets)) bs
    | none =>
      if b = 0x2D then (if sextets.isEmpty then ['+'] else runText sextets) ++ decodeFrom none bs
      else
        runText sextets ++
          (if b.toNat < 0x80 then Char.ofNat b.toNat else Utf8.replacement) :: decodeFrom none bs

def decode (bs : List UInt8) : List Char := decodeFrom none bs

end Utf7
end Postbag
