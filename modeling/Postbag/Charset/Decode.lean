import Postbag.Charset.Label
import Postbag.Charset.Utf7
/-!
# Decode — octets as text, given the name of their charset

A byte order mark at the start is no text, and what it says goes before what the name says.  A name that no charset
has leaves ASCII.
-/
namespace Postbag
namespace Charset

def decodeUnmarked : Charset → List UInt8 → List Char
  | .utf8, bs => Utf8.decode bs
  | .utf16 order, bs => Utf16.decode order bs
  | .utf7, bs => Utf7.decode bs
  | .singleByte t, bs => t.decode bs
  | .userDefined, bs => bs.map fun b => Char.ofNat (if b.toNat < 0x80 then b.toNat else 0xF700 + b.toNat)
  | .replacement, bs => if bs.isEmpty then [] else [Utf8.replacement]

/-- **Octets in a charset**, where a byte order mark decides otherwise. -/
def decode (c : Charset) : List UInt8 → List Char
  | 0xEF :: 0xBB :: 0xBF :: bs => Utf8.decode bs
  | 0xFE :: 0xFF :: bs => Utf16.decode .big bs
  | 0xFF :: 0xFE :: bs => Utf16.decode .little bs
  | bs => decodeUnmarked c bs

def decodeAscii (bs : List UInt8) : List Char :=
  bs.map fun b => if b.toNat < 0x80 then Char.ofNat b.toNat else Utf8.replacement

/-- Octets in the charset of a name, which need not exist. -/
def decodeNamed (label : List Char) (bs : List UInt8) : List Char :=
  match ofLabel? label with
  | some c => c.decode bs
  | none => decodeAscii bs

end Charset
end Postbag
