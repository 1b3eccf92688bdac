import Postbag.Bytes.Utf8
import Postbag.Imap.Reader
/-!
# Strings — the octets of a value, in one of the forms in which they are sent

A value is an atom, stands between quotes, or is counted beforehand and may then hold anything.  `NIL` stands for a
value that is not there.
-/
namespace Postbag
namespace Imap

open Reader

def isText (b : UInt8) : Bool := b != 0 && b < 0x80 && b != 0x0D && b != 0x0A

/-- What an atom is made of: no control, no space, and none of `( ) { % * " \ ]`. -/
def isAtom (b : UInt8) : Bool := 0x20 < b && b < 0x7F && !(ascii "()\x7b%*\"\\]").contains b

def isTag (b : UInt8) : Bool := (isAtom b || b = 0x5D) && b != 0x2B

/-! ## Strings -/

/-- What stands behind an opening quote, up to the closing one.  Escapes are kept as they are. -/
def quotedRest : Reader (List UInt8)
  | [] => .more
  | b :: s =>
    if b = 0x22 then .done [] s
    else if b = 0x5C then
      match s with
      | [] => .more
      | c :: s =>
        if c = 0x22 || c = 0x5C then
          match quotedRest s with
          | .done bs rest => .done (b :: c :: bs) rest
          | answer => answer
        else .refused
    else if isText b then
      match quotedRest s with
      | .done bs rest => .done (b :: bs) rest
      | answer => answer
    else .refused

def quoted : Reader (List UInt8) := do
  word "\""
  quotedRest

/-- A counted string: its length in braces, a line end, and that many octets, whatever they are. -/
def literal : Reader (List UInt8) := do
  word "\x7b"
  let n ← number
  word "\x7d\r\n"
  take n.toNat

def string : Reader (List UInt8) := either literal quoted

def nstring : Reader (Option (List UInt8)) := either (do word "NIL"; return none) (some <$> string)

def ntext : Reader (Option String) := Option.map Utf8.decodeString <$> nstring

def astring : Reader (List UInt8) := either (span1 fun b => isAtom b || b = 0x5D) string

def flag : Reader (List UInt8) := do
  let backslash ← optional (word "\\")
  let name ← span1 isAtom
  return (if backslash.isSome then [0x5C] else []) ++ name

end Imap
end Postbag
