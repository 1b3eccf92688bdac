/-!
# QuotedPrintable — octets written as `=XX`, read leniently

What is not printable is passed over first.  The rest is read line by line: white space at the end of a line is
cut, `=` and two hexadecimal digits are one octet, `=` at the very end joins the line to the next, and an `=` followed
by anything else stands for itself.  Lines are joined by CRLF.
-/
namespace Postbag
namespace QuotedPrintable

def isKept (c : Char) : Bool := c = '\t' || c = '\r' || c = '\n' || (' ' ≤ c && c ≤ '~')

def isLineBlank (c : Char) : Bool := c = ' ' || c = '\t' || c = '\r'

def hexDigit? (c : Char) : Option Nat :=
  if '0' ≤ c && c ≤ '9' then some (c.toNat - 48)
  else if 'A' ≤ c && c ≤ 'F' then some (c.toNat - 55)
  else if 'a' ≤ c && c ≤ 'f' then some (c.toNat - 87)
  else none

def hexSymbol (n : Nat) : Char := if n < 10 then Char.ofNat (n + 48) else Char.ofNat (n + 55)

def octet (c : Char) : UInt8 := UInt8.ofNat c.toNat

/-- A line of a text, without its line end, and whether it had one. -/
structure Line where
  text : List Char
  ended : Bool
  deriving Repr, DecidableEq

/-- The lines of a text; a line end at the very end begins no further line. -/
def lines : List Char → List Line
  | [] => []
  | '\n' :: s => ⟨[], true⟩ :: lines s
  | c :: s =>
    match lines s with
    | [] => [⟨[c], false⟩]
    | l :: ls =>
      match s with
      | '\n' :: _ => if c = '\r' then l :: ls else ⟨c :: l.text, l.ended⟩ :: ls
      | _ => ⟨c :: l.text, l.ended⟩ :: ls

/-- The octets of a line, and whether it ends softly: whether the next line goes on with it. -/
def decodeLine : List Char → List UInt8 × Bool
  | [] => ([], false)
  | ['='] => ([], true)
  | ['=', c] => ([octet '=', octet c], false)
  | '=' :: a :: b :: s =>
    let rest := decodeLine s
    match hexDigit? a, hexDigit? b with
    | some x, some y => (UInt8.ofNat (x * 16 + y) :: rest.1, rest.2)
    | _, _ => (octet '=' :: octet a :: octet b :: rest.1, rest.2)
  | c :: s =>
    let rest := decodeLine s
    (octet c :: rest.1, rest.2)

def cutBlanks (s : List Char) : List Char := (s.reverse.dropWhile isLineBlank).reverse

def Line.octets (l : Line) : List UInt8 :=
  let r := decodeLine (cutBlanks l.text)
  if l.ended && !r.2 then r.1 ++ [13, 10] else r.1

def decode (s : List Char) : List UInt8 := (lines (s.filter isKept)).flatMap Line.octets

end QuotedPrintable
end Postbag
