import Postbag.Bytes.Base64
import Postbag.Bytes.QuotedPrintable
import Postbag.Charset.Decode
/-!
# EncodedWord — header text of any script, written in ASCII

A word `=?charset?encoding?text?=` stands for the characters that its text decodes to.  A header is read from the left:
wherever a word begins, it is a word, and everything else is itself.  White space between two words only separates
them.  If one word cannot be read, the whole header is left as it was written.
-/
namespace Postbag

structure EncodedWord where
  charset : List Char
  encoding : List Char
  text : List Char
  deriving Repr, DecidableEq

namespace EncodedWord

def isNameChar (c : Char) : Bool :=
  32 < c.toNat && c.toNat != 127 && !"()<>@,;:/[]?.=".toList.contains c

def isTextChar (c : Char) : Bool := c != '?' && c != ' '

def render (w : EncodedWord) : List Char :=
  ['=', '?'] ++ w.charset ++ ['?'] ++ w.encoding ++ ['?'] ++ w.text ++ ['?', '=']

/-- The most octets that a word may have in all. -/
def maxOctets : Nat := 75

def octets (w : EncodedWord) : Nat := w.render.foldl (fun n c => n + c.utf8Size) 0

def ofStart? : List Char → Option EncodedWord
  | '=' :: '?' :: s =>
    let charset := s.takeWhile isNameChar
    match s.dropWhile isNameChar with
    | '?' :: s =>
      let encoding := s.takeWhile isNameChar
      match s.dropWhile isNameChar with
      | '?' :: s =>
        match s.dropWhile isTextChar with
        | '?' :: '=' :: _ =>
          if charset.isEmpty || encoding.isEmpty then none
          else some ⟨charset, encoding, s.takeWhile isTextChar⟩
        | _ => none
      | _ => none
    | _ => none
  | _ => none

def payload? (w : EncodedWord) : Option (List UInt8) :=
  match w.encoding with
  | ['b'] | ['B'] => Base64.decode w.text
  | ['q'] | ['Q'] => some (QuotedPrintable.decode (w.text.map fun c => if c = '_' then ' ' else c))
  | _ => none

def decode? (w : EncodedWord) : Option (List Char) :=
  if w.octets ≤ maxOctets then w.payload?.map (Charset.decodeNamed w.charset) else none

end EncodedWord

namespace HeaderText

inductive Part
  | clear (c : Char)
  | word (w : EncodedWord)
  deriving Repr, DecidableEq

/-- The parts of a header; `skip` counts the characters of a word that are still to be passed over. -/
def partsFrom : (skip : Nat) → List Char → List Part
  | _, [] => []
  | skip + 1, _ :: s => partsFrom skip s
  | 0, c :: s =>
    match EncodedWord.ofStart? (c :: s) with
    | some w => .word w :: partsFrom (w.render.length - 1) s
    | none => .clear c :: partsFrom 0 s

def parts (s : List Char) : List Part := partsFrom 0 s

def isGap (c : Char) : Bool := c = ' ' || c = '\t' || c = '\n' || c = '\x0C' || c = '\r'

/-- Parts without the white space between words.  `held` is the white space since the last word, kept until it is known
what follows it; there is none where no word came before. -/
def closeGaps : (held : Option (List Char)) → List Part → List Part
  | none, [] => []
  | some held, [] => held.map .clear
  | none, .clear c :: ps => .clear c :: closeGaps none ps
  | some held, .clear c :: ps =>
    if isGap c then closeGaps (some (held ++ [c])) ps
    else held.map .clear ++ .clear c :: closeGaps none ps
  | _, .word w :: ps => .word w :: closeGaps (some []) ps

def Part.decode? : Part → Option (List Char)
  | .clear c => some [c]
  | .word w => w.decode?

def decodeParts? : List Part → Option (List Char)
  | [] => some []
  | p :: ps => do
    let s ← p.decode?
    let rest ← decodeParts? ps
    some (s ++ rest)

def decode? (s : List Char) : Option (List Char) := decodeParts? (closeGaps none (parts s))

/-- **A header as it is to be read**: decoded, or as it was written if a word in it cannot be read. -/
def decode (raw : String) : String :=
  match decode? raw.toList with
  | some s => String.ofList s
  | none => raw

end HeaderText
end Postbag
