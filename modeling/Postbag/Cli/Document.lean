import Postbag.Text.Decimal
/-!
# Document — values written as indented JSON

Objects keep the order of their fields.  An empty list is `[]`; anything else in a list or an object has a line of its
own, two spaces further in.  Only quotes, backslashes and control characters are escaped.
-/
namespace Postbag
namespace Cli

inductive Document
  | null
  | number (n : Nat)
  | text (t : String)
  | list (values : List Document)
  | object (fields : List (String × Document))

namespace Document

def hexDigit (n : Nat) : Char := if n < 10 then Char.ofNat (n + 48) else Char.ofNat (n + 87)

def escapeChar (c : Char) : List Char :=
  if c = '"' then ['\\', '"']
  else if c = '\\' then ['\\', '\\']
  else if c = '\n' then ['\\', 'n']
  else if c = '\r' then ['\\', 'r']
  else if c = '\t' then ['\\', 't']
  else if c.toNat = 8 then ['\\', 'b']
  else if c.toNat = 12 then ['\\', 'f']
  else if c.toNat < 32 then ['\\', 'u', '0', '0', hexDigit (c.toNat / 16), hexDigit (c.toNat % 16)]
  else [c]

def quoted (t : String) : List Char := '"' :: t.toList.flatMap escapeChar ++ ['"']

def newLine (depth : Nat) : List Char := '\n' :: List.replicate (2 * depth) ' '

/-- Parts between two brackets, each on a line of its own. -/
def block (first last : Char) (depth : Nat) : List (List Char) → List Char
  | [] => [first, last]
  | p :: ps =>
    first :: newLine (depth + 1) ++ p ++ ps.flatMap (fun q => ',' :: newLine (depth + 1) ++ q) ++ newLine depth ++ [last]

mutual

def write (depth : Nat) : Document → List Char
  | null => "null".toList
  | number n => Text.digits n
  | text t => quoted t
  | list values => block '[' ']' depth (writeValues (depth + 1) values)
  | object fields => block '\x7b' '\x7d' depth (writeFields (depth + 1) fields)

def writeValues (depth : Nat) : List Document → List (List Char)
  | [] => []
  | v :: vs => write depth v :: writeValues depth vs

def writeFields (depth : Nat) : List (String × Document) → List (List Char)
  | [] => []
  | (name, v) :: fs => (quoted name ++ ':' :: ' ' :: write depth v) :: writeFields depth fs

end

def render (d : Document) : String := String.ofList (write 0 d)

end Document
end Cli
end Postbag
