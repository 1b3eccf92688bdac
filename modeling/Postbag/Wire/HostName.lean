/-!
# HostName — which texts name a server

A name is made of labels with dots between them, of at most 63 letters, digits, hyphens and underscores each and 253 in
all.  No label begins or ends with a hyphen, and the last one is not all digits.  An address in numbers, of either
version of the protocol, names a server too.
-/
namespace Postbag
namespace HostName

def split (sep : Char) : List Char → List (List Char)
  | [] => [[]]
  | c :: s =>
    if c = sep then [] :: split sep s
    else
      match split sep s with
      | [] => [[c]]
      | l :: ls => (c :: l) :: ls

def isLabelChar (c : Char) : Bool := c.isAlphanum || c = '-' || c = '_'

def isLabel (l : List Char) : Bool :=
  !l.isEmpty && l.length ≤ 63 && l.all isLabelChar && l.head? != some '-' && l.getLast? != some '-'

/-- Whether a text is a name; a dot at its end adds no label. -/
def isName (s : List Char) : Bool :=
  let labels := split '.' s
  let labels := if labels.getLast? = some [] then labels.dropLast else labels
  !labels.isEmpty && s.length ≤ 253 && labels.all isLabel && (labels.getLast?).all fun l => !l.all Char.isDigit

def isOctet (l : List Char) : Bool :=
  !l.isEmpty && l.length ≤ 3 && l.all Char.isDigit && (l.length = 1 || l.head? != some '0') &&
    l.foldl (fun v c => v * 10 + (c.toNat - 48)) 0 < 256

def isAddress4 (s : List Char) : Bool :=
  let parts := split '.' s
  parts.length = 4 && parts.all isOctet

def isGroup (l : List Char) : Bool :=
  !l.isEmpty && l.length ≤ 4 &&
    l.all fun c => c.isDigit || ('a' ≤ c && c ≤ 'f') || ('A' ≤ c && c ≤ 'F')

/-- The number of groups that parts of an address stand for; the last part may be an address of the fourth version, which
stands for two. -/
def groups? (parts : List (List Char)) : Option Nat :=
  match parts.getLast? with
  | none => some 0
  | some l =>
    if !parts.dropLast.all isGroup then none
    else if isGroup l then some parts.length
    else if isAddress4 l then some (parts.length + 1)
    else none

def parts (s : List Char) : List (List Char) := if s.isEmpty then [] else split ':' s

def cutGap : List Char → Option (List Char × List Char)
  | ':' :: ':' :: s => some ([], s)
  | [] => none
  | c :: s => (cutGap s).map fun p => (c :: p.1, p.2)

/-- An address of the sixth version: eight groups, or fewer around one gap. -/
def isAddress6 (s : List Char) : Bool :=
  match cutGap s with
  | none => groups? (parts s) == some 8
  | some (before, behind) =>
    (parts before).all isGroup &&
      match groups? (parts behind) with
      | some n => (parts before).length + n ≤ 7
      | none => false

def isValid (host : String) : Bool := isName host.toList || isAddress4 host.toList || isAddress6 host.toList

end HostName
end Postbag
