/-!
# Utf8 — octets as text, with a mark for each broken part

A machine reads one octet at a time.  Between two octets it holds either nothing or a sequence that has begun: the bits
collected so far, how many octets are missing, and the range in which the next one must lie.  That range is what rules
out overlong forms, surrogates and values past the last code point at the earliest octet.  An octet that cannot
continue a sequence ends it with one replacement character and is then read as the first octet of what follows, so
each maximal broken part gives exactly one mark.
-/
namespace Postbag
namespace Utf8

def replacement : Char := '\uFFFD'

/-- A sequence that has begun: its bits so far, the octets still missing after the next one, the octets it has, and the
least and greatest next octet. -/
structure Pending where
  value : Nat
  missing : Nat
  width : Nat
  least : Nat
  greatest : Nat
  deriving Repr, DecidableEq

inductive Reading
  | scalar (c : Char)
  | pending (p : Pending)
  | broken
  deriving Repr, DecidableEq

def begin (b : UInt8) : Reading :=
  let n := b.toNat
  if n < 0x80 then .scalar (Char.ofNat n)
  else if n < 0xC2 then .broken
  else if n < 0xE0 then .pending ⟨n - 0xC0, 0, 1, 0x80, 0xBF⟩
  else if n < 0xF0 then
    .pending ⟨n - 0xE0, 1, 1, if n = 0xE0 then 0xA0 else 0x80, if n = 0xED then 0x9F else 0xBF⟩
  else if n < 0xF5 then
    .pending ⟨n - 0xF0, 2, 1, if n = 0xF0 then 0x90 else 0x80, if n = 0xF4 then 0x8F else 0xBF⟩
  else .broken

def Pending.push (p : Pending) (b : UInt8) : Reading :=
  let n := b.toNat
  if p.least ≤ n ∧ n ≤ p.greatest then
    let value := p.value * 64 + (n - 0x80)
    match p.missing with
    | 0 => .scalar (Char.ofNat value)
    | missing + 1 => .pending ⟨value, missing, p.width + 1, 0x80, 0xBF⟩
  else .broken

def decodeFrom : Option Pending → List UInt8 → List Char
  | none, [] => []
  | some _, [] => [replacement]
  | none, b :: bs =>
    match begin b with
    | .scalar c => c :: decodeFrom none bs
    | .pending p => decodeFrom (some p) bs
    | .broken => replacement :: decodeFrom none bs
  | some p, b :: bs =>
    match p.push b with
    | .scalar c => c :: decodeFrom none bs
    | .pending p => decodeFrom (some p) bs
    | .broken =>
      replacement ::
        match begin b with
        | .scalar c => c :: decodeFrom none bs
        | .pending p => decodeFrom (some p) bs
        | .broken => replacement :: decodeFrom none bs

/-- **Octets as text**, one replacement character for each maximal broken part. -/
def decode (bs : List UInt8) : List Char := decodeFrom none bs

def encode (s : List Char) : List UInt8 := s.flatMap String.utf8EncodeChar

def decodeString (bs : List UInt8) : String := String.ofList (decode bs)

/-- Where octets stop being UTF-8: the length of the valid part before, and the length of the broken sequence, which
is absent when the octets end inside it. -/
structure Fault where
  validUpTo : Nat
  length : Option Nat
  deriving Repr, DecidableEq

/-- The first fault after `valid` valid octets, from the state `p`. -/
def faultFrom : (valid : Nat) → Option Pending → List UInt8 → Option Fault
  | _, none, [] => none
  | valid, some _, [] => some ⟨valid, none⟩
  | valid, none, b :: bs =>
    match begin b with
    | .scalar _ => faultFrom (valid + 1) none bs
    | .pending p => faultFrom valid (some p) bs
    | .broken => some ⟨valid, some 1⟩
  | valid, some p, b :: bs =>
    match p.push b with
    | .scalar _ => faultFrom (valid + p.width + 1) none bs
    | .pending p => faultFrom valid (some p) bs
    | .broken => some ⟨valid, some p.width⟩

def fault? (bs : List UInt8) : Option Fault := faultFrom 0 none bs

end Utf8
end Postbag
