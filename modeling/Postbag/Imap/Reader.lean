/-!
# Reader — octets that are still arriving, read from the front

A reader looks at what has been received so far and gives one of three answers: a value and the octets behind it; that
more octets are needed; or that no octets to come can make this the front of anything it reads.  The second answer and
the third are kept apart everywhere, because a connection waits on the one and gives up on the other.

Where one reader refuses, another may be tried in its place.  Where one needs more, it is waited for.
-/
namespace Postbag
namespace Imap

inductive Scan (α : Type) where
  | done (value : α) (rest : List UInt8)
  | more
  | refused
  deriving Repr, DecidableEq

def Reader (α : Type) : Type := List UInt8 → Scan α

namespace Reader

variable {α β : Type}

def Scan.bind (s : Scan α) (f : α → Reader β) : Scan β :=
  match s with
  | .done a rest => f a rest
  | .more => .more
  | .refused => .refused

instance : Monad Reader where
  pure a := fun s => .done a s
  bind r f := fun s => Scan.bind (r s) f

def refuse : Reader α := fun _ => .refused

def either (a b : Reader α) : Reader α := fun s =>
  match a s with
  | .refused => b s
  | answer => answer

def firstOf : List (Reader α) → Reader α
  | [] => refuse
  | r :: rs => either r (firstOf rs)

def optional (r : Reader α) : Reader (Option α) := either (some <$> r) (pure none)

def octet (p : UInt8 → Bool) : Reader UInt8
  | [] => .more
  | b :: s => if p b then .done b s else .refused

def lower (b : UInt8) : UInt8 := if 0x41 ≤ b && b ≤ 0x5A then b + 0x20 else b

/-- Octets that are given, in any case of their letters. -/
def keyword : List UInt8 → Reader Unit
  | [] => pure ()
  | b :: bs => fun s =>
    match s with
    | [] => .more
    | c :: s => if lower c = lower b then keyword bs s else .refused

def ascii (w : String) : List UInt8 := w.toList.map fun c => UInt8.ofNat c.toNat

def word (w : String) : Reader Unit := keyword (ascii w)

/-- The octets of a class at the front.  Where all that was received is of the class, more may come. -/
def span (p : UInt8 → Bool) : Reader (List UInt8)
  | [] => .more
  | b :: s =>
    if p b then
      match span p s with
      | .done bs rest => .done (b :: bs) rest
      | answer => answer
    else .done [] (b :: s)

def span1 (p : UInt8 → Bool) : Reader (List UInt8) := do
  let b ← octet p
  let bs ← span p
  return b :: bs

def take (n : Nat) : Reader (List UInt8) := fun s => if s.length < n then .more else .done (s.take n) (s.drop n)

def manyUpTo (r : Reader α) : (limit : Nat) → Reader (List α)
  | 0 => pure []
  | limit + 1 => fun s =>
    match r s with
    | .done a rest =>
      match manyUpTo r limit rest with
      | .done as rest => .done (a :: as) rest
      | .more => .more
      | .refused => .refused
    | .more => .more
    | .refused => .done [] s

/-- As many values as there are, each of at least one octet.  The limit is never reached: behind the last octet there is
still the question whether more will come. -/
def many (r : Reader α) : Reader (List α) := fun s => manyUpTo r (s.length + 1) s

def spaced (r : Reader α) : Reader (List α) := do
  let a ← r
  let as ← many (do word " "; r)
  return a :: as

def parenthesized (r : Reader α) : Reader (List α) := do
  word "("
  let as ← optional (spaced r)
  word ")"
  return as.getD []

def isDigit (b : UInt8) : Bool := 0x30 ≤ b && b ≤ 0x39

def valueOf (ds : List UInt8) : Nat := ds.foldl (fun v d => v * 10 + (d.toNat - 48)) 0

def numberBelow (bound : Nat) : Reader Nat := do
  let ds ← span1 isDigit
  if valueOf ds < bound then return valueOf ds else refuse

def number : Reader UInt32 := UInt32.ofNat <$> numberBelow UInt32.size

theorem pure_apply (a : α) (s : List UInt8) : (pure a : Reader α) s = .done a s := rfl

theorem bind_apply (r : Reader α) (f : α → Reader β) (s : List UInt8) : (r >>= f) s = Scan.bind (r s) f := rfl

end Reader
end Imap
end Postbag
