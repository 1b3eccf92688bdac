import Postbag.Date.Calendar
import Postbag.Date.Timestamp
import Postbag.Text.Blank
/-!
# Header — the date of a message header

`Mon, 01 Jan 2024 12:00:00 +0000`, read as leniently as old mail asks for: the weekday and the seconds may be missing,
years may have two or three digits, zones may be letters, and comments in parentheses may follow.  A reader takes what
it needs from the front and leaves the rest; `none` says that the text is no date.
-/
namespace Postbag
namespace HeaderDate

open Text (isBlank trimStart digit?)

abbrev Reader (α : Type) := List Char → Option (α × List Char)

def weekdays : List (List Char) := ["mon", "tue", "wed", "thu", "fri", "sat", "sun"].map String.toList

def months : List (List Char) :=
  ["jan", "feb", "mar", "apr", "may", "jun", "jul", "aug", "sep", "oct", "nov", "dec"].map String.toList

def nameIn (names : List (List Char)) : Reader Nat
  | a :: b :: c :: s => (names.findIdx? (· == [a, b, c].map Char.toLower)).map fun i => (i, s)
  | _ => none

def blanks : Reader Unit
  | c :: s => if isBlank c then some ((), trimStart s) else none
  | [] => none

def digitRun : (most : Nat) → List Char → List Nat × List Char
  | most + 1, c :: s =>
    match digit? c with
    | some d =>
      let r := digitRun most s
      (d :: r.1, r.2)
    | none => ([], c :: s)
  | _, s => ([], s)

def valueOf (ds : List Nat) : Nat := ds.foldl (fun v d => v * 10 + d) 0

def number (least most : Nat) : Reader Nat := fun s =>
  let r := digitRun most s
  if least ≤ r.1.length then some (valueOf r.1, r.2) else none

/-- The greatest year that a date may have, also when it is taken to universal time. -/
def maxYear : Nat := 262142

/-- A year of two or three digits is one of the last centuries. -/
def fullYear (digits value : Nat) : Nat :=
  if digits = 2 then (if value < 50 then value + 2000 else value + 1900)
  else if digits = 3 then value + 1900
  else value

def year : Reader Nat := fun s =>
  let r := digitRun s.length s
  if 2 ≤ r.1.length then some (fullYear r.1.length (valueOf r.1), r.2) else none

def colon : Reader Unit
  | ':' :: s => some ((), s)
  | _ => none

/-- The seconds, where a colon follows the minutes; 0 where none does. -/
def seconds (s : List Char) : Option (Nat × List Char) :=
  match colon (trimStart s) with
  | some (_, s) => number 2 2 s
  | none => some (0, s)

def isLetter (c : Char) : Bool := ('A' ≤ c && c ≤ 'Z') || ('a' ≤ c && c ≤ 'z')

/-- The hours that a zone of letters is ahead of universal time.  The military zones were used with either sign and tell
nothing. -/
def namedZone (name : List Char) : Option Int :=
  match String.ofList (name.map Char.toLower) with
  | "gmt" | "ut" | "z" => some 0
  | "edt" => some (-4)
  | "est" | "cdt" => some (-5)
  | "cst" | "mdt" => some (-6)
  | "mst" | "pdt" => some (-7)
  | "pst" => some (-8)
  | "j" => none
  | _ => if name.length = 1 then some 0 else none

def zoneDigits : Reader Nat
  | a :: b :: c :: d :: s => do
    let a ← digit? a
    let b ← digit? b
    let c ← digit? c
    let d ← digit? d
    if c ≤ 5 then some ((a * 10 + b) * 60 + c * 10 + d, s) else none
  | _ => none

/-- The zone, in minutes ahead of universal time. -/
def zone : Reader Int := fun s =>
  match s with
  | '+' :: s => (zoneDigits s).map fun r => ((r.1 : Int), r.2)
  | '-' :: s => (zoneDigits s).map fun r => (-(r.1 : Int), r.2)
  | _ =>
    match s.takeWhile isLetter with
    | [] => none
    | name => (namedZone name).map fun h => (h * 60, s.dropWhile isLetter)

def afterComment? : (depth : Nat) → List Char → Option (List Char)
  | 0, s => some s
  | _ + 1, [] => none
  | depth + 1, ')' :: s => afterComment? depth s
  | depth + 1, '(' :: s => afterComment? (depth + 2) s
  | depth + 1, '\\' :: _ :: s => afterComment? (depth + 1) s
  | depth + 1, _ :: s => afterComment? (depth + 1) s

/-- Whether nothing but comments is left; `rounds` bounds their number. -/
def isCommentary : (rounds : Nat) → List Char → Bool
  | _, [] => true
  | 0, _ :: _ => false
  | rounds + 1, s =>
    match trimStart s with
    | '(' :: s =>
      match afterComment? 1 s with
      | some rest => isCommentary rounds rest
      | none => false
    | _ => false

/-- The weekday and its comma, where there is one: a weekday without a comma spoils the date. -/
def weekday? (s : List Char) : Option (Option Nat × List Char) :=
  match nameIn weekdays s with
  | some (w, ',' :: s) => some (some w, s)
  | some _ => none
  | none => some (none, s)

/-- Whether a moment still lies in the greatest year when its offset is taken off. -/
def isRepresentable (t : Timestamp) : Bool :=
  t.year < maxYear ||
    (t.year == maxYear &&
      (t.month < 12 || t.day < 31 || ((t.hour * 60 + t.minute : Nat) : Int) - t.offset < 1440))

def isMoment (weekday : Option Nat) (t : Timestamp) : Bool :=
  Calendar.dayExists t.year t.month t.day && t.hour ≤ 23 && t.minute ≤ 59 && t.second ≤ 60 &&
    t.offset.natAbs < 1440 && isRepresentable t &&
    weekday.all (· == Calendar.weekday t.year t.month t.day)

def fields (s : List Char) : Option ((Option Nat × Timestamp) × List Char) := do
  let (weekday, s) ← weekday? (trimStart s)
  let (day, s) ← number 1 2 (trimStart s)
  let ((), s) ← blanks s
  let (month, s) ← nameIn months s
  let ((), s) ← blanks s
  let (year, s) ← year s
  let ((), s) ← blanks s
  let (hour, s) ← number 2 2 s
  let ((), s) ← colon (trimStart s)
  let (minute, s) ← number 2 2 (trimStart s)
  let (second, s) ← seconds s
  let ((), s) ← blanks s
  let (offset, s) ← zone s
  some ((weekday, ⟨year, month + 1, day, hour, minute, second, offset⟩), s)

/-- **The date of a header**, if the text is one. -/
def read (s : List Char) : Option Timestamp := do
  let ((weekday, t), rest) ← fields (Text.trim s)
  if isMoment weekday t && isCommentary rest.length rest then some t else none

end HeaderDate
end Postbag
