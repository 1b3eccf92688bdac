import Postbag.Config.Environment
import Postbag.Config.Settings
import Postbag.Text.Alphanumeric
import Postbag.Text.Blank
/-!
# Dotenv — variables from a file, for those that the environment does not set

The file is read line by line, and each assignment holds for the lines after it.  A variable that the environment sets
keeps its value, and of two assignments to one variable the first counts.  The first line that is none of the forms
below ends the reading; what was assigned before it stays.

Reading has two levels.  First the physical lines are joined into logical ones, because a quoted value may go on over
a line end.  Then each logical line is read as nothing, a comment, or `KEY = VALUE`.
-/
namespace Postbag
namespace Dotenv

open Text (isBlank trimStart trimEnd)

/-! ## Logical lines -/

/-- Where a line stands after a character, as far as quotes and comments go. -/
inductive Position
  | plain
  | escaped
  | strong
  | strongEscaped
  | weak
  | weakEscaped
  /-- Right after white space, where a comment may begin. -/
  | blank
  deriving Repr, DecidableEq

/-- The position after a character; `none` where a comment begins. -/
def Position.step : Position → Char → Option Position
  | .blank, c =>
    if c = '#' then none
    else some (if c = '\\' then .escaped else if c = '"' then .weak else if c = '\'' then .strong else .plain)
  | .escaped, _ => some .plain
  | .plain, c =>
    some (if isBlank c && c != '\n' && c != '\r' then .blank
      else if c = '\\' then .escaped
      else if c = '"' then .weak
      else if c = '\'' then .strong
      else .plain)
  | .weak, c => some (if c = '\\' then .weakEscaped else if c = '"' then .plain else .weak)
  | .weakEscaped, _ => some .weak
  | .strong, c => some (if c = '\\' then .strongEscaped else if c = '\'' then .plain else .strong)
  | .strongEscaped, _ => some .strong

/-- What a physical line is without its comment, and the position at its end; there is none behind a comment. -/
def scan : Position → List Char → List Char × Option Position
  | p, [] => ([], some p)
  | p, c :: s =>
    match p.step c with
    | none => ([], none)
    | some p =>
      let r := scan p s
      (c :: r.1, r.2)

def physicalLines : List Char → List (List Char)
  | [] => []
  | c :: s =>
    if c = '\n' then [c] :: physicalLines s
    else
      match physicalLines s with
      | [] => [[c]]
      | l :: ls => (c :: l) :: ls

def chomp (s : List Char) : List Char :=
  match s.reverse with
  | '\n' :: '\r' :: r => r.reverse
  | '\n' :: r => r.reverse
  | _ => s

inductive LogicalLine
  | text (s : List Char)
  | unfinished
  deriving Repr, DecidableEq

/-- The logical lines of physical ones, after those in `held`, which end at the position `p`. -/
def logicalLines : (held : List Char) → (p : Position) → List (List Char) → List LogicalLine
  | _, p, [] => if p = .plain then [] else [.unfinished]
  | held, p, l :: ls =>
    if (trimStart (held ++ l)).head? = some '#' then .text [] :: logicalLines [] .plain ls
    else
      match scan p l with
      | (s, none) => .text (held ++ s) :: logicalLines [] .plain ls
      | (_, some .plain) => .text (chomp (held ++ l)) :: logicalLines [] .plain ls
      | (_, some p) => logicalLines (held ++ l) p ls

/-! ## Values -/

/-- How the next character of a value is to be read. -/
inductive Mode
  | plain
  | escaped
  | strong
  | name (s : List Char)
  | braced (s : List Char)
  | ended
  deriving Repr, DecidableEq

def unescape? (c : Char) : Option Char :=
  if c = 'n' then some '\n' else if "\\'\"$ ".toList.contains c then some c else none

/-- **The value of a text**, inside weak quotes or not.  `lookup` gives the values of variables. -/
def readValue (lookup : List Char → List Char) : Mode → (weak : Bool) → List Char → Option (List Char)
  | .strong, _, [] | .braced _, _, [] => none
  | .name s, false, [] => some (lookup s)
  | _, weak, [] => if weak then none else some []
  | .ended, weak, c :: s =>
    if c = ' ' || c = '\t' then readValue lookup .ended weak s else if c = '#' then some [] else none
  | .escaped, weak, c :: s =>
    match unescape? c with
    | some d => (readValue lookup .plain weak s).map (d :: ·)
    | none => none
  | .strong, weak, c :: s =>
    if c = '\'' then readValue lookup .plain weak s else (readValue lookup .strong weak s).map (c :: ·)
  | .name n, weak, c :: s =>
    if Text.isAlphanumeric c then readValue lookup (.name (n ++ [c])) weak s
    else if c = '{' && n.isEmpty then readValue lookup (.braced []) weak s
    else if c = '$' then (readValue lookup (.name []) weak s).map (lookup n ++ ·)
    else (readValue lookup .plain weak s).map (lookup n ++ c :: ·)
  | .braced n, weak, c :: s =>
    if c = '}' then (readValue lookup .plain weak s).map (lookup n ++ ·)
    else readValue lookup (.braced (n ++ [c])) weak s
  | .plain, weak, c :: s =>
    if c = '$' then readValue lookup (.name []) weak s
    else if c = '\\' then readValue lookup .escaped weak s
    else if c = '"' then readValue lookup .plain (!weak) s
    else if weak then (readValue lookup .plain weak s).map (c :: ·)
    else if c = '\'' then readValue lookup .strong weak s
    else if c = ' ' || c = '\t' then readValue lookup .ended weak s
    else (readValue lookup .plain weak s).map (c :: ·)

/-! ## Assignments -/

inductive Statement
  | nothing
  | assignment (key value : String)
  | malformed
  deriving Repr, DecidableEq

def isKeyStart (c : Char) : Bool := c.isAlpha || c = '_'

def isKeyChar (c : Char) : Bool := c.isAlphanum || c = '_' || c = '.'

def key? (s : List Char) : Option (List Char × List Char) :=
  match s with
  | c :: _ => if isKeyStart c then some (s.takeWhile isKeyChar, trimStart (s.dropWhile isKeyChar)) else none
  | [] => none

def equals? : List Char → Option (List Char)
  | '=' :: s => some s
  | _ => none

/-- The key of an assignment and what follows the `=`.  The word `export` may stand before the key; before an `=` it is
a key itself. -/
def assigned? (s : List Char) : Option (List Char × List Char) := do
  let (key, s) ← key? s
  match equals? s with
  | some s => some (key, s)
  | none =>
    if key = "export".toList then
      let (key, s) ← key? s
      let s ← equals? s
      some (key, s)
    else none

/-- Whether there is nothing in a text but perhaps a comment. -/
def isVoid : List Char → Bool
  | [] => true
  | c :: _ => c = '#'

def statement (lookup : List Char → List Char) (line : List Char) : Statement :=
  let s := trimStart (trimEnd line)
  if isVoid s then .nothing
  else
    match assigned? s with
    | none => .malformed
    | some (key, s) =>
      let s := trimStart s
      if isVoid s then .assignment (String.ofList key) ""
      else
        match readValue lookup .plain false s with
        | some value => .assignment (String.ofList key) (String.ofList value)
        | none => .malformed

/-- The value of a name, perhaps none, once the assignments made so far hold where the environment says nothing. -/
def current (environment : Environment) (made : List (String × String)) (name : String) : Option String :=
  (environment.setAllNew made).value? name

def assign (environment : Environment) : (made : List (String × String)) → List LogicalLine → List (String × String)
  | made, [] => made
  | made, .unfinished :: _ => made
  | made, .text s :: ls =>
    match statement (fun n => ((current environment made (String.ofList n)).getD "").toList) s with
    | .nothing => assign environment made ls
    | .assignment key value => assign environment (made ++ [(key, value)]) ls
    | .malformed => made

def withoutMark : List Char → List Char
  | '\uFEFF' :: s => s
  | s => s

/-- **The assignments of a file**, in its order. -/
def assignments (environment : Environment) (file : String) : List (String × String) :=
  assign environment [] (logicalLines [] .plain (physicalLines (withoutMark file.toList)))

/-- The variables of the environment, and those that only the file gives. -/
def lookup (environment : Environment) (file : String) : String → Option String :=
  current environment (assignments environment file)

end Dotenv

def Settings.ofEnvironment (environment : Environment) (file : String) : Except Settings.Fault Settings :=
  Settings.ofLookup (Dotenv.lookup environment file)

end Postbag
