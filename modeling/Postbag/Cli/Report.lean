import Postbag.Failure.Tree
/-!
# Report — a failure as it is told at the end of a run

The text of the failure comes first, then those of the failures behind it, one to a line.  Several are numbered from
0; the lines of a text that has more than one are aligned below its first.
-/
namespace Postbag
namespace Cli

/-- A text whose first line stands behind `first` and whose other lines stand behind `others`. -/
def hung (first others : List Char) (s : List Char) : List Char :=
  first ++ s.flatMap fun c => if c = '\n' then '\n' :: others else [c]

def numberColumn (n : Nat) : List Char := List.replicate (5 - (Text.digits n).length) ' ' ++ Text.digits n

/-- The causes behind a failure, the first of which has the number `n`. -/
def causesFrom : (n : Nat) → List Failure → List Char
  | _, [] => []
  | n, e :: es =>
    '\n' :: hung (numberColumn n ++ [':', ' ']) (List.replicate 7 ' ') e.text.toList ++ causesFrom (n + 1) es

def causes : List Failure → List Char
  | [] => []
  | [e] => '\n' :: hung (List.replicate 4 ' ') (List.replicate 4 ' ') e.text.toList
  | es => causesFrom 0 es

def report (e : Failure) : String :=
  "Error: " ++ e.text ++
    (match e.chain.tail with
    | [] => ""
    | es => "\n\nCaused by:" ++ String.ofList (causes es)) ++ "\n"

end Cli
end Postbag
