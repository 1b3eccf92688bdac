import Postbag.Cli.Run
/-!
# Main — the command line

The environment is that of the process and the file of variables is `.env` in the current directory, where there is
one.  No connection can be made from here: a program that has one hands it to `Cli.run`.
-/

open Postbag

/-- The variables of the process, each as `NAME=value`, with a zero octet behind it. -/
def variablesOf (text : String) : Environment :=
  ((text.splitOn "\x00").filterMap fun v => Text.cut? ['='] v.toList).map fun p =>
    (String.ofList p.1, String.ofList p.2)

def readFile (name : String) : IO String := do
  try IO.FS.readFile name
  catch _ => return ""

def main (arguments : List String) : IO UInt32 := do
  let environment := variablesOf (← readFile "/proc/self/environ")
  let file ← readFile ".env"
  let outcome := Cli.run arguments environment file fun _ => .failed .unreachable
  IO.print outcome.stdout
  IO.eprint outcome.stderr
  return UInt32.ofNat outcome.exitCode
