import Postbag.Text.Search
/-!
# Environment — variables, each kept as the text `NAME=value`

A name is looked up in those texts: its value is what follows `NAME=` in the first text that starts so.  For a name
without an equals sign this is the value of the variable of that name.  A name with one in it can find part of a value,
as `A=B` finds `c` where `A` is `B=c`.
-/
namespace Postbag

abbrev Environment := List (String × String)

namespace Environment

def entry (v : String × String) : List Char := v.1.toList ++ '=' :: v.2.toList

def value? (e : Environment) (name : String) : Option String :=
  e.findSome? fun v => (Text.after? (name.toList ++ ['=']) (entry v)).map String.ofList

/-- A variable is only set where its name has no value yet. -/
def setNew (e : Environment) (v : String × String) : Environment := if (e.value? v.1).isSome then e else e ++ [v]

def setAllNew (e : Environment) (vs : List (String × String)) : Environment := vs.foldl setNew e

end Environment
end Postbag
