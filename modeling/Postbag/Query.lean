/-!
# Query — what a FETCH asks for
-/
namespace Postbag

structure Query where
  uid : Bool
  envelope : Bool
  body : Bool
  deriving Repr, DecidableEq

namespace Query

/-- What is asked for to read messages; looking at a body this way does not mark it as seen. -/
def messages : Query := ⟨true, true, true⟩

def allMessages : String := "1:*"

def items (q : Query) : List String :=
  (if q.uid then ["UID"] else []) ++ (if q.envelope then ["ENVELOPE"] else []) ++
    (if q.body then ["BODY.PEEK[]"] else [])

def text (q : Query) : String := "(" ++ " ".intercalate q.items ++ ")"

end Query
end Postbag
