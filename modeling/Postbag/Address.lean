/-!
# Address — a correspondent as the server lists one

Any part may be missing: a group of addresses is listed with a mailbox and no host, for instance.  What identifies a
correspondent is the mailbox and the host together.
-/
namespace Postbag

structure Address where
  name : Option String
  mailbox : Option String
  host : Option String
  deriving Repr, DecidableEq

namespace Address

/-- **`mailbox@host`**, or nothing when either part is missing or empty. -/
def spec (a : Address) : String :=
  match a.mailbox, a.host with
  | some mailbox, some host => if mailbox.isEmpty || host.isEmpty then "" else mailbox ++ "@" ++ host
  | _, _ => ""

end Address
end Postbag
