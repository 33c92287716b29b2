import SessionAuth.Http.Message
import SessionAuth.Text.Blank

/-!
# Who sends a request

The address and the device of a client are taken from headers, and shown to the owner of a session.
Both are labels and not trusted.
-/

set_option autoImplicit false

namespace SessionAuth
namespace Http

open Text

/-- The labels of a client. -/
structure ClientInfo where
  ip : String
  device : String
  deriving DecidableEq

/-- The label where nothing is known. -/
def unknownLabel : String := "unknown"

/-- A text without the blanks around it, unless nothing is left. -/
def nonBlank? (s : String) : Option String := some (trim s) |>.filter fun t => !t.isEmpty

/-- The first value of a header, if it is plain text and not blank. -/
def plainHeader? (hs : Headers) (name : String) : Option String :=
  ((hs.first? name).filter isPlain).bind nonBlank?

/-- The first address of a list. -/
def firstHop (s : String) : String :=
  match split ',' s.toList with
  | hop :: _ => String.ofList (trimChars hop)
  | [] => ""

namespace ClientInfo

/-- The labels that the headers of a request give: the first address that the proxies name, and the
program that sends it. -/
def ofHeaders (hs : Headers) : ClientInfo where
  ip :=
    match plainHeader? hs "x-forwarded-for" with
    | some hops => firstHop hops
    | none => (plainHeader? hs "x-real-ip").getD unknownLabel
  device :=
    (((hs.first? "user-agent").filter isPlain).filter fun s => !s.isEmpty).getD unknownLabel

/-- The device that the body of a request names, or else that of the headers. -/
def deviceOr (c : ClientInfo) (named : Option String) : String :=
  (named.bind nonBlank?).getD c.device

end ClientInfo
end Http
end SessionAuth
