import SessionAuth.Error
import SessionAuth.Json.Basic
import SessionAuth.Text.Slice

/-!
# Requests and responses

Requests carry their path as it was sent, and headers by name in their order.  Responses have a JSON
body almost always.  An error is answered with the status and the code of its kind; where the
service itself failed, the client learns nothing more than that.
-/

set_option autoImplicit false

namespace SessionAuth
namespace Http

open Text

/-- Headers in their order; a name may occur more than once. -/
abbrev Headers := List (String × String)

/-- The values of a header, whose name is given in lower case. -/
def Headers.all (hs : Headers) (name : String) : List String :=
  (hs.filter fun h => equalIgnoringAsciiCase h.1 name).map (·.2)

/-- The first value of a header. -/
def Headers.first? (hs : Headers) (name : String) : Option String := (hs.all name).head?

/-- Whether a header value is plain text: tabs and the visible characters of ASCII. -/
def isPlain (s : String) : Bool :=
  s.toList.all fun c => c = '\t' || (' ' ≤ c && c ≤ '~')

/-- A request. -/
structure Request where
  method : String
  /-- The path, with its escapes. -/
  path : String
  /-- What follows the question mark. -/
  query : Option String
  headers : Headers
  body : List UInt8

/-- The request for a target, in which the query begins after the first question mark. -/
def Request.ofTarget (method target : String) (headers : Headers) (body : List UInt8) : Request :=
  match Text.cutFirst '?' target.toList with
  | some (path, query) => ⟨method, String.ofList path, some (String.ofList query), headers, body⟩
  | none => ⟨method, target, none, headers, body⟩

/-- The body of a response. -/
inductive Body where
  | empty
  | json (v : Json)
  | text (s : String)

/-- A response. -/
structure Response where
  status : Nat
  headers : Headers
  body : Body

end Http

namespace ErrorKind

/-- The status of a response to a failed request. -/
def status : ErrorKind → Nat
  | invalidInput => 400
  | unauthorized | tokenExpired => 401
  | forbidden => 403
  | notFound => 404
  | conflict => 409
  | internal | database | cache | configuration | serialization => 500

/-- The code in a response to a failed request. -/
def publicCode : ErrorKind → String
  | internal | database | cache | configuration | serialization => "INTERNAL_ERROR"
  | k => k.code

end ErrorKind

/-- The message in a response to a failed request. -/
def Error.publicMessage (e : Error) : String :=
  if e.kind.isInternal then "Internal server error" else e.message

namespace Http.Response

/-- A response with a JSON body. -/
def ofJson (status : Nat) (v : Json) : Response :=
  ⟨status, [("content-type", "application/json")], .json v⟩

/-- The response to a request that was done. -/
def ofData (status : Nat) (data : Json) : Response :=
  ofJson status (.obj [("success", .bool true), ("data", data)])

/-- The response to a request that failed. -/
def ofError (e : Error) : Response :=
  ofJson e.kind.status
    (.obj [("error", .str e.kind.publicCode), ("message", .str e.publicMessage)])

end Http.Response
end SessionAuth
