import SessionAuth.Http.Query

/-!
# Routes

A route is a path, some of whose segments may be parameters, with the methods that are answered
there in their order.  Paths are matched as they are sent; only the values of parameters are
unescaped.
-/

set_option autoImplicit false

namespace SessionAuth
namespace Http

open Text

/-- A segment of the path of a route. -/
inductive Segment where
  | literal (text : String)
  | param (name : String)
  deriving DecidableEq, Repr

/-- The values of parameters as they are sent, by their names. -/
abbrev RawParams := List (String × List Char)

/-- A path with the methods that are answered there. -/
structure Route (E : Type) where
  path : List Segment
  endpoints : List (String × E)

/-- The segments of a path after its leading slash. -/
def pathSegments (path : String) : Option (List (List Char)) :=
  match path.toList with
  | '/' :: cs => some (split '/' cs)
  | _ => none

/-- The parameters of a path that matches a route. -/
def matchSegments : List Segment → List (List Char) → Option RawParams
  | [], [] => some []
  | .literal text :: ps, cs :: rest =>
    if text.toList = cs then matchSegments ps rest else none
  | .param name :: ps, cs :: rest =>
    if cs.isEmpty then none else (matchSegments ps rest).map ((name, cs) :: ·)
  | _, _ => none

/-- The route of a path, with the parameters. -/
def findRoute {E : Type} (routes : List (Route E)) (path : String) :
    Option (Route E × RawParams) :=
  (pathSegments path).bind fun segments =>
    routes.findSome? fun r => (matchSegments r.path segments).map fun params => (r, params)

namespace Route

variable {E : Type}

/-- What is answered to a method; the answer to `HEAD` is that to `GET` without its body. -/
def endpoint? (r : Route E) (method : String) : Option E :=
  r.endpoints.lookup (if method = "HEAD" then "GET" else method)

/-- The methods that are answered, as a header lists them. -/
def allowed (r : Route E) : String :=
  ",".intercalate ((r.endpoints.map (·.1)).flatMap fun m =>
    if m = "GET" then ["GET", "HEAD"] else [m])

end Route

/-- The value of a parameter, or else its name. -/
def paramValue (p : String × List Char) : Except String String :=
  match Utf8.decode? (unescapeOctets p.2) with
  | some cs => .ok (String.ofList cs)
  | none => .error p.1

end Http
end SessionAuth
