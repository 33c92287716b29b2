import SessionAuth.Http.Message
import SessionAuth.Settings.Basic

/-!
# Requests of pages from other origins

A browser lets a page read an answer from another origin only if the answer names the origin of the
page.  Before some requests it asks with the method `OPTIONS` what is allowed; such a request is
answered at once, whatever its path.
-/

set_option autoImplicit false

namespace SessionAuth
namespace Http
namespace Cors

/-- The headers on which answers depend. -/
def varyHeader : String × String :=
  ("vary", "origin, access-control-request-method, access-control-request-headers")

/-- The header that names the origin whose pages may read an answer.  An allowed origin that is not
plain text could not be written in a header, so it matches no page. -/
def originHeader (allowed : List String) (r : Request) : Headers :=
  let allow (origin : String) : Headers := [("access-control-allow-origin", origin)]
  if allowed.contains "*" then allow "*"
  else match r.headers.first? "origin" with
    | some origin => if isPlain origin && allowed.contains origin then allow origin else []
    | none => []

/-- The headers of every answer. -/
def headers (allowed : List String) (r : Request) : Headers :=
  varyHeader :: originHeader allowed r

/-- Whether a request asks what is allowed. -/
def isPreflight (r : Request) : Bool := r.method == "OPTIONS"

/-- The answer to a request that asks what is allowed. -/
def preflight (allowed : List String) (r : Request) : Response where
  status := 200
  headers := headers allowed r ++
    [("access-control-allow-methods", "GET,POST,PUT,DELETE"),
      ("access-control-allow-headers", "authorization,content-type"),
      ("access-control-max-age", "3600")]
  body := .empty

end Cors
end Http
end SessionAuth
