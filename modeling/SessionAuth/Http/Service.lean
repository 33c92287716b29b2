import SessionAuth.Http.Cors
import SessionAuth.Http.Endpoint

/-!
# The service over HTTP

`Service.respond` is the answer to a request: that of the endpoint, or that there is none, with the
headers for pages from other origins.
-/

set_option autoImplicit false

namespace SessionAuth
namespace Http
namespace Service

/-- The response to a request, without the headers for pages from other origins. -/
def endpointResponse (s : Setup) (r : Request) (params : RawParams) (e : Endpoint) :
    Program Environment.interface Response := do
  match ← (e.respond s r params).run with
  | .ok response => return response
  | .error e => return .ofError e

/-- The answer to a request where nothing is. -/
def notFound : Response := ⟨404, [], .empty⟩

/-- The answer to a method that is not answered. -/
def methodNotAllowed : Response := ⟨405, [], .empty⟩

/-- A response with more headers. -/
def addHeaders (response : Response) (headers : Headers) : Response :=
  { response with headers := response.headers ++ headers }

/-- The response to a request. -/
def respond (s : Setup) (server : ServerSettings) (r : Request) :
    Program Environment.interface Response := do
  let headers := Cors.headers server.allowedOrigins r
  let preflight := Cors.preflight server.allowedOrigins r
  match findRoute Endpoint.routes r.path with
  | none => return if Cors.isPreflight r then preflight else addHeaders notFound headers
  | some (route, params) =>
    match route.endpoint? r.method with
    | some e =>
      let response ← endpointResponse s r params e
      let shown : Response :=
        if r.method = "HEAD" then { response with body := .empty } else response
      return addHeaders shown headers
    | none =>
      let answer := if Cors.isPreflight r then preflight else addHeaders methodNotAllowed headers
      return addHeaders answer [("allow", route.allowed)]

end Service
end Http
end SessionAuth
