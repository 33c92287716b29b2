import SessionAuth.Http.Service
import SessionAuth.Proofs.Program.Run

/-!
# How requests are answered

A request goes to the endpoint that its path and method name, if there is one (`Request.Matches`),
and the answer is what becomes of running that endpoint (`run_respond`).  All other requests are
answered without a look at the process (`run_respond_of_no_match`).  Whether headers for pages from
other origins are added makes no difference to the status and the body.
-/

set_option autoImplicit false

namespace SessionAuth
namespace Http

open Environment Fallible

/-- Whether a request goes to a route, with the given parameters, and there to an endpoint. -/
structure Request.Matches (r : Request) (route : Route Endpoint) (params : RawParams)
    (e : Endpoint) : Prop where
  path : findRoute Endpoint.routes r.path = some (route, params)
  method : route.endpoint? r.method = some e

theorem mem_of_findRoute {E : Type} {routes : List (Route E)} {path : String} {route : Route E}
    {params : RawParams} (h : findRoute routes path = some (route, params)) : route ∈ routes := by
  obtain ⟨segments, -, hfound⟩ := Option.bind_eq_some_iff.1 h
  obtain ⟨route', hmem, hmatch⟩ := List.exists_of_findSome?_eq_some hfound
  obtain ⟨params', -, heq⟩ := Option.map_eq_some_iff.1 hmatch
  cases heq
  exact hmem

theorem Route.mem_of_endpoint? {E : Type} {route : Route E} {method : String} {e : E}
    (h : route.endpoint? method = some e) :
    ((if method = "HEAD" then "GET" else method), e) ∈ route.endpoints := by
  obtain ⟨before, after, heq, -⟩ := List.lookup_eq_some_iff.1 h
  simp [heq]

namespace Service

/-- The response that an endpoint leads to. -/
def conclude : Except Error Response → Response
  | .ok response => response
  | .error e => .ofError e

/-- What is shown of a response to a request. -/
def shown (r : Request) (response : Response) : Response :=
  if r.method = "HEAD" then { response with body := .empty } else response

theorem shown_of_ne {r : Request} (h : r.method ≠ "HEAD") (response : Response) :
    shown r response = response := if_neg h

@[simp] theorem status_shown (r : Request) (response : Response) :
    (shown r response).status = response.status := by
  rw [shown]
  split <;> rfl

@[simp] theorem status_addHeaders (response : Response) (headers : Headers) :
    (addHeaders response headers).status = response.status := rfl

variable {σ : Type} (answer : Program.Server Environment.interface σ) (t : σ) (s : Setup)
  (server : ServerSettings) {r : Request} {route : Route Endpoint} {params : RawParams}
  {e : Endpoint}

theorem run_endpointResponse : (endpointResponse s r params e).run answer t =
    (conclude (runOn answer (e.respond s r params) t).1,
      (runOn answer (e.respond s r params) t).2) := by
  rw [endpointResponse, Program.run_bind, ← runOn]
  rcases runOn answer (e.respond s r params) t with ⟨_ | _, _⟩ <;> rfl

/-- **A request is answered by its endpoint.** -/
theorem run_respond (h : r.Matches route params e) : (respond s server r).run answer t =
    (addHeaders (shown r (conclude (runOn answer (e.respond s r params) t).1))
      (Cors.headers server.allowedOrigins r), (runOn answer (e.respond s r params) t).2) := by
  simp only [respond, h.path, h.method]
  rw [Program.run_bind, run_endpointResponse]
  rfl

/-- A request that is for no endpoint is answered alike in all states and changes nothing. -/
theorem run_respond_of_no_match (h : ∀ route params e, ¬ r.Matches route params e) :
    ∃ response : Response, response.status < 500 ∧
      ∀ t : σ, (respond s server r).run answer t = (response, t) := by
  cases hpath : findRoute Endpoint.routes r.path with
  | none =>
    refine ⟨if Cors.isPreflight r then Cors.preflight server.allowedOrigins r
      else addHeaders notFound (Cors.headers server.allowedOrigins r), ?_, fun t => ?_⟩
    · split
      · simp [Cors.preflight]
      · simp [notFound]
    · simp only [respond, hpath]
      rfl
  | some found =>
    obtain ⟨route, params⟩ := found
    cases hmethod : route.endpoint? r.method with
    | some e => exact absurd ⟨hpath, hmethod⟩ (h route params e)
    | none =>
      refine ⟨addHeaders (if Cors.isPreflight r then Cors.preflight server.allowedOrigins r
        else addHeaders methodNotAllowed (Cors.headers server.allowedOrigins r))
          [("allow", route.allowed)], ?_, fun t => ?_⟩
      · rw [status_addHeaders]
        split
        · simp [Cors.preflight]
        · simp [methodNotAllowed]
      · simp only [respond, hpath, hmethod]
        rfl

end Service
end Http
end SessionAuth
