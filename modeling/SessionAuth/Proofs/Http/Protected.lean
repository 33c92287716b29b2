import SessionAuth.Proofs.Http.Answering
import SessionAuth.Proofs.Service.Unchanged
import SessionAuth.Proofs.UseCase.Login

/-!
# What strangers are told

Most routes are for known callers only.  Their endpoints ask for the caller before anything else
(`Endpoint.exists_respond_eq`), so that a request without a caller gets as far as that and no
further: not the parameters of its path, nor its query, nor its body is looked at.  The caller, in
turn, depends on nothing of a request but its `Authorization` headers.

`strangers_alike` draws the conclusion: on all these routes strangers are told the same thing, and
they change nothing.
-/

set_option autoImplicit false

namespace SessionAuth
namespace Http

open Environment Fallible Deployment

/-! ## Protected routes -/

/-- The paths at and under which a caller is needed. -/
def protectedPaths : List (List Segment) :=
  [[.literal "api", .literal "auth", .literal "logout"],
    [.literal "api", .literal "auth", .literal "me"],
    [.literal "api", .literal "auth", .literal "password"],
    [.literal "api", .literal "sessions"],
    [.literal "api", .literal "admin"]]

/-- Whether a route is at or under one of these paths. -/
def Route.IsProtected (route : Route Endpoint) : Prop :=
  ∃ path ∈ protectedPaths, path <+: route.path

instance (route : Route Endpoint) : Decidable route.IsProtected :=
  inferInstanceAs (Decidable (∃ path ∈ protectedPaths, path <+: route.path))

namespace Endpoint

/-- The endpoints that anyone may use. -/
def unprotected : List Endpoint := [register, login, refresh, health]

theorem not_mem_unprotected : ∀ route ∈ routes, route.IsProtected →
    ∀ x ∈ route.endpoints, x.2 ∉ unprotected := by
  decide

variable {s : Setup} {r r₁ r₂ : Request} {params : RawParams} {e : Endpoint}

/-- All other endpoints ask for the caller before they do anything. -/
theorem exists_respond_eq (s : Setup) (r : Request) (params : RawParams) (h : e ∉ unprotected) :
    ∃ k : Caller → UseCase Response, e.respond s r params = caller s r >>= k := by
  cases e with
  | register | login | refresh | health => exact absurd (by decide) h
  | _ => exact ⟨_, rfl⟩

/-! ## Strangers -/

theorem bearerToken?_congr
    (h : r₁.headers.all "authorization" = r₂.headers.all "authorization") :
    bearerToken? r₁ = bearerToken? r₂ := by
  simp only [bearerToken?, Headers.first?, h]

/-- A caller is known by the `Authorization` headers alone. -/
theorem caller_congr (h : r₁.headers.all "authorization" = r₂.headers.all "authorization") :
    caller s r₁ = caller s r₂ := by
  rw [caller, caller, bearerToken?_congr h]

theorem looks_caller (s : Setup) (r : Request) : Asks Looks (caller s r) := by
  rw [caller]
  split
  · exact Auth.looks_authenticate _
  · exact asks_throw _

end Endpoint

/-- Whether a request carries no token with which its sender would be known to a process. -/
def Request.IsStranger (s : Setup) (f : Supply) (d : Deployment) (r : Request) : Prop :=
  ∀ token, Endpoint.bearerToken? r = some token →
    ∀ c, (runOn (serve f) (Auth.authenticate s token) d).1 ≠ .ok c

section

variable {s : Setup} {f : Supply} {d : Deployment} {r r₁ r₂ : Request}

/-- A stranger is not taken for a caller, and that is found out without changing anything. -/
theorem Request.IsStranger.runOn_caller (h : r.IsStranger s f d) :
    ∃ e d', runOn (serve f) (Endpoint.caller s r) d = (.error e, d') ∧ d.Unchanged d' := by
  have hlooks := (preserves_unchanged (f := f) (Endpoint.looks_caller s r)).run d (.refl d)
  cases hrun : runOn (serve f) (Endpoint.caller s r) d with
  | mk result d' =>
    rw [hrun] at hlooks
    cases result with
    | error e => exact ⟨e, d', rfl, hlooks⟩
    | ok c =>
      rw [Endpoint.caller] at hrun
      split at hrun
      · rename_i token htoken
        exact absurd (congrArg Prod.fst hrun) (h token htoken c)
      · cases hrun

namespace Service

variable {route : Route Endpoint} {params : RawParams} {e : Endpoint}

/-- A request to a protected route gets no further than its caller. -/
theorem run_respond_of_error (server : ServerSettings) (h : r.Matches route params e)
    (hprotected : route.IsProtected) (hhead : r.method ≠ "HEAD") {error : Error} {d' : Deployment}
    (hcaller : runOn (serve f) (Endpoint.caller s r) d = (.error error, d')) :
    (respond s server r).run (serve f) d =
      (addHeaders (.ofError error) (Cors.headers server.allowedOrigins r), d') := by
  have he := Endpoint.not_mem_unprotected route (mem_of_findRoute h.path) hprotected _
    (Route.mem_of_endpoint? h.method)
  obtain ⟨k, hk⟩ := Endpoint.exists_respond_eq s r params he
  have hrespond : runOn (serve f) (e.respond s r params) d = (.error error, d') := by
    rw [hk, runOn_bind, hcaller]
  rw [run_respond (serve f) d s server h, hrespond, shown_of_ne hhead, conclude]

/-- **Strangers are told the same everywhere.**  Two requests to protected routes with the same
`Authorization` headers, whose sender is a stranger, are answered with the same error, and leave
accounts, permissions and sessions as they are. -/
theorem strangers_alike (s : Setup) (server : ServerSettings) (f : Supply) (d : Deployment)
    {r₁ r₂ : Request} {route₁ route₂ : Route Endpoint} {params₁ params₂ : RawParams}
    {e₁ e₂ : Endpoint} (h₁ : r₁.Matches route₁ params₁ e₁) (hprotected₁ : route₁.IsProtected)
    (h₂ : r₂.Matches route₂ params₂ e₂) (hprotected₂ : route₂.IsProtected)
    (hhead₁ : r₁.method ≠ "HEAD") (hhead₂ : r₂.method ≠ "HEAD")
    (hauthorization : r₁.headers.all "authorization" = r₂.headers.all "authorization")
    (hstranger : r₁.IsStranger s f d) :
    ∃ error, ∀ r ∈ [r₁, r₂],
      ((respond s server r).run (serve f) d).1.status = (Response.ofError error).status ∧
        ((respond s server r).run (serve f) d).1.body = (Response.ofError error).body ∧
          d.Unchanged ((respond s server r).run (serve f) d).2 := by
  obtain ⟨error, d', hcaller, hunchanged⟩ := hstranger.runOn_caller
  have hrun₁ := run_respond_of_error server h₁ hprotected₁ hhead₁ hcaller
  rw [Endpoint.caller_congr hauthorization] at hcaller
  have hrun₂ := run_respond_of_error server h₂ hprotected₂ hhead₂ hcaller
  refine ⟨error, List.forall_mem_cons.2 ⟨?_, List.forall_mem_singleton.2 ?_⟩⟩
  · rw [hrun₁]
    exact ⟨rfl, rfl, hunchanged⟩
  · rw [hrun₂]
    exact ⟨rfl, rfl, hunchanged⟩

/-! ### A stranger at two doors -/

namespace Stranger

def headers : Headers := [("Authorization", "Bearer nothing")]

/-- A request for the profile of the caller. -/
def profile : Request := ⟨"GET", "/api/auth/me", none, headers, []⟩

/-- A request to delete an account, whose id is no id. -/
def deletion : Request := ⟨"DELETE", "/api/admin/users/%FF", some "page=x", headers, [0]⟩

theorem isStranger : profile.IsStranger Sample.setup Auth.FirstLogin.supply
    Auth.FirstLogin.process := by
  intro token htoken c
  obtain rfl : "nothing" = token := Option.some.inj htoken
  have hparse : Sample.setup.codec.parse (.ofSeconds 0) "nothing" .access =
      .error (.token .format) := by decide
  rw [Auth.authenticate, runOn_bind_of_ok _ _ (runOn_now _ _), runOn_bind, runOn_lift]
  simp only [serve, answer]
  rw [show Auth.FirstLogin.process.clock.wall = .ofSeconds 0 from rfl, hparse]
  simp

end Stranger

open Stranger in
/-- Asking for a profile and deleting an account come to the same thing. -/
theorem strangers_alike_deletion : ∃ error, ∀ r ∈ [profile, deletion],
    ((respond Sample.setup {} r).run (serve Auth.FirstLogin.supply)
      Auth.FirstLogin.process).1.status = (Response.ofError error).status ∧
    ((respond Sample.setup {} r).run (serve Auth.FirstLogin.supply)
      Auth.FirstLogin.process).1.body = (Response.ofError error).body ∧
    Auth.FirstLogin.process.Unchanged ((respond Sample.setup {} r).run
      (serve Auth.FirstLogin.supply) Auth.FirstLogin.process).2 :=
  strangers_alike Sample.setup {} Auth.FirstLogin.supply Auth.FirstLogin.process
    ⟨rfl, rfl⟩ (by decide) ⟨rfl, rfl⟩ (by decide) (by decide) (by decide) rfl isStranger

end Service
end
end Http
end SessionAuth
