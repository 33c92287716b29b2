import SessionAuth.Http.Body
import SessionAuth.Http.Client
import SessionAuth.Http.Route
import SessionAuth.UseCase.Auth
import SessionAuth.UseCase.OwnSessions
import SessionAuth.UseCase.RoleAdmin
import SessionAuth.UseCase.UserAdmin

/-!
# Endpoints

An endpoint takes what it needs from a request, in a fixed order - the caller, the parameters of the
path, the query, the body - and does a use case.  The first part that is wrong is the answer.
-/

set_option autoImplicit false

namespace SessionAuth
namespace Http

open Text Environment

/-- What can be asked of the service over HTTP. -/
inductive Endpoint where
  | register
  | login
  | refresh
  | logout
  | me
  | changePassword
  | listSessions
  | revokeSessions
  | listUsers
  | createUser
  | getUser
  | deleteUser
  | changeRole
  | changeStatus
  | listPermissions
  | grantPermission
  | revokePermission
  | health
  deriving DecidableEq, Repr

namespace Endpoint

/-- All routes. -/
def routes : List (Route Endpoint) :=
  let path (segments : List Segment) : List Segment := .literal "api" :: segments
  let auth (name : String) := path [.literal "auth", .literal name]
  let user (rest : List Segment) := path (.literal "admin" :: .literal "users" :: rest)
  let permissions (rest : List Segment) :=
    path (.literal "admin" :: .literal "roles" :: .param "role" :: .literal "permissions" :: rest)
  [⟨auth "register", [("POST", register)]⟩,
    ⟨auth "login", [("POST", login)]⟩,
    ⟨auth "refresh", [("POST", refresh)]⟩,
    ⟨auth "logout", [("POST", logout)]⟩,
    ⟨auth "me", [("GET", me)]⟩,
    ⟨auth "password", [("PUT", changePassword)]⟩,
    ⟨path [.literal "sessions"], [("GET", listSessions)]⟩,
    ⟨path [.literal "sessions", .literal "revoke"], [("POST", revokeSessions)]⟩,
    ⟨user [], [("GET", listUsers), ("POST", createUser)]⟩,
    ⟨user [.param "id"], [("GET", getUser), ("DELETE", deleteUser)]⟩,
    ⟨user [.param "id", .literal "role"], [("PUT", changeRole)]⟩,
    ⟨user [.param "id", .literal "status"], [("PUT", changeStatus)]⟩,
    ⟨permissions [], [("GET", listPermissions), ("POST", grantPermission)]⟩,
    ⟨permissions [.param "permission"], [("DELETE", revokePermission)]⟩,
    ⟨path [.literal "health"], [("GET", health)]⟩]

/-! ## Parts of requests -/

/-- The scheme of access tokens. -/
def bearer : List Char := "bearer".toList

/-- The access token of a request. -/
def bearerToken? (r : Request) : Option String := do
  let value ← (r.headers.first? "authorization").filter isPlain
  let (scheme, rest) ← cutFirst ' ' value.toList
  if scheme.map asciiLower = bearer then some (String.ofList (dropBlank rest)) else none

/-- The caller of a request. -/
def caller (s : Setup) (r : Request) : UseCase Caller := do
  match bearerToken? r with
  | some token => Auth.authenticate s token
  | none => throw .authorizationHeader

/-- The answer where the value of a parameter is no text. -/
def invalidParam (name : String) : Response :=
  ⟨400, [("content-type", "text/plain; charset=utf-8")],
    .text ("Invalid URL: Invalid UTF-8 in `" ++ name ++ "`")⟩

/-- Goes on with the values of the parameters. -/
def withParams (params : RawParams) (k : List String → UseCase Response) : UseCase Response :=
  match params.mapM paramValue with
  | .ok values => k values
  | .error name => pure (invalidParam name)

/-- Goes on with the value of the only parameter. -/
def withParam (params : RawParams) (k : String → UseCase Response) : UseCase Response :=
  withParams params fun values => k (values.headD "")

/-! ## Answers -/

/-- The answer with a message. -/
def message (text : String) : Json := .obj [("message", .str text)]

/-- The answer of a change of permissions. -/
def changed (b : Bool) : Json := .obj [("changed", .bool b)]

/-- The version of the service. -/
def version : String := "0.1.0"

/-- How a part of the service is. -/
inductive Health where
  | ok
  | degraded
  | unavailable
  | disabled
  deriving DecidableEq, Repr

def Health.name : Health → String
  | ok => "ok"
  | degraded => "degraded"
  | unavailable => "unavailable"
  | disabled => "disabled"

/-- How a part is that answers whether it is well. -/
def Health.ofResult : Except Error Bool → Health
  | .ok true => .ok
  | .ok false => .degraded
  | .error _ => .unavailable

/-- The answer that says how the parts of the service are. -/
def healthReport (cache database : Health) : Response :=
  let isHealthy := cache == .ok && (database == .ok || database == .disabled)
  .ofJson (if isHealthy then 200 else 503) (.obj [
    ("status", .str (if isHealthy then "ok" else "degraded")),
    ("version", .str version),
    ("cache", .str cache.name),
    ("database", .str database.name)])

/-! ## What endpoints do -/

/-- The answer of an endpoint to a request with the given parameters. -/
def respond (s : Setup) (r : Request) (params : RawParams) : Endpoint → UseCase Response
  | register => do
    let form ← Form.register.read r
    return .ofData 201 (← Account.register s form.email form.password).toJson
  | login => do
    let client := ClientInfo.ofHeaders r.headers
    let form ← Form.login.read r
    let tokens ← Auth.login s
      ⟨form.email, form.password, client.deviceOr form.device, client.ip⟩
    return .ofData 200 tokens.toJson
  | refresh => do
    let client := ClientInfo.ofHeaders r.headers
    let form ← Form.refresh.read r
    let tokens ← Auth.refresh s ⟨form.refreshToken, client.deviceOr form.device, client.ip⟩
    return .ofData 200 tokens.toJson
  | logout => do
    Auth.logout (← caller s r)
    return .ofData 200 (message "Logged out")
  | me => do
    return .ofData 200 (← Auth.profile (← caller s r)).toJson
  | changePassword => do
    let c ← caller s r
    let form ← Form.changePassword.read r
    let ended ← Account.changePassword s c form.current form.new
    return .ofData 200 (.obj [
      ("message", .str "Password changed. Log in again on every device"),
      ("sessions_revoked", .nat ended)])
  | listSessions => do
    let views ← OwnSessions.list s (← caller s r)
    return .ofData 200 (.arr (views.map (·.toJson)))
  | revokeSessions => do
    let c ← caller s r
    let form ← Form.revokeSessions.read r
    let removed ← OwnSessions.revoke s c form.sessionIds form.removeOthers
    return .ofData 200 (.obj [("removed", .nat removed)])
  | listUsers => do
    let c ← caller s r
    let query ← UserListQuery.read r.query
    let filter ← query.filter
    return .ofData 200 ((← UserAdmin.list s c filter query.pageRequest).toJson)
  | createUser => do
    let c ← caller s r
    let form ← Form.createUser.read r
    let role ← Role.read form.role
    let status ← match form.status with
      | some text => Status.read text
      | none => pure .active
    return .ofData 201 (← UserAdmin.create s c ⟨form.email, form.password, role, status⟩).toJson
  | getUser => do
    let c ← caller s r
    withParam params fun id => do
      return .ofData 200 (← UserAdmin.get s c (← UserId.read id)).toJson
  | deleteUser => do
    let c ← caller s r
    withParam params fun id => do
      UserAdmin.delete s c (← UserId.read id)
      return .ofData 200 (message "User deleted")
  | changeRole => do
    let c ← caller s r
    withParam params fun id => do
      let name ← Form.changeRole.read r
      let user ← UserId.read id
      let role ← Role.read name
      UserAdmin.changeRole s c user role
      return .ofData 200 (message ("Role changed to " ++ role.name))
  | changeStatus => do
    let c ← caller s r
    withParam params fun id => do
      let name ← Form.changeStatus.read r
      let user ← UserId.read id
      let status ← Status.read name
      UserAdmin.changeStatus s c user status
      return .ofData 200 (message ("Status changed to " ++ status.name))
  | listPermissions => do
    let c ← caller s r
    withParam params fun name => do
      let role ← Role.read name
      let permissions ← RoleAdmin.list s c role
      return .ofData 200 (.obj [("role", role.toJson),
        ("permissions", Permission.listToJson permissions)])
  | grantPermission => do
    let c ← caller s r
    withParam params fun name => do
      let text ← Form.grantPermission.read r
      let role ← Role.read name
      let permission ← Permission.read text
      return .ofData 200 (changed (← RoleAdmin.grant s c role permission))
  | revokePermission => do
    let c ← caller s r
    withParams params fun values => do
      let role ← Role.read (values.headD "")
      let permission ← Permission.read (values.tail.headD "")
      return .ofData 200 (changed (← RoleAdmin.revoke s c role permission))
  | health => do
    let cacheHealth := Health.ofResult (← (cache (Cache.call .isHealthy)).attempt)
    let databaseHealth := match ← ask .databaseHealth with
      | some result => Health.ofResult result
      | none => .disabled
    return healthReport cacheHealth databaseHealth

end Endpoint
end Http
end SessionAuth
