import SessionAuth.Environment

/-!
# The life of sessions

Sessions are opened with a login, carried on by refresh tokens, listed, and deleted.  A session
lives for a configured time after it was opened or carried on last, and the pointer of its refresh
token for as long as that token.
-/

set_option autoImplicit false

namespace SessionAuth
namespace Sessions

open Environment

/-- A session that is to be opened. -/
structure Opening where
  userId : UserId
  /-- The id of the refresh token that is given out with it. -/
  jti : String
  /-- When that token expires. -/
  jtiExpiresAt : Timestamp
  ip : String
  device : String

/-- The exchange of a refresh token. -/
structure Renewal where
  /-- The id of the token that is presented. -/
  oldJti : String
  /-- The id of the token that takes its place. -/
  newJti : String
  /-- When the new token expires. -/
  jtiExpiresAt : Timestamp
  ip : String
  device : String

/-- Sessions of a user that are to be deleted. -/
structure Deletion where
  userId : UserId
  /-- The session of the request, which is kept when all others are deleted. -/
  current : String
  /-- The ids of the sessions to delete; those of other users are passed over. -/
  targets : List String
  /-- Whether to delete all sessions but the current one instead. -/
  others : Bool

/-- The longest lifetime of a session, ten years, in seconds. -/
def maxTtl : Nat := 10 * 365 * 24 * 3600

/-- The lifetimes of what is written now, and when the session expires. -/
def lifetimes (ttl : Nat) (now jtiExpiresAt : Timestamp) : Except Error (Ttls × Timestamp) :=
  if maxTtl < ttl then .error (.sessionTtlTooLong ttl maxTtl)
  else
    let ttls : Ttls := ⟨ttl, now.secondsUntil jtiExpiresAt⟩
    if ttls.isValid then .ok (ttls, now.addSeconds ttl)
    else .error (.ttlsNotPositiveAt ttls.session ttls.jti)

/-- Opens a session; the answer is its id. -/
def openSession (ttl : Nat) (o : Opening) : UseCase String := do
  if o.jti.isEmpty then throw .refreshTokenIdMissing
  let now ← now
  let (ttls, expiresAt) ← lifetimes ttl now o.jtiExpiresAt
  let session : Session := {
    id := ← newId
    userId := o.userId
    device := o.device
    ip := o.ip
    currentJti := o.jti
    createdAt := now
    updatedAt := now
    expiresAt := expiresAt }
  sessions (SessionStore.call (.create session ttls))
  return session.id

/-- Carries a session on; the answer is its id. -/
def renew (ttl : Nat) (r : Renewal) : UseCase String := do
  if r.oldJti.isEmpty || r.newJti.isEmpty then throw .rotationIdsMissing
  let now ← now
  let (ttls, expiresAt) ← lifetimes ttl now r.jtiExpiresAt
  sessions (SessionStore.call (.rotate {
    oldJti := r.oldJti
    newJti := r.newJti
    ip := r.ip
    device := r.device
    updatedAt := now
    expiresAt := expiresAt
    ttls := ttls }))

/-- Whether the id of a refresh token leads to a session. -/
def hasJti (jti : String) : UseCase Bool :=
  if jti.isEmpty then pure false else sessions (SessionStore.call (.hasJti jti))

/-- The record of a session. -/
def get (id : String) : UseCase (Option Session) := sessions (SessionStore.call (.get id))

/-- The live sessions of a user. -/
def ofUser (user : UserId) : UseCase (List Session) :=
  sessions (SessionStore.call (.listByUser user))

/-- Whether a user has a session that can still be carried on. -/
def isActive (user : UserId) (id : String) : UseCase Bool := do
  match ← get id with
  | some session => if session.userId = user then hasJti session.currentJti else pure false
  | none => pure false

/-- Whether a session comes before another in lists: the one that was used later does, and of two
that were used at once the one with the greater id. -/
def precedes (s t : Session) : Bool :=
  ((compare t.updatedAt s.updatedAt).then (compare t.id s.id)).isLE

/-- The live sessions of a user in the order of lists, as they are shown in the current one. -/
def views (user : UserId) (current : String) : UseCase (List SessionView) := do
  return ((← ofUser user).mergeSort precedes).map fun s => s.view current

/-- Deletes sessions, if there are any to delete; the answer is how many were live. -/
def deleteIds (ids : List String) : UseCase Nat :=
  if ids.isEmpty then pure 0 else sessions (SessionStore.call (.delete ids))

/-- The sessions that a deletion is about, among those of the user. -/
def Deletion.ids (d : Deletion) (owned : List String) : List String :=
  if d.others then owned.filter (· ≠ d.current) else d.targets.filter owned.contains

/-- Deletes sessions of a user; the answer is how many. -/
def delete (d : Deletion) : UseCase Nat := do
  deleteIds (d.ids ((← ofUser d.userId).map (·.id)))

/-- Deletes all sessions of a user; the answer is how many. -/
def deleteAll (user : UserId) : UseCase Nat := do
  let removed ← deleteIds ((← ofUser user).map (·.id))
  let _ ← sessions (SessionStore.call (.sweepUser user))
  return removed

end Sessions
end SessionAuth
