import SessionAuth.Collection.Expiring
import SessionAuth.Collection.SortedSet
import SessionAuth.Collection.Table
import SessionAuth.Fallible
import SessionAuth.Session.Basic

/-!
# The session store in memory

The store keeps three tables, all of whose entries expire: the records of sessions by their ids, the
pointers that lead from the id of a refresh token to its session, and for each user the index of the
sessions that were opened.  An index may name sessions that are gone; sweeping drops those.

Each operation is one step.  It takes the present time, in nanoseconds on the clock of the
deadlines, and drops the expired entries that it comes across.  `SessionStore.Call` lists the
operations, and `SessionStore.answer` answers them.
-/

set_option autoImplicit false

namespace SessionAuth

/-- The sessions of all users. -/
structure SessionStore where
  sessions : Table String (Expiring Session)
  /-- The session that the id of a refresh token carries on. -/
  pointers : Table String (Expiring String)
  /-- The ids of the sessions of a user. -/
  indexes : Table UserId (Expiring (SortedSet String))

namespace SessionStore

/-- The store without sessions. -/
def empty : SessionStore := ⟨.empty, .empty, .empty⟩

/-- The deadline of what is written now and lives for a number of seconds. -/
def deadline (now : Nat) (ttl : Int) : Nat := now + ttl.toNat * nanosPerSecond

/-! ## Live entries -/

/-- The record of a session, if it is live. -/
def session? (s : SessionStore) (now : Nat) (id : String) : Option Session :=
  Expiring.live? now (s.sessions.get? id)

/-- The session to which the id of a refresh token leads, if the pointer is live. -/
def pointer? (s : SessionStore) (now : Nat) (jti : String) : Option String :=
  Expiring.live? now (s.pointers.get? jti)

/-- The index of a user, if it is live. -/
def index? (s : SessionStore) (now : Nat) (user : UserId) : Option (SortedSet String) :=
  Expiring.live? now (s.indexes.get? user)

/-- The store without the record of a session, if that has expired. -/
def purgeSession (s : SessionStore) (now : Nat) (id : String) : SessionStore :=
  if (s.session? now id).isSome then s else { s with sessions := s.sessions.erase id }

/-- The store without the index of a user, if that has expired. -/
def purgeIndex (s : SessionStore) (now : Nat) (user : UserId) : SessionStore :=
  if (s.index? now user).isSome then s else { s with indexes := s.indexes.erase user }

/-! ## Indexes -/

/-- Puts a session into the index of its user, which lives at least until a deadline. -/
def addToIndex (s : SessionStore) (now : Nat) (user : UserId) (id : String) (least : Nat) :
    SessionStore :=
  let index : Expiring (SortedSet String) := match (s.indexes.get? user).filter (·.isLive now) with
    | some e => ⟨e.value.insert id, max e.deadline least⟩
    | none => ⟨SortedSet.empty.insert id, least⟩
  { s with indexes := s.indexes.set user index }

/-- Raises the deadline of the index of a user, if it is live. -/
def raiseIndex (s : SessionStore) (now : Nat) (user : UserId) (least : Nat) : SessionStore :=
  { s with indexes := s.indexes.modify user fun e =>
      if e.isLive now then { e with deadline := max e.deadline least } else e }

/-- Takes a session out of the index of a user. -/
def removeFromIndex (s : SessionStore) (user : UserId) (id : String) : SessionStore :=
  { s with indexes := s.indexes.modify user fun e => e.map (·.erase id) }

/-! ## Operations -/

/-- Writes the record of a new session with its pointer, and puts it into the index of its user. -/
def create (s : SessionStore) (now : Nat) (session : Session) (ttls : Ttls) :
    Except Error Unit × SessionStore :=
  if !ttls.isValid then (.error .ttlsNotPositive, s)
  else
    let stored : SessionStore := { s with
      sessions := s.sessions.set session.id ⟨session, deadline now ttls.session⟩
      pointers := s.pointers.set session.currentJti ⟨session.id, deadline now ttls.jti⟩ }
    (.ok (), stored.addToIndex now session.userId session.id (deadline now ttls.session))

/-- Exchanges a refresh token: its pointer is taken away, and if it led to a live session, the new
token carries that session on.  The answer is the id of the session. -/
def rotate (s : SessionStore) (now : Nat) (r : Rotation) : Except Error String × SessionStore :=
  if !r.ttls.isValid then (.error .ttlsNotPositive, s)
  else
    let taken : SessionStore := { s with pointers := s.pointers.erase r.oldJti }
    match s.pointer? now r.oldJti with
    | none => (.error .refreshTokenSpent, taken)
    | some id =>
      match taken.session? now id with
      | none => (.error .refreshTokenSpent, taken.purgeSession now id)
      | some session =>
        let stored : SessionStore := { taken with
          sessions := taken.sessions.set id ⟨session.rotated r, deadline now r.ttls.session⟩
          pointers := taken.pointers.set r.newJti ⟨id, deadline now r.ttls.jti⟩ }
        (.ok id, stored.raiseIndex now session.userId (deadline now r.ttls.session))

/-- Whether the id of a refresh token leads to a session. -/
def hasJti (s : SessionStore) (now : Nat) (jti : String) : Bool := (s.pointer? now jti).isSome

/-- The record of a session. -/
def get (s : SessionStore) (now : Nat) (id : String) : Option Session × SessionStore :=
  (s.session? now id, s.purgeSession now id)

/-- The ids in the index of a user, in ascending order. -/
def indexed (s : SessionStore) (now : Nat) (user : UserId) : List String :=
  match s.index? now user with
  | some ids => ids.toList
  | none => []

/-- The live sessions in the index of a user. -/
def listByUser (s : SessionStore) (now : Nat) (user : UserId) : List Session × SessionStore :=
  let ids := s.indexed now user
  (ids.filterMap (s.session? now),
    ids.foldl (fun s id => s.purgeSession now id) (s.purgeIndex now user))

/-- Deletes one session with its pointer; the answer says whether it was live. -/
def deleteOne (s : SessionStore) (now : Nat) (id : String) : Bool × SessionStore :=
  match s.sessions.get? id with
  | none => (false, s)
  | some e =>
    let rest : SessionStore := { s with sessions := s.sessions.erase id }
    let rest := (rest.purgeIndex now e.value.userId).removeFromIndex e.value.userId id
    (e.isLive now, { rest with pointers := rest.pointers.erase e.value.currentJti })

/-- Deletes sessions; the answer is how many of them were live. -/
def delete (s : SessionStore) (now : Nat) : List String → Nat × SessionStore
  | [] => (0, s)
  | id :: ids =>
    let (wasLive, s) := s.deleteOne now id
    let (count, s) := s.delete now ids
    (count + (if wasLive then 1 else 0), s)

/-- Drops the sessions that are gone from the index of a user; the answer is how many. -/
def sweepUser (s : SessionStore) (now : Nat) (user : UserId) : Nat × SessionStore :=
  let ids := s.indexed now user
  let dead := ids.filter fun id => (s.session? now id).isNone
  let purged := ids.foldl (fun s id => s.purgeSession now id) (s.purgeIndex now user)
  (dead.length, dead.foldl (fun s id => s.removeFromIndex user id) purged)

/-- The number of ids in the index of a user, also of sessions that are gone. -/
def indexSize (s : SessionStore) (now : Nat) (user : UserId) : Nat × SessionStore :=
  ((s.indexed now user).length, s.purgeIndex now user)

/-! ## Calls -/

/-- What a session store is asked to do. -/
inductive Call where
  | create (session : Session) (ttls : Ttls)
  | rotate (rotation : Rotation)
  | hasJti (jti : String)
  | get (id : String)
  | listByUser (user : UserId)
  | delete (ids : List String)
  | sweepUser (user : UserId)

/-- The answers of a store that is in reach. -/
abbrev Call.Answer : Call → Type
  | create _ _ => Unit
  | rotate _ => String
  | hasJti _ => Bool
  | get _ => Option Session
  | listByUser _ => List Session
  | delete _ => Nat
  | sweepUser _ => Nat

/-- What the store in memory is asked. -/
inductive Question where
  | call (c : Call)
  /-- All users that have an index. -/
  | indexedUsers

abbrev Question.Answer : Question → Type
  | call c => c.Answer
  | indexedUsers => List UserId

/-- The store in memory, as those who use it see it. -/
abbrev interface : Interface := ⟨Question, fun q => Except Error q.Answer⟩

/-- An answer that is not an error. -/
def succeed {α : Type} (r : α × SessionStore) : Except Error α × SessionStore := (.ok r.1, r.2)

/-- The answer to a question, and the store after it. -/
def answer (now : Nat) : Program.Server interface SessionStore
  | .call (.create session ttls), s => s.create now session ttls
  | .call (.rotate rotation), s => s.rotate now rotation
  | .call (.hasJti jti), s => (.ok (s.hasJti now jti), s)
  | .call (.get id), s => succeed (s.get now id)
  | .call (.listByUser user), s => succeed (s.listByUser now user)
  | .call (.delete ids), s => succeed (s.delete now ids)
  | .call (.sweepUser user), s => succeed (s.sweepUser now user)
  | .indexedUsers, s => (.ok s.indexes.keys, s)

/-- The program that makes one call. -/
def call (c : Call) : Fallible interface c.Answer :=
  .ofProgram (.question (I := interface) (.call c))

/-- The program that asks which users have an index. -/
def indexedUsers : Fallible interface (List UserId) :=
  .ofProgram (.question (I := interface) .indexedUsers)

/-! ## Sweeping -/

/-- Drops the sessions that are gone from the indexes of some users; the answer is how many.  The
sum is taken to stay below `2 ^ 64`, as numbers of entries in a store do. -/
def sweepUsers : List UserId → Fallible interface Nat
  | [] => pure 0
  | user :: users => do
    let count ← call (.sweepUser user)
    let rest ← sweepUsers users
    pure (count + rest)

/-- Drops the sessions that are gone from all indexes. -/
def sweepAll : Fallible interface Nat := do
  sweepUsers (← indexedUsers)

end SessionStore
end SessionAuth
