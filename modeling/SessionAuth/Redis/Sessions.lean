import SessionAuth.Keys
import SessionAuth.Redis.SessionScripts
import SessionAuth.Session.Store

/-!
# The session store in Redis

The record of a session is a hash, its pointer a string that holds the key of the record, and the
index of a user a set of such keys.  Times are kept in whole seconds.  A record that cannot be read
is treated as if it were not there.

* `recordKey`, `pointerKey` and `indexKey` are the keys of the store, `createArguments`,
  `rotateArguments` and `deleteArguments` what its scripts are given, and `readSession` reads a
  record.
* `sessionCall` answers the calls to a session store, `sweepAll` prunes all indexes.
-/

set_option autoImplicit false

namespace SessionAuth
namespace Redis

open Text

/-! ## Keys -/

namespace Client

/-- The key of the record of a session. -/
def recordKey (c : Client) (id : String) : String := c.key (Keys.session id)

/-- The key of the pointer of a refresh token. -/
def pointerKey (c : Client) (jti : String) : String := c.key (Keys.jti jti)

/-- The key of the index of a user. -/
def indexKey (c : Client) (user : UserId) : String := c.key (Keys.userSessions user.toText)

/-- What the keys of all indexes begin with. -/
def indexPrefix (c : Client) : String := c.key (Keys.userSessions "")

/-- What the keys of all pointers begin with. -/
def pointerPrefix (c : Client) : String := c.key (Keys.jti "")

/-- The pattern of the keys of all indexes. -/
def indexPattern (c : Client) : String := c.key Keys.userSessionsPattern

end Client

/-! ## Records -/

/-- The time as it is kept, in whole seconds; a leap second is kept as the second before it. -/
def writeTime (t : Timestamp) : String := writeInt t.second

/-- The time that is kept as a text. -/
def readTime? (s : String) : Option Timestamp := (readInt64? s).bind Timestamp.ofSeconds?

/-- The arguments of the script that creates a session. -/
def createArguments (s : Session) (ttls : Ttls) : List String :=
  [s.id, s.userId.toText, s.device, s.ip, writeTime s.createdAt, writeTime s.updatedAt,
    writeTime s.expiresAt, s.currentJti, writeInt ttls.session, writeInt ttls.jti]

/-- The arguments of the script that carries a session on. -/
def rotateArguments (c : Client) (r : Rotation) : List String :=
  [r.newJti, r.ip, r.device, writeTime r.updatedAt, writeTime r.expiresAt,
    writeInt r.ttls.session, writeInt r.ttls.jti, c.indexPrefix]

/-- The arguments of the script that deletes sessions. -/
def deleteArguments (c : Client) : List String := [c.indexPrefix, c.pointerPrefix]

/-- The session of a record. -/
def readSession (fields : Table String String) : Option Session := do
  let id ← fields.get? "id"
  let userId ← (fields.get? "user_id").bind Uuid.ofText?
  let currentJti ← fields.get? "current_jti"
  let createdAt ← (fields.get? "created_at").bind readTime?
  let updatedAt ← (fields.get? "updated_at").bind readTime?
  let expiresAt ← (fields.get? "expires_at").bind readTime?
  pure {
    id := id
    userId := userId
    device := (fields.get? "device").getD ""
    ip := (fields.get? "ip").getD ""
    currentJti := currentJti
    createdAt := createdAt
    updatedAt := updatedAt
    expiresAt := expiresAt }

/-! ## Calls -/

/-- Drops the sessions that are gone from the index under a key. -/
def prune (c : Client) (key : String) : Fallible interface Nat :=
  c.operation "prune" (pruneScript.invoke [key] [] Reply.count?)

/-- Writes a new session. -/
def create (c : Client) (s : Session) (ttls : Ttls) : Fallible interface Unit :=
  if !ttls.isValid then throw .ttlsNotPositive
  else do
    let _ ← c.operation "create session" (createScript.invoke
      [c.recordKey s.id, c.pointerKey s.currentJti, c.indexKey s.userId]
      (createArguments s ttls) Reply.integer?)

/-- Carries a session on. -/
def rotate (c : Client) (r : Rotation) : Fallible interface String :=
  if !r.ttls.isValid then throw .ttlsNotPositive
  else do
    let (outcome, id) ← c.operation "rotate jti" (rotateScript.invoke
      [c.pointerKey r.oldJti, c.pointerKey r.newJti] (rotateArguments c r)
      (Reply.pair? Reply.integer? Reply.text?))
    if outcome = 1 then pure id else throw .refreshTokenSpent

/-- Deletes sessions. -/
def delete (c : Client) (ids : List String) : Fallible interface Nat :=
  if ids.isEmpty then pure 0
  else c.operation "delete sessions" (deleteScript.invoke (ids.map c.recordKey)
    (deleteArguments c) Reply.count?)

/-- The operation that answers a call to the session store. -/
def sessionCall (c : Client) : (q : SessionStore.Call) → Fallible interface q.Answer
  | .create session ttls => create c session ttls
  | .rotate rotation => rotate c rotation
  | .hasJti jti => c.operation "EXISTS" (send ["EXISTS", c.pointerKey jti] Reply.bool?)
  | .get id => readSession <$>
      c.operation "HGETALL" (send ["HGETALL", c.recordKey id] Reply.table?)
  | .listByUser user => (·.filterMap readSession) <$>
      c.operation "list sessions"
        (listScript.invoke [c.indexKey user] [] (Reply.list? Reply.table?))
  | .delete ids => delete c ids
  | .sweepUser user => prune c (c.indexKey user)

/-! ## Sweeping -/

/-- How many keys a server is asked to look at for a page. -/
def pageSize : Nat := 200

/-- The command that asks for the page of keys of indexes at a cursor. -/
def scanCommand (c : Client) (cursor : Nat) : Command :=
  ["SCAN", writeNat cursor, "MATCH", c.indexPattern, "COUNT", writeNat pageSize]

/-- The cursor of the next page and the keys of a page, as a reply tells them. -/
def page? : Reply → Option (Nat × List String) :=
  Reply.pair? Reply.count? (Reply.list? Reply.text?)

/-- The page of keys of indexes at a cursor, with the cursor of the next page. -/
def scan (c : Client) (cursor : Nat) : Fallible interface (Nat × List String) :=
  c.operation "SCAN" (send (scanCommand c cursor) page?)

/-- Prunes the indexes under some keys.  An index whose pruning fails is left as it is. -/
def pruneAll (c : Client) : List String → Fallible interface Nat
  | [] => pure 0
  | key :: keys => do
    let count ← (prune c key).attempt
    let rest ← pruneAll c keys
    pure ((count.toOption.getD 0) + rest)

/-- Prunes the indexes of at most `pages` pages, the first one being that at a cursor; a cursor of
zero after a page says that it was the last one.

Each count that a server answers with is below `2 ^ 64`, and their sum is taken to be so as well:
it is a number of entries that were removed. -/
def sweepFrom (c : Client) : (pages cursor : Nat) → Fallible interface Nat
  | 0, _ => pure 0
  | pages + 1, cursor => do
    let (next, keys) ← scan c cursor
    let count ← pruneAll c keys
    if next = 0 then pure count
    else do
      let rest ← sweepFrom c pages next
      pure (count + rest)

/-- Prunes all indexes, provided that the server has at most `pages` pages of them. -/
def sweepAll (c : Client) (pages : Nat) : Fallible interface Nat := sweepFrom c pages 0

end Redis
end SessionAuth
