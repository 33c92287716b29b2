import SessionAuth.Redis.Client

/-!
# The scripts of the session store in Redis

Each script is one step of the store.  The two scripts that write records are made from the lists
`createdFields` and `rotatedFields`, which name the fields that are written and the arguments that
they are written from; `writtenBy` tells what a script writes when it is run with some arguments.

A script is given the keys of what it changes, as far as they are known beforehand.  The others it
makes itself, from the beginning of a key and what a record says: `rotatedIndex`, `deletedIndex` and
`deletedPointer` tell which argument and which field they are made from.
-/

set_option autoImplicit false

namespace SessionAuth
namespace Redis

open Text

/-- An argument as scripts refer to it, by its number. -/
def argumentText (n : Nat) : String := "ARGV[" ++ writeNat n ++ "]"

/-- The argument with a number; the first one has the number one. -/
def argument (arguments : List String) (n : Nat) : String := arguments.getD (n - 1) ""

/-- Fields of a record with the numbers of the arguments that are written into them, in lines. -/
abbrev FieldLines : Type := List (List (String × Nat))

/-- The field and the argument of a line as a script writes them. -/
def fieldText (field : String × Nat) : String :=
  "'" ++ field.1 ++ "', " ++ argumentText field.2

/-- The call of a script that writes fields of the record under a key. -/
def writeFields (key : String) (lines : FieldLines) : String :=
  "redis.call('HSET', " ++ key ++ ",\n  " ++
    ",\n  ".intercalate (lines.map fun line => ", ".intercalate (line.map fieldText)) ++ ")\n"

/-- The fields and texts that a script writes when it is run with some arguments. -/
def writtenBy (lines : FieldLines) (arguments : List String) : List (String × String) :=
  lines.flatten.map fun field => (field.1, argument arguments field.2)

/-- A key that a script makes from a record: it begins with an argument, and a field of the record
comes after it. -/
structure MadeKey where
  /-- The number of the argument. -/
  start : Nat
  field : String
  deriving DecidableEq, Repr

/-- The key that is made when a script is run with some arguments, if the record has the field. -/
def MadeKey.key? (k : MadeKey) (arguments : List String) (record : Table String String) :
    Option String :=
  (record.get? k.field).map fun value => argument arguments k.start ++ value

/-! ## Creating -/

/-- What is written into the record of a new session. -/
def createdFields : FieldLines :=
  [[("id", 1), ("user_id", 2), ("device", 3), ("ip", 4)],
    [("created_at", 5), ("updated_at", 6), ("expires_at", 7)],
    [("current_jti", 8)]]

/-- Writes the record, the pointer and the entry in the index of a new session.  The keys are those
of the record, of the pointer and of the index. -/
def createScript : Script where
  text :=
    "\nlocal session_ttl = tonumber(ARGV[9])\nlocal jti_ttl = tonumber(ARGV[10])\n\n" ++
    writeFields "KEYS[1]" createdFields ++
    "redis.call('EXPIRE', KEYS[1], session_ttl)\n" ++
    "redis.call('SET', KEYS[2], KEYS[1], 'EX', jti_ttl)\n" ++
    "redis.call('SADD', KEYS[3], KEYS[1])\n" ++
    "if redis.call('TTL', KEYS[3]) < session_ttl then\n" ++
    "  redis.call('EXPIRE', KEYS[3], session_ttl)\n" ++
    "end\n" ++
    "return 1\n"

/-! ## Rotating -/

/-- What is written into the record of a session that is carried on. -/
def rotatedFields : FieldLines :=
  [[("current_jti", 1), ("ip", 2), ("device", 3)], [("updated_at", 4), ("expires_at", 5)]]

/-- The index of the user of a session that is carried on. -/
def rotatedIndex : MadeKey := ⟨8, "user_id"⟩

/-- Takes a pointer away and carries on the session to which it led.  The keys are those of the old
and the new pointer; the last argument is the beginning of the keys of the indexes.  The result is
one and the id of the session, or zero and a reason. -/
def rotateScript : Script where
  text :=
    "\nlocal session_key = redis.call('GET', KEYS[1])\n" ++
    "if not session_key then\n" ++
    "  return \x7b0, 'unknown_jti'\x7d\n" ++
    "end\n" ++
    "if redis.call('DEL', KEYS[1]) == 0 then\n" ++
    "  return \x7b0, 'already_used'\x7d\n" ++
    "end\n" ++
    "if redis.call('EXISTS', session_key) == 0 then\n" ++
    "  return \x7b0, 'session_gone'\x7d\n" ++
    "end\n\n" ++
    "local session_ttl = tonumber(ARGV[6])\nlocal jti_ttl = tonumber(ARGV[7])\n\n" ++
    "redis.call('SET', KEYS[2], session_key, 'EX', jti_ttl)\n" ++
    writeFields "session_key" rotatedFields ++
    "redis.call('EXPIRE', session_key, session_ttl)\n\n" ++
    "local user_id = redis.call('HGET', session_key, '" ++ rotatedIndex.field ++ "')\n" ++
    "if user_id then\n" ++
    "  local index_key = " ++ argumentText rotatedIndex.start ++ " .. user_id\n" ++
    "  if redis.call('TTL', index_key) < session_ttl then\n" ++
    "    redis.call('EXPIRE', index_key, session_ttl)\n" ++
    "  end\n" ++
    "end\n" ++
    "return \x7b1, redis.call('HGET', session_key, 'id')\x7d\n"

/-! ## Deleting, listing and pruning -/

/-- The index of the user of a session that is deleted. -/
def deletedIndex : MadeKey := ⟨1, "user_id"⟩

/-- The pointer to a session that is deleted. -/
def deletedPointer : MadeKey := ⟨2, "current_jti"⟩

/-- Deletes records with their pointers and their entries in the indexes.  The keys are those of the
records; the arguments are the beginnings of the keys of the indexes and of the pointers. -/
def deleteScript : Script where
  text :=
    "\nlocal removed = 0\n" ++
    "for _, session_key in ipairs(KEYS) do\n" ++
    "  local fields = redis.call('HMGET', session_key, '" ++ deletedIndex.field ++ "', '" ++
    deletedPointer.field ++ "')\n" ++
    "  if fields[1] then\n" ++
    "    redis.call('SREM', " ++ argumentText deletedIndex.start ++ " .. fields[1], session_key)\n" ++
    "  end\n" ++
    "  if fields[2] then\n" ++
    "    redis.call('DEL', " ++ argumentText deletedPointer.start ++ " .. fields[2])\n" ++
    "  end\n" ++
    "  removed = removed + redis.call('DEL', session_key)\n" ++
    "end\n" ++
    "return removed\n"

/-- The records that an index names. -/
def listScript : Script where
  text :=
    "\nlocal sessions = \x7b\x7d\n" ++
    "for _, session_key in ipairs(redis.call('SMEMBERS', KEYS[1])) do\n" ++
    "  local fields = redis.call('HGETALL', session_key)\n" ++
    "  if #fields > 0 then\n" ++
    "    table.insert(sessions, fields)\n" ++
    "  end\n" ++
    "end\n" ++
    "return sessions\n"

/-- Drops the sessions that are gone from an index. -/
def pruneScript : Script where
  text :=
    "\nlocal removed = 0\n" ++
    "for _, session_key in ipairs(redis.call('SMEMBERS', KEYS[1])) do\n" ++
    "  if redis.call('EXISTS', session_key) == 0 then\n" ++
    "    removed = removed + redis.call('SREM', KEYS[1], session_key)\n" ++
    "  end\n" ++
    "end\n" ++
    "return removed\n"

end Redis
end SessionAuth
