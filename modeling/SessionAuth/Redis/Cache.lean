import SessionAuth.Cache.Basic
import SessionAuth.Redis.Client

/-!
# The cache in Redis

Texts are kept as strings with a time to live of whole seconds, at least one.
-/

set_option autoImplicit false

namespace SessionAuth
namespace Redis

/-- A time to live in whole seconds. -/
def wholeSeconds (nanos : Nat) : Nat := max 1 (nanos / nanosPerSecond)

/-- The operation that answers a call to the cache. -/
def cacheCall (client : Client) : (c : Cache.Call) → Fallible interface c.Answer
  | .get key => client.operation "GET" (send ["GET", client.key key] Reply.optionalText?)
  | .set key text nanos =>
    client.operation "SETEX"
      (send ["SETEX", client.key key, Text.writeNat (wholeSeconds nanos), text] fun _ => some ())
  | .delete key => client.operation "DEL" (send ["DEL", client.key key] fun _ => some ())
  | .has key => client.operation "EXISTS" (send ["EXISTS", client.key key] Reply.bool?)
  | .isHealthy =>
    client.operation "PING" ((· == "PONG") <$> send ["PING"] Reply.text?)

/-- A program that uses a cache, with the cache in Redis. -/
def withCache {α : Type} (client : Client) (p : Fallible Cache.interface α) :
    Fallible interface α :=
  .ofProgram (p.run.interpret fun c => (cacheCall client c).run)

end Redis
end SessionAuth
