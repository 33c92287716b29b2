import SessionAuth.Crypto.Sha1
import SessionAuth.Fallible
import SessionAuth.Redis.Reply
import SessionAuth.Settings.Basic
import SessionAuth.Text.Hex
import SessionAuth.Url

/-!
# Talking to a Redis server

An `Exchange` is a conversation with a server: it sends commands and reads replies.  Scripts are run
by their digests; a server that does not know a script is sent its text, and then asked once more.
An operation of a client is an exchange with a name, which its errors tell, and with a time that it
may take as a whole.
-/

set_option autoImplicit false

namespace SessionAuth
namespace Redis

open Text

/-- The words of a command. -/
abbrev Command : Type := List String

/-- A connection to a server.  The answer to a command is none if the time of the operation passes
before the reply comes. -/
abbrev interface : Interface := ⟨Command, fun _ => Option Reply⟩

/-- Why an exchange does not end with a value. -/
inductive Fault where
  /-- The server reports a failure. -/
  | refused (line : String)
  /-- The reply is not of the kind that is wanted. -/
  | unreadable
  | late
  deriving DecidableEq, Repr

/-- Conversations with a server. -/
abbrev Exchange (α : Type) : Type := ExceptT Fault (Program interface) α

variable {α : Type}

/-- The value that a reply stands for. -/
def readReply (read : Reply → Option α) : Option Reply → Except Fault α
  | none => .error .late
  | some r => match r.failure? with
    | some line => .error (.refused line)
    | none => match read r with
      | some a => .ok a
      | none => .error .unreadable

/-- Sends a command and reads its reply. -/
def send (c : Command) (read : Reply → Option α) : Exchange α :=
  .mk (readReply read <$> Program.question (I := interface) c)

/-! ## Scripts -/

/-- A program that a server runs without doing anything else in between. -/
structure Script where
  text : String
  deriving DecidableEq, Repr

/-- The name of a script: the hash of its text, in hexadecimal digits. -/
def Script.digest (s : Script) : String :=
  String.ofList ((Crypto.sha1 s.text.toUTF8.toList).flatMap fun b => Hex.write 2 b.toNat)

/-- The command that runs a script with the given names of keys and further arguments. -/
def Script.command (s : Script) (keys arguments : List String) : Command :=
  "EVALSHA" :: s.digest :: writeNat keys.length :: (keys ++ arguments)

/-- Whether a server says in a failure that it does not know a script. -/
def isUnknownScript (line : String) : Bool :=
  line.toList.takeWhile (· ≠ ' ') = "NOSCRIPT".toList

/-- Runs a script. -/
def Script.invoke (s : Script) (keys arguments : List String) (read : Reply → Option α) :
    Exchange α :=
  tryCatch (send (s.command keys arguments) read) fun fault =>
    match fault with
    | .refused line =>
      if isUnknownScript line then do
        send ["SCRIPT", "LOAD", s.text] fun _ => some ()
        send (s.command keys arguments) read
      else throw (.refused line)
    | fault => throw fault

/-! ## Clients -/

/-- The schemes of addresses of servers that are reached over a network. -/
def networkSchemes : List String := ["redis", "rediss", "valkey", "valkeys"]

/-- The schemes of addresses of servers on the same machine. -/
def localSchemes : List String := ["unix", "redis+unix", "valkey+unix"]

/-- Whether a parameter of an address can be understood; parameters that mean nothing are
ignored. -/
def isParameter (p : String × String) : Bool :=
  match p.1 with
  | "protocol" => ["2", "resp2", "3", "resp3"].contains p.2
  | "db" => (readInt64? p.2).isSome
  | _ => true

/-- Whether the path of an address names no database, or one by its number. -/
def isDatabasePath (path : String) : Bool :=
  let name := (path.toList.dropWhile (· = '/')).reverse.dropWhile (· = '/')
  name.isEmpty || (readInt64? (String.ofList name.reverse)).isSome

/-- Whether a text is the address of a server. -/
def isAddress (s : String) : Bool :=
  match Url.ofText? s with
  | some url => url.query.all isParameter &&
    (localSchemes.contains url.scheme ||
      networkSchemes.contains url.scheme && !url.host.isEmpty && isDatabasePath url.path)
  | none => false

/-- What a client knows. -/
structure Client where
  /-- What all keys begin with. -/
  keyPrefix : String
  /-- How long an operation may take. -/
  timeoutMillis : Nat
  deriving DecidableEq, Repr

namespace Client

/-- The client that the settings ask for. -/
def ofSettings (s : RedisSettings) : Except Error Client :=
  if isAddress s.url then .ok ⟨s.keyPrefix, s.commandTimeoutMillis.toNat⟩
  else .error .redisClient

/-- The key under which an entry is stored. -/
def key (c : Client) (name : String) : String := c.keyPrefix ++ name

/-- What a fault is for those who asked for an operation. -/
def errorOf (c : Client) (operation : String) : Fault → Error
  | .late => .redisTimedOut operation c.timeoutMillis
  | .refused _ | .unreadable => .redisFailed operation

/-- An exchange as an operation of the client. -/
def operation (c : Client) (name : String) (e : Exchange α) : Fallible interface α :=
  .ofProgram (Except.mapError (c.errorOf name) <$> e.run)

end Client
end Redis
end SessionAuth
