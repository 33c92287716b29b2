import SessionAuth.Cache.Basic
import SessionAuth.Event
import SessionAuth.Permission.Grants
import SessionAuth.Session.Store
import SessionAuth.User.Repository

/-!
# What use cases ask of their environment

A use case reads the clock, asks for fresh ids and salts, calls the session store, the repositories
and the cache, publishes events and asks how the database is.  Each of these is one question, so
that the questions of use cases that run at the same time can be answered in any order.
-/

set_option autoImplicit false

namespace SessionAuth
namespace Environment

/-- What the environment is asked. -/
inductive Question where
  /-- The time on the wall clock. -/
  | now
  /-- A fresh id for a session or a token. -/
  | newId
  /-- A fresh salt for a password hash. -/
  | newSalt
  | sessions (q : SessionStore.Question)
  | users (c : UserRepository.Call)
  | grants (c : Grants.Call)
  | cache (c : Cache.Call)
  /-- Publishes an event; the answer is the number of its handlers. -/
  | publish (e : Event)
  /-- Whether the database is well; there may be none. -/
  | databaseHealth

/-- The answers of the environment. -/
abbrev Question.Answer : Question → Type
  | now => Timestamp
  | newId => String
  | newSalt => List UInt8
  | sessions c => Except Error c.Answer
  | users c => Except Error c.Answer
  | grants c => Except Error c.Answer
  | cache c => Except Error c.Answer
  | publish _ => Nat
  | databaseHealth => Option (Except Error Bool)

/-- The environment, as use cases see it. -/
abbrev interface : Interface := ⟨Question, Question.Answer⟩

end Environment

/-- A program that uses the environment and may fail. -/
abbrev UseCase (α : Type) : Type := Fallible Environment.interface α

namespace Environment

/-- Asks a question whose answer is no error. -/
def ask (q : Question) : UseCase q.Answer := ExceptT.lift (.question (I := interface) q)

/-- The time on the wall clock. -/
def now : UseCase Timestamp := ask .now

/-- A fresh id for a session or a token. -/
def newId : UseCase String := ask .newId

/-- A fresh salt for a password hash. -/
def newSalt : UseCase (List UInt8) := ask .newSalt

/-- Publishes an event. -/
def publish (e : Event) : UseCase Nat := ask (.publish e)

/-- Runs a program on the session store. -/
def sessions {α : Type} (p : Fallible SessionStore.interface α) : UseCase α :=
  .ofProgram (p.run.interpret fun c => .question (I := interface) (.sessions c))

/-- Runs a program on the repository of users. -/
def users {α : Type} (p : Fallible UserRepository.interface α) : UseCase α :=
  .ofProgram (p.run.interpret fun c => .question (I := interface) (.users c))

/-- Runs a program on the repository of permissions. -/
def grants {α : Type} (p : Fallible Grants.interface α) : UseCase α :=
  .ofProgram (p.run.interpret fun c => .question (I := interface) (.grants c))

/-- Runs a program on the cache. -/
def cache {α : Type} (p : Fallible Cache.interface α) : UseCase α :=
  .ofProgram (p.run.interpret fun c => .question (I := interface) (.cache c))

end Environment
end SessionAuth
