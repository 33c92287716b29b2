import SessionAuth.Collection.Table
import SessionAuth.Text.Decimal

/-!
# Replies of a Redis server

A `Reply` is what a server says to a command.  Values are read from replies with some latitude:
numbers also from their decimal texts, texts also from numbers, a list also from nothing, and a
table from a list that names and values take turns in.
-/

set_option autoImplicit false

namespace SessionAuth
namespace Redis

open Text

/-- What a server says to a command. -/
inductive Reply where
  | nil
  | integer (i : Int)
  /-- A text with a length in front. -/
  | bulk (s : String)
  /-- A line that reports success. -/
  | status (s : String)
  | list (items : List Reply)
  /-- A line that reports a failure. -/
  | failure (line : String)
  deriving Inhabited

namespace Reply

mutual

/-- The first failure that a reply reports, at any depth. -/
def failure? : Reply → Option String
  | failure line => some line
  | list items => firstFailure? items
  | _ => none

/-- The first failure that one of several replies reports. -/
def firstFailure? : List Reply → Option String
  | [] => none
  | r :: rs => r.failure?.or (firstFailure? rs)

end

/-! ## Reading values -/

/-- The integer of sixty-four bits that a reply stands for. -/
def integer? : Reply → Option Int
  | integer i => some i
  | bulk s | status s => readInt64? s
  | _ => none

/-- The natural number below `2 ^ 64` that a reply stands for; an integer below zero is taken modulo
`2 ^ 64`. -/
def count? : Reply → Option Nat
  | integer i => some (i % UInt64.size).toNat
  | bulk s | status s => (readNat? s).filter (· < UInt64.size)
  | _ => none

/-- The truth value that a reply stands for. -/
def bool? : Reply → Option Bool
  | nil => some false
  | integer i => some (i != 0)
  | bulk s => [("1", true), ("0", false)].lookup s
  | status s => [("1", true), ("0", false), ("OK", true)].lookup s
  | _ => none

/-- The text that a reply stands for. -/
def text? : Reply → Option String
  | bulk s | status s => some s
  | integer i => some (writeInt i)
  | _ => none

/-- The text that a reply stands for, if there is one. -/
def optionalText? : Reply → Option (Option String)
  | nil => some none
  | r => r.text?.map some

/-- The list that a reply stands for, whose items are read with `item?`; a lone text is a list of
one item. -/
def list? {α : Type} (item? : Reply → Option α) : Reply → Option (List α)
  | nil => some []
  | list items => items.mapM item?
  | bulk s => (item? (bulk s)).map fun a => [a]
  | _ => none

/-- The entries of a list in which names and values take turns. -/
def entries? : List Reply → Option (List (String × String))
  | [] => some []
  | [_] => none
  | name :: value :: rest => do
    let name ← name.text?
    let value ← value.text?
    let rest ← entries? rest
    pure ((name, value) :: rest)

/-- The table that a reply stands for; of several values of one name the last one counts. -/
def table? : Reply → Option (Table String String)
  | nil => some .empty
  | list items => (entries? items).map fun es => es.foldl (fun t e => t.set e.1 e.2) .empty
  | _ => none

/-- The two values that a list of two items stands for. -/
def pair? {α β : Type} (first? : Reply → Option α) (second? : Reply → Option β) :
    Reply → Option (α × β)
  | list [a, b] => do
    let a ← first? a
    let b ← second? b
    pure (a, b)
  | _ => none

end Reply
end Redis
end SessionAuth
