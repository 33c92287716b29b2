import SessionAuth.Text.Decimal
import SessionAuth.Text.Hex

/-!
# JSON values and their text

`Json` is a JSON value, with two additions that only the reader makes.  A string literal with an
unpaired surrogate escape stands for no text; it is harmless where nobody asks for its text.  And a
text may stop being JSON somewhere: what was read before that place is kept, with `cut` at the place
itself, so that a decoder can meet its own objections in the order in which the text gives rise to
them.  `isComplete` says that a value has no such place.

Values are written without blanks, members in the order they are given.
-/

set_option autoImplicit false

namespace SessionAuth

/-- A JSON value. -/
inductive Json where
  | null
  | bool (b : Bool)
  /-- A number without a fraction and an exponent. -/
  | int (i : Int)
  /-- Any other number, as `mantissa * 10 ^ exponent`.  The number written `-0` is one of them. -/
  | real (mantissa exponent : Int)
  | str (s : String)
  /-- A string literal that stands for no text. -/
  | unpaired
  | arr (items : List Json)
  | obj (members : List (String × Json))
  /-- The place where a text stops being JSON. -/
  | cut
  deriving Inhabited

namespace Json

open Text

mutual

/-- Whether the text of a value was JSON to its end. -/
def isComplete : Json → Bool
  | cut => false
  | arr items => itemsComplete items
  | obj members => membersComplete members
  | _ => true

def itemsComplete : List Json → Bool
  | [] => true
  | v :: vs => v.isComplete && itemsComplete vs

def membersComplete : List (String × Json) → Bool
  | [] => true
  | (_, v) :: ms => v.isComplete && membersComplete ms

end

mutual

/-- The number of lists and objects that a value nests. -/
def depth : Json → Nat
  | arr items => itemsDepth items + 1
  | obj members => membersDepth members + 1
  | _ => 0

def itemsDepth : List Json → Nat
  | [] => 0
  | v :: vs => max v.depth (itemsDepth vs)

def membersDepth : List (String × Json) → Nat
  | [] => 0
  | (_, v) :: ms => max v.depth (membersDepth ms)

end

/-- The written form of a character inside a string literal. -/
def escape (c : Char) : List Char :=
  if c = '"' then ['\\', '"']
  else if c = '\\' then ['\\', '\\']
  else if 0x20 ≤ c.toNat then [c]
  else if c.toNat = 8 then ['\\', 'b']
  else if c.toNat = 9 then ['\\', 't']
  else if c.toNat = 10 then ['\\', 'n']
  else if c.toNat = 12 then ['\\', 'f']
  else if c.toNat = 13 then ['\\', 'r']
  else '\\' :: 'u' :: Hex.write 4 c.toNat

/-- The string literal of a text. -/
def quote (s : String) : List Char := '"' :: (s.toList.flatMap escape ++ ['"'])

mutual

/-- The text of a value. -/
def render : Json → List Char
  | null => "null".toList
  | bool true => "true".toList
  | bool false => "false".toList
  | int i => (writeInt i).toList
  | real m e => (writeInt m).toList ++ 'e' :: (writeInt e).toList
  | str s => quote s
  | unpaired => "\"\\ud800\"".toList
  | arr [] => ['[', ']']
  | arr (v :: vs) => '[' :: (v.render ++ renderItems vs)
  | obj [] => ['{', '}']
  | obj ((k, v) :: ms) => '{' :: (quote k ++ ':' :: (v.render ++ renderMembers ms))
  | cut => []

/-- The text of the items of a list that follow the first. -/
def renderItems : List Json → List Char
  | [] => [']']
  | v :: vs => ',' :: (v.render ++ renderItems vs)

/-- The text of the members of an object that follow the first. -/
def renderMembers : List (String × Json) → List Char
  | [] => ['}']
  | (k, v) :: ms => ',' :: (quote k ++ ':' :: (v.render ++ renderMembers ms))

end

/-- The text of a value. -/
def compress (v : Json) : String := String.ofList v.render

/-- The value of a natural number. -/
def nat (n : Nat) : Json := int n

/-- The value of a text that may be absent. -/
def strOrNull : Option String → Json
  | some s => str s
  | none => null

end Json
end SessionAuth
