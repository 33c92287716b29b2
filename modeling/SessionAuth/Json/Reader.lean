import SessionAuth.Json.Basic

/-!
# Reading JSON

The reader is a machine that is run over a text one character at a time.  Its state is what it
expects next, together with the stack of lists and objects that are open.  At the end of the text,
or at the first character that JSON does not allow, it closes what is open: `read` gives the value
read so far, with `Json.cut` at the place where the text stopped being JSON.
-/

set_option autoImplicit false

namespace SessionAuth
namespace Json

open Text

/-- Where the text of a string literal goes. -/
inductive Target where
  | key
  | value

/-- An open list or object with what it holds so far, the last item first. -/
inductive Frame where
  | items (read : List Json)
  | members (read : List (String × Json))
  /-- An object that waits for the value of a key. -/
  | member (read : List (String × Json)) (key : String)

/-- The part of a number that is being read. -/
inductive NumberPart where
  | sign | zero | whole | point | fraction | mark | exponentSign | exponent
  deriving DecidableEq

/-- A number that is being read: its sign, digits, the count of those after the point, and its
exponent. -/
structure PartialNumber where
  part : NumberPart
  negative : Bool
  digits : Nat
  scale : Nat
  exponentNegative : Bool
  exponent : Nat

/-- The content of a string literal that is being read: its characters, the last one first and
`none` once they are no text, and a leading surrogate that waits for a trailing one. -/
structure PartialString where
  target : Target
  chars : Option (List Char)
  leading : Option Nat

/-- What the reader expects next. -/
inductive Mode where
  | value
  /-- A value, or the end of an empty list. -/
  | firstItem
  | afterItem
  /-- A key, or the end of an empty object. -/
  | firstKey
  | nextKey
  | afterKey
  | afterMember
  /-- The rest of `true`, `false` or `null`. -/
  | literal (rest : List Char) (result : Json)
  | number (n : PartialNumber)
  | string (s : PartialString)
  | escape (s : PartialString)
  /-- A number of hexadecimal digits, after those that stand for `unit`. -/
  | unicode (s : PartialString) (left unit : Nat)

/-- The state of the reader. -/
inductive State where
  | reading (mode : Mode) (stack : List Frame)
  /-- A whole value was read. -/
  | done (v : Json)
  /-- The text is no JSON; `followed` tells a whole value with something behind it. -/
  | stopped (v : Json) (followed : Bool)

/-- The blank characters of JSON. -/
def isSpace (c : Char) : Bool := c = ' ' || c = '\t' || c = '\n' || c = '\r'

/-- Closes the open lists and objects around a value. -/
def close (v : Json) : List Frame → Json
  | [] => v
  | .items read :: stack => close (.arr (v :: read).reverse) stack
  | .members read :: stack => close (.obj (("", v) :: read).reverse) stack
  | .member read key :: stack => close (.obj ((key, v) :: read).reverse) stack

/-- The text is no JSON at this place. -/
def stop (stack : List Frame) : State := .stopped (close .cut stack) false

/-- A value was read. -/
def deliver (v : Json) : List Frame → State
  | [] => .done v
  | .items read :: stack => .reading .afterItem (.items (v :: read) :: stack)
  | .members read :: stack => stop (.members read :: stack)
  | .member read key :: stack => .reading .afterMember (.members ((key, v) :: read) :: stack)

/-- The first character of a value. -/
def beginValue (c : Char) (stack : List Frame) : State :=
  if c = '"' then .reading (.string ⟨.value, some [], none⟩) stack
  else if c = '[' then .reading .firstItem (.items [] :: stack)
  else if c = '{' then .reading .firstKey (.members [] :: stack)
  else if c = 't' then .reading (.literal ['r', 'u', 'e'] (.bool true)) stack
  else if c = 'f' then .reading (.literal ['a', 'l', 's', 'e'] (.bool false)) stack
  else if c = 'n' then .reading (.literal ['u', 'l', 'l'] .null) stack
  else if c = '-' then .reading (.number ⟨.sign, true, 0, 0, false, 0⟩) stack
  else if c = '0' then .reading (.number ⟨.zero, false, 0, 0, false, 0⟩) stack
  else match digitValue? c with
    | some d => .reading (.number ⟨.whole, false, d, 0, false, 0⟩) stack
    | none => stop stack

/-- The value of a number that may end here. -/
def PartialNumber.result? (n : PartialNumber) : Option Json :=
  let mantissa : Int := if n.negative then -(n.digits : Int) else n.digits
  let exponent : Int := if n.exponentNegative then -(n.exponent : Int) else n.exponent
  match n.part with
  | .zero => some (if n.negative then .real 0 0 else .int 0)
  | .whole => some (.int mantissa)
  | .fraction => some (.real mantissa (-(n.scale : Int)))
  | .exponent => some (.real mantissa (exponent - n.scale))
  | _ => none

/-- The number with one more character, if it goes on with that character. -/
def PartialNumber.next? (n : PartialNumber) (c : Char) : Option PartialNumber :=
  match n.part, digitValue? c with
  | .sign, some d => some { n with part := if d = 0 then .zero else .whole, digits := d }
  | .whole, some d => some { n with digits := n.digits * 10 + d }
  | .point, some d => some { n with part := .fraction, digits := n.digits * 10 + d, scale := 1 }
  | .fraction, some d => some { n with digits := n.digits * 10 + d, scale := n.scale + 1 }
  | .mark, some d => some { n with part := .exponent, exponent := d }
  | .exponentSign, some d => some { n with part := .exponent, exponent := d }
  | .exponent, some d => some { n with exponent := n.exponent * 10 + d }
  | .mark, none =>
    if c = '+' then some { n with part := .exponentSign }
    else if c = '-' then some { n with part := .exponentSign, exponentNegative := true }
    else none
  | .zero, none | .whole, none =>
    if c = '.' then some { n with part := .point }
    else if c = 'e' ∨ c = 'E' then some { n with part := .mark }
    else none
  | .fraction, none => if c = 'e' ∨ c = 'E' then some { n with part := .mark } else none
  | _, _ => none

/-- The string with one more character. -/
def PartialString.push (s : PartialString) (c : Char) : PartialString :=
  match s.leading with
  | none => { s with chars := s.chars.map (c :: ·) }
  | some _ => { s with chars := none, leading := none }

/-- The string with one more unit of sixteen bits. -/
def PartialString.pushUnit (s : PartialString) (unit : Nat) : PartialString :=
  let isLeading := 0xD800 ≤ unit ∧ unit < 0xDC00
  let isTrailing := 0xDC00 ≤ unit ∧ unit < 0xE000
  match s.leading with
  | none =>
    if isLeading then { s with leading := some unit }
    else if isTrailing then { s with chars := none }
    else s.push (Char.ofNat unit)
  | some lead =>
    if isTrailing then
      { s with
        chars := s.chars.map (Char.ofNat (0x10000 + (lead - 0xD800) * 0x400 + (unit - 0xDC00)) :: ·)
        leading := none }
    else { s with chars := none, leading := none }

/-- The character after a backslash that stands for one character. -/
def unescape? (c : Char) : Option Char :=
  if c = '"' then some '"'
  else if c = '\\' then some '\\'
  else if c = '/' then some '/'
  else if c = 'b' then some (Char.ofNat 8)
  else if c = 'f' then some (Char.ofNat 12)
  else if c = 'n' then some '\n'
  else if c = 'r' then some '\r'
  else if c = 't' then some '\t'
  else none

/-- A string literal ends. -/
def PartialString.finish (s : PartialString) (stack : List Frame) : State :=
  let text := if s.leading.isSome then none else s.chars.map fun cs => String.ofList cs.reverse
  match s.target, text with
  | .value, some t => deliver (.str t) stack
  | .value, none => deliver .unpaired stack
  | .key, some t =>
    match stack with
    | .members read :: rest => .reading .afterKey (.member read t :: rest)
    | _ => stop stack
  | .key, none => stop stack

/-- One character where a value has ended. -/
def afterValue (c : Char) : State → State
  | .reading .afterItem (.items read :: stack) =>
    if isSpace c then .reading .afterItem (.items read :: stack)
    else if c = ',' then .reading .value (.items read :: stack)
    else if c = ']' then deliver (.arr read.reverse) stack
    else stop (.items read :: stack)
  | .reading .afterMember (.members read :: stack) =>
    if isSpace c then .reading .afterMember (.members read :: stack)
    else if c = ',' then .reading .nextKey (.members read :: stack)
    else if c = '}' then deliver (.obj read.reverse) stack
    else stop (.members read :: stack)
  | .done v => if isSpace c then .done v else .stopped v true
  | s => s

/-- One character of the text. -/
def step : State → Char → State
  | .reading .value stack, c => if isSpace c then .reading .value stack else beginValue c stack
  | .reading .firstItem stack, c =>
    if isSpace c then .reading .firstItem stack
    else match stack, c with
      | .items [] :: rest, ']' => deliver (.arr []) rest
      | _, _ => beginValue c stack
  | .reading .firstKey stack, c =>
    if isSpace c then .reading .firstKey stack
    else if c = '"' then .reading (.string ⟨.key, some [], none⟩) stack
    else match stack, c with
      | .members [] :: rest, '}' => deliver (.obj []) rest
      | _, _ => stop stack
  | .reading .nextKey stack, c =>
    if isSpace c then .reading .nextKey stack
    else if c = '"' then .reading (.string ⟨.key, some [], none⟩) stack
    else stop stack
  | .reading .afterKey stack, c =>
    if isSpace c then .reading .afterKey stack
    else if c = ':' then .reading .value stack
    else stop stack
  | .reading (.literal [] result) stack, c => afterValue c (deliver result stack)
  | .reading (.literal (r :: rest) result) stack, c =>
    if c = r then
      match rest with
      | [] => deliver result stack
      | _ => .reading (.literal rest result) stack
    else stop stack
  | .reading (.number n) stack, c =>
    match n.next? c with
    | some n => .reading (.number n) stack
    | none =>
      match n.result? with
      | some v => if (digitValue? c).isSome then stop stack else afterValue c (deliver v stack)
      | none => stop stack
  | .reading (.string s) stack, c =>
    if c = '"' then s.finish stack
    else if c = '\\' then .reading (.escape s) stack
    else if c.toNat < 0x20 then stop stack
    else .reading (.string (s.push c)) stack
  | .reading (.escape s) stack, c =>
    if c = 'u' then .reading (.unicode s 4 0) stack
    else match unescape? c with
      | some c => .reading (.string (s.push c)) stack
      | none => stop stack
  | .reading (.unicode s left unit) stack, c =>
    match Hex.value? c with
    | some d =>
      if left ≤ 1 then .reading (.string (s.pushUnit (unit * 16 + d))) stack
      else .reading (.unicode s (left - 1) (unit * 16 + d)) stack
    | none => stop stack
  | s, c => afterValue c s

/-- What was read from a text: its value, and whether something other than blanks follows it. -/
structure Document where
  value : Json
  followed : Bool

/-- The end of the text. -/
def State.finish : State → Document
  | .reading (.number n) stack =>
    match n.result? with
    | some v =>
      match stack with
      | [] => ⟨v, false⟩
      | _ => ⟨close .cut (match deliver v stack with
        | .reading _ stack => stack
        | _ => stack), false⟩
    | none => ⟨close .cut stack, false⟩
  | .reading _ stack => ⟨close .cut stack, false⟩
  | .done v => ⟨v, false⟩
  | .stopped v followed => ⟨v, followed⟩

/-- The reader after a text. -/
def run (s : State) (cs : List Char) : State := cs.foldl step s

/-- Reads a text. -/
def read (cs : List Char) : Document := (run (.reading .value []) cs).finish

/-- The value of a text that is JSON to its end. -/
def parse? (s : String) : Option Json :=
  let doc := read s.toList
  if doc.followed || !doc.value.isComplete then none else some doc.value

end Json
end SessionAuth
