import SessionAuth.Settings.Value
import SessionAuth.Text.Hex

/-!
# TOML

A configuration file is a TOML document: lines `key = value` under headers of tables.  Reading keeps
track of how each table came to be, since a table may be opened by one header only, and neither a
header nor a key may reach into a value.
-/

set_option autoImplicit false

namespace SessionAuth
namespace Settings
namespace Toml

open Text

/-! ## Documents under construction -/

/-- How a table came to be. -/
inductive Origin where
  /-- By a header of a table inside it. -/
  | implied
  /-- By its own header. -/
  | header
  /-- By a dotted key. -/
  | dotted
  deriving DecidableEq

/-- A part of a document. -/
inductive Node where
  | value (v : Value)
  | table (origin : Origin) (members : List (String × Node))
  /-- Tables with one header, the last one first. -/
  | tables (all : List (List (String × Node)))
  deriving Inhabited

/-- The members of a table. -/
abbrev Members := List (String × Node)

def setNode (key : String) (n : Node) : Members → Members
  | [] => [(key, n)]
  | (k, m) :: ms => if k = key then (k, n) :: ms else (k, m) :: setNode key n ms

/-- Opens the table that a header names; `many` tells a header of one of several tables. -/
def openTable (many : Bool) : List String → Members → Option Members
  | [], _ => none
  | [k], ms =>
    match ms.lookup k, many with
    | none, false => some (setNode k (.table .header []) ms)
    | none, true => some (setNode k (.tables [[]]) ms)
    | some (.table .implied sub), false => some (setNode k (.table .header sub) ms)
    | some (.tables all), true => some (setNode k (.tables ([] :: all)) ms)
    | _, _ => none
  | k :: ks, ms =>
    match ms.lookup k with
    | none => (openTable many ks []).map fun sub => setNode k (.table .implied sub) ms
    | some (.table origin sub) =>
      (openTable many ks sub).map fun sub => setNode k (.table origin sub) ms
    | some (.tables (last :: before)) =>
      (openTable many ks last).map fun sub => setNode k (.tables (sub :: before)) ms
    | _ => none

/-- Changes the table that is open. -/
def changeOpen (change : Members → Option Members) : List String → Members → Option Members
  | [], ms => change ms
  | k :: ks, ms =>
    match ms.lookup k with
    | some (.table origin sub) =>
      (changeOpen change ks sub).map fun sub => setNode k (.table origin sub) ms
    | some (.tables (last :: before)) =>
      (changeOpen change ks last).map fun sub => setNode k (.tables (sub :: before)) ms
    | _ => none

/-- Puts a value under a key, which may be dotted. -/
def putValue (v : Value) : List String → Members → Option Members
  | [], _ => none
  | [k], ms => if (ms.lookup k).isNone then some (setNode k (.value v) ms) else none
  | k :: ks, ms =>
    match ms.lookup k with
    | none => (putValue v ks []).map fun sub => setNode k (.table .dotted sub) ms
    | some (.table .dotted sub) =>
      (putValue v ks sub).map fun sub => setNode k (.table .dotted sub) ms
    | _ => none

mutual

/-- The value of a part of a document. -/
def Node.toValue : Node → Value
  | .value v => v
  | .table _ ms => .table (membersToValues ms)
  | .tables all => .list (tablesToValues all).reverse

def membersToValues : List (String × Node) → List (String × Value)
  | [] => []
  | (k, n) :: ms => (k, n.toValue) :: membersToValues ms

def tablesToValues : List (List (String × Node)) → List Value
  | [] => []
  | ms :: rest => .table (membersToValues ms) :: tablesToValues rest

end

/-! ## Texts and keys -/

/-- What is read, and the rest of the text. -/
abbrev Reading (α : Type) := Option (α × List Char)

def isTomlSpace (c : Char) : Bool := c = ' ' || c = '\t'

def skipSpace (cs : List Char) : List Char := cs.dropWhile isTomlSpace

/-- Whether a character may not stand in a text or comment. -/
def isControl (c : Char) : Bool := (c.toNat < 0x20 && c != '\t') || c.toNat = 0x7F

/-- The rest after the end of a line. -/
def lineEnd? : List Char → Option (List Char)
  | '\n' :: cs => some cs
  | '\r' :: '\n' :: cs => some cs
  | _ => none

/-- A character written by its number in `width` hexadecimal digits. -/
def readCode (width : Nat) (cs : List Char) : Reading Char :=
  if width ≤ cs.length then
    (Hex.read? (cs.take width)).bind fun n =>
      if n < 0xD800 ∨ (0xE000 ≤ n ∧ n < 0x110000) then some (Char.ofNat n, cs.drop width) else none
  else none

/-- What follows a backslash. -/
def readEscape : List Char → Reading Char
  | 'b' :: cs => some (Char.ofNat 8, cs)
  | 't' :: cs => some ('\t', cs)
  | 'n' :: cs => some ('\n', cs)
  | 'f' :: cs => some (Char.ofNat 12, cs)
  | 'r' :: cs => some ('\r', cs)
  | '"' :: cs => some ('"', cs)
  | '\\' :: cs => some ('\\', cs)
  | 'u' :: cs => readCode 4 cs
  | 'U' :: cs => readCode 8 cs
  | _ => none

/-- The rest of a text in double quotes. -/
def readBasic : Nat → List Char → List Char → Reading String
  | 0, _, _ => none
  | fuel + 1, read, cs =>
    match cs with
    | '"' :: rest => some (String.ofList read.reverse, rest)
    | '\\' :: rest => (readEscape rest).bind fun (c, rest) => readBasic fuel (c :: read) rest
    | c :: rest => if isControl c then none else readBasic fuel (c :: read) rest
    | [] => none

/-- The rest of a text in single quotes. -/
def readLiteral : List Char → List Char → Reading String
  | read, '\'' :: rest => some (String.ofList read.reverse, rest)
  | read, c :: rest => if isControl c then none else readLiteral (c :: read) rest
  | _, [] => none

/-- The quotes at the end of a text of several lines: three close it, and up to two more belong to
it. -/
def closeLong (quote : Char) (cs : List Char) : Option (List Char × List Char) :=
  let n := (cs.takeWhile (· = quote)).length
  if 3 ≤ n then some (List.replicate (min n 5 - 3) quote, cs.drop (min n 5)) else none

/-- The rest of a text of several lines; `escapes` tells whether a backslash is special. -/
def readLong (quote : Char) (escapes : Bool) : Nat → List Char → List Char → Reading String
  | 0, _, _ => none
  | fuel + 1, read, cs =>
    match closeLong quote cs with
    | some (more, rest) => some (String.ofList (read.reverse ++ more), rest)
    | none =>
      match lineEnd? cs with
      | some rest => readLong quote escapes fuel ('\n' :: read) rest
      | none =>
        match cs with
        | '\\' :: rest =>
          if escapes then
            match lineEnd? (skipSpace rest) with
            | some after => readLong quote escapes fuel read (after.dropWhile fun c =>
                isTomlSpace c || c = '\n' || c = '\r')
            | none =>
              (readEscape rest).bind fun (c, rest) => readLong quote escapes fuel (c :: read) rest
          else readLong quote escapes fuel ('\\' :: read) rest
        | c :: rest => if isControl c then none else readLong quote escapes fuel (c :: read) rest
        | [] => none

/-- A text without the end of a line at its start. -/
def skipLineEnd (cs : List Char) : List Char := (lineEnd? cs).getD cs

/-- A text in quotes of any kind. -/
def readText (cs : List Char) : Reading String :=
  match cs with
  | '"' :: '"' :: '"' :: rest => readLong '"' true (rest.length + 1) [] (skipLineEnd rest)
  | '\'' :: '\'' :: '\'' :: rest => readLong '\'' false (rest.length + 1) [] (skipLineEnd rest)
  | '"' :: rest => readBasic (rest.length + 1) [] rest
  | '\'' :: rest => readLiteral [] rest
  | _ => none

/-- Whether a character may stand in a key without quotes. -/
def isBareChar (c : Char) : Bool := c.isAlphanum || c = '_' || c = '-'

/-- One part of a key. -/
def readSimpleKey (cs : List Char) : Reading String :=
  match cs with
  | '"' :: rest => readBasic (rest.length + 1) [] rest
  | '\'' :: rest => readLiteral [] rest
  | _ =>
    let key := cs.takeWhile isBareChar
    if key.isEmpty then none else some (String.ofList key, cs.dropWhile isBareChar)

/-- A key, as the list of its parts. -/
def readKey : Nat → List Char → Reading (List String)
  | 0, _ => none
  | fuel + 1, cs =>
    (readSimpleKey (skipSpace cs)).bind fun (k, rest) =>
      match skipSpace rest with
      | '.' :: rest => (readKey fuel rest).map fun (ks, rest) => (k :: ks, rest)
      | rest => some ([k], rest)

/-! ## Values -/

/-- Digits with single underscores between them. -/
def plainDigits? (cs : List Char) : Option (List Char) :=
  let parts := split '_' cs
  if parts.all fun p => !p.isEmpty && p.all fun c => (Hex.value? c).isSome then some parts.flatten
  else none

/-- The number that digits of a base below seventeen write. -/
def readBase? (base : Nat) (cs : List Char) : Option Int := do
  let ds ← (← plainDigits? cs).mapM Hex.value?
  if ds.all (· < base) then
    let n : Int := (ds.foldl (fun n d => n * base + d) 0 : Nat)
    if n ≤ maxInt64 then some n else none
  else none

/-- Whether digits may begin a decimal number. -/
def isDecimalStart (cs : List Char) : Bool :=
  match cs with
  | '0' :: _ :: _ => false
  | _ => true

/-- An integer without a base. -/
def readDecimal? (negative : Bool) (cs : List Char) : Option Int := do
  let ds ← plainDigits? cs
  let n ← readDigits? ds
  let i : Int := if negative then -(n : Int) else n
  if isDecimalStart ds ∧ minInt64 ≤ i ∧ i ≤ maxInt64 then some i else none

/-- A number with a fraction or an exponent. -/
def readReal? (negative : Bool) (cs : List Char) : Option Floating := do
  let mantissa := cs.takeWhile fun c => c != 'e' && c != 'E'
  let mark := cs.dropWhile fun c => c != 'e' && c != 'E'
  let (whole, fraction) := match cutFirst '.' mantissa with
    | some (whole, fraction) => (whole, some fraction)
    | none => (mantissa, none)
  let isDecimal (ds : List Char) : Bool := ds.all fun c => (digitValue? c).isSome
  let whole ← (plainDigits? whole).filter isDecimal
  let fraction ← match fraction with
    | some fraction => (plainDigits? fraction).filter isDecimal
    | none => some []
  let exponent ← match mark with
    | [] => if mantissa.contains '.' then some [] else none
    | _ :: '-' :: ds => ((plainDigits? ds).filter isDecimal).map fun ds => '-' :: ds
    | _ :: '+' :: ds => (plainDigits? ds).filter isDecimal
    | _ :: ds => (plainDigits? ds).filter isDecimal
  if isDecimalStart whole then
    let text := whole ++ '.' :: fraction ++ (if mark.isEmpty then [] else 'e' :: exponent)
    Floating.readUnsigned? negative text
  else none

/-- Whether a text has the form of a pattern, in which `0` stands for a digit. -/
def hasForm : List Char → List Char → Bool
  | [], [] => true
  | p :: ps, c :: cs => (if p = '0' then (digitValue? c).isSome else p = c) && hasForm ps cs
  | _, _ => false

/-- The text of a time of the day, with an offset where there may be one. -/
def isTime (offset : Bool) (cs : List Char) : Bool :=
  hasForm "00:00:00".toList (cs.take 8) &&
    let rest := cs.drop 8
    let rest := match rest with
      | '.' :: ds => if (ds.takeWhile Char.isDigit).isEmpty then rest else ds.dropWhile Char.isDigit
      | _ => rest
    match rest with
    | [] => true
    | ['Z'] => offset
    | ['z'] => offset
    | '+' :: r => offset && hasForm "00:00".toList r
    | '-' :: r => offset && hasForm "00:00".toList r
    | _ => false

/-- The text of a date, a time or both. -/
def readMoment? (cs : List Char) : Option String :=
  if hasForm "0000-00-00".toList cs || isTime false cs then some (String.ofList cs)
  else if hasForm "0000-00-00".toList (cs.take 10) then
    match cs.drop 10 with
    | c :: time =>
      if (c = 'T' ∨ c = 't' ∨ c = ' ') ∧ isTime true time then
        some (String.ofList (cs.take 10 ++ 'T' :: time.map fun c => if c = 'z' then 'Z' else c))
      else none
    | [] => none
  else none

/-- The value that a text without quotes stands for. -/
def bareValue? (cs : List Char) : Option Value :=
  let signed (negative : Bool) (cs : List Char) : Option Value :=
    if cs = "inf".toList then some (.real (.infinite negative))
    else if cs = "nan".toList then some (.real .notANumber)
    else match readDecimal? negative cs with
      | some i => some (.int i)
      | none => (readReal? negative cs).map .real
  if cs = "true".toList then some (.bool true)
  else if cs = "false".toList then some (.bool false)
  else match cs with
    | '0' :: 'x' :: ds => (readBase? 16 ds).map .int
    | '0' :: 'o' :: ds => (readBase? 8 ds).map .int
    | '0' :: 'b' :: ds => (readBase? 2 ds).map .int
    | '-' :: ds => signed true ds
    | '+' :: ds => signed false ds
    | ds =>
      match signed false ds with
      | some v => some v
      | none => (readMoment? ds).map .text

/-- Whether a character may stand in a value without quotes. -/
def isBareValueChar (c : Char) : Bool := isBareChar c || c = '.' || c = '+' || c = ':'

/-- A value without quotes; a blank may stand between a date and a time. -/
def readBare (cs : List Char) : Reading Value :=
  let first := cs.takeWhile isBareValueChar
  let rest := cs.dropWhile isBareValueChar
  let (token, rest) := match rest with
    | ' ' :: d :: more =>
      if hasForm "0000-00-00".toList first && d.isDigit then
        (first ++ ' ' :: (d :: more).takeWhile isBareValueChar,
          (d :: more).dropWhile isBareValueChar)
      else (first, rest)
    | _ => (first, rest)
  (bareValue? token).map fun v => (v, rest)

/-- The rest after a comment, which ends with its line. -/
def skipComment? (cs : List Char) : Option (List Char) :=
  match cs with
  | '#' :: rest =>
    let isEnd := fun c => c = '\n' || c = '\r'
    if (rest.takeWhile fun c => !isEnd c).any isControl then none
    else some (rest.dropWhile fun c => !isEnd c)
  | _ => some cs

/-- The rest after blanks, ends of lines and comments. -/
def skipBreaks : Nat → List Char → List Char
  | 0, cs => cs
  | fuel + 1, cs =>
    match skipSpace cs with
    | '#' :: rest =>
      match skipComment? ('#' :: rest) with
      | some rest => skipBreaks fuel rest
      | none => '#' :: rest
    | rest =>
      match lineEnd? rest with
      | some rest => skipBreaks fuel rest
      | none => rest

mutual

/-- A value. -/
def readValue : Nat → List Char → Reading Value
  | 0, _ => none
  | fuel + 1, cs =>
    match cs with
    | '[' :: rest => readItems fuel [] (skipBreaks rest.length rest)
    | '{' :: rest =>
      match skipSpace rest with
      | '}' :: rest => some (.table [], rest)
      | rest => readInline fuel [] rest
    | '"' :: rest => (readText ('"' :: rest)).map fun (s, rest) => (.text s, rest)
    | '\'' :: rest => (readText ('\'' :: rest)).map fun (s, rest) => (.text s, rest)
    | _ => readBare cs

/-- The items of a list, after those that were read. -/
def readItems : Nat → List Value → List Char → Reading Value
  | 0, _, _ => none
  | fuel + 1, read, cs =>
    match cs with
    | ']' :: rest => some (.list read.reverse, rest)
    | _ =>
      (readValue fuel cs).bind fun (v, rest) =>
        match skipBreaks rest.length rest with
        | ',' :: rest => readItems fuel (v :: read) (skipBreaks rest.length rest)
        | ']' :: rest => some (.list (v :: read).reverse, rest)
        | _ => none

/-- The members of a table in braces, after those that were read. -/
def readInline : Nat → Members → List Char → Reading Value
  | 0, _, _ => none
  | fuel + 1, read, cs =>
    (readKey cs.length cs).bind fun (key, rest) =>
      match rest with
      | '=' :: rest =>
        (readValue fuel (skipSpace rest)).bind fun (v, rest) =>
          (putValue v key read).bind fun read =>
            match skipSpace rest with
            | ',' :: rest => readInline fuel read rest
            | '}' :: rest => some (.table (membersToValues read), rest)
            | _ => none
      | _ => none

end

/-! ## Documents -/

/-- The rest after the end of a statement. -/
def endStatement? (cs : List Char) : Option (List Char) :=
  (skipComment? (skipSpace cs)).bind fun rest =>
    match rest with
    | [] => some []
    | rest => lineEnd? rest

/-- The header of a table, after its opening bracket or brackets. -/
def readHeader (many : Bool) (cs : List Char) : Reading (List String) :=
  (readKey (cs.length + 1) cs).bind fun (key, rest) =>
    match rest, many with
    | ']' :: rest, false => some (key, rest)
    | ']' :: ']' :: rest, true => some (key, rest)
    | _, _ => none

/-- The document after the statements of a text; `current` names the table that is open. -/
def readStatements : Nat → List String → Members → List Char → Option Members
  | 0, _, _, _ => none
  | fuel + 1, current, ms, cs =>
    match skipBreaks cs.length cs with
    | [] => some ms
    | '[' :: '[' :: rest => do
      let (key, rest) ← readHeader true rest
      let ms ← openTable true key ms
      readStatements fuel key ms (← endStatement? rest)
    | '[' :: rest => do
      let (key, rest) ← readHeader false rest
      let ms ← openTable false key ms
      readStatements fuel key ms (← endStatement? rest)
    | rest => do
      let (key, rest) ← readKey rest.length rest
      match rest with
      | '=' :: rest =>
        let rest := skipSpace rest
        let (v, rest) ← readValue (rest.length + 1) rest
        let ms ← changeOpen (putValue v key) current ms
        readStatements fuel current ms (← endStatement? rest)
      | _ => none

/-- The table that a document writes. -/
def ofText? (s : String) : Option Value :=
  let cs := s.toList
  (readStatements (cs.length + 1) [] [] cs).map fun ms => .table (membersToValues ms)

end Toml
end Settings
end SessionAuth
