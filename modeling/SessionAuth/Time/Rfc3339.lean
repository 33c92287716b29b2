import SessionAuth.Text.Blank
import SessionAuth.Text.Decimal
import SessionAuth.Text.Slice
import SessionAuth.Time.Calendar
import SessionAuth.Time.Timestamp

/-!
# Timestamps in text

Times are written in UTC in the format of RFC 3339: a four-digit year (years outside 0 to 9999 carry
a sign), `T` between date and time, a fraction of three, six or nine digits where it is not zero,
and `Z` at the end.

Reading is more lenient: the fields may have fewer digits and blank characters around them, date and
time may be joined by `T`, `t` or a blank, and the offset is `Z`, `UTC` or hours and minutes.
-/

set_option autoImplicit false

namespace SessionAuth
namespace Time

open Text

/-! ## Writing -/

/-- The written form of a year. -/
def writeYear (y : Int) : List Char :=
  if 0 ≤ y ∧ y ≤ 9999 then padded 4 y.toNat
  else (if y < 0 then '-' else '+') :: padded 4 y.natAbs

/-- The written form of a fraction of a second, in groups of three digits. -/
def writeFraction (nanos : Nat) : List Char :=
  if nanos = 0 then []
  else if nanos % 1000000 = 0 then '.' :: padded 3 (nanos / 1000000)
  else if nanos % 1000 = 0 then '.' :: padded 6 (nanos / 1000)
  else '.' :: padded 9 nanos

/-- The characters of a time in the format of RFC 3339. -/
def rfc3339Chars (t : Timestamp) : List Char :=
  let nanos := if t.leap then t.nanos - nanosPerSecond else t.nanos
  let secs := nanos / nanosPerSecond
  let date := Date.ofDayNumber (secs / 86400)
  let ofDay := (secs % 86400).toNat
  let second := ofDay % 60 + (if t.leap then 1 else 0)
  writeYear date.year ++ '-' :: padded 2 date.month ++ '-' :: padded 2 date.day ++
    'T' :: padded 2 (ofDay / 3600) ++ ':' :: padded 2 (ofDay / 60 % 60) ++ ':' :: padded 2 second ++
    writeFraction (nanos % nanosPerSecond).toNat ++ ['Z']

/-- A time in the format of RFC 3339. -/
def toRfc3339 (t : Timestamp) : String := String.ofList (rfc3339Chars t)

/-! ## Reading -/

/-- The digits at the start of a text, at most `most` of them, and the rest. -/
def takeDigits (most : Nat) (cs : List Char) : List Char × List Char :=
  let ds := (cs.take most).takeWhile fun c => (digitValue? c).isSome
  (ds, cs.drop ds.length)

/-- A number of at most `most` digits after blank characters, and the rest. -/
def readField (most : Nat) (cs : List Char) : Option (Nat × List Char) :=
  let (ds, rest) := takeDigits most (dropBlank cs)
  (readDigits? ds).map fun n => (n, rest)

/-- A year, and the rest.  A year with a sign may have any number of digits. -/
def readYear (cs : List Char) : Option (Int × List Char) :=
  match dropBlank cs with
  | '-' :: rest =>
    let (ds, rest) := takeDigits rest.length rest
    (readDigits? ds).map fun n => (-(n : Int), rest)
  | '+' :: rest =>
    let (ds, rest) := takeDigits rest.length rest
    (readDigits? ds).map fun n => ((n : Int), rest)
  | rest => (readField 4 rest).map fun (n, rest) => ((n : Int), rest)

/-- What follows a character after blank characters. -/
def readMark (mark : Char) (cs : List Char) : Option (List Char) :=
  match dropBlank cs with
  | c :: rest => if c = mark then some rest else none
  | [] => none

/-- The nanoseconds of a fraction, and the rest; digits after the ninth are passed over. -/
def readFraction (cs : List Char) : Option (Nat × List Char) :=
  match cs with
  | '.' :: rest =>
    let (ds, after) := takeDigits 9 rest
    (readDigits? ds).map fun n =>
      (n * Nat.pow 10 (9 - ds.length), after.dropWhile fun c => (digitValue? c).isSome)
  | _ => some (0, cs)

/-- The seconds of an offset of hours and minutes, and the rest. -/
def readHoursMinutes (cs : List Char) : Option (Nat × List Char) :=
  match cs with
  | h :: k :: rest => do
    let hours ← readDigits? [h, k]
    match rest.dropWhile fun c => c = ':' || isBlank c with
    | m :: n :: rest =>
      let minutes ← readDigits? [m, n]
      if minutes < 60 then some (hours * 3600 + minutes * 60, rest) else none
    | _ => none
  | _ => none

/-- The seconds by which an offset is ahead of UTC, and the rest. -/
def readOffset (cs : List Char) : Option (Int × List Char) :=
  let named := (cs.take 3).map asciiLower = "utc".toList
  if named then some (0, cs.drop 3)
  else match cs with
    | 'Z' :: rest => some (0, rest)
    | 'z' :: rest => some (0, rest)
    | '+' :: rest => (readHoursMinutes rest).map fun (s, rest) => ((s : Int), rest)
    | '-' :: rest => (readHoursMinutes rest).map fun (s, rest) => (-(s : Int), rest)
    | '−' :: rest => (readHoursMinutes rest).map fun (s, rest) => (-(s : Int), rest)
    | _ => none

/-- The time that a list of characters writes. -/
def ofRfc3339Chars? (cs : List Char) : Option Timestamp := do
  let (year, cs) ← readYear cs
  let cs ← readMark '-' cs
  let (month, cs) ← readField 2 cs
  let cs ← readMark '-' cs
  let (day, cs) ← readField 2 cs
  let cs := match cs with
    | 'T' :: rest => rest
    | 't' :: rest => rest
    | rest => rest
  let (hour, cs) ← readField 2 cs
  let cs ← readMark ':' cs
  let (minute, cs) ← readField 2 cs
  let cs ← readMark ':' cs
  let (second, cs) ← readField 2 cs
  let (fraction, cs) ← readFraction cs
  let (offset, cs) ← readOffset (dropBlank cs)
  let date : Date := ⟨year, month, day⟩
  if cs.all isBlank ∧ date.isValid ∧ hour < 24 ∧ minute < 60 ∧ second ≤ 60 ∧
      -86400 < offset ∧ offset < 86400 then
    let wall := date.dayNumber * 86400 + hour * 3600 + minute * 60 + min second 59
    let inRange (s : Int) := Timestamp.minSeconds ≤ s ∧ s ≤ Timestamp.maxSeconds
    if inRange wall ∧ inRange (wall - offset) then
      let leap := second = 60
      some {
        nanos := (wall - offset + if leap then 1 else 0) * nanosPerSecond + fraction
        leap := leap }
    else none
  else none

/-- The time that a text writes. -/
def ofRfc3339? (s : String) : Option Timestamp := ofRfc3339Chars? s.toList

end Time
end SessionAuth
