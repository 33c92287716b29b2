import SessionAuth.Text.Decimal
import SessionAuth.Text.Hex
import SessionAuth.Text.Lowercase
import SessionAuth.Text.Punycode
import SessionAuth.Text.Slice

/-!
# Email addresses

An address is a local part and a domain, joined by the last `@`.  The domain consists of labels, or
ends in an address of the Internet protocol in brackets; a domain in other letters than those of
ASCII is judged by its form in ASCII, in which each such label is written in Punycode.
-/

set_option autoImplicit false

namespace SessionAuth
namespace Http
namespace Email

open Text

def isLetterOrDigit (c : Char) : Bool := c.isAlphanum

/-- Whether a character may stand in front of the `@`. -/
def isLocalChar (c : Char) : Bool :=
  isLetterOrDigit c || ".!#$%&'*+/=?^_`\x7b|\x7d~-".toList.contains c

/-- Whether a text is a label: up to sixty-three letters, digits and hyphens, with no hyphen at its
ends. -/
def isLabel (cs : List Char) : Bool :=
  !cs.isEmpty && cs.length ≤ 63 && cs.all (fun c => isLetterOrDigit c || c == '-') &&
    cs.head? != some '-' && cs.getLast? != some '-'

/-- Whether a text is a decimal number of one octet, without leading zeros. -/
def isOctet (cs : List Char) : Bool :=
  match readDigits? cs with
  | some n => n < 256 && (cs.length == 1 || cs.head? != some '0') && cs.length ≤ 3
  | none => false

/-- Whether a text is an address of version 4 of the Internet protocol. -/
def isIpv4 (cs : List Char) : Bool :=
  let parts := split '.' cs
  parts.length == 4 && parts.all isOctet

/-- The number of groups of sixteen bits that a text between colons stands for; the last one may be
an address of version 4. -/
def groupCount? (isLast : Bool) (cs : List Char) : Option Nat :=
  if !cs.isEmpty && cs.length ≤ 4 && cs.all (fun c => (Hex.value? c).isSome) then some 1
  else if isLast && isIpv4 cs then some 2
  else none

/-- The number of groups in a list of them. -/
def groupsCount? (last : Bool) : List (List Char) → Option Nat
  | [] => some 0
  | [g] => groupCount? last g
  | g :: gs => do some ((← groupCount? false g) + (← groupsCount? last gs))

/-- The groups that a text has between colons; a text without characters has none. -/
def groupsOf (cs : List Char) : List (List Char) := if cs.isEmpty then [] else split ':' cs

/-- The parts before and after the first two colons in a row. -/
def cutDoubleColon : List Char → Option (List Char × List Char)
  | ':' :: ':' :: cs => some ([], cs)
  | c :: cs => (cutDoubleColon cs).map fun (before, after) => (c :: before, after)
  | [] => none

/-- Whether a text is an address of version 6 of the Internet protocol. -/
def isIpv6 (cs : List Char) : Bool :=
  match cutDoubleColon cs with
  | none => groupsCount? true (groupsOf cs) == some 8
  | some (before, after) =>
    match groupsCount? false (groupsOf before), groupsCount? true (groupsOf after) with
    | some m, some n => m + n ≤ 7
    | _, _ => false

/-- What is in the brackets at the end of a domain, from the last opening bracket on. -/
def literal? (cs : List Char) : Option (List Char) :=
  match cs.reverse with
  | ']' :: rest =>
    (cutFirst '[' rest).bind fun (inner, _) =>
      let inner := inner.reverse
      if !inner.isEmpty && inner.all (fun c => (Hex.value? c).isSome || c == ':' || c == '.') then
        some inner
      else none
  | _ => none

/-- Whether a text in ASCII is a domain. -/
def isAsciiDomain (cs : List Char) : Bool :=
  (split '.' cs).all isLabel || match literal? cs with
    | some address => isIpv4 address || isIpv6 address
    | none => false

/-! ## Domains in other letters -/

/-- A label in ASCII. -/
def toAsciiLabel (label : List Char) : List Char :=
  if label.all fun c => c.toNat < 0x80 then label else "xn--".toList ++ Punycode.encode label

/-- Whether a character may not stand in a domain: controls, private characters and such. -/
def isForbidden (c : Char) : Bool :=
  let n := c.toNat
  (0x80 ≤ n && n < 0xA0) || (0x2028 ≤ n && n ≤ 0x202E) || (0xE000 ≤ n && n < 0xF900) ||
    (0xFDD0 ≤ n && n < 0xFDF0) || (0xFFF0 ≤ n && n ≤ 0xFFFF) || 0xE0000 ≤ n || n % 0x10000 ≥ 0xFFFE

/-- The characters that a character of a domain stands for. -/
def mapChar (c : Char) : List Char :=
  let n := c.toNat
  if n = 0x3002 ∨ n = 0xFF0E ∨ n = 0xFF61 then ['.']
  else if n = 0xAD ∨ n = 0x200B ∨ n = 0x2060 ∨ n = 0xFEFF ∨ (0xFE00 ≤ n ∧ n ≤ 0xFE0F) then []
  else if 0xFF01 ≤ n ∧ n ≤ 0xFF5E then [asciiLower (Char.ofNat (n - 0xFEE0))]
  else if n = 0x3000 ∨ n = 0xA0 ∨ (0x2000 ≤ n ∧ n ≤ 0x200A) then [' ']
  else if n = 0x17F then ['s']
  else if n = 0x212A then ['k']
  else [c]

/-- A domain in ASCII. -/
def toAscii? (domain : List Char) : Option (List Char) :=
  if domain.any isForbidden then none
  else
    let labels := split '.' (lowercaseChars (domain.flatMap mapChar))
    some (".".toList.intercalate (labels.map toAsciiLabel))

/-! ## Addresses -/

/-- Whether a text is an email address. -/
def isValid (s : String) : Bool :=
  match cutLast '@' s.toList with
  | none => false
  | some (user, domain) =>
    !user.isEmpty && user.length ≤ 64 && domain.length ≤ 255 && user.all isLocalChar &&
      (isAsciiDomain domain ||
        (domain.any (fun c => 0x80 ≤ c.toNat) && ((toAscii? domain).map isAsciiDomain).getD false))

end Email
end Http
end SessionAuth
