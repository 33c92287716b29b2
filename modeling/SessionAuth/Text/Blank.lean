/-!
# Blank characters and trimming

`isBlank` is the Unicode property White_Space.  `trim` removes the blank characters at both ends of
a text.
-/

set_option autoImplicit false

namespace SessionAuth
namespace Text

/-- The characters with the Unicode property White_Space. -/
def isBlank (c : Char) : Bool :=
  let n := c.toNat
  (9 ≤ n && n ≤ 13) || n == 0x20 || n == 0x85 || n == 0xA0 || n == 0x1680 ||
    (0x2000 ≤ n && n ≤ 0x200A) || n == 0x2028 || n == 0x2029 || n == 0x202F || n == 0x205F ||
    n == 0x3000

/-- A list of characters without the blank ones at its start. -/
def dropBlank (cs : List Char) : List Char := cs.dropWhile isBlank

/-- A list of characters without the blank ones at both of its ends. -/
def trimChars (cs : List Char) : List Char := (dropBlank (dropBlank cs).reverse).reverse

/-- A text without the blank characters at both of its ends. -/
def trim (s : String) : String := String.ofList (trimChars s.toList)

/-- Whether a text has no character that is not blank. -/
def allBlank (s : String) : Bool := s.toList.all isBlank

end Text
end SessionAuth
