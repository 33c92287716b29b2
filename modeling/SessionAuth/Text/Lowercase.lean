import SessionAuth.Text.Lowercase.Table

/-!
# Lower case

`lowercase` is the full Unicode lower-case mapping that does not depend on a language: every
character has its simple mapping, `İ` becomes two characters, and a capital sigma at the end of a
word becomes the final form `ς`.
-/

set_option autoImplicit false

namespace SessionAuth
namespace Text

namespace Lowercase

/-- Whether a code point lies in one of the ranges of a table. -/
def inRanges (table : List (Nat × Nat)) (n : Nat) : Bool :=
  table.any fun (first, last) => first ≤ n && n ≤ last

/-- Cased characters that are not passed over when a word is looked for. -/
def isCased (c : Char) : Bool := inRanges casedRanges c.toNat

/-- Characters that are passed over when a word is looked for. -/
def isIgnorable (c : Char) : Bool := inRanges ignorableRanges c.toNat

/-- The simple lower-case form of a character. -/
def simple (c : Char) : Char :=
  let n := c.toNat
  if n < 128 then
    if 'A' ≤ c ∧ c ≤ 'Z' then Char.ofNat (n + 32) else c
  else
    match mappings.find? fun (first, last, step, _) =>
      first ≤ n && n ≤ last && (n - first) % step == 0 with
    | some (first, _, _, lower) => Char.ofNat (lower + (n - first))
    | none => c

/-- Whether the first character that is not ignorable is a cased one. -/
def meetsCased (cs : List Char) : Bool :=
  match cs.dropWhile isIgnorable with
  | [] => false
  | c :: _ => isCased c

/-- The lower-case form of a list of characters; `before` holds the characters that precede it, the
nearest first. -/
def mapFrom (before : List Char) : List Char → List Char
  | [] => []
  | c :: cs =>
    let here :=
      if c = 'Σ' then [if meetsCased before && !meetsCased cs then 'ς' else 'σ']
      else if c = 'İ' then ['i', Char.ofNat 0x307]
      else [simple c]
    here ++ mapFrom (c :: before) cs

end Lowercase

/-- The lower-case form of a list of characters. -/
def lowercaseChars (cs : List Char) : List Char := Lowercase.mapFrom [] cs

/-- The lower-case form of a text. -/
def lowercase (s : String) : String := String.ofList (lowercaseChars s.toList)

end Text
end SessionAuth
