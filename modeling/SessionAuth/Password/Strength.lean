import SessionAuth.Password.WordList
import SessionAuth.Text.Decimal
import SessionAuth.Text.Lowercase
import SessionAuth.Text.Slice

/-!
# The strength of passwords

The strength of a password is the number of guesses that find it, when guesses begin with what
passwords are usually made of.  A password is covered by parts: common words, runs of neighbouring
keys, sequences such as `abcd`, repetitions, years and dates, and single characters between them.  A
cover with `n` parts costs `n!` times the product of their guesses, and the password has the guesses
of its cheapest cover.
-/

set_option autoImplicit false

namespace SessionAuth
namespace Password

open Text

/-- A part of a password, from one place up to another, with the guesses that find it. -/
structure Part where
  start : Nat
  stop : Nat
  guesses : Nat

/-- The number of guesses from which on a password is strong enough. -/
def strongGuesses : Nat := 100000005

/-! ## Words -/

/-- The letter for which a digit or symbol is often written. -/
def plainLetter (c : Char) : Char :=
  match c with
  | '4' | '@' => 'a'
  | '8' => 'b'
  | '3' => 'e'
  | '6' | '9' => 'g'
  | '1' | '!' | '|' => 'i'
  | '0' => 'o'
  | '$' | '5' => 's'
  | '7' | '+' => 't'
  | '2' => 'z'
  | c => c

/-- The ways to choose the letters of a word that are in upper case. -/
def caseVariants (cs : List Char) : Nat :=
  let upper := (cs.filter fun c => decide ('A' ≤ c ∧ c ≤ 'Z')).length
  if upper = 0 then 1
  else if upper = 1 ∨ upper = cs.length then 2
  else Nat.pow 2 (min upper (cs.length - upper))

/-- The words of a list that stand at the start of a text, written so as `spell` says. -/
def wordsAt (words : List (List Char)) (start : Nat) (cs : List Char) (spell : Char → Char)
    (factor : Nat) : List Part :=
  let plain := cs.map fun c => spell (asciiLower c)
  words.zipIdx.filterMap fun (word, rank) =>
    if !word.isEmpty && startsWith word plain then
      let written := cs.take word.length
      some ⟨start, start + word.length, (rank + 1) * factor * caseVariants written⟩
    else none

/-- The common words in a password, also with digits and symbols for letters, and backwards. -/
def wordParts (words : List (List Char)) (cs : List Char) : List Part :=
  (List.range cs.length).flatMap fun i =>
    let rest := cs.drop i
    wordsAt words i rest (fun c => c) 1 ++ wordsAt words i rest plainLetter 2 ++
      wordsAt (words.map List.reverse) i rest (fun c => c) 2

/-! ## Runs -/

/-- The greatest number of characters at the start of a text each two neighbours of which are
related. -/
def runLength (related : Char → Char → Bool) : List Char → Nat
  | c :: d :: cs => if related c d then runLength related (d :: cs) + 1 else 1
  | [_] => 1
  | [] => 0

/-- The parts of at least three characters each two neighbours of which are related. -/
def runParts (related : Char → Char → Bool) (guesses : List Char → Nat) (cs : List Char) :
    List Part :=
  (List.range cs.length).flatMap fun i =>
    let rest := cs.drop i
    let n := runLength related rest
    (List.range (n + 1)).filterMap fun k =>
      if 3 ≤ k then some ⟨i, i + k, guesses (rest.take k)⟩ else none

/-- Whether a character follows another by a step. -/
def follows (step : Int) (c d : Char) : Bool :=
  c.isAlphanum && d.isAlphanum && (d.toNat : Int) - c.toNat == step

/-- The guesses for a sequence. -/
def sequenceGuesses (cs : List Char) : Nat :=
  match cs with
  | c :: _ =>
    (if ['a', 'A', 'z', 'Z', '0', '1', '9'].contains c then 4 else if c.isDigit then 10 else 26) *
      cs.length * 2
  | [] => 1

/-- The rows of a keyboard. -/
def keyRows : List (List Char) :=
  ["1234567890-=".toList, "qwertyuiop[]".toList, "asdfghjkl;'".toList, "zxcvbnm,./".toList]

/-- The row and column of a key. -/
def keyPlace? (c : Char) : Option (Nat × Nat) :=
  keyRows.zipIdx.findSome? fun (row, i) => (row.idxOf? (asciiLower c)).map fun j => (i, j)

/-- Whether two keys are neighbours. -/
def areNeighbours (c d : Char) : Bool :=
  match keyPlace? c, keyPlace? d with
  | some (i, j), some (k, l) =>
    (i == k && (j == l + 1 || l == j + 1)) || (k == i + 1 && (l == j || j == l + 1)) ||
      (i == k + 1 && (j == l || l == j + 1))
  | _, _ => false

/-- The guesses for a run of neighbouring keys. -/
def keyboardGuesses (cs : List Char) : Nat := 47 * 5 * cs.length * caseVariants cs

/-! ## Dates -/

/-- Whether a number is a year that passwords mention. -/
def isYear (n : Nat) : Bool := 1900 ≤ n && n ≤ 2050

/-- The years and dates in a password. -/
def dateParts (cs : List Char) : List Part :=
  (List.range cs.length).flatMap fun i =>
    let rest := cs.drop i
    let year := match readDigits? (rest.take 4) with
      | some n => if 4 ≤ rest.length && isYear n then [⟨i, i + 4, 60⟩] else []
      | none => []
    let date (n : Nat) := match readDigits? (rest.take n) with
      | some _ =>
        if n ≤ rest.length &&
            ([rest.take 4, (rest.drop (n - 4)).take 4].any fun y =>
              ((readDigits? y).map isYear).getD false) then
          [(⟨i, i + n, 365 * 60⟩ : Part)]
        else []
      | none => []
    year ++ date 6 ++ date 7 ++ date 8

/-! ## Covers -/

/-- The cheapest covers of a start of the password: for each number of parts the product of their
guesses. -/
abbrev Covers := List (Nat × Nat)

/-- The guesses of a cover. -/
def coverGuesses (cover : Nat × Nat) : Nat :=
  let factorial := (List.range cover.1).foldl (fun n i => n * (i + 1)) 1
  factorial * cover.2 + Nat.pow 10000 (cover.1 - 1)

/-- The covers with one more, unless another with at most as many parts has fewer guesses. -/
def addCover (covers : Covers) (cover : Nat × Nat) : Covers :=
  if covers.any fun c => c.1 ≤ cover.1 && coverGuesses c ≤ coverGuesses cover then covers
  else cover :: covers.filter fun c => c.1 != cover.1

/-- The guesses for characters that belong to no part. -/
def unknownGuesses (n : Nat) : Nat := if n = 1 then 11 else max (Nat.pow 10 n) 51

/-- The covers of the start of a password up to a place, given those of all shorter starts, the
longest first; a flag tells the covers that end in unknown characters. -/
def coversAt (total stop : Nat) (parts : List Part) (shorter : List (Covers × Covers)) :
    Covers × Covers :=
  let before (place : Nat) : Covers × Covers := shorter.getD (stop - 1 - place) ([], [])
  let least (p : Part) : Nat :=
    if p.stop - p.start = total then 1 else if p.stop - p.start = 1 then 10 else 50
  let known := (parts.filter fun p => p.stop = stop).foldl
    (fun covers p =>
      let guesses := max p.guesses (least p)
      if p.start = 0 then addCover covers (1, guesses)
      else
        let (known, unknown) := before p.start
        (known ++ unknown).foldl (fun covers c => addCover covers (c.1 + 1, c.2 * guesses)) covers)
    []
  let unknown := (List.range stop).foldl
    (fun covers start =>
      let guesses := unknownGuesses (stop - start)
      if start = 0 then addCover covers (1, guesses)
      else (before start).1.foldl (fun covers c => addCover covers (c.1 + 1, c.2 * guesses)) covers)
    []
  (known, unknown)

/-- The guesses of the cheapest cover of a password of the given length. -/
def cheapest (total : Nat) (parts : List Part) : Nat :=
  let covers := (List.range total).foldl
    (fun shorter i => coversAt total (i + 1) parts shorter :: shorter) []
  match covers with
  | (known, unknown) :: _ =>
    match (known ++ unknown).map coverGuesses with
    | g :: gs => gs.foldl min g
    | [] => 1
  | [] => 1

/-- How often a text stands at the start of another, one after the other. -/
def repetitions (base : List Char) : Nat → List Char → Nat
  | 0, _ => 0
  | fuel + 1, cs =>
    match stripStart base cs with
    | some rest => repetitions base fuel rest + 1
    | none => 0

/-- The shortest text whose repetitions at the start of another reach farthest, with their
number. -/
def repetitionAt? (cs : List Char) : Option (List Char × Nat) :=
  (List.range (cs.length / 2)).foldl
    (fun best k =>
      let base := cs.take (k + 1)
      let n := repetitions base cs.length cs
      if n < 2 then best
      else match best with
        | some (other, m) =>
          if m * other.length < n * base.length then some (base, n) else best
        | none => some (base, n))
    none

/-- The repetitions in a text, each with its place, its repeated part and their number; the next one
is looked for where one ends. -/
def repetitionsIn : Nat → Nat → List Char → List (Nat × List Char × Nat)
  | 0, _, _ => []
  | _ + 1, _, [] => []
  | fuel + 1, place, c :: cs =>
    match repetitionAt? (c :: cs) with
    | some (base, n) =>
      let size := n * base.length
      (place, base, n) :: repetitionsIn fuel (place + size) ((c :: cs).drop size)
    | none => repetitionsIn fuel (place + 1) cs

/-- The guesses that find a password; `words` are the words that are tried, and `depth` bounds how
often repetitions are looked for inside repeated parts. -/
def guessesWithin (words : List (List Char)) : Nat → List Char → Nat
  | 0, cs => unknownGuesses cs.length
  | depth + 1, cs =>
    let repeats := (repetitionsIn cs.length 0 cs).map fun (place, base, n) =>
      (⟨place, place + n * base.length, guessesWithin words depth base * n⟩ : Part)
    cheapest cs.length (wordParts words cs ++ runParts (follows 1) sequenceGuesses cs ++
      runParts (follows (-1)) sequenceGuesses cs ++ runParts areNeighbours keyboardGuesses cs ++
      dateParts cs ++ repeats)

/-- The longest start of a password that is looked at. -/
def longestLook : Nat := 100

/-- The guesses that find a password of somebody who is known by the given texts. -/
def guesses (password : String) (known : List String) : Nat :=
  let words := (known.map fun s => (lowercase s).toList) ++ commonWords.map String.toList
  guessesWithin words 2 (password.toList.take longestLook)

end Password
end SessionAuth
