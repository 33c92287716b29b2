import Mathlib.Data.List.Infix
import SessionAuth.Postgres.Users

/-!
# Patterns of texts

A pattern of `LIKE` is a text in which a percent sign stands for any text, an underscore for any one
character, and a backslash takes its meaning from the character after it.  The pattern that a filter
is turned into has a text of the client's choice in its middle, which may itself hold any of the
three; `escapeLike` is what keeps them from having a meaning there.

`isMatch_patternContaining` says that it does: the pattern can be read, and it matches exactly the
texts that contain the one it was made from.
-/

set_option autoImplicit false

namespace SessionAuth

namespace Postgres

/-! ## What a pattern matches -/

/-- A part of a pattern. -/
inductive Piece where
  | anyText
  | anyChar
  | char (c : Char)
  deriving DecidableEq, Repr

/-- The parts of a pattern, unless it ends with a backslash that has nothing to take the meaning
from. -/
def pieces? : List Char → Option (List Piece)
  | [] => some []
  | ['\\'] => none
  | '\\' :: c :: cs => (pieces? cs).map (.char c :: ·)
  | '%' :: cs => (pieces? cs).map (.anyText :: ·)
  | '_' :: cs => (pieces? cs).map (.anyChar :: ·)
  | c :: cs => (pieces? cs).map (.char c :: ·)

/-- Whether a text is made of texts that the parts stand for, one after the other. -/
def isMatch : List Piece → List Char → Bool
  | [], cs => cs.isEmpty
  | .anyText :: ps, cs => cs.tails.any (isMatch ps)
  | .anyChar :: _, [] => false
  | .anyChar :: ps, _ :: cs => isMatch ps cs
  | .char _ :: _, [] => false
  | .char c :: ps, d :: cs => c == d && isMatch ps cs

theorem isMatch_anyText {ps : List Piece} {cs : List Char} :
    isMatch (.anyText :: ps) cs ↔ ∃ skipped rest, skipped ++ rest = cs ∧ isMatch ps rest := by
  simp only [isMatch, List.any_eq_true, List.mem_tails]
  constructor
  · rintro ⟨rest, ⟨skipped, hcs⟩, hrest⟩
    exact ⟨skipped, rest, hcs, hrest⟩
  · rintro ⟨skipped, rest, hcs, hrest⟩
    exact ⟨rest, ⟨skipped, hcs⟩, hrest⟩

theorem isMatch_chars {ts cs : List Char} {ps : List Piece} :
    isMatch (ts.map .char ++ ps) cs ↔ ∃ rest, ts ++ rest = cs ∧ isMatch ps rest := by
  induction ts generalizing cs with
  | nil => simp
  | cons t ts ih =>
    cases cs with
    | nil => simp [isMatch]
    | cons c cs =>
      simp only [List.map_cons, List.cons_append, isMatch, Bool.and_eq_true, beq_iff_eq, ih,
        List.cons.injEq]
      constructor
      · rintro ⟨hc, rest, hcs, hrest⟩
        exact ⟨rest, ⟨hc, hcs⟩, hrest⟩
      · rintro ⟨rest, ⟨hc, hcs⟩, hrest⟩
        exact ⟨hc, rest, hcs, hrest⟩

/-! ## Escaping -/

/-- A character without a meaning of its own stands for itself. -/
theorem pieces?_cons {c : Char} (h : ¬ (c = '%' ∨ c = '_' ∨ c = '\\')) (cs : List Char) :
    pieces? (c :: cs) = (pieces? cs).map (.char c :: ·) := by
  conv_lhs => unfold pieces?
  split <;> simp_all

/-- An escaped text stands for its own characters, whatever comes after it in the pattern. -/
theorem pieces?_escapeLike (ts cs : List Char) :
    pieces? (escapeLike ts ++ cs) = (pieces? cs).map (ts.map .char ++ ·) := by
  induction ts with
  | nil => simp [escapeLike]
  | cons t ts ih =>
    have hmap : (pieces? cs).map ((t :: ts).map Piece.char ++ ·) =
        (pieces? (escapeLike ts ++ cs)).map (.char t :: ·) := by
      rw [ih, Option.map_map]
      rfl
    rw [hmap, escapeLike, List.flatMap_cons, List.append_assoc]
    split
    · rfl
    · rename_i hplain
      exact pieces?_cons hplain _

theorem pieces?_patternContaining (s : String) :
    pieces? (patternContaining s).toList =
      some (.anyText :: (s.toList.map .char ++ [.anyText])) := by
  rw [patternContaining, String.toList_ofList]
  show (pieces? (escapeLike s.toList ++ ['%'])).map (.anyText :: ·) = _
  rw [pieces?_escapeLike]
  rfl

/-- The pattern that is made from a text matches the texts that contain it, whatever characters it
has. -/
theorem isMatch_patternContaining {s : String} {ps : List Piece}
    (h : pieces? (patternContaining s).toList = some ps) (cs : List Char) :
    isMatch ps cs = Text.contains s.toList cs := by
  obtain rfl := Option.some.inj ((pieces?_patternContaining s).symm.trans h)
  rw [Bool.eq_iff_iff, Text.contains_iff, isMatch_anyText]
  simp only [isMatch_chars]
  constructor
  · rintro ⟨before, -, rfl, after, rfl, -⟩
    exact ⟨before, after, List.append_assoc ..⟩
  · rintro ⟨before, after, rfl⟩
    refine ⟨before, s.toList ++ after, (List.append_assoc ..).symm, after, rfl, ?_⟩
    exact isMatch_anyText.2 ⟨after, [], List.append_nil _, rfl⟩

end Postgres
end SessionAuth
