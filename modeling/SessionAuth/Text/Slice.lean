/-!
# Cutting and searching text

Texts are cut at single characters and searched for other texts.  All functions work on lists of
characters; the ones on `String` are their counterparts.
-/

set_option autoImplicit false

namespace SessionAuth
namespace Text

/-- The parts before and after the first occurrence of a character. -/
def cutFirst (sep : Char) : List Char → Option (List Char × List Char)
  | [] => none
  | c :: cs =>
    if c = sep then some ([], cs)
    else (cutFirst sep cs).map fun (before, after) => (c :: before, after)

/-- The parts before and after the last occurrence of a character. -/
def cutLast (sep : Char) (cs : List Char) : Option (List Char × List Char) :=
  (cutFirst sep cs.reverse).map fun (after, before) => (before.reverse, after.reverse)

/-- The parts of a list of characters between the occurrences of a character.  There is always one
part more than there are occurrences. -/
def split (sep : Char) : List Char → List (List Char)
  | [] => [[]]
  | c :: cs =>
    match split sep cs with
    | [] => [[c]]
    | p :: ps => if c = sep then [] :: p :: ps else (c :: p) :: ps

/-- What follows a given text at the start of another. -/
def stripStart : List Char → List Char → Option (List Char)
  | [], cs => some cs
  | _ :: _, [] => none
  | p :: ps, c :: cs => if p = c then stripStart ps cs else none

/-- Whether a text begins with another. -/
def startsWith (start cs : List Char) : Bool := (stripStart start cs).isSome

/-- Whether a text contains another. -/
def contains (needle : List Char) : List Char → Bool
  | [] => needle.isEmpty
  | c :: cs => startsWith needle (c :: cs) || contains needle cs

/-- The lower-case form of an ASCII letter, and any other character unchanged. -/
def asciiLower (c : Char) : Char :=
  if 'A' ≤ c ∧ c ≤ 'Z' then Char.ofNat (c.toNat + 32) else c

/-- Whether two texts are equal when the case of ASCII letters is ignored. -/
def equalIgnoringAsciiCase (s t : String) : Bool :=
  s.toList.map asciiLower == t.toList.map asciiLower

theorem cutFirst_eq_some {sep : Char} {cs before after : List Char}
    (h : cutFirst sep cs = some (before, after)) :
    cs = before ++ sep :: after ∧ sep ∉ before := by
  induction cs generalizing before with
  | nil => simp [cutFirst] at h
  | cons c cs ih =>
    simp only [cutFirst] at h
    split at h
    · rename_i hc
      simp only [Option.some.injEq, Prod.mk.injEq] at h
      obtain ⟨rfl, rfl⟩ := h
      simp [hc]
    · rename_i hc
      obtain ⟨⟨b, a⟩, hba, heq⟩ := Option.map_eq_some_iff.1 h
      simp only [Prod.mk.injEq] at heq
      obtain ⟨rfl, rfl⟩ := heq
      obtain ⟨h1, h2⟩ := ih hba
      exact ⟨by rw [h1]; rfl, by simpa using ⟨fun hh => hc hh.symm, h2⟩⟩

theorem cutFirst_append {sep : Char} {before : List Char} (after : List Char)
    (h : sep ∉ before) : cutFirst sep (before ++ sep :: after) = some (before, after) := by
  induction before with
  | nil => simp [cutFirst]
  | cons c cs ih =>
    simp only [List.mem_cons, not_or] at h
    simp only [List.cons_append, cutFirst]
    rw [if_neg fun hc => h.1 hc.symm, ih h.2]
    rfl

theorem cutLast_eq_some {sep : Char} {cs before after : List Char}
    (h : cutLast sep cs = some (before, after)) : cs = before ++ sep :: after := by
  obtain ⟨⟨a, b⟩, hcut, heq⟩ := Option.map_eq_some_iff.1 h
  obtain ⟨rfl, rfl⟩ := Prod.mk.inj heq
  have hreverse := (cutFirst_eq_some hcut).1
  simpa using congrArg List.reverse hreverse

theorem cutLast_append {sep : Char} {after : List Char} (before : List Char)
    (h : sep ∉ after) : cutLast sep (before ++ sep :: after) = some (before, after) := by
  have hreverse : (before ++ sep :: after).reverse = after.reverse ++ sep :: before.reverse := by
    simp
  rw [cutLast, hreverse, cutFirst_append _ (by simpa using h)]
  simp

/-- The first part is what stands in front of the first occurrence. -/
theorem exists_split_eq (sep : Char) (cs : List Char) :
    ∃ parts, split sep cs = cs.takeWhile (· ≠ sep) :: parts := by
  induction cs with
  | nil => exact ⟨[], rfl⟩
  | cons c cs ih =>
    obtain ⟨parts, hparts⟩ := ih
    rw [split, hparts]
    by_cases hc : c = sep
    · rw [List.takeWhile_cons_of_neg (by simp [hc])]
      exact ⟨_, if_pos hc⟩
    · rw [List.takeWhile_cons_of_pos (by simp [hc])]
      exact ⟨_, if_neg hc⟩

theorem split_of_not_mem {sep : Char} {cs : List Char} (h : sep ∉ cs) : split sep cs = [cs] := by
  induction cs with
  | nil => rfl
  | cons c cs ih =>
    obtain ⟨hc, hcs⟩ := List.ne_and_not_mem_of_not_mem_cons h
    simp [split, ih hcs, Ne.symm hc]

theorem split_append {sep : Char} {part : List Char} (h : sep ∉ part) (rest : List Char) :
    split sep (part ++ sep :: rest) = part :: split sep rest := by
  induction part with
  | nil =>
    obtain ⟨parts, hrest⟩ := exists_split_eq sep rest
    simp [split, hrest]
  | cons c cs ih =>
    obtain ⟨hc, hcs⟩ := List.ne_and_not_mem_of_not_mem_cons h
    simp [split, ih hcs, Ne.symm hc]

theorem stripStart_eq_some_iff {start cs rest : List Char} :
    stripStart start cs = some rest ↔ cs = start ++ rest := by
  induction start generalizing cs with
  | nil => simp [stripStart, eq_comm]
  | cons p ps ih =>
    cases cs with
    | nil => simp [stripStart]
    | cons c cs =>
      simp only [stripStart]
      split
      · rename_i h
        simp [ih, h]
      · rename_i h
        simp only [reduceCtorEq, List.cons_append, List.cons.injEq, false_iff, not_and]
        exact fun hc => absurd hc.symm h

theorem startsWith_iff {start cs : List Char} : startsWith start cs ↔ start <+: cs := by
  rw [startsWith, Option.isSome_iff_exists]
  exact exists_congr fun rest => stripStart_eq_some_iff.trans eq_comm

theorem contains_iff {needle cs : List Char} : contains needle cs ↔ needle <:+: cs := by
  induction cs with
  | nil => simp [contains]
  | cons c cs ih => simp only [contains, Bool.or_eq_true, startsWith_iff, ih, List.infix_cons_iff]

section Case

variable {s t u : String}

theorem equalIgnoringAsciiCase_iff : equalIgnoringAsciiCase s t ↔
    s.toList.map asciiLower = t.toList.map asciiLower := beq_iff_eq

theorem equalIgnoringAsciiCase_symm (h : equalIgnoringAsciiCase s t) :
    equalIgnoringAsciiCase t s :=
  equalIgnoringAsciiCase_iff.2 (equalIgnoringAsciiCase_iff.1 h).symm

theorem equalIgnoringAsciiCase_trans (h : equalIgnoringAsciiCase s t)
    (h' : equalIgnoringAsciiCase t u) : equalIgnoringAsciiCase s u :=
  equalIgnoringAsciiCase_iff.2
    ((equalIgnoringAsciiCase_iff.1 h).trans (equalIgnoringAsciiCase_iff.1 h'))

end Case

end Text
end SessionAuth
