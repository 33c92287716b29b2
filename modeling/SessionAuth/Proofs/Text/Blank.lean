import Mathlib.Data.List.TakeWhile
import SessionAuth.Text.Blank

/-!
# What trimming leaves

`trimChars` takes away blank characters at both ends and nothing else (`exists_around_trimChars`),
and what it leaves neither begins nor ends with one (`isTrimmed_trimChars`).  So a text that does
neither is left as it is, and blanks around a text make no difference to what is left of it
(`trimChars_around`).
-/

set_option autoImplicit false

namespace SessionAuth
namespace Text

variable {cs before after : List Char} {s : String}

/-- Whether some characters neither begin nor end with a blank one. -/
structure IsTrimmed (cs : List Char) : Prop where
  first : ∀ c ∈ cs.head?, isBlank c = false
  last : ∀ c ∈ cs.getLast?, isBlank c = false

/-! ## Blanks in front -/

theorem dropBlank_append (h : ∀ c ∈ before, isBlank c) (cs : List Char) :
    dropBlank (before ++ cs) = dropBlank cs :=
  List.dropWhile_append_of_pos h

theorem dropBlank_of_first (h : ∀ c ∈ cs.head?, isBlank c = false) : dropBlank cs = cs := by
  cases cs with
  | nil => rfl
  | cons c cs => exact List.dropWhile_cons_of_neg (by simp [h c rfl])

theorem first_dropBlank (cs : List Char) : ∀ c ∈ (dropBlank cs).head?, isBlank c = false := by
  intro c hc
  have hnot := List.head?_dropWhile_not isBlank cs
  rw [← dropBlank, Option.mem_def.1 hc] at hnot
  simpa using hnot

theorem exists_append_dropBlank (cs : List Char) :
    ∃ before, (∀ c ∈ before, isBlank c) ∧ cs = before ++ dropBlank cs := by
  refine ⟨cs.takeWhile isBlank, fun c hc => ?_, List.takeWhile_append_dropWhile.symm⟩
  exact List.all_eq_true.1 List.all_takeWhile c hc

theorem dropBlank_eq_nil_iff : dropBlank cs = [] ↔ ∀ c ∈ cs, isBlank c :=
  List.dropWhile_eq_nil_iff

/-! ## Blanks on both sides -/

theorem exists_trimChars_append (cs : List Char) :
    ∃ after, (∀ c ∈ after, isBlank c) ∧ dropBlank cs = trimChars cs ++ after := by
  obtain ⟨after, hafter, hrest⟩ := exists_append_dropBlank (dropBlank cs).reverse
  refine ⟨after.reverse, fun c hc => hafter c (List.mem_reverse.1 hc), ?_⟩
  rw [trimChars, ← List.reverse_append, ← hrest, List.reverse_reverse]

/-- Trimming takes away blanks alone. -/
theorem exists_around_trimChars (cs : List Char) :
    ∃ before after, (∀ c ∈ before, isBlank c) ∧ (∀ c ∈ after, isBlank c) ∧
      cs = before ++ (trimChars cs ++ after) := by
  obtain ⟨before, hbefore, hcs⟩ := exists_append_dropBlank cs
  obtain ⟨after, hafter, hkept⟩ := exists_trimChars_append cs
  exact ⟨before, after, hbefore, hafter, hkept ▸ hcs⟩

theorem isTrimmed_trimChars (cs : List Char) : IsTrimmed (trimChars cs) := by
  constructor
  case first =>
    intro c hc
    obtain ⟨after, -, hkept⟩ := exists_trimChars_append cs
    refine first_dropBlank cs c ?_
    rw [hkept, List.head?_append, Option.mem_def.1 hc]
    rfl
  case last =>
    rw [trimChars, List.getLast?_reverse]
    exact first_dropBlank _

theorem IsTrimmed.trimChars_eq (h : IsTrimmed cs) : trimChars cs = cs := by
  rw [trimChars, dropBlank_of_first h.first, dropBlank_of_first, List.reverse_reverse]
  rw [List.head?_reverse]
  exact h.last

/-- Blanks around some characters make no difference to what is left of them. -/
theorem trimChars_around (hbefore : ∀ c ∈ before, isBlank c) (hafter : ∀ c ∈ after, isBlank c)
    (cs : List Char) : trimChars (before ++ (cs ++ after)) = trimChars cs := by
  have hreverse : ∀ c ∈ after.reverse, isBlank c := fun c hc => hafter c (List.mem_reverse.1 hc)
  have hsplit : dropBlank (cs ++ after) =
      if (dropBlank cs).isEmpty then dropBlank after else dropBlank cs ++ after :=
    List.dropWhile_append
  rw [trimChars, trimChars, dropBlank_append hbefore, hsplit]
  cases hcs : dropBlank cs with
  | nil => rw [List.isEmpty_nil, if_pos rfl, dropBlank_eq_nil_iff.2 hafter]
  | cons c rest =>
    rw [List.isEmpty_cons, if_neg Bool.false_ne_true, List.reverse_append,
      dropBlank_append hreverse]

theorem trimChars_eq_nil_iff : trimChars cs = [] ↔ ∀ c ∈ cs, isBlank c := by
  constructor
  · intro h c hc
    obtain ⟨before, after, hbefore, hafter, hcs⟩ := exists_around_trimChars cs
    rw [hcs, h, List.nil_append, List.mem_append] at hc
    exact hc.elim (hbefore c) (hafter c)
  · intro h
    rw [trimChars, dropBlank_eq_nil_iff.2 h]
    rfl

/-- It makes no difference whether what stands in front of a character that is not blank is cut out
before or after trimming. -/
theorem trimChars_takeWhile {p : Char → Bool} (hp : ∀ c, isBlank c → p c) (cs : List Char) :
    trimChars ((trimChars cs).takeWhile p) = trimChars (cs.takeWhile p) := by
  obtain ⟨before, after, hbefore, hafter, hcs⟩ := exists_around_trimChars cs
  have hcut : cs.takeWhile p = before ++ (trimChars cs ++ after).takeWhile p := by
    rw [← List.takeWhile_append_of_pos fun c hc => hp c (hbefore c hc), ← hcs]
  have hfront := fun cs => trimChars_around hbefore (List.forall_mem_nil (isBlank ·)) cs
  simp only [List.append_nil] at hfront
  rw [hcut, List.takeWhile_append]
  split
  · rename_i hlength
    have hall := (List.takeWhile_prefix p).eq_of_length hlength
    have hrest : after.takeWhile p = after :=
      List.takeWhile_eq_self_iff.2 fun c hc => hp c (hafter c hc)
    rw [hall, hrest, trimChars_around hbefore hafter]
  · rw [hfront]

/-! ## Texts -/

@[simp] theorem toList_trim (s : String) : (trim s).toList = trimChars s.toList := by
  simp [trim]

/-- A text is left as it is if it neither begins nor ends with a blank. -/
theorem trim_eq_self_iff : trim s = s ↔ IsTrimmed s.toList := by
  constructor
  · intro h
    rw [← h, toList_trim]
    exact isTrimmed_trimChars _
  · intro h
    rw [trim, h.trimChars_eq, String.ofList_toList]

theorem trim_trim (s : String) : trim (trim s) = trim s :=
  trim_eq_self_iff.2 (toList_trim s ▸ isTrimmed_trimChars _)

theorem allBlank_iff : allBlank s ↔ ∀ c ∈ s.toList, isBlank c := List.all_eq_true

theorem isEmpty_trim : (trim s).isEmpty = allBlank s := by
  rw [Bool.eq_iff_iff, String.isEmpty_iff, allBlank_iff, ← trimChars_eq_nil_iff, ← toList_trim,
    String.toList_eq_nil_iff]

theorem allBlank_trim : allBlank (trim s) = allBlank s := by
  rw [← isEmpty_trim, trim_trim, isEmpty_trim]

end Text
end SessionAuth
