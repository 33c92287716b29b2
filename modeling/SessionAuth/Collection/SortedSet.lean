/-!
# Sorted sets

A `SortedSet` is a strictly ascending list.  `mem_insert` and `mem_erase` say what the operations do
to membership; the order of the elements is part of the type.
-/

set_option autoImplicit false

namespace SessionAuth

/-- A finite set, as the strictly ascending list of its elements. -/
structure SortedSet (α : Type) [Ord α] where
  /-- The elements, in ascending order. -/
  toList : List α
  sorted : toList.Pairwise fun a b => compare a b = .lt

namespace SortedSet

variable {α : Type} [Ord α]

/-- The set without elements. -/
def empty : SortedSet α := ⟨[], List.Pairwise.nil⟩

instance : Inhabited (SortedSet α) := ⟨empty⟩
instance : EmptyCollection (SortedSet α) := ⟨empty⟩

/-- The number of elements. -/
def size (s : SortedSet α) : Nat := s.toList.length

/-- An ascending list with one more element, at its place. -/
def insertInto (a : α) : List α → List α
  | [] => [a]
  | b :: bs =>
    match compare a b with
    | .lt => a :: b :: bs
    | .eq => b :: bs
    | .gt => b :: insertInto a bs

variable [Std.TransOrd α] [Std.LawfulEqOrd α]

omit [Std.TransOrd α] in
theorem mem_insertInto (a x : α) (bs : List α) : x ∈ insertInto a bs ↔ x = a ∨ x ∈ bs := by
  induction bs with
  | nil => simp [insertInto]
  | cons b bs ih =>
    simp only [insertInto]
    split
    · simp
    · rename_i h
      have : a = b := Std.LawfulEqOrd.eq_of_compare h
      subst this
      simp
    · simp only [List.mem_cons, ih]
      constructor
      · rintro (h | h | h)
        · exact .inr (.inl h)
        · exact .inl h
        · exact .inr (.inr h)
      · rintro (h | h | h)
        · exact .inr (.inl h)
        · exact .inl h
        · exact .inr (.inr h)

theorem sorted_insertInto (a : α) {bs : List α}
    (h : bs.Pairwise fun a b => compare a b = .lt) :
    (insertInto a bs).Pairwise fun a b => compare a b = .lt := by
  induction bs with
  | nil => exact List.pairwise_singleton _ _
  | cons b bs ih =>
    have hb := List.pairwise_cons.1 h
    simp only [insertInto]
    split
    · rename_i hab
      refine List.pairwise_cons.2 ⟨fun x hx => ?_, h⟩
      rcases List.mem_cons.1 hx with rfl | hx
      · exact hab
      · exact Std.TransCmp.lt_trans hab (hb.1 x hx)
    · exact h
    · rename_i hab
      refine List.pairwise_cons.2 ⟨fun x hx => ?_, ih hb.2⟩
      rcases (mem_insertInto a x bs).1 hx with rfl | hx
      · exact Std.OrientedCmp.lt_of_gt hab
      · exact hb.1 x hx

/-- The set with one more element. -/
def insert (s : SortedSet α) (a : α) : SortedSet α :=
  ⟨insertInto a s.toList, sorted_insertInto a s.sorted⟩

/-- The set without an element. -/
def erase [DecidableEq α] (s : SortedSet α) (a : α) : SortedSet α :=
  ⟨s.toList.filter (· ≠ a), s.sorted.sublist List.filter_sublist⟩

/-- The set of the members of a list. -/
def ofList (as : List α) : SortedSet α := as.foldl insert empty

@[simp] theorem mem_insert (s : SortedSet α) (a x : α) :
    x ∈ (s.insert a).toList ↔ x = a ∨ x ∈ s.toList :=
  mem_insertInto a x s.toList

omit [Std.TransOrd α] [Std.LawfulEqOrd α] in
@[simp] theorem mem_erase [DecidableEq α] (s : SortedSet α) (a x : α) :
    x ∈ (s.erase a).toList ↔ x ∈ s.toList ∧ x ≠ a := by
  simp [erase]

theorem insertInto_of_mem {a : α} {bs : List α} (h : bs.Pairwise fun a b => compare a b = .lt)
    (ha : a ∈ bs) : insertInto a bs = bs := by
  induction bs with
  | nil => cases ha
  | cons b bs ih =>
    obtain ⟨hb, hbs⟩ := List.pairwise_cons.1 h
    simp only [insertInto]
    split
    · -- only the first element could stand after one that is there
      rename_i hab
      rcases List.mem_cons.1 ha with rfl | ha
      · cases Std.ReflCmp.compare_self.symm.trans hab
      · cases (Std.OrientedCmp.gt_of_lt (hb a ha)).symm.trans hab
    · rfl
    · rename_i hab
      rcases List.mem_cons.1 ha with rfl | ha
      · cases Std.ReflCmp.compare_self.symm.trans hab
      · rw [ih hbs ha]

theorem insert_of_mem {s : SortedSet α} {a : α} (h : a ∈ s.toList) : s.insert a = s := by
  obtain ⟨bs, hbs⟩ := s
  simp only [insert, insertInto_of_mem hbs h]

omit [Std.TransOrd α] [Std.LawfulEqOrd α] in
theorem erase_of_not_mem [DecidableEq α] {s : SortedSet α} {a : α} (h : a ∉ s.toList) :
    s.erase a = s := by
  obtain ⟨bs, hbs⟩ := s
  have hne : ∀ b ∈ bs, b ≠ a := fun b hb heq => h (heq ▸ hb)
  simp only [erase, mk.injEq]
  exact List.filter_eq_self.2 fun b hb => by simpa using hne b hb

end SortedSet
end SessionAuth
