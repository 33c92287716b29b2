import Mathlib.Data.List.Sort
import SessionAuth.Time.Timestamp

/-!
# Lists with the latest first

Users and sessions are listed by a time, the latest first, and where times are equal by their ids,
the greatest first.  No two items of a list have the same id, so that there is no choice left in the
order: sorting makes each item come strictly before those after it (`pairwise_mergeSort_comesBefore`),
and two lists in this order are equal if they have the same items (`eq_of_mem_iff_comesBefore`).
-/

set_option autoImplicit false

namespace SessionAuth

variable {α κ : Type} [Ord κ] (time : α → Timestamp) (id : α → κ)

/-- How two items compare by time, and by id if their times are equal. -/
def compareLatest : α → α → Ordering := compareLex (compareOn time) (compareOn id)

/-- Whether an item comes strictly before another: it is later, or of the same time with a greater
id. -/
def ComesBefore (a b : α) : Prop := compareLatest time id b a = .lt

variable {time id}

theorem comesBefore_of_later {a b : α} (h : compare (time b) (time a) = .lt) :
    ComesBefore time id a b :=
  Ordering.then_eq_lt.2 (.inl h)

section
variable [Std.TransOrd κ]

instance : Std.TransCmp (compareLatest time id) :=
  inferInstanceAs (Std.TransCmp (compareLex (compareOn time) (compareOn id)))

theorem not_comesBefore_self (a : α) : ¬ ComesBefore time id a a := by
  simp [ComesBefore, Std.ReflCmp.compare_self]

theorem ComesBefore.asymm {a b : α} (h : ComesBefore time id a b) : ¬ ComesBefore time id b a := by
  intro h'
  cases h.symm.trans (Std.OrientedCmp.gt_of_lt h')

/-- Two lists in this order are equal if they have the same items. -/
theorem eq_of_mem_iff_comesBefore {as bs : List α} (has : as.Pairwise (ComesBefore time id))
    (hbs : bs.Pairwise (ComesBefore time id)) (h : ∀ a, a ∈ as ↔ a ∈ bs) : as = bs := by
  have hirrefl : Std.Irrefl (ComesBefore time id) := ⟨not_comesBefore_self⟩
  have hantisymm : Std.Antisymm (ComesBefore time id) := ⟨fun _ _ hab hba => absurd hba hab.asymm⟩
  exact has.eq_of_mem_iff hbs h

end

/-- Sorting makes each item come strictly before those after it, if no two have the same id. -/
theorem pairwise_mergeSort_comesBefore [Std.TransOrd κ] [Std.LawfulEqOrd κ] {as : List α}
    (hids : (as.map id).Nodup) :
    (as.mergeSort fun a b => (compareLatest time id b a).isLE).Pairwise (ComesBefore time id) := by
  have hsorted : (as.mergeSort fun a b => (compareLatest time id b a).isLE).Pairwise
      fun a b => (compareLatest time id b a).isLE := by
    refine List.pairwise_mergeSort ?trans ?total as
    case trans => exact fun _ _ _ hab hbc => Std.TransCmp.isLE_trans hbc hab
    case total =>
      intro a b
      have hswap : compareLatest time id a b = (compareLatest time id b a).swap :=
        Std.OrientedCmp.eq_swap
      rw [hswap]
      cases compareLatest time id b a <;> rfl
  have hne : (as.mergeSort fun a b => (compareLatest time id b a).isLE).Pairwise
      fun a b => id a ≠ id b := by
    have hperm := (as.mergeSort_perm fun a b => (compareLatest time id b a).isLE).map id
    exact List.pairwise_map.1 (hperm.nodup_iff.2 hids)
  refine (hsorted.and hne).imp fun {a b} ⟨hle, hid⟩ => ?_
  -- equal in both respects they would have the same id
  rcases Ordering.isLE_iff_eq_lt_or_eq_eq.1 hle with hlt | heq
  · exact hlt
  · have hid' : compare (id b) (id a) = .eq := (Ordering.then_eq_eq.1 heq).2
    exact absurd (Std.LawfulEqCmp.eq_of_compare hid').symm hid

end SessionAuth
