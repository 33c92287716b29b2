/-!
# Finite maps

A `Table` is a list of entries with pairwise distinct keys.  It is read through `get?` alone: two
tables that agree there behave alike, whatever the order of their entries.

## What is here

* `get?_set`, `get?_erase` and `get?_modify` say what each operation does to the view `get?`.
* `mem_keys_iff` and `mem_values_iff` say which keys and values a table has, and `keys_nodup` that
  it has each key once.
* `erase_of_get?_eq_none` and `modify_of_get?_eq_none` say that nothing is done where a key has no
  entry.
-/

set_option autoImplicit false

namespace SessionAuth

/-- A finite map from `κ` to `ν`, as its entries with the most recently written one first. -/
structure Table (κ ν : Type) where
  /-- The entries, each key once. -/
  entries : List (κ × ν)
  nodup : (entries.map (·.1)).Nodup

namespace Table

variable {κ ν : Type} [DecidableEq κ]

/-- The table without entries. -/
def empty : Table κ ν := ⟨[], List.nodup_nil⟩

instance : Inhabited (Table κ ν) := ⟨empty⟩
instance : EmptyCollection (Table κ ν) := ⟨empty⟩

/-- The keys of a table. -/
def keys (t : Table κ ν) : List κ := t.entries.map (·.1)

/-- The values of a table, in the order of its keys. -/
def values (t : Table κ ν) : List ν := t.entries.map (·.2)

/-- The value stored under a key. -/
def get? (t : Table κ ν) (k : κ) : Option ν :=
  (t.entries.find? fun e => e.1 = k).map (·.2)

/-- The table without the entry of a key. -/
def erase (t : Table κ ν) (k : κ) : Table κ ν where
  entries := t.entries.filter fun e => e.1 ≠ k
  nodup := t.nodup.sublist ((List.filter_sublist).map _)

theorem not_mem_keys_erase (t : Table κ ν) (k : κ) : k ∉ (t.erase k).keys := by
  simp [keys, erase]

/-- The table with a value written under a key, replacing what was there. -/
def set (t : Table κ ν) (k : κ) (v : ν) : Table κ ν where
  entries := (k, v) :: (t.erase k).entries
  nodup := List.nodup_cons.2 ⟨t.not_mem_keys_erase k, (t.erase k).nodup⟩

/-- The table with a function applied to the value of a key, if it has one. -/
def modify (t : Table κ ν) (k : κ) (f : ν → ν) : Table κ ν where
  entries := t.entries.map fun e => if e.1 = k then (e.1, f e.2) else e
  nodup := by
    have h : (t.entries.map fun e => if e.1 = k then (e.1, f e.2) else e).map (·.1) =
        t.entries.map (·.1) := by
      rw [List.map_map]
      refine List.map_congr_left fun e _ => ?_
      simp only [Function.comp]
      split <;> rfl
    rw [h]
    exact t.nodup

/-- A table that holds exactly the given entries; of two entries with one key the later stays. -/
def ofList (es : List (κ × ν)) : Table κ ν :=
  es.foldl (fun t e => t.set e.1 e.2) empty

@[simp] theorem get?_empty (k : κ) : (empty : Table κ ν).get? k = none := rfl

omit [DecidableEq κ] in
theorem keys_nodup (t : Table κ ν) : t.keys.Nodup := t.nodup

theorem mem_keys_iff (t : Table κ ν) (k : κ) : k ∈ t.keys ↔ (t.get? k).isSome := by
  simp [keys, get?]

theorem get?_eq_some_iff {t : Table κ ν} {k : κ} {v : ν} :
    t.get? k = some v ↔ (k, v) ∈ t.entries := by
  simp only [get?, Option.map_eq_some_iff]
  constructor
  · rintro ⟨e, he, rfl⟩
    have hkey : e.1 = k := by simpa using List.find?_some he
    exact hkey ▸ List.mem_of_find?_eq_some he
  · intro hmem
    refine ⟨(k, v), List.find?_eq_some_iff_append.2 ⟨by simp, ?_⟩, rfl⟩
    -- no earlier entry has the key
    obtain ⟨before, after, hentries⟩ := List.append_of_mem hmem
    refine ⟨before, after, hentries, fun e he => ?_⟩
    have hnodup := t.nodup
    rw [hentries, List.map_append, List.map_cons, List.nodup_append] at hnodup
    have hne : e.1 ≠ k := hnodup.2.2 _ (List.mem_map_of_mem he) _ (List.mem_cons_self ..)
    simpa using hne

theorem mem_values_iff {t : Table κ ν} {v : ν} : v ∈ t.values ↔ ∃ k, t.get? k = some v := by
  simp [values, get?_eq_some_iff]

theorem get?_erase (t : Table κ ν) (k j : κ) :
    (t.erase k).get? j = if j = k then none else t.get? j := by
  by_cases h : j = k
  · subst h
    simp [get?, erase]
  · simp only [get?, erase, h, if_false, List.find?_filter]
    congr 2
    funext e
    by_cases he : e.1 = j
    · simp [he, h]
    · simp [he]

theorem get?_set (t : Table κ ν) (k j : κ) (v : ν) :
    (t.set k v).get? j = if j = k then some v else t.get? j := by
  by_cases h : j = k
  · subst h
    simp [get?, set]
  · have := t.get?_erase k j
    simp only [get?, h, if_false] at this
    simp only [get?, set, h, if_false]
    rw [List.find?_cons_of_neg (by simpa using fun hk : k = j => h hk.symm), this]

theorem get?_erase_eq_some_iff {t : Table κ ν} {k j : κ} {v : ν} :
    (t.erase k).get? j = some v ↔ j ≠ k ∧ t.get? j = some v := by
  rw [get?_erase]
  split <;> simp_all

theorem get?_set_eq_some_iff {t : Table κ ν} {k j : κ} {v w : ν} :
    (t.set k v).get? j = some w ↔ j = k ∧ v = w ∨ j ≠ k ∧ t.get? j = some w := by
  rw [get?_set]
  split <;> simp_all

theorem get?_modify (t : Table κ ν) (k j : κ) (f : ν → ν) :
    (t.modify k f).get? j = if j = k then (t.get? j).map f else t.get? j := by
  obtain ⟨es, hn⟩ := t
  simp only [get?, modify]
  clear hn
  induction es with
  | nil => simp
  | cons e es ih =>
    simp only [List.map_cons, List.find?_cons]
    by_cases he : e.1 = k <;> by_cases hj : e.1 = j
    · subst he; subst hj; simp
    · subst he
      have : ¬ j = e.1 := fun hh => hj hh.symm
      simp [hj, this] at ih ⊢
      exact ih
    · subst hj
      simp [he]
    · simp [he, hj] at ih ⊢
      exact ih

/-! ## Keys without an entry -/

omit [DecidableEq κ] in
theorem ext_entries {t u : Table κ ν} (h : t.entries = u.entries) : t = u := by
  cases t
  cases u
  cases h
  rfl

section Absent

variable {t : Table κ ν} {k : κ}

theorem ne_of_mem_of_get?_eq_none (h : t.get? k = none) {e : κ × ν} (he : e ∈ t.entries) :
    e.1 ≠ k := by
  rintro rfl
  cases (get?_eq_some_iff.2 he).symm.trans h

theorem erase_of_get?_eq_none (h : t.get? k = none) : t.erase k = t := by
  refine ext_entries (List.filter_eq_self.2 fun e he => ?_)
  simpa using ne_of_mem_of_get?_eq_none h he

theorem modify_of_get?_eq_none (h : t.get? k = none) (g : ν → ν) : t.modify k g = t := by
  refine ext_entries ((List.map_congr_left fun e he => ?_).trans (List.map_id _))
  rw [if_neg (ne_of_mem_of_get?_eq_none h he), id]

end Absent

end Table
end SessionAuth
