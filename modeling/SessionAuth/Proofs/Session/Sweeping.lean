import Mathlib.Algebra.BigOperators.Group.Finset.Basic
import Mathlib.Algebra.Order.Ring.Nat
import SessionAuth.Proofs.Program.Run
import SessionAuth.Proofs.Session.Fading

/-!
# What a sweep does

Sweeping goes through the indexes of users one after the other and drops the sessions that are gone.
`Swept` says what has become of a store when some indexes were swept, without saying in which order:
each index was swept once, and sweeping one neither hides from another what is gone nor brings
anything back (`Swept.cons`).  So the number of sessions that are dropped from all indexes depends
only on what is live (`sweepAll_exact`), and a store that has lost what had expired is swept alike
although its users are listed in another order (`Faded.sweepAll`).
-/

set_option autoImplicit false

namespace SessionAuth
namespace SessionStore

open Expiring

variable {now : Nat} {s s' t t' : SessionStore}

/-- The sessions that an index names although they are gone. -/
def gone (s : SessionStore) (now : Nat) (user : UserId) : List String :=
  (s.indexed now user).filter fun id => (s.session? now id).isNone

theorem mem_gone {user : UserId} {id : String} :
    id ∈ s.gone now user ↔ id ∈ s.indexed now user ∧ s.session? now id = none := by
  rw [gone, List.mem_filter, Option.isNone_iff_eq_none]

/-- An index without some ids. -/
def without (x : Expiring (SortedSet String)) (ids : List String) : Expiring (SortedSet String) :=
  ids.foldl (fun x id => x.map (·.erase id)) x

theorem isLive_without (x : Expiring (SortedSet String)) (ids : List String) :
    (without x ids).isLive now = x.isLive now := by
  induction ids generalizing x with
  | nil => rfl
  | cons id ids ih => exact ih (x.map (·.erase id))

/-! ## One index -/

variable (now s)

theorem get?_purgeSession (first id : String) : (s.purgeSession now first).sessions.get? id =
    if id = first ∧ s.session? now id = none then none else s.sessions.get? id := by
  rw [purgeSession]
  by_cases hid : id = first
  · subst hid
    cases hlive : s.session? now id with
    | none => simp [Table.get?_erase]
    | some session => simp
  · split
    · simp [hid]
    · simp [Table.get?_erase, hid]

theorem get?_purgeSessions (ids : List String) (id : String) :
    (ids.foldl (fun s id => s.purgeSession now id) s).sessions.get? id =
      if id ∈ ids ∧ s.session? now id = none then none else s.sessions.get? id := by
  induction ids generalizing s with
  | nil => simp
  | cons first ids ih =>
    have hlive : (s.purgeSession now first).session? now id = s.session? now id :=
      ((Faded.refl now s).purgeSession_right first).session?_eq id
    rw [List.foldl_cons, ih, hlive, get?_purgeSession]
    by_cases hid : id = first
    · subst hid
      by_cases hdead : s.session? now id = none <;> simp [hdead]
    · simp [hid]

theorem pointers_purgeSessions (ids : List String) :
    (ids.foldl (fun s id => s.purgeSession now id) s).pointers = s.pointers := by
  induction ids generalizing s with
  | nil => rfl
  | cons id ids ih => exact (ih _).trans (pointers_purgeSession now s id)

theorem removeFromIndexes (user : UserId) (ids : List String) :
    (ids.foldl (fun s id => s.removeFromIndex user id) s).sessions = s.sessions ∧
    (ids.foldl (fun s id => s.removeFromIndex user id) s).pointers = s.pointers ∧
    ∀ v, (ids.foldl (fun s id => s.removeFromIndex user id) s).indexes.get? v =
      if v = user then (s.indexes.get? v).map (without · ids) else s.indexes.get? v := by
  induction ids generalizing s with
  | nil => simp [without]
  | cons id ids ih =>
    obtain ⟨hsessions, hpointers, hindexes⟩ := ih (s.removeFromIndex user id)
    refine ⟨hsessions, hpointers, fun v => ?_⟩
    rw [List.foldl_cons, hindexes v, removeFromIndex, Table.get?_modify]
    split
    · rw [Option.map_map]
      rfl
    · rfl

/-! ## Several indexes -/

variable {now s}

/-- What has become of a store when the indexes of some users were swept. -/
structure Swept (now : Nat) (users : List UserId) (s s' : SessionStore) : Prop where
  sessions : ∀ id, s'.sessions.get? id =
    if ∃ user ∈ users, id ∈ s.gone now user then none else s.sessions.get? id
  pointers : s'.pointers = s.pointers
  indexes : ∀ user, kept now (s'.indexes.get? user) =
    if user ∈ users then (kept now (s.indexes.get? user)).map (without · (s.gone now user))
    else kept now (s.indexes.get? user)

namespace Swept

variable {user : UserId} {users others : List UserId}

theorem nil (now : Nat) (s : SessionStore) : Swept now [] s s := ⟨by simp, rfl, by simp⟩

/-- One index is swept. -/
theorem sweepUser (now : Nat) (s : SessionStore) (user : UserId) :
    Swept now [user] s (s.sweepUser now user).2 := by
  obtain ⟨hsessions, hpointers, hindexes⟩ := removeFromIndexes
    ((s.indexed now user).foldl (fun s id => s.purgeSession now id) (s.purgeIndex now user)) user
    (s.gone now user)
  have hfaded : Faded now s (s.purgeIndex now user) := (Faded.refl now s).purgeIndex_right user
  have hpurged := hfaded.purgeSessions_right (s.indexed now user)
  constructor
  case sessions =>
    intro id
    refine (congrArg (·.get? id) hsessions).trans ?_
    rw [get?_purgeSessions, hfaded.session?_eq, sessions_purgeIndex]
    simp only [List.mem_singleton, exists_eq_left, mem_gone]
  case pointers =>
    exact hpointers.trans ((pointers_purgeSessions now _ _).trans (pointers_purgeIndex now s user))
  case indexes =>
    intro v
    refine (congrArg (kept now) (hindexes v)).trans ?_
    simp only [List.mem_singleton]
    split
    · rename_i hv
      rw [kept_map (isLive_without · _), hpurged.indexes v, hv]
    · exact hpurged.indexes v

/-- At no time from a sweep on is there another record of a session than without it. -/
theorem session?_of_le (h : Swept now users s s') {later : Nat} (hle : now ≤ later) (id : String) :
    s'.session? later id = s.session? later id := by
  rw [session?, h.sessions]
  split
  · rename_i hgone
    obtain ⟨user, -, hid⟩ := hgone
    exact (session?_eq_none_of_le (mem_gone.1 hid).2 hle).symm
  · rfl

/-- A session is live after a sweep just if it was before. -/
theorem session?_eq (h : Swept now users s s') (id : String) :
    s'.session? now id = s.session? now id := h.session?_of_le (Nat.le_refl _) id

/-- The sweep of some indexes leaves the others for what they were. -/
theorem gone_eq (h : Swept now users s s') (hnot : user ∉ users) :
    s'.gone now user = s.gone now user := by
  have hindex : s'.index? now user = s.index? now user := by
    rw [index?, index?, live?_eq_map_kept, live?_eq_map_kept, h.indexes, if_neg hnot]
  rw [gone, gone, indexed, indexed, hindex, funext h.session?_eq]

/-- Indexes are swept one after the other, each of them once. -/
theorem cons (hfirst : Swept now [user] s s') (hrest : Swept now users s' t) (hnot : user ∉ users) :
    Swept now (user :: users) s t := by
  have hgone : ∀ v ∈ users, s'.gone now v = s.gone now v := by
    intro v hv
    refine hfirst.gone_eq ?_
    rw [List.mem_singleton]
    rintro rfl
    exact hnot hv
  constructor
  case sessions =>
    intro id
    rw [hrest.sessions, hfirst.sessions]
    by_cases hid : id ∈ s.gone now user
    · simp [hid]
    · have hone : ¬ ∃ v ∈ [user], id ∈ s.gone now v := by simpa using hid
      rw [if_neg hone]
      refine if_congr ?_ rfl rfl
      rw [List.exists_mem_cons_iff, or_iff_right hid]
      exact exists_congr fun v => and_congr_right fun hv => by rw [hgone v hv]
  case pointers => rw [hrest.pointers, hfirst.pointers]
  case indexes =>
    intro v
    rw [hrest.indexes, hfirst.indexes]
    simp only [List.mem_cons, List.not_mem_nil, or_false]
    by_cases hv : v = user
    · subst hv
      simp [hnot]
    · by_cases hmem : v ∈ users
      · simp [hv, hmem, hgone v hmem]
      · simp [hv, hmem]

end Swept

/-- Sweeping some indexes drops what is gone from each of them. -/
theorem sweepUsers_exact {users : List UserId} (hnodup : users.Nodup) (s : SessionStore) :
    ∃ s', (sweepUsers users).runOn (answer now) s =
        (.ok (users.map fun user => (s.gone now user).length).sum, s') ∧
      Swept now users s s' := by
  induction users generalizing s with
  | nil => exact ⟨s, rfl, .nil now s⟩
  | cons user users ih =>
    obtain ⟨hnot, hnodup⟩ := List.nodup_cons.1 hnodup
    have hfirst := Swept.sweepUser now s user
    obtain ⟨t, hrun, hswept⟩ := ih hnodup (s.sweepUser now user).2
    have hcall : (call (.sweepUser user)).runOn (answer now) s =
        (.ok (s.gone now user).length, (s.sweepUser now user).2) := rfl
    have hcounts : (users.map fun v => ((s.sweepUser now user).2.gone now v).length) =
        users.map fun v => (s.gone now v).length := by
      refine List.map_congr_left fun v hv => congrArg List.length (hfirst.gone_eq ?_)
      rw [List.mem_singleton]
      rintro rfl
      exact hnot hv
    rw [hcounts] at hrun
    refine ⟨t, ?_, hfirst.cons hswept hnot⟩
    rw [sweepUsers, Fallible.runOn_bind_of_ok _ _ hcall, Fallible.runOn_bind_of_ok _ _ hrun,
      Fallible.runOn_pure, List.map_cons, List.sum_cons]

/-- **Sweeping is exact.**  It drops from all indexes what is gone. -/
theorem sweepAll_exact (now : Nat) (s : SessionStore) :
    ∃ s', sweepAll.runOn (answer now) s =
        (.ok (s.indexes.keys.map fun user => (s.gone now user).length).sum, s') ∧
      Swept now s.indexes.keys s s' := by
  obtain ⟨s', hrun, hswept⟩ := sweepUsers_exact s.indexes.keys_nodup s
  have hasked : indexedUsers.runOn (answer now) s = (.ok s.indexes.keys, s) := rfl
  exact ⟨s', (Fallible.runOn_bind_of_ok _ _ hasked _).trans hrun, hswept⟩

/-! ## Stores that have lost what had expired -/

namespace Faded

variable {users others : List UserId}

theorem gone_eq (h : Faded now s t) (user : UserId) : t.gone now user = s.gone now user := by
  rw [gone, gone, h.indexed_eq, funext h.session?_eq]

/-- Only an index that is live names sessions that are gone. -/
theorem isSome_index?_of_mem_gone {user : UserId} {id : String} (hid : id ∈ s.gone now user) :
    (s.index? now user).isSome := by
  obtain ⟨x, hx, hlive, -⟩ := mem_indexed.1 (mem_gone.1 hid).1
  exact Option.isSome_iff_exists.2 ⟨x.value, index?_eq_some_iff.2 ⟨x, hx, hlive, rfl⟩⟩

theorem mem_keys_of_isSome_index? {user : UserId} (hlive : (s.index? now user).isSome) :
    user ∈ s.indexes.keys := by
  obtain ⟨ids, hids⟩ := Option.isSome_iff_exists.1 hlive
  obtain ⟨x, hx, -⟩ := index?_eq_some_iff.1 hids
  rw [Table.mem_keys_iff, hx]
  rfl

/-- Stores are swept alike if the live indexes that are swept are the same. -/
theorem swept (h : Faded now s t) (hs : Swept now users s s') (ht : Swept now others t t')
    (hcover : ∀ user, (s.index? now user).isSome → (user ∈ users ↔ user ∈ others)) :
    Faded now s' t' := by
  have hgone : ∀ id, (∃ user ∈ users, id ∈ s.gone now user) ↔
      ∃ user ∈ others, id ∈ t.gone now user := by
    intro id
    simp only [h.gone_eq]
    constructor
    · rintro ⟨user, huser, hid⟩
      exact ⟨user, (hcover user (isSome_index?_of_mem_gone hid)).1 huser, hid⟩
    · rintro ⟨user, huser, hid⟩
      exact ⟨user, (hcover user (isSome_index?_of_mem_gone hid)).2 huser, hid⟩
  constructor
  case sessions =>
    intro id
    rw [hs.sessions, ht.sessions]
    by_cases hid : ∃ user ∈ users, id ∈ s.gone now user
    · rw [if_pos hid, if_pos ((hgone id).1 hid)]
      exact .inl rfl
    · rw [if_neg hid, if_neg (mt (hgone id).2 hid)]
      exact h.sessions id
  case pointers =>
    rw [hs.pointers, ht.pointers]
    exact h.pointers
  case indexes =>
    intro user
    rw [hs.indexes, ht.indexes, h.gone_eq, h.indexes user]
    by_cases hlive : (s.index? now user).isSome
    · exact if_congr (hcover user hlive).symm rfl rfl
    · -- there is nothing to sweep
      rw [kept_eq_none_iff.2 (Option.not_isSome_iff_eq_none.1 hlive)]
      split <;> split <;> rfl

/-- The index of a user is swept alike. -/
theorem sweepUser (h : Faded now s t) (user : UserId) :
    (t.sweepUser now user).1 = (s.sweepUser now user).1 ∧
      Faded now (s.sweepUser now user).2 (t.sweepUser now user).2 := by
  refine ⟨congrArg List.length (h.gone_eq user), ?_⟩
  exact h.swept (.sweepUser now s user) (.sweepUser now t user) fun _ _ => Iff.rfl

/-- All indexes are swept alike. -/
theorem sweepAll (h : Faded now s t) :
    (SessionStore.sweepAll.runOn (answer now) t).1 =
        (SessionStore.sweepAll.runOn (answer now) s).1 ∧
      Faded now (SessionStore.sweepAll.runOn (answer now) s).2
        (SessionStore.sweepAll.runOn (answer now) t).2 := by
  obtain ⟨s', hs, hsweptS⟩ := sweepAll_exact now s
  obtain ⟨t', ht, hsweptT⟩ := sweepAll_exact now t
  have hcover : ∀ user, (s.index? now user).isSome →
      user ∈ s.indexes.keys ∧ user ∈ t.indexes.keys := by
    intro user hlive
    exact ⟨mem_keys_of_isSome_index? hlive, mem_keys_of_isSome_index? (h.index?_eq user ▸ hlive)⟩
  -- whoever has an index in one of them alone has no sessions to drop
  have hnone : ∀ user, ¬ (user ∈ s.indexes.keys ∧ user ∈ t.indexes.keys) →
      (s.gone now user).length = 0 := by
    intro user huser
    refine List.length_eq_zero_iff.2 (List.eq_nil_iff_forall_not_mem.2 fun id hid => huser ?_)
    exact hcover user (isSome_index?_of_mem_gone hid)
  have hcount : (t.indexes.keys.map fun user => (s.gone now user).length).sum =
      (s.indexes.keys.map fun user => (s.gone now user).length).sum := by
    rw [← List.sum_toFinset _ t.indexes.keys_nodup, ← List.sum_toFinset _ s.indexes.keys_nodup]
    refine Finset.sum_congr_of_eq_on_inter ?_ ?_ fun _ _ _ => rfl
    · exact fun user _ hnot => hnone user fun hboth => hnot (List.mem_toFinset.2 hboth.1)
    · exact fun user _ hnot => hnone user fun hboth => hnot (List.mem_toFinset.2 hboth.2)
  rw [hs, ht]
  simp only [h.gone_eq, hcount, true_and]
  refine h.swept hsweptS hsweptT fun user hlive => ?_
  exact iff_of_true (hcover user hlive).1 (hcover user hlive).2

end Faded
end SessionStore
end SessionAuth
