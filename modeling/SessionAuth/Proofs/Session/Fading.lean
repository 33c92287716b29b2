import SessionAuth.Proofs.Session.Index

/-!
# Stores that have lost what had expired

Reading purges entries that have expired, so that two stores that went through the same operations
hold different entries if one of them was read more often.  `Faded` is how they are related: what is
live is the same in both, and the one that was read more has no records that the other has not.  The
second half is not about what can be read.  A deletion takes a record away without a look at its
deadline, and all that the relation allows is that there is less to take away.

Every operation keeps the relation and gives the same result in both, with one exception.  Deleting
a session does to the first store what it cannot do to the second if its record has expired and
something that belongs to it has not (`IsRemnant`), so that `Faded.delete` leaves these out.
-/

set_option autoImplicit false

namespace SessionAuth

/-! ## Tables whose entries expire -/

namespace Expiring

variable {α : Type} {now later : Nat}

/-- The entry, if it is still there. -/
def kept (now : Nat) (e : Option (Expiring α)) : Option (Expiring α) := e.filter (·.isLive now)

theorem live?_eq_map_kept (e : Option (Expiring α)) :
    live? now e = (kept now e).map (·.value) := rfl

theorem kept_eq_none_iff {e : Option (Expiring α)} : kept now e = none ↔ live? now e = none := by
  rw [live?_eq_map_kept, Option.map_eq_none_iff]

theorem kept_eq_some_iff {e : Option (Expiring α)} {x : Expiring α} :
    kept now e = some x ↔ e = some x ∧ now < x.deadline := by
  rw [kept, Option.filter_eq_some_iff, isLive_iff]

@[simp] theorem kept_none : kept now (none : Option (Expiring α)) = none := rfl

/-- What is done to a value that it leaves as live as it was may be done before or after. -/
theorem kept_map {f : Expiring α → Expiring α} (hf : ∀ e, (f e).isLive now = e.isLive now)
    (e : Option (Expiring α)) : kept now (e.map f) = (kept now e).map f := by
  cases e with
  | none => rfl
  | some x => cases hx : x.isLive now <;> simp [kept, Option.filter, hf, hx]

/-- What is there later was there before. -/
theorem kept_kept (h : now ≤ later) (e : Option (Expiring α)) :
    kept later (kept now e) = kept later e := by
  cases e with
  | none => rfl
  | some x =>
    by_cases hx : later < x.deadline
    · have : now < x.deadline := by omega
      simp [kept, Option.filter, isLive, hx, this]
    · by_cases hnow : now < x.deadline <;> simp [kept, Option.filter, isLive, hx, hnow]

end Expiring

namespace Table

open Expiring

variable {κ ν : Type} [DecidableEq κ] {now later : Nat} {a b : Table κ (Expiring ν)}

/-- Two tables have the same live entries. -/
def SameLive (now : Nat) (a b : Table κ (Expiring ν)) : Prop :=
  ∀ k, kept now (b.get? k) = kept now (a.get? k)

namespace SameLive

theorem refl (now : Nat) (a : Table κ (Expiring ν)) : SameLive now a a := fun _ => rfl

theorem mono (h : SameLive now a b) (hle : now ≤ later) : SameLive later a b := by
  intro k
  rw [← kept_kept hle (b.get? k), h k, kept_kept hle]

theorem set (h : SameLive now a b) (k : κ) (e : Expiring ν) :
    SameLive now (a.set k e) (b.set k e) := by
  intro j
  rw [get?_set, get?_set]
  split
  · rfl
  · exact h j

theorem erase (h : SameLive now a b) (k : κ) : SameLive now (a.erase k) (b.erase k) := by
  intro j
  rw [get?_erase, get?_erase]
  split
  · rfl
  · exact h j

theorem symm (h : SameLive now a b) : SameLive now b a := fun k => (h k).symm

/-- An expired entry may go. -/
theorem erase_right (h : SameLive now a b) {k : κ} (hk : kept now (b.get? k) = none) :
    SameLive now a (b.erase k) := by
  intro j
  rw [get?_erase]
  split
  · rename_i hj
    rw [← h j, hj, hk, kept_none]
  · exact h j

theorem erase_left (h : SameLive now a b) {k : κ} (hk : kept now (a.get? k) = none) :
    SameLive now (a.erase k) b :=
  (h.symm.erase_right hk).symm

/-- Live entries may be changed alike, so long as they stay live and expired ones do not. -/
theorem modify (h : SameLive now a b) (k : κ) {f : Expiring ν → Expiring ν}
    (hf : ∀ e, (f e).isLive now = e.isLive now) : SameLive now (a.modify k f) (b.modify k f) := by
  intro j
  rw [get?_modify, get?_modify]
  split
  · rw [kept_map hf, kept_map hf, h j]
  · exact h j

/-- An entry may be changed on one side only if it has expired, or stays as it is. -/
theorem modify_left (h : SameLive now a b) {k : κ} {f : Expiring ν → Expiring ν}
    (hf : ∀ e, (f e).isLive now = e.isLive now)
    (hkeep : ∀ e, kept now (a.get? k) = some e → f e = e) : SameLive now (a.modify k f) b := by
  intro j
  rw [get?_modify]
  split
  · rename_i hj
    subst hj
    rw [kept_map hf, h j]
    cases ha : kept now (a.get? j) with
    | none => rfl
    | some x => exact (congrArg some (hkeep x ha)).symm
  · exact h j

end SameLive

/-- One table is another from which expired entries may be missing. -/
def Fades (now : Nat) (a b : Table κ (Expiring ν)) : Prop :=
  ∀ k, b.get? k = a.get? k ∨ b.get? k = none ∧ kept now (a.get? k) = none

namespace Fades

theorem sameLive (h : Fades now a b) : SameLive now a b := by
  intro k
  rcases h k with heq | ⟨hnone, hdead⟩
  · rw [heq]
  · rw [hnone, hdead, kept_none]

theorem mono (h : Fades now a b) (hle : now ≤ later) : Fades later a b :=
  fun k => (h k).imp_right fun ⟨hnone, hdead⟩ => ⟨hnone, by rw [← kept_kept hle, hdead, kept_none]⟩

theorem set (h : Fades now a b) (k : κ) (e : Expiring ν) : Fades now (a.set k e) (b.set k e) := by
  intro j
  rw [get?_set, get?_set]
  split
  · exact .inl rfl
  · exact h j

theorem erase (h : Fades now a b) (k : κ) : Fades now (a.erase k) (b.erase k) := by
  intro j
  rw [get?_erase, get?_erase]
  split
  · exact .inl rfl
  · exact h j

/-- An entry that is missing anyway may go. -/
theorem erase_left (h : Fades now a b) {k : κ} (hk : b.get? k = none) :
    Fades now (a.erase k) b := by
  intro j
  rw [get?_erase]
  split
  · rename_i hj
    exact .inl (hj ▸ hk)
  · exact h j

/-- An expired entry may go missing. -/
theorem erase_right (h : Fades now a b) {k : κ} (hk : kept now (a.get? k) = none) :
    Fades now a (b.erase k) := by
  intro j
  rw [get?_erase]
  split
  · rename_i hj
    exact .inr ⟨rfl, hj ▸ hk⟩
  · exact h j

end Fades
end Table

/-! ## Stores -/

namespace SessionStore

open Expiring

/-- One store is another without some of what has expired.  Of its records it has no others than
that one, so that deleting a session here does nothing that it would not do there. -/
structure Faded (now : Nat) (s t : SessionStore) : Prop where
  sessions : Table.Fades now s.sessions t.sessions
  pointers : Table.SameLive now s.pointers t.pointers
  indexes : Table.SameLive now s.indexes t.indexes

namespace Faded

variable {now later : Nat} {s t : SessionStore}

theorem refl (now : Nat) (s : SessionStore) : Faded now s s :=
  ⟨fun _ => .inl rfl, .refl now _, .refl now _⟩

theorem mono (h : Faded now s t) (hle : now ≤ later) : Faded later s t :=
  ⟨h.sessions.mono hle, h.pointers.mono hle, h.indexes.mono hle⟩

theorem session?_eq (h : Faded now s t) (id : String) : t.session? now id = s.session? now id :=
  congrArg (Option.map Expiring.value) (h.sessions.sameLive id)

theorem pointer?_eq (h : Faded now s t) (jti : String) : t.pointer? now jti = s.pointer? now jti :=
  congrArg (Option.map Expiring.value) (h.pointers jti)

theorem index?_eq (h : Faded now s t) (user : UserId) : t.index? now user = s.index? now user :=
  congrArg (Option.map Expiring.value) (h.indexes user)

theorem indexed_eq (h : Faded now s t) (user : UserId) :
    t.indexed now user = s.indexed now user := by
  rw [indexed, indexed, h.index?_eq]

/-! ### Purging -/

/-- A record that has expired may be purged in both. -/
theorem purgeSession (h : Faded now s t) (id : String) :
    Faded now (s.purgeSession now id) (t.purgeSession now id) := by
  rw [SessionStore.purgeSession, SessionStore.purgeSession, h.session?_eq]
  split
  · exact h
  · exact ⟨h.sessions.erase id, h.pointers, h.indexes⟩

/-- A record that has expired may be purged in the second alone. -/
theorem purgeSession_right (h : Faded now s t) (id : String) :
    Faded now s (t.purgeSession now id) := by
  rw [SessionStore.purgeSession]
  split
  · exact h
  · rename_i hdead
    rw [h.session?_eq, Option.not_isSome_iff_eq_none] at hdead
    exact ⟨h.sessions.erase_right (kept_eq_none_iff.2 hdead), h.pointers, h.indexes⟩

theorem purgeSessions (h : Faded now s t) (ids : List String) :
    Faded now (ids.foldl (fun s id => s.purgeSession now id) s)
      (ids.foldl (fun s id => s.purgeSession now id) t) := by
  induction ids generalizing s t with
  | nil => exact h
  | cons id ids ih => exact ih (h.purgeSession id)

theorem purgeSessions_right (h : Faded now s t) (ids : List String) :
    Faded now s (ids.foldl (fun s id => s.purgeSession now id) t) := by
  induction ids generalizing t with
  | nil => exact h
  | cons id ids ih => exact ih (h.purgeSession_right id)

/-- An index that has expired may be purged in the second alone. -/
theorem purgeIndex_right (h : Faded now s t) (user : UserId) :
    Faded now s (t.purgeIndex now user) := by
  rw [SessionStore.purgeIndex]
  split
  · exact h
  · rename_i hdead
    rw [Option.not_isSome_iff_eq_none] at hdead
    exact ⟨h.sessions, h.pointers, h.indexes.erase_right (kept_eq_none_iff.2 hdead)⟩

/-- An index that has expired may be purged in the first alone. -/
theorem purgeIndex_left (h : Faded now s t) (user : UserId) :
    Faded now (s.purgeIndex now user) t := by
  rw [SessionStore.purgeIndex]
  split
  · exact h
  · rename_i hdead
    rw [Option.not_isSome_iff_eq_none] at hdead
    exact ⟨h.sessions, h.pointers, h.indexes.erase_left (kept_eq_none_iff.2 hdead)⟩

theorem purgeIndex (h : Faded now s t) (user : UserId) :
    Faded now (s.purgeIndex now user) (t.purgeIndex now user) :=
  (h.purgeIndex_left user).purgeIndex_right user

/-! ### Writing -/

theorem removeFromIndex (h : Faded now s t) (user : UserId) (id : String) :
    Faded now (s.removeFromIndex user id) (t.removeFromIndex user id) :=
  ⟨h.sessions, h.pointers, h.indexes.modify user fun _ => rfl⟩

theorem raiseIndex (h : Faded now s t) (user : UserId) (least : Nat) :
    Faded now (s.raiseIndex now user least) (t.raiseIndex now user least) := by
  refine ⟨h.sessions, h.pointers, h.indexes.modify user fun e => ?_⟩
  cases hlive : e.isLive now with
  | false => simp [hlive]
  | true =>
    have hlt : now < e.deadline := isLive_iff.1 hlive
    simp only [if_true]
    exact isLive_iff.2 (Nat.lt_of_lt_of_le hlt (Nat.le_max_left _ _))

theorem addToIndex (h : Faded now s t) (user : UserId) (id : String) (least : Nat) :
    Faded now (s.addToIndex now user id least) (t.addToIndex now user id least) := by
  have hsame : (t.indexes.get? user).filter (·.isLive now) =
      (s.indexes.get? user).filter (·.isLive now) := h.indexes user
  rw [SessionStore.addToIndex, SessionStore.addToIndex, hsame]
  exact ⟨h.sessions, h.pointers, h.indexes.set user _⟩

/-- A session is opened alike. -/
theorem create (h : Faded now s t) (session : Session) (ttls : Ttls) :
    (t.create now session ttls).1 = (s.create now session ttls).1 ∧
      Faded now (s.create now session ttls).2 (t.create now session ttls).2 := by
  rw [SessionStore.create, SessionStore.create]
  split
  · exact ⟨rfl, h⟩
  · refine ⟨rfl, addToIndex ?_ _ _ _⟩
    exact ⟨h.sessions.set _ _, h.pointers.set _ _, h.indexes⟩

/-- A session is carried on alike, or the exchange fails alike. -/
theorem rotate (h : Faded now s t) (r : Rotation) :
    (t.rotate now r).1 = (s.rotate now r).1 ∧
      Faded now (s.rotate now r).2 (t.rotate now r).2 := by
  have htaken : Faded now { s with pointers := s.pointers.erase r.oldJti }
      { t with pointers := t.pointers.erase r.oldJti } :=
    ⟨h.sessions, h.pointers.erase _, h.indexes⟩
  simp only [SessionStore.rotate, h.pointer?_eq]
  split
  · exact ⟨rfl, h⟩
  split
  · exact ⟨rfl, htaken⟩
  rename_i id _
  simp only [htaken.session?_eq]
  split
  · exact ⟨rfl, htaken.purgeSession id⟩
  · refine ⟨rfl, raiseIndex ?_ _ _⟩
    exact ⟨htaken.sessions.set _ _, htaken.pointers.set _ _, h.indexes⟩

/-- An exchange that is refused takes the pointer of its token away, and at most purges a record
that has expired. -/
theorem rotate_of_spent {r : Rotation} (hvalid : r.ttls.isValid)
    (hspent : ∀ id, s.pointer? now r.oldJti = some id → s.session? now id = none) :
    Faded now { s with pointers := s.pointers.erase r.oldJti } (s.rotate now r).2 := by
  simp only [SessionStore.rotate, hvalid, Bool.not_true, Bool.false_eq_true, if_false]
  cases hp : s.pointer? now r.oldJti with
  | none => exact .refl _ _
  | some id =>
    have hgone : session? { s with pointers := s.pointers.erase r.oldJti } now id = none :=
      hspent id hp
    simp only [hgone]
    exact (Faded.refl now _).purgeSession_right id

/-! ### Reading -/

theorem get (h : Faded now s t) (id : String) :
    (t.get now id).1 = (s.get now id).1 ∧ Faded now (s.get now id).2 (t.get now id).2 :=
  ⟨h.session?_eq id, h.purgeSession id⟩

theorem listByUser (h : Faded now s t) (user : UserId) :
    (t.listByUser now user).1 = (s.listByUser now user).1 ∧
      Faded now (s.listByUser now user).2 (t.listByUser now user).2 := by
  have hsession : t.session? now = s.session? now := funext h.session?_eq
  simp only [SessionStore.listByUser, h.indexed_eq, hsession, true_and]
  exact (h.purgeIndex user).purgeSessions _

theorem indexSize (h : Faded now s t) (user : UserId) :
    (t.indexSize now user).1 = (s.indexSize now user).1 ∧
      Faded now (s.indexSize now user).2 (t.indexSize now user).2 :=
  ⟨congrArg List.length (h.indexed_eq user), h.purgeIndex user⟩

/-! ### Deleting -/

end Faded

/-- A record that has expired but is still there, and with which something would be deleted that has
not: its pointer, or its place in the index of its owner. -/
structure IsRemnant (s : SessionStore) (now : Nat) (id : String) (e : Expiring Session) : Prop where
  record : s.sessions.get? id = some e
  expired : e.deadline ≤ now
  attached : s.hasJti now e.value.currentJti = true ∨ id ∈ s.indexed now e.value.userId

/-- Whether there is a remnant of a session. -/
def HasRemnant (s : SessionStore) (now : Nat) (id : String) : Prop := ∃ e, s.IsRemnant now id e

/-- Losing an entry leaves no new remnant behind. -/
theorem Prune.hasRemnant {now : Nat} {s s' : SessionStore} (h : Prune now s s') {id : String}
    (hr : s'.HasRemnant now id) : s.HasRemnant now id := by
  obtain ⟨e, hrecord, hexpired, hattached⟩ := hr
  refine ⟨e, h.sessions_get? hrecord, hexpired, hattached.imp (fun hjti => ?_) fun hmem => ?_⟩
  · obtain ⟨i, hi⟩ := Option.isSome_iff_exists.1 hjti
    obtain ⟨p, hp, hlive, -⟩ := pointer?_eq_some_iff.1 hi
    exact Option.isSome_iff_exists.2 ⟨_, pointer?_eq_some_iff.2 ⟨p, h.pointers_get? hp, hlive, rfl⟩⟩
  · obtain ⟨x', hx', hlive, hmem⟩ := mem_indexed.1 hmem
    obtain ⟨x, hx, hdeadline, hsub⟩ := h.indexes_get? hx'
    exact mem_indexed.2 ⟨x, hx, hdeadline ▸ hlive, hsub _ hmem⟩

theorem Prunes.hasRemnant {now : Nat} {s s' : SessionStore} (h : Prunes now s s') {id : String}
    (hr : s'.HasRemnant now id) : s.HasRemnant now id := by
  induction h with
  | refl => exact hr
  | tail _ hlast ih => exact ih (hlast.hasRemnant hr)

namespace Faded

variable {now later : Nat} {s t : SessionStore}

/-- A session that a live index does not name may be taken out of it in the first alone. -/
theorem removeFromIndex_left (h : Faded now s t) {user : UserId} {id : String}
    (hid : id ∉ s.indexed now user) : Faded now (s.removeFromIndex user id) t := by
  have hsame : ∀ x, kept now (s.indexes.get? user) = some x → x.map (·.erase id) = x := by
    intro x hx
    obtain ⟨hx, hlive⟩ := kept_eq_some_iff.1 hx
    have hnot : id ∉ x.value.toList := fun hmem => hid (mem_indexed.2 ⟨x, hx, hlive, hmem⟩)
    rw [Expiring.map, SortedSet.erase_of_not_mem hnot]
  have hlive : ∀ x : Expiring (SortedSet String),
      (x.map (·.erase id)).isLive now = x.isLive now := fun _ => rfl
  exact ⟨h.sessions, h.pointers, h.indexes.modify_left hlive hsame⟩

/-- A session is deleted alike if there is no remnant of it. -/
theorem deleteOne (h : Faded now s t) {id : String} (hid : ¬ s.HasRemnant now id) :
    (t.deleteOne now id).1 = (s.deleteOne now id).1 ∧
      Faded now (s.deleteOne now id).2 (t.deleteOne now id).2 := by
  rw [SessionStore.deleteOne, SessionStore.deleteOne]
  cases hs : s.sessions.get? id with
  | none =>
    have ht : t.sessions.get? id = none := (h.sessions id).elim (fun heq => heq.trans hs) And.left
    simp only [ht]
    exact ⟨trivial, h⟩
  | some e =>
    rcases h.sessions id with heq | ⟨ht, hdead⟩
    · -- the record is in both, so that the same is done to both
      simp only [heq, hs]
      have hrecord : Faded now { s with sessions := s.sessions.erase id }
          { t with sessions := t.sessions.erase id } :=
        ⟨h.sessions.erase id, h.pointers, h.indexes⟩
      have hindex := (hrecord.purgeIndex e.value.userId).removeFromIndex e.value.userId id
      exact ⟨trivial, hindex.sessions, hindex.pointers.erase _, hindex.indexes⟩
    · -- the record has expired and is in the first alone, where only it is left to be deleted
      rw [hs, kept_eq_none_iff] at hdead
      have hexpired : e.deadline ≤ now := live?_eq_none_iff.1 hdead e rfl
      obtain ⟨hjti, hmem⟩ := not_or.1 fun hattached => hid ⟨e, hs, hexpired, hattached⟩
      simp only [ht]
      have hrecord : Faded now { s with sessions := s.sessions.erase id } t :=
        ⟨h.sessions.erase_left ht, h.pointers, h.indexes⟩
      have hmem : id ∉ (SessionStore.purgeIndex { s with sessions := s.sessions.erase id } now
          e.value.userId).indexed now e.value.userId := by
        rw [((refl now _).purgeIndex_right _).indexed_eq]
        exact hmem
      have hindex := (hrecord.purgeIndex_left e.value.userId).removeFromIndex_left hmem
      have hptr : kept now (s.pointers.get? e.value.currentJti) = none :=
        kept_eq_none_iff.2 (hasJti_eq_false_iff.1 (Bool.eq_false_iff.2 hjti))
      refine ⟨by simp [isLive, Nat.not_lt.2 hexpired], hindex.sessions, ?_, hindex.indexes⟩
      refine hindex.pointers.erase_left ?_
      rw [SessionStore.removeFromIndex, pointers_purgeIndex]
      exact hptr

/-- Sessions are deleted alike if there is no remnant of them. -/
theorem delete (h : Faded now s t) {ids : List String} (hids : ∀ id ∈ ids, ¬ s.HasRemnant now id) :
    (t.delete now ids).1 = (s.delete now ids).1 ∧
      Faded now (s.delete now ids).2 (t.delete now ids).2 := by
  induction ids generalizing s t with
  | nil => exact ⟨rfl, h⟩
  | cons id ids ih =>
    obtain ⟨hone, hfaded⟩ := h.deleteOne (hids id (List.mem_cons_self ..))
    obtain ⟨hrest, hend⟩ := ih hfaded fun id' hid' hr =>
      hids id' (List.mem_cons_of_mem _ hid') ((prunes_deleteOne now s id).hasRemnant hr)
    refine ⟨?_, hend⟩
    simp only [SessionStore.delete]
    rw [hone, hrest]

end Faded
end SessionStore
end SessionAuth
