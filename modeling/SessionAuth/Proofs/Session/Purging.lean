import SessionAuth.Proofs.Session.Sweeping

/-!
# Whether it is seen when expired entries are purged

Entries that have expired stay in the tables until some operation comes across them.  All operations
but one look at deadlines before they look at entries, so that it makes no difference to them how
much has been purged already.  The one is deletion: it takes a record that has expired for a record,
and takes away the pointer and the place in the index that belong to it, though each of these has a
deadline of its own and may be live.  `HasRemnant` says when there is something of the kind.

`purging_unseen` puts this exactly.  A run whose deletions find no remnants gives the same results
however many reads are made between its operations, and where there is a remnant, one read before
the deletion is noticed afterwards.
-/

set_option autoImplicit false

namespace SessionAuth
namespace SessionStore

/-! ## Operations -/

/-- What can be done to a store. -/
inductive Operation where
  | call (c : Call)
  | indexSize (user : UserId)
  | sweepAll
  /-- So many nanoseconds pass. -/
  | pass (nanos : Nat)

/-- The results of operations. -/
abbrev Operation.Result : Operation → Type
  | call c => Except Error c.Answer
  | indexSize _ => Nat
  | sweepAll => Except Error Nat
  | pass _ => Unit

/-- An operation with its result. -/
abbrev Outcome : Type := (o : Operation) × o.Result

/-- The operations that only read. -/
inductive Read where
  | get (id : String)
  | hasJti (jti : String)
  | listByUser (user : UserId)
  | indexSize (user : UserId)

/-- A read, as the operation that it is. -/
def Read.operation : Read → Operation
  | get id => .call (.get id)
  | hasJti jti => .call (.hasJti jti)
  | listByUser user => .call (.listByUser user)
  | indexSize user => .indexSize user

namespace Moment

/-- The result of an operation, and the moment after it. -/
def perform (m : Moment) : (o : Operation) → o.Result × Moment
  | .call c => ((answer m.now (.call c) m.store).1, m.step (.ask (.call c)))
  | .indexSize user => ((m.store.indexSize m.now user).1, m.step (.indexSize user))
  | .sweepAll =>
    let swept := SessionStore.sweepAll.runOn (answer m.now) m.store
    (swept.1, { m with store := swept.2 })
  | .pass nanos => ((), m.step (.pass nanos))

/-- The results of a run. -/
def results (m : Moment) : List Operation → List Outcome
  | [] => []
  | o :: rest => ⟨o, (m.perform o).1⟩ :: (m.perform o).2.results rest

/-- The results of a run with reads between its operations, without what the reads give. -/
def resultsWithin (m : Moment) : List (Operation ⊕ Read) → List Outcome
  | [] => []
  | .inl o :: rest => ⟨o, (m.perform o).1⟩ :: (m.perform o).2.resultsWithin rest
  | .inr r :: rest => (m.perform r.operation).2.resultsWithin rest

/-- Whether no deletion of a run is about a session of which there is a remnant. -/
def Tidy (m : Moment) : List Operation → Prop
  | [] => True
  | o :: rest =>
    (∀ ids, o = .call (.delete ids) → ∀ id ∈ ids, ¬ m.store.HasRemnant m.now id) ∧
      (m.perform o).2.Tidy rest

end Moment

/-- A run without the reads between its operations. -/
def withoutReads (steps : List (Operation ⊕ Read)) : List Operation :=
  steps.filterMap Sum.getLeft?

/-! ## Reads are not seen -/

/-- One moment is another in a store that has lost some of what had expired. -/
structure Moment.Faded (m m' : Moment) : Prop where
  now : m'.now = m.now
  store : SessionStore.Faded m.now m.store m'.store

namespace Moment.Faded

variable {m m' : Moment}

theorem refl (m : Moment) : m.Faded m := ⟨rfl, .refl m.now m.store⟩

/-- A read may be made in the second alone. -/
theorem read (h : m.Faded m') (r : Read) : m.Faded (m'.perform r.operation).2 := by
  obtain ⟨now, t⟩ := m'
  obtain ⟨rfl, hstore⟩ := h
  refine ⟨by cases r <;> rfl, ?_⟩
  cases r with
  | get id => exact hstore.purgeSession_right id
  | hasJti jti => exact hstore
  | listByUser user => exact (hstore.purgeIndex_right user).purgeSessions_right _
  | indexSize user => exact hstore.purgeIndex_right user

/-- An operation gives the same in both, unless it deletes a session of which there is a remnant in
the first. -/
theorem perform (h : m.Faded m') (o : Operation)
    (ho : ∀ ids, o = .call (.delete ids) → ∀ id ∈ ids, ¬ m.store.HasRemnant m.now id) :
    (m'.perform o).1 = (m.perform o).1 ∧ (m.perform o).2.Faded (m'.perform o).2 := by
  obtain ⟨now, t⟩ := m'
  obtain ⟨rfl, hstore⟩ := h
  cases o with
  | call c =>
    cases c with
    | create session ttls =>
      obtain ⟨hresult, hafter⟩ := hstore.create session ttls
      exact ⟨hresult, rfl, hafter⟩
    | rotate r =>
      obtain ⟨hresult, hafter⟩ := hstore.rotate r
      exact ⟨hresult, rfl, hafter⟩
    | hasJti jti =>
      have hsame : t.hasJti m.now jti = m.store.hasJti m.now jti :=
        congrArg Option.isSome (hstore.pointer?_eq jti)
      exact ⟨congrArg Except.ok hsame, rfl, hstore⟩
    | get id =>
      obtain ⟨hresult, hafter⟩ := hstore.get id
      exact ⟨congrArg Except.ok hresult, rfl, hafter⟩
    | listByUser user =>
      obtain ⟨hresult, hafter⟩ := hstore.listByUser user
      exact ⟨congrArg Except.ok hresult, rfl, hafter⟩
    | delete ids =>
      obtain ⟨hresult, hafter⟩ := hstore.delete (ho ids rfl)
      exact ⟨congrArg Except.ok hresult, rfl, hafter⟩
    | sweepUser user =>
      obtain ⟨hresult, hafter⟩ := hstore.sweepUser user
      exact ⟨congrArg Except.ok hresult, rfl, hafter⟩
  | indexSize user =>
    obtain ⟨hresult, hafter⟩ := hstore.indexSize user
    exact ⟨hresult, rfl, hafter⟩
  | sweepAll =>
    obtain ⟨hresult, hafter⟩ := hstore.sweepAll
    exact ⟨hresult, rfl, hafter⟩
  | pass nanos => exact ⟨rfl, rfl, hstore.mono (Nat.le_add_right m.now nanos)⟩

/-- A run gives the same in both, whatever is read in the second. -/
theorem results_eq (h : m.Faded m') {steps : List (Operation ⊕ Read)}
    (htidy : m.Tidy (withoutReads steps)) :
    m'.resultsWithin steps = m.results (withoutReads steps) := by
  induction steps generalizing m m' with
  | nil => rfl
  | cons step steps ih =>
    cases step with
    | inl o =>
      obtain ⟨hresult, hafter⟩ := h.perform o htidy.1
      show _ :: _ = _ :: _
      rw [hresult, ih hafter htidy.2]
      rfl
    | inr r => exact ih (h.read r) htidy

end Moment.Faded

/-! ## Remnants are seen -/

section Seen

variable {now : Nat} {s : SessionStore} {id : String} {e : Expiring Session}

/-- A record that has expired is purged by a read, and then there is nothing to delete. -/
theorem delete_purged (he : s.sessions.get? id = some e) (hexpired : e.deadline ≤ now) :
    (s.purgeSession now id).delete now [id] = (0, { s with sessions := s.sessions.erase id }) := by
  have hdead : s.session? now id = none := by
    refine session?_eq_none_iff.2 fun x hx => ?_
    rw [he, Option.some.injEq] at hx
    exact hx ▸ hexpired
  simp [purgeSession, hdead, delete, deleteOne, Table.get?_erase]

/-- A session is deleted with the pointer that its record names. -/
theorem hasJti_delete (he : s.sessions.get? id = some e) :
    (s.delete now [id]).2.hasJti now e.value.currentJti = false := by
  have hpointers : (s.delete now [id]).2.pointers = s.pointers.erase e.value.currentJti := by
    simp [delete, deleteOne, he, removeFromIndex]
  rw [hasJti_eq_false_iff, pointer?, hpointers, Table.get?_erase, if_pos rfl]
  rfl

theorem indexed_removeFromIndex (now : Nat) (s : SessionStore) (user : UserId) (id : String) :
    (s.removeFromIndex user id).indexed now user = (s.indexed now user).filter (· ≠ id) := by
  have hlive : ∀ x : Expiring (SortedSet String),
      (x.map (·.erase id)).isLive now = x.isLive now := fun _ => rfl
  simp only [indexed, index?, removeFromIndex, Table.get?_modify, if_true,
    Expiring.live?_eq_map_kept, Expiring.kept_map hlive]
  cases Expiring.kept now (s.indexes.get? user) with
  | none => rfl
  | some x => rfl

/-- A session is deleted with its place in the index of its owner. -/
theorem indexed_delete (he : s.sessions.get? id = some e) :
    (s.delete now [id]).2.indexed now e.value.userId =
      (s.indexed now e.value.userId).filter (· ≠ id) := by
  have hpurged : Faded now { s with sessions := s.sessions.erase id }
      (purgeIndex { s with sessions := s.sessions.erase id } now e.value.userId) :=
    (Faded.refl now _).purgeIndex_right _
  simp only [delete, deleteOne, he]
  exact (indexed_removeFromIndex now _ e.value.userId id).trans
    (congrArg _ (hpurged.indexed_eq e.value.userId))

end Seen

/-- Where there is a remnant of a session, it is seen after its deletion whether it was read before
it. -/
theorem Moment.exists_seen {m : Moment} {id : String} (h : m.store.HasRemnant m.now id) :
    ∃ r : Read, m.resultsWithin [.inr (.get id), .inl (.call (.delete [id])), .inl r.operation] ≠
      m.results [.call (.delete [id]), r.operation] := by
  obtain ⟨e, he, hexpired, hjti | hmem⟩ := h
  · refine ⟨.hasJti e.value.currentJti, fun heq => ?_⟩
    have hlast := eq_of_heq (Sigma.mk.inj (List.cons.inj (List.cons.inj heq).2).1).2
    change Except.ok (((m.store.purgeSession m.now id).delete m.now [id]).2.hasJti m.now _) =
      Except.ok ((m.store.delete m.now [id]).2.hasJti m.now _) at hlast
    rw [delete_purged he hexpired, hasJti_delete he] at hlast
    cases hjti.symm.trans (Except.ok.inj hlast)
  · refine ⟨.indexSize e.value.userId, fun heq => ?_⟩
    have hlast := eq_of_heq (Sigma.mk.inj (List.cons.inj (List.cons.inj heq).2).1).2
    change (((m.store.purgeSession m.now id).delete m.now [id]).2.indexed m.now _).length =
      ((m.store.delete m.now [id]).2.indexed m.now _).length at hlast
    rw [delete_purged he hexpired, indexed_delete he] at hlast
    change (m.store.indexed m.now _).length = _ at hlast
    refine absurd hlast.symm (Nat.ne_of_lt (List.length_filter_lt_length_iff_exists.2 ?_))
    exact ⟨id, hmem, by simp⟩

/-- **When it is seen that something was purged.**  A run whose deletions find no remnants gives the
same results whatever is read between its operations; and where there is a remnant of a session, a
read in front of its deletion changes what is read after it. -/
theorem purging_unseen (m : Moment) :
    (∀ steps, m.Tidy (withoutReads steps) →
      m.resultsWithin steps = m.results (withoutReads steps)) ∧
    ∀ id, m.store.HasRemnant m.now id → ∃ r : Read,
      m.resultsWithin [.inr (.get id), .inl (.call (.delete [id])), .inl r.operation] ≠
        m.results [.call (.delete [id]), r.operation] :=
  ⟨fun _ htidy => (Moment.Faded.refl m).results_eq htidy, fun _ => Moment.exists_seen⟩

/-- A login whose record expires before its refresh token. -/
def shortLived (user : UserId) : Operation :=
  .call (.create ⟨"s", user, "", "", "j", ⟨0, false⟩, ⟨0, false⟩, ⟨0, false⟩⟩ ⟨10, 100⟩)

/-- The login in an empty store, with reads before the session is deleted. -/
def readEarly (user : UserId) : List (Operation ⊕ Read) :=
  [.inl (shortLived user), .inr (.listByUser user), .inl (.pass nanosPerSecond), .inr (.get "s"),
    .inl (.call (.delete ["s"])), .inl (.call (.hasJti "j"))]

/-- The login after its record has expired. -/
def outlived (user : UserId) : Moment :=
  ((Moment.start.perform (shortLived user)).2.perform (.pass (20 * nanosPerSecond))).2

/-- Nothing is seen of reads while the record is live, and later it leaves a remnant. -/
theorem purging_unseen_shortLived :
    Moment.start.Tidy (withoutReads (readEarly .nil)) ∧
    Moment.start.resultsWithin (readEarly .nil) =
      Moment.start.results (withoutReads (readEarly .nil)) ∧
    (outlived .nil).store.HasRemnant (outlived .nil).now "s" ∧
    ∃ r : Read, (outlived .nil).resultsWithin [.inr (.get "s"), .inl (.call (.delete ["s"])),
      .inl r.operation] ≠ (outlived .nil).results [.call (.delete ["s"]), r.operation] := by
  have htidy : Moment.start.Tidy (withoutReads (readEarly .nil)) := by
    refine ⟨nofun, nofun, ?_, nofun, trivial⟩
    rintro _ ⟨⟩ id hid ⟨e, he, hexpired, -⟩
    obtain rfl := List.mem_singleton.1 hid
    obtain rfl := Option.some.inj he
    exact absurd hexpired (by decide)
  have hremnant : (outlived .nil).store.HasRemnant (outlived .nil).now "s" :=
    ⟨_, rfl, by decide, .inl (by decide)⟩
  exact ⟨htidy, (purging_unseen Moment.start).1 _ htidy, hremnant,
    (purging_unseen (outlived .nil)).2 "s" hremnant⟩

/-- The login, a read after its record has expired, and the deletion of the session. -/
def readLate (user : UserId) : List (Operation ⊕ Read) :=
  [.inl (shortLived user), .inl (.pass (20 * nanosPerSecond)), .inr (.get "s"),
    .inl (.call (.delete ["s"])), .inl (.call (.hasJti "j"))]

/-- **A read may be seen.**  The token of the login leads somewhere to the end if the record of its
session was read before the session was deleted, and it leads nowhere if it was not. -/
theorem not_always_unseen :
    Moment.start.resultsWithin (readLate .nil) =
      [⟨shortLived .nil, .ok ()⟩, ⟨.pass (20 * nanosPerSecond), ()⟩,
        ⟨.call (.delete ["s"]), .ok 0⟩, ⟨.call (.hasJti "j"), .ok true⟩] ∧
    Moment.start.results (withoutReads (readLate .nil)) =
      [⟨shortLived .nil, .ok ()⟩, ⟨.pass (20 * nanosPerSecond), ()⟩,
        ⟨.call (.delete ["s"]), .ok 0⟩, ⟨.call (.hasJti "j"), .ok false⟩] ∧
    Moment.start.resultsWithin (readLate .nil) ≠
      Moment.start.results (withoutReads (readLate .nil)) := by
  refine ⟨rfl, rfl, fun heq => ?_⟩
  have hlast : (Except.ok true : Except Error Bool) = .ok false := by
    change [_, _, _, _] = [_, _, _, _] at heq
    exact eq_of_heq (Sigma.mk.inj (List.cons.inj (List.cons.inj (List.cons.inj
      (List.cons.inj heq).2).2).2).1).2
  cases hlast

end SessionStore
end SessionAuth
