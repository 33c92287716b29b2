import Mathlib.Data.List.Nodup
import SessionAuth.Proofs.Program.Run
import SessionAuth.Proofs.Service.Process
import SessionAuth.Proofs.Session.Sparing

/-!
# What a deletion deletes

Sessions are deleted by a list of ids that was chosen from a listing.  A caller may name a session
twice, or name sessions of other users and ones that never were.  `Removed` is what has become of a
store from which a list of sessions is gone: all that can be read of the others is the same, now and
later.

The three tables are gone through one session after the other.  That a deletion touches no other
session (`SameBut.delete`) needs records and pointers to be paired, and so does that no token of a
deleted session is left.  The number of sessions that is answered is that of the live ones in the
list, each counted once since it has no record when its id comes up again (`delete_count`).
-/

set_option autoImplicit false

namespace SessionAuth
namespace SessionStore

variable {now : Nat} {s s' : SessionStore}

/-! ## Deleting by id -/

theorem get?_sessions_deleteOne (s : SessionStore) (now : Nat) (id other : String) :
    (s.deleteOne now id).2.sessions.get? other =
      if other = id then none else s.sessions.get? other := by
  by_cases hother : other = id
  · rw [if_pos hother, hother, get?_deleteOne]
  · rw [if_neg hother, deleteOne]
    split
    · rfl
    · simp [removeFromIndex, Table.get?_erase, hother]

theorem deleteOne_fst (s : SessionStore) (now : Nat) (id : String) :
    (s.deleteOne now id).1 = (s.session? now id).isSome := by
  rw [deleteOne, session?]
  cases s.sessions.get? id with
  | none => rfl
  | some e => cases hlive : e.isLive now <;> simp [Expiring.live?, Option.filter, hlive]

/-- The answer to a deletion is how many live sessions are in the list. -/
theorem delete_count (s : SessionStore) (now : Nat) (ids : List String) :
    ∃ removed : List String, removed.Nodup ∧
      (∀ id, id ∈ removed ↔ id ∈ ids ∧ (s.session? now id).isSome) ∧
      (s.delete now ids).1 = removed.length := by
  induction ids generalizing s with
  | nil => exact ⟨[], List.nodup_nil, by simp, rfl⟩
  | cons first ids ih =>
    obtain ⟨rest, hnodup, hmem, hcount⟩ := ih (s.deleteOne now first).2
    have hrest : ∀ id, id ∈ rest ↔ id ≠ first ∧ id ∈ ids ∧ (s.session? now id).isSome := by
      intro id
      rw [hmem, session?, get?_sessions_deleteOne]
      by_cases hid : id = first
      · simp [hid, Expiring.live?]
      · rw [if_neg hid, ← session?, and_iff_right hid]
    have hanswer : (s.delete now (first :: ids)).1 =
        rest.length + if (s.session? now first).isSome then 1 else 0 := by
      rw [← hcount, ← deleteOne_fst]
      rfl
    by_cases hlive : (s.session? now first).isSome
    · refine ⟨first :: rest, List.nodup_cons.2 ⟨?_, hnodup⟩, fun id => ?_, ?_⟩
      · exact fun hfirst => ((hrest first).1 hfirst).1 rfl
      · rw [List.mem_cons, List.mem_cons, hrest]
        by_cases hid : id = first
        · simp [hid, hlive]
        · simp [hid]
      · rw [hanswer, if_pos hlive, List.length_cons]
    · refine ⟨rest, hnodup, fun id => ?_, ?_⟩
      · rw [hrest, List.mem_cons]
        by_cases hid : id = first
        · simp [hid, hlive]
        · simp [hid]
      · rw [hanswer, if_neg hlive, Nat.add_zero]

/-- A deletion touches no sessions but those in its list. -/
theorem SameBut.delete (hpaired : Paired s) (later : Nat) (ids : List String) :
    SameBut later (· ∈ ids) s (s.delete now ids).2 := by
  induction ids generalizing s with
  | nil => exact ⟨fun _ => rfl, fun _ => Iff.rfl⟩
  | cons first ids ih =>
    have hfirst : SameBut later (· = first) s (s.deleteOne now first).2 := by
      refine .deleteOne later fun e he id hlead => ?_
      obtain ⟨p, hp, -, rfl⟩ := pointer?_eq_some_iff.1 hlead
      exact (hpaired.leads_iff hp he).2 rfl
    have hrest : Paired (s.deleteOne now first).2 :=
      (prunes_deleteOne now s first).induction (fun h hi => hi.prune h) hpaired
    refine (hfirst.mono ?_).trans ((ih hrest).mono ?_)
    · exact fun id hid => List.mem_cons.2 (.inl hid)
    · exact fun id hid => List.mem_cons_of_mem first hid

/-! ## Stores from which sessions are gone -/

/-- What is left of a store when some sessions are gone from it.  Of all others the same can be
read from now on. -/
structure Removed (now : Nat) (removed : List String) (s s' : SessionStore) : Prop where
  nodup : removed.Nodup
  gone : ∀ later ≥ now, ∀ id ∈ removed, (s'.get later id).1 = none
  spent : ∀ later ≥ now, ∀ id ∈ removed, ∀ session, (s.get now id).1 = some session →
    s'.hasJti later session.currentJti = false
  kept : ∀ later ≥ now, ∀ id, id ∉ removed → (s'.get later id).1 = (s.get later id).1
  valid : ∀ later ≥ now, ∀ id, id ∉ removed → ∀ session, (s.get now id).1 = some session →
    s'.hasJti later session.currentJti = s.hasJti later session.currentJti
  listed : ∀ later ≥ now, ∀ user, (s'.listByUser later user).1 =
    (s.listByUser later user).1.filter (·.id ∉ removed)

/-- The sessions in a list are gone if they are forgotten and no others are touched. -/
theorem removed_of_sameBut (hs : Listable now s) (hpaired : Paired s) (hprunes : Prunes now s s')
    {ids removed : List String} (hnodup : removed.Nodup)
    (hremoved : ∀ id, id ∈ removed ↔ id ∈ ids ∧ (s.session? now id).isSome)
    (hsame : ∀ later ≥ now, SameBut later (· ∈ ids) s s')
    (hforgotten : ∀ id ∈ removed, Forgotten id s') : Removed now removed s s' := by
  have hgone : ∀ later, ∀ id ∈ removed, s'.session? later id = none := by
    intro later id hid
    rw [session?, (hforgotten id hid).record]
    rfl
  have hkept : ∀ later ≥ now, ∀ id, id ∉ removed → s'.session? later id = s.session? later id := by
    intro later hle id hid
    by_cases hmem : id ∈ ids
    · -- the session was in the list, but it had expired
      have hdead : s.session? now id = none := by
        rw [← Option.not_isSome_iff_eq_none]
        exact fun hlive => hid ((hremoved id).2 ⟨hmem, hlive⟩)
      rw [session?_eq_none_of_le hdead hle]
      exact session?_eq_none_of_le (hprunes.session?_eq_none hdead) hle
    · exact (hsame later hle).session?_eq hmem
  -- the pointer that a live record names leads to its own session
  have hleads : ∀ {t later id id' session}, Prunes now s t → s.session? now id = some session →
      t.pointer? later session.currentJti = some id' → id' = id := by
    intro t later id id' session hpt hlive hlead
    obtain ⟨e, he, -, rfl⟩ := session?_eq_some_iff.1 hlive
    obtain ⟨p, hp, -, rfl⟩ := pointer?_eq_some_iff.1 hlead
    exact (hpaired.leads_iff (hpt.pointers_get? hp) he).2 rfl
  constructor
  case nodup => exact hnodup
  case gone => exact fun later _ => hgone later
  case kept => exact hkept
  case spent =>
    intro later _ id hid session hlive
    refine hasJti_eq_false_iff.2 (Option.eq_none_iff_forall_ne_some.2 fun id' hlead => ?_)
    obtain rfl := hleads hprunes hlive hlead
    obtain ⟨p, hp, -, hp'⟩ := pointer?_eq_some_iff.1 hlead
    exact (hforgotten id' hid).pointer hp hp'
  case valid =>
    intro later hle id hid session hlive
    have hnot : id ∉ ids := fun hmem =>
      hid ((hremoved id).2 ⟨hmem, Option.isSome_iff_exists.2 ⟨session, hlive⟩⟩)
    refine (hsame later hle).hasJti_eq (fun id' hlead => ?_) fun id' hlead => ?_
    · exact hleads .refl hlive hlead ▸ hnot
    · exact hleads hprunes hlive hlead ▸ hnot
  case listed =>
    intro later hle user
    have hs' := (hs.prunes hprunes).mono hle
    have hothers : (s'.listByUser later user).1.filter (·.id ∉ removed) =
        (s.listByUser later user).1.filter (·.id ∉ removed) := by
      refine filter_listByUser_eq (hs.mono hle) hs' _ fun id session _ hother => ?_
      rw [decide_eq_true_eq] at hother
      constructor
      · intro hlive
        rwa [← hkept later hle id (hs'.id_eq hlive ▸ hother)]
      · intro hlive
        rwa [hkept later hle id ((hs.mono hle).id_eq hlive ▸ hother)]
    rw [← hothers, List.filter_eq_self.2]
    intro session hsession
    obtain ⟨id, hlive, -⟩ := (mem_listByUser hs'.indexed).1 hsession
    rw [decide_eq_true_eq]
    intro hid
    rw [hs'.id_eq hlive] at hid
    cases (hgone later id hid).symm.trans hlive

/-- The sessions of a user are listed, and some of them deleted. -/
theorem removed_delete (hs : Listable now s) (hpaired : Paired s) (user : UserId)
    (ids : List String) :
    ∃ removed, (∀ id, id ∈ removed ↔ id ∈ ids ∧ (s.session? now id).isSome) ∧
      ((s.listByUser now user).2.delete now ids).1 = removed.length ∧
      Removed now removed s ((s.listByUser now user).2.delete now ids).2 ∧
      ∀ swept, Removed now removed s
        (((s.listByUser now user).2.delete now ids).2.sweepUser now swept).2 := by
  have hfaded : Faded now s (s.listByUser now user).2 :=
    ((Faded.refl now s).purgeIndex_right user).purgeSessions_right _
  have hlisting := prunes_listByUser now s user
  generalize (s.listByUser now user).2 = t at hfaded hlisting
  have hpaired' : Paired t := hlisting.induction (fun h hi => hi.prune h) hpaired
  have hdeleted : Prunes now s (t.delete now ids).2 := hlisting.trans (prunes_delete now t ids)
  obtain ⟨removed, hnodup, hmem, hcount⟩ := delete_count t now ids
  simp only [hfaded.session?_eq] at hmem
  have hsame : ∀ later ≥ now, SameBut later (· ∈ ids) s (t.delete now ids).2 :=
    fun later hle => (SameBut.of_faded (hfaded.mono hle)).trans (.delete hpaired' later ids)
  have hforgotten : ∀ id ∈ removed, Forgotten id (t.delete now ids).2 := by
    intro id hid
    obtain ⟨hid, hlive⟩ := (hmem id).1 hid
    rw [← hfaded.session?_eq] at hlive
    obtain ⟨session, hsession⟩ := Option.isSome_iff_exists.1 hlive
    obtain ⟨e, he, -⟩ := session?_eq_some_iff.1 hsession
    exact .delete hpaired' he hid
  refine ⟨removed, hmem, hcount, ?_, fun swept => ?_⟩
  · exact removed_of_sameBut hs hpaired hdeleted hnodup hmem hsame hforgotten
  · have hswept := prunes_sweepUser now (t.delete now ids).2 swept
    refine removed_of_sameBut hs hpaired (hdeleted.trans hswept) hnodup hmem ?_ ?_
    · exact fun later hle => (hsame later hle).trans (.sweepUser hle swept)
    · exact fun id hid => (hforgotten id hid).prunes hswept

/-- The ids of the sessions that are listed are those of the live sessions of the user. -/
theorem mem_map_id_listByUser (hs : Listable now s) {user : UserId} {id : String} :
    id ∈ (s.listByUser now user).1.map (·.id) ↔ s.Owns now user id := by
  rw [List.mem_map]
  constructor
  · rintro ⟨session, hsession, rfl⟩
    exact Spares.owns_of_mem_listByUser hs hsession
  · rintro ⟨session, hlive, huser⟩
    exact ⟨session, (mem_listByUser hs.indexed).2 ⟨id, hlive, huser⟩, hs.id_eq hlive⟩

theorem Owns.isSome {user : UserId} {id : String} (h : s.Owns now user id) :
    (s.session? now id).isSome := by
  obtain ⟨session, hlive, -⟩ := h
  exact Option.isSome_iff_exists.2 ⟨session, hlive⟩

end SessionStore

/-! ## The requests -/

namespace Sessions

open Environment Fallible Deployment
open SessionStore (Removed Listable Paired sessionIds tokenIds)

variable {f : Supply} {d : Deployment}

theorem runOn_ofUser (hreach : d.sessionsReachable) (user : UserId) :
    (ofUser user).runOn (serve f) d = (.ok (d.sessions.listByUser d.clock.elapsed user).1,
      { d with sessions := (d.sessions.listByUser d.clock.elapsed user).2 }) := by
  rw [ofUser, runOn_sessions, serve_sessions hreach]
  rfl

theorem runOn_deleteIds (hreach : d.sessionsReachable) (t : SessionStore) (ids : List String) :
    (deleteIds ids).runOn (serve f) { d with sessions := t } =
      (.ok (t.delete d.clock.elapsed ids).1,
        { d with sessions := (t.delete d.clock.elapsed ids).2 }) := by
  rw [deleteIds]
  cases ids with
  | nil => rfl
  | cons id ids =>
    rw [List.isEmpty_cons, if_neg Bool.false_ne_true, runOn_sessions,
      serve_sessions (by exact hreach)]
    rfl

/-- A deletion lists the sessions of its user and deletes some of them. -/
theorem runOn_delete (hreach : d.sessionsReachable) (x : Deletion) :
    let now := d.clock.elapsed
    let listing := d.sessions.listByUser now x.userId
    let deleted := listing.2.delete now (x.ids (listing.1.map (·.id)))
    (delete x).runOn (serve f) d = (.ok deleted.1, { d with sessions := deleted.2 }) := by
  rw [delete, runOn_bind_of_ok _ _ (runOn_ofUser hreach x.userId), runOn_deleteIds hreach]

/-- The deletion of all sessions of a user sweeps their index in the end. -/
theorem runOn_deleteAll (hreach : d.sessionsReachable) (user : UserId) :
    let now := d.clock.elapsed
    let listing := d.sessions.listByUser now user
    let deleted := listing.2.delete now (listing.1.map (·.id))
    (deleteAll user).runOn (serve f) d =
      (.ok deleted.1, { d with sessions := (deleted.2.sweepUser now user).2 }) := by
  rw [deleteAll, runOn_bind_of_ok _ _ (runOn_ofUser hreach user),
    runOn_bind_of_ok _ _ (runOn_deleteIds hreach _ _), runOn_bind, runOn_sessions,
    serve_sessions (by exact hreach)]
  rfl

/-- Which sessions a deletion is about. -/
theorem Deletion.mem_ids_iff {x : Deletion} {owned : List String} {id : String} :
    id ∈ x.ids owned ↔ id ∈ owned ∧ if x.others then id ≠ x.current else id ∈ x.targets := by
  rw [ids]
  cases x.others with
  | true => simp
  | false => simp [and_comm]

/-- **Deletions are exact.**  In a process whose sessions went through any run that uses no id
twice, a deletion removes the live sessions of its user that it is about, and the deletion of all
sessions removes all live ones of the user; the answer is how many sessions are removed.  None has a
record or a token in use afterwards, and all others have what they had. -/
theorem deletion_exact {moves : List SessionStore.Move} (hids : (sessionIds moves).Nodup)
    (hjtis : (tokenIds moves).Nodup) (hstore : d.sessions = (SessionStore.after moves).store)
    (hclock : d.clock.elapsed = (SessionStore.after moves).now) (hreach : d.sessionsReachable) :
    let now := d.clock.elapsed
    let s := d.sessions
    (∀ x : Deletion, ∃ removed s',
      (delete x).runOn (serve f) d = (.ok removed.length, { d with sessions := s' }) ∧
      (∀ id, id ∈ removed ↔ s.Owns now x.userId id ∧
        if x.others then id ≠ x.current else id ∈ x.targets) ∧
      Removed now removed s s') ∧
    ∀ user, ∃ removed s',
      (deleteAll user).runOn (serve f) d = (.ok removed.length, { d with sessions := s' }) ∧
      (∀ id, id ∈ removed ↔ s.Owns now user id) ∧
      Removed now removed s s' := by
  intro now s
  have hs : Listable now s := by
    have hindexed := SessionStore.indexed_after hids
    have hmentions := SessionStore.mentions_after moves
    rw [← hstore] at hmentions
    rw [← hstore, ← hclock] at hindexed
    exact ⟨hindexed, _, _, hmentions⟩
  have hpaired : Paired d.sessions := hstore ▸ SessionStore.paired_after hids hjtis
  refine ⟨fun x => ?_, fun user => ?_⟩
  · obtain ⟨removed, hmem, hcount, hremoved, -⟩ := SessionStore.removed_delete hs hpaired x.userId
      (x.ids ((s.listByUser now x.userId).1.map (·.id)))
    refine ⟨removed, _, ?_, fun id => ?_, hremoved⟩
    · rw [runOn_delete hreach, ← hcount]
    · rw [hmem, Deletion.mem_ids_iff, SessionStore.mem_map_id_listByUser hs]
      exact and_iff_left_of_imp fun h => h.1.isSome
  · obtain ⟨removed, hmem, hcount, -, hremoved⟩ := SessionStore.removed_delete hs hpaired user
      ((s.listByUser now user).1.map (·.id))
    refine ⟨removed, _, ?_, fun id => ?_, hremoved user⟩
    · rw [runOn_deleteAll hreach, ← hcount]
    · rw [hmem, SessionStore.mem_map_id_listByUser hs]
      exact and_iff_left_of_imp SessionStore.Owns.isSome

/-- Two sessions of a user, and one of another. -/
def twoUsers : List SessionStore.Move :=
  let opening (id : String) (user : UserId) : SessionStore.Move :=
    .ask (.call (.create ⟨id, user, "", "", id, ⟨0, false⟩, ⟨0, false⟩, ⟨0, false⟩⟩ ⟨60, 60⟩))
  [opening "a" .nil, opening "b" .nil, opening "c" ⟨1⟩]

/-- Of a session that is named twice, one of another user and one that never was, the first is
removed. -/
theorem deletion_exact_twoUsers : (sessionIds twoUsers).Nodup ∧ (tokenIds twoUsers).Nodup ∧
    let d : Deployment :=
      { Deployment.start ⟨0, false⟩ .nil with sessions := (SessionStore.after twoUsers).store }
    ∃ removed s', (delete ⟨.nil, "a", ["b", "c", "b", "z"], false⟩).runOn (serve counting) d =
        (.ok removed.length, { d with sessions := s' }) ∧
      (∀ id, id ∈ removed ↔ id = "b") ∧ Removed 0 removed d.sessions s' := by
  have hids : (sessionIds twoUsers).Nodup := by decide
  have hjtis : (tokenIds twoUsers).Nodup := by decide
  refine ⟨hids, hjtis, ?_⟩
  obtain ⟨removed, s', hrun, hmem, hremoved⟩ := (deletion_exact (f := counting)
    (d := { Deployment.start ⟨0, false⟩ .nil with sessions := (SessionStore.after twoUsers).store })
    hids hjtis rfl rfl rfl).1 ⟨.nil, "a", ["b", "c", "b", "z"], false⟩
  refine ⟨removed, s', hrun, fun id => ?_, hremoved⟩
  rw [hmem]
  constructor
  · rintro ⟨⟨session, hlive, huser⟩, hid⟩
    simp only [Bool.false_eq_true, if_false, List.mem_cons, List.not_mem_nil, or_false] at hid
    rcases hid with rfl | rfl | rfl | rfl
    · rfl
    · cases hlive
      cases huser
    · rfl
    · cases hlive
  · rintro rfl
    exact ⟨⟨_, rfl, rfl⟩, by decide⟩

end Sessions
end SessionAuth
