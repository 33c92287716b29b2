import SessionAuth.Proofs.Session.Sparing

/-!
# What a sweep leaves behind

A sweep takes the sessions that are gone out of all indexes, and no more.  `Tidied` is what is left:
all questions have the answers that they had, now and later, and each index names just the sessions
that are listed from it, so that there is nothing to drop for another sweep (`sweepAll_tidies`).

A sweep is not a single step.  Its users are asked for first and their indexes are swept one after
the other (`sweepSteps`), and in between sessions are opened, carried on and deleted, and indexes
expire.  That no live session is lost to it then does not depend on the users that were found: each
step drops what is gone at its own moment (`Swept.indexed_eq`), and between the steps, as in any
run, live sessions are in the live indexes of their owners.
-/

set_option autoImplicit false

namespace SessionAuth
namespace SessionStore

open Expiring

variable {now : Nat} {s s' : SessionStore} {users : List UserId}

/-! ## Indexes after a sweep -/

theorem value_without (x : Expiring (SortedSet String)) (ids : List String) :
    (without x ids).value.toList = x.value.toList.filter (· ∉ ids) := by
  induction ids generalizing x with
  | nil => simp [without]
  | cons id ids ih =>
    show (without (x.map (·.erase id)) ids).value.toList = _
    rw [ih]
    show (x.value.toList.filter (· ≠ id)).filter (· ∉ ids) = _
    rw [List.filter_filter]
    refine List.filter_congr fun other _ => ?_
    simp [Bool.and_comm]

namespace Swept

/-- An index that was swept names those of its sessions that are live. -/
theorem indexed_eq (h : Swept now users s s') (user : UserId) :
    s'.indexed now user = if user ∈ users
      then (s.indexed now user).filter fun id => (s.session? now id).isSome
      else s.indexed now user := by
  rw [indexed, indexed, index?, index?, live?_eq_map_kept, live?_eq_map_kept, h.indexes]
  by_cases huser : user ∈ users
  · rw [if_pos huser, if_pos huser]
    cases hx : kept now (s.indexes.get? user) with
    | none => rfl
    | some x =>
      simp only [Option.map_some, value_without]
      refine List.filter_congr fun id hid => ?_
      have hindexed : id ∈ s.indexed now user :=
        mem_indexed.2 ⟨x, (kept_eq_some_iff.1 hx).1, (kept_eq_some_iff.1 hx).2, hid⟩
      cases hlive : s.session? now id <;> simp [mem_gone, hindexed, hlive]
  · rw [if_neg huser, if_neg huser]

/-- No live session is dropped from an index. -/
theorem mem_indexed_of_live (h : Swept now users s s') {user : UserId} {id : String}
    (hid : id ∈ s.indexed now user) (hlive : (s.session? now id).isSome) :
    id ∈ s'.indexed now user := by
  rw [h.indexed_eq]
  split
  · exact List.mem_filter.2 ⟨hid, hlive⟩
  · exact hid

/-- What is gone from an index is what was dropped from it. -/
theorem gone_eq_filter (h : Swept now users s s') {user : UserId} (huser : user ∈ users) :
    s.gone now user = (s.indexed now user).filter (· ∉ s'.indexed now user) := by
  rw [gone]
  refine List.filter_congr fun id hid => ?_
  rw [h.indexed_eq, if_pos huser]
  cases hlive : s.session? now id <;> simp [List.mem_filter, hid, hlive]

end Swept

/-! ## The steps of a sweep -/

/-- What a sweep does that found some users to have an index. -/
def sweepSteps (users : List UserId) : List Move :=
  .ask .indexedUsers :: users.map fun user => .ask (.call (.sweepUser user))

theorem run_sweepUsers (m : Moment) (users : List UserId) :
    m.run (users.map fun user => .ask (.call (.sweepUser user))) =
      { m with store := ((sweepUsers users).runOn (answer m.now) m.store).2 } := by
  induction users generalizing m with
  | nil => rfl
  | cons user users ih =>
    have hfirst : (call (.sweepUser user)).runOn (answer m.now) m.store =
        (.ok (m.store.sweepUser m.now user).1, (m.store.sweepUser m.now user).2) := rfl
    refine (ih (m.step (.ask (.call (.sweepUser user))))).trans ?_
    rw [sweepUsers, Fallible.runOn_bind_of_ok _ _ hfirst, Fallible.runOn_bind]
    show ({ m with store := (Fallible.runOn (answer m.now) (sweepUsers users)
      (m.store.sweepUser m.now user).2).2 } : Moment) = _
    cases Fallible.runOn (answer m.now) (sweepUsers users) (m.store.sweepUser m.now user).2 with
    | mk result t => cases result <;> rfl

/-- A sweep that is not interrupted is a run of its steps. -/
theorem run_sweepSteps (m : Moment) : m.run (sweepSteps m.store.indexes.keys) =
    { m with store := (sweepAll.runOn (answer m.now) m.store).2 } := by
  have hasked : indexedUsers.runOn (answer m.now) m.store =
      (.ok m.store.indexes.keys, m.store) := rfl
  rw [sweepAll, Fallible.runOn_bind_of_ok _ _ hasked]
  exact run_sweepUsers m m.store.indexes.keys

/-- A sweep opens no sessions. -/
theorem sessionIds_sweepSteps (moves : List Move) (users : List UserId) :
    sessionIds (moves ++ sweepSteps users) = sessionIds moves := by
  rw [sessionIds_append, sweepSteps]
  simp [sessionIds, Move.sessionId?]

/-! ## All indexes -/

/-- A store from which all that was gone has been dropped: what is read from it is the same as
before, and no index names more sessions than are listed. -/
structure Tidied (now : Nat) (s s' : SessionStore) : Prop where
  get_eq : ∀ later ≥ now, ∀ id, (s'.get later id).1 = (s.get later id).1
  hasJti_eq : ∀ later jti, s'.hasJti later jti = s.hasJti later jti
  listByUser_eq : ∀ later ≥ now, ∀ user,
    (s'.listByUser later user).1 = (s.listByUser later user).1
  indexSize_eq : ∀ user, (s'.indexSize now user).1 = (s'.listByUser now user).1.length
  again : (sweepAll.runOn (answer now) s').1 = .ok 0

/-- Whoever has no index has no session in it. -/
theorem indexed_eq_nil {user : UserId} (huser : user ∉ s.indexes.keys) :
    s.indexed now user = [] := by
  refine List.eq_nil_iff_forall_not_mem.2 fun id hid => huser ?_
  obtain ⟨x, hx, -⟩ := mem_indexed.1 hid
  rw [Table.mem_keys_iff, hx, Option.isSome_some]

/-- After a sweep of all indexes, they name live sessions only. -/
theorem Swept.isSome_of_mem_indexed (h : Swept now s.indexes.keys s s') {user : UserId}
    {id : String} (hid : id ∈ s'.indexed now user) : (s'.session? now id).isSome := by
  rw [h.indexed_eq] at hid
  rw [h.session?_eq]
  split at hid
  · exact (List.mem_filter.1 hid).2
  · rename_i huser
    rw [indexed_eq_nil huser] at hid
    cases hid

/-- All indexes have been swept. -/
theorem tidied_of_swept (hs : Listable now s) (hs' : Listable now s')
    (h : Swept now s.indexes.keys s s') : Tidied now s s' := by
  constructor
  case get_eq => exact fun later hle id => h.session?_of_le hle id
  case hasJti_eq =>
    intro later jti
    rw [hasJti, hasJti, pointer?, pointer?, h.pointers]
  case listByUser_eq =>
    intro later hle user
    have hall : (s'.listByUser later user).1.filter (fun _ => true) =
        (s.listByUser later user).1.filter (fun _ => true) := by
      refine filter_listByUser_eq (hs.mono hle) (hs'.mono hle) _ fun id session _ _ => ?_
      rw [h.session?_of_le hle]
    rwa [List.filter_true, List.filter_true] at hall
  case indexSize_eq =>
    intro user
    show (s'.indexed now user).length = ((s'.indexed now user).filterMap (s'.session? now)).length
    rw [List.length_filterMap_eq_countP, List.countP_eq_length.2]
    exact fun id hid => h.isSome_of_mem_indexed hid
  case again =>
    obtain ⟨t, hrun, -⟩ := sweepAll_exact now s'
    have hnone : ∀ user, s'.gone now user = [] := by
      intro user
      refine List.eq_nil_iff_forall_not_mem.2 fun id hid => ?_
      obtain ⟨hid, hdead⟩ := mem_gone.1 hid
      have hlive := h.isSome_of_mem_indexed hid
      rw [hdead] at hlive
      cases hlive
    rw [hrun]
    simp [hnone]

/-- **A sweep drops what is gone and nothing else.**  After any run that uses no session id twice,
it answers with the number of sessions that were dropped from the indexes of all users, changes no
answer to a question, leaves in each index the sessions that are listed, and finds nothing to drop
when it is made again.  Wherever in such a run one of its steps is made, each live session is in the
index of its owner and stays in it. -/
theorem sweepAll_tidies {moves : List Move} (hids : (sessionIds moves).Nodup) :
    let now := (after moves).now
    let s := (after moves).store
    (∃ s', sweepAll.runOn (answer now) s = (.ok (s.indexes.keys.map fun user =>
        ((s.indexed now user).filter (· ∉ s'.indexed now user)).length).sum, s') ∧
      (∀ user, user ∉ s.indexes.keys → s.indexed now user = []) ∧
      after (moves ++ sweepSteps s.indexes.keys) = ⟨now, s'⟩ ∧
      Tidied now s s') ∧
    (∀ id session, (s.get now id).1 = some session → id ∈ s.indexed now session.userId) ∧
    ∀ swept user id, id ∈ s.indexed now user → (s.get now id).1 ≠ none →
      id ∈ (s.sweepUser now swept).2.indexed now user := by
  intro now s
  have hindexed : Indexed now s := indexed_after hids
  refine ⟨?_, fun id session hlive => ?_, fun swept user id hid hlive => ?_⟩
  · obtain ⟨s', hrun, hswept⟩ := sweepAll_exact now s
    have hafter : after (moves ++ sweepSteps s.indexes.keys) = ⟨now, s'⟩ := by
      rw [after_append, run_sweepSteps, hrun]
    have hindexed' := indexed_after ((sessionIds_sweepSteps moves s.indexes.keys).symm ▸ hids)
    have hmentions' := mentions_after (moves ++ sweepSteps s.indexes.keys)
    rw [hafter] at hindexed' hmentions'
    refine ⟨s', ?_, fun user huser => indexed_eq_nil huser, hafter, ?_⟩
    · rw [hrun]
      have hcounts : ∀ user ∈ s.indexes.keys, (s.gone now user).length =
          ((s.indexed now user).filter (· ∉ s'.indexed now user)).length :=
        fun user huser => congrArg List.length (hswept.gone_eq_filter huser)
      rw [List.map_congr_left hcounts]
    · exact tidied_of_swept ⟨hindexed, _, _, mentions_after moves⟩
        ⟨hindexed', _, _, hmentions'⟩ hswept
  · obtain ⟨e, he, hdeadline, rfl⟩ := session?_eq_some_iff.1 hlive
    obtain ⟨x, hx, hid, hle⟩ := hindexed.listed he hdeadline
    exact mem_indexed.2 ⟨x, hx, Nat.lt_of_lt_of_le hdeadline hle, hid⟩
  · exact (Swept.sweepUser now s swept).mem_indexed_of_live hid (Option.isSome_iff_ne_none.2 hlive)

/-- Two sessions of a user, of which the first expires. -/
def oneExpires (user : UserId) : List Move :=
  let opening (id : String) (ttl : Int) : Move :=
    .ask (.call (.create ⟨id, user, "", "", id, ⟨0, false⟩, ⟨0, false⟩, ⟨0, false⟩⟩ ⟨ttl, ttl⟩))
  [opening "a" 10, opening "b" 60, .pass (20 * nanosPerSecond)]

/-- The sweep drops the one session that has expired. -/
theorem sweepAll_tidies_oneExpires : (sessionIds (oneExpires .nil)).Nodup ∧
    ∃ s', sweepAll.runOn (answer (20 * nanosPerSecond)) (after (oneExpires .nil)).store =
        (.ok 1, s') ∧
      Tidied (20 * nanosPerSecond) (after (oneExpires .nil)).store s' := by
  have hids : (sessionIds (oneExpires .nil)).Nodup := by decide
  obtain ⟨⟨s', hrun, -, -, htidied⟩, -⟩ := sweepAll_tidies hids
  have hone : (sweepAll.runOn (answer (after (oneExpires .nil)).now)
      (after (oneExpires .nil)).store).1 = .ok 1 := rfl
  rw [hrun] at hone
  exact ⟨hids, s', hrun.trans (congrArg (·, s') hone), htidied⟩

end SessionStore
end SessionAuth
