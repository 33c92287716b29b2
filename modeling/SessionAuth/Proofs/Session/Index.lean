import SessionAuth.Proofs.Session.Timeline

/-!
# Indexes name the sessions of their users

The sessions of a user are listed through an index with a deadline of its own, and nothing ties that
deadline to those of the records but the way in which both are written.  `Indexed` is the invariant
behind it: an index names no session of another user, and each live record is named by the index of
its owner, which lasts at least as long as the record.

The invariant is kept by every move that opens no session under an id that was used before, so that
`listByUser_exact` holds of all runs in which session ids are not used twice.  Nothing is asked of
the ids of refresh tokens or of lifetimes.
-/

set_option autoImplicit false

namespace SessionAuth
namespace SessionStore

/-- Indexes name sessions of their own users only, and every live session is in the index of its
owner, which lives at least as long. -/
structure Indexed (now : Nat) (s : SessionStore) : Prop where
  owner : ∀ {user : UserId} {x : Expiring (SortedSet String)} {id : String} {e : Expiring Session},
    s.indexes.get? user = some x → id ∈ x.value.toList → s.sessions.get? id = some e →
      e.value.userId = user
  listed : ∀ {id : String} {e : Expiring Session}, s.sessions.get? id = some e → now < e.deadline →
    ∃ x, s.indexes.get? e.value.userId = some x ∧ id ∈ x.value.toList ∧ e.deadline ≤ x.deadline

namespace Indexed

variable {now later : Nat} {s s' : SessionStore}

theorem mono (h : Indexed now s) (hle : now ≤ later) : Indexed later s where
  owner := h.owner
  listed he hlive := h.listed he (Nat.lt_of_le_of_lt hle hlive)

theorem prune (h : Indexed now s) (hp : Prune now s s') : Indexed now s' where
  owner hx hid he := by
    obtain ⟨x, hx, -, hsub⟩ := hp.indexes_get? hx
    exact h.owner hx (hsub _ hid) (hp.sessions_get? he)
  listed {id e} he hlive := by
    have hold := hp.sessions_get? he
    obtain ⟨x, hx, hid, hle⟩ := h.listed hold hlive
    obtain ⟨x', hx', hd, hkept⟩ := hp.index_kept hx (Nat.lt_of_lt_of_le hlive hle)
    refine ⟨x', hx', hkept id hid fun hnone => ?_, hd ▸ hle⟩
    exact Nat.not_lt.2 (session?_eq_none_iff.1 hnone e hold) hlive

theorem opened (h : Indexed now s) {session : Session} (ttls : Ttls)
    (hfresh : ∀ {user x}, s.indexes.get? user = some x → session.id ∉ x.value.toList) :
    Indexed now (opened now s session ttls) := by
  obtain ⟨y, hy, hleast, hiff, hkept⟩ := indexes_opened now s session ttls
  constructor
  case owner =>
    intro user x' id e hx hid he
    rw [sessions_opened, Table.get?_set_eq_some_iff] at he
    by_cases hu : user = session.userId
    · subst hu
      rw [hx, Option.some.injEq] at hy
      subst hy
      rcases he with ⟨rfl, rfl⟩ | ⟨hne, he⟩
      · rfl
      · rcases (hiff id).1 hid with rfl | ⟨x, hx, -, hid⟩
        · exact absurd rfl hne
        · exact h.owner hx hid he
    · rw [indexes_opened_of_ne now s hu] at hx
      rcases he with ⟨rfl, rfl⟩ | ⟨-, he⟩
      · exact absurd hid (hfresh hx)
      · exact h.owner hx hid he
  case listed =>
    intro id e he hlive
    rw [sessions_opened, Table.get?_set_eq_some_iff] at he
    rcases he with ⟨rfl, rfl⟩ | ⟨-, he⟩
    · exact ⟨y, hy, (hiff _).2 (.inl rfl), hleast⟩
    · obtain ⟨x, hx, hid, hle⟩ := h.listed he hlive
      by_cases hu : e.value.userId = session.userId
      · -- the index of the owner is live, so the new session is added to what it names
        rw [hu] at hx ⊢
        have hx' := Nat.lt_of_lt_of_le hlive hle
        exact ⟨y, hy, (hiff id).2 (.inr ⟨x, hx, hx', hid⟩), Nat.le_trans hle (hkept x hx hx')⟩
      · exact ⟨x, (indexes_opened_of_ne now s hu).trans hx, hid, hle⟩

theorem carriedOn (h : Indexed now s) {r : Rotation} {id : String} {session : Session}
    (hs : s.session? now id = some session) : Indexed now (carriedOn now s r id session) := by
  obtain ⟨e₀, he₀, hlive₀, rfl⟩ := session?_eq_some_iff.1 hs
  constructor
  case owner =>
    intro user x' i e hx hid he
    obtain ⟨x, hold, hv⟩ := indexes_of_carriedOn now s hx
    rw [sessions_carriedOn, Table.get?_set_eq_some_iff] at he
    rw [hv] at hid
    rcases he with ⟨rfl, rfl⟩ | ⟨-, he⟩
    · show e₀.value.userId = user
      exact h.owner hold hid he₀
    · exact h.owner hold hid he
  case listed =>
    intro i e he hlive
    rw [sessions_carriedOn, Table.get?_set_eq_some_iff] at he
    rcases he with ⟨rfl, rfl⟩ | ⟨-, he⟩
    · obtain ⟨x, hx, hid, hle⟩ := h.listed he₀ hlive₀
      obtain ⟨x', hx', hv, -, hraised⟩ :=
        indexes_carriedOn now s e₀.value r i hx
      exact ⟨x', hx', hv ▸ hid, hraised rfl (Nat.lt_of_lt_of_le hlive₀ hle)⟩
    · obtain ⟨x, hx, hid, hle⟩ := h.listed he hlive
      obtain ⟨x', hx', hv, hle', -⟩ :=
        indexes_carriedOn now s e₀.value r id hx
      exact ⟨x', hx', hv ▸ hid, Nat.le_trans hle hle'⟩

end Indexed

/-- The invariant holds throughout a run that uses no session id twice. -/
theorem indexed_after {moves : List Move} (hids : (sessionIds moves).Nodup) :
    Indexed (after moves).now (after moves).store := by
  induction moves using List.reverseRecOn with
  | nil => exact ⟨nofun, nofun⟩
  | append_singleton past move ih =>
    have hpast := ih (nodup_of_append (sessionIds_append past _ ▸ hids))
    rw [after_concat]
    have hstep : Indexed (after past).now ((after past).step move).store := by
      refine Moment.step_induction (fun h hi => hi.prune h) ?_ ?_ hpast
      · intro session ttls hid _
        refine hpast.opened ttls fun hx hmem => ?_
        exact not_mem_sessionIds hids hid ((mentions_after past).index hx hmem)
      · intro r id session _ _ hs
        exact hpast.carriedOn hs
    exact hstep.mono (Moment.now_le_step _ move)

/-! ## Listing -/

/-- No operation lowers the deadline of a live index. -/
theorem index_deadline_le (m : Moment) (move : Move) {user : UserId}
    {x : Expiring (SortedSet String)} (hx : m.store.indexes.get? user = some x)
    (hlive : m.now < x.deadline) :
    ∃ x', (m.step move).store.indexes.get? user = some x' ∧ x.deadline ≤ x'.deadline := by
  refine Moment.step_induction (P := fun s => ∃ x', s.indexes.get? user = some x' ∧
    x.deadline ≤ x'.deadline) ?_ ?_ ?_ ⟨x, hx, Nat.le_refl _⟩
  · rintro t t' h ⟨y, hy, hle⟩
    obtain ⟨y', hy', hd, -⟩ := h.index_kept hy (Nat.lt_of_lt_of_le hlive hle)
    exact ⟨y', hy', hd ▸ hle⟩
  · intro session ttls _ _
    by_cases hu : user = session.userId
    · subst hu
      obtain ⟨y, hy, -, -, hkept⟩ := indexes_opened m.now m.store session ttls
      exact ⟨y, hy, hkept x hx hlive⟩
    · exact ⟨x, (indexes_opened_of_ne m.now m.store hu).trans hx, Nat.le_refl _⟩
  · intro r id session _ _ _
    obtain ⟨x', hx', -, hle, -⟩ := indexes_carriedOn m.now m.store session r id hx
    exact ⟨x', hx', hle⟩

theorem mem_indexed {s : SessionStore} {now : Nat} {user : UserId} {id : String} :
    id ∈ s.indexed now user ↔
      ∃ x, s.indexes.get? user = some x ∧ now < x.deadline ∧ id ∈ x.value.toList := by
  rw [indexed]
  cases h : s.index? now user with
  | none =>
    simp only [List.not_mem_nil, false_iff]
    rintro ⟨x, hx, hlive, -⟩
    exact Nat.not_lt.2 (index?_eq_none_iff.1 h x hx) hlive
  | some ids =>
    obtain ⟨x, hx, hlive, rfl⟩ := index?_eq_some_iff.1 h
    simp [hx, hlive]

/-- The ids in an index are in ascending order. -/
theorem indexed_sorted (s : SessionStore) (now : Nat) (user : UserId) :
    (s.indexed now user).Pairwise fun a b => compare a b = .lt := by
  rw [indexed]
  split
  · exact SortedSet.sorted _
  · exact List.Pairwise.nil

/-- A session is listed for a user just if it is live and belongs to the user. -/
theorem mem_listByUser {s : SessionStore} {now : Nat} {user : UserId} {session : Session}
    (h : Indexed now s) :
    session ∈ (s.listByUser now user).1 ↔
      ∃ id, s.session? now id = some session ∧ session.userId = user := by
  simp only [listByUser, List.mem_filterMap, mem_indexed]
  constructor
  · rintro ⟨id, ⟨x, hx, -, hid⟩, hs⟩
    obtain ⟨e, he, -, rfl⟩ := session?_eq_some_iff.1 hs
    exact ⟨id, hs, h.owner hx hid he⟩
  · rintro ⟨id, hs, rfl⟩
    obtain ⟨e, he, hlive, rfl⟩ := session?_eq_some_iff.1 hs
    obtain ⟨x, hx, hid, hle⟩ := h.listed he hlive
    exact ⟨id, ⟨x, hx, Nat.lt_of_lt_of_le hlive hle, hid⟩, hs⟩

/-- Sessions are listed in ascending order of their ids, and none of them twice. -/
theorem listByUser_sorted {ids jtis : List String} {s : SessionStore} (now : Nat) (user : UserId)
    (h : Mentions ids jtis s) :
    (s.listByUser now user).1.Pairwise fun a b => compare a.id b.id = .lt := by
  have hid : ∀ {i session}, s.session? now i = some session → session.id = i := by
    intro i session hs
    obtain ⟨e, he, -, rfl⟩ := session?_eq_some_iff.1 hs
    exact (h.session he).2.1
  refine List.Pairwise.filterMap _ (fun a b hab c hc d hd => ?_) (indexed_sorted s now user)
  rwa [hid hc, hid hd]

/-- **Listing is exact.**  In every run that uses no session id twice, a user is shown exactly the
live sessions of that user, in ascending order of their ids; each live session is in the index of
its owner, which is live at least as long; and no move lowers the deadline of a live index. -/
theorem listByUser_exact {moves : List Move} (hids : (sessionIds moves).Nodup) (user : UserId) :
    let now := (after moves).now
    let s := (after moves).store
    (∀ session, session ∈ (s.listByUser now user).1 ↔
      ∃ id, (s.get now id).1 = some session ∧ session.userId = user) ∧
    ((s.listByUser now user).1.Pairwise fun a b => compare a.id b.id = .lt) ∧
    (∀ id session, (s.get now id).1 = some session → session.id = id) ∧
    (∀ id e, s.sessions.get? id = some e → e.isLive now → ∃ x,
      s.indexes.get? e.value.userId = some x ∧ x.isLive now ∧ id ∈ x.value.toList ∧
        e.deadline ≤ x.deadline) ∧
    (∀ x, s.indexes.get? user = some x → x.isLive now → ∀ move, ∃ x',
      ((after moves).step move).store.indexes.get? user = some x' ∧ x.deadline ≤ x'.deadline) := by
  have hindexed := indexed_after hids
  have hmentions := mentions_after moves
  refine ⟨fun session => mem_listByUser hindexed, listByUser_sorted _ user hmentions, ?_, ?_, ?_⟩
  · intro id session hget
    obtain ⟨e, he, -, rfl⟩ := session?_eq_some_iff.1 hget
    exact (hmentions.session he).2.1
  · intro id e he hlive
    have hlive := Expiring.isLive_iff.1 hlive
    obtain ⟨x, hx, hid, hle⟩ := hindexed.listed he hlive
    exact ⟨x, hx, Expiring.isLive_iff.2 (Nat.lt_of_lt_of_le hlive hle), hid, hle⟩
  · intro x hx hlive move
    exact index_deadline_le _ move hx (Expiring.isLive_iff.1 hlive)

/-- A session whose refresh token is exchanged for one with a shorter lifetime, with a second
session of the same user beside it. -/
def rearmed (user : UserId) : List Move :=
  let opening (id jti : String) (ttl : Int) : Move :=
    .ask (.call (.create ⟨id, user, "", "", jti, ⟨0, false⟩, ⟨0, false⟩, ⟨0, false⟩⟩ ⟨ttl, ttl⟩))
  [opening "b" "b1" 60, .pass nanosPerSecond, opening "a" "a1" 30,
    .ask (.call (.rotate ⟨"b1", "b2", "", "", ⟨0, false⟩, ⟨0, false⟩, ⟨10, 10⟩⟩)),
    .pass nanosPerSecond]

/-- Both sessions of the run are listed, in the order of their ids. -/
theorem listByUser_exact_rearmed : (sessionIds (rearmed .nil)).Nodup ∧
    ((after (rearmed .nil)).store.listByUser (after (rearmed .nil)).now .nil).1.map (·.id) =
      ["a", "b"] ∧
    ∀ session,
      session ∈ ((after (rearmed .nil)).store.listByUser (after (rearmed .nil)).now .nil).1 ↔
        ∃ id, ((after (rearmed .nil)).store.get (after (rearmed .nil)).now id).1 = some session ∧
          session.userId = .nil := by
  have hids : (sessionIds (rearmed .nil)).Nodup := by decide
  exact ⟨hids, by decide, (listByUser_exact hids .nil).1⟩

end SessionStore
end SessionAuth
