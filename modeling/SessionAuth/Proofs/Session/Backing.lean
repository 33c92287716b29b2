import SessionAuth.Proofs.Session.Revocation

/-!
# What stands behind a refresh token

A pointer and the record that it leads to are written together, each with a deadline of its own.
From then on they part only in one way: the record expires before the pointer.  Everything else that
takes a record away takes the pointer with it, since a deletion looks up in the record which pointer
that is, and `Paired` says that there is no other.

`Sheds` is what a store can lose under these terms, and `answer_cases` says that no question makes
it lose more.  So a pointer always goes back to one write of the run, and behind it stands the
record of that write until its deadline (`backed_after`, `hasJti_backed`).
-/

set_option autoImplicit false

namespace SessionAuth
namespace SessionStore

/-! ## Writes -/

/-- The refresh token that a move brings into the store, with the lifetimes that are written. -/
def Move.write? : Move → Option (String × Ttls)
  | .ask (.call (.create session ttls)) => some (session.currentJti, ttls)
  | .ask (.call (.rotate r)) => some (r.newJti, r.ttls)
  | _ => none

/-- Whether a refresh token came into the store at some time of a run, with these lifetimes. -/
def Brought (moves : List Move) (jti : String) (time : Nat) (ttls : Ttls) : Prop :=
  ∃ earlier move later, moves = earlier ++ move :: later ∧ move.write? = some (jti, ttls) ∧
    (after earlier).now = time

theorem Brought.append {moves : List Move} {jti : String} {time : Nat} {ttls : Ttls}
    (h : Brought moves jti time ttls) (more : List Move) :
    Brought (moves ++ more) jti time ttls := by
  obtain ⟨earlier, move, later, rfl, hwrite, htime⟩ := h
  exact ⟨earlier, move, later ++ more, by simp, hwrite, htime⟩

theorem brought_concat (past : List Move) {move : Move} {jti : String} {ttls : Ttls}
    (h : move.write? = some (jti, ttls)) :
    Brought (past ++ [move]) jti (after past).now ttls :=
  ⟨past, move, [], rfl, h, rfl⟩

/-! ## What a store can lose -/

/-- One store is another that lost entries, among them only such records as had expired or have no
pointers left. -/
structure Sheds (now : Nat) (s s' : SessionStore) : Prop where
  pointer : ∀ {jti : String} {p : Expiring String}, s'.pointers.get? jti = some p →
    s.pointers.get? jti = some p
  session : ∀ id, s'.sessions.get? id = s.sessions.get? id ∨ s'.sessions.get? id = none ∧
    (s.session? now id = none ∨
      ∀ {jti : String} {p : Expiring String}, s'.pointers.get? jti = some p → p.value ≠ id)

namespace Sheds

variable {now : Nat} {s s' t : SessionStore}

theorem of_eq (hsessions : s'.sessions = s.sessions) (hpointers : s'.pointers = s.pointers) :
    Sheds now s s' :=
  ⟨fun hp => hpointers ▸ hp, fun _ => .inl (hsessions ▸ rfl)⟩

theorem refl (now : Nat) (s : SessionStore) : Sheds now s s := of_eq rfl rfl

theorem trans (h : Sheds now s s') (h' : Sheds now s' t) : Sheds now s t where
  pointer hp := h.pointer (h'.pointer hp)
  session id := by
    rcases h'.session id with hsame' | ⟨hnone', hwhy'⟩ <;>
      rcases h.session id with hsame | ⟨hnone, hwhy⟩
    · exact .inl (hsame'.trans hsame)
    · exact .inr ⟨hsame'.trans hnone, hwhy.imp_right fun h _ _ hp => h (h'.pointer hp)⟩
    · refine .inr ⟨hnone', hwhy'.imp_left fun hdead => ?_⟩
      rwa [session?, ← hsame]
    · exact .inr ⟨hnone', hwhy.imp_right fun h _ _ hp => h (h'.pointer hp)⟩

theorem purgeSession (now : Nat) (s : SessionStore) (id : String) :
    Sheds now s (s.purgeSession now id) := by
  rw [SessionStore.purgeSession]
  split
  · exact refl now s
  · rename_i hdead
    refine ⟨fun hp => hp, fun id' => ?_⟩
    rw [Table.get?_erase]
    split
    · rename_i hid
      exact .inr ⟨rfl, .inl (hid ▸ Option.not_isSome_iff_eq_none.1 hdead)⟩
    · exact .inl rfl

theorem purgeIndex (now : Nat) (s : SessionStore) (user : UserId) :
    Sheds now s (s.purgeIndex now user) :=
  of_eq (sessions_purgeIndex now s user) (pointers_purgeIndex now s user)

theorem purgeSessions (now : Nat) (s : SessionStore) (ids : List String) :
    Sheds now s (ids.foldl (fun s id => s.purgeSession now id) s) := by
  induction ids generalizing s with
  | nil => exact refl now s
  | cons id ids ih => exact (purgeSession now s id).trans (ih _)

theorem removeFromIndex (now : Nat) (s : SessionStore) (user : UserId) (ids : List String) :
    Sheds now s (ids.foldl (fun s id => s.removeFromIndex user id) s) := by
  induction ids generalizing s with
  | nil => exact refl now s
  | cons id ids ih =>
    have hfirst : Sheds now s (s.removeFromIndex user id) := of_eq rfl rfl
    exact hfirst.trans (ih _)

theorem listByUser (now : Nat) (s : SessionStore) (user : UserId) :
    Sheds now s (s.listByUser now user).2 :=
  (purgeIndex now s user).trans (purgeSessions now _ _)

theorem sweepUser (now : Nat) (s : SessionStore) (user : UserId) :
    Sheds now s (s.sweepUser now user).2 :=
  (listByUser now s user).trans (removeFromIndex now _ user _)

/-- A deletion takes away a record with its one pointer. -/
theorem deleteOne (now : Nat) (hpaired : Paired s) (id : String) :
    Sheds now s (s.deleteOne now id).2 := by
  cases he : s.sessions.get? id with
  | none =>
    rw [SessionStore.deleteOne, he]
    exact refl now s
  | some e =>
    have hforgotten : Forgotten id (s.deleteOne now id).2 := Forgotten.deleteOne hpaired he
    constructor
    case pointer => exact (prunes_deleteOne now s id).pointers_get?
    case session =>
      intro id'
      by_cases hid : id' = id
      · subst hid
        exact .inr ⟨hforgotten.record, .inr hforgotten.pointer⟩
      · refine .inl ?_
        simp [SessionStore.deleteOne, he, SessionStore.removeFromIndex, Table.get?_erase, hid]

theorem delete (now : Nat) (hpaired : Paired s) (ids : List String) :
    Sheds now s (s.delete now ids).2 := by
  induction ids generalizing s with
  | nil => exact refl now s
  | cons id ids ih =>
    have hkept := (prunes_deleteOne now s id).induction (fun h hi => hi.prune h) hpaired
    exact (deleteOne now hpaired id).trans (ih hkept)

end Sheds
/-- A token that leads to no live session is exchanged for nothing. -/
theorem Sheds.rotate (now : Nat) {s : SessionStore} {r : Rotation}
    (h : ∀ id, s.pointer? now r.oldJti = some id → s.session? now id = none) :
    Sheds now s (s.rotate now r).2 := by
  have htaken : Sheds now s { s with pointers := s.pointers.erase r.oldJti } :=
    ⟨fun hp => (Table.get?_erase_eq_some_iff.1 hp).2, fun _ => .inl rfl⟩
  rw [SessionStore.rotate]
  split
  · exact .refl now s
  dsimp only
  split
  · exact htaken
  rename_i id hptr
  have hdead : session? { s with pointers := s.pointers.erase r.oldJti } now id = none := h id hptr
  simp only [hdead]
  exact htaken.trans (.purgeSession now _ id)

/-- **What a question can do**, when every record has one pointer.  The store sheds what has expired
or is deleted, or a session is opened, or one is carried on. -/
theorem answer_cases (now : Nat) {s : SessionStore} (hpaired : Paired s) (q : Question) :
    Sheds now s (answer now q s).2 ∨
    (∃ session ttls, q = .call (.create session ttls) ∧
      (answer now q s).2 = opened now s session ttls) ∨
    ∃ r id session, q = .call (.rotate r) ∧ s.pointer? now r.oldJti = some id ∧
      s.session? now id = some session ∧ (answer now q s).2 = carriedOn now s r id session := by
  cases q with
  | indexedUsers => exact .inl (.refl now s)
  | call c =>
    cases c with
    | create session ttls =>
      rw [answer_create]
      split
      · exact .inr (.inl ⟨session, ttls, rfl, rfl⟩)
      · exact .inl (.refl now s)
    | rotate r =>
      rcases leads_or_spent now s r.oldJti with ⟨id, session, hptr, hs⟩ | hspent
      · cases hv : r.ttls.isValid with
        | true =>
          refine .inr (.inr ⟨r, id, session, rfl, hptr, hs, ?_⟩)
          exact congrArg Prod.snd (rotate_of_live now s hv hptr hs)
        | false =>
          refine .inl ?_
          show Sheds now s (s.rotate now r).2
          rw [rotate, hv]
          exact .refl now s
      · exact .inl (.rotate now hspent)
    | hasJti jti => exact .inl (.refl now s)
    | get id => exact .inl (.purgeSession now s id)
    | listByUser user => exact .inl (.listByUser now s user)
    | delete ids => exact .inl (.delete now hpaired ids)
    | sweepUser user => exact .inl (.sweepUser now s user)

/-! ## What stands behind a pointer -/

/-- The record that was written with a pointer is there, or it has expired. -/
inductive IsBacked (now : Nat) (s : SessionStore) (jti id : String) (ends : Nat) : Prop
  | stored {e : Expiring Session} (he : s.sessions.get? id = some e)
      (hjti : e.value.currentJti = jti) (hends : e.deadline = ends)
  | expired (hnone : s.sessions.get? id = none) (hends : ends ≤ now)

namespace IsBacked

variable {now later ends : Nat} {s s' : SessionStore} {jti id : String}

theorem mono (h : IsBacked now s jti id ends) (hle : now ≤ later) :
    IsBacked later s jti id ends := by
  cases h with
  | stored he hjti hends => exact .stored he hjti hends
  | expired hnone hends => exact .expired hnone (Nat.le_trans hends hle)

theorem of_eq (h : IsBacked now s jti id ends)
    (heq : s'.sessions.get? id = s.sessions.get? id) : IsBacked now s' jti id ends := by
  cases h with
  | stored he hjti hends => exact .stored (heq.trans he) hjti hends
  | expired hnone hends => exact .expired (heq.trans hnone) hends

theorem sheds (h : IsBacked now s jti id ends) (hsheds : Sheds now s s') {p : Expiring String}
    (hp : s'.pointers.get? jti = some p) (hlead : p.value = id) :
    IsBacked now s' jti id ends := by
  rcases hsheds.session id with hsame | ⟨hnone, hdead | hfree⟩
  · exact h.of_eq hsame
  · cases h with
    | stored he _ hends => exact .expired hnone (hends ▸ session?_eq_none_iff.1 hdead _ he)
    | expired _ hends => exact .expired hnone hends
  · exact absurd hlead (hfree hp)

end IsBacked

/-- Every pointer goes back to a write of the run, and what was written with it stands behind it. -/
structure Backed (moves : List Move) (now : Nat) (s : SessionStore) : Prop where
  pointer : ∀ {jti : String} {p : Expiring String}, s.pointers.get? jti = some p →
    ∃ time ttls, Brought moves jti time ttls ∧ p.deadline = deadline time ttls.jti ∧
      IsBacked now s jti p.value (deadline time ttls.session)

namespace Backed

variable {moves : List Move} {ids jtis : List String} {now later : Nat} {s s' : SessionStore}

theorem mono (h : Backed moves now s) (hle : now ≤ later) (more : List Move) :
    Backed (moves ++ more) later s where
  pointer hp := by
    obtain ⟨time, ttls, hbrought, hdeadline, hbacked⟩ := h.pointer hp
    exact ⟨time, ttls, hbrought.append more, hdeadline, hbacked.mono hle⟩

theorem sheds (h : Backed moves now s) (hsheds : Sheds now s s') : Backed moves now s' where
  pointer hp := by
    obtain ⟨time, ttls, hbrought, hdeadline, hbacked⟩ := h.pointer (hsheds.pointer hp)
    exact ⟨time, ttls, hbrought, hdeadline, hbacked.sheds hsheds hp rfl⟩

theorem opened (h : Backed moves now s) (hm : Mentions ids jtis s) {session : Session}
    {ttls : Ttls} (hid : session.id ∉ ids) (hbrought : Brought moves session.currentJti now ttls) :
    Backed moves now (opened now s session ttls) where
  pointer {jti p} hp := by
    rw [pointers_opened, Table.get?_set_eq_some_iff] at hp
    rcases hp with ⟨rfl, rfl⟩ | ⟨-, hp⟩
    · have hrecord : (SessionStore.opened now s session ttls).sessions.get? session.id =
          some ⟨session, deadline now ttls.session⟩ := by
        rw [sessions_opened, Table.get?_set, if_pos rfl]
      exact ⟨now, ttls, hbrought, rfl, .stored hrecord rfl rfl⟩
    · obtain ⟨time, ttls', hbrought', hdeadline, hbacked⟩ := h.pointer hp
      -- an old pointer leads to an old session
      have hne : p.value ≠ session.id := fun heq => hid (heq ▸ (hm.pointer hp).2)
      refine ⟨time, ttls', hbrought', hdeadline, hbacked.of_eq ?_⟩
      rw [sessions_opened, Table.get?_set, if_neg hne]

theorem carriedOn (h : Backed moves now s) (hpaired : Paired s) {r : Rotation} {id : String}
    {session : Session} (hptr : s.pointer? now r.oldJti = some id)
    (hs : s.session? now id = some session) (hbrought : Brought moves r.newJti now r.ttls) :
    Backed moves now (carriedOn now s r id session) where
  pointer {jti p} hp := by
    rw [pointers_carriedOn, Table.get?_set_eq_some_iff, Table.get?_erase_eq_some_iff] at hp
    rcases hp with ⟨rfl, rfl⟩ | ⟨-, hold, hp⟩
    · have hrecord : (SessionStore.carriedOn now s r id session).sessions.get? id =
          some ⟨session.rotated r, deadline now r.ttls.session⟩ := by
        rw [sessions_carriedOn, Table.get?_set, if_pos rfl]
      exact ⟨now, r.ttls, hbrought, rfl, .stored hrecord rfl rfl⟩
    · obtain ⟨time, ttls', hbrought', hdeadline, hbacked⟩ := h.pointer hp
      -- the one pointer that led to the session has been taken away
      have hne : p.value ≠ id := by
        obtain ⟨p₀, hp₀, -, hlead⟩ := pointer?_eq_some_iff.1 hptr
        obtain ⟨e, he, -, -⟩ := session?_eq_some_iff.1 hs
        intro heq
        have hcurrent : e.value.currentJti = r.oldJti := (hpaired.leads_iff hp₀ he).1 hlead
        exact hold (((hpaired.leads_iff hp he).1 heq).symm.trans hcurrent)
      refine ⟨time, ttls', hbrought', hdeadline, hbacked.of_eq ?_⟩
      rw [sessions_carriedOn, Table.get?_set, if_neg hne]

end Backed

/-- The invariant holds throughout a run that uses no id twice. -/
theorem backed_after {moves : List Move} (hids : (sessionIds moves).Nodup)
    (hjtis : (tokenIds moves).Nodup) : Backed moves (after moves).now (after moves).store := by
  induction moves using List.reverseRecOn with
  | nil => exact ⟨nofun⟩
  | append_singleton past move ih =>
    have hidsPast := nodup_of_append (sessionIds_append past _ ▸ hids)
    have hjtisPast := nodup_of_append (tokenIds_append past _ ▸ hjtis)
    have hpast := (ih hidsPast hjtisPast).mono (Nat.le_refl _) [move]
    have hpaired := paired_after hidsPast hjtisPast
    rw [after_concat]
    cases move with
    | ask q =>
      show Backed _ _ (answer (after past).now q (after past).store).2
      rcases answer_cases (after past).now hpaired q with hsheds |
        ⟨session, ttls, rfl, heq⟩ | ⟨r, id, session, rfl, hptr, hs, heq⟩
      · exact hpast.sheds hsheds
      · rw [heq]
        exact hpast.opened (mentions_after past) (not_mem_sessionIds hids rfl)
          (brought_concat past rfl)
      · rw [heq]
        exact hpast.carriedOn hpaired hptr hs (brought_concat past rfl)
    | indexSize user => exact hpast.sheds (.purgeIndex _ _ user)
    | pass nanos =>
      have hlater := (ih hidsPast hjtisPast).mono (Nat.le_add_right _ nanos) [.pass nanos]
      exact hlater

/-- **What a valid refresh token stands for.**  It came into the store at some time of the run, its
own lifetime is not over, and it is the current token of a live session just as long as the lifetime
is not over that the session was given at that time. -/
theorem hasJti_backed {moves : List Move} (hids : (sessionIds moves).Nodup)
    (hjtis : (tokenIds moves).Nodup) {jti : String}
    (hvalid : (after moves).store.hasJti (after moves).now jti = true) :
    ∃ time ttls, Brought moves jti time ttls ∧ (after moves).now < deadline time ttls.jti ∧
      ((∃ id session, (after moves).store.session? (after moves).now id = some session ∧
        session.currentJti = jti) ↔ (after moves).now < deadline time ttls.session) := by
  obtain ⟨id, hid⟩ := Option.isSome_iff_exists.1 hvalid
  obtain ⟨p, hp, hlive, -⟩ := pointer?_eq_some_iff.1 hid
  have hpaired := paired_after hids hjtis
  obtain ⟨time, ttls, hbrought, hdeadline, hbacked⟩ := (backed_after hids hjtis).pointer hp
  refine ⟨time, ttls, hbrought, hdeadline ▸ hlive, ?_⟩
  constructor
  · rintro ⟨i, session, hs, hjti⟩
    obtain ⟨e, he, hlives, rfl⟩ := session?_eq_some_iff.1 hs
    obtain rfl := (hpaired.leads_iff hp he).2 hjti
    cases hbacked with
    | stored he' _ hends =>
      rw [he, Option.some.injEq] at he'
      rw [← hends, ← he']
      exact hlives
    | expired hnone => cases hnone.symm.trans he
  · intro hends
    cases hbacked with
    | stored he hjti hdeadline =>
      exact ⟨p.value, _, session?_eq_some_iff.2 ⟨_, he, hdeadline ▸ hends, rfl⟩, hjti⟩
    | expired _ hle => exact absurd hends (Nat.not_lt.2 hle)

end SessionStore
end SessionAuth
