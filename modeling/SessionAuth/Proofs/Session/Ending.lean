import SessionAuth.Proofs.Session.Sparing

/-!
# Sessions that come to their end

`Ended` says of a store that no more has happened to it than that some sessions were forgotten:
each of these has no record and no pointer left, and of every other the same can be read as before.
Deletions, sweeps and listings all do no more than that, and so do any number of them in any order,
also where two are after the same sessions.

Where the sessions that may be forgotten are those of some users, and none of them is left, there is
only one way to answer: `Ended.session?_iff`, `Ended.hasJti_iff` and `Ended.listByUser_eq` read the
answers off the store that was there before.
-/

set_option autoImplicit false

namespace SessionAuth
namespace SessionStore

variable {now : Nat} {mayEnd : String → Prop} {s t u : SessionStore}

/-- A store in which at most some sessions were forgotten, and that is otherwise read as before. -/
structure Ended (now : Nat) (mayEnd : String → Prop) (s t : SessionStore) : Prop where
  prunes : Prunes now s t
  each : ∀ id, SameBut now (· ≠ id) s t ∨ mayEnd id ∧ Forgotten id t

namespace Ended

theorem of_faded (h : Faded now s t) (hprunes : Prunes now s t) : Ended now mayEnd s t :=
  ⟨hprunes, fun _ => .inl (.of_faded h)⟩

theorem refl (now : Nat) (mayEnd : String → Prop) (s : SessionStore) : Ended now mayEnd s s :=
  .of_faded (.refl now s) .refl

theorem trans (h : Ended now mayEnd s t) (h' : Ended now mayEnd t u) : Ended now mayEnd s u where
  prunes := h.prunes.trans h'.prunes
  each id := by
    rcases h'.each id with hsame' | hgone
    · rcases h.each id with hsame | ⟨hid, hgone⟩
      · exact .inl (hsame.trans hsame')
      · exact .inr ⟨hid, hgone.prunes h'.prunes⟩
    · exact .inr hgone

/-! ## Operations -/

theorem listByUser (s : SessionStore) (user : UserId) :
    Ended now mayEnd s (s.listByUser now user).2 :=
  .of_faded (((Faded.refl now s).purgeIndex_right user).purgeSessions_right _)
    (prunes_listByUser now s user)

theorem sweepUser (s : SessionStore) (user : UserId) :
    Ended now mayEnd s (s.sweepUser now user).2 :=
  ⟨prunes_sweepUser now s user, fun _ => .inl (.sweepUser (Nat.le_refl _) user)⟩

/-- A session that may end can be deleted, whether it still has a record or not. -/
theorem deleteOne (hpaired : Paired s) {id : String} (hid : mayEnd id) :
    Ended now mayEnd s (s.deleteOne now id).2 := by
  refine ⟨prunes_deleteOne now s id, fun other => ?_⟩
  by_cases hother : other = id
  · subst hother
    cases he : s.sessions.get? other with
    | none =>
      -- there is nothing left to delete
      rw [SessionStore.deleteOne, he]
      exact .inl (.of_faded (.refl now s))
    | some e => exact .inr ⟨hid, .deleteOne hpaired he⟩
  · refine .inl ((SameBut.deleteOne now fun e he id' hlead => ?_).mono ?_)
    · obtain ⟨p, hp, -, rfl⟩ := pointer?_eq_some_iff.1 hlead
      exact (hpaired.leads_iff hp he).2 rfl
    · rintro _ rfl
      exact Ne.symm hother

theorem delete (hpaired : Paired s) {ids : List String} (hids : ∀ id ∈ ids, mayEnd id) :
    Ended now mayEnd s (s.delete now ids).2 := by
  induction ids generalizing s with
  | nil => exact .refl now mayEnd s
  | cons id ids ih =>
    obtain ⟨hid, hids⟩ := List.forall_mem_cons.1 hids
    have hrest : Paired (s.deleteOne now id).2 :=
      (prunes_deleteOne now s id).induction (fun h hi => hi.prune h) hpaired
    exact (deleteOne hpaired hid).trans (ih hrest hids)

/-! ## Answers -/

/-- What is read was there before. -/
theorem session?_eq_some (h : Ended now mayEnd s t) {id : String} {session : Session}
    (hlive : t.session? now id = some session) : s.session? now id = some session := by
  obtain ⟨e, he, hrest⟩ := session?_eq_some_iff.1 hlive
  exact session?_eq_some_iff.2 ⟨e, h.prunes.sessions_get? he, hrest⟩

theorem owns (h : Ended now mayEnd s t) {user : UserId} {id : String}
    (howns : t.Owns now user id) : s.Owns now user id := by
  obtain ⟨session, hlive, huser⟩ := howns
  exact ⟨session, h.session?_eq_some hlive, huser⟩

theorem paired (h : Ended now mayEnd s t) (hpaired : Paired s) : Paired t :=
  h.prunes.induction (fun hp hi => hi.prune hp) hpaired

section Gone

variable {users : UserId → Prop}
  (h : Ended now (fun id => ∃ user, users user ∧ s.Owns now user id) s t)
  (hgone : ∀ user, users user → ∀ id, ¬ t.Owns now user id)

include h hgone

/-- The sessions of all others are left. -/
theorem session?_iff {id : String} {session : Session} :
    t.session? now id = some session ↔
      s.session? now id = some session ∧ ¬ users session.userId := by
  constructor
  · intro hlive
    exact ⟨h.session?_eq_some hlive, fun hu => hgone _ hu id ⟨session, hlive, rfl⟩⟩
  · rintro ⟨hlive, hu⟩
    rcases h.each id with hsame | ⟨⟨user, huser, session', hlive', rfl⟩, -⟩
    · rwa [hsame.session?_eq (not_not_intro rfl)]
    · cases hlive.symm.trans hlive'
      exact absurd huser hu

/-- The refresh tokens are left that lead to none of those sessions. -/
theorem hasJti_iff {jti : String} : t.hasJti now jti = true ↔ ∃ id,
    s.pointer? now jti = some id ∧ ∀ user, users user → ¬ s.Owns now user id := by
  rw [hasJti, Option.isSome_iff_exists]
  refine exists_congr fun id => ?_
  constructor
  · intro hlead
    obtain ⟨p, hp, hrest⟩ := pointer?_eq_some_iff.1 hlead
    refine ⟨pointer?_eq_some_iff.2 ⟨p, h.prunes.pointers_get? hp, hrest⟩, ?_⟩
    rintro user hu ⟨session, hlive, huser⟩
    rcases h.each id with hsame | ⟨-, hforgotten⟩
    · rw [← hsame.session?_eq (not_not_intro rfl)] at hlive
      exact hgone user hu id ⟨session, hlive, huser⟩
    · exact hforgotten.pointer hp hrest.2
  · rintro ⟨hlead, hspared⟩
    rcases h.each id with hsame | ⟨⟨user, hu, howns⟩, -⟩
    · exact (hsame.pointer?_iff (not_not_intro rfl)).2 hlead
    · exact absurd howns (hspared user hu)

/-- Lists are empty, or as they were. -/
theorem listByUser_eq (hs : Listable now s) (user : UserId) [Decidable (users user)] :
    (t.listByUser now user).1 = if users user then [] else (s.listByUser now user).1 := by
  have ht := hs.prunes h.prunes
  split
  case isTrue hu =>
    refine List.eq_nil_iff_forall_not_mem.2 fun session hsession => ?_
    exact hgone user hu _ (Spares.owns_of_mem_listByUser ht hsession)
  case isFalse hu =>
    have hall := filter_listByUser_eq hs ht (fun _ => true) fun id session huser _ => by
      rw [h.session?_iff hgone, and_iff_left (huser.symm ▸ hu)]
    rwa [List.filter_true, List.filter_true] at hall

end Gone

end Ended
end SessionStore
end SessionAuth
