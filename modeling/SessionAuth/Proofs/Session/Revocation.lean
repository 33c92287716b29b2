import SessionAuth.Deployment
import SessionAuth.Proofs.Program.Run
import SessionAuth.Proofs.Session.Timeline

/-!
# Revocation is final

A session is gone once its record has been deleted or has expired.  That it does not come back
(`Moment.gone_run`) needs no more than that ids are not used twice.  That nothing is left which
could be exchanged for it needs to know where pointers lead, and there are two halves to it.

* `Paired` ties a record to the one pointer that leads to it, so that a deletion, which takes away
  the pointer that the record names, takes away all pointers to the session (`Forgotten.delete`).
* `pointer_of_lineage` says that the id of a token never leads anywhere but to the session whose
  current token it was.

Together they leave no token of a deleted session behind, whatever happened to the session between
the time it was listed and the time it was deleted.
-/

set_option autoImplicit false

namespace SessionAuth
namespace SessionStore

/-! ## Records and their pointers -/

/-- A pointer leads to a session just if it is the one that the record of the session names. -/
structure Paired (s : SessionStore) : Prop where
  leads_iff : ∀ {jti : String} {p : Expiring String} {id : String} {e : Expiring Session},
    s.pointers.get? jti = some p → s.sessions.get? id = some e →
      (p.value = id ↔ e.value.currentJti = jti)

namespace Paired

variable {ids jtis : List String} {now : Nat} {s s' : SessionStore}

theorem prune (h : Paired s) (hp : Prune now s s') : Paired s' where
  leads_iff hptr he := h.leads_iff (hp.pointers_get? hptr) (hp.sessions_get? he)

theorem opened (h : Paired s) (hm : Mentions ids jtis s) {session : Session} (ttls : Ttls)
    (hid : session.id ∉ ids) (hjti : session.currentJti ∉ jtis) :
    Paired (opened now s session ttls) := by
  refine ⟨fun {jti p id e} hp he => ?_⟩
  rw [pointers_opened, Table.get?_set_eq_some_iff] at hp
  rw [sessions_opened, Table.get?_set_eq_some_iff] at he
  rcases hp with ⟨rfl, rfl⟩ | ⟨hj, hp⟩ <;> rcases he with ⟨rfl, rfl⟩ | ⟨hi, he⟩
  · exact iff_of_true rfl rfl
  · -- an old record names an old token
    refine iff_of_false (Ne.symm hi) fun h => hjti ?_
    exact h ▸ (hm.session he).2.2
  · -- an old pointer leads to an old session
    refine iff_of_false (fun h => hid ?_) (Ne.symm hj)
    exact h ▸ (hm.pointer hp).2
  · exact h.leads_iff hp he

theorem carriedOn (h : Paired s) (hm : Mentions ids jtis s) {r : Rotation} {id : String}
    {session : Session} (hptr : s.pointer? now r.oldJti = some id)
    (hs : s.session? now id = some session) (hjti : r.newJti ∉ jtis) :
    Paired (carriedOn now s r id session) := by
  obtain ⟨p₀, hp₀, -, hlead⟩ := pointer?_eq_some_iff.1 hptr
  obtain ⟨e₀, he₀, -, rfl⟩ := session?_eq_some_iff.1 hs
  have hcurrent : e₀.value.currentJti = r.oldJti := (h.leads_iff hp₀ he₀).1 hlead
  refine ⟨fun {jti p i e} hp he => ?_⟩
  rw [pointers_carriedOn, Table.get?_set_eq_some_iff, Table.get?_erase_eq_some_iff] at hp
  rw [sessions_carriedOn, Table.get?_set_eq_some_iff] at he
  rcases hp with ⟨rfl, rfl⟩ | ⟨hj, hold, hp⟩ <;> rcases he with ⟨rfl, rfl⟩ | ⟨hi, he⟩
  · exact iff_of_true rfl rfl
  · refine iff_of_false (Ne.symm hi) fun h => hjti ?_
    exact h ▸ (hm.session he).2.2
  · -- the one pointer that led to the session has been taken away
    refine iff_of_false (fun hv => hold ?_) (Ne.symm hj)
    exact ((h.leads_iff hp he₀).1 hv).symm.trans hcurrent
  · exact h.leads_iff hp he

end Paired

/-- Records and pointers are paired throughout a run that uses no id twice. -/
theorem paired_after {moves : List Move} (hids : (sessionIds moves).Nodup)
    (hjtis : (tokenIds moves).Nodup) : Paired (after moves).store := by
  induction moves using List.reverseRecOn with
  | nil => exact ⟨nofun⟩
  | append_singleton past move ih =>
    have hpast := ih (nodup_of_append (sessionIds_append past _ ▸ hids))
      (nodup_of_append (tokenIds_append past _ ▸ hjtis))
    have hm := mentions_after past
    rw [after_concat]
    refine Moment.step_induction (fun h hi => hi.prune h) ?_ ?_ hpast
    · intro session ttls hid hjti
      exact hpast.opened hm ttls (not_mem_sessionIds hids hid) (not_mem_tokenIds hjtis hjti)
    · intro r id session hjti hptr hs
      exact hpast.carriedOn hm hptr hs (not_mem_tokenIds hjtis hjti)

/-! ## Where a token leads -/

/-- A pointer is older than a move, or it was written by the move. -/
theorem pointer_before_step (m : Moment) (move : Move) {jti : String} {p : Expiring String}
    (hp : (m.step move).store.pointers.get? jti = some p) :
    m.store.pointers.get? jti = some p ∨ move.tokenId? = some jti := by
  revert hp
  refine Moment.step_induction (P := fun s => s.pointers.get? jti = some p →
    m.store.pointers.get? jti = some p ∨ move.tokenId? = some jti) ?_ ?_ ?_ .inl
  · intro s s' h ih hp
    exact ih (h.pointers_get? hp)
  · intro session ttls _ hjti hp
    rw [pointers_opened, Table.get?_set_eq_some_iff] at hp
    rcases hp with ⟨rfl, -⟩ | ⟨-, hp⟩
    · exact .inr hjti
    · exact .inl hp
  · intro r id session hjti _ _ hp
    rw [pointers_carriedOn, Table.get?_set_eq_some_iff, Table.get?_erase_eq_some_iff] at hp
    rcases hp with ⟨rfl, -⟩ | ⟨-, -, hp⟩
    · exact .inr hjti
    · exact .inl hp

/-- A pointer is older than some moves, or it was written by one of them. -/
theorem pointer_before_run (m : Moment) (moves : List Move) {jti : String} {p : Expiring String}
    (hp : (m.run moves).store.pointers.get? jti = some p) :
    m.store.pointers.get? jti = some p ∨ jti ∈ tokenIds moves := by
  induction moves generalizing m with
  | nil => exact .inl hp
  | cons move moves ih =>
    rw [show tokenIds (move :: moves) = tokenIds [move] ++ tokenIds moves from
      tokenIds_append [move] moves, List.mem_append]
    rcases ih (m.step move) hp with hp | hnew
    · exact (pointer_before_step m move hp).imp_right fun hnew =>
        .inl (mem_tokenIds_concat [] hnew)
    · exact .inr (.inr hnew)

/-- Whether a token was at some point of a run the current one of a session. -/
def WasCurrent (moves : List Move) (id jti : String) : Prop :=
  ∃ earlier, earlier <+: moves ∧ ∃ e, (after earlier).store.sessions.get? id = some e ∧
    e.value.currentJti = jti

/-- The token comes from the run. -/
theorem WasCurrent.mem_tokenIds {moves : List Move} {id jti : String}
    (h : WasCurrent moves id jti) : jti ∈ tokenIds moves := by
  obtain ⟨earlier, ⟨rest, rfl⟩, e, he, rfl⟩ := h
  rw [tokenIds_append]
  exact List.mem_append_left _ ((mentions_after earlier).session he).2.2

/-- The id of a token leads nowhere but to the session whose current token it was. -/
theorem pointer_of_lineage {moves : List Move} (hids : (sessionIds moves).Nodup)
    (hjtis : (tokenIds moves).Nodup) {id jti : String} (h : WasCurrent moves id jti)
    {p : Expiring String} (hp : (after moves).store.pointers.get? jti = some p) :
    p.value = id := by
  induction moves using List.reverseRecOn with
  | nil => cases hp
  | append_singleton past move ih =>
    obtain ⟨earlier, hearlier, e, he, hjti⟩ := h
    rcases List.prefix_concat_iff.1 hearlier with rfl | hearlier
    · exact ((paired_after hids hjtis).leads_iff hp he).2 hjti
    · have hpast : WasCurrent past id jti := ⟨earlier, hearlier, e, he, hjti⟩
      rw [after_concat] at hp
      rcases pointer_before_step _ move hp with hp | hnew
      · exact ih (nodup_of_append (sessionIds_append past _ ▸ hids))
          (nodup_of_append (tokenIds_append past _ ▸ hjtis)) hpast hp
      · exact absurd hpast.mem_tokenIds (not_mem_tokenIds hjtis hnew)

/-! ## Sessions that are gone -/

/-- A session that is not live stays so, as long as none is opened under its id. -/
theorem Moment.gone_step {m : Moment} {move : Move} {id : String} (h : ¬ m.IsLive id)
    (hid : move.sessionId? ≠ some id) : ¬ (m.step move).IsLive id := by
  rw [Moment.not_isLive_iff] at h ⊢
  have hstep : (m.step move).store.session? m.now id = none := by
    refine step_induction (P := fun s => s.session? m.now id = none)
      (fun hp hs => hp.session?_eq_none hs) ?_ ?_ h
    · intro session ttls hopen _
      refine session?_eq_none_iff.2 fun e he => ?_
      rw [sessions_opened, Table.get?_set_eq_some_iff] at he
      rcases he with ⟨rfl, -⟩ | ⟨-, he⟩
      · exact absurd hopen hid
      · exact session?_eq_none_iff.1 h e he
    · intro r i session _ _ hs
      refine session?_eq_none_iff.2 fun e he => ?_
      rw [sessions_carriedOn, Table.get?_set_eq_some_iff] at he
      rcases he with ⟨rfl, -⟩ | ⟨-, he⟩
      · cases h.symm.trans hs
      · exact session?_eq_none_iff.1 h e he
  exact session?_eq_none_of_le hstep (now_le_step m move)

/-- A session that is gone does not come back in the rest of a run that opens none under its id. -/
theorem Moment.gone_run {m : Moment} {moves : List Move} {id : String} (h : ¬ m.IsLive id)
    (hid : id ∉ sessionIds moves) : ¬ (m.run moves).IsLive id := by
  induction moves generalizing m with
  | nil => exact h
  | cons move moves ih =>
    refine ih (gone_step h fun hopen => hid ?_) fun hmem => hid ?_
    · exact List.mem_filterMap.2 ⟨move, List.mem_cons_self .., hopen⟩
    · exact (sessionIds_append [move] moves).symm ▸ List.mem_append_right _ hmem

/-! ## Sessions that are forgotten -/

/-- There is neither a record of a session nor a pointer that leads to it. -/
structure Forgotten (id : String) (s : SessionStore) : Prop where
  record : s.sessions.get? id = none
  pointer : ∀ {jti : String} {p : Expiring String}, s.pointers.get? jti = some p → p.value ≠ id

namespace Forgotten

variable {now : Nat} {s s' : SessionStore} {id : String}

theorem prune (h : Forgotten id s) (hp : Prune now s s') : Forgotten id s' where
  record := by
    refine Option.eq_none_iff_forall_ne_some.2 fun e he => ?_
    cases h.record.symm.trans (hp.sessions_get? he)
  pointer hptr := h.pointer (hp.pointers_get? hptr)

theorem prunes (h : Forgotten id s) (hp : Prunes now s s') : Forgotten id s' :=
  hp.induction (fun h hf => hf.prune h) h

/-- Nothing but opening a session under its id brings a session back to mind. -/
theorem step {m : Moment} {move : Move} (h : Forgotten id m.store)
    (hid : move.sessionId? ≠ some id) : Forgotten id (m.step move).store := by
  refine Moment.step_induction (fun hp hf => hf.prune hp) ?_ ?_ h
  · intro session ttls hopen _
    have hne : session.id ≠ id := fun heq => hid (heq ▸ hopen)
    constructor
    case record => rw [sessions_opened, Table.get?_set, if_neg (Ne.symm hne), h.record]
    case pointer =>
      intro jti p hp
      rw [pointers_opened, Table.get?_set_eq_some_iff] at hp
      rcases hp with ⟨-, rfl⟩ | ⟨-, hp⟩
      · exact hne
      · exact h.pointer hp
  · intro r i session _ hptr _
    have hne : i ≠ id := by
      obtain ⟨p, hp, -, rfl⟩ := pointer?_eq_some_iff.1 hptr
      exact h.pointer hp
    constructor
    case record => rw [sessions_carriedOn, Table.get?_set, if_neg (Ne.symm hne), h.record]
    case pointer =>
      intro jti p hp
      rw [pointers_carriedOn, Table.get?_set_eq_some_iff, Table.get?_erase_eq_some_iff] at hp
      rcases hp with ⟨-, rfl⟩ | ⟨-, -, hp⟩
      · exact hne
      · exact h.pointer hp

theorem run {m : Moment} {moves : List Move} (h : Forgotten id m.store)
    (hid : id ∉ sessionIds moves) : Forgotten id (m.run moves).store := by
  induction moves generalizing m with
  | nil => exact h
  | cons move moves ih =>
    refine ih (h.step fun hopen => hid ?_) fun hmem => hid ?_
    · exact List.mem_filterMap.2 ⟨move, List.mem_cons_self .., hopen⟩
    · exact (sessionIds_append [move] moves).symm ▸ List.mem_append_right _ hmem

/-- A deletion takes away the pointer that the record names, and that was the only one. -/
theorem deleteOne (hpaired : Paired s) {e : Expiring Session}
    (he : s.sessions.get? id = some e) : Forgotten id (s.deleteOne now id).2 := by
  have hsessions : (s.deleteOne now id).2.sessions = s.sessions.erase id := by
    simp [SessionStore.deleteOne, he, removeFromIndex]
  have hpointers : (s.deleteOne now id).2.pointers = s.pointers.erase e.value.currentJti := by
    simp [SessionStore.deleteOne, he, removeFromIndex]
  constructor
  case record => rw [hsessions, Table.get?_erase, if_pos rfl]
  case pointer =>
    intro jti p hp hlead
    rw [hpointers, Table.get?_erase_eq_some_iff] at hp
    exact hp.1 ((hpaired.leads_iff hp.2 he).1 hlead).symm

/-- A deletion forgets all sessions in its list that have a record. -/
theorem delete {ids : List String} (hpaired : Paired s) {e : Expiring Session}
    (he : s.sessions.get? id = some e) (hid : id ∈ ids) : Forgotten id (s.delete now ids).2 := by
  induction ids generalizing s with
  | nil => cases hid
  | cons id' ids ih =>
    show Forgotten id ((s.deleteOne now id').2.delete now ids).2
    by_cases hhead : id = id'
    · subst hhead
      exact (deleteOne hpaired he).prunes (prunes_delete now _ ids)
    · refine ih ?_ ?_ ((List.mem_cons.1 hid).resolve_left hhead)
      · exact (prunes_deleteOne now s id').induction (fun h hi => hi.prune h) hpaired
      · rw [SessionStore.deleteOne]
        split
        · exact he
        · simp [removeFromIndex, Table.get?_erase, hhead, he]

end Forgotten

/-- No token of a session that was deleted while it had a record leads anywhere. -/
theorem hasJti_of_deleted {moves : List Move} (hids : (sessionIds moves).Nodup)
    (hjtis : (tokenIds moves).Nodup) {earlier : List Move} {ids : List String}
    (hdeleted : earlier ++ [.ask (.call (.delete ids))] <+: moves) {id jti : String}
    (hid : id ∈ ids) (hlive : (after earlier).IsLive id) (hcurrent : WasCurrent moves id jti) :
    (after moves).store.hasJti (after moves).now jti = false := by
  obtain ⟨later, rfl⟩ := hdeleted
  obtain ⟨session, hs⟩ := hlive
  obtain ⟨e, he, -, -⟩ := session?_eq_some_iff.1 hs
  have hearlier : Paired (after earlier).store := by
    refine paired_after ?_ ?_
    · exact nodup_of_append (nodup_of_append (by simpa only [sessionIds_append] using hids))
    · exact nodup_of_append (nodup_of_append (by simpa only [tokenIds_append] using hjtis))
  have hforgotten : Forgotten id (after (earlier ++ [.ask (.call (.delete ids))])).store := by
    rw [after_concat]
    exact Forgotten.delete hearlier he hid
  have hend : Forgotten id (after (earlier ++ [.ask (.call (.delete ids))] ++ later)).store := by
    rw [after_append]
    refine hforgotten.run fun hreused => ?_
    rw [sessionIds_append, List.nodup_append] at hids
    refine hids.2.2 id ?_ id hreused rfl
    rw [sessionIds_append]
    exact List.mem_append_left _ ((mentions_after earlier).session he).1
  refine hasJti_eq_false_iff.2 (Option.eq_none_iff_forall_ne_some.2 fun i hi => ?_)
  obtain ⟨p, hp, -, -⟩ := pointer?_eq_some_iff.1 hi
  exact hend.pointer hp (pointer_of_lineage hids hjtis hcurrent hp)

/-! ## Revocation -/

/-- A session that is gone is inactive for every user. -/
theorem isActive_of_gone {m : Moment} {id : String} (h : ¬ m.IsLive id) {d : Deployment}
    (hstore : d.sessions = m.store) (hclock : d.clock.elapsed = m.now)
    (hreachable : d.sessionsReachable) (user : UserId) :
    (d.run (Sessions.isActive user id)).1 = .ok false := by
  have hget : Deployment.answer (.sessions (.call (.get id))) d =
      (.ok none, { d with sessions := m.store.purgeSession m.now id }) := by
    rw [Moment.not_isLive_iff] at h
    simp [Deployment.answer, hreachable, SessionStore.answer, succeed, get, hstore, hclock, h]
  simp [Deployment.run, Sessions.isActive, Sessions.get, Fallible.runOn_bind, hget]

/-- **Revocation is final.**  In a run that uses no id twice, a session that was live and then was
not is never live again: it is inactive for every user, and no token that was ever its current one
is exchanged.  If it was live when it was deleted, none of these tokens leads anywhere. -/
theorem revocation_final {past middle future : List Move} {id : String}
    (hids : (sessionIds (past ++ middle ++ future)).Nodup)
    (hjtis : (tokenIds (past ++ middle ++ future)).Nodup)
    (hlive : (after past).IsLive id) (hgone : ¬ (after (past ++ middle)).IsLive id) :
    let moves := past ++ middle ++ future
    let m := after moves
    ¬ m.IsLive id ∧
    (∀ d : Deployment, d.sessions = m.store → d.clock.elapsed = m.now → d.sessionsReachable →
      ∀ user, (d.run (Sessions.isActive user id)).1 = .ok false) ∧
    (∀ r : Rotation, WasCurrent moves id r.oldJti → ∃ e, (m.store.rotate m.now r).1 = .error e) ∧
    ((∃ earlier ids, earlier ++ [.ask (.call (.delete ids))] <+: moves ∧ id ∈ ids ∧
        (after earlier).IsLive id) →
      ∀ jti, WasCurrent moves id jti → m.store.hasJti m.now jti = false) := by
  have hend : ¬ (after (past ++ middle ++ future)).IsLive id := by
    rw [after_append]
    refine Moment.gone_run hgone fun hreused => ?_
    obtain ⟨session, hs⟩ := hlive
    obtain ⟨e, he, -, -⟩ := session?_eq_some_iff.1 hs
    rw [sessionIds_append, List.nodup_append] at hids
    refine hids.2.2 id ?_ id hreused rfl
    rw [sessionIds_append]
    exact List.mem_append_left _ ((mentions_after past).session he).1
  refine ⟨hend, fun d hstore hclock hreach => isActive_of_gone hend hstore hclock hreach, ?_, ?_⟩
  · intro r hcurrent
    cases hr : ((after (past ++ middle ++ future)).store.rotate
        (after (past ++ middle ++ future)).now r).1 with
    | error e => exact ⟨e, rfl⟩
    | ok i =>
      -- the token could lead to no other session than the one that is gone
      obtain ⟨-, hptr, hs⟩ := (rotate_eq_ok_iff _ _).1 hr
      obtain ⟨p, hp, -, rfl⟩ := pointer?_eq_some_iff.1 hptr
      rw [pointer_of_lineage hids hjtis hcurrent hp] at hs
      exact absurd (Moment.not_isLive_iff.1 hend) hs
  · rintro ⟨earlier, ids, hdeleted, hid, hthen⟩ jti hcurrent
    exact hasJti_of_deleted hids hjtis hdeleted hid hthen hcurrent

/-- A login. -/
def opening (user : UserId) : List Move :=
  [.ask (.call (.create ⟨"s", user, "", "", "a", ⟨0, false⟩, ⟨0, false⟩, ⟨0, false⟩⟩ ⟨60, 60⟩))]

/-- A revocation that lists the session of a user, is overtaken by a refresh, and then deletes. -/
def overtaken (user : UserId) : List Move :=
  [.ask (.call (.listByUser user)),
    .ask (.call (.rotate ⟨"a", "b", "", "", ⟨0, false⟩, ⟨0, false⟩, ⟨60, 60⟩⟩)),
    .ask (.call (.delete ["s"]))]

/-- The token that the refresh gave out leads nowhere once the revocation is done. -/
theorem revocation_final_overtaken : (after (opening .nil)).IsLive "s" ∧
    (after (opening .nil ++ (overtaken .nil).take 2)).store.hasJti 0 "b" = true ∧
    ¬ (after (opening .nil ++ overtaken .nil ++ [.pass 1])).IsLive "s" ∧
    (after (opening .nil ++ overtaken .nil ++ [.pass 1])).store.hasJti 1 "b" = false := by
  have hlive : (after (opening .nil)).IsLive "s" := ⟨_, rfl⟩
  have hgone : ¬ (after (opening .nil ++ overtaken .nil)).IsLive "s" :=
    Moment.not_isLive_iff.2 (by decide)
  have hids : (sessionIds (opening .nil ++ overtaken .nil ++ [.pass 1])).Nodup := by decide
  have hjtis : (tokenIds (opening .nil ++ overtaken .nil ++ [.pass 1])).Nodup := by decide
  obtain ⟨hend, -, -, hspent⟩ := revocation_final hids hjtis hlive hgone
  refine ⟨hlive, by decide, hend, hspent ?_ "b" ?_⟩
  · exact ⟨opening .nil ++ (overtaken .nil).take 2, ["s"], ⟨_, rfl⟩, by decide, _, rfl⟩
  · exact ⟨opening .nil ++ (overtaken .nil).take 2, ⟨_, rfl⟩, _, rfl, rfl⟩

end SessionStore
end SessionAuth
