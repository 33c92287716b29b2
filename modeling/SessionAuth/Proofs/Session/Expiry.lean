import SessionAuth.Proofs.Session.Deletion
import SessionAuth.Proofs.Session.Lifetimes
import SessionAuth.Proofs.UseCase.Validity

/-!
# When sessions and refresh tokens end

A record tells by the wall clock when it ends, and a refresh token does so in whole seconds, while
the store keeps deadlines by another clock that knows nothing of dates.  The two are set against
each other once, when a session is opened or carried on.  `Clock.wallAt` reads a deadline on the
wall clock, for as long as both clocks advance together.

Read in this way the deadline of a record is what the record says.  That of a pointer is not: the
lifetime of the token is counted in whole seconds from a fraction of one, so that the deadline comes
before the end of the token, but less than a second before (`Timestamp.secondsUntil_bounds`).
`Stamped` is what follows from it for all that can happen to the store afterwards, and nothing else
is ever written (`StampsOrFails`).

Opening a session and carrying one on take place at one instant here, at which the wall clock is read
and the deadlines are written.  If some time passes between the two, all that is written ends as much
later than it says (`Clock.wallAt_deadline_pass`).
-/

set_option autoImplicit false

namespace SessionAuth

/-! ## Two clocks -/

namespace Clock

/-- What the wall clock shows, in nanoseconds, at an instant of the other clock. -/
def wallAt (c : Clock) (instant : Nat) : Int := c.wall.nanos + ((instant : Int) - c.elapsed)

/-- The clock a number of nanoseconds later; `Clock.advance` is this for milliseconds. -/
def pass (c : Clock) (nanos : Nat) : Clock := ⟨c.wall.addNanos nanos, c.elapsed + nanos⟩

@[simp] theorem wallAt_elapsed (c : Clock) : c.wallAt c.elapsed = c.wall.nanos := by
  rw [wallAt, Int.sub_self, Int.add_zero]

/-- Both clocks advance together. -/
@[simp] theorem wallAt_pass (c : Clock) (nanos instant : Nat) :
    (c.pass nanos).wallAt instant = c.wallAt instant := by
  simp only [wallAt, pass, Timestamp.addNanos]
  omega

theorem wallAt_lt_iff (c : Clock) {i j : Nat} : c.wallAt i < c.wallAt j ↔ i < j := by
  simp only [wallAt]
  omega

/-- What is written now and lives for a number of seconds ends after as many on the wall clock. -/
theorem wallAt_deadline (c : Clock) {ttl : Int} (h : 0 ≤ ttl) :
    c.wallAt (SessionStore.deadline c.elapsed ttl) = c.wall.nanos + ttl * nanosPerSecond := by
  rw [wallAt, SessionStore.deadline, Int.natCast_add, Int.natCast_mul, Int.toNat_of_nonneg h]
  omega

/-- What is written some time after the wall clock was read ends later than it says, by that
time. -/
theorem wallAt_deadline_pass (c : Clock) (delay : Nat) {ttl : Int} (h : 0 ≤ ttl) :
    c.wallAt (SessionStore.deadline (c.pass delay).elapsed ttl) =
      c.wall.nanos + ttl * nanosPerSecond + delay := by
  rw [← wallAt_pass c delay, wallAt_deadline _ h]
  exact Int.add_right_comm ..

end Clock

/-! ## Records and pointers that are left alone -/

namespace SessionStore

/-- Whether a move writes or deletes the record of a session. -/
def Moment.Rewrites (id : String) (m : Moment) : Move → Prop
  | .ask (.call (.create session ttls)) => ttls.isValid ∧ session.id = id
  | .ask (.call (.rotate r)) => (m.store.rotate m.now r).1 = .ok id
  | .ask (.call (.delete ids)) => id ∈ ids
  | _ => False

/-- Whether a move uses a refresh token: it writes its pointer, exchanges the token, or deletes a
session whose current token it is. -/
def Moment.Uses (jti : String) (m : Moment) : Move → Prop
  | .ask (.call (.create session ttls)) => ttls.isValid ∧ session.currentJti = jti
  | .ask (.call (.rotate r)) => r.ttls.isValid ∧ (r.oldJti = jti ∨ r.newJti = jti)
  | .ask (.call (.delete ids)) =>
    ∃ id ∈ ids, ∃ e, m.store.sessions.get? id = some e ∧ e.value.currentJti = jti
  | _ => False

/-- Whether a run makes no move of some kind. -/
def Moment.Avoids (P : Moment → Move → Prop) : Moment → List Move → Prop
  | _, [] => True
  | m, move :: moves => ¬ P m move ∧ Avoids P (m.step move) moves

theorem get?_sessions_delete (s : SessionStore) (now : Nat) {ids : List String} {id : String}
    (hid : id ∉ ids) : (s.delete now ids).2.sessions.get? id = s.sessions.get? id := by
  induction ids generalizing s with
  | nil => rfl
  | cons first ids ih =>
    have hne : id ≠ first := fun heq => hid (List.mem_cons.2 (.inl heq))
    have hrest : id ∉ ids := fun hmem => hid (List.mem_cons_of_mem first hmem)
    refine (ih (s.deleteOne now first).2 hrest).trans ?_
    rw [get?_sessions_deleteOne, if_neg hne]

/-- A deletion takes away no pointers but those of the records in its list. -/
theorem get?_pointers_delete (s : SessionStore) (now : Nat) {ids : List String} {jti : String}
    (hjti : ∀ id ∈ ids, ∀ e, s.sessions.get? id = some e → e.value.currentJti ≠ jti) :
    (s.delete now ids).2.pointers.get? jti = s.pointers.get? jti := by
  induction ids generalizing s with
  | nil => rfl
  | cons first ids ih =>
    obtain ⟨hfirst, hids⟩ := List.forall_mem_cons.1 hjti
    refine (ih (s.deleteOne now first).2 fun id hid e he => ?_).trans ?_
    · exact hids id hid e ((prunes_deleteOne now s first).sessions_get? he)
    · rw [deleteOne]
      split
      · rfl
      · rename_i e he
        simp [removeFromIndex, Table.get?_erase, (hfirst e he).symm]

namespace Moment

variable {m : Moment} {move : Move} {moves : List Move} {id jti : String}

/-- The record of a session stays, or is purged when it has expired. -/
theorem get?_sessions_step (h : ¬ m.Rewrites id move) :
    (m.step move).store.sessions.get? id = m.store.sessions.get? id ∨
      (m.step move).store.sessions.get? id = none ∧ m.store.session? m.now id = none := by
  have hfaded : ∀ {t : SessionStore}, SessionStore.Faded m.now m.store t →
      t.sessions.get? id = m.store.sessions.get? id ∨
        t.sessions.get? id = none ∧ m.store.session? m.now id = none :=
    fun h => (h.sessions id).imp_right (And.imp_right Expiring.kept_eq_none_iff.1)
  have hsame := SessionStore.Faded.refl m.now m.store
  cases move with
  | indexSize user => exact hfaded (hsame.purgeIndex_right user)
  | pass => exact .inl rfl
  | ask q =>
    cases q with
    | indexedUsers => exact .inl rfl
    | call c =>
      cases c with
      | create session ttls =>
        rw [step, answer_create]
        split
        · rename_i hvalid
          refine .inl ?_
          rw [sessions_opened, Table.get?_set, if_neg fun heq => h ⟨hvalid, heq.symm⟩]
        · exact .inl rfl
      | rotate r =>
        show (m.store.rotate m.now r).2.sessions.get? id = _ ∨ _
        by_cases hvalid : r.ttls.isValid
        · rcases leads_or_spent m.now m.store r.oldJti with ⟨i, session, hled, hlive⟩ | hspent
          · have hlives := rotate_of_live m.now m.store hvalid hled hlive
            refine .inl ?_
            rw [hlives, sessions_carriedOn, Table.get?_set, if_neg fun heq => h ?_]
            rw [heq]
            exact congrArg Prod.fst hlives
          · -- the pointer that is taken away is no record
            have hrefused := (SessionStore.Faded.rotate_of_spent hvalid hspent).sessions id
            exact hrefused.imp_right (And.imp_right Expiring.kept_eq_none_iff.1)
        · rw [Bool.not_eq_true] at hvalid
          rw [rotate, hvalid]
          exact .inl rfl
      | hasJti => exact .inl rfl
      | get i => exact hfaded (hsame.purgeSession_right i)
      | listByUser user => exact hfaded ((hsame.purgeIndex_right user).purgeSessions_right _)
      | delete ids => exact .inl (get?_sessions_delete m.store m.now h)
      | sweepUser user =>
        show (m.store.sweepUser m.now user).2.sessions.get? id = _ ∨
          (m.store.sweepUser m.now user).2.sessions.get? id = none ∧ _
        rw [(Swept.sweepUser m.now m.store user).sessions]
        split
        · rename_i hgone
          obtain ⟨user', -, hid⟩ := hgone
          exact .inr ⟨rfl, (mem_gone.1 hid).2⟩
        · exact .inl rfl

/-- The pointer of a token stays until the token is used. -/
theorem get?_pointers_step (h : ¬ m.Uses jti move) :
    (m.step move).store.pointers.get? jti = m.store.pointers.get? jti := by
  cases move with
  | indexSize user => exact congrArg (·.get? jti) (pointers_purgeIndex m.now m.store user)
  | pass => rfl
  | ask q =>
    cases q with
    | indexedUsers => rfl
    | call c =>
      cases c with
      | create session ttls =>
        rw [step, answer_create]
        split
        · rename_i hvalid
          rw [pointers_opened, Table.get?_set, if_neg fun heq => h ⟨hvalid, heq.symm⟩]
        · rfl
      | rotate r =>
        show (m.store.rotate m.now r).2.pointers.get? jti = _
        by_cases hvalid : r.ttls.isValid
        · have hold : jti ≠ r.oldJti := fun heq => h ⟨hvalid, .inl heq.symm⟩
          have hnew : jti ≠ r.newJti := fun heq => h ⟨hvalid, .inr heq.symm⟩
          rcases leads_or_spent m.now m.store r.oldJti with ⟨i, session, hled, hlive⟩ | hspent
          · rw [rotate_of_live m.now m.store hvalid hled hlive, pointers_carriedOn,
              Table.get?_set, if_neg hnew, Table.get?_erase, if_neg hold]
          · rw [(rotate_of_spent m.now m.store hvalid hspent).2.2, Table.get?_erase, if_neg hold]
        · rw [Bool.not_eq_true] at hvalid
          rw [rotate, hvalid]
          rfl
      | hasJti => rfl
      | get i => exact congrArg (·.get? jti) (pointers_purgeSession m.now m.store i)
      | listByUser user =>
        refine congrArg (·.get? jti) ((pointers_purgeSessions m.now _ _).trans ?_)
        exact pointers_purgeIndex m.now m.store user
      | delete ids =>
        refine get?_pointers_delete m.store m.now fun i hi e he heq => h ?_
        exact ⟨i, hi, e, he, heq⟩
      | sweepUser user =>
        exact congrArg (·.get? jti) (Swept.sweepUser m.now m.store user).pointers

/-- A record that is left alone is live until its deadline. -/
theorem session?_run {e : Expiring Session} (hrecord : m.store.sessions.get? id = some e ∨
      m.store.sessions.get? id = none ∧ e.deadline ≤ m.now)
    (h : m.Avoids (Rewrites id) moves) :
    (m.run moves).store.session? (m.run moves).now id =
      if (m.run moves).now < e.deadline then some e.value else none := by
  induction moves generalizing m with
  | nil =>
    show m.store.session? m.now id = if m.now < e.deadline then some e.value else none
    rcases hrecord with he | ⟨hnone, hdead⟩
    · rw [session?, he]
      by_cases hlive : m.now < e.deadline <;>
        simp [Expiring.live?, Option.filter, Expiring.isLive, hlive]
    · rw [session?, hnone, if_neg (Nat.not_lt.2 hdead)]
      rfl
  | cons move moves ih =>
    refine ih ?_ h.2
    rcases get?_sessions_step h.1 with hsame | ⟨hnone, hexpired⟩
    · rw [hsame]
      exact hrecord.imp_right (And.imp_right fun hdead => hdead.trans (now_le_step m move))
    · refine .inr ⟨hnone, Nat.le_trans ?_ (now_le_step m move)⟩
      rcases hrecord with he | ⟨-, hdead⟩
      · exact session?_eq_none_iff.1 hexpired e he
      · exact hdead

/-- The pointer of a token that is not used stays. -/
theorem get?_pointers_run (h : m.Avoids (Uses jti) moves) :
    (m.run moves).store.pointers.get? jti = m.store.pointers.get? jti := by
  induction moves generalizing m with
  | nil => rfl
  | cons move moves ih => exact (ih h.2).trans (get?_pointers_step h.1)

end Moment

/-! ## What was written with a time -/

/-- A session and its refresh token end when they say, by a clock that showed the time when they
were written: whatever happens afterwards, the record is live just until the session expires, unless
it is written again or deleted.  The token is not in use once it has expired, and unless it is used
before, it is in use until less than a second before it expires. -/
structure Stamped (c : Clock) (m : Moment) (id : String) (session : Session)
    (jtiExpiresAt : Timestamp) : Prop where
  record : ∀ more, m.Avoids (Moment.Rewrites id) more →
    ((m.run more).store.get (m.run more).now id).1 =
      if c.wallAt (m.run more).now < session.expiresAt.nanos then some session else none
  ended : ∀ more, session.currentJti ∉ tokenIds more →
    jtiExpiresAt.nanos ≤ c.wallAt (m.run more).now →
      (m.run more).store.hasJti (m.run more).now session.currentJti = false
  lasts : ∀ more, m.Avoids (Moment.Uses session.currentJti) more →
    c.wallAt (m.run more).now + nanosPerSecond ≤ jtiExpiresAt.nanos →
      (m.run more).store.hasJti (m.run more).now session.currentJti = true

/-- What is written with lifetimes from now on ends when it says. -/
theorem stamped_of_written {c : Clock} {m : Moment} {id : String} {session : Session} {ttl : Nat}
    {jtiExpiresAt expires : Timestamp} {ttls : Ttls}
    (hlifetimes : Sessions.lifetimes ttl c.wall jtiExpiresAt = .ok (ttls, expires))
    (hexpires : session.expiresAt = expires)
    (hrecord : m.store.sessions.get? id = some ⟨session, deadline c.elapsed ttls.session⟩)
    (hpointer : m.store.pointers.get? session.currentJti =
      some ⟨id, deadline c.elapsed ttls.jti⟩) : Stamped c m id session jtiExpiresAt := by
  obtain ⟨-, rfl, hvalid, rfl⟩ := Sessions.lifetimes_eq_ok_iff.1 hlifetimes
  have hjti : 0 < c.wall.secondsUntil jtiExpiresAt := by
    simp only [Ttls.isValid, Bool.and_eq_true, decide_eq_true_eq] at hvalid
    exact hvalid.2
  obtain ⟨hbefore, hafter⟩ := Timestamp.secondsUntil_bounds hjti
  rw [← c.wallAt_deadline (Int.le_of_lt hjti)] at hbefore hafter
  constructor
  case record =>
    intro more hmore
    refine (Moment.session?_run (.inl hrecord) hmore).trans (if_congr ?_ rfl rfl)
    rw [hexpires, ← c.wallAt_lt_iff, c.wallAt_deadline (Int.natCast_nonneg ttl)]
    rfl
  case ended =>
    intro more hnew hover
    refine hasJti_eq_false_iff.2 (Option.eq_none_iff_forall_ne_some.2 fun id' hid' => ?_)
    obtain ⟨p, hp, hlive, -⟩ := pointer?_eq_some_iff.1 hid'
    have hwritten := (pointer_before_run m more hp).resolve_right hnew
    rw [hpointer, Option.some.injEq] at hwritten
    rw [← hwritten] at hlive
    have hlive := c.wallAt_lt_iff.2 hlive
    exact absurd (Int.lt_of_lt_of_le hlive hbefore) (Int.not_lt.2 hover)
  case lasts =>
    intro more hmore hearly
    have hkept := (Moment.get?_pointers_run hmore).trans hpointer
    refine Option.isSome_iff_exists.2 ⟨id, pointer?_eq_some_iff.2 ⟨_, hkept, ?_, rfl⟩⟩
    exact c.wallAt_lt_iff.1 (lt_of_add_lt_add_right (Int.lt_of_le_of_lt hearly hafter))

end SessionStore

/-! ## Opening sessions and carrying them on -/

namespace Sessions

open Environment Fallible Deployment
open SessionStore (Prunes Stamped deadline opened carriedOn)

variable {f : Supply} {d : Deployment} {ttl : Nat}

/-- All that opening a session can do: it fails and writes nothing, or writes a record and its
pointer, with lifetimes from now on. -/
theorem openSession_cases (f : Supply) (d : Deployment) (ttl : Nat) (o : Opening) :
    (∃ e count, d.idCount ≤ count ∧
      (openSession ttl o).runOn (serve f) d = (.error e, { d with idCount := count })) ∨
    ∃ ttls expires, lifetimes ttl d.clock.wall o.jtiExpiresAt = .ok (ttls, expires) ∧
      (openSession ttl o).runOn (serve f) d = (.ok (f.ids d.idCount), { d with
        idCount := d.idCount + 1
        sessions := opened d.clock.elapsed d.sessions ⟨f.ids d.idCount, o.userId, o.device, o.ip,
          o.jti, d.clock.wall, d.clock.wall, expires⟩ ttls }) := by
  rw [Auth.runOn_openSession_eq]
  split
  · exact .inl ⟨_, d.idCount, Nat.le_refl _, rfl⟩
  cases lifetimes ttl d.clock.wall o.jtiExpiresAt with
  | error e => exact .inl ⟨e, d.idCount, Nat.le_refl _, rfl⟩
  | ok t =>
    dsimp only
    split
    · exact .inr ⟨t.1, t.2, rfl, rfl⟩
    · exact .inl ⟨_, d.idCount + 1, Nat.le_succ _, rfl⟩

/-- All that carrying a session on can do: it fails and takes away a pointer at most, or writes a
record and its pointer, with lifetimes from now on. -/
theorem renew_cases (f : Supply) (d : Deployment) (ttl : Nat) (r : Renewal) :
    (∃ e s', Prunes d.clock.elapsed d.sessions s' ∧
      (renew ttl r).runOn (serve f) d = (.error e, { d with sessions := s' })) ∨
    ∃ ttls expires id session, lifetimes ttl d.clock.wall r.jtiExpiresAt = .ok (ttls, expires) ∧
      d.sessions.pointer? d.clock.elapsed r.oldJti = some id ∧
      (renew ttl r).runOn (serve f) d = (.ok id, { d with
        sessions := carriedOn d.clock.elapsed d.sessions (Auth.rotation d r expires ttls) id
          session }) := by
  rw [Auth.runOn_renew_eq]
  split
  · exact .inl ⟨_, d.sessions, .refl, rfl⟩
  cases hlifetimes : lifetimes ttl d.clock.wall r.jtiExpiresAt with
  | error e => exact .inl ⟨e, d.sessions, .refl, rfl⟩
  | ok t =>
    obtain ⟨ttls, expires⟩ := t
    have hvalid : (Auth.rotation d r expires ttls).ttls.isValid := Auth.lifetimes_isValid hlifetimes
    dsimp only
    split
    · rcases SessionStore.leads_or_spent d.clock.elapsed d.sessions r.oldJti with
        ⟨id, session, hled, hlive⟩ | hspent
      · rw [SessionStore.rotate_of_live _ _ hvalid hled hlive]
        exact .inr ⟨ttls, expires, id, session, rfl, hled, rfl⟩
      · obtain ⟨hrefused, hprunes, -⟩ :=
          SessionStore.rotate_of_spent d.clock.elapsed d.sessions hvalid hspent
        rw [hrefused]
        exact .inl ⟨_, _, hprunes, rfl⟩
    · exact .inl ⟨_, d.sessions, .refl, rfl⟩

/-- How a request ends that is to write a session and its refresh token: both end when they say, or
there is an error and no pointer that was not there before.

No time passes during the request: the wall clock that dates the session is the one by which its
deadlines are written. -/
def StampsOrFails (d : Deployment) (ttl : Nat) (jti : String) (jtiExpiresAt : Timestamp) :
    Except Error String × Deployment → Prop
  | (.ok id, d') => ∃ session, session.currentJti = jti ∧
      session.expiresAt = d.clock.wall.addSeconds ttl ∧
      Stamped d.clock (moment d') id session jtiExpiresAt
  | (.error _, d') => ∀ {other p}, d'.sessions.pointers.get? other = some p →
      d.sessions.pointers.get? other = some p

theorem openSession_stampsOrFails (f : Supply) (d : Deployment) (ttl : Nat) (o : Opening) :
    StampsOrFails d ttl o.jti o.jtiExpiresAt ((openSession ttl o).runOn (serve f) d) := by
  rcases openSession_cases f d ttl o with ⟨e, count, -, hrun⟩ | ⟨ttls, expires, hlifetimes, hrun⟩
  · rw [hrun]
    exact fun hp => hp
  · rw [hrun]
    obtain ⟨-, -, -, hexpires⟩ := lifetimes_eq_ok_iff.1 hlifetimes
    let session : Session := ⟨f.ids d.idCount, o.userId, o.device, o.ip, o.jti, d.clock.wall,
      d.clock.wall, expires⟩
    refine ⟨session, rfl, hexpires, SessionStore.stamped_of_written hlifetimes rfl ?_ ?_⟩
    · exact Table.get?_set_eq_some_iff.2 (.inl ⟨rfl, rfl⟩)
    · exact Table.get?_set_eq_some_iff.2 (.inl ⟨rfl, rfl⟩)

theorem renew_stampsOrFails (f : Supply) (d : Deployment) (ttl : Nat) (r : Renewal) :
    StampsOrFails d ttl r.newJti r.jtiExpiresAt ((renew ttl r).runOn (serve f) d) := by
  rcases renew_cases f d ttl r with
    ⟨e, s', hprunes, hrun⟩ | ⟨ttls, expires, id, session, hlifetimes, -, hrun⟩
  · rw [hrun]
    exact fun hp => hprunes.pointers_get? hp
  · rw [hrun]
    obtain ⟨-, -, -, hexpires⟩ := lifetimes_eq_ok_iff.1 hlifetimes
    refine ⟨session.rotated (Auth.rotation d r expires ttls), rfl, hexpires,
      SessionStore.stamped_of_written hlifetimes rfl ?_ ?_⟩
    · exact Table.get?_set_eq_some_iff.2 (.inl ⟨rfl, rfl⟩)
    · exact Table.get?_set_eq_some_iff.2 (.inl ⟨rfl, rfl⟩)

end Sessions
end SessionAuth
