import SessionAuth.Proofs.Authorization.Subject
import SessionAuth.Proofs.Service.Process

/-!
# What the cache may say of users

The facts of a user are answered from the cache where it has them.  That they are those of the
repository is an invariant: `Settled` allows an entry for a user only if it is written from the
account that the repository holds, whether the entry is live or not.  An account that is changed is
the one exception, until its entry is cleared.

Questions that touch neither accounts nor the entries of users keep a process settled
(`Settled.serve`), so that of most programs no more has to be known than what they ask.
`triple_userFacts` and `triple_checkStatus` are what callers see: the answer is that of the
repository.
-/

set_option autoImplicit false

namespace SessionAuth

namespace Deployment

open Environment

/-! ## Settled processes -/

/-- What is kept in a process between two use cases.  Everything is in reach, sessions are carried
on by tokens that have an id, and the cache agrees with the repository, but for one user at most. -/
structure Settled (pending : Option UserId) (d : Deployment) : Prop extends d.InReach where
  facts : ∀ {user : UserId} {e : Expiring String}, pending ≠ some user →
    d.cache.entries.get? (Keys.userFacts user.toText) = some e →
      ∃ f, d.users.facts? user = some f ∧ e.value = f.toJson.compress
  jti : ∀ {id : String} {e : Expiring Session}, d.sessions.sessions.get? id = some e →
    e.value.currentJti.isEmpty = false

/-- A question that opens and carries on no session without an id, changes no facts and writes
none. -/
def IsClean : Question → Prop
  | .sessions (.call (.create session _)) => session.currentJti.isEmpty = false
  | .sessions (.call (.rotate r)) => r.newJti.isEmpty = false
  | .users c => ∀ t : UserTable, t.target? c = none
  | .cache (.set key _ _) => ∀ user : UserId, key ≠ Keys.userFacts user.toText
  | _ => True

variable {f : Supply} {d : Deployment} {pending : Option UserId}

/-- Whatever the session store is asked, sessions keep an id of their token. -/
theorem Settled.serve_sessions (h : d.Settled pending) (q : SessionStore.Question)
    (hq : IsClean (.sessions q)) : (serve f (.sessions q) d).2.Settled pending := by
  refine ⟨h.toInReach.serve _, fun hne he => ?_, fun {id e} he => ?_⟩
  · rw [h.toInReach.serve_sessions] at he ⊢
    exact h.facts hne he
  · rw [h.toInReach.serve_sessions] at he
    generalize hs : (SessionStore.answer d.clock.elapsed q d.sessions).2 = s' at he
    have heffect := SessionStore.effect_answer d.clock.elapsed d.sessions q
    rw [hs] at heffect
    cases heffect with
    | pruned hprunes => exact h.jti (SessionStore.Prunes.sessions_get? hprunes he)
    | opened =>
      rw [SessionStore.sessions_opened, Table.get?_set_eq_some_iff] at he
      rcases he with ⟨-, rfl⟩ | ⟨-, he⟩
      · exact hq
      · exact h.jti he
    | carriedOn =>
      rw [SessionStore.sessions_carriedOn, Table.get?_set_eq_some_iff] at he
      rcases he with ⟨-, rfl⟩ | ⟨-, he⟩
      · exact hq
      · exact h.jti he

/-- After a change of an account only that account can differ from the cache. -/
theorem Settled.serve_users (h : d.Settled none) (c : UserRepository.Call) :
    (serve f (.users c) d).2.Settled (d.users.target? c) := by
  refine ⟨h.toInReach.serve _, fun hne he => ?_, fun he => ?_⟩
  · rw [h.toInReach.serve_users] at he ⊢
    obtain ⟨facts, hfacts, htext⟩ := h.facts nofun he
    exact ⟨facts, (UserTable.facts?_answer c hne).trans hfacts, htext⟩
  · rw [h.toInReach.serve_users] at he
    exact h.jti he

/-- A call to the cache keeps a process settled, if it writes facts that the repository holds. -/
theorem Settled.serve_cache (h : d.Settled pending) (c : Cache.Call)
    (hset : ∀ key text nanos (user : UserId), c = .set key text nanos → pending ≠ some user →
      key = Keys.userFacts user.toText →
        ∃ facts, d.users.facts? user = some facts ∧ text = facts.toJson.compress) :
    (serve f (.cache c) d).2.Settled pending := by
  refine ⟨h.toInReach.serve _, fun {user e} hne he => ?_, fun he => h.jti he⟩
  show ∃ facts, d.users.facts? user = some facts ∧ e.value = facts.toJson.compress
  by_cases hc : c = .isHealthy
  · subst hc
    refine h.facts hne ?_
    rw [← he]
    simp only [serve, answer, CacheCondition.impair]
    cases d.cacheCondition <;> rfl
  rw [h.toInReach.serve_cache hc] at he
  cases c with
  | get | has | isHealthy => exact h.facts hne he
  | delete key => exact h.facts hne (Table.get?_erase_eq_some_iff.1 he).2
  | set key text nanos =>
    rcases Table.get?_set_eq_some_iff.1 he with ⟨hkey, rfl⟩ | ⟨-, he⟩
    · exact hset key text nanos user rfl hne hkey.symm
    · exact h.facts hne he

/-- A clean question keeps a process settled. -/
theorem Settled.serve (h : d.Settled none) (q : Question) (hq : IsClean q) :
    (Deployment.serve f q d).2.Settled none := by
  cases q with
  | sessions q => exact h.serve_sessions q hq
  | users c => exact hq d.users ▸ h.serve_users c
  | cache c =>
    refine h.serve_cache c ?_
    rintro key text nanos user rfl - rfl
    exact absurd rfl (hq user)
  | _ => exact ⟨h.toInReach.serve _, h.facts, h.jti⟩

/-- The time, the tasks and the id of the next user play no part. -/
theorem Settled.set (h : d.Settled pending) (clock : Clock) (tasks : List (Invalidator × Event))
    (next : UserId) : Settled pending
      { d with clock := clock, tasks := tasks, users := { d.users with nextId := next } } :=
  ⟨⟨h.sessions, h.users, h.cache⟩, h.facts, h.jti⟩

/-- A process from whose cache an entry is lost is still settled. -/
theorem Settled.evict (h : d.Settled pending) (key : String) :
    Settled pending { d with cache := ⟨d.cache.entries.erase key⟩ } :=
  ⟨⟨h.sessions, h.users, h.cache⟩,
    fun hne he => h.facts hne (Table.get?_erase_eq_some_iff.1 he).2, h.jti⟩

/-- A process is settled once the entry is gone that may differ. -/
theorem Settled.of_absent {user : UserId} (h : d.Settled (some user))
    (habsent : d.cache.entries.get? (Keys.userFacts user.toText) = none) : d.Settled none := by
  refine ⟨h.toInReach, fun {u e} _ he => ?_, h.jti⟩
  refine h.facts ?_ he
  rintro ⟨⟩
  cases habsent.symm.trans he

/-- A change of an account that is not there keeps a process settled, since the cache says nothing
of it. -/
theorem Settled.serve_users_of_absent (h : d.Settled none) {c : UserRepository.Call} {user : UserId}
    (hc : d.users.target? c = some user) (habsent : d.users.facts? user = none) :
    (Deployment.serve f (.users c) d).2.Settled none := by
  refine Settled.of_absent (hc ▸ h.serve_users c) ?_
  rw [h.toInReach.serve_users]
  refine Option.eq_none_iff_forall_ne_some.2 fun e he => ?_
  obtain ⟨facts, hfacts, -⟩ := h.facts nofun he
  cases habsent.symm.trans hfacts

/-- A settled process in which the next user gets an id that nobody has. -/
structure Ready (d : Deployment) : Prop extends d.Settled none where
  fresh : d.users.facts? d.users.nextId = none

/-- A clean question keeps a process ready. -/
theorem Ready.serve (h : d.Ready) (q : Question) (hq : IsClean q) :
    (Deployment.serve f q d).2.Ready := by
  refine ⟨h.toSettled.serve q hq, ?_⟩
  cases q with
  | users c =>
    rw [h.toInReach.serve_users]
    dsimp only
    rw [UserTable.nextId_answer c (hq _), UserTable.facts?_answer c (by rw [hq]; exact nofun)]
    exact h.fresh
  | sessions q =>
    rw [h.toInReach.serve_sessions]
    exact h.fresh
  | _ => exact h.fresh

/-- A settled process whose repository has given accounts, and a given id for the next user. -/
structure SettledWith (accounts : Table UserId User) (next : UserId) (d : Deployment) : Prop
    extends d.Settled none where
  accounts : d.users.users = accounts
  next : d.users.nextId = next

theorem SettledWith.ready {accounts : Table UserId User} {next : UserId}
    (h : d.SettledWith accounts next) (hfresh : accounts.get? next = none) : d.Ready := by
  obtain ⟨hsettled, rfl, rfl⟩ := h
  exact ⟨hsettled, UserTable.facts?_eq_none_iff.2 hfresh⟩

end Deployment

/-! ## Reading and clearing facts -/

namespace Authorization

open Environment Fallible Deployment

variable {f : Supply} {d : Deployment} (ttls : CacheTtls) (user : UserId)

/-- The cache answers with the facts that the repository holds, or with none. -/
theorem runOn_cached?_facts (h : d.Settled none) :
    ∃ found, runOn (serve f) (cached? Json.Decode.facts (Keys.userFacts user.toText)) d =
      (.ok found, d) ∧ ∀ facts, found = some facts → d.users.facts? user = some facts := by
  have hget : serve f (.cache (.get (Keys.userFacts user.toText))) d =
      (.ok (d.cache.get? d.clock.elapsed (Keys.userFacts user.toText)), d) := by
    rw [h.toInReach.serve_cache (c := .get _) nofun]
    rfl
  rw [cached?, runOn_bind, runOn_attempt, runOn_getJson, hget]
  cases hfound : d.cache.get? d.clock.elapsed (Keys.userFacts user.toText) with
  | none => exact ⟨none, rfl, nofun⟩
  | some text =>
    obtain ⟨e, he, -, rfl⟩ := Expiring.live?_eq_some_iff.1 hfound
    obtain ⟨facts, hfacts, htext⟩ := h.facts nofun he
    refine ⟨some facts, ?_, ?_⟩
    · simp only [htext, Facts.fromText_compress]
      rfl
    · rintro _ ⟨⟩
      exact hfacts

/-- **The cache is not seen.**  The facts of a user are those that the repository holds now. -/
theorem triple_userFacts (accounts : Table UserId User) (next : UserId) :
    Triple (serve f) (SettledWith accounts next) (userFacts ttls user) fun r d =>
      d.SettledWith accounts next ∧ r = match accounts.get? user with
        | some u => .ok u.facts
        | none => .error (.userWithIdMissing user) := by
  refine ⟨fun d ⟨h, haccounts, hnext⟩ => ?_⟩
  subst haccounts hnext
  obtain ⟨found, hcached, hfound⟩ := runOn_cached?_facts (f := f) user h
  simp only [userFacts]
  rw [runOn_bind_of_ok _ _ hcached]
  cases found with
  | some facts =>
    obtain ⟨u, hu, rfl⟩ := UserTable.facts?_eq_some_iff.1 (hfound facts rfl)
    rw [hu]
    exact ⟨⟨h, rfl, rfl⟩, rfl⟩
  | none =>
    have hsettled : (serve f (.users (.findById user)) d).2.Settled none := h.serve _ fun _ => rfl
    have hfind : serve f (.users (.findById user)) d = (.ok (d.users.users.get? user),
        { d with users := { d.users with lookups := d.users.lookups + 1 } }) :=
      h.toInReach.serve_users _
    rw [runOn_bind, runOn_users]
    rw [hfind] at hsettled ⊢
    cases hu : d.users.users.get? user with
    | none => exact ⟨⟨hsettled, rfl, rfl⟩, rfl⟩
    | some u =>
      -- the entry that is written is that of the account that was just read
      refine ⟨⟨?_, rfl, rfl⟩, rfl⟩
      refine hsettled.serve_cache (f := f) _ ?_
      rintro _ _ _ v ⟨⟩ - hkey
      obtain rfl := Keys.userFacts_injective hkey
      exact ⟨u.facts, UserTable.facts?_eq_some_iff.2 ⟨u, hu, rfl⟩, rfl⟩

/-- What checking the status of a user comes to, by the account. -/
def statusVerdict : Option User → Except Error Facts
  | none => .error .accountGone
  | some u => match u.status with
    | .active => .ok u.facts
    | .inactive => .error .notActivated
    | .suspended => .error .suspended

theorem statusVerdict_eq_ok_iff {u : Option User} {facts : Facts} :
    statusVerdict u = .ok facts ↔ ∃ user, u = some user ∧ user.status = .active ∧
      user.facts = facts := by
  cases u with
  | none => simp [statusVerdict]
  | some u => cases hstatus : u.status <;> simp [statusVerdict, hstatus]

/-- The status that is checked is the one that the repository holds now. -/
theorem triple_checkStatus (accounts : Table UserId User) (next : UserId) :
    Triple (serve f) (SettledWith accounts next) (checkStatus ttls user) fun r d =>
      d.SettledWith accounts next ∧ r = statusVerdict (accounts.get? user) := by
  refine ⟨fun d hd => ?_⟩
  obtain ⟨hsettled, hr⟩ := (triple_userFacts (f := f) ttls user accounts next).run d hd
  rw [checkStatus, runOn_bind, runOn_attempt]
  generalize runOn (serve f) (userFacts ttls user) d = answered at hsettled hr
  obtain ⟨r, d'⟩ := answered
  dsimp only at hsettled hr ⊢
  cases hu : accounts.get? user with
  | none =>
    rw [hu] at hr
    subst hr
    exact ⟨hsettled, rfl⟩
  | some u =>
    rw [hu] at hr
    subst hr
    have hstatus : u.facts.status = u.status := rfl
    simp only [hstatus, statusVerdict]
    cases u.status <;> exact ⟨hsettled, rfl⟩

end Authorization
end SessionAuth
