import SessionAuth.Proofs.Credentials.SideBySide
import SessionAuth.Proofs.Service.Authority

/-!
# No effect without authority

Operations that change what belongs to others than their caller ask for a permission first.  All
others stay with their caller: whatever ids of sessions they are given, they end sessions of the
caller only, and the handlers of the events that they publish do no more than to clear the cache
(`Confined`).  The main result says this of every operation and every caller, be the caller known to
the repository or not.

Operations without a caller have bounds of their own.  Registering adds one account, which cannot be
used yet; a login adds one session, and a refresh touches the session to which its token leads
(`TouchesOnly`).
-/

set_option autoImplicit false

namespace SessionAuth

open Environment Fallible Deployment Text
open Auth (IsQuiet)
open SessionStore (Faded Spares SameBut Listable Paired)

/-! ## What operations need -/

namespace Operation

variable {α : Type}

/-- The caller for whom an operation is done. -/
def caller? : Operation α → Option Caller
  | login _ | refresh _ | authenticate _ | register _ _ => none
  | logout c | profile c | changePassword c _ _ => some c
  | listSessions c | revokeSessions c _ _ => some c
  | getUser c _ | createUser c _ | listUsers c _ _ => some c
  | changeRole c _ _ | changeStatus c _ _ | deleteUser c _ => some c
  | listPermissions c _ | grant c _ _ | revoke c _ _ => some c

/-- The permission for an operation that changes what belongs to others. -/
def permission? : Operation α → Option Permission
  | createUser _ _ => some .userWrite
  | changeRole _ _ _ => some .userChangeRole
  | changeStatus _ _ _ => some .userChangeStatus
  | deleteUser _ _ => some .userDelete
  | grant _ _ _ | revoke _ _ _ => some .roleManage
  | _ => none

end Operation

/-! ## What is left alone -/

namespace Deployment

/-- Two states of a process between which nothing has changed that belongs to others than one user:
no permission of a role, no account with its role and status, and no session of another user. -/
structure Undisturbed (own : UserId) (d d' : Deployment) : Prop where
  grants : ∀ role, d'.grants.ofRole role = d.grants.ofRole role
  facts : ∀ user, d'.users.facts? user = d.users.facts? user
  get : ∀ id session, session.userId ≠ own →
    ((d'.sessions.get d'.clock.elapsed id).1 = some session ↔
      (d.sessions.get d.clock.elapsed id).1 = some session)
  listByUser : ∀ user, user ≠ own → (d'.sessions.listByUser d'.clock.elapsed user).1 =
    (d.sessions.listByUser d.clock.elapsed user).1
  hasJti : ∀ jti, d'.sessions.hasJti d'.clock.elapsed jti ≠
    d.sessions.hasJti d.clock.elapsed jti → ∃ id,
      d.sessions.pointer? d.clock.elapsed jti = some id ∧ d.sessions.Owns d.clock.elapsed own id

/-- Two states between which no more happened than what one user may do without authority, and the
events that were published lead to no more, whenever they are handled. -/
structure Confined (f : Supply) (own : UserId) (d d' : Deployment) : Prop where
  undisturbed : Undisturbed own d d'
  handlers : ∃ published, d'.tasks = d.tasks ++ published ∧ ∀ task ∈ published, ∀ e : Deployment,
    Undisturbed own e (runOn (serve f) (task.1.handle task.2) e).2

/-- Two states between which no more happened than what concerns one session. -/
structure TouchesOnly (id : String) (d d' : Deployment) : Prop extends SameAside d d' where
  get : ∀ other, other ≠ id → (d'.sessions.get d'.clock.elapsed other).1 =
    (d.sessions.get d.clock.elapsed other).1
  listByUser : ∀ user,
    (d'.sessions.listByUser d'.clock.elapsed user).1.filter (·.id ≠ id) =
      (d.sessions.listByUser d.clock.elapsed user).1.filter (·.id ≠ id)
  hasJti : ∀ jti, d'.sessions.hasJti d'.clock.elapsed jti ≠
    d.sessions.hasJti d.clock.elapsed jti →
      d.sessions.pointer? d.clock.elapsed jti = some id ∨
        d'.sessions.pointer? d'.clock.elapsed jti = some id

/-- A process with one account more, which cannot be used yet. -/
structure Registers (user : User) (d d' : Deployment) : Prop where
  role : user.role = .client
  status : user.status = .inactive
  absent : d.users.users.get? user.id = none
  users : d'.users.users = d.users.users.set user.id user
  grants : d'.grants = d.grants
  sessions : d'.sessions = d.sessions
  clock : d'.clock = d.clock
  tasks : d'.tasks = d.tasks

/-- A process with one live session more, of the account whose password was given. -/
structure AddsSession (input : Auth.Login) (user : User) (session : Session)
    (d d' : Deployment) : Prop where
  account : d.users.users.get? user.id = some user
  found : d.users.findByEmail? (trim input.email) = some user
  verified : Password.verify input.password user.passwordHash = .ok true
  owner : session.userId = user.id
  absent : (d.sessions.get d.clock.elapsed session.id).1 = none
  added : (d'.sessions.get d'.clock.elapsed session.id).1 = some session
  only : TouchesOnly session.id d d'

/-- A process in which the session was altered to which a refresh token leads, and stays with its
owner. -/
structure AltersSession (s : Setup) (input : Auth.Refresh) (claims : Claims) (id : String)
    (d d' : Deployment) : Prop where
  verified : s.codec.verify input.refreshToken = .ok claims
  leads : d.sessions.pointer? d.clock.elapsed claims.jti = some id
  only : TouchesOnly id d d'
  owner : ∀ session', (d'.sessions.get d'.clock.elapsed id).1 = some session' →
    ∃ session, (d.sessions.get d.clock.elapsed id).1 = some session ∧
      session.userId = session'.userId

section Left

variable {f : Supply} {own : UserId} {d d' : Deployment}

theorem Unchanged.undisturbed (h : Unchanged d d') : Undisturbed own d d' where
  grants := h.grants
  facts user := congrArg (fun users => (users.get? user).map User.facts) h.users
  get id session _ := by rw [h.get_eq]
  listByUser user _ := h.listByUser_eq user
  hasJti jti hne := absurd (h.hasJti_eq jti) hne

/-- Nothing was published. -/
theorem Unchanged.confined (h : Unchanged d d') : Confined f own d d' :=
  ⟨h.undisturbed, [], h.tasks.trans (List.append_nil _).symm, nofun⟩

theorem TouchesOnly.of_sameBut {id : String} (haside : SameAside d d')
    (h : SameBut d.clock.elapsed (· = id) d.sessions d'.sessions)
    (hs : Listable d.clock.elapsed d.sessions) (ht : Listable d'.clock.elapsed d'.sessions) :
    TouchesOnly id d d' := by
  refine { haside with get := fun other hne => ?_, listByUser := fun user => ?_, hasJti := ?_ }
  · rw [haside.clock]
    exact h.session?_eq hne
  · rw [haside.clock] at ht ⊢
    exact h.listByUser_eq hs ht user
  · intro jti hne
    rw [haside.clock] at hne ⊢
    by_contra hnone
    obtain ⟨hbefore, hafter⟩ := not_or.1 hnone
    refine hne (h.hasJti_eq ?_ ?_)
    · rintro _ hid rfl
      exact hbefore hid
    · rintro _ hid rfl
      exact hafter hid

end Left
end Deployment

/-! ## Operations on one's own account -/

/-- A question of an operation on one's own account.  It changes no facts and no permissions, and
publishes no deletion; what it does to sessions is left open. -/
def IsMild : Question → Prop
  | .sessions _ => True
  | .users (.setPassword _ _) => True
  | .publish e => e.kind ≠ .userDeleted
  | q => Looks q

/-- A process with the same facts and permissions, in which no handler of a deletion waits that did
not wait before. -/
structure SameFacts (d₀ d : Deployment) : Prop where
  facts : ∀ user, d.users.facts? user = d₀.users.facts? user
  grants : ∀ role, d.grants.ofRole role = d₀.grants.ofRole role
  tasks : ∃ published, d.tasks = d₀.tasks ++ published ∧
    ∀ task ∈ published, task.2.kind ≠ .userDeleted

section Own

variable {s : Setup} {f : Supply} {d₀ d : Deployment} {own : UserId} {α : Type}

theorem Deployment.Looks.isMild {q : Question} (h : Looks q) : IsMild q := by
  cases q with
  | sessions => trivial
  | users c => cases c <;> trivial
  | publish => exact h.elim
  | _ => exact h

theorem SameFacts.serve (h : SameFacts d₀ d) {q : Question} (hq : IsMild q) :
    SameFacts d₀ (Deployment.serve f q d).2 := by
  obtain ⟨hfacts, hgrants, hwaiting⟩ := h
  cases q with
  | sessions q =>
    simp only [Deployment.serve, answer]
    split <;> exact ⟨hfacts, hgrants, hwaiting⟩
  | users c =>
    have htarget : d.users.target? c = none := by
      cases c <;> first | rfl | exact hq.elim
    simp only [Deployment.serve, answer]
    split
    · refine ⟨fun user => ?_, hgrants, hwaiting⟩
      exact (UserTable.facts?_answer c (by simp [htarget])).trans (hfacts user)
    · exact ⟨hfacts, hgrants, hwaiting⟩
  | grants c =>
    refine ⟨hfacts, fun role => ?_, hwaiting⟩
    cases c <;> first | exact hgrants role | exact hq.elim
  | publish e =>
    obtain ⟨published, htasks, hkinds⟩ := hwaiting
    refine ⟨hfacts, hgrants, published ++ (Invalidator.registry.handlers e.kind).map (·, e), ?_, ?_⟩
    · exact (congrArg (· ++ _) htasks).trans (List.append_assoc ..)
    · intro task htask
      rcases List.mem_append.1 htask with hbefore | hnew
      · exact hkinds task hbefore
      · obtain ⟨i, -, rfl⟩ := List.mem_map.1 hnew
        exact hq
  | _ => exact ⟨hfacts, hgrants, hwaiting⟩

/-- Handlers of all events but deletions clear the cache at most. -/
theorem Invalidator.looks_handle (i : Invalidator) {e : Event} (he : e.kind ≠ .userDeleted) :
    Asks Looks (i.handle e) := by
  cases i <;> cases e
  case userFacts.userChanged user => exact Authorization.asks_clearUser trivial
  case userFacts.userDeleted | sessions.userDeleted => exact absurd rfl he
  case rolePermissions.roleChanged name =>
    rw [handle]
    split
    · exact Authorization.asks_clearRole trivial
    · exact asks_throw _
  all_goals exact asks_pure _

/-- What an operation on one's own account does is confined, if it spares the sessions of others. -/
theorem SameFacts.confined (h : SameFacts d₀ d) (hclock : d.clock = d₀.clock)
    (hsessions : Spares d₀.clock.elapsed own d₀.sessions d.sessions)
    (hs : Listable d₀.clock.elapsed d₀.sessions) (ht : Listable d.clock.elapsed d.sessions) :
    Confined f own d₀ d := by
  rw [hclock] at ht
  obtain ⟨published, htasks, hkinds⟩ := h.tasks
  refine ⟨⟨h.grants, h.facts, fun id session hother => ?_, fun user hother => ?_,
    fun jti hne => ?_⟩, published, htasks, fun task htask e => ?_⟩
  · rw [hclock]
    exact hsessions.session?_iff hother
  · rw [hclock]
    exact hsessions.listByUser_eq hs ht hother
  · rw [hclock] at hne
    exact hsessions.owns_of_hasJti_ne hne
  · refine Unchanged.undisturbed ((preserves_unchanged ?_).run e (.refl e))
    exact task.1.looks_handle (hkinds task htask)

/-! ### The sessions of the caller -/

/-- A process whose sessions nothing was done to. -/
structure AtRest (d₀ d : Deployment) : Prop where
  sessions : d.sessions = d₀.sessions
  clock : d.clock = d₀.clock
  inReach : d.InReach

/-- A process in which at most sessions of one user have ended. -/
structure SparesOthers (own : UserId) (d₀ d : Deployment) : Prop where
  sessions : Spares d₀.clock.elapsed own d₀.sessions d.sessions
  clock : d.clock = d₀.clock
  inReach : d.InReach

theorem AtRest.sparesOthers (h : AtRest d₀ d) : SparesOthers own d₀ d :=
  ⟨h.sessions ▸ .of_faded (.refl _ _), h.clock, h.inReach⟩

theorem preserves_atRest {p : UseCase α} (hp : Asks IsQuiet p) :
    Preserves (serve f) (AtRest d₀) p :=
  Preserves.of_asks hp fun q _ hq h => ⟨(Auth.sessions_serve_of_isQuiet hq).trans h.sessions,
    (clock_serve q _).trans h.clock, h.inReach.serve q⟩

theorem preserves_sparesOthers {p : UseCase α} (hp : Asks IsQuiet p) :
    Preserves (serve f) (SparesOthers own d₀) p :=
  Preserves.of_asks hp fun q _ hq h => ⟨(Auth.sessions_serve_of_isQuiet hq).symm ▸ h.sessions,
    (clock_serve q _).trans h.clock, h.inReach.serve q⟩

section Sparing

variable (hpaired : Paired d₀.sessions) (hlistable : Listable d₀.clock.elapsed d₀.sessions)

include hlistable in
/-- The sessions that are found are the user's own. -/
theorem Sessions.triple_ofUser : Triple (serve f) (AtRest d₀) (ofUser own) fun r d =>
    SparesOthers own d₀ d ∧ ∀ found, r = .ok found → ∀ session ∈ found,
      d₀.sessions.Owns d₀.clock.elapsed own session.id := by
  refine ⟨fun d h => ?_⟩
  have hreach := h.inReach.serve (f := f) (.sessions (.call (.listByUser own)))
  rw [ofUser, runOn_sessions]
  rw [h.inReach.serve_sessions, h.clock, h.sessions] at hreach ⊢
  refine ⟨⟨.of_faded ?_, rfl, hreach⟩, ?_⟩
  · exact ((Faded.refl _ _).purgeIndex_right own).purgeSessions_right _
  · rintro _ ⟨⟩ session hsession
    exact Spares.owns_of_mem_listByUser hlistable hsession

include hpaired in
theorem Sessions.triple_deleteIds {ids : List String}
    (hids : ∀ id ∈ ids, d₀.sessions.Owns d₀.clock.elapsed own id) :
    Preserves (serve f) (SparesOthers own d₀) (deleteIds ids) := by
  rw [deleteIds]
  split
  · exact Preserves.pure _
  refine ⟨fun d h => ?_⟩
  have hreach := h.inReach.serve (f := f) (.sessions (.call (.delete ids)))
  rw [runOn_sessions]
  rw [h.inReach.serve_sessions] at hreach ⊢
  refine ⟨?_, h.clock, hreach⟩
  rw [h.clock]
  exact h.sessions.delete hpaired hids

/-- A deletion chooses among the sessions of its user. -/
theorem Sessions.Deletion.mem_of_mem_ids {x : Deletion} {owned : List String} {id : String}
    (h : id ∈ x.ids owned) : id ∈ owned := by
  rw [ids] at h
  split at h
  · exact (List.mem_filter.1 h).1
  · simpa using (List.mem_filter.1 h).2

include hpaired hlistable

theorem Sessions.triple_delete (x : Deletion) :
    Triple (serve f) (AtRest d₀) (delete x) fun _ => SparesOthers x.userId d₀ := by
  refine Triple.bind (triple_ofUser hlistable) (fun found => ⟨fun d h => ?_⟩) fun _ _ h => h.1
  refine (triple_deleteIds hpaired fun id hid => ?_).run d h.1
  obtain ⟨session, hsession, rfl⟩ := List.mem_map.1 (Deletion.mem_of_mem_ids hid)
  exact h.2 found rfl session hsession

theorem Sessions.triple_deleteAll (user : UserId) :
    Triple (serve f) (AtRest d₀) (deleteAll user) fun _ => SparesOthers user d₀ := by
  refine Triple.bind (triple_ofUser hlistable) (fun found => ⟨fun d h => ?_⟩) fun _ _ h => h.1
  refine (Preserves.bind (triple_deleteIds hpaired fun id hid => ?_) fun removed =>
    Preserves.bind ⟨fun d h => ?_⟩ fun _ => Preserves.pure _).run d h.1
  · obtain ⟨session, hsession, rfl⟩ := List.mem_map.1 hid
    exact h.2 found rfl session hsession
  · have hreach := h.inReach.serve (f := f) (.sessions (.call (.sweepUser user)))
    rw [runOn_sessions]
    rw [h.inReach.serve_sessions] at hreach ⊢
    refine ⟨?_, h.clock, hreach⟩
    rw [h.clock]
    exact h.sessions.sweepUser user

theorem Auth.spares_logout (c : Caller) :
    Triple (serve f) (AtRest d₀) (logout c) fun _ => SparesOthers c.userId d₀ :=
  Triple.bind (Sessions.triple_delete hpaired hlistable _) (fun _ => Preserves.pure _)
    fun _ _ h => h

theorem OwnSessions.spares_revoke (c : Caller) (ids : List String) (others : Bool) :
    Triple (serve f) (AtRest d₀) (revoke s c ids others) fun _ => SparesOthers c.userId d₀ := by
  rw [revoke]
  split
  · exact Triple.throw_bind fun _ h => h.sparesOthers
  refine Preserves.triple_bind (preserves_atRest ?_) (fun _ => ?_) fun _ _ h => h.sparesOthers
  · exact Authorization.asks_authorize (Authorization.asks_userFacts trivial trivial
      fun _ _ => trivial) fun _ => Authorization.asks_rolePermissions trivial trivial
        fun _ _ => trivial
  · exact Sessions.triple_delete hpaired hlistable _

/-- The sessions that end with a change of the password are those of the account that was found. -/
theorem Account.spares_changePassword (c : Caller) (current new : String) :
    Triple (serve f) (fun d => AtRest d₀ d ∧ d.users.Keyed) (changePassword s c current new)
      fun _ => SparesOthers c.userId d₀ := by
  refine Preserves.triple_bind (Preserves.lift _) (fun _ => ?_) fun _ _ h => h.1.sparesOthers
  refine Triple.bind (R := fun r d => AtRest d₀ d ∧ ∀ u, r = .ok (some u) → u.id = c.userId)
    ⟨fun d ⟨h, hkeyed⟩ => ⟨(preserves_atRest (asks_usersCall trivial)).run d h, ?_⟩⟩ (fun u => ?_)
    fun _ _ h => h.1.sparesOthers
  · rw [runOn_users, h.inReach.serve_users]
    exact fun u hu => hkeyed (Except.ok.inj hu)
  cases u with
  | none => exact Triple.throw fun _ h => h.1.sparesOthers
  | some u =>
    refine ⟨fun d ⟨h, hid⟩ => ?_⟩
    rw [← hid u rfl]
    refine Triple.run (P := AtRest d₀) (Q := fun _ => SparesOthers u.id d₀) ?_ d h
    refine Preserves.triple_bind (Preserves.lift _) (fun matched => ?_) fun _ _ h => h.sparesOthers
    dsimp only
    split
    · exact Triple.throw_bind fun _ h => h.sparesOthers
    refine Preserves.triple_bind (Preserves.lift _) (fun _ => ?_) fun _ _ h => h.sparesOthers
    refine Preserves.triple_bind (preserves_atRest (asks_newSalt trivial)) (fun salt => ?_)
      fun _ _ h => h.sparesOthers
    refine Preserves.triple_bind (preserves_atRest (asks_usersCall trivial)) (fun changed => ?_)
      fun _ _ h => h.sparesOthers
    split
    · exact Triple.throw_bind fun _ h => h.sparesOthers
    refine Triple.bind (Sessions.triple_deleteAll hpaired hlistable u.id) (fun ended => ?_)
      fun _ _ h => h
    refine preserves_sparesOthers ?_
    exact Asks.bind (Authorization.asks_clearUser trivial) fun _ =>
      Asks.bind (asks_publish trivial) fun _ => asks_pure _

end Sparing

/-! ### What else it does -/

theorem Auth.asksMild_logout (c : Caller) : Asks IsMild (logout c) :=
  Asks.bind (Sessions.asks_delete trivial fun _ => trivial) fun _ => asks_pure _

theorem OwnSessions.asksMild_revoke (c : Caller) (ids : List String) (others : Bool) :
    Asks IsMild (revoke s c ids others) := by
  rw [revoke]
  split
  · exact asks_throw_bind _ _
  refine Asks.bind ((Authorization.looks_authorize _ _ _).mono fun _ => Looks.isMild) fun _ => ?_
  exact Sessions.asks_delete trivial fun _ => trivial

theorem Account.asksMild_changePassword (c : Caller) (current new : String) :
    Asks IsMild (changePassword s c current new) := by
  refine Asks.bind (asks_lift _) fun _ => Asks.bind (asks_usersCall trivial) fun u => ?_
  cases u with
  | none => exact asks_throw _
  | some u =>
    refine Asks.bind (asks_lift _) fun matched => ?_
    dsimp only
    split
    · exact asks_throw_bind _ _
    refine Asks.bind (asks_lift _) fun _ => Asks.bind (asks_newSalt trivial) fun salt => ?_
    refine Asks.bind (asks_usersCall trivial) fun changed => ?_
    split
    · exact asks_throw_bind _ _
    refine Asks.bind (Sessions.asks_deleteAll trivial (fun _ => trivial) trivial) fun ended => ?_
    refine Asks.bind (Authorization.asks_clearUser trivial) fun _ => ?_
    exact Asks.bind (asks_publish nofun) fun _ => asks_pure _

/-- An operation that spares the sessions of others and asks mild questions is confined. -/
theorem confined_of_spares {p : UseCase α} (hasks : Asks IsMild p)
    (hspares : SparesOthers own d₀ (runOn (serve f) p d₀).2)
    (hs : Listable d₀.clock.elapsed d₀.sessions)
    (ht : Listable (runOn (serve f) p d₀).2.clock.elapsed (runOn (serve f) p d₀).2.sessions) :
    Confined f own d₀ (runOn (serve f) p d₀).2 := by
  refine SameFacts.confined ((Preserves.of_asks hasks fun _ _ hq h => h.serve hq).run d₀ ?_)
    hspares.clock hspares.sessions hs ht
  exact ⟨fun _ => rfl, fun _ => rfl, [], (List.append_nil _).symm, nofun⟩

end Own

/-! ## Operations without a caller -/

section Bounds

variable {s : Setup} {f : Supply} {d d' : Deployment}

/-- Creating an account adds it or changes nothing. -/
theorem Account.create_cases (hreach : d.InReach) (a : NewAccount) :
    Unchanged d (runOn (serve f) (create s a) d).2 ∨ ∃ user : User, user.id = d.users.nextId ∧
      user.role = a.role ∧ user.status = a.status ∧ (runOn (serve f) (create s a) d).2 =
        { d with
          saltCount := d.saltCount + 1
          users := { d.users.insert user with nextId := d.users.nextId.succ } } := by
  simp only [create]
  split
  · exact .inl (.refl d)
  rw [runOn_bind, runOn_lift]
  cases Password.checkNew s.passwordMinLength a.password [trim a.email] with
  | error e => exact .inl (.refl d)
  | ok =>
    have hsalted : Unchanged d (serve f .newSalt d).2 := (Unchanged.refl d).serve trivial
    dsimp only
    rw [runOn_bind_of_ok _ _ (runOn_newSalt _ _), runOn_users,
      (hsalted.inReach hreach).serve_users]
    simp only [UserTable.answer, UserTable.create]
    split
    · exact .inl hsalted
    · exact .inr ⟨_, rfl, rfl, rfl, rfl⟩

theorem Account.register_cases (hreach : d.InReach)
    (hnext : d.users.users.get? d.users.nextId = none) (email password : String) :
    Unchanged d (runOn (serve f) (register s email password) d).2 ∨
      ∃ user, Registers user d (runOn (serve f) (register s email password) d).2 := by
  rcases create_cases (s := s) (f := f) hreach ⟨email, password, .client, .inactive⟩ with
    hsame | ⟨user, hid, hrole, hstatus, hafter⟩
  · exact .inl hsame
  · refine .inr ⟨user, ?_⟩
    rw [register, hafter]
    exact ⟨hrole, hstatus, hid ▸ hnext, rfl, rfl, rfl, rfl, rfl⟩

variable (hs : Listable d.clock.elapsed d.sessions) (ht : Listable d'.clock.elapsed d'.sessions)
  (hsession : d.sessions.sessions.get? (f.ids (d.idCount + 1)) = none)
  (htoken : d.sessions.pointers.get? (f.ids d.idCount) = none)

include hs ht htoken

include hsession in
/-- What a login can do is to add a session of the user whose password it was given. -/
theorem Auth.LoginCase.adds (hkeyed : d.users.Keyed) {input : Login} {r : Except Error Tokens}
    (h : LoginCase s f d input r d') :
    Unchanged d d' ∨ ∃ user session, AddsSession input user session d d' := by
  cases h with
  | refused =>
    refine .inl ⟨⟨rfl, fun _ => rfl, rfl, rfl, fun hreach => ?_⟩, .refl _ _⟩
    exact ⟨hreach.sessions, hreach.users, hreach.cache⟩
  | @letIn user ttls expires hin =>
    have hlive := (SessionStore.lt_deadlines d.clock.elapsed (lifetimes_isValid hin.lifetimes)).1
    refine .inr ⟨user, sessionOf f d input user expires, hkeyed.get?_of_find hin.found, hin.found,
      hin.verified, rfl, ?_, ?_, .of_sameBut ?_ (.opened ttls htoken) hs ht⟩
    · refine SessionStore.session?_eq_none_iff.2 fun e he => ?_
      cases hsession.symm.trans he
    · exact SessionStore.session?_eq_some_iff.2
        ⟨_, Table.get?_set_eq_some_iff.2 (.inl ⟨rfl, rfl⟩), hlive, rfl⟩
    · exact ⟨rfl, fun _ => rfl, rfl, rfl,
        fun hreach => ⟨hreach.sessions, hreach.users, hreach.cache⟩⟩

/-- What a refresh can do concerns the session to which its token leads. -/
theorem Auth.RefreshCase.alters {input : Refresh} {r : Except Error Tokens}
    (h : RefreshCase s f d input r d') :
    Unchanged d d' ∨ ∃ claims id, AltersSession s input claims id d d' := by
  cases h with
  | refused hsame => exact .inl ⟨hsame.toSameAside, hsame.sessions ▸ .refl _ _⟩
  | @spent claims user r _ haccepts hold hnew hvalid hspent hsessions haside =>
    obtain ⟨id, hpointer⟩ := Option.isSome_iff_exists.1 haccepts.used
    have hgone := hspent id hpointer
    refine .inr ⟨claims, id, (Codec.parse_eq_ok_iff.1 haccepts.parsed).1, hpointer,
      .of_sameBut haside ?_ hs ht, fun session' hlive => ?_⟩
    · rw [hsessions]
      exact .rotate_of_spent hvalid (hold ▸ hpointer) hgone
    · -- a session that is gone stays so
      have hprunes := (SessionStore.rotate_of_spent d.clock.elapsed d.sessions hvalid
        (hold.symm ▸ hspent)).2.1
      rw [← hsessions] at hprunes
      rw [haside.clock] at hlive
      cases (hprunes.session?_eq_none hgone).symm.trans hlive
  | @carriedOn claims user id session ttls expires _ haccepts _ hpointer hlive hsessions haside =>
    refine .inr ⟨claims, id, (Codec.parse_eq_ok_iff.1 haccepts.parsed).1, hpointer,
      .of_sameBut haside ?_ hs ht, fun session' hlive' => ⟨session, hlive, ?_⟩⟩
    · rw [hsessions]
      exact .carriedOn session hpointer htoken
    · obtain ⟨e, he, -, rfl⟩ := SessionStore.session?_eq_some_iff.1 hlive'
      rw [hsessions, SessionStore.sessions_carriedOn, Table.get?_set_eq_some_iff] at he
      rcases he with ⟨-, rfl⟩ | ⟨hne, -⟩
      · rfl
      · exact absurd rfl hne

end Bounds

/-! ## Runs -/

namespace Service

variable {s : Setup} {f : Supply} {w w' : Service}

/-- Every account stays filed under its id. -/
theorem keyed_run {d : Deployment} (h : d.users.Keyed) {α : Type} (p : UseCase α) :
    (runOn (serve f) p d).2.users.Keyed := by
  have hkept : Preserves (serve f) (fun d => d.users.Keyed) p := by
    refine Preserves.of_all (fun q d h => ?_) p
    cases q with
    | users c =>
      simp only [serve, answer]
      split
      · exact h.answer c
      · exact h
    | sessions q =>
      simp only [serve, answer]
      split <;> exact h
    | _ => exact h
  exact hkept.run d h

theorem Steps.keyed (hsteps : Steps s f w w') (h : w.process.users.Keyed) :
    w'.process.users.Keyed := by
  induction hsteps with
  | refl => exact h
  | tail _ hstep ih =>
    cases hstep with
    | perform op =>
      rw [process_perform]
      refine keyed_run ?_ _
      exact ih
    | handle | sweep =>
      refine keyed_run ?_ _
      exact ih
    | evict | advance => exact ih

section Reachable

variable (hf : Function.Injective f.ids) (h : Reachable s f w)

include hf h

theorem listable : Listable w.process.clock.elapsed w.process.sessions := by
  obtain ⟨moves, hmoves⟩ := reachable_history h
  exact hmoves.listable hf

theorem paired : Paired w.process.sessions := by
  obtain ⟨moves, hmoves⟩ := reachable_history h
  exact hmoves.paired hf

/-- An id that is still to be given out is the id of no session and of no token. -/
theorem unheard {n : Nat} (hn : w.process.idCount ≤ n) :
    w.process.sessions.sessions.get? (f.ids n) = none ∧
      w.process.sessions.pointers.get? (f.ids n) = none := by
  obtain ⟨moves, hmoves⟩ := reachable_history h
  constructor
  · refine Option.eq_none_iff_forall_ne_some.2 fun e he => ?_
    exact hmoves.sessions.not_mem hf (.inr hn) (hmoves.mentions.session he).1
  · refine Option.eq_none_iff_forall_ne_some.2 fun p hp => ?_
    exact hmoves.tokens.not_mem hf (.inr hn) (hmoves.mentions.pointer hp).1

/-- An operation for a caller is confined to what is the caller's own, or the caller has authority
for it. -/
theorem confined_or_holds (hkeyed : w.process.users.Keyed) {next : UserId}
    (hnext : w.process.users.users.get? next = none) {α : Type} (op : Operation α) {c : Caller}
    (hcaller : op.caller? = some c) :
    Confined f c.userId (w.ready next) (runOn (serve f) (op.body s) (w.ready next)).2 ∨
      ∃ permission, op.permission? = some permission ∧
        (w.ready next).Holds c.userId permission := by
  have hlooks : Asks Looks (op.body s) → Confined f c.userId (w.ready next)
      (runOn (serve f) (op.body s) (w.ready next)).2 := fun hasks =>
    ((preserves_unchanged hasks).run _ (.refl _)).confined
  have hspares : Asks IsMild (op.body s) →
      Triple (serve f) (fun d => AtRest (w.ready next) d ∧ d.users.Keyed) (op.body s)
        (fun _ => SparesOthers c.userId (w.ready next)) → Confined f c.userId (w.ready next)
          (runOn (serve f) (op.body s) (w.ready next)).2 := fun hasks htriple =>
    confined_of_spares hasks (htriple.run _ ⟨⟨rfl, rfl, h.inReach_ready next⟩, hkeyed⟩)
      (listable hf h) (listable hf (h.step (.perform op hnext)))
  have hrequires : ∀ (permission : Permission) (k : Unit → UseCase α),
      op.permission? = some permission → op.body s = (UserAdmin.require s c permission >>= k) →
        Confined f c.userId (w.ready next) (runOn (serve f) (op.body s) (w.ready next)).2 ∨
          ∃ permission, op.permission? = some permission ∧
            (w.ready next).Holds c.userId permission := fun permission k hpermission hbody =>
    hbody ▸ (unchanged_or_holds h hnext c permission k).imp Unchanged.confined
      fun hholds => ⟨permission, hpermission, hholds⟩
  have hp : Paired (w.ready next).sessions := paired hf h
  have hl : Listable (w.ready next).clock.elapsed (w.ready next).sessions := listable hf h
  unfold Operation.body at hlooks hspares hrequires ⊢
  cases op with
  | login | refresh | authenticate | register => cases hcaller
  | profile c => exact .inl (hlooks (Auth.looks_profile _))
  | listSessions c => exact .inl (hlooks (OwnSessions.looks_list _))
  | getUser c => exact .inl (hlooks (UserAdmin.looks_get _ _))
  | listUsers c => exact .inl (hlooks (UserAdmin.looks_list _ _ _))
  | listPermissions c => exact .inl (hlooks (RoleAdmin.looks_list _ _))
  | logout c =>
    cases hcaller
    exact .inl (hspares (Auth.asksMild_logout _)
      ((Auth.spares_logout hp hl _).mono (fun _ h => h.1) fun _ _ h => h))
  | revokeSessions c =>
    cases hcaller
    exact .inl (hspares (OwnSessions.asksMild_revoke ..)
      ((OwnSessions.spares_revoke hp hl ..).mono (fun _ h => h.1) fun _ _ h => h))
  | changePassword c =>
    cases hcaller
    exact .inl (hspares (Account.asksMild_changePassword ..)
      (Account.spares_changePassword hp hl ..))
  | createUser c | changeRole c | changeStatus c | deleteUser c | grant c | revoke c =>
    cases hcaller
    exact hrequires _ _ rfl rfl

end Reachable

/-- **No effect without authority.**  Whatever has become of the service, and whatever operation it
is asked for: if a permission of a role, the role, the status or the existence of an account, or a
session of someone else than the caller is changed, by the operation or by the handlers of its
events, then at that moment the repositories have an active account of the caller with a role that
holds the permission for it.  Operations without a caller have bounds: registering adds one account,
which is not active; a login adds one session, of the account whose password was given; a refresh
alters the session to which its token leads; and authenticating changes nothing. -/
theorem changes_need_authority {w₀ : Service} (hf : Function.Injective f.ids)
    (hstart : IsStart s w₀) (hkeyed : w₀.process.users.Keyed) (hsteps : Steps s f w₀ w)
    {next : UserId} (hnext : w.process.users.users.get? next = none) :
    let d := w.ready next
    (∀ {α : Type} (op : Operation α) (c : Caller), op.caller? = some c →
      Confined f c.userId d (w.perform s f next op).process ∨
        ∃ permission, op.permission? = some permission ∧ d.Holds c.userId permission) ∧
    (∀ email password, let d' := (w.perform s f next (.register email password)).process
      Unchanged d d' ∨ ∃ user, Registers user d d') ∧
    (∀ input, let d' := (w.perform s f next (.login input)).process
      Unchanged d d' ∨ ∃ user session, AddsSession input user session d d') ∧
    (∀ input, let d' := (w.perform s f next (.refresh input)).process
      Unchanged d d' ∨ ∃ claims id, AltersSession s input claims id d d') ∧
    ∀ token, Unchanged d (w.perform s f next (.authenticate token)).process := by
  intro d
  have h := (Reachable.start hstart).steps hsteps
  have hkeyed' := hsteps.keyed hkeyed
  have hafter : ∀ {α : Type} (op : Operation α), Listable
      (w.perform s f next op).process.clock.elapsed (w.perform s f next op).process.sessions :=
    fun op => listable hf (h.step (.perform op hnext))
  have hbefore : Listable d.clock.elapsed d.sessions := listable hf h
  have hsession : d.sessions.sessions.get? (f.ids (d.idCount + 1)) = none :=
    (unheard hf h (Nat.le_succ _)).1
  have htoken : d.sessions.pointers.get? (f.ids d.idCount) = none :=
    (unheard hf h (Nat.le_refl _)).2
  refine ⟨fun op c hcaller => ?_, fun email password => ?_, fun input => ?_, fun input => ?_,
    fun token => ?_⟩
  · rw [process_perform]
    exact confined_or_holds hf h hkeyed' hnext op hcaller
  · rw [process_perform]
    exact Account.register_cases (h.inReach_ready next) hnext email password
  · exact (loginCase h next input).adds hbefore (hafter _) hsession htoken hkeyed'
  · exact (refreshCase h next input).alters hbefore (hafter _) htoken
  · rw [process_perform]
    exact (preserves_unchanged (Auth.looks_authenticate token)).run _ (.refl _)

open Auth.FirstLogin Sample in
/-- After a first login, someone else logs out with the id of the session, and the user, who holds
no permission, tries to grant one. -/
theorem changes_need_authority_firstLogin : ∃ w : Service,
    Steps setup supply ⟨Auth.FirstLogin.process, []⟩ w ∧
    (∃ session, session.userId = user.id ∧
      ((w.perform setup supply ⟨2⟩ (.logout ⟨⟨7⟩, "xx", "", .admin⟩)).process.sessions.get
        (w.perform setup supply ⟨2⟩ (.logout ⟨⟨7⟩, "xx", "", .admin⟩)).process.clock.elapsed
          "xx").1 = some session) ∧
    ∀ role, (w.perform setup supply ⟨2⟩
      (.grant ⟨user.id, "xx", "", .client⟩ .client .fullAccess)).process.grants.ofRole role =
        w.process.grants.ofRole role := by
  obtain ⟨t, -, hstart, -, -, hstep⟩ := firstLogin
  have hkeyed : Auth.FirstLogin.process.users.Keyed := (UserTable.keyed_empty _).insert _
  have hfree : loggedIn.users.users.get? ⟨2⟩ = none := rfl
  obtain ⟨hcallers, -⟩ :=
    changes_need_authority injective_ids hstart hkeyed (.single hstep) hfree
  refine ⟨_, .single hstep, ⟨Auth.sessionOf supply Auth.FirstLogin.process input user
    (.ofSeconds 86400), rfl, ?_⟩, ?_⟩
  · rcases hcallers (.logout ⟨⟨7⟩, "xx", "", .admin⟩) _ rfl with hconfined | ⟨_, hnone, -⟩
    · exact (hconfined.undisturbed.get "xx" _ (by decide)).2 rfl
    · cases hnone
  · rcases hcallers (.grant ⟨user.id, "xx", "", .client⟩ .client .fullAccess) _ rfl with
      hconfined | ⟨_, -, u, hu, -, hheld⟩
    · exact hconfined.undisturbed.grants
    · cases hu
      rcases hheld with hheld | hheld <;> cases hheld

end Service
end SessionAuth
