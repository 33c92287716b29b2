import SessionAuth.Proofs.Service.History

/-!
# Operations that fail

An operation has many points at which it can fail, some of them between writes to different stores.
It never fails after it has changed something that can be read.  Most operations look things up,
then write, and what they do afterwards cannot fail (`Atomic`).  A login and a refresh
write before they make the access token, and can do so only because what they wrote makes sure that
the token can be made: the ids are there, the user was checked when the refresh token was made, and
the lifetime is that of the settings.

There is one exception.  A refresh whose token leads to a session that is gone fails, and takes the
pointer of its token away.
-/

set_option autoImplicit false

namespace SessionAuth

open Environment Fallible Deployment Text
open SessionStore (Move tokenIds)

/-! ## What can be read -/

namespace Deployment

/-- A process that reads like another one: it has the same accounts and permissions, and the same
sessions are live.  Which refresh tokens are in use is left open. -/
structure ReadsLike (d d' : Deployment) : Prop where
  users : d'.users.users = d.users.users
  grants : ∀ role, d'.grants.ofRole role = d.grants.ofRole role
  get : ∀ id, (d'.sessions.get d'.clock.elapsed id).1 = (d.sessions.get d.clock.elapsed id).1
  listByUser : ∀ user, (d'.sessions.listByUser d'.clock.elapsed user).1 =
    (d.sessions.listByUser d.clock.elapsed user).1

variable {d d' : Deployment}

theorem Unchanged.readsLike (h : Unchanged d d') : ReadsLike d d' :=
  ⟨h.users, h.grants, h.get_eq, h.listByUser_eq⟩

/-- Pointers do not show where sessions are read. -/
theorem ReadsLike.of_faded (h : SameAside d d') {pointers : Table String (Expiring String)}
    (hsessions : SessionStore.Faded d.clock.elapsed { d.sessions with pointers := pointers }
      d'.sessions) : ReadsLike d d' where
  users := h.users
  grants := h.grants
  get id := by
    rw [h.clock]
    exact hsessions.session?_eq id
  listByUser user := by
    rw [h.clock]
    exact (hsessions.listByUser user).1

end Deployment

/-! ## Operations that write once they cannot fail any more -/

section Atomic

variable {s : Setup} {f : Supply} {d₀ : Deployment} {α : Type}

/-- An account is created, or the email is in use. -/
theorem Account.atomic_create (hreach : d₀.InReach) (a : NewAccount) :
    Atomic f d₀ (create s a) := by
  simp only [create]
  split
  · exact Atomic.throw_bind
  refine Atomic.bind (asks_lift _) fun _ => Atomic.bind (asks_newSalt trivial) fun salt => ?_
  refine ⟨fun d h e he => ?_⟩
  rw [runOn_users, (h.inReach hreach).serve_users] at he ⊢
  simp only [UserTable.answer, UserTable.create] at he ⊢
  split at he
  · rename_i htaken
    rw [if_pos htaken]
    exact h
  · cases he

theorem Account.atomic_changePassword (hreach : d₀.InReach) (c : Caller) (current new : String) :
    Atomic f d₀ (changePassword s c current new) := by
  refine Atomic.bind (asks_lift _) fun _ => Atomic.bind (asks_usersCall trivial) fun u => ?_
  cases u with
  | none => exact Atomic.of_looks (asks_throw _)
  | some u =>
    refine Atomic.bind (asks_lift _) fun matched => ?_
    dsimp only
    split
    · exact Atomic.throw_bind
    refine Atomic.bind (asks_lift _) fun _ => Atomic.bind (asks_newSalt trivial) fun salt => ?_
    refine Atomic.change_bind (refuses_account hreach
      u.id (c := .setPassword u.id (Password.hashNew salt new)) (fun d hd => ?_) ?_) ?_
    · rw [runOn_users, hd.serve_users]
      rfl
    · exact fun habsent => UserTable.users_update_of_absent habsent _ _
    · refine .bind (Sessions.succeeds_deleteAll _) fun ended => ?_
      refine .bind (Subject.succeeds_clear (.user u.id)) fun _ => ?_
      exact .bind (succeeds_publish _) fun _ => .pure _

theorem UserAdmin.succeeds_invalidate (user : UserId) (event : Event) :
    Succeeds f (invalidate user event) :=
  .bind (Subject.succeeds_clear (.user user)) fun _ => .bind (succeeds_publish _) fun _ => .pure _

/-- What comes after a permission was asked for. -/
theorem UserAdmin.atomic_require_bind (c : Caller) (permission : Permission)
    {k : Unit → UseCase α} (hk : Atomic f d₀ (k ())) : Atomic f d₀ (require s c permission >>= k) :=
  Atomic.bind (looks_require c permission) fun _ => hk

theorem UserAdmin.atomic_changeRole (hreach : d₀.InReach) (c : Caller) (user : UserId)
    (role : Role) : Atomic f d₀ (changeRole s c user role) := by
  refine atomic_require_bind _ _ (Atomic.change_bind (refuses_account hreach
    user (c := .setRole user role) (fun d hd => ?_) ?_) (succeeds_invalidate _ _))
  · rw [runOn_users, hd.serve_users]
    rfl
  · exact fun habsent => UserTable.users_update_of_absent habsent _ _

theorem UserAdmin.atomic_changeStatus (hreach : d₀.InReach) (c : Caller) (user : UserId)
    (status : Status) : Atomic f d₀ (changeStatus s c user status) := by
  refine atomic_require_bind _ _ ?_
  dsimp only
  split
  · exact Atomic.throw_bind
  refine Atomic.change_bind (refuses_account hreach user (c := .setStatus user status)
    (fun d hd => ?_) ?_) (.bind (succeeds_invalidate _ _) fun _ => ?_)
  · rw [runOn_users, hd.serve_users]
    rfl
  · exact fun habsent => UserTable.users_update_of_absent habsent _ _
  · split
    · exact .bind (Sessions.succeeds_deleteAll _) fun _ => .pure _
    · exact .pure _

theorem UserAdmin.atomic_delete (hreach : d₀.InReach) (c : Caller) (user : UserId) :
    Atomic f d₀ (delete s c user) := by
  refine atomic_require_bind _ _ ?_
  dsimp only
  split
  · exact Atomic.throw_bind
  refine Atomic.change_bind (refuses_account hreach user (c := .delete user)
    (fun d hd => ?_) ?_) (succeeds_invalidate _ _)
  · rw [runOn_users, hd.serve_users]
    rfl
  · exact fun habsent => Table.erase_of_get?_eq_none habsent

/-- Permissions are granted and revoked without fail, once that is allowed. -/
theorem RoleAdmin.atomic_change (hreach : d₀.InReach) (c : Caller) (role : Role)
    {change : UseCase Bool} (hchange : Succeeds f change) : Atomic f d₀ do
      requireManage s c
      let changed ← change
      if changed then invalidate role
      return changed := by
  refine UserAdmin.atomic_require_bind c .roleManage (.of_succeeds hreach ?_)
  refine .bind hchange fun changed => ?_
  dsimp only
  split
  · refine .bind (.bind (Subject.succeeds_clear (.role role)) fun _ => ?_) fun _ => .pure _
    exact .bind (succeeds_publish _) fun _ => .pure _
  · exact .pure _

theorem OwnSessions.atomic_revoke (hreach : d₀.InReach) (c : Caller) (ids : List String)
    (others : Bool) : Atomic f d₀ (revoke s c ids others) := by
  rw [revoke]
  split
  · exact Atomic.throw_bind
  refine Atomic.bind (Authorization.looks_authorize _ _ _) fun _ => ?_
  exact .of_succeeds hreach (Sessions.succeeds_delete _)

end Atomic

/-! ## What an operation that fails leaves -/

/-- The refresh token that an operation presents. -/
def Operation.presented? {α : Type} : Operation α → Option String
  | .refresh input => some input.refreshToken
  | _ => none

/-- What an operation that failed has done: nothing, or the refresh token that it presented led to a
session that is gone, and its pointer is gone as well now. -/
inductive Failed (s : Setup) {α : Type} (op : Operation α) (d d' : Deployment) : Prop
  | unchanged (h : Unchanged d d')
  | spent {token : String} {claims : Claims} {id : String} (hpresented : op.presented? = some token)
      (hverify : s.codec.verify token = .ok claims)
      (hpointer : d.sessions.pointer? d.clock.elapsed claims.jti = some id)
      (hgone : d.sessions.session? d.clock.elapsed id = none) (hreads : ReadsLike d d')
      (hothers : ∀ jti, jti ≠ claims.jti →
        d'.sessions.hasJti d'.clock.elapsed jti = d.sessions.hasJti d.clock.elapsed jti)

section Failed

variable {s : Setup} {f : Supply} {d d' : Deployment} {α : Type}

/-- Access tokens can be made for everyone with an account, if ids are not empty. -/
theorem Auth.pairOf_isOk (hids : ∀ n, (f.ids n).isEmpty = false) (hpos : 1 ≤ s.codec.accessTtl)
    (hmax : s.codec.accessTtl ≤ maxInt64) {now : Timestamp} {user : UserId} {session : String}
    {refresh : Codec.Issued} {n : Nat} (huser : user.isNil = false)
    (hsession : session.isEmpty = false) (e : Error) :
    pairOf s now user session refresh (f.ids n) ≠ .error e := by
  intro h
  cases h.symm.trans (pairOf_eq_ok_iff.2 ⟨hsession, ⟨huser, hids n, hpos, hmax⟩, rfl⟩)

/-- Once the session of a login is open, the login succeeds. -/
theorem Auth.failed_login (hids : ∀ n, (f.ids n).isEmpty = false) (hpos : 1 ≤ s.codec.accessTtl)
    (hmax : s.codec.accessTtl ≤ maxInt64) {input : Login} {e : Error}
    (h : LoginCase s f d input (.error e) d') : Failed s (.login input) d d' := by
  generalize hresult : (Except.error e : Except Error Tokens) = r at h
  cases h with
  | refused =>
    refine .unchanged ⟨⟨rfl, fun _ => rfl, rfl, rfl, fun hreach => ?_⟩, .refl _ _⟩
    exact ⟨hreach.sessions, hreach.users, hreach.cache⟩
  | letIn h => exact absurd hresult.symm (pairOf_isOk hids hpos hmax h.refresh.user (hids _) e)

/-- Once a session is carried on, the refresh succeeds. -/
theorem Auth.failed_refresh (hids : ∀ n, (f.ids n).isEmpty = false)
    (hpos : 1 ≤ s.codec.accessTtl) (hmax : s.codec.accessTtl ≤ maxInt64)
    (hleads : ∀ jti id, d.sessions.pointer? d.clock.elapsed jti = some id → id.isEmpty = false)
    {input : Refresh} {e : Error} (h : RefreshCase s f d input (.error e) d') :
    Failed s (.refresh input) d d' := by
  generalize hresult : (Except.error e : Except Error Tokens) = r at h
  cases h with
  | refused hsame => exact .unchanged ⟨hsame.toSameAside, hsame.sessions ▸ .refl _ _⟩
  | spent haccepts hold _ hvalid hspent hsessions haside =>
    rw [← hold] at hspent
    obtain ⟨id, hpointer⟩ := Option.isSome_iff_exists.1 haccepts.used
    have hfaded := SessionStore.Faded.rotate_of_spent hvalid hspent
    have hpointers := (SessionStore.rotate_of_spent d.clock.elapsed d.sessions hvalid hspent).2.2
    rw [← hsessions] at hfaded hpointers
    refine .spent rfl (Codec.parse_eq_ok_iff.1 haccepts.parsed).1 hpointer
      (hspent id (hold ▸ hpointer)) (.of_faded haside hfaded) fun jti hne => ?_
    rw [haside.clock, SessionStore.hasJti, SessionStore.hasJti, SessionStore.pointer?,
      SessionStore.pointer?, hpointers, Table.get?_erase, hold, if_neg hne]
  | carriedOn haccepts _ hpointer =>
    exact absurd hresult.symm
      (pairOf_isOk hids hpos hmax haccepts.refresh.user (hleads _ _ hpointer) e)

/-- **An operation that fails changes nothing**, but for the one pointer that a refresh may take
away. -/
theorem Operation.failed (hids : ∀ n, (f.ids n).isEmpty = false) (hpos : 1 ≤ s.codec.accessTtl)
    (hmax : s.codec.accessTtl ≤ maxInt64) (hsettled : d.Settled none)
    (hleads : ∀ jti id, d.sessions.pointer? d.clock.elapsed jti = some id → id.isEmpty = false)
    (op : Operation α) {e : Error} (h : runOn (serve f) (op.body s) d = (.error e, d')) :
    Failed s op d d' := by
  have hreach := hsettled.toInReach
  have hatomic : Atomic f d (op.body s) → Failed s op d d' := fun hp => by
    have hkept := hp.run d (.refl d) e
    rw [h] at hkept
    exact .unchanged (hkept rfl)
  unfold Operation.body at h hatomic
  cases op with
  | login input =>
    have hcase := Auth.login_cases (s := s) (f := f) hreach input
    rw [h] at hcase
    exact Auth.failed_login hids hpos hmax hcase
  | refresh input =>
    have hcase := Auth.refresh_cases (s := s) (f := f) hsettled input
    rw [h] at hcase
    exact Auth.failed_refresh hids hpos hmax hleads hcase
  | authenticate => exact hatomic (.of_looks (Auth.looks_authenticate _))
  | logout =>
    exact hatomic (.of_succeeds hreach (.bind (Sessions.succeeds_delete _) fun _ => .pure _))
  | profile => exact hatomic (.of_looks (Auth.looks_profile _))
  | register => exact hatomic (Account.atomic_create hreach _)
  | changePassword => exact hatomic (Account.atomic_changePassword hreach ..)
  | listSessions => exact hatomic (.of_looks (OwnSessions.looks_list _))
  | revokeSessions => exact hatomic (OwnSessions.atomic_revoke hreach ..)
  | getUser => exact hatomic (.of_looks (UserAdmin.looks_get _ _))
  | createUser =>
    exact hatomic (UserAdmin.atomic_require_bind _ _ (Account.atomic_create hreach _))
  | listUsers => exact hatomic (.of_looks (UserAdmin.looks_list _ _ _))
  | changeRole => exact hatomic (UserAdmin.atomic_changeRole hreach ..)
  | changeStatus => exact hatomic (UserAdmin.atomic_changeStatus hreach ..)
  | deleteUser => exact hatomic (UserAdmin.atomic_delete hreach ..)
  | listPermissions => exact hatomic (.of_looks (RoleAdmin.looks_list _ _))
  | grant | revoke => exact hatomic (RoleAdmin.atomic_change hreach _ _ (succeeds_grants _))

end Failed

/-! ## Tokens that were exchanged -/

namespace Service

variable {s : Setup} {f : Supply} {w w' : Service}

/-- A refresh token that was exchanged never has a pointer again. -/
theorem not_pointer_of_exchanged (hf : Function.Injective f.ids) (h : Reachable s f w)
    {next : UserId} (hnext : w.process.users.users.get? next = none) {input : Auth.Refresh}
    {t : Auth.Tokens} (hresult : w.result s f next (.refresh input) = .ok t)
    (hsteps : Steps s f (w.perform s f next (.refresh input)) w') :
    ∃ claims, s.codec.verify input.refreshToken = .ok claims ∧
      w'.process.sessions.pointers.get? claims.jti = none := by
  have hcase := refreshCase h next input
  obtain ⟨more, hmore⟩ := hsteps.draws (h.step (.perform (.refresh input) hnext))
  obtain ⟨moves, hmoves⟩ := reachable_history h
  generalize hafter : (w.perform s f next (.refresh input)).process = d at hcase hmore
  rw [hresult] at hcase
  generalize hok : (Except.ok t : Except Error Auth.Tokens) = r at hcase
  cases hcase with
  | refused | spent => cases hok
  | @carriedOn claims _ id session _ _ _ haccepts _ hpointer _ hsessions _ hcount =>
    refine ⟨claims, (Codec.parse_eq_ok_iff.1 haccepts.parsed).1, ?_⟩
    obtain ⟨p, hp, -, -⟩ := SessionStore.pointer?_eq_some_iff.1 hpointer
    obtain ⟨n, -, hn, hjti⟩ := hmoves.tokens.exists_of_mem (hmoves.mentions.pointer hp).1
    replace hcount : d.idCount = w.process.idCount + 2 := hcount
    rw [Option.eq_none_iff_forall_ne_some, ← hjti]
    intro p' hp'
    have hmoved : w'.process.sessions = ((Sessions.moment d).run more).store :=
      congrArg SessionStore.Moment.store hmore.moved
    rw [hmoved] at hp'
    rcases SessionStore.pointer_before_run _ _ hp' with hold | hnew
    · -- the exchange has taken the pointer away, and the new token has another id
      have hne : f.ids n ≠ f.ids w.process.idCount := fun heq => absurd (hf heq) (by omega)
      rw [Sessions.moment, hsessions, SessionStore.pointers_carriedOn, ← hjti,
        Table.get?_set_eq_some_iff, Table.get?_erase_eq_some_iff] at hold
      rcases hold with ⟨heq, -⟩ | ⟨-, hself, -⟩
      · exact hne heq
      · exact hself rfl
    · exact hmore.tokens.not_mem hf (.inl (by omega)) hnew

/-- A refresh whose token has no pointer is refused, and changes nothing. -/
theorem refused_of_not_pointer (h : Reachable s f w) {input : Auth.Refresh} {claims : Claims}
    (hverify : s.codec.verify input.refreshToken = .ok claims)
    (hpointer : w.process.sessions.pointers.get? claims.jti = none) (next : UserId) :
    (∃ e, w.result s f next (.refresh input) = .error e) ∧
      Unchanged w.process (w.perform s f next (.refresh input)).process := by
  have hcase := refreshCase h next input
  have hunused : ∀ {claims' user}, ¬ Auth.Accepts s f (w.ready next) input claims' user := by
    intro claims' user haccepts
    cases hverify.symm.trans (Codec.parse_eq_ok_iff.1 haccepts.parsed).1
    obtain ⟨id, hid⟩ := Option.isSome_iff_exists.1 haccepts.used
    obtain ⟨p, hp, -, -⟩ := SessionStore.pointer?_eq_some_iff.1 hid
    cases hpointer.symm.trans hp
  generalize w.result s f next (.refresh input) = r at hcase
  generalize (w.perform s f next (.refresh input)).process = d at hcase
  cases hcase with
  | @refused e _ hsame =>
    exact ⟨⟨e, rfl⟩, unchanged_of_ready ⟨hsame.toSameAside, hsame.sessions ▸ .refl _ _⟩⟩
  | spent haccepts => exact absurd haccepts hunused
  | carriedOn haccepts => exact absurd haccepts hunused

/-- **Operations that fail change nothing.**  If an operation of the service fails, in whatever
state, then the accounts, the permissions and the live sessions are the same as before, and so are
the refresh tokens in use, with one exception: if a refresh presented a token whose session is gone,
that token may no longer be in use.  A refresh token that was exchanged is refused ever after, which
leaves all sessions and the tokens that took its place as they are. -/
theorem failed_changes_nothing (hids : ∀ n, (f.ids n).isEmpty = false)
    (hpos : 1 ≤ s.codec.accessTtl) (hmax : s.codec.accessTtl ≤ maxInt64) (h : Reachable s f w) :
    (∀ {α : Type} (op : Operation α) (next : UserId) (e : Error), w.result s f next op = .error e →
      let d := w.process
      let d' := (w.perform s f next op).process
      ReadsLike d d' ∧ ∀ jti,
        d'.sessions.hasJti d'.clock.elapsed jti ≠ d.sessions.hasJti d.clock.elapsed jti →
          ∃ token claims id, op.presented? = some token ∧ s.codec.verify token = .ok claims ∧
            claims.jti = jti ∧ d.sessions.pointer? d.clock.elapsed jti = some id ∧
              d.sessions.session? d.clock.elapsed id = none) ∧
    (Function.Injective f.ids → ∀ input t next w', w.process.users.users.get? next = none →
      w.result s f next (.refresh input) = .ok t →
        Steps s f (w.perform s f next (.refresh input)) w' →
          ∀ again next', again.refreshToken = input.refreshToken →
            let d := w'.process
            let d' := (w'.perform s f next' (.refresh again)).process
            (∃ e, w'.result s f next' (.refresh again) = .error e) ∧ ReadsLike d d' ∧
              ∀ jti, d'.sessions.hasJti d'.clock.elapsed jti =
                d.sessions.hasJti d.clock.elapsed jti) := by
  constructor
  · intro α op next e herror d d'
    obtain ⟨moves, hmoves⟩ := reachable_history h
    have hleads : ∀ jti id, w.process.sessions.pointer? w.process.clock.elapsed jti = some id →
        id.isEmpty = false := by
      intro jti id hid
      obtain ⟨p, hp, -, rfl⟩ := SessionStore.pointer?_eq_some_iff.1 hid
      obtain ⟨n, -, -, hn⟩ := hmoves.sessions.exists_of_mem (hmoves.mentions.pointer hp).2
      exact hn ▸ hids n
    have hrun : runOn (serve f) (op.body s) (w.ready next) = _ := runOn_ready op
    rw [herror] at hrun
    cases op.failed hids hpos hmax (h.settled_ready next) hleads hrun with
    | unchanged hsame =>
      have hsame := unchanged_of_ready hsame
      exact ⟨hsame.readsLike, fun jti hne => absurd (hsame.hasJti_eq jti) hne⟩
    | @spent token claims id hpresented hverify hpointer hgone hreads hothers =>
      refine ⟨⟨hreads.users, hreads.grants, hreads.get, hreads.listByUser⟩, fun jti hne => ?_⟩
      obtain rfl : jti = claims.jti := Decidable.of_not_not fun h => hne (hothers jti h)
      exact ⟨token, claims, id, hpresented, hverify, rfl, hpointer, hgone⟩
  · intro hf input t next w' hnext hresult hsteps again next' hagain
    obtain ⟨claims, hverify, hpointer⟩ := not_pointer_of_exchanged hf h hnext hresult hsteps
    have hreachable := (h.step (.perform (.refresh input) hnext)).steps hsteps
    obtain ⟨herror, hsame⟩ :=
      refused_of_not_pointer hreachable (hagain ▸ hverify) hpointer next'
    exact ⟨herror, hsame.readsLike, hsame.hasJti_eq⟩

open Auth.FirstLogin Sample in
/-- After a first login and a refresh, the token of the login is presented again. -/
theorem failed_changes_nothing_replay : ∃ (w : Service) (e : Error), Reachable setup supply w ∧
    w.result setup supply ⟨2⟩ (.refresh again) = .error e ∧
      ReadsLike w.process (w.perform setup supply ⟨2⟩ (.refresh again)).process := by
  obtain ⟨t, -, hstart, -, -, hstep⟩ := firstLogin
  obtain ⟨t', hrefresh⟩ := firstRefresh [t]
  have hloggedIn := (Reachable.start hstart).step hstep
  obtain ⟨⟨e, herror⟩, hreads, -⟩ := (failed_changes_nothing isEmpty_ids (by decide)
    (by decide) hloggedIn).2 injective_ids again t' ⟨2⟩ _ rfl hrefresh .refl again ⟨2⟩ rfl
  exact ⟨_, e, hloggedIn.step (.perform (.refresh again) rfl), herror, hreads⟩

end Service
end SessionAuth
