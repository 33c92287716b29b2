import SessionAuth.Proofs.Service.Unchanged
import SessionAuth.Proofs.UseCase.Conversation
import SessionAuth.Proofs.UseCase.Refresh

/-!
# All that a login or a refresh can do

`Admits` and `Accepts` say when a login or a refresh succeeds.  Here it is the other way round: each
of them is run with no assumption on its input, and `login_cases` and `refresh_cases` list what can
have become of it, with what it must have found out on the way.

A login either did nothing, or opened one session for a user whose password it checked.  A refresh
either did nothing, or came to the exchange of its token; that succeeds just if the token leads to a
live session.  What is left after that is to make the access token, which is a matter of the
contents alone (`pairOf`).
-/

set_option autoImplicit false

namespace SessionAuth
namespace Auth

open Environment Fallible Deployment Text

variable {s : Setup} {f : Supply} {d : Deployment}

/-! ## Parts -/

/-- The pair of a refresh token and a new access token, made at a time with a given id. -/
def pairOf (s : Setup) (now : Timestamp) (user : UserId) (session : String)
    (refresh : Codec.Issued) (jti : String) : Except Error Tokens :=
  (s.codec.issueAccess now user session jti s.codec.accessTtl).map fun access => {
    accessToken := access.token
    accessExpiresAt := access.claims.expiresAt
    refreshToken := refresh.token
    refreshExpiresAt := refresh.claims.expiresAt
    sessionId := session }

section Pair

variable {now : Timestamp} {user : UserId} {session jti : String} {refresh : Codec.Issued}

/-- A pair is made just if its access token can be made. -/
theorem pairOf_eq_ok_iff {t : Tokens} : pairOf s now user session refresh jti = .ok t ↔
    session.isEmpty = false ∧ Codec.Issuable user jti s.codec.accessTtl ∧ t = {
      accessToken := s.codec.encode
        (Codec.claimsAt now .access user session jti s.codec.accessTtl)
      accessExpiresAt :=
        (Codec.claimsAt now .access user session jti s.codec.accessTtl).expiresAt
      refreshToken := refresh.token
      refreshExpiresAt := refresh.claims.expiresAt
      sessionId := session } := by
  rw [pairOf]
  cases hissue : s.codec.issueAccess now user session jti s.codec.accessTtl with
  | error e =>
    refine iff_of_false (by simp [Except.map]) ?_
    rintro ⟨hsession, hissuable, -⟩
    cases hissue.symm.trans (Codec.issueAccess_of_issuable hsession hissuable)
  | ok access =>
    obtain ⟨hsession, hissuable, htoken, hclaims⟩ := Codec.issueAccess_eq_ok_iff.1 hissue
    rw [hclaims, htoken]
    simp only [Except.map, Except.ok.injEq, hsession, hissuable, true_and]
    exact eq_comm

theorem runOn_completePair_eq : runOn (serve f) (completePair s user session refresh) d =
    (pairOf s d.clock.wall user session refresh (f.ids d.idCount),
      { d with idCount := d.idCount + 1 }) := by
  rw [completePair, runOn_bind_of_ok _ _ (runOn_newId _ _),
    runOn_bind_of_ok _ _ (runOn_now _ _), runOn_bind, runOn_lift, pairOf]
  simp only [serve, answer]
  cases s.codec.issueAccess d.clock.wall user session (f.ids d.idCount) s.codec.accessTtl <;> rfl

theorem runOn_issueRefresh_eq : runOn (serve f) (issueRefresh s user) d =
    (s.codec.issueRefresh d.clock.wall user (f.ids d.idCount) s.codec.refreshTtl,
      { d with idCount := d.idCount + 1 }) := by
  rw [issueRefresh, runOn_bind_of_ok _ _ (runOn_newId _ _),
    runOn_bind_of_ok _ _ (runOn_now _ _), runOn_lift]
  rfl

end Pair

/-! ## Logins -/

/-- What a login has found out when it opens a session. -/
structure LetsIn (s : Setup) (f : Supply) (d : Deployment) (input : Login) (user : User)
    (ttls : Ttls) (expires : Timestamp) : Prop where
  found : d.users.findByEmail? (trim input.email) = some user
  verified : Password.verify input.password user.passwordHash = .ok true
  active : user.status = .active
  refresh : Codec.Issuable user.id (f.ids d.idCount) s.codec.refreshTtl
  lifetimes : Sessions.lifetimes s.sessionTtl d.clock.wall
    (Codec.claimsAt d.clock.wall .refresh user.id "" (f.ids d.idCount) s.codec.refreshTtl).expiresAt
      = .ok (ttls, expires)

/-- The process after a login that opened a session. -/
def letIn (f : Supply) (d : Deployment) (input : Login) (user : User) (ttls : Ttls)
    (expires : Timestamp) : Deployment :=
  { d with
    idCount := d.idCount + 3
    sessions := SessionStore.opened d.clock.elapsed d.sessions (sessionOf f d input user expires)
      ttls }

section LetIn

variable {input : Login} {user : User} {ttls : Ttls} {expires : Timestamp}

theorem get?_letIn (f : Supply) (d : Deployment) (input : Login) (user : User) (ttls : Ttls)
    (expires : Timestamp) :
    (letIn f d input user ttls expires).sessions.sessions.get? (f.ids (d.idCount + 1)) =
      some ⟨sessionOf f d input user expires,
        SessionStore.deadline d.clock.elapsed ttls.session⟩ :=
  Table.get?_set_eq_some_iff.2 (.inl ⟨rfl, rfl⟩)

/-- The session that was opened is live. -/
theorem session?_letIn (h : LetsIn s f d input user ttls expires) :
    (letIn f d input user ttls expires).sessions.session? d.clock.elapsed
      (f.ids (d.idCount + 1)) = some (sessionOf f d input user expires) :=
  SessionStore.session?_eq_some_iff.2 ⟨_, get?_letIn f d input user ttls expires,
    (SessionStore.lt_deadlines d.clock.elapsed (lifetimes_isValid h.lifetimes)).1, rfl⟩

/-- The new refresh token leads to it. -/
theorem pointer?_letIn (h : LetsIn s f d input user ttls expires) :
    (letIn f d input user ttls expires).sessions.pointer? d.clock.elapsed (f.ids d.idCount) =
      some (f.ids (d.idCount + 1)) :=
  SessionStore.pointer?_eq_some_iff.2 ⟨⟨_, SessionStore.deadline d.clock.elapsed ttls.jti⟩,
    Table.get?_set_eq_some_iff.2 (.inl ⟨rfl, rfl⟩),
    (SessionStore.lt_deadlines d.clock.elapsed (lifetimes_isValid h.lifetimes)).2, rfl⟩

end LetIn

/-- The refresh token that is made first in a process. -/
def refreshIssued (s : Setup) (f : Supply) (d : Deployment) (user : UserId) : Codec.Issued :=
  let claims := Codec.claimsAt d.clock.wall .refresh user "" (f.ids d.idCount) s.codec.refreshTtl
  ⟨s.codec.encode claims, claims⟩

/-- What can become of a login. -/
inductive LoginCase (s : Setup) (f : Supply) (d : Deployment) (input : Login) :
    Except Error Tokens → Deployment → Prop
  /-- It failed, and did no more than to use up an id. -/
  | refused {e : Error} {count : Nat} (hcount : d.idCount ≤ count) :
      LoginCase s f d input (.error e) { d with idCount := count }
  /-- It opened a session, and made the access token, if that was possible. -/
  | letIn {user : User} {ttls : Ttls} {expires : Timestamp}
      (h : LetsIn s f d input user ttls expires) :
      LoginCase s f d input
        (pairOf s d.clock.wall user.id (f.ids (d.idCount + 1)) (refreshIssued s f d user.id)
          (f.ids (d.idCount + 2)))
        (Auth.letIn f d input user ttls expires)

/-- Checking credentials changes nothing. -/
theorem runOn_verifyCredentials_eq (hreach : d.InReach) (email password : String) :
    ∃ r, runOn (serve f) (verifyCredentials email password) d = (r, d) ∧ ∀ user, r = .ok user →
      d.users.findByEmail? email = some user ∧
        Password.verify password user.passwordHash = .ok true := by
  have hfind : serve f (.users (.findByEmail email)) d =
      (.ok (d.users.findByEmail? email), d) := by
    rw [hreach.serve_users]
    rfl
  rw [verifyCredentials, runOn_bind, runOn_users, hfind]
  cases hu : d.users.findByEmail? email with
  | none => exact ⟨_, rfl, by simp⟩
  | some u =>
    dsimp only
    rw [runOn_bind, runOn_lift]
    cases hverify : Password.verify password u.passwordHash with
    | error e => exact ⟨_, rfl, by simp⟩
    | ok matched =>
      cases matched with
      | false => exact ⟨_, rfl, by simp⟩
      | true =>
        refine ⟨.ok u, rfl, ?_⟩
        rintro _ ⟨⟩
        exact ⟨rfl, hverify⟩

theorem openFor_cases (hreach : d.InReach) {input : Login} {user : User}
    (hfound : d.users.findByEmail? (trim input.email) = some user)
    (hverified : Password.verify input.password user.passwordHash = .ok true) :
    LoginCase s f d input (runOn (serve f) (openFor s input user) d).1
      (runOn (serve f) (openFor s input user) d).2 := by
  rw [openFor]
  cases hactive : user.status with
  | inactive | suspended =>
    simp only [checkUsable, hactive]
    exact .refused (Nat.le_refl _)
  | active =>
    have husable : checkUsable user = .ok () := by rw [checkUsable, hactive]
    rw [husable, runOn_bind_of_ok _ _ (runOn_lift _ _ _), runOn_bind, runOn_issueRefresh_eq]
    cases hissue : s.codec.issueRefresh d.clock.wall user.id (f.ids d.idCount)
      s.codec.refreshTtl with
    | error e => exact .refused (Nat.le_succ _)
    | ok issued =>
      have hissuable : Codec.Issuable user.id (f.ids d.idCount) s.codec.refreshTtl :=
        (Codec.issueRefresh_eq_ok_iff.1 hissue).1
      obtain rfl : issued = refreshIssued s f d user.id :=
        Except.ok.inj (hissue.symm.trans (Codec.issueRefresh_of_issuable hissuable))
      have hjti : ¬ (refreshIssued s f d user.id).claims.jti.isEmpty :=
        Bool.eq_false_iff.1 hissuable.jti
      dsimp only
      rw [runOn_bind, runOn_openSession_eq, if_neg hjti]
      cases hlifetimes : Sessions.lifetimes s.sessionTtl d.clock.wall
        (refreshIssued s f d user.id).claims.expiresAt with
      | error e => exact .refused (Nat.le_succ _)
      | ok t =>
        dsimp only
        rw [if_pos hreach.sessions]
        dsimp only
        rw [runOn_completePair_eq]
        exact .letIn ⟨hfound, hverified, hactive, hissuable, hlifetimes⟩

/-- **All that a login can do.**  It fails and changes nothing, or it opens one session for the user
whose password it was given. -/
theorem login_cases (hreach : d.InReach) (input : Login) :
    LoginCase s f d input (runOn (serve f) (login s input) d).1
      (runOn (serve f) (login s input) d).2 := by
  cases hmissing : (trim input.email).isEmpty || input.password.isEmpty with
  | true =>
    simp only [login, hmissing]
    exact .refused (Nat.le_refl _)
  | false =>
    obtain ⟨hemail, hpassword⟩ := Bool.or_eq_false_iff.1 hmissing
    obtain ⟨r, hchecked, hr⟩ :=
      runOn_verifyCredentials_eq (f := f) hreach (trim input.email) input.password
    rw [login_eq hemail hpassword, runOn_bind, hchecked]
    cases r with
    | error e => exact .refused (Nat.le_refl _)
    | ok user => exact openFor_cases hreach (hr user rfl).1 (hr user rfl).2

/-- A login that gives out tokens has opened the session that they name. -/
theorem login_eq_ok (hreach : d.InReach) {input : Login} {t : Tokens} {d' : Deployment}
    (h : runOn (serve f) (login s input) d = (.ok t, d')) :
    ∃ user ttls expires, LetsIn s f d input user ttls expires ∧
      pairOf s d.clock.wall user.id (f.ids (d.idCount + 1)) (refreshIssued s f d user.id)
        (f.ids (d.idCount + 2)) = .ok t ∧
      d' = letIn f d input user ttls expires := by
  have hcases := login_cases (s := s) (f := f) hreach input
  rw [h] at hcases
  dsimp only at hcases
  generalize hresult : (Except.ok t : Except Error Tokens) = r at hcases
  cases hcases with
  | refused => cases hresult
  | letIn hin => exact ⟨_, _, _, hin, rfl, rfl⟩

/-! ## Refreshes -/

/-- A process in which nothing was done to the sessions, and some ids were used up. -/
structure SameSessions (d d' : Deployment) : Prop extends SameAside d d' where
  sessions : d'.sessions = d.sessions
  idCount : d.idCount ≤ d'.idCount

/-- A question that looks something up, but not among the sessions. -/
def LooksAside (q : Question) : Prop := Looks q ∧ IsQuiet q

/-- A question that changes nothing in the session store changes nothing there. -/
theorem sessions_serve_of_isQuiet {q : Question} (hq : IsQuiet q) :
    (Deployment.serve f q d).2.sessions = d.sessions := by
  cases q with
  | sessions q =>
    cases q with
    | indexedUsers => exact hq.elim
    | call c =>
      cases c with
      | hasJti =>
        simp only [Deployment.serve, answer]
        split <;> rfl
      | _ => exact hq.elim
  | users c =>
    simp only [Deployment.serve, answer]
    split <;> rfl
  | _ => rfl

theorem SameSessions.serve {d₀ : Deployment} (h : SameSessions d₀ d) {q : Question}
    (hq : LooksAside q) : SameSessions d₀ (Deployment.serve f q d).2 := by
  refine ⟨h.toSameAside.serve hq.1, (sessions_serve_of_isQuiet hq.2).trans h.sessions, ?_⟩
  refine Nat.le_trans h.idCount ?_
  cases q with
  | newId => exact Nat.le_succ _
  | sessions q =>
    simp only [Deployment.serve, answer]
    split <;> exact Nat.le_refl _
  | users c =>
    simp only [Deployment.serve, answer]
    split <;> exact Nat.le_refl _
  | _ => exact Nat.le_refl _

theorem asksAside_prepare (input : Refresh) : Asks LooksAside (prepare s input) := by
  refine Asks.bind (asks_now ⟨trivial, trivial⟩) fun now => Asks.bind (asks_lift _) fun claims => ?_
  refine Asks.bind (Sessions.asks_hasJti ⟨trivial, trivial⟩) fun used => ?_
  dsimp only
  split
  · exact asks_throw_bind _ _
  refine Asks.bind (Authorization.asks_checkStatus (Authorization.asks_userFacts
    ⟨trivial, trivial⟩ ⟨trivial, trivial⟩ fun _ _ => ⟨trivial, trivial⟩)) fun _ => ?_
  refine Asks.bind (asks_issueRefresh s ⟨trivial, trivial⟩ ⟨trivial, trivial⟩) fun issued => ?_
  exact asks_pure _

/-- A refresh that comes to its exchange has checked its token and the account. -/
theorem accepts_of_prepare (hsettled : d.Settled none) {input : Refresh} {claims : Claims}
    {issued : Codec.Issued} {d' : Deployment}
    (h : runOn (serve f) (prepare s input) d = (.ok (claims, issued), d')) :
    ∃ user, Accepts s f d input claims user := by
  have hnow : runOn (serve f) now d = (.ok d.clock.wall, d) := rfl
  rw [prepare, runOn_bind_of_ok _ _ hnow] at h
  obtain ⟨claims', _, hlifted, h⟩ := (runOn_bind_eq_ok_iff _ _).1 h
  rw [runOn_lift] at hlifted
  obtain ⟨hparsed, rfl⟩ := Prod.mk.inj hlifted
  obtain ⟨used, e, hhas, h⟩ := (runOn_bind_eq_ok_iff _ _).1 h
  cases used with
  | false => cases h
  | true =>
    simp only [Bool.not_true, Bool.false_eq_true, if_false] at h
    obtain ⟨facts, e', hchecked, h⟩ := (runOn_bind_eq_ok_iff _ _).1 h
    obtain ⟨issued', _, hissued, h⟩ := (runOn_bind_eq_ok_iff _ _).1 h
    cases h
    -- the answer about the token leaves the process as it is
    have hjti : claims.jti.isEmpty = false := by
      by_contra hempty
      rw [Bool.not_eq_false] at hempty
      rw [Sessions.hasJti, hempty] at hhas
      cases hhas
    rw [Sessions.hasJti, hjti, if_neg Bool.false_ne_true, runOn_sessions,
      hsettled.toInReach.serve_sessions] at hhas
    obtain ⟨hused, rfl⟩ := Prod.mk.inj hhas
    obtain ⟨-, hverdict⟩ := (Authorization.triple_checkStatus (f := f) s.cacheTtls claims.userId
      d.users.users d.users.nextId).run d ⟨hsettled, rfl, rfl⟩
    rw [show runOn (serve f) (Authorization.checkStatus s.cacheTtls claims.userId) d = _ from
      hchecked] at hverdict
    obtain ⟨user, hfound, hactive, -⟩ := Authorization.statusVerdict_eq_ok_iff.1 hverdict.symm
    obtain ⟨d₁, hchecked', hsame⟩ := runOn_checkStatus (s := s) (f := f) hsettled hfound hactive
    obtain ⟨-, rfl⟩ := Prod.mk.inj (hchecked'.symm.trans hchecked)
    rw [runOn_issueRefresh_eq, hsame.2] at hissued
    have hissuable := (Codec.issueRefresh_eq_ok_iff.1 (Prod.mk.inj hissued).1).1
    exact ⟨user, hparsed, hjti, Except.ok.inj hused, hfound, hactive, hissuable⟩

/-- What can become of a refresh. -/
inductive RefreshCase (s : Setup) (f : Supply) (d : Deployment) (input : Refresh) :
    Except Error Tokens → Deployment → Prop
  /-- It failed before the exchange. -/
  | refused {e : Error} {d' : Deployment} (hsame : SameSessions d d') :
      RefreshCase s f d input (.error e) d'
  /-- Its token leads to no live session. -/
  | spent {claims : Claims} {user : User} {r : Rotation} {d' : Deployment}
      (haccepts : Accepts s f d input claims user) (hold : r.oldJti = claims.jti)
      (hnew : r.newJti = f.ids d.idCount) (hvalid : r.ttls.isValid)
      (hspent : ∀ id, d.sessions.pointer? d.clock.elapsed claims.jti = some id →
        d.sessions.session? d.clock.elapsed id = none)
      (hsessions : d'.sessions = (d.sessions.rotate d.clock.elapsed r).2)
      (haside : SameAside d d') (hcount : d'.idCount = d.idCount + 1) :
      RefreshCase s f d input (.error .refreshTokenSpent) d'
  /-- It carried the session on, and made the access token, if that was possible. -/
  | carriedOn {claims : Claims} {user : User} {id : String} {session : Session} {ttls : Ttls}
      {expires : Timestamp} {d' : Deployment} (haccepts : Accepts s f d input claims user)
      (hlifetimes : Sessions.lifetimes s.sessionTtl d.clock.wall (Codec.claimsAt d.clock.wall
        .refresh claims.userId "" (f.ids d.idCount) s.codec.refreshTtl).expiresAt =
          .ok (ttls, expires))
      (hpointer : d.sessions.pointer? d.clock.elapsed claims.jti = some id)
      (hlive : d.sessions.session? d.clock.elapsed id = some session)
      (hsessions : d'.sessions = SessionStore.carriedOn d.clock.elapsed d.sessions ⟨claims.jti,
        f.ids d.idCount, input.ip, input.device, d.clock.wall, expires, ttls⟩ id session)
      (haside : SameAside d d') (hcount : d'.idCount = d.idCount + 2) :
      RefreshCase s f d input
        (pairOf s d.clock.wall claims.userId id (refreshIssued s f d claims.userId)
          (f.ids (d.idCount + 1))) d'

/-- The exchange of a token that was checked before. -/
theorem exchange_cases {e : Deployment} {input : Refresh} {claims : Claims} {user : User}
    {issued : Codec.Issued} (hreach : e.InReach) (haccepts : Accepts s f d input claims user)
    (hissued : issued = refreshIssued s f d claims.userId) (hsame : SameSessions d e)
    (hids : e.idCount = d.idCount + 1) :
    RefreshCase s f d input (runOn (serve f) (exchange s input claims issued) e).1
      (runOn (serve f) (exchange s input claims issued) e).2 := by
  have hclaims : issued.claims = Codec.claimsAt d.clock.wall .refresh claims.userId ""
      (f.ids d.idCount) s.codec.refreshTtl := by rw [hissued, refreshIssued]
  cases hlifetimes : Sessions.lifetimes s.sessionTtl d.clock.wall (Codec.claimsAt d.clock.wall
    .refresh claims.userId "" (f.ids d.idCount) s.codec.refreshTtl).expiresAt with
  | error err =>
    have hlifetimes' : Sessions.lifetimes s.sessionTtl e.clock.wall
        (renewal input claims issued).jtiExpiresAt = .error err := by
      rw [renewal, hclaims, hsame.clock, hlifetimes]
    rw [exchange, runOn_bind, runOn_renew_eq, hlifetimes']
    cases (renewal input claims issued).oldJti.isEmpty ||
      (renewal input claims issued).newJti.isEmpty <;> exact .refused hsame
  | ok t =>
    obtain ⟨ttls, expires⟩ := t
    have hvalid := lifetimes_isValid hlifetimes
    have hrenewed := runOn_renew (f := f) hreach
      (haccepts.renews hsame.clock hclaims hlifetimes hvalid)
    have hrotation : rotation e (renewal input claims issued) expires ttls = ⟨claims.jti,
        f.ids d.idCount, input.ip, input.device, d.clock.wall, expires, ttls⟩ := by
      rw [rotation, renewal, hclaims, hsame.clock]
      rfl
    rw [hrotation, hsame.sessions, hsame.clock] at hrenewed
    have haside : ∀ {sessions : SessionStore} {count : Nat},
        SameAside d { e with clock := d.clock, sessions := sessions, idCount := count } :=
      fun {_ _} => ⟨hsame.users, hsame.grants, rfl, hsame.tasks,
        fun _ => ⟨hreach.sessions, hreach.users, hreach.cache⟩⟩
    rcases SessionStore.leads_or_spent d.clock.elapsed d.sessions claims.jti with
      ⟨id, session, hptr, hlive⟩ | hspent
    · rw [SessionStore.rotate_of_live _ _ hvalid hptr hlive] at hrenewed
      rw [exchange, runOn_bind_of_ok _ _ hrenewed, runOn_completePair_eq, hids, hissued]
      exact .carriedOn haccepts hlifetimes hptr hlive rfl haside rfl
    · have hrefused := (SessionStore.rotate_of_spent d.clock.elapsed d.sessions (r := ⟨claims.jti,
        f.ids d.idCount, input.ip, input.device, d.clock.wall, expires, ttls⟩) hvalid hspent).1
      rw [hrefused] at hrenewed
      rw [exchange, runOn_bind, hrenewed]
      dsimp only
      exact .spent haccepts rfl rfl hvalid hspent rfl haside hids

/-- **All that a refresh can do.**  It fails before it exchanges its token; or its token, which is
in use, leads to no live session; or that session is carried on. -/
theorem refresh_cases (hsettled : d.Settled none) (input : Refresh) :
    RefreshCase s f d input (runOn (serve f) (refresh s input) d).1
      (runOn (serve f) (refresh s input) d).2 := by
  have hkept : SameSessions d (runOn (serve f) (prepare s input) d).2 := by
    refine (Preserves.of_asks (asksAside_prepare input) fun _ _ hq h => h.serve hq).run d ?_
    exact ⟨⟨rfl, fun _ => rfl, rfl, rfl, id⟩, rfl, Nat.le_refl _⟩
  rw [refresh_eq, runOn_bind]
  cases hprepared : runOn (serve f) (prepare s input) d with
  | mk r e =>
    rw [hprepared] at hkept
    cases r with
    | error err => exact .refused hkept
    | ok p =>
      obtain ⟨claims, issued⟩ := p
      obtain ⟨user, haccepts⟩ := accepts_of_prepare hsettled hprepared
      obtain ⟨issued', e', hprepared', hclaims, htoken, hsame, hids⟩ :=
        runOn_prepare hsettled haccepts
      rw [hprepared] at hprepared'
      obtain ⟨⟨-, rfl⟩, rfl⟩ : (claims = claims ∧ issued = issued') ∧ e = e' := by
        simpa using hprepared'
      refine exchange_cases hsame.settled.toInReach haccepts ?_ hkept hids
      rw [refreshIssued, ← hclaims, ← htoken]

end Auth
end SessionAuth
