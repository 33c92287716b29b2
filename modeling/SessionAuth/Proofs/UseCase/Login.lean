import SessionAuth.Proofs.Password.Verify
import SessionAuth.Proofs.Service.Process
import SessionAuth.Proofs.Session.Lifetimes
import SessionAuth.UseCase.Auth

/-!
# What a login does

A login with the right credentials succeeds where its tokens can be made and its session is given a
lifetime.  It opens one session, under the first of three new ids that it takes, and changes nothing
else; `runOn_login` says so.  `FirstLogin` is such a login, by the only user of a new process.
-/

set_option autoImplicit false

namespace SessionAuth
namespace Auth

open Environment Fallible Deployment Text

/-- What is left of a login when the credentials have been checked. -/
def openFor (s : Setup) (input : Login) (user : User) : UseCase Tokens := do
  checkUsable user
  let refresh ← issueRefresh s user.id
  let session ← Sessions.openSession s.sessionTtl {
    userId := user.id
    jti := refresh.claims.jti
    jtiExpiresAt := refresh.claims.expiresAt
    ip := input.ip
    device := input.device }
  completePair s user.id session refresh

theorem login_eq {s : Setup} {input : Login} (hemail : (trim input.email).isEmpty = false)
    (hpassword : input.password.isEmpty = false) : login s input =
      verifyCredentials (trim input.email) input.password >>= openFor s input := by
  simp only [login, hemail, hpassword, Bool.or_self, Bool.false_eq_true, if_false]
  rfl

/-- What has to hold for a login to succeed when the credentials have been checked. -/
structure Opens (s : Setup) (f : Supply) (d : Deployment) (user : User) (ttls : Ttls)
    (expires : Timestamp) : Prop where
  active : user.status = .active
  refresh : Codec.Issuable user.id (f.ids d.idCount) s.codec.refreshTtl
  lifetimes : Sessions.lifetimes s.sessionTtl d.clock.wall
    (Codec.claimsAt d.clock.wall .refresh user.id "" (f.ids d.idCount) s.codec.refreshTtl).expiresAt
      = .ok (ttls, expires)
  valid : ttls.isValid
  session : (f.ids (d.idCount + 1)).isEmpty = false
  access : Codec.Issuable user.id (f.ids (d.idCount + 2)) s.codec.accessTtl

/-- It does not matter what else has happened, if no id was given out and no time passed. -/
theorem Opens.of_same {s : Setup} {f : Supply} {d d' : Deployment} {user : User} {ttls : Ttls}
    {expires : Timestamp} (h : Opens s f d user ttls expires) (hids : d'.idCount = d.idCount)
    (hclock : d'.clock = d.clock) : Opens s f d' user ttls expires where
  active := h.active
  refresh := hids ▸ h.refresh
  lifetimes := hclock ▸ hids ▸ h.lifetimes
  valid := h.valid
  session := hids ▸ h.session
  access := hids ▸ h.access

/-- What has to hold for a login to succeed. -/
structure Admits (s : Setup) (f : Supply) (d : Deployment) (input : Login) (user : User)
    (ttls : Ttls) (expires : Timestamp) : Prop extends Opens s f d user ttls expires where
  email : (trim input.email).isEmpty = false
  password : input.password.isEmpty = false
  found : d.users.findByEmail? (trim input.email) = some user
  verified : Password.verify input.password user.passwordHash = .ok true

/-- The session that a login opens. -/
def sessionOf (f : Supply) (d : Deployment) (input : Login) (user : User) (expires : Timestamp) :
    Session where
  id := f.ids (d.idCount + 1)
  userId := user.id
  device := input.device
  ip := input.ip
  currentJti := f.ids d.idCount
  createdAt := d.clock.wall
  updatedAt := d.clock.wall
  expiresAt := expires

section Login

variable {s : Setup} {f : Supply} {d : Deployment} {input : Login} {user : User} {ttls : Ttls}
  {expires : Timestamp}

theorem runOn_verifyCredentials (hreach : d.InReach) (h : Admits s f d input user ttls expires) :
    runOn (serve f) (verifyCredentials (trim input.email) input.password) d = (.ok user, d) := by
  have hfind : serve f (.users (.findByEmail (trim input.email))) d = (.ok (some user), d) := by
    rw [hreach.serve_users, ← h.found]
    rfl
  rw [verifyCredentials, runOn_bind, runOn_users, hfind]
  dsimp only
  rw [h.verified]
  rfl

/-- A new token is made at once. -/
theorem runOn_issueRefresh {user : UserId}
    (h : Codec.Issuable user (f.ids d.idCount) s.codec.refreshTtl) :
    ∃ issued, runOn (serve f) (issueRefresh s user) d =
        (.ok issued, { d with idCount := d.idCount + 1 }) ∧
      issued.claims =
        Codec.claimsAt d.clock.wall .refresh user "" (f.ids d.idCount) s.codec.refreshTtl ∧
      issued.token = s.codec.encode issued.claims := by
  rw [issueRefresh, runOn_bind_of_ok _ _ (runOn_newId _ _),
    runOn_bind_of_ok _ _ (runOn_now _ _), runOn_lift]
  exact ⟨_, congrArg (·, _) (Codec.issueRefresh_of_issuable h), rfl, rfl⟩

/-- The second token of a pair is made at once. -/
theorem runOn_completePair {user : UserId} {session : String} (refresh : Codec.Issued)
    (hsession : session.isEmpty = false)
    (h : Codec.Issuable user (f.ids d.idCount) s.codec.accessTtl) :
    ∃ t, runOn (serve f) (completePair s user session refresh) d =
        (.ok t, { d with idCount := d.idCount + 1 }) ∧
      t.sessionId = session ∧ t.refreshToken = refresh.token ∧
        t.accessToken = s.codec.encode
          (Codec.claimsAt d.clock.wall .access user session (f.ids d.idCount)
            s.codec.accessTtl) := by
  have hissue : s.codec.issueAccess d.clock.wall user session (f.ids d.idCount) s.codec.accessTtl
      = _ := Codec.issueAccess_of_issuable hsession h
  rw [completePair, runOn_bind_of_ok _ _ (runOn_newId _ _),
    runOn_bind_of_ok _ _ (runOn_now _ _), runOn_bind, runOn_lift]
  simp only [serve, answer, hissue]
  exact ⟨_, rfl, rfl, rfl, rfl⟩

/-- What becomes of a request for a session. -/
theorem runOn_openSession_eq (f : Supply) (d : Deployment) (ttl : Nat) (o : Sessions.Opening) :
    runOn (serve f) (Sessions.openSession ttl o) d =
      if o.jti.isEmpty then (.error .refreshTokenIdMissing, d)
      else match Sessions.lifetimes ttl d.clock.wall o.jtiExpiresAt with
        | .error e => (.error e, d)
        | .ok (ttls, expires) =>
          if d.sessionsReachable then (.ok (f.ids d.idCount), { d with
            idCount := d.idCount + 1
            sessions := SessionStore.opened d.clock.elapsed d.sessions ⟨f.ids d.idCount, o.userId,
              o.device, o.ip, o.jti, d.clock.wall, d.clock.wall, expires⟩ ttls })
          else (.error (.unreachable .sessions), { d with idCount := d.idCount + 1 }) := by
  have hid : runOn (serve f) newId d =
    (.ok (f.ids d.idCount), { d with idCount := d.idCount + 1 }) := rfl
  rw [Sessions.openSession]
  split
  · rfl
  rw [runOn_bind_of_ok _ _ (runOn_now _ _), show (serve f .now d) = (d.clock.wall, d) from rfl]
  cases hlifetimes : Sessions.lifetimes ttl d.clock.wall o.jtiExpiresAt with
  | error e => rfl
  | ok t =>
    obtain ⟨ttls, expires⟩ := t
    rw [runOn_bind_of_ok _ _ (runOn_lift _ _ _)]
    dsimp only
    rw [runOn_bind_of_ok _ _ hid, runOn_bind, runOn_sessions]
    by_cases hreach : d.sessionsReachable
    · have hvalid : ttls.isValid := (Sessions.lifetimes_eq_ok_iff.1 hlifetimes).2.2.1
      rw [if_pos hreach, serve_sessions (by exact hreach), SessionStore.answer_create,
        if_pos hvalid]
      rfl
    · rw [if_neg hreach, serve_sessions_of_unreachable (by exact hreach)]

/-- A session is opened under a new id. -/
theorem runOn_openSession {o : Sessions.Opening} (hreach : d.InReach)
    (hjti : o.jti.isEmpty = false)
    (hlifetimes : Sessions.lifetimes s.sessionTtl d.clock.wall o.jtiExpiresAt =
      .ok (ttls, expires)) :
    runOn (serve f) (Sessions.openSession s.sessionTtl o) d = (.ok (f.ids d.idCount), { d with
      idCount := d.idCount + 1
      sessions := SessionStore.opened d.clock.elapsed d.sessions
        ⟨f.ids d.idCount, o.userId, o.device, o.ip, o.jti, d.clock.wall, d.clock.wall, expires⟩
          ttls }) := by
  rw [runOn_openSession_eq, hjti, if_neg Bool.false_ne_true, hlifetimes]
  exact if_pos hreach.sessions

variable (input) in
/-- A login whose credentials were checked opens a session. -/
theorem runOn_openFor (hreach : d.InReach) (h : Opens s f d user ttls expires) :
    ∃ t, runOn (serve f) (openFor s input user) d = (.ok t, { d with
        idCount := d.idCount + 3
        sessions := SessionStore.opened d.clock.elapsed d.sessions
          (sessionOf f d input user expires) ttls }) ∧
      t.sessionId = f.ids (d.idCount + 1) ∧
      t.refreshToken = s.codec.encode
        (Codec.claimsAt d.clock.wall .refresh user.id "" (f.ids d.idCount) s.codec.refreshTtl) ∧
      t.accessToken = s.codec.encode
        (Codec.claimsAt d.clock.wall .access user.id (f.ids (d.idCount + 1))
          (f.ids (d.idCount + 2)) s.codec.accessTtl) := by
  have husable : checkUsable user = .ok () := by rw [checkUsable, h.active]
  obtain ⟨issued, hissued, hclaims, htoken⟩ := runOn_issueRefresh (s := s) h.refresh
  have hjti : issued.claims.jti = f.ids d.idCount := congrArg Claims.jti hclaims
  rw [hclaims] at htoken
  have hreach' : InReach { d with idCount := d.idCount + 1 } :=
    ⟨hreach.sessions, hreach.users, hreach.cache⟩
  have hopened := runOn_openSession (s := s) (f := f)
    (o := ⟨user.id, issued.claims.jti, issued.claims.expiresAt, input.ip, input.device⟩) hreach'
    (hjti ▸ h.refresh.jti) (hclaims ▸ h.lifetimes)
  obtain ⟨t, ht, hid, hrefresh, haccess⟩ := runOn_completePair (s := s) (f := f) (d := { d with
    idCount := d.idCount + 2
    sessions := SessionStore.opened d.clock.elapsed d.sessions (sessionOf f d input user expires)
      ttls }) issued h.session h.access
  refine ⟨t, ?_, hid, hrefresh.trans htoken, haccess⟩
  rw [openFor, husable, runOn_bind_of_ok _ _ (runOn_lift _ _ _), runOn_bind_of_ok _ _ hissued,
    runOn_bind_of_ok _ _ hopened, hjti]
  exact ht

/-- **A login opens a session.**  With the right credentials it succeeds, and its tokens are those
of the session that it opens. -/
theorem runOn_login (hreach : d.InReach) (h : Admits s f d input user ttls expires) :
    ∃ t, runOn (serve f) (login s input) d = (.ok t, { d with
        idCount := d.idCount + 3
        sessions := SessionStore.opened d.clock.elapsed d.sessions
          (sessionOf f d input user expires) ttls }) ∧
      t.sessionId = f.ids (d.idCount + 1) ∧
      t.refreshToken = s.codec.encode
        (Codec.claimsAt d.clock.wall .refresh user.id "" (f.ids d.idCount) s.codec.refreshTtl) ∧
      t.accessToken = s.codec.encode
        (Codec.claimsAt d.clock.wall .access user.id (f.ids (d.idCount + 1))
          (f.ids (d.idCount + 2)) s.codec.accessTtl) := by
  rw [login_eq h.email h.password, runOn_bind_of_ok _ _ (runOn_verifyCredentials hreach h)]
  exact runOn_openFor input hreach h.toOpens

end Login

/-! ## A first login -/

namespace FirstLogin

open Sample

def salt : List UInt8 := List.replicate 16 0

/-- The only user of the process. -/
def user : User :=
  { account ⟨1⟩ .client with
    email := "someone@example.org"
    passwordHash := Password.hashNew salt "a password of some length" }

/-- Ids are longer and longer texts. -/
def supply : Supply where
  ids n := String.ofList (List.replicate (n + 1) 'x')
  salts _ := salt

theorem injective_ids : Function.Injective supply.ids := by
  intro m n h
  have hlength := congrArg (fun t => t.toList.length) h
  simpa [supply] using hlength

theorem isEmpty_ids (n : Nat) : (supply.ids n).isEmpty = false := by
  rw [Bool.eq_false_iff, ne_eq, String.isEmpty_iff]
  intro hempty
  have hlength := congrArg (fun id => id.toList.length) hempty
  simp [supply] at hlength

/-- A process that has just been started. -/
def process : Deployment :=
  { Deployment.start (.ofSeconds 0) ⟨2⟩ with users := (UserTable.empty ⟨2⟩).insert user }

def input : Login where
  email := "someone@example.org"
  password := "a password of some length"
  device := "laptop"
  ip := "unknown"

theorem admits : Admits setup supply process input user ⟨86400, 86400⟩ (.ofSeconds 86400) where
  email := by decide
  password := by decide
  found := rfl
  verified := Password.verify_hashNew (by decide) (by decide) _
  active := rfl
  refresh := ⟨by decide, by decide, by decide, by decide⟩
  lifetimes := by decide
  valid := by decide
  session := by decide
  access := ⟨by decide, by decide, by decide, by decide⟩

/-- The process after its first login. -/
def loggedIn : Deployment :=
  { process with
    idCount := 3
    sessions := SessionStore.opened process.clock.elapsed process.sessions
      (sessionOf supply process input user (.ofSeconds 86400)) ⟨86400, 86400⟩ }

/-- What the refresh token of the first login says. -/
def claims : Claims :=
  Codec.claimsAt (.ofSeconds 0) .refresh user.id "" "x" setup.codec.refreshTtl

theorem inReach : process.InReach := ⟨rfl, rfl, by decide⟩

/-- The first login succeeds. -/
theorem runOn_process : ∃ t, runOn (serve supply) (login setup input) process = (.ok t, loggedIn) ∧
    t.sessionId = "xx" ∧ t.refreshToken = setup.codec.encode claims ∧
      t.accessToken = setup.codec.encode (Codec.claimsAt (.ofSeconds 0) .access user.id "xx" "xxx"
        setup.codec.accessTtl) :=
  runOn_login inReach admits

end FirstLogin

end Auth
end SessionAuth
