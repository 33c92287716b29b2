import SessionAuth.Proofs.Credentials.SideBySide
import SessionAuth.Proofs.Service.History
import SessionAuth.Proofs.Session.Lifetimes
import SessionAuth.Proofs.Token.Lifetime
import SessionAuth.Proofs.UseCase.Authenticate
import SessionAuth.Time.Calendar

/-!
# What accepted settings are good for

`Settings.check` refuses settings with which tokens and sessions would be of no use.  It bounds the
lifetimes of sessions and of refresh tokens on both sides, so that these can always be given
(`Settings.bounded_of_check`).  The lifetime of access tokens is bounded on one side only, and the
leeway not at all: an access token may end where the calendar has no date for it, or where no number
holds it, and with a leeway above the present time no token is accepted.

That is all that can go wrong.  Under accepted settings a login with the right credentials gives out
tokens that are of use just if these two numbers allow for it (`usable_iff`).
-/

set_option autoImplicit false

namespace SessionAuth

open Environment Fallible Deployment Text

/-! ## Accepted settings -/

/-- The bounds of the lifetimes in accepted settings, in seconds. -/
structure Setup.Bounded (s : Setup) : Prop where
  access : 60 ≤ s.codec.accessTtl
  refresh : 3600 ≤ s.codec.refreshTtl
  refresh_le : s.codec.refreshTtl ≤ Sessions.maxTtl
  session : 3600 ≤ s.sessionTtl
  session_le : s.sessionTtl ≤ Sessions.maxTtl

namespace Settings

variable {cfg : Settings}

theorem check_eq_ok_iff : cfg.check = .ok () ↔
    minSecretSize ≤ cfg.auth.jwtSecret.utf8ByteSize ∧
      (cfg.auth.accessTtlMinutes ≠ 0 ∧ cfg.auth.refreshTtlHours ≠ 0) ∧
        cfg.session.sessionTtlHours ≠ 0 ∧ cfg.session.sessionTtlHours.toNat ≤ maxTtlHours ∧
          cfg.auth.refreshTtlHours.toNat ≤ maxTtlHours := by
  rw [check]
  split
  · exact iff_of_false (by simp) fun h => by omega
  split
  · rename_i hzero
    exact iff_of_false (by simp) fun h => hzero.elim h.2.1.1 h.2.1.2
  split
  · rename_i hzero
    exact iff_of_false (by simp) fun h => h.2.2.1 hzero
  split
  · exact iff_of_false (by simp) fun h => by omega
  · rename_i hsecret htokens hsession hlong
    rw [not_or] at htokens hlong
    exact iff_of_true rfl ⟨Nat.not_lt.1 hsecret, htokens, hsession, Nat.not_lt.1 hlong.1,
      Nat.not_lt.1 hlong.2⟩

theorem bounded_of_check (h : cfg.check = .ok ()) : (Setup.ofSettings cfg).Bounded := by
  obtain ⟨-, ⟨haccess, hrefresh⟩, hsession, hsessionLe, hrefreshLe⟩ := check_eq_ok_iff.1 h
  have htenYears : maxTtlHours * 3600 = Sessions.maxTtl := by decide
  exact {
    access := le_secondsOf haccess (by decide)
    refresh := le_secondsOf hrefresh (by decide)
    refresh_le := htenYears ▸ secondsOf_le hrefreshLe 3600
    session := le_secondsOf hsession (by decide)
    session_le := htenYears ▸ secondsOf_le hsessionLe 3600 }

end Settings

/-! ## Times -/

/-- The first second of a year. -/
def Time.yearStart (year : Int) : Int := (Date.mk year 1 1).dayNumber * 86400

/-- Whether a time is in one of the years from 2000 to 2100. -/
structure Timestamp.IsModern (t : Timestamp) : Prop where
  le : Time.yearStart 2000 ≤ t.seconds
  lt : t.seconds < Time.yearStart 2101

namespace Timestamp.IsModern

variable {t : Timestamp}

theorem nonneg (h : t.IsModern) : 0 ≤ t.seconds :=
  Int.le_trans (by decide) h.le

/-- Ten years later there is still a date. -/
theorem add_le (h : t.IsModern) {seconds : Nat} (hle : seconds ≤ Sessions.maxTtl) :
    t.seconds + seconds ≤ maxSeconds := by
  have hlast : Time.yearStart 2101 + Sessions.maxTtl ≤ maxSeconds := by decide
  have hlt := h.lt
  omega

end Timestamp.IsModern

/-- Whether the sums that are made with a time can be made: the ends of tokens have sixty-four bits
with a sign, the end of a session is a date, and what a token's times are compared with has
sixty-four bits without a sign. -/
structure Setup.Computes (s : Setup) (now : Timestamp) : Prop where
  access : now.seconds + s.codec.accessTtl ≤ maxInt64
  refresh : now.seconds + s.codec.refreshTtl ≤ maxInt64
  session : now.seconds + s.sessionTtl ≤ Timestamp.maxSeconds
  earlier : 0 ≤ now.seconds - s.codec.leeway
  later : now.seconds + s.codec.leeway < UInt64.size

namespace Auth

/-! ## Credentials that are of use -/

/-- Whether a token ends at the time that is told of it, which is still to come. -/
structure Told (s : Setup) (now : Timestamp) (token : String) (expires : Timestamp) : Prop where
  claims : ∃ claims, s.codec.verify token = .ok claims ∧ expires = .ofSeconds claims.expires
  toCome : now.nanos < expires.nanos

/-- Whether a pair of tokens does what it is for: the access token lets the user in, and the refresh
token is exchanged for a pair of the same session. -/
structure Works (s : Setup) (f : Supply) (d : Deployment) (user : User) (t : Tokens) : Prop where
  access : ∃ jti, (runOn (serve f) (authenticate s t.accessToken) d).1 =
    .ok ⟨user.id, t.sessionId, jti, user.role⟩
  refresh : ∀ device ip, ∃ t', (runOn (serve f) (refresh s ⟨t.refreshToken, device, ip⟩) d).1 =
    .ok t' ∧ t'.sessionId = t.sessionId

/-- What a login does that gives out tokens which are of use: it succeeds, tells when they end, and
they work at once, also one after the other. -/
structure GivesOut (s : Setup) (f : Supply) (d : Deployment) (input : Login) (user : User)
    (t : Tokens) (d' : Deployment) : Prop where
  login : runOn (serve f) (login s input) d = (.ok t, d')
  access : Told s d.clock.wall t.accessToken t.accessExpiresAt
  refresh : Told s d.clock.wall t.refreshToken t.refreshExpiresAt
  atOnce : Works s f d' user t
  afterwards : Works s f (runOn (serve f) (authenticate s t.accessToken) d').2 user t

/-- Whether a login gives out tokens that are of use. -/
def Usable (s : Setup) (f : Supply) (d : Deployment) (input : Login) (user : User) : Prop :=
  ∃ t d', GivesOut s f d input user t d'

/-- Whether a login is with the credentials of an active account. -/
structure Identifies (d : Deployment) (input : Login) (user : User) : Prop where
  found : d.users.findByEmail? (trim input.email) = some user
  verified : Password.verify input.password user.passwordHash = .ok true
  active : user.status = .active

/-- What accepted settings leave open: whether the input has an email and a password at all, whether
the user has an id, whether there is a date for the end of access tokens, and whether the leeway
leaves a time to compare it with. -/
structure Servable (s : Setup) (now : Timestamp) (input : Login) (user : User) : Prop where
  email : (trim input.email).isEmpty = false
  password : input.password.isEmpty = false
  subject : user.id.isNil = false
  lifetime : now.seconds + s.codec.accessTtl ≤ Timestamp.maxSeconds
  leeway : s.codec.leeway ≤ now.seconds

section Usable

variable {s : Setup} {f : Supply} {d d' e : Deployment} {input : Login} {user : User} {t : Tokens}

theorem Servable.computes (h : Servable s d.clock.wall input user) (hbounded : s.Bounded)
    (hmodern : d.clock.wall.IsModern) : s.Computes d.clock.wall := by
  have hdates : Timestamp.maxSeconds ≤ maxInt64 := by decide
  have hlater : Timestamp.maxSeconds + Timestamp.maxSeconds < UInt64.size := by decide
  have hnow := hmodern.add_le (Nat.zero_le _)
  have hleeway := h.leeway
  exact {
    access := Int.le_trans h.lifetime hdates
    refresh := Int.le_trans (hmodern.add_le hbounded.refresh_le) hdates
    session := hmodern.add_le hbounded.session_le
    earlier := by omega
    later := by omega }

/-! ### A user who is logged in -/

/-- A process in which the session of a login is as the login has left it. -/
structure IsLoggedIn (f : Supply) (d : Deployment) (user : User) (e : Deployment) : Prop where
  settled : e.Settled none
  clock : e.clock = d.clock
  account : e.users.users.get? user.id = some user
  session : ∃ session, e.sessions.session? e.clock.elapsed (f.ids (d.idCount + 1)) =
    some session ∧ session.userId = user.id ∧ session.currentJti = f.ids d.idCount
  pointer : e.sessions.pointer? e.clock.elapsed (f.ids d.idCount) = some (f.ids (d.idCount + 1))

/-- It stays so while things are only looked up. -/
theorem IsLoggedIn.unchanged (h : IsLoggedIn f d user e) {e' : Deployment} (hsame : Unchanged e e')
    (hsettled : e'.Settled none) : IsLoggedIn f d user e' where
  settled := hsettled
  clock := hsame.clock.trans h.clock
  account := hsame.users ▸ h.account
  session := by
    rw [hsame.clock, hsame.sessions.session?_eq]
    exact h.session
  pointer := by
    rw [hsame.clock, hsame.sessions.pointer?_eq]
    exact h.pointer

/-- The process after a login is such a process. -/
theorem isLoggedIn_letIn (hsettled : d.Settled none) (hkeyed : d.users.Keyed) {ttls : Ttls}
    {expires : Timestamp} (h : LetsIn s f d input user ttls expires)
    (hlogin : runOn (serve f) (login s input) d = (.ok t, letIn f d input user ttls expires)) :
    IsLoggedIn f d user (letIn f d input user ttls expires) where
  settled := by
    have hkept := (consults_login (s := s) input).preserves_settled (f := f) |>.run d hsettled
    rwa [hlogin] at hkept
  clock := rfl
  account := hkeyed.get?_of_find h.found
  session := ⟨_, session?_letIn h, rfl, rfl⟩
  pointer := pointer?_letIn h

/-! ### Tokens that were just made -/

section Now

variable {now : Timestamp} {kind : TokenKind} {id : UserId} {session jti : String} {ttl : Nat}

theorem parse_claimsAt_now (hissuable : Codec.Issuable id jti ttl)
    (hsession : session.isEmpty = decide (kind = .refresh)) (hepoch : 0 ≤ now.seconds)
    (hfits : now.seconds + ttl ≤ maxInt64) (hleeway : s.codec.leeway ≤ now.seconds) :
    s.codec.parse now (s.codec.encode (Codec.claimsAt now kind id session jti ttl)) kind =
      .ok (Codec.claimsAt now kind id session jti ttl) :=
  (Codec.inForce_claimsAt hissuable hsession hepoch hfits).accepted now hleeway
    (Int.sub_le_self _ (Int.natCast_nonneg _))
    (show now.seconds ≤ now.seconds + (ttl : Int) + s.codec.leeway by omega)

theorem told_claimsAt (hepoch : 0 ≤ now.seconds) (hpos : 0 < ttl)
    (hrange : now.seconds + ttl ≤ Timestamp.maxSeconds) :
    Told s now (s.codec.encode (Codec.claimsAt now kind id session jti ttl))
      (Codec.claimsAt now kind id session jti ttl).expiresAt := by
  have hmin : Timestamp.minSeconds ≤ now.seconds + ttl := by
    simp only [Timestamp.minSeconds]
    omega
  have hexpires : (Codec.claimsAt now kind id session jti ttl).expiresAt =
    .ofSeconds (now.seconds + ttl) := Claims.expiresAt_of_le hmin hrange
  rw [hexpires]
  refine ⟨⟨_, Codec.verify_encode _ (Codec.inRange_claimsAt hepoch ?_), rfl⟩, ?_⟩
  · exact Int.le_trans hrange (by decide)
  · simp only [Timestamp.ofSeconds, Timestamp.seconds, nanosPerSecond]
    omega

end Now

/-! ### From settings to tokens -/

section Works

variable (hbounded : s.Bounded) (hmodern : d.clock.wall.IsModern)

include hbounded hmodern

variable (f user) in
/-- The session of a refresh token can be given lifetimes. -/
theorem lifetimes_refresh (n : Nat) : Sessions.lifetimes s.sessionTtl d.clock.wall
    (Codec.claimsAt d.clock.wall .refresh user.id "" (f.ids n) s.codec.refreshTtl).expiresAt =
      .ok (⟨s.sessionTtl, d.clock.wall.secondsUntil
        (.ofSeconds (d.clock.wall.seconds + s.codec.refreshTtl))⟩,
          d.clock.wall.addSeconds s.sessionTtl) :=
  Sessions.lifetimes_claimsAt hmodern.nonneg (Nat.lt_of_lt_of_le (by decide) hbounded.session)
    hbounded.session_le (Nat.le_trans (by decide) hbounded.refresh)
    (hmodern.add_le hbounded.refresh_le)

variable (hids : ∀ n, (f.ids n).isEmpty = false)

include hids

/-- A refresh token can be made for every user who has an id. -/
theorem issuable_refresh (hsubject : user.id.isNil = false) (n : Nat) :
    Codec.Issuable user.id (f.ids n) s.codec.refreshTtl :=
  Codec.issuable_of_fits hmodern.nonneg hsubject (hids n)
    (Nat.le_trans (by decide) hbounded.refresh)
    (Int.le_trans (hmodern.add_le hbounded.refresh_le) (by decide))

theorem issuable_access (h : Servable s d.clock.wall input user) (n : Nat) :
    Codec.Issuable user.id (f.ids n) s.codec.accessTtl :=
  Codec.issuable_of_fits hmodern.nonneg h.subject (hids n)
    (Nat.le_trans (by decide) hbounded.access) (Int.le_trans h.lifetime (by decide))

/-- The tokens of a login work in it. -/
theorem IsLoggedIn.works (h : IsLoggedIn f d user e) (hactive : user.status = .active)
    (hservable : Servable s d.clock.wall input user)
    (hpair : pairOf s d.clock.wall user.id (f.ids (d.idCount + 1)) (refreshIssued s f d user.id)
      (f.ids (d.idCount + 2)) = .ok t) : Works s f e user t := by
  obtain ⟨hsession, haccess, rfl⟩ := pairOf_eq_ok_iff.1 hpair
  have hcomputes := hservable.computes hbounded hmodern
  have hrefresh := issuable_refresh hbounded hmodern hids hservable.subject
  obtain ⟨session, hlive, howner, hjti⟩ := h.session
  have hused : e.sessions.hasJti e.clock.elapsed (f.ids d.idCount) = true := by
    rw [SessionStore.hasJti, h.pointer]
    rfl
  constructor
  · refine ⟨f.ids (d.idCount + 2), (authenticate_eq_ok_iff h.settled).2
      ⟨Codec.claimsAt d.clock.wall .access user.id (f.ids (d.idCount + 1)) (f.ids (d.idCount + 2))
        s.codec.accessTtl, ?_, ⟨session, hlive, howner, hjti ▸ hused⟩, user, h.account, hactive,
          rfl⟩⟩
    rw [h.clock]
    exact parse_claimsAt_now haccess hsession hmodern.nonneg hcomputes.access hservable.leeway
  · intro device ip
    have haccepts : Accepts s f e ⟨(refreshIssued s f d user.id).token, device, ip⟩
        (refreshIssued s f d user.id).claims user := {
      parsed := by
        rw [h.clock]
        exact parse_claimsAt_now (hrefresh _) rfl hmodern.nonneg hcomputes.refresh
          hservable.leeway
      jti := hids _
      used := hused
      found := h.account
      active := hactive
      refresh := hrefresh _ }
    have hlifetimes := lifetimes_refresh f user hbounded hmodern e.idCount
    rw [← h.clock] at hlifetimes
    obtain ⟨t', e', hrun, hid, -⟩ := runOn_refresh h.settled haccepts hlifetimes
      (lifetimes_isValid hlifetimes) h.pointer hlive (hids _)
      (issuable_access hbounded hmodern hids hservable _)
    exact ⟨t', congrArg Prod.fst hrun, hid⟩

theorem usable_of_servable (hsettled : d.Settled none) (hkeyed : d.users.Keyed)
    (hidentifies : Identifies d input user) (h : Servable s d.clock.wall input user) :
    Usable s f d input user := by
  have hlifetimes := lifetimes_refresh f user hbounded hmodern d.idCount
  have hadmits : Admits s f d input user _ _ := {
    active := hidentifies.active
    refresh := issuable_refresh hbounded hmodern hids h.subject _
    lifetimes := hlifetimes
    valid := lifetimes_isValid hlifetimes
    session := hids _
    access := issuable_access hbounded hmodern hids h _
    email := h.email
    password := h.password
    found := hidentifies.found
    verified := hidentifies.verified }
  obtain ⟨t, hlogin, -⟩ := runOn_login hsettled.toInReach hadmits
  obtain ⟨user', ttls, expires, hin, hpair, hd'⟩ := login_eq_ok hsettled.toInReach hlogin
  obtain rfl : user' = user := Option.some.inj (hin.found.symm.trans hidentifies.found)
  rw [hd'] at hlogin
  have hloggedIn := isLoggedIn_letIn hsettled hkeyed hin hlogin
  refine ⟨t, _, hlogin, ?_, ?_, ?_, ?_⟩
  · obtain ⟨-, haccess, rfl⟩ := pairOf_eq_ok_iff.1 hpair
    exact told_claimsAt hmodern.nonneg haccess.ttl_pos h.lifetime
  · obtain ⟨-, -, rfl⟩ := pairOf_eq_ok_iff.1 hpair
    exact told_claimsAt hmodern.nonneg hin.refresh.ttl_pos (hmodern.add_le hbounded.refresh_le)
  · exact hloggedIn.works hbounded hmodern hids hidentifies.active h hpair
  · have hlooked := (preserves_unchanged (f := f) (looks_authenticate (s := s) t.accessToken)).run _
      (.refl (letIn f d input user' ttls expires))
    have hkept := (consults_authenticate (s := s) t.accessToken).preserves_settled (f := f) |>.run _
      hloggedIn.settled
    exact (hloggedIn.unchanged hlooked hkept).works hbounded hmodern hids hidentifies.active h hpair

end Works

/-! ### And back -/

/-- Where the end of an access token is out of range, it is told as the earliest time. -/
theorem accessExpiresAt_of_lt {now : Timestamp} {id : UserId} {session jti : String}
    {issued : Codec.Issued} (hpair : pairOf s now id session issued jti = .ok t)
    (hlate : Timestamp.maxSeconds < now.seconds + s.codec.accessTtl) :
    t.accessExpiresAt = .earliest := by
  obtain ⟨-, -, rfl⟩ := pairOf_eq_ok_iff.1 hpair
  exact Claims.expiresAt_of_lt (c := Codec.claimsAt now .access id session jti s.codec.accessTtl)
    hlate

/-- A login that succeeds has an email and a password. -/
theorem present_of_login (h : runOn (serve f) (login s input) d = (.ok t, d')) :
    (trim input.email).isEmpty = false ∧ input.password.isEmpty = false := by
  refine Bool.or_eq_false_iff.1 (Bool.eq_false_iff.2 fun hmissing => ?_)
  simp only [login, hmissing] at h
  cases h

theorem servable_of_usable (hsettled : d.Settled none) (hkeyed : d.users.Keyed)
    (hmodern : d.clock.wall.IsModern)
    (hfound : d.users.findByEmail? (trim input.email) = some user)
    (h : Usable s f d input user) : Servable s d.clock.wall input user := by
  obtain ⟨t, d', hlogin, htold, -, hworks, -⟩ := h
  obtain ⟨hemail, hpassword⟩ := present_of_login hlogin
  obtain ⟨user', ttls, expires, hin, hpair, rfl⟩ := login_eq_ok hsettled.toInReach hlogin
  obtain rfl : user' = user := Option.some.inj (hin.found.symm.trans hfound)
  refine ⟨hemail, hpassword, hin.refresh.user, Int.not_lt.1 fun hlate => ?_, ?_⟩
  · refine absurd htold.toCome (Int.not_lt.2 ?_)
    rw [accessExpiresAt_of_lt hpair hlate]
    exact Timestamp.earliest_le hmodern.nonneg
  · obtain ⟨jti, haccess⟩ := hworks.access
    have hloggedIn := isLoggedIn_letIn hsettled hkeyed hin hlogin
    obtain ⟨claims, hparsed, -⟩ := (authenticate_eq_ok_iff hloggedIn.settled).1 haccess
    exact (Codec.validate_eq_ok_iff.1 (Codec.parse_eq_ok_iff.1 hparsed).2.1).1.2.2

/-- **What accepted settings are good for.**  Under settings that pass the check, in a process with
any accounts and sessions whose cache is right, and at any time from 2000 to 2100, the user of an
active account logs in with its password.  The login succeeds, the ends of both tokens are told and
to come, and an immediate authentication and an immediate refresh succeed, just if email, password
and the id of the user are not empty, the end of the access token is a date, and the leeway does not
exceed the present time.  All sums on the way can then be made. -/
theorem usable_iff {cfg : Settings} (hcheck : cfg.check = .ok ())
    (hids : ∀ n, (f.ids n).isEmpty = false) (hsettled : d.Settled none) (hkeyed : d.users.Keyed)
    (hmodern : d.clock.wall.IsModern) (hidentifies : Identifies d input user) :
    (Usable (.ofSettings cfg) f d input user ↔
      Servable (.ofSettings cfg) d.clock.wall input user) ∧
    (Servable (.ofSettings cfg) d.clock.wall input user →
      (Setup.ofSettings cfg).Computes d.clock.wall) := by
  have hbounded := Settings.bounded_of_check hcheck
  refine ⟨⟨fun h => ?_, fun h => ?_⟩, fun h => h.computes hbounded hmodern⟩
  · exact servable_of_usable hsettled hkeyed hmodern hidentifies.found h
  · exact usable_of_servable hbounded hmodern hids hsettled hkeyed hidentifies h

end Usable

/-! ### A first login under accepted settings -/

namespace FirstLogin

/-- Settings with no more than a secret. -/
def plain : Settings where
  database := { url := "postgres://unused" }
  auth := { jwtSecret := "world-secret-that-is-at-least-32-bytes!" }

/-- Settings with a lifetime of access tokens of almost two million years. -/
def longLived : Settings :=
  { plain with auth := { plain.auth with accessTtlMinutes := 1000000000000 } }

/-- A process that has just been started, in November 2023. -/
def process2023 : Deployment := { process with clock := .start (.ofSeconds 1700000000) }

theorem settled_process2023 : process2023.Settled none :=
  ⟨⟨rfl, rfl, by decide⟩, fun _ he => (by cases he), fun he => (by cases he)⟩

theorem keyed_process2023 : process2023.users.Keyed := (UserTable.keyed_empty _).insert _

theorem isModern_process2023 : process2023.clock.wall.IsModern := ⟨by decide, by decide⟩

theorem identifies_process2023 : Identifies process2023 input user := ⟨rfl, admits.verified, rfl⟩

end FirstLogin

open FirstLogin

/-- With no more than a secret the tokens of the first login are of use. -/
theorem usable_iff_plain : plain.check = .ok () ∧
    Usable (.ofSettings plain) supply process2023 input FirstLogin.user ∧
    (Setup.ofSettings plain).Computes (.ofSeconds 1700000000) := by
  have hservable : Servable (.ofSettings plain) process2023.clock.wall input FirstLogin.user :=
    ⟨by decide, by decide, by decide, by decide, by decide⟩
  have hcheck : plain.check = .ok () := rfl
  obtain ⟨hiff, hcomputes⟩ := usable_iff hcheck isEmpty_ids settled_process2023
    keyed_process2023 isModern_process2023 identifies_process2023
  exact ⟨hcheck, hiff.2 hservable, hcomputes hservable⟩

/-- With an access token for millions of years the first login succeeds, but tells an end of the
token that is long over. -/
theorem not_always_usable : longLived.check = .ok () ∧ process2023.Settled none ∧
    process2023.users.Keyed ∧ process2023.clock.wall.IsModern ∧
    Identifies process2023 input FirstLogin.user ∧
    (∃ t d', runOn (serve supply) (login (.ofSettings longLived) input) process2023 = (.ok t, d') ∧
      t.accessExpiresAt = .earliest) ∧
    ¬ Usable (.ofSettings longLived) supply process2023 input FirstLogin.user := by
  have hcheck : longLived.check = .ok () := rfl
  refine ⟨hcheck, settled_process2023, keyed_process2023, isModern_process2023,
    identifies_process2023, ?_, fun h => ?_⟩
  · have hlifetimes := lifetimes_refresh supply FirstLogin.user (d := process2023)
      (Settings.bounded_of_check hcheck) isModern_process2023 process2023.idCount
    have hadmits : Admits (.ofSettings longLived) supply process2023 input FirstLogin.user _ _ := {
      active := rfl
      refresh := ⟨by decide, by decide, by decide, by decide⟩
      lifetimes := hlifetimes
      valid := lifetimes_isValid hlifetimes
      session := by decide
      access := ⟨by decide, by decide, by decide, by decide⟩
      email := by decide
      password := by decide
      found := rfl
      verified := admits.verified }
    obtain ⟨t, hlogin, -⟩ := runOn_login settled_process2023.toInReach hadmits
    obtain ⟨_, _, _, -, hpair, -⟩ := login_eq_ok settled_process2023.toInReach hlogin
    exact ⟨t, _, hlogin, accessExpiresAt_of_lt hpair (by decide)⟩
  · have hlifetime := (servable_of_usable settled_process2023 keyed_process2023
      isModern_process2023 identifies_process2023.found h).lifetime
    exact absurd hlifetime (by decide)

end Auth
end SessionAuth
