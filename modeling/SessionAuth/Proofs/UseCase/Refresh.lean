import SessionAuth.Proofs.Authorization.Coherence
import SessionAuth.Proofs.Token.RoundTrip
import SessionAuth.Proofs.UseCase.Login
import SessionAuth.Proofs.UseCase.Questions

/-!
# What a refresh does

A refresh has two parts.  The first finds out whether the token may be exchanged, and makes a new
one (`prepare`); the second exchanges the token (`exchange`).  Only the second changes sessions.

Whatever happens between the two, the second part goes by what the store holds then:
`runOn_exchange` says what becomes of a token that still leads to a live session, and
`runOn_exchange_spent` of one that does not.  `runOn_refresh` is a refresh that nothing comes
between.
-/

set_option autoImplicit false

namespace SessionAuth
namespace Auth

open Environment Fallible Deployment

/-! ## The two parts -/

/-- What a refresh does before it exchanges its token: the checks, and a new token. -/
def prepare (s : Setup) (input : Refresh) : UseCase (Claims × Codec.Issued) := do
  let claims ← s.codec.parse (← now) input.refreshToken .refresh
  if !(← Sessions.hasJti claims.jti) then throw .refreshTokenRevoked
  let _ ← Authorization.checkStatus s.cacheTtls claims.userId
  let issued ← issueRefresh s claims.userId
  return (claims, issued)

/-- The exchange of a token for a new one. -/
def renewal (input : Refresh) (claims : Claims) (issued : Codec.Issued) : Sessions.Renewal where
  oldJti := claims.jti
  newJti := issued.claims.jti
  jtiExpiresAt := issued.claims.expiresAt
  ip := input.ip
  device := input.device

/-- What a refresh does from the exchange on. -/
def exchange (s : Setup) (input : Refresh) (claims : Claims) (issued : Codec.Issued) :
    UseCase Tokens := do
  let session ← Sessions.renew s.sessionTtl (renewal input claims issued)
  completePair s claims.userId session issued

theorem refresh_eq (s : Setup) (input : Refresh) :
    refresh s input = prepare s input >>= fun p => exchange s input p.1 p.2 := by
  simp only [refresh, prepare, exchange, renewal, bind_assoc]
  congr 1
  funext now
  congr 1
  funext claims
  congr 1
  funext used
  cases used with
  | false => rfl
  | true => simp only [Bool.not_true, Bool.false_eq_true, if_false, bind_assoc, pure_bind]

/-! ## Before the exchange -/

/-- What has to hold for a refresh to come to its exchange. -/
structure Accepts (s : Setup) (f : Supply) (d : Deployment) (input : Refresh) (claims : Claims)
    (user : User) : Prop where
  parsed : s.codec.parse d.clock.wall input.refreshToken .refresh = .ok claims
  jti : claims.jti.isEmpty = false
  used : d.sessions.hasJti d.clock.elapsed claims.jti = true
  found : d.users.users.get? claims.userId = some user
  active : user.status = .active
  refresh : Codec.Issuable claims.userId (f.ids d.idCount) s.codec.refreshTtl

/-- A process in which nothing was changed but what the cache holds. -/
structure SameButCache (d d' : Deployment) : Prop where
  settled : d'.Settled none
  users : d'.users.users = d.users.users
  sessions : d'.sessions = d.sessions
  clock : d'.clock = d.clock

section Refresh

variable {s : Setup} {f : Supply} {d : Deployment} {input : Refresh} {claims : Claims}
  {user : User} {issued : Codec.Issued} {ttls : Ttls} {expires : Timestamp}

/-- An active user passes. -/
theorem runOn_checkStatus (h : d.Settled none)
    (huser : d.users.users.get? claims.userId = some user) (hactive : user.status = .active) :
    ∃ d', runOn (serve f) (Authorization.checkStatus s.cacheTtls claims.userId) d =
        (.ok user.facts, d') ∧ SameButCache d d' ∧ d'.idCount = d.idCount := by
  obtain ⟨hsettled, hr⟩ := (Authorization.triple_checkStatus (f := f) s.cacheTtls claims.userId
    d.users.users d.users.nextId).run d ⟨h, rfl, rfl⟩
  have hframe : Preserves (serve f)
      (fun e => e.sessions = d.sessions ∧ e.clock = d.clock ∧ e.idCount = d.idCount)
      (Authorization.checkStatus s.cacheTtls claims.userId) := by
    have hasks : Asks (fun q : Question => (∃ c, q = .users c) ∨ ∃ c, q = .cache c)
        (Authorization.checkStatus s.cacheTtls claims.userId) :=
      Authorization.asks_checkStatus (Authorization.asks_userFacts (.inr ⟨_, rfl⟩)
        (.inl ⟨_, rfl⟩) fun _ _ => .inr ⟨_, rfl⟩)
    refine Preserves.of_asks hasks ?_
    rintro _ e (⟨c, rfl⟩ | ⟨c, rfl⟩) he
    · simp only [serve, answer]
      split <;> exact he
    · exact he
  have hverdict : Authorization.statusVerdict (d.users.users.get? claims.userId) = .ok user.facts :=
    Authorization.statusVerdict_eq_ok_iff.2 ⟨user, huser, hactive, rfl⟩
  obtain ⟨hsessions, hclock, hids⟩ := hframe.run d ⟨rfl, rfl, rfl⟩
  exact ⟨_, Prod.ext (hr.trans hverdict) rfl,
    ⟨hsettled.toSettled, hsettled.accounts, hsessions, hclock⟩, hids⟩

/-- A refresh that comes to its exchange has changed no session. -/
theorem runOn_prepare (h : d.Settled none) (haccepts : Accepts s f d input claims user) :
    ∃ issued d', runOn (serve f) (prepare s input) d = (.ok (claims, issued), d') ∧
      issued.claims = Codec.claimsAt d.clock.wall .refresh claims.userId "" (f.ids d.idCount)
        s.codec.refreshTtl ∧
      issued.token = s.codec.encode issued.claims ∧
      SameButCache d d' ∧ d'.idCount = d.idCount + 1 := by
  have hhas : runOn (serve f) (Sessions.hasJti claims.jti) d = (.ok true, d) := by
    rw [Sessions.hasJti, haccepts.jti, if_neg Bool.false_ne_true, runOn_sessions,
      h.toInReach.serve_sessions, ← haccepts.used]
    rfl
  obtain ⟨e, hchecked, hsame, hids⟩ :=
    runOn_checkStatus (s := s) (f := f) h haccepts.found haccepts.active
  obtain ⟨issued, hissued, hclaims, htoken⟩ :=
    runOn_issueRefresh (s := s) (f := f) (d := e) (hids ▸ haccepts.refresh)
  have hnow : serve f .now d = (d.clock.wall, d) := rfl
  refine ⟨issued, { e with idCount := e.idCount + 1 }, ?_, hsame.clock ▸ hids ▸ hclaims, htoken,
    ⟨?_, hsame.users, hsame.sessions, hsame.clock⟩, congrArg (· + 1) hids⟩
  · rw [prepare, runOn_bind_of_ok _ _ (runOn_now _ _), hnow, haccepts.parsed,
      runOn_bind_of_ok _ _ (runOn_lift _ _ _), runOn_bind_of_ok _ _ hhas]
    simp only [Bool.not_true, Bool.false_eq_true, if_false]
    rw [runOn_bind_of_ok _ _ hchecked, runOn_bind_of_ok _ _ hissued]
    rfl
  · have hsettled := hsame.settled
    exact ⟨⟨hsettled.sessions, hsettled.users, hsettled.cache⟩, hsettled.facts, hsettled.jti⟩

/-! ## The exchange -/

/-- What the store is asked when a token is exchanged. -/
def rotation (d : Deployment) (r : Sessions.Renewal) (expires : Timestamp) (ttls : Ttls) :
    Rotation where
  oldJti := r.oldJti
  newJti := r.newJti
  ip := r.ip
  device := r.device
  updatedAt := d.clock.wall
  expiresAt := expires
  ttls := ttls

/-- What has to hold for the store to be asked for an exchange. -/
structure Renews (s : Setup) (d : Deployment) (r : Sessions.Renewal) (ttls : Ttls)
    (expires : Timestamp) : Prop where
  oldJti : r.oldJti.isEmpty = false
  newJti : r.newJti.isEmpty = false
  lifetimes : Sessions.lifetimes s.sessionTtl d.clock.wall r.jtiExpiresAt = .ok (ttls, expires)
  valid : ttls.isValid

/-- What becomes of a request to exchange a token. -/
theorem runOn_renew_eq (f : Supply) (d : Deployment) (ttl : Nat) (r : Sessions.Renewal) :
    runOn (serve f) (Sessions.renew ttl r) d =
      if r.oldJti.isEmpty || r.newJti.isEmpty then (.error .rotationIdsMissing, d)
      else match Sessions.lifetimes ttl d.clock.wall r.jtiExpiresAt with
        | .error e => (.error e, d)
        | .ok (ttls, expires) =>
          if d.sessionsReachable then
            ((d.sessions.rotate d.clock.elapsed (rotation d r expires ttls)).1, { d with
              sessions := (d.sessions.rotate d.clock.elapsed (rotation d r expires ttls)).2 })
          else (.error (.unreachable .sessions), d) := by
  rw [Sessions.renew]
  split
  · rfl
  rw [runOn_bind_of_ok _ _ (runOn_now _ _), show (serve f .now d) = (d.clock.wall, d) from rfl]
  cases Sessions.lifetimes ttl d.clock.wall r.jtiExpiresAt with
  | error e => rfl
  | ok t =>
    obtain ⟨ttls, expires⟩ := t
    rw [runOn_bind_of_ok _ _ (runOn_lift _ _ _)]
    dsimp only
    rw [runOn_sessions]
    by_cases hreach : d.sessionsReachable
    · rw [if_pos hreach, serve_sessions hreach]
      rfl
    · rw [if_neg hreach, serve_sessions_of_unreachable hreach]

theorem runOn_renew {r : Sessions.Renewal} (hreach : d.InReach) (h : Renews s d r ttls expires) :
    runOn (serve f) (Sessions.renew s.sessionTtl r) d =
      ((d.sessions.rotate d.clock.elapsed (rotation d r expires ttls)).1, { d with
        sessions := (d.sessions.rotate d.clock.elapsed (rotation d r expires ttls)).2 }) := by
  rw [runOn_renew_eq, h.oldJti, h.newJti, Bool.or_self, if_neg Bool.false_ne_true, h.lifetimes]
  exact if_pos hreach.sessions

/-- A token that still leads to a live session is exchanged. -/
theorem runOn_exchange {id : String} {session : Session} (hreach : d.InReach)
    (h : Renews s d (renewal input claims issued) ttls expires)
    (hpointer : d.sessions.pointer? d.clock.elapsed claims.jti = some id)
    (hlive : d.sessions.session? d.clock.elapsed id = some session) (hid : id.isEmpty = false)
    (haccess : Codec.Issuable claims.userId (f.ids d.idCount) s.codec.accessTtl) :
    ∃ t d', runOn (serve f) (exchange s input claims issued) d = (.ok t, d') ∧ d'.InReach ∧
      d'.clock = d.clock ∧
      d'.sessions = SessionStore.carriedOn d.clock.elapsed d.sessions
        (rotation d (renewal input claims issued) expires ttls) id session ∧
      t.sessionId = id ∧ t.refreshToken = issued.token ∧
        t.accessToken = s.codec.encode (Codec.claimsAt d.clock.wall .access claims.userId id
          (f.ids d.idCount) s.codec.accessTtl) := by
  have hrenewed := runOn_renew (f := f) hreach h
  rw [SessionStore.rotate_of_live _ _ h.valid hpointer hlive] at hrenewed
  rw [exchange, runOn_bind_of_ok _ _ hrenewed]
  obtain ⟨t, hpair, htokens⟩ := runOn_completePair (s := s) (f := f) (d := { d with
    sessions := SessionStore.carriedOn d.clock.elapsed d.sessions
      (rotation d (renewal input claims issued) expires ttls) id session }) issued hid haccess
  exact ⟨t, _, hpair, ⟨hreach.sessions, hreach.users, hreach.cache⟩, rfl, rfl, htokens⟩

/-- A token that leads to no live session is refused, also where it passed all checks before. -/
theorem runOn_exchange_spent (hreach : d.InReach)
    (h : Renews s d (renewal input claims issued) ttls expires)
    (hspent : ∀ id, d.sessions.pointer? d.clock.elapsed claims.jti = some id →
      d.sessions.session? d.clock.elapsed id = none) :
    ∃ d', runOn (serve f) (exchange s input claims issued) d =
      (.error .refreshTokenSpent, d') := by
  have hrotated := (SessionStore.rotate_of_spent _ _
    (r := rotation d (renewal input claims issued) expires ttls) h.valid hspent).1
  rw [exchange, runOn_bind, runOn_renew hreach h, hrotated]
  exact ⟨_, rfl⟩

/-- A refresh that came to its exchange asks for it, at the time at which it made the new token. -/
theorem Accepts.renews {e : Deployment} (h : Accepts s f d input claims user)
    (hclock : e.clock = d.clock)
    (hissued : issued.claims = Codec.claimsAt d.clock.wall .refresh claims.userId ""
      (f.ids d.idCount) s.codec.refreshTtl)
    (hlifetimes : Sessions.lifetimes s.sessionTtl d.clock.wall (Codec.claimsAt d.clock.wall .refresh
      claims.userId "" (f.ids d.idCount) s.codec.refreshTtl).expiresAt = .ok (ttls, expires))
    (hvalid : ttls.isValid) : Renews s e (renewal input claims issued) ttls expires where
  oldJti := h.jti
  newJti := by
    rw [renewal, hissued]
    exact h.refresh.jti
  lifetimes := by rw [renewal, hissued, hclock, hlifetimes]
  valid := hvalid

/-- **A refresh carries its session on.**  With a token that leads to a live session it succeeds, if
the account is active; from then on the new token leads to the session, and the old one to none. -/
theorem runOn_refresh {id : String} {session : Session} (hsettled : d.Settled none)
    (haccepts : Accepts s f d input claims user)
    (hlifetimes : Sessions.lifetimes s.sessionTtl d.clock.wall (Codec.claimsAt d.clock.wall .refresh
      claims.userId "" (f.ids d.idCount) s.codec.refreshTtl).expiresAt = .ok (ttls, expires))
    (hvalid : ttls.isValid)
    (hpointer : d.sessions.pointer? d.clock.elapsed claims.jti = some id)
    (hlive : d.sessions.session? d.clock.elapsed id = some session) (hid : id.isEmpty = false)
    (haccess : Codec.Issuable claims.userId (f.ids (d.idCount + 1)) s.codec.accessTtl) :
    ∃ t d', runOn (serve f) (refresh s input) d = (.ok t, d') ∧ t.sessionId = id ∧
      d'.sessions = SessionStore.carriedOn d.clock.elapsed d.sessions ⟨claims.jti, f.ids d.idCount,
        input.ip, input.device, d.clock.wall, expires, ttls⟩ id session := by
  obtain ⟨issued, e, hprepared, hclaims, -, hsame, hids⟩ := runOn_prepare hsettled haccepts
  have hrenews := haccepts.renews hsame.clock hclaims hlifetimes hvalid
  rw [← hsame.sessions, ← hsame.clock] at hpointer hlive
  obtain ⟨t, d', hexchanged, -, -, hsessions, hid, -⟩ :=
    runOn_exchange (f := f) hsame.settled.toInReach hrenews hpointer hlive hid (hids ▸ haccess)
  have hrefresh := runOn_bind_of_ok (serve f) d hprepared fun p => exchange s input p.1 p.2
  rw [← refresh_eq] at hrefresh
  refine ⟨t, d', hrefresh.trans hexchanged, hid, hsessions.trans ?_⟩
  simp only [rotation, renewal, hclaims, hsame.sessions, hsame.clock, Codec.claimsAt]

end Refresh

/-! ## Two refreshes after a first login -/

namespace FirstLogin

open Sample

theorem settled_loggedIn : loggedIn.Settled none := by
  refine ⟨⟨rfl, rfl, by decide⟩, fun _ he => (by cases he), fun {id e} he => ?_⟩
  rw [loggedIn, SessionStore.sessions_opened, Table.get?_set_eq_some_iff] at he
  rcases he with ⟨-, rfl⟩ | ⟨-, he⟩
  · decide
  · cases he

/-- A refresh with the token of the first login. -/
def again : Refresh where
  refreshToken := setup.codec.encode claims
  device := "laptop"
  ip := "unknown"

theorem verify_again : setup.codec.verify again.refreshToken = .ok claims :=
  Codec.verify_encode _ ⟨by decide, by decide, by decide⟩

theorem accepts {d : Deployment} (h : SameButCache loggedIn d)
    (hid : (supply.ids d.idCount).isEmpty = false) :
    Accepts setup supply d again claims user where
  parsed := by
    rw [h.clock]
    exact (Codec.parse_claimsAt_iff verify_again ⟨by decide, by decide, by decide, by decide⟩
      (by decide) (by decide) (by decide)).2 ⟨rfl, by decide, by decide⟩
  jti := by decide
  used := by
    rw [h.sessions, h.clock]
    rfl
  found := by
    rw [h.users]
    rfl
  active := rfl
  refresh := ⟨by decide, hid, by decide, by decide⟩

/-- Two refreshes find the token in use; the one exchanges it, and the other comes too late. -/
theorem runOn_contested : ∃ p d₁ p' d₂ t d₃ d₄,
    runOn (serve supply) (prepare setup again) loggedIn = (.ok p, d₁) ∧
      runOn (serve supply) (prepare setup again) d₁ = (.ok p', d₂) ∧
        runOn (serve supply) (exchange setup again p.1 p.2) d₂ = (.ok t, d₃) ∧
          runOn (serve supply) (exchange setup again p'.1 p'.2) d₃ =
            (.error .refreshTokenSpent, d₄) := by
  have haccepts := accepts ⟨settled_loggedIn, rfl, rfl, rfl⟩ (by decide)
  obtain ⟨issued, d₁, hprepared, hissued, -, hsame₁, hids₁⟩ :=
    runOn_prepare settled_loggedIn haccepts
  have haccepts₁ := accepts hsame₁ (by rw [hids₁]; decide)
  obtain ⟨issued', d₂, hprepared', hissued', -, hsame₂, hids₂⟩ :=
    runOn_prepare hsame₁.settled haccepts₁
  have hclock : d₂.clock = loggedIn.clock := hsame₂.clock.trans hsame₁.clock
  have hsessions : d₂.sessions = loggedIn.sessions := hsame₂.sessions.trans hsame₁.sessions
  have hrenews : Renews setup d₂ (renewal again claims issued) ⟨86400, 86400⟩ (.ofSeconds 86400) :=
    haccepts.renews hclock hissued (by decide) (by decide)
  have hpointer : d₂.sessions.pointer? d₂.clock.elapsed claims.jti = some "xx" := by
    rw [hsessions, hclock]
    rfl
  have hlive : d₂.sessions.session? d₂.clock.elapsed "xx" =
      some (sessionOf supply process input user (.ofSeconds 86400)) := by
    rw [hsessions, hclock]
    rfl
  obtain ⟨t, d₃, hexchanged, hreach, hclock₃, hcarried, -⟩ :=
    runOn_exchange (f := supply) hsame₂.settled.toInReach hrenews hpointer hlive (by decide)
      ⟨by decide, by rw [hids₂, hids₁]; decide, by decide, by decide⟩
  -- the second exchange finds no pointer
  have hspent : d₃.sessions.pointer? d₃.clock.elapsed claims.jti = none := by
    rw [hcarried]
    refine SessionStore.pointer?_carriedOn_oldJti _ _ _ _ _ (fun heq => ?_) _
    simp only [rotation, renewal, hissued] at heq
    exact absurd heq (by decide)
  have hrenews₃ : Renews setup d₃ (renewal again claims issued') ⟨86400, 86400⟩
      (.ofSeconds 86400) :=
    haccepts₁.renews (hclock₃.trans hsame₂.clock) hissued' (by rw [hsame₁.clock, hids₁]; decide)
      (by decide)
  obtain ⟨d₄, hrefused⟩ := runOn_exchange_spent (f := supply) hreach hrenews₃ fun id hid => by
    cases hspent.symm.trans hid
  exact ⟨_, d₁, _, d₂, t, d₃, d₄, hprepared, hprepared', hexchanged, hrefused⟩

end FirstLogin

end Auth
end SessionAuth
