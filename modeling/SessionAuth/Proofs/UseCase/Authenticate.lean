import SessionAuth.Proofs.Service.Run
import SessionAuth.Proofs.Token.RoundTrip
import SessionAuth.Proofs.UseCase.Login

/-!
# Who is let in

An access token lets its owner in for as long as four things last: the token has not expired, its
session is there and is the owner's, the refresh token of the session can still be exchanged, and
the account is active.  Only the first can be read off the token.  `authenticate_eq_ok_iff` says it
of a process whose cache is right, and `authenticate_iff` of every token that a service gave out,
whatever has happened since.
-/

set_option autoImplicit false

namespace SessionAuth
namespace Auth

open Environment Fallible Deployment Text

/-! ## Sessions that can be carried on -/

/-- Whether a user has a live session with a live refresh token. -/
def IsCarried (d : Deployment) (user : UserId) (id : String) : Prop :=
  ∃ session, d.sessions.session? d.clock.elapsed id = some session ∧ session.userId = user ∧
    d.sessions.hasJti d.clock.elapsed session.currentJti

variable {s : Setup} {f : Supply} {d : Deployment}

/-- A session is active if it can be carried on. -/
theorem runOn_isActive (h : d.Settled none) (user : UserId) (id : String) :
    ∃ active, (runOn (serve f) (Sessions.isActive user id) d).1 = .ok active ∧
      (active = true ↔ IsCarried d user id) := by
  have hget : serve f (.sessions (.call (.get id))) d =
      (.ok (d.sessions.session? d.clock.elapsed id),
        { d with sessions := d.sessions.purgeSession d.clock.elapsed id }) :=
    h.toInReach.serve_sessions _
  rw [Sessions.isActive, Sessions.get, runOn_bind, runOn_sessions, hget]
  cases hs : d.sessions.session? d.clock.elapsed id with
  | none => exact ⟨false, rfl, by simp [IsCarried, hs]⟩
  | some session =>
    dsimp only
    split
    · rename_i howner
      obtain ⟨e, he, -, rfl⟩ := SessionStore.session?_eq_some_iff.1 hs
      have hjti : e.value.currentJti.isEmpty = false := h.jti he
      have hpurged : Deployment.InReach
          { d with sessions := d.sessions.purgeSession d.clock.elapsed id } :=
        ⟨h.sessions, h.users, h.cache⟩
      rw [Sessions.hasJti, hjti, if_neg Bool.false_ne_true, runOn_sessions, hpurged.serve_sessions]
      refine ⟨_, rfl, ?_⟩
      simp [IsCarried, hs, howner, SessionStore.hasJti, SessionStore.pointer?]
    · rename_i howner
      exact ⟨false, rfl, by simp [IsCarried, hs, howner]⟩

/-- Asking whether a session is active changes no account. -/
theorem preserves_isActive (accounts : Table UserId User) (next : UserId) (user : UserId)
    (id : String) :
    Preserves (serve f) (SettledWith accounts next) (Sessions.isActive user id) := by
  have hasks : Asks (fun q : Question => ∃ q', q = .sessions q' ∧ IsClean (.sessions q'))
      (Sessions.isActive user id) :=
    Sessions.asks_isActive ⟨_, rfl, trivial⟩ fun _ => ⟨_, rfl, trivial⟩
  refine Preserves.of_asks hasks ?_
  rintro _ d ⟨q, rfl, hq⟩ hd
  refine ⟨hd.serve_sessions q hq, ?_, ?_⟩
  · rw [hd.toInReach.serve_sessions]
    exact hd.accounts
  · rw [hd.toInReach.serve_sessions]
    exact hd.next

/-! ## The caller of a token -/

/-- A token lets a caller in just if it is accepted, its session can be carried on, and the
repository holds the account as active; the role is that of the account. -/
theorem authenticate_eq_ok_iff (h : d.Settled none) {token : String} {caller : Caller} :
    (runOn (serve f) (authenticate s token) d).1 = .ok caller ↔
      ∃ claims, s.codec.parse d.clock.wall token .access = .ok claims ∧
        IsCarried d claims.userId claims.sessionId ∧
          ∃ user, d.users.users.get? claims.userId = some user ∧ user.status = .active ∧
            caller = ⟨claims.userId, claims.sessionId, claims.jti, user.role⟩ := by
  have hnow : serve f .now d = (d.clock.wall, d) := rfl
  rw [authenticate, runOn_bind_of_ok _ _ (runOn_now _ _), runOn_bind, runOn_lift, hnow]
  cases s.codec.parse d.clock.wall token .access with
  | error e => simp
  | ok claims =>
    obtain ⟨active, hactive, hiff⟩ :=
      runOn_isActive (f := f) h claims.userId claims.sessionId
    have hkept := (preserves_isActive (f := f) _ _ claims.userId claims.sessionId).run d
      ⟨h, rfl, rfl⟩
    simp only [Except.ok.injEq, exists_eq_left', ← hiff]
    rw [runOn_bind]
    generalize runOn (serve f) (Sessions.isActive claims.userId claims.sessionId) d = r
      at hactive hkept
    obtain ⟨r, d'⟩ := r
    subst hactive
    cases active with
    | false => simp
    | true =>
      have hchecked := (Authorization.triple_checkStatus (f := f) s.cacheTtls claims.userId _
        _).run d' hkept
      simp only [Bool.not_true, Bool.false_eq_true, if_false, true_and]
      rw [runOn_bind]
      generalize runOn (serve f) (Authorization.checkStatus s.cacheTtls claims.userId) d' = r
        at hchecked
      obtain ⟨r, d''⟩ := r
      obtain rfl := hchecked.2
      cases hverdict : Authorization.statusVerdict (d.users.users.get? claims.userId) with
      | error e =>
        constructor
        · intro hok
          cases hok
        · rintro ⟨user, huser, hstatus, _⟩
          have hfacts := Authorization.statusVerdict_eq_ok_iff.2 ⟨user, huser, hstatus, rfl⟩
          cases hverdict.symm.trans hfacts
      | ok facts =>
        obtain ⟨user, huser, hstatus, rfl⟩ := Authorization.statusVerdict_eq_ok_iff.1 hverdict
        simp [huser, hstatus, User.facts, eq_comm]

/-! ## Tokens that were given out -/

theorem inRange_claimsAt {made : Timestamp} (hdates : s.Dates made) (user : UserId)
    (session jti : String) :
    (Codec.claimsAt made .access user session jti s.codec.accessTtl).InRange :=
  Codec.inRange_claimsAt hdates.nonneg hdates.representable

/-- **Who is let in.**  Whatever has happened to a service, each access token that it has given out
lets a caller in just if it has not expired, in a time that the leeway does not exceed, its session
is live and is that of its user, the session can still be carried on, and the account is there and
active.  The caller is that of the token, in the role of the account now. -/
theorem authenticate_iff {w : Service} (h : Service.Reachable s f w) {t : Tokens}
    (ht : t ∈ w.issued) :
    ∃ claims, s.codec.verify t.accessToken = .ok claims ∧ claims.sessionId = t.sessionId ∧
      ∀ caller, (runOn (serve f) (authenticate s t.accessToken) w.process).1 = .ok caller ↔
        (w.process.clock.wall.seconds ≤ claims.expires + s.codec.leeway ∧
          s.codec.leeway ≤ w.process.clock.wall.seconds) ∧
          IsCarried w.process claims.userId claims.sessionId ∧
            ∃ user, w.process.users.users.get? claims.userId = some user ∧
              user.status = .active ∧
                caller = ⟨claims.userId, claims.sessionId, claims.jti, user.role⟩ := by
  have hsettled := Service.reachable_settled h
  obtain @⟨made, user, jti, hmade, hdates, hissuable, hsession, htoken⟩ :=
    (Service.reachable_minted h).2 t ht
  have hverify := s.codec.verify_encode (inRange_claimsAt hdates user t.sessionId jti)
  rw [← htoken] at hverify
  refine ⟨_, hverify, rfl, fun caller => ?_⟩
  rw [authenticate_eq_ok_iff hsettled]
  simp only [Codec.parse_claimsAt_iff hverify hissuable hsession hdates.nonneg hmade]
  constructor
  · rintro ⟨claims, ⟨rfl, hexpires⟩, hrest⟩
    exact ⟨hexpires, hrest⟩
  · rintro ⟨hexpires, hrest⟩
    exact ⟨_, ⟨rfl, hexpires⟩, hrest⟩

open FirstLogin Sample in
/-- The first login of a process gives out an access token that lets its owner in. -/
theorem authenticate_iff_firstLogin : ∃ w t, Service.Reachable setup supply w ∧ t ∈ w.issued ∧
    (runOn (serve supply) (authenticate setup t.accessToken) w.process).1 =
      .ok ⟨⟨1⟩, "xx", "xxx", .client⟩ := by
  have hstart : Service.Reachable setup supply ⟨process, []⟩ :=
    .start ⟨inReach, rfl, rfl, rfl, rfl, by decide, by decide⟩
  obtain ⟨t, hlogin, -, -, haccess⟩ := runOn_process
  have hperform : (⟨process, []⟩ : Service).perform setup supply ⟨2⟩ (.login input) =
      ⟨loggedIn, [t]⟩ := by
    have hrun : ((Operation.login input).body setup).runOn (serve supply) process = _ := hlogin
    have hnext : { process with users := { process.users with nextId := ⟨2⟩ } } = process := rfl
    rw [Service.perform, hnext, hrun]
    rfl
  have hfree : process.users.users.get? ⟨2⟩ = none := rfl
  have hreachable := hstart.step (.perform (.login input) hfree)
  rw [hperform] at hreachable
  obtain ⟨claims, hverify, -, hiff⟩ := authenticate_iff hreachable (List.mem_singleton_self t)
  refine ⟨_, t, hreachable, List.mem_singleton_self t, ?_⟩
  have hdates : setup.Dates (.ofSeconds 0) := ⟨by decide, by decide⟩
  rw [haccess, Codec.verify_encode _ (inRange_claimsAt hdates _ _ _)] at hverify
  obtain rfl := Except.ok.inj hverify
  have htime : (0 : Int) ≤ 900 ∧ (0 : Int) ≤ 0 := by decide
  exact (hiff _).2 ⟨htime, ⟨_, rfl, rfl, rfl⟩, user, rfl, rfl, rfl⟩

end Auth
end SessionAuth
