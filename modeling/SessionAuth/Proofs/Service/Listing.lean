import SessionAuth.Proofs.Service.Confinement
import SessionAuth.Proofs.Session.Deletion
import SessionAuth.Proofs.Session.Ordering
import SessionAuth.Proofs.UseCase.Authenticate

/-!
# Listing one's own sessions

A caller who was just authenticated, in a role that may list sessions, is shown exactly the own live
sessions, the one that was used last first (`IsListing`).  The session of the caller is one of them,
since nobody is authenticated whose session is not live.  If one of the sessions is carried on by its
refresh token, the next list has it in front of all that were not used in the same moment or later,
and is otherwise as the one before (`MovesUp`).

`Service.sessions_listed` is about a run of the service: the caller is authenticated, lists the
sessions, one of these is carried on, and they are listed again.
-/

set_option autoImplicit false

namespace SessionAuth

open Environment Fallible Deployment Authorization
open SessionStore (SameBut)

/-! ## Authority is enough -/

namespace Authorization

variable {f : Supply} {d : Deployment} {user : UserId} {u : User}

/-- Without the cache an active account is found to be active. -/
theorem runOn_checkStatus_of_active (ttls : CacheTtls) (hreach : d.InReach)
    (hu : d.users.users.get? user = some u) (hactive : u.status = .active) :
    (uncached (checkStatus ttls user)).runOn (serve f) d =
      (.ok u.facts, { d with users := { d.users with lookups := d.users.lookups + 1 } }) := by
  have hfind : serve f (.users (.findById user)) d = (.ok (some u),
      { d with users := { d.users with lookups := d.users.lookups + 1 } }) :=
    hu ▸ hreach.serve_users (.findById user)
  have hfacts : (storedFacts user).runOn (serve f) d = (.ok u.facts,
      { d with users := { d.users with lookups := d.users.lookups + 1 } }) := by
    rw [storedFacts, runOn_bind, runOn_users, hfind]
    rfl
  have hstatus : u.facts.status = .active := hactive
  rw [checkStatus, uncached_bind, uncached_attempt, uncached_userFacts,
    runOn_bind_of_ok _ _ (runOn_attempt _ _ _), hfacts]
  simp only [hstatus]
  rfl

/-- Without the cache those who hold a permission get through. -/
theorem runOn_authorize_of_held (ttls : CacheTtls) {required : Permission} (hreach : d.InReach)
    (hu : d.users.users.get? user = some u) (hactive : u.status = .active)
    (hheld : ∃ held ∈ (d.grants.ofRole u.role).toList, held.grants required = true) :
    ∃ d', (uncached (authorize ttls user required)).runOn (serve f) d = (.ok u.facts, d') ∧
      d'.sessions = d.sessions ∧ d'.clock = d.clock ∧ d'.sessionsReachable = true := by
  let found : Deployment := { d with users := { d.users with lookups := d.users.lookups + 1 } }
  let asked : Deployment :=
    { found with grants := { d.grants with lookups := d.grants.lookups + 1 } }
  have hasked : (uncached (rolePermissions ttls u.role)).runOn (serve f) found =
      (.ok (d.grants.ofRole u.role).toList, asked) := by
    rw [uncached_rolePermissions, runOn_grants]
    rfl
  have hany : (d.grants.ofRole u.role).toList.any (·.grants required) = true :=
    List.any_eq_true.2 hheld
  have hrole : u.facts.role = u.role := rfl
  refine ⟨asked, ?_, rfl, rfl, hreach.sessions⟩
  rw [authorize, uncached_bind,
    runOn_bind_of_ok _ _ (runOn_checkStatus_of_active ttls hreach hu hactive), hrole, uncached_bind,
    runOn_bind_of_ok _ _ hasked, if_pos hany]
  rfl

end Authorization

/-! ## Lists -/

/-- Whether `views` are the sessions of a caller: exactly the live ones, each once, those that were
used last first, one of which is marked, the caller's. -/
structure IsListing (d : Deployment) (c : Caller) (views : List SessionView) : Prop where
  mem_iff : ∀ view, view ∈ views ↔ ∃ session,
    d.sessions.session? d.clock.elapsed session.id = some session ∧ session.userId = c.userId ∧
      session.view c.sessionId = view
  nodup : (views.map (·.id)).Nodup
  ordered : views.Pairwise (ComesBefore SessionView.updatedAt SessionView.id)
  current : ∃ own, views.filter (·.current) = [own] ∧ own.id = c.sessionId

/-- Whether the second list is the first in which one session was used at the given time: it comes
before all that were used earlier, and the others are as they were. -/
def MovesUp (time : Timestamp) (id : String) (views views' : List SessionView) : Prop :=
  ∃ moved before after, views' = before ++ moved :: after ∧ moved.id = id ∧
    moved.updatedAt = time ∧ before ++ after = views.filter (·.id ≠ id) ∧
      ∀ other ∈ before, compare other.updatedAt time ≠ .lt

section Listing

variable {d d' : Deployment} {c : Caller}

/-- The sessions of a caller who has a live session are shown as they should be. -/
theorem isListing_latest (h : SessionStore.Listable d.clock.elapsed d.sessions) {own : Session}
    (hlive : d.sessions.session? d.clock.elapsed c.sessionId = some own)
    (hown : own.userId = c.userId) :
    IsListing d c ((d.sessions.latest d.clock.elapsed c.userId).map (·.view c.sessionId)) := by
  have hids := SessionStore.nodup_map_id_latest h c.userId
  have hid := h.id_eq hlive
  refine ⟨fun view => ?mem_iff, ?nodup, ?ordered, own.view c.sessionId, ?current, hid⟩
  case mem_iff =>
    rw [List.mem_map]
    exact exists_congr fun session => by rw [SessionStore.mem_latest h, and_assoc]
  case nodup => rwa [List.map_map]
  case ordered => exact List.pairwise_map.2 (SessionStore.latest_comesBefore h c.userId)
  case current =>
    have hmem : own ∈ d.sessions.latest d.clock.elapsed c.userId :=
      (SessionStore.mem_latest h).2 ⟨hid.symm ▸ hlive, hown⟩
    have hcurrent : (SessionView.current ∘ fun session : Session => session.view c.sessionId) =
        fun session => decide (session.id = own.id) := by
      rw [hid]
      rfl
    rw [List.filter_map, hcurrent, Session.filter_id_eq hids hmem, List.map_singleton]

/-- What is shown after one session was touched, if that is live. -/
theorem movesUp_latest {session : Session} (hclock : d'.clock = d.clock)
    (hsame : SessionStore.SameBut d.clock.elapsed (· = session.id) d.sessions d'.sessions)
    (h : SessionStore.Listable d.clock.elapsed d.sessions)
    (h' : SessionStore.Listable d'.clock.elapsed d'.sessions)
    (hlive : d'.sessions.session? d.clock.elapsed session.id = some session)
    (hown : session.userId = c.userId) :
    MovesUp session.updatedAt session.id
      ((d.sessions.latest d.clock.elapsed c.userId).map (·.view c.sessionId))
      ((d'.sessions.latest d'.clock.elapsed c.userId).map (·.view c.sessionId)) := by
  rw [hclock] at h' ⊢
  obtain ⟨before, after, hlatest, hothers, hbefore⟩ :=
    SessionStore.latest_of_sameBut hsame h h' hlive
  rw [hown] at hlatest hothers
  refine ⟨session.view c.sessionId, before.map (·.view c.sessionId), after.map (·.view c.sessionId),
    ?_, rfl, rfl, ?_, ?_⟩
  · rw [hlatest, List.map_append, List.map_cons]
  · rw [← List.map_append, hothers, List.filter_map]
    rfl
  · rintro _ hother
    obtain ⟨other, hmem, rfl⟩ := List.mem_map.1 hother
    exact hbefore other hmem

end Listing

/-! ## Runs -/

theorem Deployment.Holds.of_sameAside {d d' : Deployment} (h : SameAside d d') {user : UserId}
    {permission : Permission} (hholds : d.Holds user permission) : d'.Holds user permission := by
  obtain ⟨u, hu, hactive, hheld⟩ := hholds
  exact ⟨u, h.users ▸ hu, hactive, by rwa [h.grants]⟩

namespace Auth

variable {s : Setup} {f : Supply} {d d' : Deployment}

/-- A refresh that succeeded has carried the session on that its tokens are of. -/
theorem RefreshCase.carries {input : Refresh} {r : Except Error Tokens}
    (h : RefreshCase s f d input r d') {t : Tokens} (hr : r = .ok t) :
    ∃ session rotation, d.sessions.session? d.clock.elapsed t.sessionId = some session ∧
      d.sessions.pointer? d.clock.elapsed rotation.oldJti = some t.sessionId ∧
      rotation.newJti = f.ids d.idCount ∧ rotation.updatedAt = d.clock.wall ∧
      rotation.ttls.isValid ∧ SameAside d d' ∧
      d'.sessions = SessionStore.carriedOn d.clock.elapsed d.sessions rotation t.sessionId
        session := by
  cases h with
  | refused => cases hr
  | spent => cases hr
  | carriedOn _ hlifetimes hpointer hlive hsessions haside =>
    obtain ⟨-, -, rfl⟩ := pairOf_eq_ok_iff.1 hr
    exact ⟨_, _, hlive, hpointer, rfl, rfl, lifetimes_isValid hlifetimes, haside, hsessions⟩

end Auth

namespace Service

variable {s : Setup} {f : Supply} {w : Service} {next : UserId} {c : Caller}

/-- A caller with the authority for it is shown the own sessions. -/
theorem result_listSessions (h : Reachable s f w)
    (hnext : w.process.users.users.get? next = none)
    (hholds : w.process.Holds c.userId .sessionRead) :
    w.result s f next (.listSessions c) = .ok
      ((w.process.sessions.latest w.process.clock.elapsed c.userId).map (·.view c.sessionId)) := by
  obtain ⟨u, hu, hactive, hpermission⟩ := hholds
  have hheld : ∃ held ∈ ((w.ready next).grants.ofRole u.role).toList,
      held.grants .sessionRead = true := by
    rcases hpermission with hmem | hmem
    · exact ⟨_, hmem, Permission.grants_iff.2 (.inr rfl)⟩
    · exact ⟨_, hmem, Permission.grants_iff.2 (.inl rfl)⟩
  obtain ⟨d', hauthorized, hsessions, hclock, hreach⟩ := Authorization.runOn_authorize_of_held
    (f := f) s.cacheTtls (h.inReach_ready next) hu hactive hheld
  have hviews : Asks SparesCache (Sessions.views c.userId c.sessionId) :=
    Asks.bind (asks_call trivial) fun _ => asks_pure _
  refine (perform_uncached h (.listSessions c) hnext).trans ?_
  show ((uncached (OwnSessions.list s c)).runOn (serve f) (w.ready next)).1 = _
  rw [OwnSessions.list, uncached_bind, runOn_bind_of_ok _ _ hauthorized, uncached_eq_self hviews,
    Sessions.views, runOn_bind_of_ok _ _ (Sessions.runOn_ofUser hreach c.userId), hsessions, hclock]
  rfl

/-- An operation that only looks things up leaves the process unchanged. -/
theorem perform_unchanged {d : Deployment} (h : Unchanged d w.process) {α : Type} (op : Operation α)
    (hlooks : Asks Looks (op.body s)) : Unchanged d (w.perform s f next op).process := by
  refine (preserves_unchanged hlooks).run (w.ready next)
    ⟨⟨h.users, h.grants, h.clock, h.tasks, fun hreach => ?_⟩, h.sessions⟩
  exact ⟨(h.inReach hreach).sessions, (h.inReach hreach).users, (h.inReach hreach).cache⟩

/-- A refresh that succeeds touches the session that it carries on, which is live and has been used
at that time. -/
theorem sameBut_refresh (hf : Function.Injective f.ids) (h : Reachable s f w)
    {input : Auth.Refresh} {t : Auth.Tokens} (hrefreshed : w.result s f next (.refresh input) = .ok t) :
    let d' := (w.perform s f next (.refresh input)).process
    ∃ session session', w.process.sessions.session? w.process.clock.elapsed t.sessionId =
        some session ∧
      d'.sessions.session? w.process.clock.elapsed t.sessionId = some session' ∧
      session'.id = session.id ∧ session'.userId = session.userId ∧
      session'.updatedAt = w.process.clock.wall ∧ SameAside w.process d' ∧
      SameBut w.process.clock.elapsed (· = t.sessionId) w.process.sessions d'.sessions := by
  intro d'
  obtain ⟨session, r, hlive, hpointer, hnew, htime, hvalid, haside, hsessions⟩ :=
    (refreshCase h next input).carries hrefreshed
  have hlater := (SessionStore.lt_deadlines w.process.clock.elapsed hvalid).1
  refine ⟨session, session.rotated r, hlive, ?live, rfl, rfl, htime, ?aside, ?sameBut⟩
  case live =>
    rw [hsessions, SessionStore.session?_eq_some_iff, SessionStore.sessions_carriedOn]
    exact ⟨_, Table.get?_set_eq_some_iff.2 (.inl ⟨rfl, rfl⟩), hlater, rfl⟩
  case aside =>
    exact ⟨haside.users, haside.grants, haside.clock, haside.tasks,
      fun hreach => haside.inReach ⟨hreach.sessions, hreach.users, hreach.cache⟩⟩
  case sameBut =>
    rw [hsessions]
    exact .carriedOn session hpointer (hnew ▸ (unheard hf h (Nat.le_refl _)).2)

/-- A caller who was authenticated has a live session, and the authority that goes with the role. -/
theorem holds_of_authenticate (h : Reachable s f w) {token : String} {permission : Permission}
    (hauthenticated : w.result s f next (.authenticate token) = .ok c)
    (hgranted : permission ∈ (w.process.grants.ofRole c.role).toList ∨
      .fullAccess ∈ (w.process.grants.ofRole c.role).toList) :
    w.process.Holds c.userId permission ∧ ∃ own,
      w.process.sessions.session? w.process.clock.elapsed c.sessionId = some own ∧
        own.userId = c.userId := by
  obtain ⟨claims, -, ⟨own, hlive, howner, -⟩, u, hu, hactive, rfl⟩ :=
    (Auth.authenticate_eq_ok_iff (h.settled_ready next)).1 hauthenticated
  exact ⟨⟨u, hu, hactive, hgranted⟩, own, hlive, howner⟩

/-- After a session was carried on that was shown, it is shown again, and further up. -/
theorem listed_after_refresh (hf : Function.Injective f.ids) (h : Reachable s f w)
    (hnext : w.process.users.users.get? next = none)
    (hholds : w.process.Holds c.userId .sessionRead) {own : Session}
    (hlive : w.process.sessions.session? w.process.clock.elapsed c.sessionId = some own)
    (howner : own.userId = c.userId) {input : Auth.Refresh} {t : Auth.Tokens}
    (hrefreshed : w.result s f next (.refresh input) = .ok t)
    (hshown : ∃ shown ∈ w.process.sessions.latest w.process.clock.elapsed c.userId,
      shown.id = t.sessionId) :
    let w' := w.perform s f next (.refresh input)
    ∃ views', w'.result s f next (.listSessions c) = .ok views' ∧
      IsListing w'.process c views' ∧ MovesUp w.process.clock.wall t.sessionId
        ((w.process.sessions.latest w.process.clock.elapsed c.userId).map (·.view c.sessionId))
          views' := by
  intro w'
  obtain ⟨session, session', hbefore, hafter, hid, hsameOwner, htime, haside, hsame⟩ :=
    sameBut_refresh hf h hrefreshed
  have h' : Reachable s f w' := h.step (.perform _ hnext)
  have hnext' : w'.process.users.users.get? next = none := haside.users ▸ hnext
  have hlist := listable hf h
  have hlist' := listable hf h'
  -- the session that was carried on is one of the caller's, since it was shown
  have hmine : session'.userId = c.userId := by
    obtain ⟨shown, hmem, hshownId⟩ := hshown
    obtain ⟨hshownLive, hshownOwner⟩ := (SessionStore.mem_latest hlist).1 hmem
    rw [hshownId, hbefore] at hshownLive
    rw [hsameOwner, Option.some.inj hshownLive, hshownOwner]
  -- the caller's own session is that one, or untouched
  obtain ⟨own', hlive', howner'⟩ : ∃ own',
      w'.process.sessions.session? w'.process.clock.elapsed c.sessionId = some own' ∧
        own'.userId = c.userId := by
    rw [haside.clock]
    by_cases heq : c.sessionId = t.sessionId
    · exact ⟨session', heq ▸ hafter, hmine⟩
    · exact ⟨own, (hsame.session?_eq heq).trans hlive, howner⟩
  have hid' : session'.id = t.sessionId := hid.trans (hlist.id_eq hbefore)
  rw [← hid'] at hsame hafter
  rw [← htime, ← hid']
  exact ⟨_, result_listSessions h' hnext' (hholds.of_sameAside haside),
    isListing_latest hlist' hlive' howner',
    movesUp_latest haside.clock hsame hlist hlist' hafter hmine⟩

/-! ### After a first login -/

section FirstLogin

open Auth.FirstLogin Sample

/-- A process whose users may list their sessions. -/
def listing : Deployment :=
  { Auth.FirstLogin.process with
    grants := Auth.FirstLogin.process.grants.assign .client (.ofList [.sessionRead]) }

/-- The same after a first login. -/
def listed : Deployment := { loggedIn with grants := listing.grants }

theorem login_listing : ∃ t : Auth.Tokens, t.accessToken = setup.codec.encode
    (Codec.claimsAt (.ofSeconds 0) .access user.id "xx" "xxx" setup.codec.accessTtl) ∧
      (⟨listing, []⟩ : Service).perform setup supply ⟨2⟩ (.login input) = ⟨listed, [t]⟩ := by
  have hopens : Auth.Opens setup supply listing user ⟨86400, 86400⟩ (.ofSeconds 86400) :=
    ⟨admits.active, admits.refresh, admits.lifetimes, admits.valid, admits.session, admits.access⟩
  have hadmits : Auth.Admits setup supply listing input user ⟨86400, 86400⟩ (.ofSeconds 86400) :=
    ⟨hopens, admits.email, admits.password, admits.found, admits.verified⟩
  obtain ⟨t, hlogin, -, -, haccess⟩ := Auth.runOn_login ⟨rfl, rfl, by decide⟩ hadmits
  have hready : (⟨listing, []⟩ : Service).ready ⟨2⟩ = listing := rfl
  exact ⟨t, haccess, (perform_of_ok hready (.login input) hlogin).2⟩

/-- As long as nothing but looking up is done, the token of the first login can be exchanged. -/
theorem refresh_listed (h : Reachable setup supply w) (hsame : Unchanged listed w.process) :
    ∃ t, w.result setup supply ⟨2⟩ (.refresh again) = .ok t ∧ t.sessionId = "xx" := by
  have hclock : (w.ready ⟨2⟩).clock = loggedIn.clock := hsame.clock
  have haccepts : Auth.Accepts setup supply (w.ready ⟨2⟩) again claims user := by
    refine ⟨?_, by decide, ?_, ?_, rfl, by decide, isEmpty_ids _, by decide, by decide⟩
    · exact hclock ▸ (accepts ⟨settled_loggedIn, rfl, rfl, rfl⟩ (by decide)).parsed
    · exact (hsame.hasJti_eq claims.jti).trans rfl
    · exact (congrArg (·.get? claims.userId) hsame.users).trans rfl
  have hlifetimes : Sessions.lifetimes setup.sessionTtl loggedIn.clock.wall (Codec.claimsAt
      loggedIn.clock.wall .refresh claims.userId "" (supply.ids (w.ready ⟨2⟩).idCount)
        setup.codec.refreshTtl).expiresAt = .ok (⟨86400, 86400⟩, .ofSeconds 86400) := rfl
  rw [← hclock] at hlifetimes
  have hpointer : (w.ready ⟨2⟩).sessions.pointer? (w.ready ⟨2⟩).clock.elapsed claims.jti =
      some "xx" := by
    rw [hclock]
    exact (hsame.sessions.pointer?_eq claims.jti).trans rfl
  have hlive : (w.ready ⟨2⟩).sessions.session? (w.ready ⟨2⟩).clock.elapsed "xx" =
      some (Auth.sessionOf supply Auth.FirstLogin.process input user (.ofSeconds 86400)) := by
    rw [hclock]
    exact (hsame.sessions.session?_eq "xx").trans rfl
  obtain ⟨t, d, hagain, hid, -⟩ := Auth.runOn_refresh (h.settled_ready ⟨2⟩) haccepts hlifetimes
    (by decide) hpointer hlive (by decide) ⟨by decide, isEmpty_ids _, by decide, by decide⟩
  exact ⟨t, (perform_of_ok rfl (.refresh again) hagain).1, hid⟩

theorem authenticate_listed (hsettled : listed.Settled none) :
    ((Auth.authenticate setup (setup.codec.encode (Codec.claimsAt (.ofSeconds 0) .access user.id
      "xx" "xxx" setup.codec.accessTtl))).runOn (serve supply) listed).1 =
        .ok ⟨⟨1⟩, "xx", "xxx", .client⟩ := by
  have hdates : setup.Dates (.ofSeconds 0) := ⟨by decide, by decide⟩
  have hverify := setup.codec.verify_encode (Auth.inRange_claimsAt hdates user.id "xx" "xxx")
  have hnow : (Timestamp.ofSeconds 0).seconds ≤ listed.clock.wall.seconds := by decide
  have hparsed := (Codec.parse_claimsAt_iff hverify ⟨by decide, by decide, by decide, by decide⟩
    (by decide) (by decide) hnow).2 ⟨rfl, by decide, by decide⟩
  exact (Auth.authenticate_eq_ok_iff hsettled).2
    ⟨_, hparsed, ⟨_, rfl, rfl, rfl⟩, user, rfl, rfl, rfl⟩

/-- A service in which the user has just been authenticated, after a first login. -/
theorem exists_authenticated : ∃ w token c, Reachable setup supply w ∧
    Unchanged listed w.process ∧ w.result setup supply ⟨2⟩ (.authenticate token) = .ok c ∧
      c.sessionId = "xx" ∧ c.role = .client := by
  obtain ⟨t, haccess, hperform⟩ := login_listing
  have hfree : listing.users.users.get? ⟨2⟩ = none := rfl
  have hstart : Reachable setup supply ⟨listing, []⟩ :=
    .start ⟨⟨rfl, rfl, by decide⟩, rfl, rfl, rfl, rfl, by decide, by decide⟩
  have h : Reachable setup supply ⟨listed, [t]⟩ := hperform ▸ hstart.step (.perform _ hfree)
  have hready : (⟨listed, [t]⟩ : Service).ready ⟨2⟩ = listed := rfl
  have hauthenticated : (⟨listed, [t]⟩ : Service).result setup supply ⟨2⟩
      (.authenticate t.accessToken) = .ok ⟨⟨1⟩, "xx", "xxx", .client⟩ := by
    have hsettled : listed.Settled none := hready ▸ h.settled_ready ⟨2⟩
    rw [result, hready, haccess]
    exact authenticate_listed hsettled
  exact ⟨_, _, _, h, .refl _, hauthenticated, rfl, rfl⟩

end FirstLogin

/-! ### Lists -/

/-- **One's own sessions are listed, the latest first.**  Callers who have just been authenticated,
in a role that may list sessions, are shown exactly their own live sessions, and which of them is the
one that they are using.  If one of these is carried on, they are shown the same again, but for its
place: it is now before all that were used earlier. -/
theorem sessions_listed (hf : Function.Injective f.ids) (h : Reachable s f w)
    (hnext : w.process.users.users.get? next = none) {token : String}
    (hauthenticated : w.result s f next (.authenticate token) = .ok c)
    (hgranted : .sessionRead ∈ (w.process.grants.ofRole c.role).toList ∨
      .fullAccess ∈ (w.process.grants.ofRole c.role).toList) :
    let w₁ := w.perform s f next (.authenticate token)
    ∃ views, w₁.result s f next (.listSessions c) = .ok views ∧ IsListing w₁.process c views ∧
      let w₂ := w₁.perform s f next (.listSessions c)
      ∀ input t, w₂.result s f next (.refresh input) = .ok t → t.sessionId ∈ views.map (·.id) →
        let w₃ := w₂.perform s f next (.refresh input)
        ∃ views', w₃.result s f next (.listSessions c) = .ok views' ∧
          IsListing w₃.process c views' ∧
          MovesUp w₂.process.clock.wall t.sessionId views views' := by
  intro w₁
  obtain ⟨hholds, own, hlive, howner⟩ := holds_of_authenticate h hauthenticated hgranted
  have hsame₁ : Unchanged w.process w₁.process :=
    perform_unchanged (.refl _) (.authenticate token) (Auth.looks_authenticate token)
  have h₁ : Reachable s f w₁ := h.step (.perform _ hnext)
  have hnext₁ : w₁.process.users.users.get? next = none := hsame₁.users ▸ hnext
  have hholds₁ := hholds.of_sameAside hsame₁.toSameAside
  have hlive₁ : w₁.process.sessions.session? w₁.process.clock.elapsed c.sessionId = some own := by
    rw [hsame₁.clock, hsame₁.sessions.session?_eq, hlive]
  refine ⟨_, result_listSessions h₁ hnext₁ hholds₁,
    isListing_latest (listable hf h₁) hlive₁ howner, ?_⟩
  intro w₂ input t hrefreshed hshown
  have hsame₂ : Unchanged w₁.process w₂.process :=
    perform_unchanged (.refl _) (.listSessions c) (OwnSessions.looks_list c)
  have h₂ : Reachable s f w₂ := h₁.step (.perform _ hnext₁)
  have hlive₂ : w₂.process.sessions.session? w₂.process.clock.elapsed c.sessionId = some own := by
    rw [hsame₂.clock, hsame₂.sessions.session?_eq, hlive₁]
  have hlatest : w₂.process.sessions.latest w₂.process.clock.elapsed c.userId =
      w₁.process.sessions.latest w₁.process.clock.elapsed c.userId :=
    congrArg (List.mergeSort · Sessions.precedes) (hsame₂.listByUser_eq c.userId)
  obtain ⟨_, hview, hid⟩ := List.mem_map.1 hshown
  obtain ⟨shown, hmem, rfl⟩ := List.mem_map.1 hview
  rw [← hlatest] at hmem ⊢
  have hholds₂ := hholds₁.of_sameAside hsame₂.toSameAside
  have hnext₂ : w₂.process.users.users.get? next = none := by rw [hsame₂.users, hnext₁]
  exact listed_after_refresh hf h₂ hnext₂ hholds₂ hlive₂ howner hrefreshed ⟨shown, hmem, hid⟩

open Auth.FirstLogin Sample in
/-- The user lists the sessions after a first login, before and after its token is exchanged. -/
theorem sessions_listed_firstLogin : ∃ w token c, Reachable setup supply w ∧
    w.result setup supply ⟨2⟩ (.authenticate token) = .ok c ∧
      let w₁ := w.perform setup supply ⟨2⟩ (.authenticate token)
      let w₂ := w₁.perform setup supply ⟨2⟩ (.listSessions c)
      let w₃ := w₂.perform setup supply ⟨2⟩ (.refresh again)
      ∃ views views', w₁.result setup supply ⟨2⟩ (.listSessions c) = .ok views ∧
        w₃.result setup supply ⟨2⟩ (.listSessions c) = .ok views' ∧
          IsListing w₁.process c views ∧ MovesUp w₂.process.clock.wall "xx" views views' := by
  obtain ⟨w, token, c, h, hsame, hauthenticated, hcurrent, hrole⟩ := exists_authenticated
  refine ⟨w, token, c, h, hauthenticated, ?_⟩
  have hfree : w.process.users.users.get? ⟨2⟩ = none := by rw [hsame.users]; rfl
  have hgranted : .sessionRead ∈ (w.process.grants.ofRole c.role).toList := by
    rw [hsame.grants, hrole]
    decide
  obtain ⟨views, hviews, hlisting, hrefreshed⟩ :=
    sessions_listed injective_ids h hfree hauthenticated (.inl hgranted)
  have hshown : c.sessionId ∈ views.map (·.id) := by
    obtain ⟨own, hown, hid⟩ := hlisting.current
    have hmem : own ∈ views.filter (·.current) := hown ▸ List.mem_singleton_self own
    exact List.mem_map.2 ⟨own, (List.mem_filter.1 hmem).1, hid⟩
  have h₁ := h.step (.perform (.authenticate token) hfree)
  have hsame₁ : Unchanged listed (w.perform setup supply ⟨2⟩ (.authenticate token)).process :=
    perform_unchanged hsame (.authenticate token) (Auth.looks_authenticate token)
  have hfree₁ : (w.perform setup supply ⟨2⟩ (.authenticate token)).process.users.users.get? ⟨2⟩ =
      none := by rw [hsame₁.users]; rfl
  have h₂ := h₁.step (.perform (.listSessions c) hfree₁)
  obtain ⟨t', hresult, hid⟩ :=
    refresh_listed h₂ (perform_unchanged hsame₁ (.listSessions c) (OwnSessions.looks_list c))
  obtain ⟨views', hviews', -, hmoves⟩ := hrefreshed again t' hresult (by rwa [hid, ← hcurrent])
  rw [hid] at hmoves
  exact ⟨views, views', hviews, hviews', hlisting, hmoves⟩

end Service

end SessionAuth
