import SessionAuth.Proofs.Service.History
import SessionAuth.Proofs.Session.Expiry
import SessionAuth.Proofs.Token.RoundTrip

/-!
# A service whose tokens end in time

A refresh token is checked twice: the codec reads its end off the token, and allows for leeway; the
session store looks for its pointer, which has a deadline of its own.  If the two clocks of the
service advance together, the pointer is over when the token is (`Timely`), so that a refresh never
succeeds with a token that has ended, however much leeway the codec gives.

`Timely` is kept by whatever the service does, be its backends in reach or not (`Service.Together`).
That a token is found under its id alone is no gap, as no id is given out twice.
-/

set_option autoImplicit false

namespace SessionAuth

open Environment Fallible Deployment
open SessionStore (Prunes deadline)

/-! ## Tokens and deadlines -/

/-- The deadlines of the store are those that its records and the known refresh tokens tell: a
record ends when it says, and a pointer not after its token. -/
structure Timely (f : Supply) (known : List Claims) (d : Deployment) : Prop where
  calendar : Timestamp.earliest.nanos ≤ d.clock.wall.nanos
  record : ∀ {id e}, d.sessions.sessions.get? id = some e →
    d.clock.wallAt e.deadline = e.value.expiresAt.nanos
  drawn : ∀ c ∈ known, c.jti ∈ f.given d.idCount
  pointer : ∀ c ∈ known, ∀ {p}, d.sessions.pointers.get? c.jti = some p →
    d.clock.wallAt p.deadline ≤ c.expires * nanosPerSecond

/-- The next token to be known: its id was given out, but to no other token. -/
structure Fresh (f : Supply) (known : List Claims) (c : Claims) (d : Deployment) : Prop
    extends Timely f known d where
  unused : ∀ other ∈ known, other.jti ≠ c.jti
  taken : c.jti ∈ f.given d.idCount

/-- What is left of a request that is to write the session of a new token. -/
def Written (f : Supply) (known : List Claims) (c : Claims) :
    Except Error String → Deployment → Prop
  | .ok _, d => Timely f (c :: known) d ∧ c.expires ≤ Timestamp.maxSeconds
  | .error _, d => Timely f known d

section Timely

variable {f : Supply} {known : List Claims} {c : Claims} {d d' : Deployment} {ttl : Nat}

namespace Timely

theorem of_cons (h : Timely f (c :: known) d) : Timely f known d where
  calendar := h.calendar
  record := h.record
  drawn other hother := h.drawn other (List.mem_cons_of_mem c hother)
  pointer other hother := h.pointer other (List.mem_cons_of_mem c hother)

/-- A store that loses entries stays in time. -/
theorem prunes (h : Timely f known d) (hlost : Prunes d.clock.elapsed d.sessions d'.sessions)
    (hclock : d'.clock = d.clock) (hcount : d.idCount ≤ d'.idCount) : Timely f known d' where
  calendar := hclock ▸ h.calendar
  record he := hclock ▸ h.record (hlost.sessions_get? he)
  drawn other hother := f.given_mono hcount (h.drawn other hother)
  pointer other hother _ hp := hclock ▸ h.pointer other hother (hlost.pointers_get? hp)

/-- Ids may be given out at any time. -/
theorem count (h : Timely f known d) {n : Nat} (hn : d.idCount ≤ n) :
    Timely f known { d with idCount := n } :=
  h.prunes .refl rfl hn

/-- Time may pass, on both clocks. -/
theorem pass (h : Timely f known d) (nanos : Nat) :
    Timely f known { d with clock := d.clock.pass nanos } where
  calendar := Int.le_trans h.calendar (Int.le_add_of_nonneg_right (Int.natCast_nonneg nanos))
  record he := (d.clock.wallAt_pass nanos _).trans (h.record he)
  drawn := h.drawn
  pointer other hother _ hp := (d.clock.wallAt_pass nanos _).le.trans (h.pointer other hother hp)

/-- A question that brings nothing into the store leaves it in time. -/
theorem serve (h : Timely f known d) {q : Question} (hq : IsStill q) :
    Timely f known (Deployment.serve f q d).2 := by
  have hsame : ∀ {d'}, d'.sessions = d.sessions → d'.clock = d.clock → d.idCount ≤ d'.idCount →
      Timely f known d' := fun hsessions => h.prunes (hsessions ▸ .refl)
  cases q with
  | newId => exact hsame rfl rfl (Nat.le_succ _)
  | users c =>
    simp only [Deployment.serve, answer]
    split <;> exact hsame rfl rfl (Nat.le_refl _)
  | sessions q =>
    by_cases hreach : d.sessionsReachable
    · rw [serve_sessions hreach]
      refine h.prunes (SessionStore.prunes_answer _ _ ?_ ?_) rfl (Nat.le_refl _)
      · rintro session ttls rfl
        cases hq
      · rintro r rfl
        cases hq
    · rw [serve_sessions_of_unreachable hreach]
      exact h
  | _ => exact hsame rfl rfl (Nat.le_refl _)

/-- A token whose pointer is live has not ended. -/
theorem lt_of_hasJti (h : Timely f known d) (hc : c ∈ known)
    (hjti : d.sessions.hasJti d.clock.elapsed c.jti = true) :
    d.clock.wall.nanos < c.expires * nanosPerSecond := by
  obtain ⟨id, hid⟩ := Option.isSome_iff_exists.1 hjti
  obtain ⟨p, hp, hlive, -⟩ := SessionStore.pointer?_eq_some_iff.1 hid
  rw [← d.clock.wallAt_elapsed]
  exact Int.lt_of_lt_of_le (d.clock.wallAt_lt_iff.2 hlive) (h.pointer c hc hp)

/-- A session that is listed has not expired. -/
theorem lt_of_mem_listByUser (h : Timely f known d) {user : UserId} {session : Session}
    (hsession : session ∈ (d.sessions.listByUser d.clock.elapsed user).1) :
    d.clock.wall.nanos < session.expiresAt.nanos := by
  obtain ⟨id, -, hid⟩ := List.mem_filterMap.1 hsession
  obtain ⟨e, he, hlive, rfl⟩ := SessionStore.session?_eq_some_iff.1 hid
  rw [← d.clock.wallAt_elapsed, ← h.record he]
  exact d.clock.wallAt_lt_iff.2 hlive

end Timely

/-- A record and a pointer that are written with lifetimes from now on are in time. -/
theorem Fresh.written (h : Fresh f known c d) {ttls : Ttls} {expires : Timestamp} {id : String}
    (session : Session) (hlifetimes : Sessions.lifetimes ttl d.clock.wall c.expiresAt =
      .ok (ttls, expires)) (hexpires : session.expiresAt = expires)
    (hrecords : d'.sessions.sessions =
      d.sessions.sessions.set id ⟨session, deadline d.clock.elapsed ttls.session⟩)
    (hpointers : ∀ {jti p}, d'.sessions.pointers.get? jti = some p →
      jti = c.jti ∧ p.deadline = deadline d.clock.elapsed ttls.jti ∨
        jti ≠ c.jti ∧ d.sessions.pointers.get? jti = some p)
    (hclock : d'.clock = d.clock) (hcount : d.idCount ≤ d'.idCount) :
    Written f known c (.ok id) d' := by
  obtain ⟨hmin, hmax⟩ := Sessions.range_of_lifetimes h.calendar hlifetimes
  obtain ⟨-, rfl, hvalid, rfl⟩ := Sessions.lifetimes_eq_ok_iff.1 hlifetimes
  have hjti : 0 < d.clock.wall.secondsUntil c.expiresAt := by
    simp only [Ttls.isValid, Bool.and_eq_true, decide_eq_true_eq] at hvalid
    exact hvalid.2
  refine ⟨⟨hclock ▸ h.calendar, fun {i e} he => ?_, fun other hother => ?_,
    fun other hother p hp => ?_⟩, hmax⟩
  · rw [hclock]
    rw [hrecords, Table.get?_set_eq_some_iff] at he
    rcases he with ⟨-, rfl⟩ | ⟨-, he⟩
    · rw [d.clock.wallAt_deadline (Int.natCast_nonneg ttl), hexpires]
      rfl
    · exact h.record he
  · refine f.given_mono hcount ?_
    rcases List.mem_cons.1 hother with rfl | hother
    · exact h.taken
    · exact h.drawn other hother
  · rw [hclock]
    rcases hpointers hp with ⟨heq, hp⟩ | ⟨hne, hp⟩
    · obtain rfl : other = c := by
        refine (List.mem_cons.1 hother).resolve_right fun hother => ?_
        exact h.unused other hother heq
      have hbefore := (Timestamp.secondsUntil_bounds hjti).1
      rw [hp, d.clock.wallAt_deadline (Int.le_of_lt hjti)]
      rwa [Claims.expiresAt_of_le hmin hmax] at hbefore ⊢
    · refine h.pointer other ((List.mem_cons.1 hother).resolve_left ?_) hp
      rintro rfl
      exact hne rfl

namespace Sessions

theorem triple_openSession {o : Opening} (hjti : o.jti = c.jti)
    (hexpires : o.jtiExpiresAt = c.expiresAt) :
    Triple (serve f) (Fresh f known c) (openSession ttl o) (Written f known c) := by
  refine ⟨fun d h => ?_⟩
  rcases openSession_cases f d ttl o with ⟨e, n, hn, hrun⟩ | ⟨ttls, expires, hlifetimes, hrun⟩
  · rw [hrun]
    exact h.toTimely.count hn
  · rw [hrun]
    rw [hexpires] at hlifetimes
    let session : Session := ⟨f.ids d.idCount, o.userId, o.device, o.ip, o.jti, d.clock.wall,
      d.clock.wall, expires⟩
    refine h.written session hlifetimes rfl rfl (fun {jti p} hp => ?_) rfl (Nat.le_succ _)
    rw [← hjti]
    exact (Table.get?_set_eq_some_iff.1 hp).imp_left fun ⟨heq, hp⟩ => ⟨heq, hp ▸ rfl⟩

theorem triple_renew {r : Renewal} (hjti : r.newJti = c.jti)
    (hexpires : r.jtiExpiresAt = c.expiresAt) :
    Triple (serve f) (Fresh f known c) (renew ttl r) (Written f known c) := by
  refine ⟨fun d h => ?_⟩
  rcases renew_cases f d ttl r with
    ⟨e, s', hlost, hrun⟩ | ⟨ttls, expires, id, session, hlifetimes, -, hrun⟩
  · rw [hrun]
    exact h.toTimely.prunes hlost rfl (Nat.le_refl _)
  · rw [hrun]
    rw [hexpires] at hlifetimes
    refine h.written (session.rotated (Auth.rotation d r expires ttls)) hlifetimes rfl rfl
      (fun {jti p} hp => ?_) rfl (Nat.le_refl _)
    rw [← hjti]
    refine (Table.get?_set_eq_some_iff.1 hp).imp (fun ⟨heq, hp⟩ => ⟨heq, hp ▸ rfl⟩) ?_
    exact fun ⟨hne, hp⟩ => ⟨hne, (Table.get?_erase_eq_some_iff.1 hp).2⟩

end Sessions
end Timely

/-! ## Operations -/

/-- The store is in time, and the refresh tokens of some pairs are known. -/
def InTime (s : Setup) (f : Supply) (issued : List Auth.Tokens) (d : Deployment) : Prop :=
  ∃ known, Timely f known d ∧ ∀ t ∈ issued, ∃ c ∈ known, s.codec.verify t.refreshToken = .ok c

section Operations

variable {s : Setup} {f : Supply} {issued : List Auth.Tokens} {d : Deployment} {α β : Type}

theorem preserves_inTime {p : UseCase α} (h : Asks IsStill p) :
    Preserves (serve f) (InTime s f issued) p :=
  Preserves.of_asks h fun _ _ hq ⟨known, htimely, hknown⟩ => ⟨known, htimely.serve hq, hknown⟩

/-- What is left after an operation that gives out pairs. -/
abbrev KeepsTime (s : Setup) (f : Supply) (issued : List Auth.Tokens) (p : UseCase α)
    (tokens : α → List Auth.Tokens) : Prop :=
  Triple (serve f) (InTime s f issued) p fun r d => InTime s f (issued ++ match r with
    | .ok a => tokens a
    | .error _ => []) d

/-- A part that asks no more than what brings nothing can stand in front. -/
theorem KeepsTime.bind {p : UseCase β} {k : β → UseCase α} {tokens : α → List Auth.Tokens}
    (hp : Asks IsStill p) (hk : ∀ b, KeepsTime s f issued (k b) tokens) :
    KeepsTime s f issued (p >>= k) tokens :=
  (preserves_inTime hp).triple_bind hk fun _ _ hd => (List.append_nil issued).symm ▸ hd

theorem KeepsTime.throw_bind {e : Error} {k : β → UseCase α} {tokens : α → List Auth.Tokens} :
    KeepsTime s f issued (throw e >>= k) tokens :=
  Triple.throw_bind fun _ hd => (List.append_nil issued).symm ▸ hd

/-- An operation that brings nothing and gives out nothing. -/
theorem KeepsTime.of_asks {p : UseCase α} {tokens : α → List Auth.Tokens} (hp : Asks IsStill p)
    (htokens : ∀ a, tokens a = []) : KeepsTime s f issued p tokens := by
  refine (preserves_inTime hp).mono (fun _ hd => hd) fun r d hd => ?_
  cases r with
  | error e => exact (List.append_nil issued).symm ▸ hd
  | ok a =>
    dsimp only
    rwa [htokens a, List.append_nil]

variable (hf : Function.Injective f.ids)

include hf

/-- A new refresh token is known from the time on when its session is written. -/
theorem Auth.keepsTime_issue {user : UserId} {write : Codec.Issued → UseCase String}
    (hwrite : ∀ i known,
      Triple (serve f) (Fresh f known i.claims) (write i) (Written f known i.claims)) :
    KeepsTime s f issued (do
      let i ← issueRefresh s user
      let session ← write i
      completePair s user session i) fun t => [t] := by
  refine ⟨fun d ⟨known, htimely, hknown⟩ => ?_⟩
  -- as long as no pair is given out
  have hnone : ∀ {d'}, Timely f known d' → InTime s f (issued ++ []) d' := fun htimely' =>
    ⟨known, htimely', (List.append_nil issued).symm ▸ hknown⟩
  rw [runOn_bind, runOn_issueRefresh_eq]
  cases hissue : s.codec.issueRefresh d.clock.wall user (f.ids d.idCount) s.codec.refreshTtl with
  | error e => exact hnone (htimely.count (Nat.le_succ _))
  | ok i =>
    obtain ⟨-, htoken, hclaims⟩ := Codec.issueRefresh_eq_ok_iff.1 hissue
    have hjti : i.claims.jti = f.ids d.idCount := congrArg Claims.jti hclaims.symm
    have hfresh : Fresh f known i.claims { d with idCount := d.idCount + 1 } := by
      refine ⟨htimely.count (Nat.le_succ _), fun other hother heq => ?_, ?_⟩
      · exact f.not_mem_given hf d.idCount (hjti ▸ heq ▸ htimely.drawn other hother)
      · rw [hjti, f.given_succ]
        exact List.mem_cons_self ..
    have hwritten := (hwrite i known).run _ hfresh
    dsimp only
    rw [runOn_bind]
    cases hrun : runOn (serve f) (write i) { d with idCount := d.idCount + 1 } with
    | mk r d' =>
      rw [hrun] at hwritten
      cases r with
      | error e => exact hnone hwritten
      | ok session =>
        obtain ⟨hlater, hmax⟩ := hwritten
        dsimp only
        rw [runOn_completePair_eq]
        cases hpair : pairOf s d'.clock.wall user session i (f.ids d'.idCount) with
        | error e => exact hnone (hlater.of_cons.count (Nat.le_succ _))
        | ok t =>
          obtain ⟨-, -, rfl⟩ := pairOf_eq_ok_iff.1 hpair
          refine ⟨i.claims :: known, hlater.count (Nat.le_succ _), fun t ht => ?_⟩
          rcases List.mem_append.1 ht with ht | ht
          · obtain ⟨c, hc, hverify⟩ := hknown t ht
            exact ⟨c, List.mem_cons_of_mem _ hc, hverify⟩
          · rw [List.mem_singleton.1 ht]
            refine ⟨i.claims, List.mem_cons_self .., ?_⟩
            rw [← hclaims] at hmax htoken ⊢
            rw [← htoken]
            refine s.codec.verify_encode (Codec.inRange_of_le ?_ ?_)
            · exact Int.le_trans (by decide) (Timestamp.minSeconds_le htimely.calendar)
            · exact Int.le_trans hmax (by decide)

theorem Auth.keepsTime_login (input : Login) :
    KeepsTime s f issued (login s input) fun t => [t] := by
  simp only [login]
  split
  · exact .throw_bind
  refine .bind (asks_verifyCredentials trivial) fun user => .bind (asks_lift _) fun _ => ?_
  exact keepsTime_issue hf fun i known => Sessions.triple_openSession rfl rfl

theorem Auth.keepsTime_refresh (input : Refresh) :
    KeepsTime s f issued (refresh s input) fun t => [t] := by
  refine .bind (asks_now trivial) fun now => .bind (asks_lift _) fun claims => ?_
  refine .bind (Sessions.asks_hasJti rfl) fun used => ?_
  dsimp only
  split
  · exact .throw_bind
  refine .bind ((Authorization.looks_checkStatus _ _).mono fun _ => Looks.isStill) fun _ => ?_
  exact keepsTime_issue hf fun i known => Sessions.triple_renew rfl rfl

/-- Whatever operation a process runs, it stays in time. -/
theorem Operation.keepsTime (op : Operation α) : KeepsTime s f issued (op.body s) op.tokens := by
  cases op with
  | login input => exact Auth.keepsTime_login hf input
  | refresh input => exact Auth.keepsTime_refresh hf input
  | _ => exact .of_asks (Operation.asksStill _ id) fun _ => rfl

end Operations

/-! ## What is found out on the way -/

section Found

variable {s : Setup} {f : Supply} {d d' : Deployment}

/-- A refresh succeeds only with a token that is in use. -/
theorem Auth.used_of_refresh {input : Refresh} {t : Tokens}
    (h : runOn (serve f) (refresh s input) d = (.ok t, d')) :
    ∃ claims, s.codec.verify input.refreshToken = .ok claims ∧
      d.sessions.hasJti d.clock.elapsed claims.jti = true := by
  rw [refresh, runOn_bind_of_ok _ _ (runOn_now _ _)] at h
  obtain ⟨claims, _, hparse, h⟩ := (runOn_bind_eq_ok_iff _ _).1 h
  rw [runOn_lift, Prod.mk.injEq] at hparse
  obtain ⟨hparse, rfl⟩ := hparse
  obtain ⟨used, _, hused, h⟩ := (runOn_bind_eq_ok_iff _ _).1 h
  cases used with
  | false => cases h
  | true =>
    refine ⟨claims, (Codec.parse_eq_ok_iff.1 hparse).1, ?_⟩
    exact Sessions.hasJti_of_runOn (congrArg Prod.fst hused)

/-- A token is exchanged only while it is in use, whatever was found out about it before. -/
theorem Auth.used_of_exchange {input : Refresh} {claims : Claims} {i : Codec.Issued} {t : Tokens}
    (h : runOn (serve f) (exchange s input claims i) d = (.ok t, d')) :
    d.sessions.hasJti d.clock.elapsed claims.jti = true := by
  obtain ⟨id, _, hrenewed, -⟩ := (runOn_bind_eq_ok_iff _ _).1 h
  rcases Sessions.renew_cases f d s.sessionTtl (renewal input claims i) with
    ⟨e, s', -, hrun⟩ | ⟨ttls, expires, id', session, -, hled, -⟩
  · cases hrun.symm.trans hrenewed
  · exact Option.isSome_iff_exists.2 ⟨id', hled⟩

/-- All that is shown in a list are sessions that the store lists. -/
theorem Sessions.mem_listByUser_of_views {user : UserId} {current : String}
    {shown : List SessionView} (h : runOn (serve f) (views user current) d = (.ok shown, d')) :
    ∀ view ∈ shown, ∃ session ∈ (d.sessions.listByUser d.clock.elapsed user).1,
      session.view current = view := by
  by_cases hreach : d.sessionsReachable
  · rw [views, runOn_bind_of_ok _ _ (runOn_ofUser hreach user)] at h
    cases h
    intro view hview
    obtain ⟨session, hsession, hshown⟩ := List.mem_map.1 hview
    exact ⟨session, List.mem_mergeSort.1 hsession, hshown⟩
  · rw [views, ofUser, runOn_bind, runOn_sessions, serve_sessions_of_unreachable hreach] at h
    cases h

end Found

/-! ## Runs -/

namespace Service

/-- What can become of a service whose clocks advance together, while its backends come and go.

Time passes between requests only.  A request takes place at one instant, at which it reads the wall
clock and writes its deadlines. -/
inductive Together (s : Setup) (f : Supply) : Service → Prop
  | start {w : Service} (hcalendar : Timestamp.earliest.nanos ≤ w.process.clock.wall.nanos)
      (hsessions : w.process.sessions = .empty) (hissued : w.issued = []) : Together s f w
  /-- Anything that takes no time. -/
  | step {w w' : Service} (h : Together s f w) (hstep : Step s f w w')
      (hclock : w'.process.clock = w.process.clock) : Together s f w'
  | pass {w : Service} (h : Together s f w) (nanos : Nat) : Together s f { w with process :=
      { w.process with clock := w.process.clock.pass nanos } }
  | reach {w : Service} (h : Together s f w) (sessions users : Bool) (cache : CacheCondition) :
      Together s f { w with process := { w.process with
        sessionsReachable := sessions
        usersReachable := users
        cacheCondition := cache } }

/-- Nothing is taken for live that has ended: a refresh succeeds only before the end of the token
that is presented, and so does an exchange that was prepared at any time before; a session is listed
only before the time at which it expires. -/
structure EndsInTime (s : Setup) (f : Supply) (w : Service) : Prop where
  refreshed : ∀ t ∈ w.issued, ∀ {input : Auth.Refresh} {next t'},
    s.codec.verify input.refreshToken = s.codec.verify t.refreshToken →
      w.result s f next (.refresh input) = .ok t' →
        ∃ claims, s.codec.verify input.refreshToken = .ok claims ∧
          w.process.clock.wall.nanos < claims.expires * nanosPerSecond
  exchanged : ∀ t ∈ w.issued, ∀ {input : Auth.Refresh} {claims i t' d'},
    s.codec.verify t.refreshToken = .ok claims →
      runOn (serve f) (Auth.exchange s input claims i) w.process = (.ok t', d') →
        w.process.clock.wall.nanos < claims.expires * nanosPerSecond
  listed : ∀ {user session},
    session ∈ (w.process.sessions.listByUser w.process.clock.elapsed user).1 →
      w.process.clock.wall.nanos < session.expiresAt.nanos
  shown : ∀ {next caller views}, w.result s f next (.listSessions caller) = .ok views →
    ∀ view ∈ views, w.process.clock.wall.nanos < view.expiresAt.nanos

variable {s : Setup} {f : Supply} {w w' : Service}

/-- A step that takes no time keeps the service in time. -/
theorem Step.inTime (hf : Function.Injective f.ids) (hstep : Step s f w w')
    (hclock : w'.process.clock = w.process.clock) (h : InTime s f w.issued w.process) :
    InTime s f w'.issued w'.process := by
  have hsame : ∀ {d : Deployment}, d.sessions = w.process.sessions →
      d.clock = w.process.clock → d.idCount = w.process.idCount → InTime s f w.issued d := by
    obtain ⟨known, htimely, hknown⟩ := h
    exact fun hsessions hclock hcount =>
      ⟨known, htimely.prunes (hsessions ▸ .refl) hclock hcount.ge, hknown⟩
  cases hstep with
  | @perform α op next hnext => exact (op.keepsTime hf).run (w.ready next) (hsame rfl rfl rfl)
  | @handle before after task htasks =>
    exact (preserves_inTime (task.1.asksStill_handle task.2)).run
      { w.process with tasks := before ++ after } (hsame rfl rfl rfl)
  | sweep => exact (preserves_inTime (asks_sweepAll rfl fun _ => rfl)).run _ h
  | evict key => exact hsame rfl rfl rfl
  | advance => exact hsame rfl hclock rfl

theorem together_inTime (hf : Function.Injective f.ids) (h : Together s f w) :
    InTime s f w.issued w.process := by
  induction h with
  | start hcalendar hsessions hissued =>
    refine ⟨[], ⟨hcalendar, fun he => ?_, nofun, nofun⟩, fun t ht => ?_⟩
    · rw [hsessions] at he
      cases he
    · rw [hissued] at ht
      cases ht
  | step _ hstep hclock ih => exact hstep.inTime hf hclock ih
  | pass _ nanos ih =>
    obtain ⟨known, htimely, hknown⟩ := ih
    exact ⟨known, htimely.pass nanos, hknown⟩
  | reach _ sessions users cache ih =>
    obtain ⟨known, htimely, hknown⟩ := ih
    exact ⟨known, htimely.prunes .refl rfl (Nat.le_refl _), hknown⟩

theorem endsInTime_of_inTime (h : InTime s f w.issued w.process) : EndsInTime s f w := by
  obtain ⟨known, htimely, hknown⟩ := h
  have hready : ∀ next, Timely f known (w.ready next) := fun next =>
    htimely.prunes .refl rfl (Nat.le_refl _)
  constructor
  case refreshed =>
    intro t ht input next t' hsame hresult
    obtain ⟨c, hc, hverify⟩ := hknown t ht
    obtain ⟨claims, hclaims, hused⟩ :=
      Auth.used_of_refresh (Prod.ext hresult rfl : _ = (Except.ok t', _))
    obtain rfl : claims = c := Except.ok.inj (hclaims.symm.trans (hsame.trans hverify))
    exact ⟨claims, hclaims, (hready next).lt_of_hasJti hc hused⟩
  case exchanged =>
    intro t ht input claims i t' d' hclaims hrun
    obtain ⟨c, hc, hverify⟩ := hknown t ht
    obtain rfl : claims = c := Except.ok.inj (hclaims.symm.trans hverify)
    exact htimely.lt_of_hasJti hc (Auth.used_of_exchange hrun)
  case listed => exact htimely.lt_of_mem_listByUser
  case shown =>
    intro next caller views hresult view hview
    have hrun : runOn (serve f) (OwnSessions.list s caller) (w.ready next) =
      (.ok views, (w.perform s f next (.listSessions caller)).process) := Prod.ext hresult rfl
    obtain ⟨role, d, hauthorized, hlist⟩ := (runOn_bind_eq_ok_iff _ _).1 hrun
    have hkept : Preserves (serve f)
        (fun d => Timely f known d ∧ d.clock = w.process.clock)
        (Authorization.authorize s.cacheTtls caller.userId .sessionRead) :=
      Preserves.of_asks (Authorization.looks_authorize _ _ _) fun q d hq ⟨hd, hclock⟩ =>
        ⟨hd.serve (Looks.isStill hq), (clock_serve q d).trans hclock⟩
    have hlater := hkept.run _ ⟨hready next, rfl⟩
    rw [hauthorized] at hlater
    obtain ⟨session, hsession, rfl⟩ := Sessions.mem_listByUser_of_views hlist view hview
    exact hlater.2 ▸ hlater.1.lt_of_mem_listByUser hsession

/-- **Sessions and refresh tokens end when they say.**  Whoever opens a session or carries one on
either gets an error, and no pointer is written, or what is written ends in time by a wall clock
that advances together with the other.  So no refresh succeeds at the end of the token that is
presented or after it, however much leeway the codec gives, and no session is listed once it has
expired.

What happens at the present time happens at one instant: deadlines are written when the wall clock is
read.  With some time between the two they are late by that time (`Clock.wallAt_deadline_pass`). -/
theorem ends_in_time (hf : Function.Injective f.ids) :
    (∀ d ttl (o : Sessions.Opening), Sessions.StampsOrFails d ttl o.jti o.jtiExpiresAt
      (runOn (serve f) (Sessions.openSession ttl o) d)) ∧
    (∀ d ttl (r : Sessions.Renewal), Sessions.StampsOrFails d ttl r.newJti r.jtiExpiresAt
      (runOn (serve f) (Sessions.renew ttl r) d)) ∧
    ∀ {s w}, Together s f w → EndsInTime s f w :=
  ⟨fun d ttl => Sessions.openSession_stampsOrFails f d ttl,
    fun d ttl => Sessions.renew_stampsOrFails f d ttl,
    fun h => endsInTime_of_inTime (together_inTime hf h)⟩

open Auth.FirstLogin Sample in
/-- The token of a first login is exchanged, and it has not ended. -/
theorem ends_in_time_firstLogin : ∃ t t', Together setup supply ⟨loggedIn, [t]⟩ ∧
    (⟨loggedIn, [t]⟩ : Service).result setup supply ⟨2⟩ (.refresh again) = .ok t' ∧
      ∃ claims, setup.codec.verify again.refreshToken = .ok claims ∧
        loggedIn.clock.wall.nanos < claims.expires * nanosPerSecond := by
  obtain ⟨t, hrefresh, hstart, -, -, hstep⟩ := firstLogin
  obtain ⟨t', hresult⟩ := firstRefresh [t]
  have htogether : Together setup supply ⟨loggedIn, [t]⟩ :=
    .step (.start (by decide) hstart.sessions hstart.issued) hstep rfl
  have hends := (ends_in_time injective_ids).2.2 htogether
  refine ⟨t, t', htogether, hresult, ?_⟩
  exact hends.refreshed t (List.mem_singleton.2 rfl) (congrArg _ hrefresh.symm) hresult

end Service
end SessionAuth
