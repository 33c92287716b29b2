import SessionAuth.Proofs.Service.History
import SessionAuth.Proofs.Session.Lifetimes

/-!
# Chains of refresh tokens

A login gives out a refresh token, which a refresh exchanges for another one, and so on.  A refresh
looks at the account that its token names, and carries on the session that its token leads to; that
the session belongs to this account it does not check.

It does belong to it, in every run that uses no id twice.  The tokens of a `Chain` name the user who
logged in, as each of them was made for the user that the one before named.  They all lead to the
session that the login opened, since a token leads to no session but the one whose current token it
was, and that session keeps its owner (`chain_keeps_owner`).
-/

set_option autoImplicit false

namespace SessionAuth

open Environment Fallible Deployment Text
open SessionStore (Move WasCurrent WasOwned)

/-! ## Tokens that are given out -/

namespace Auth

/-- What is known of a pair of tokens when it is given out: whom and which session the tokens name,
and that the id of the refresh token is the current one of that session, which is live. -/
structure Given (s : Setup) (d : Deployment) (user : UserId) (session jti : String) (t : Tokens) :
    Prop where
  sessionId : t.sessionId = session
  access : ∃ claims, s.codec.verify t.accessToken = .ok claims ∧ claims.kind = .access ∧
    claims.userId = user ∧ claims.sessionId = session
  refresh : ∃ claims, s.codec.verify t.refreshToken = .ok claims ∧ claims.kind = .refresh ∧
    claims.userId = user ∧ claims.jti = jti
  record : ∃ record, d.sessions.session? d.clock.elapsed session = some record ∧
    record.currentJti = jti

section Given

variable {s : Setup} {f : Supply} {d d' : Deployment} {user : UserId} {session jti : String}
  {t : Tokens}

/-- The tokens of a pair verify with the claims that they were made with. -/
theorem Given.of_pairOf (hdates : s.Dates d.clock.wall)
    (hpair : pairOf s d.clock.wall user session (refreshIssued s f d user) jti = .ok t)
    (hrange : d.clock.wall.seconds + s.codec.refreshTtl ≤ Timestamp.maxSeconds)
    (hrecord : ∃ record, d'.sessions.session? d'.clock.elapsed session = some record ∧
      record.currentJti = f.ids d.idCount) : Given s d' user session (f.ids d.idCount) t := by
  obtain ⟨-, -, rfl⟩ := pairOf_eq_ok_iff.1 hpair
  have hfits : d.clock.wall.seconds + s.codec.refreshTtl ≤ maxInt64 :=
    Int.le_trans hrange (by decide)
  refine ⟨rfl, ⟨Codec.claimsAt d.clock.wall .access user session jti s.codec.accessTtl, ?_, rfl,
    rfl, rfl⟩, ⟨(refreshIssued s f d user).claims, ?_, rfl, rfl, rfl⟩, hrecord⟩
  · exact Codec.verify_encode _ (Codec.inRange_claimsAt hdates.nonneg hdates.representable)
  · exact Codec.verify_encode _ (Codec.inRange_claimsAt hdates.nonneg hfits)

/-- What a login gives out are tokens of the user who was found, and of a new session. -/
theorem given_login (hdates : s.Dates d.clock.wall) (hreach : d.InReach) {input : Login}
    (h : runOn (serve f) (login s input) d = (.ok t, d')) :
    ∃ user, d.users.findByEmail? (trim input.email) = some user ∧
      Given s d' user.id (f.ids (d.idCount + 1)) (f.ids d.idCount) t ∧
        ∃ e, d'.sessions.sessions.get? (f.ids (d.idCount + 1)) = some e ∧
          e.value.userId = user.id := by
  obtain ⟨user, ttls, expires, hin, hpair, rfl⟩ := login_eq_ok hreach h
  have hrecord := get?_letIn f d input user ttls expires
  refine ⟨user, hin.found, .of_pairOf hdates hpair
    (Sessions.le_maxSeconds_of_lifetimes hdates.nonneg hin.lifetimes) ?_, _, hrecord, rfl⟩
  exact ⟨_, session?_letIn hin, rfl⟩

/-- What a refresh gives out are tokens of the user whom the presented token names, and of the
session to which it leads. -/
theorem given_refresh (hdates : s.Dates d.clock.wall) (hsettled : d.Settled none)
    {input : Refresh} (h : runOn (serve f) (refresh s input) d = (.ok t, d')) :
    ∃ claims, s.codec.verify input.refreshToken = .ok claims ∧
      d.sessions.pointer? d.clock.elapsed claims.jti = some t.sessionId ∧
        Given s d' claims.userId t.sessionId (f.ids d.idCount) t := by
  have hcases := refresh_cases (s := s) (f := f) hsettled input
  rw [h] at hcases
  dsimp only at hcases
  generalize hresult : (Except.ok t : Except Error Tokens) = r at hcases
  cases hcases with
  | refused | spent => cases hresult
  | @carriedOn claims user id session ttls expires _ haccepts hlifetimes hpointer hlive hsessions
      haside hcount =>
    have hid : t.sessionId = id := by
      obtain ⟨-, -, rfl⟩ := pairOf_eq_ok_iff.1 hresult.symm
      rfl
    have hlater := (SessionStore.lt_deadlines d.clock.elapsed (lifetimes_isValid hlifetimes)).1
    refine ⟨claims, (Codec.parse_eq_ok_iff.1 haccepts.parsed).1, hid ▸ hpointer,
      .of_pairOf hdates (hid ▸ hresult.symm)
        (Sessions.le_maxSeconds_of_lifetimes hdates.nonneg hlifetimes) ?_⟩
    have hrecord : d'.sessions.sessions.get? id = some ⟨session.rotated ⟨claims.jti,
        f.ids d.idCount, input.ip, input.device, d.clock.wall, expires, ttls⟩,
          SessionStore.deadline d.clock.elapsed ttls.session⟩ := by
      rw [hsessions]
      exact Table.get?_set_eq_some_iff.2 (.inl ⟨rfl, rfl⟩)
    rw [hid, haside.clock]
    exact ⟨_, SessionStore.session?_eq_some_iff.2 ⟨_, hrecord, hlater, rfl⟩, rfl⟩

end Given
end Auth

/-! ## Chains -/

namespace Service

open Auth (Tokens Given given_login given_refresh)

variable {s : Setup} {f : Supply} {run : Nat → Service} {user : User}
  {first : Nat × Tokens} {ts : List (Nat × Tokens)}

/-- Whether the refresh token of a pair still leads to a session. -/
def InUse (s : Setup) (w : Service) (t : Tokens) : Prop :=
  ∃ claims, s.codec.verify t.refreshToken = .ok claims ∧
    w.process.sessions.hasJti w.process.clock.elapsed claims.jti = true

/-- What a run gives out to a user who logs in, and who then presents each refresh token in turn,
the last pair first.  Every pair comes with the number of the state in which it was asked for. -/
inductive Chain (s : Setup) (f : Supply) (run : Nat → Service) (user : User)
    (first : Nat × Tokens) : List (Nat × Tokens) → Prop
  | login {next : UserId} {input : Auth.Login}
      (hfound : (run first.1).process.users.findByEmail? (trim input.email) = some user)
      (hresult : (run first.1).result s f next (.login input) = .ok first.2)
      (hstep : run (first.1 + 1) = (run first.1).perform s f next (.login input)) :
      Chain s f run user first [first]
  | refresh {n m : Nat} {t t' : Tokens} {ts : List (Nat × Tokens)} {next : UserId}
      {input : Auth.Refresh} (hchain : Chain s f run user first ((n, t) :: ts)) (hlater : n < m)
      (hpresented : input.refreshToken = t.refreshToken)
      (hresult : (run m).result s f next (.refresh input) = .ok t')
      (hstep : run (m + 1) = (run m).perform s f next (.refresh input)) :
      Chain s f run user first ((m, t') :: (n, t) :: ts)

/-- What is known of a chain: its tokens belong together, the session is the one that the login
opened, and its first owner is the user who logged in. -/
structure Linked (s : Setup) (f : Supply) (run : Nat → Service) (user : User)
    (first : Nat × Tokens) (ts : List (Nat × Tokens)) : Prop where
  given : ∀ x ∈ ts, Given s (run (x.1 + 1)).process user.id first.2.sessionId
    (f.ids (run x.1).process.idCount) x.2
  sorted : ts.Pairwise fun x y => y.1 < x.1
  opened : first.2.sessionId = f.ids ((run first.1).process.idCount + 1)
  owned : ∃ e, (run (first.1 + 1)).process.sessions.sessions.get? first.2.sessionId = some e ∧
    e.value.userId = user.id

/-! ### What is known of the past -/

section Past

variable {moves : Nat → List Move} {m n k : Nat} {t : Tokens} {session jti : String} {id : UserId}

/-- A token that was given out was the current one of its session. -/
theorem wasCurrent_of_given (hmoves : Histories f run moves)
    (h : Given s (run (n + 1)).process id session jti t) (hlater : n < k) :
    WasCurrent (moves k) session jti := by
  obtain ⟨record, hrecord, hjti⟩ := h.record
  obtain ⟨e, he, -, rfl⟩ := SessionStore.session?_eq_some_iff.1 hrecord
  exact ⟨moves (n + 1), hmoves.begins hlater, e, (hmoves.history _).sessions_eq ▸ he, hjti⟩

/-- A token leads to no session but its own. -/
theorem leads_of_given (hf : Function.Injective f.ids) (hmoves : Histories f run moves)
    (h : Given s (run (n + 1)).process id session jti t) (hlater : n < k)
    {p : Expiring String}
    (hp : (run k).process.sessions.pointers.get? jti = some p) : p.value = session := by
  have hhistory := hmoves.history k
  exact SessionStore.pointer_of_lineage (hhistory.sessions.nodup hf) (hhistory.tokens.nodup hf)
    (wasCurrent_of_given hmoves h hlater) (hhistory.sessions_eq ▸ hp)

/-- The id of a token is unheard of before the token is made. -/
theorem not_pointer_of_le (hf : Function.Injective f.ids) (hmoves : Histories f run moves)
    (hle : k ≤ n) :
    (run k).process.sessions.pointers.get? (f.ids (run n).process.idCount) = none := by
  rw [Option.eq_none_iff_forall_ne_some]
  intro p hp
  have hhistory := hmoves.history k
  exact hhistory.tokens.not_mem hf (.inr (hmoves.count hle)) (hhistory.mentions.pointer hp).1

theorem Chain.linked (hf : Function.Injective f.ids) (hrun : IsRun s f run)
    (hmoves : Histories f run moves) (h : Chain s f run user first ts) :
    Linked s f run user first ts := by
  induction h with
  | @login next input hfound hresult hstep =>
    have hreach := hrun.reachable first.1
    have hperformed : runOn (serve f) (Auth.login s input) ((run first.1).ready next) = _ :=
      runOn_ready (.login input)
    rw [hresult, ← hstep] at hperformed
    obtain ⟨user', hfound', hgiven, howned⟩ :=
      given_login (d := (run first.1).ready next) (reachable_minted hreach).1
        (hreach.inReach_ready next) hperformed
    obtain rfl : user' = user := Option.some.inj (hfound'.symm.trans hfound)
    have hsession : first.2.sessionId = f.ids ((run first.1).process.idCount + 1) :=
      hgiven.sessionId
    refine ⟨?_, List.pairwise_singleton _ _, hsession, hsession ▸ howned⟩
    exact List.forall_mem_singleton.2 (hsession ▸ hgiven)
  | @refresh n m t t' ts next input hchain hlater hpresented hresult hstep ih =>
    have hreach := hrun.reachable m
    have hperformed : runOn (serve f) (Auth.refresh s input) ((run m).ready next) = _ :=
      runOn_ready (.refresh input)
    rw [hresult, ← hstep] at hperformed
    obtain ⟨claims, hverify, hpointer, hgiven⟩ :=
      given_refresh (d := (run m).ready next) (reachable_minted hreach).1
        (hreach.settled_ready next) hperformed
    -- the token that was presented is the one that was given out before
    have hbefore := ih.given _ (List.mem_cons_self ..)
    obtain ⟨claims', hverify', -, huser, hjti⟩ := hbefore.refresh
    rw [hpresented, hverify'] at hverify
    cases hverify
    obtain ⟨p, hp, -, hlead⟩ := SessionStore.pointer?_eq_some_iff.1 hpointer
    have hsession : t'.sessionId = first.2.sessionId :=
      hlead.symm.trans (leads_of_given hf hmoves hbefore hlater (hjti ▸ hp))
    refine ⟨?_, ?_, ih.opened, ih.owned⟩
    · exact List.forall_mem_cons.2 ⟨huser ▸ hsession ▸ hgiven, ih.given⟩
    · refine List.pairwise_cons.2 ⟨List.forall_mem_cons.2 ⟨hlater, fun x hx => ?_⟩, ih.sorted⟩
      exact ((List.pairwise_cons.1 ih.sorted).1 x hx).trans hlater

/-- Before its login the session of a chain is unheard of. -/
theorem Linked.not_session_of_le (hf : Function.Injective f.ids) (hmoves : Histories f run moves)
    (h : Linked s f run user first ts) (hle : k ≤ first.1) :
    (run k).process.sessions.sessions.get? first.2.sessionId = none := by
  rw [Option.eq_none_iff_forall_ne_some]
  intro e he
  have hhistory := hmoves.history k
  have hcount := (hmoves.count hle).trans (Nat.le_succ _)
  exact hhistory.sessions.not_mem hf (.inr hcount) (h.opened ▸ (hhistory.mentions.session he).1)

/-- The session of a chain keeps its owner. -/
theorem Linked.owner (hf : Function.Injective f.ids) (hmoves : Histories f run moves)
    (h : Linked s f run user first ts) {e : Expiring Session}
    (he : (run k).process.sessions.sessions.get? first.2.sessionId = some e) :
    e.value.userId = user.id := by
  rcases Nat.lt_or_ge first.1 k with hlater | hle
  · have hhistory := hmoves.history k
    obtain ⟨e₀, he₀, howner⟩ := h.owned
    have howned : WasOwned (moves k) first.2.sessionId user.id :=
      ⟨moves (first.1 + 1), hmoves.begins hlater, e₀, (hmoves.history _).sessions_eq ▸ he₀, howner⟩
    exact SessionStore.owner_of_lineage (hhistory.sessions.nodup hf) howned
      (hhistory.sessions_eq ▸ he)
  · cases (h.not_session_of_le hf hmoves hle).symm.trans he

/-- A token in use was given out before, and has a pointer to its session. -/
theorem pointer_of_inUse (hf : Function.Injective f.ids) (hmoves : Histories f run moves)
    (h : Given s (run (n + 1)).process id session (f.ids (run n).process.idCount) t)
    (hin : InUse s (run k) t) : n < k ∧
      ∃ p, (run k).process.sessions.pointers.get? (f.ids (run n).process.idCount) = some p ∧
        p.value = session := by
  obtain ⟨claims, hverify, hused⟩ := hin
  obtain ⟨claims', hverify', -, -, hjti⟩ := h.refresh
  obtain rfl := Except.ok.inj (hverify.symm.trans hverify')
  obtain ⟨i, hi⟩ := Option.isSome_iff_exists.1 hused
  obtain ⟨p, hp, -, -⟩ := SessionStore.pointer?_eq_some_iff.1 hi
  rw [hjti] at hp
  rcases Nat.lt_or_ge n k with hlater | hle
  · exact ⟨hlater, p, hp, leads_of_given hf hmoves h hlater hp⟩
  · cases (not_pointer_of_le hf hmoves hle).symm.trans hp

/-- No two tokens of a chain are in use at once. -/
theorem Linked.not_inUse (hf : Function.Injective f.ids) (hmoves : Histories f run moves)
    (h : Linked s f run user first ts) (k : Nat) :
    ts.Pairwise fun x y => ¬ (InUse s (run k) x.2 ∧ InUse s (run k) y.2) := by
  refine h.sorted.imp_of_mem ?_
  rintro ⟨m, t⟩ ⟨n, t'⟩ hx hy hlt ⟨hused, hused'⟩
  obtain ⟨-, p, hp, hlead⟩ := pointer_of_inUse hf hmoves (h.given _ hx) hused
  obtain ⟨-, p', hp', hlead'⟩ := pointer_of_inUse hf hmoves (h.given _ hy) hused'
  have hsame := ((hmoves.history k).single hf).jti_eq hp hp' (hlead.trans hlead'.symm)
  -- the id of the later token was still to come when the earlier one was current
  have hpast := (wasCurrent_of_given hmoves (h.given _ hy) hlt).mem_tokenIds
  exact (hmoves.history m).tokens.not_mem hf (.inr (Nat.le_refl _)) (hsame ▸ hpast)

end Past

/-- **A chain stays with its user.**  In a run that uses no id twice, a user logs in and then
presents each refresh token in turn.  All pairs name the session that the login opened, and which
was not there before; all their tokens name the user who logged in.  When a pair is given out, the
session is live and the refresh token is its current one.  In every state of the run the session, if
it is live, belongs to that user, and no two refresh tokens of the chain are in use. -/
theorem chain_keeps_owner (hf : Function.Injective f.ids) (hrun : IsRun s f run)
    (h : Chain s f run user first ts) :
    (∀ x ∈ ts, x.2.sessionId = first.2.sessionId ∧
      (∃ claims, s.codec.verify x.2.accessToken = .ok claims ∧ claims.kind = .access ∧
        claims.userId = user.id ∧ claims.sessionId = first.2.sessionId) ∧
      ∃ claims record, s.codec.verify x.2.refreshToken = .ok claims ∧ claims.kind = .refresh ∧
        claims.userId = user.id ∧
          (run (x.1 + 1)).process.sessions.session? (run (x.1 + 1)).process.clock.elapsed
            first.2.sessionId = some record ∧ record.currentJti = claims.jti) ∧
    (∀ k ≤ first.1, (run k).process.sessions.sessions.get? first.2.sessionId = none) ∧
    ∀ k, (∀ record, (run k).process.sessions.session? (run k).process.clock.elapsed
        first.2.sessionId = some record → record.userId = user.id) ∧
      ts.Pairwise fun x y => ¬ (InUse s (run k) x.2 ∧ InUse s (run k) y.2) := by
  obtain ⟨moves, hmoves⟩ := hrun.histories
  have hlinked := h.linked hf hrun hmoves
  refine ⟨fun x hx => ?_, fun k hle => hlinked.not_session_of_le hf hmoves hle,
    fun k => ⟨fun record hrecord => ?_, hlinked.not_inUse hf hmoves k⟩⟩
  · have hgiven := hlinked.given x hx
    obtain ⟨claims, hverify, hkind, huser, hjti⟩ := hgiven.refresh
    obtain ⟨record, hrecord, hcurrent⟩ := hgiven.record
    exact ⟨hgiven.sessionId, hgiven.access, claims, record, hverify, hkind, huser, hrecord,
      hcurrent.trans hjti.symm⟩
  · obtain ⟨e, he, -, rfl⟩ := SessionStore.session?_eq_some_iff.1 hrecord
    exact hlinked.owner hf hmoves he

/-- A run of two steps, after which nothing happens any more. -/
theorem exists_run_two {w₀ w₁ w₂ : Service} (hstart : IsStart s w₀) (h₁ : Step s f w₀ w₁)
    (h₂ : Step s f w₁ w₂) : ∃ run, IsRun s f run ∧ run 0 = w₀ ∧ run 1 = w₁ ∧ run 2 = w₂ := by
  have hend := ((Reachable.start hstart).step h₁).step h₂
  let run : Nat → Service
    | 0 => w₀
    | 1 => w₁
    | _ => w₂
  refine ⟨run, ⟨hstart, fun n => ?_⟩, rfl, rfl, rfl⟩
  match n with
  | 0 => exact h₁
  | 1 => exact h₂
  | n + 2 => exact hend.idle

open Auth.FirstLogin Sample in
/-- The first login of a process and a refresh after it. -/
theorem chain_keeps_owner_firstLogin : ∃ (run : Nat → Service) (t t' : Tokens),
    IsRun setup supply run ∧ Chain setup supply run Auth.FirstLogin.user (0, t) [(1, t'), (0, t)] ∧
      t'.sessionId = t.sessionId ∧ ∀ k, ¬ (InUse setup (run k) t' ∧ InUse setup (run k) t) := by
  obtain ⟨t, hrefresh, hstart, hresult, hperform, hlogin⟩ := firstLogin
  obtain ⟨t', hresult'⟩ := firstRefresh [t]
  have hfree : loggedIn.users.users.get? ⟨2⟩ = none := rfl
  obtain ⟨run, hrun, h₀, h₁, h₂⟩ :=
    exists_run_two hstart hlogin (.perform (.refresh again) hfree)
  rw [← h₀] at hresult hperform
  rw [← h₁] at hresult' h₂ hperform
  have hfound : (run 0).process.users.findByEmail? (trim input.email) =
      some Auth.FirstLogin.user := by
    rw [h₀]
    exact admits.found
  have hchain : Chain setup supply run Auth.FirstLogin.user (0, t) [(1, t'), (0, t)] :=
    .refresh (.login hfound hresult hperform.symm) Nat.one_pos hrefresh.symm hresult' h₂
  obtain ⟨hpairs, -, hstates⟩ := chain_keeps_owner injective_ids hrun hchain
  refine ⟨run, t, t', hrun, hchain, (hpairs (1, t') (List.mem_cons_self ..)).1, fun k => ?_⟩
  exact (List.pairwise_cons.1 (hstates k).2).1 (0, t) (List.mem_singleton_self _)

end Service
end SessionAuth
