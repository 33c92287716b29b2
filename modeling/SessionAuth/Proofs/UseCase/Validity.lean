import SessionAuth.Proofs.Session.Backing
import SessionAuth.Proofs.UseCase.Conversation
import SessionAuth.Proofs.UseCase.Refresh

/-!
# Which refresh tokens count as valid

The sessions of a process are opened, carried on, deleted and swept, one request after the other,
while time passes.  Seen from the session store this is a run of moves: `performs` says which moves
a request makes, and `traced` puts them together for a whole run.  Since session ids are asked for
one by one, no request brings an id back, and what `SessionStore.hasJti_backed` says of the store
can be said of the requests (`hasJti_current`): a token that counts as valid was brought by one of
them, and it is the current token of a live session until the lifetime of sessions is over, counted
from that request on.
-/

set_option autoImplicit false

namespace SessionAuth
namespace Sessions

open Environment Fallible Deployment
open SessionStore (Move Moment Brought deadline sessionIds tokenIds)

/-! ## Requests -/

/-- What the sessions of a process can be asked for. -/
inductive Request where
  | openSession (o : Opening)
  | renew (r : Renewal)
  | delete (d : Deletion)
  | deleteAll (user : UserId)
  | sweep
  /-- So many milliseconds pass. -/
  | advance (millis : Nat)

namespace Request

/-- The process after a request. -/
def perform (s : Setup) (f : Supply) (d : Deployment) : Request → Deployment
  | openSession o => ((Sessions.openSession s.sessionTtl o).runOn (serve f) d).2
  | renew r => ((Sessions.renew s.sessionTtl r).runOn (serve f) d).2
  | delete x => ((Sessions.delete x).runOn (serve f) d).2
  | deleteAll user => ((Sessions.deleteAll user).runOn (serve f) d).2
  | sweep => ((sessions SessionStore.sweepAll).runOn (serve f) d).2
  | advance millis => d.advance millis

/-- The refresh token that a request brings, with the end of its lifetime. -/
def token? : Request → Option (String × Timestamp)
  | openSession o => some (o.jti, o.jtiExpiresAt)
  | renew r => some (r.newJti, r.jtiExpiresAt)
  | _ => none

end Request

/-- The process after some requests, which started without sessions. -/
def served (s : Setup) (f : Supply) (wall : Timestamp) (requests : List Request) : Deployment :=
  requests.foldl (Request.perform s f) (.start wall .nil)

/-- The refresh tokens that some requests bring. -/
def broughtIds (requests : List Request) : List String :=
  (requests.filterMap Request.token?).map (·.1)

/-! ## What a request does to the session store -/

section Moves

variable {s : Setup} {f : Supply} {d : Deployment}

/-- What the session store of a process sees of it. -/
def moment (d : Deployment) : Moment := ⟨d.clock.elapsed, d.sessions⟩

/-- Whether a question brings nothing into the store. -/
def BringsNothing (q : Question) : Prop :=
  ∃ q', q = .sessions q' ∧ (Move.ask q').write? = none

/-- A program that brings nothing into the store makes moves that bring nothing. -/
theorem moves_of_asks {α : Type} {p : UseCase α} (hp : Asks BringsNothing p) (hreach : d.InReach) :
    ((p.runOn (serve f) d).2.InReach ∧ (p.runOn (serve f) d).2.idCount = d.idCount) ∧
      ∃ more, moment (p.runOn (serve f) d).2 = (moment d).run more ∧
        ∀ move ∈ more, move.write? = none := by
  let Inv (e : Deployment) : Prop := (e.InReach ∧ e.idCount = d.idCount) ∧
    ∃ more, moment e = (moment d).run more ∧ ∀ move ∈ more, move.write? = none
  suffices h : Preserves (serve f) Inv p from h.run d ⟨⟨hreach, rfl⟩, [], rfl, nofun⟩
  refine Preserves.of_asks hp ?_
  rintro _ e ⟨q, rfl, hq⟩ ⟨⟨hreach, hcount⟩, more, hmoment, hmore⟩
  refine ⟨⟨hreach.serve _, ?_⟩, more ++ [.ask q], ?_, ?_⟩
  · rw [hreach.serve_sessions]
    exact hcount
  · rw [hreach.serve_sessions, Moment.run_append, ← hmoment]
    rfl
  · exact List.forall_mem_append.2 ⟨hmore, List.forall_mem_singleton.2 hq⟩

/-- What a request does to the session store: moves that bring nothing, or one that brings its
token, and a new id with it if it opens a session. -/
inductive Performs (s : Setup) (f : Supply) (d : Deployment) (request : Request) :
    Deployment → Prop
  | quiet {d' : Deployment} {more : List Move} (hmoment : moment d' = (moment d).run more)
      (hquiet : ∀ move ∈ more, move.write? = none) (hcount : d'.idCount = d.idCount) :
      Performs s f d request d'
  | brings {d' : Deployment} {move : Move} {jti : String} {expiresAt : Timestamp}
      (htoken : request.token? = some (jti, expiresAt))
      (hmoment : moment d' = (moment d).step move)
      (hwrite : move.write? = some (jti, ⟨s.sessionTtl, d.clock.wall.secondsUntil expiresAt⟩))
      (hid : ∀ id, move.sessionId? = some id → id = f.ids d.idCount ∧ d'.idCount = d.idCount + 1)
      (hcount : d.idCount ≤ d'.idCount) : Performs s f d request d'

theorem Performs.refl (s : Setup) (f : Supply) (d : Deployment) (request : Request) :
    Performs s f d request d :=
  have hmoment : moment d = (moment d).run [] := rfl
  .quiet hmoment nofun rfl

/-- Lifetimes are counted from the time of the request. -/
theorem lifetimes_eq_ok {ttl : Nat} {now expiresAt : Timestamp} {ttls : Ttls} {expires : Timestamp}
    (h : lifetimes ttl now expiresAt = .ok (ttls, expires)) :
    ttls = ⟨ttl, now.secondsUntil expiresAt⟩ :=
  (lifetimes_eq_ok_iff.1 h).2.1

theorem performs_openSession (hreach : d.InReach) (o : Opening) :
    (Request.perform s f d (.openSession o)).InReach ∧
      Performs s f d (.openSession o) (Request.perform s f d (.openSession o)) := by
  rw [Request.perform, Auth.runOn_openSession_eq]
  split
  · exact ⟨hreach, .refl s f d _⟩
  cases hlifetimes : lifetimes s.sessionTtl d.clock.wall o.jtiExpiresAt with
  | error e => exact ⟨hreach, .refl s f d _⟩
  | ok t =>
    obtain ⟨ttls, expires⟩ := t
    dsimp only
    rw [if_pos hreach.sessions]
    refine ⟨⟨hreach.sessions, hreach.users, hreach.cache⟩, ?_⟩
    let move : Move := .ask (.call (.create ⟨f.ids d.idCount, o.userId, o.device, o.ip, o.jti,
      d.clock.wall, d.clock.wall, expires⟩ ttls))
    have hwrite : move.write? =
        some (o.jti, ⟨s.sessionTtl, d.clock.wall.secondsUntil o.jtiExpiresAt⟩) := by
      rw [Move.write?, lifetimes_eq_ok hlifetimes]
    refine .brings rfl ?_ hwrite ?_ (Nat.le_succ _)
    · rw [Moment.step, SessionStore.answer_create, if_pos (Auth.lifetimes_isValid hlifetimes)]
      rfl
    · rintro _ ⟨⟩
      exact ⟨rfl, rfl⟩

theorem performs_renew (hreach : d.InReach) (r : Renewal) :
    (Request.perform s f d (.renew r)).InReach ∧
      Performs s f d (.renew r) (Request.perform s f d (.renew r)) := by
  rw [Request.perform, Auth.runOn_renew_eq]
  split
  · exact ⟨hreach, .refl s f d _⟩
  cases hlifetimes : lifetimes s.sessionTtl d.clock.wall r.jtiExpiresAt with
  | error e => exact ⟨hreach, .refl s f d _⟩
  | ok t =>
    obtain ⟨ttls, expires⟩ := t
    dsimp only
    rw [if_pos hreach.sessions]
    refine ⟨⟨hreach.sessions, hreach.users, hreach.cache⟩, ?_⟩
    have hwrite : (Move.ask (.call (.rotate (Auth.rotation d r expires ttls)))).write? =
        some (r.newJti, ⟨s.sessionTtl, d.clock.wall.secondsUntil r.jtiExpiresAt⟩) := by
      rw [Move.write?, Auth.rotation, lifetimes_eq_ok hlifetimes]
    exact .brings rfl rfl hwrite (fun _ h => absurd h.symm (Option.some_ne_none _))
      (Nat.le_refl _)

/-- A request that brings nothing. -/
theorem performs_of_asks {α : Type} {p : UseCase α} (request : Request)
    (hp : Asks BringsNothing p) (hreach : d.InReach) : (p.runOn (serve f) d).2.InReach ∧
      Performs s f d request (p.runOn (serve f) d).2 := by
  obtain ⟨⟨hreach, hcount⟩, more, hmoment, hmore⟩ := moves_of_asks (f := f) hp hreach
  exact ⟨hreach, .quiet hmoment hmore hcount⟩

theorem performs (hreach : d.InReach) (request : Request) :
    (request.perform s f d).InReach ∧ Performs s f d request (request.perform s f d) := by
  cases request with
  | openSession o => exact performs_openSession hreach o
  | renew r => exact performs_renew hreach r
  | delete x => exact performs_of_asks _ (asks_delete ⟨_, rfl, rfl⟩ fun _ => ⟨_, rfl, rfl⟩) hreach
  | deleteAll user =>
    exact performs_of_asks _ (asks_deleteAll ⟨_, rfl, rfl⟩ (fun _ => ⟨_, rfl, rfl⟩) ⟨_, rfl, rfl⟩)
      hreach
  | sweep => exact performs_of_asks _ (asks_sweepAll ⟨_, rfl, rfl⟩ fun _ => ⟨_, rfl, rfl⟩) hreach
  | advance millis =>
    refine ⟨⟨hreach.sessions, hreach.users, hreach.cache⟩, ?_⟩
    have hmoment : moment (d.advance millis) =
        (moment d).run [.pass (millis * nanosPerMilli)] := rfl
    exact .quiet hmoment (List.forall_mem_singleton.2 rfl) rfl

end Moves

/-! ## Runs -/

theorem sessionIds_concat (past : List Move) (move : Move) :
    sessionIds (past ++ [move]) = sessionIds past ++ move.sessionId?.toList := by
  rw [SessionStore.sessionIds_append]
  cases h : move.sessionId? <;> simp [sessionIds, h]

theorem tokenId?_eq (move : Move) : move.tokenId? = move.write?.map (·.1) := by
  cases move with
  | ask q =>
    cases q with
    | call c => cases c <;> rfl
    | indexedUsers => rfl
  | indexSize | pass => rfl

/-- A move that opens a session brings a token. -/
theorem sessionId?_eq_none {move : Move} (h : move.write? = none) : move.sessionId? = none := by
  cases move with
  | ask q =>
    cases q with
    | call c => cases c <;> first | rfl | cases h
    | indexedUsers => rfl
  | indexSize | pass => rfl

/-- What was brought in a longer run was brought before, or by the moves that were added. -/
theorem brought_append {moves more : List Move} {jti : String} {time : Nat} {ttls : Ttls}
    (h : Brought (moves ++ more) jti time ttls) : Brought moves jti time ttls ∨
      ∃ earlier move later, more = earlier ++ move :: later ∧ move.write? = some (jti, ttls) ∧
        (SessionStore.after (moves ++ earlier)).now = time := by
  obtain ⟨earlier, move, later, hmoves, hwrite, htime⟩ := h
  rcases append_eq_append_cons hmoves with ⟨later', hplace, -⟩ | ⟨earlier', rfl, hplace⟩
  · exact .inl ⟨earlier, move, later', hplace, hwrite, htime⟩
  · exact .inr ⟨earlier', move, later, hplace, hwrite, htime⟩

section Runs

variable {s : Setup} {f : Supply} {wall : Timestamp} {requests : List Request} {request : Request}

theorem served_concat (requests : List Request) (request : Request) :
    served s f wall (requests ++ [request]) = request.perform s f (served s f wall requests) := by
  rw [served, List.foldl_append]
  rfl

/-- Whether one of some requests brought a refresh token, at some time and with these lifetimes. -/
def Requested (s : Setup) (f : Supply) (wall : Timestamp) (requests : List Request) (jti : String)
    (time : Nat) (ttls : Ttls) : Prop :=
  ∃ earlier request later expiresAt, requests = earlier ++ request :: later ∧
    request.token? = some (jti, expiresAt) ∧ (served s f wall earlier).clock.elapsed = time ∧
    ttls = ⟨s.sessionTtl, (served s f wall earlier).clock.wall.secondsUntil expiresAt⟩

theorem Requested.append {jti : String} {time : Nat} {ttls : Ttls}
    (h : Requested s f wall requests jti time ttls) (more : List Request) :
    Requested s f wall (requests ++ more) jti time ttls := by
  obtain ⟨earlier, request, later, expiresAt, rfl, hwith⟩ := h
  exact ⟨earlier, request, later ++ more, expiresAt, by simp, hwith⟩

/-- A run of moves that does to the store what some requests did: it uses no session id twice, and
brings no tokens but those of the requests. -/
structure Traced (s : Setup) (f : Supply) (wall : Timestamp) (requests : List Request)
    (moves : List Move) : Prop where
  inReach : (served s f wall requests).InReach
  moment : moment (served s f wall requests) = SessionStore.after moves
  nodup : (sessionIds moves).Nodup
  given : ∀ id ∈ sessionIds moves, id ∈ f.given (served s f wall requests).idCount
  tokens : (tokenIds moves).Sublist (broughtIds requests)
  requested : ∀ {jti : String} {time : Nat} {ttls : Ttls}, Brought moves jti time ttls →
    Requested s f wall requests jti time ttls

theorem broughtIds_concat (requests : List Request) (request : Request) :
    broughtIds (requests ++ [request]) =
      broughtIds requests ++ (request.token?.map (·.1)).toList := by
  rw [broughtIds, List.filterMap_append, List.map_append]
  cases h : request.token? <;> simp [broughtIds, h]

/-- Moves that bring nothing leave it at what was brought before. -/
theorem Traced.quiet {moves more : List Move} (h : Traced s f wall requests moves)
    (hreach : (served s f wall (requests ++ [request])).InReach)
    (hmoment : Sessions.moment (served s f wall (requests ++ [request])) =
      (Sessions.moment (served s f wall requests)).run more)
    (hquiet : ∀ move ∈ more, move.write? = none)
    (hcount : (served s f wall (requests ++ [request])).idCount =
      (served s f wall requests).idCount) :
    Traced s f wall (requests ++ [request]) (moves ++ more) := by
  have hsessions : sessionIds (moves ++ more) = sessionIds moves := by
    rw [SessionStore.sessionIds_append, List.append_right_eq_self]
    exact List.filterMap_eq_nil_iff.2 fun move hmove => sessionId?_eq_none (hquiet move hmove)
  have htokens : tokenIds (moves ++ more) = tokenIds moves := by
    rw [SessionStore.tokenIds_append, List.append_right_eq_self]
    refine List.filterMap_eq_nil_iff.2 fun move hmove => ?_
    rw [tokenId?_eq, hquiet move hmove]
    rfl
  refine ⟨hreach, ?_, hsessions ▸ h.nodup, ?_, ?_, fun hbrought => ?_⟩
  · rw [hmoment, h.moment, SessionStore.after_append]
  · rw [hsessions, hcount]
    exact h.given
  · rw [htokens, broughtIds_concat]
    exact h.tokens.trans (List.sublist_append_left ..)
  · rcases brought_append hbrought with hold | ⟨earlier, move, later, rfl, hwrite, -⟩
    · exact (h.requested hold).append _
    · cases (hquiet move (by simp)).symm.trans hwrite

/-- A session that is opened by one more move has a new id. -/
theorem Traced.nodup_concat {moves : List Move} (hf : Function.Injective f.ids)
    (h : Traced s f wall requests moves) {move : Move} {count : Nat}
    (hcount : (served s f wall requests).idCount ≤ count)
    (hid : ∀ id, move.sessionId? = some id → id = f.ids (served s f wall requests).idCount ∧
      count = (served s f wall requests).idCount + 1) :
    (sessionIds (moves ++ [move])).Nodup ∧
      ∀ id ∈ sessionIds (moves ++ [move]), id ∈ f.given count := by
  rw [sessionIds_concat]
  cases hopened : move.sessionId? with
  | none =>
    rw [Option.toList_none, List.append_nil]
    exact ⟨h.nodup, fun id hid => f.given_mono hcount (h.given id hid)⟩
  | some id =>
    obtain ⟨rfl, rfl⟩ := hid id hopened
    have hnew := Supply.not_mem_given hf (served s f wall requests).idCount
    rw [Supply.given_succ]
    refine ⟨List.nodup_append.2 ⟨h.nodup, List.pairwise_singleton _ _, ?_⟩, ?_⟩
    · rintro id hid _ hlast rfl
      obtain rfl := List.mem_singleton.1 hlast
      exact hnew (h.given _ hid)
    · intro id hid
      rcases List.mem_append.1 hid with hid | hid
      · exact List.mem_cons_of_mem _ (h.given id hid)
      · exact List.mem_singleton.1 hid ▸ List.mem_cons_self ..

/-- A move that brings a token brings that of the request. -/
theorem Traced.brings {moves : List Move} (h : Traced s f wall requests moves)
    (hreach : (served s f wall (requests ++ [request])).InReach) {move : Move} {jti : String}
    {expiresAt : Timestamp} (htoken : request.token? = some (jti, expiresAt))
    (hmoment : Sessions.moment (served s f wall (requests ++ [request])) =
      (Sessions.moment (served s f wall requests)).step move)
    (hwrite : move.write? = some (jti,
      ⟨s.sessionTtl, (served s f wall requests).clock.wall.secondsUntil expiresAt⟩))
    (hids : (sessionIds (moves ++ [move])).Nodup ∧ ∀ id ∈ sessionIds (moves ++ [move]),
      id ∈ f.given (served s f wall (requests ++ [request])).idCount) :
    Traced s f wall (requests ++ [request]) (moves ++ [move]) := by
  refine ⟨hreach, ?_, hids.1, hids.2, ?_, fun hbrought => ?_⟩
  · rw [hmoment, h.moment, SessionStore.after_concat]
  · have hlast : tokenIds [move] = [jti] := by simp [tokenIds, tokenId?_eq, hwrite]
    rw [SessionStore.tokenIds_append, hlast, broughtIds_concat, htoken]
    exact h.tokens.append (.refl _)
  · rcases brought_append hbrought with hold | ⟨earlier, move', later, hplace, hwrite', rfl⟩
    · exact (h.requested hold).append _
    · obtain ⟨rfl, rfl, rfl⟩ : earlier = [] ∧ move' = move ∧ later = [] := by
        simpa [List.singleton_eq_append_iff] using hplace
      rw [hwrite, Option.some.injEq, Prod.mk.injEq] at hwrite'
      obtain ⟨rfl, rfl⟩ := hwrite'
      refine ⟨requests, request, [], expiresAt, rfl, htoken, ?_, rfl⟩
      rw [List.append_nil]
      exact congrArg Moment.now h.moment

/-- One more request makes more moves. -/
theorem Traced.concat {moves : List Move} (hf : Function.Injective f.ids)
    (h : Traced s f wall requests moves) (request : Request) :
    ∃ more, Traced s f wall (requests ++ [request]) (moves ++ more) := by
  obtain ⟨hreach, hperforms⟩ := performs (s := s) (f := f) h.inReach request
  rw [← served_concat] at hreach hperforms
  cases hperforms with
  | quiet hmoment hquiet hcount => exact ⟨_, h.quiet hreach hmoment hquiet hcount⟩
  | brings htoken hmoment hwrite hid hcount =>
    exact ⟨_, h.brings hreach htoken hmoment hwrite (h.nodup_concat hf hcount hid)⟩

/-- Every run of requests is a run of moves. -/
theorem traced (hf : Function.Injective f.ids) (requests : List Request) :
    ∃ moves, Traced s f wall requests moves := by
  induction requests using List.reverseRecOn with
  | nil =>
    refine ⟨[], ⟨rfl, rfl, nofun⟩, rfl, List.nodup_nil, nofun, .slnil, ?_⟩
    rintro jti time ttls ⟨earlier, move, later, hplace, -⟩
    simp at hplace
  | append_singleton past request ih =>
    obtain ⟨moves, h⟩ := ih
    obtain ⟨more, hmore⟩ := h.concat hf request
    exact ⟨_, hmore⟩

/-! ## Tokens that count as valid -/

/-- Whether a refresh token is the current one of a live session. -/
def IsCurrent (d : Deployment) (jti : String) : Prop :=
  ∃ id session, d.sessions.session? d.clock.elapsed id = some session ∧ session.currentJti = jti

/-- A token that counts as valid has a pointer that is live. -/
theorem hasJti_of_runOn {d : Deployment} {jti : String}
    (hvalid : ((hasJti jti).runOn (serve f) d).1 = .ok true) :
    d.sessions.hasJti d.clock.elapsed jti = true := by
  rw [hasJti] at hvalid
  split at hvalid
  · cases hvalid
  rw [runOn_sessions] at hvalid
  by_cases hreach : d.sessionsReachable
  · rw [serve_sessions hreach] at hvalid
    exact Except.ok.inj hvalid
  · rw [serve_sessions_of_unreachable hreach] at hvalid
    cases hvalid

theorem deadline_le {time : Nat} {ttl ttl' : Int} (h : ttl ≤ ttl') :
    deadline time ttl ≤ deadline time ttl' :=
  Nat.add_le_add_left (Nat.mul_le_mul_right _ (Int.toNat_le_toNat h)) time

/-- **What it means that a refresh token is valid.**  It was brought by one of the requests, its own
lifetime is not over, and it is the current token of a live session just as long as the lifetime of
sessions, counted from that request on, is not over.  So it always is, if no token is given a longer
lifetime than its session. -/
theorem hasJti_current {jti : String} (hf : Function.Injective f.ids)
    (hfresh : (broughtIds requests).Nodup)
    (hvalid : ((hasJti jti).runOn (serve f) (served s f wall requests)).1 = .ok true) :
    let d := served s f wall requests
    (∃ time ttls, Requested s f wall requests jti time ttls ∧
      d.clock.elapsed < deadline time ttls.jti ∧
      (IsCurrent d jti ↔ d.clock.elapsed < deadline time s.sessionTtl)) ∧
    ((∀ time ttls, Requested s f wall requests jti time ttls → ttls.jti ≤ s.sessionTtl) →
      IsCurrent d jti) := by
  intro d
  obtain ⟨moves, h⟩ : ∃ moves, Traced s f wall requests moves := traced hf requests
  have hnow : d.clock.elapsed = (SessionStore.after moves).now := congrArg Moment.now h.moment
  have hstore : d.sessions = (SessionStore.after moves).store := congrArg Moment.store h.moment
  have hptr := hasJti_of_runOn hvalid
  rw [show (served s f wall requests).sessions = _ from hstore,
    show (served s f wall requests).clock.elapsed = _ from hnow] at hptr
  obtain ⟨time, ttls, hbrought, hlives, hiff⟩ :=
    SessionStore.hasJti_backed h.nodup (hfresh.sublist h.tokens) hptr
  rw [← hnow, ← hstore] at hiff
  rw [← hnow] at hlives
  have hrequested := h.requested hbrought
  have hsession : ttls.session = s.sessionTtl := by
    obtain ⟨_, _, _, _, _, _, _, rfl⟩ := hrequested
    rfl
  rw [hsession] at hiff
  refine ⟨⟨time, ttls, hrequested, hlives, hiff⟩, fun hshort => hiff.2 ?_⟩
  exact Nat.lt_of_lt_of_le hlives (deadline_le (hshort time ttls hrequested))

end Runs

/-- A login with a refresh token for two hours, and an hour later. -/
def loginThenHour : List Request :=
  [.openSession ⟨.nil, "j", .ofSeconds 7200, "", ""⟩, .advance 3600000]

/-- The token is valid, and as sessions live for a day, it is that of a live session. -/
theorem hasJti_current_loginThenHour :
    let d := served Sample.setup Auth.FirstLogin.supply (.ofSeconds 0) loginThenHour
    (broughtIds loginThenHour).Nodup ∧
    ((hasJti "j").runOn (serve Auth.FirstLogin.supply) d).1 = .ok true ∧
    IsCurrent d "j" := by
  have hfresh : (broughtIds loginThenHour).Nodup := by decide
  have hvalid : ((hasJti "j").runOn (serve Auth.FirstLogin.supply)
      (served Sample.setup Auth.FirstLogin.supply (.ofSeconds 0) loginThenHour)).1 =
        .ok true := by
    decide
  have hboth := hasJti_current Auth.FirstLogin.injective_ids hfresh hvalid
  refine ⟨hfresh, hvalid, hboth.2 fun time ttls => ?_⟩
  rintro ⟨earlier, request, later, expiresAt, hplace, htoken, -, rfl⟩
  rw [loginThenHour] at hplace
  rcases earlier with _ | ⟨first, _ | ⟨second, rest⟩⟩
  · cases hplace
    cases htoken
    decide
  · cases hplace
    cases htoken
  · exact absurd (congrArg List.length hplace) (by simp)

/-- Where sessions live for an hour, the token is valid at the end of it and its session is gone. -/
theorem not_always_current :
    let setup := { Sample.setup with sessionTtl := 3600 }
    let d := served setup Auth.FirstLogin.supply (.ofSeconds 0) loginThenHour
    ((hasJti "j").runOn (serve Auth.FirstLogin.supply) d).1 = .ok true ∧ ¬ IsCurrent d "j" := by
  refine ⟨by decide, ?_⟩
  rintro ⟨id, session, hs, -⟩
  obtain ⟨e, he, hlive, -⟩ := SessionStore.session?_eq_some_iff.1 hs
  -- the only record is that of the login
  obtain ⟨rfl, rfl⟩ := Prod.mk.inj (List.mem_singleton.1 (Table.get?_eq_some_iff.1 he))
  exact absurd hlive (by decide)

end Sessions
end SessionAuth
