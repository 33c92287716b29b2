import Mathlib.Data.List.Nodup
import SessionAuth.Proofs.Service.Run
import SessionAuth.Proofs.Session.Sparing
import SessionAuth.Proofs.UseCase.Outcome
import SessionAuth.Proofs.UseCase.Validity

/-!
# The past of a service

What is known of the session store is known of runs from the empty store (`SessionStore.after`).  A
service that has come a long way is such a run: `Service.reachable_history` finds the moves that led
to its sessions.  Only logins open sessions and only logins and refreshes bring tokens, each under
an id that the process has just given out, so that no id is brought twice if none is given out
twice.

Invariants of the store carry over in this way to all that can become of a service, whatever its
operations were and whoever they were for.
-/

set_option autoImplicit false

namespace SessionAuth

open Environment Fallible Deployment
open SessionStore (Move after sessionIds tokenIds)
open Sessions (moment)

/-! ## Ids that were given out -/

namespace Supply

variable {f : Supply} {lo mid hi : Nat} {ids more : List String}

/-- Ids that were given out between two counts, none of them twice. -/
def Drawn (f : Supply) (lo hi : Nat) (ids : List String) : Prop :=
  ∃ ns : List Nat, ns.Nodup ∧ (∀ n ∈ ns, lo ≤ n ∧ n < hi) ∧ ids = ns.map f.ids

namespace Drawn

theorem nil (f : Supply) (lo hi : Nat) : f.Drawn lo hi [] := ⟨[], List.nodup_nil, nofun, rfl⟩

theorem singleton {n : Nat} (hlo : lo ≤ n) (hhi : n < hi) : f.Drawn lo hi [f.ids n] :=
  ⟨[n], List.nodup_singleton n, List.forall_mem_singleton.2 ⟨hlo, hhi⟩, rfl⟩

/-- What was given out later are other ids. -/
theorem append (h : f.Drawn lo mid ids) (h' : f.Drawn mid hi more) (hlo : lo ≤ mid)
    (hhi : mid ≤ hi) : f.Drawn lo hi (ids ++ more) := by
  obtain ⟨ns, hns, hbounds, rfl⟩ := h
  obtain ⟨ms, hms, hbounds', rfl⟩ := h'
  refine ⟨ns ++ ms, List.nodup_append.2 ⟨hns, hms, ?_⟩, fun n hn => ?_, List.map_append.symm⟩
  · rintro n hn m hm rfl
    have hbefore := (hbounds n hn).2
    have hafter := (hbounds' n hm).1
    omega
  · rcases List.mem_append.1 hn with hn | hn
    · have hbefore := hbounds n hn
      omega
    · have hafter := hbounds' n hn
      omega

theorem nodup (h : f.Drawn lo hi ids) (hf : Function.Injective f.ids) : ids.Nodup := by
  obtain ⟨ns, hns, -, rfl⟩ := h
  exact hns.map hf

theorem exists_of_mem (h : f.Drawn lo hi ids) {id : String} (hid : id ∈ ids) :
    ∃ n, lo ≤ n ∧ n < hi ∧ f.ids n = id := by
  obtain ⟨ns, -, hbounds, rfl⟩ := h
  obtain ⟨n, hn, rfl⟩ := List.mem_map.1 hid
  exact ⟨n, (hbounds n hn).1, (hbounds n hn).2, rfl⟩

/-- An id that was given out before, or is still to be given out, is another one. -/
theorem not_mem (h : f.Drawn lo hi ids) (hf : Function.Injective f.ids) {n : Nat}
    (hn : n < lo ∨ hi ≤ n) : f.ids n ∉ ids := by
  intro hmem
  obtain ⟨m, hlo, hhi, heq⟩ := h.exists_of_mem hmem
  obtain rfl := hf heq
  omega

end Drawn
end Supply

/-! ## Moves of a process -/

/-- Moves that lead from the sessions of a process to those of a later one, and bring ids that were
given out in between. -/
structure Draws (f : Supply) (d d' : Deployment) (more : List Move) : Prop where
  moved : moment d' = (moment d).run more
  count : d.idCount ≤ d'.idCount
  sessions : f.Drawn d.idCount d'.idCount (sessionIds more)
  tokens : f.Drawn d.idCount d'.idCount (tokenIds more)

/-- Moves that lead from the empty store to the sessions of a process. -/
structure History (f : Supply) (d : Deployment) (moves : List Move) : Prop where
  moved : moment d = after moves
  sessions : f.Drawn 0 d.idCount (sessionIds moves)
  tokens : f.Drawn 0 d.idCount (tokenIds moves)

section Moves

variable {f : Supply} {d d' d'' : Deployment} {moves more : List Move} {α : Type}

/-- Where the sessions are not touched there are no moves. -/
theorem Draws.nil (hmoment : moment d' = moment d) (hcount : d.idCount ≤ d'.idCount) :
    Draws f d d' [] :=
  ⟨hmoment, hcount, .nil f _ _, .nil f _ _⟩

theorem Draws.trans {last : List Move} (h : Draws f d d' more) (h' : Draws f d' d'' last) :
    Draws f d d'' (more ++ last) where
  moved := by rw [h'.moved, h.moved, SessionStore.Moment.run_append]
  count := Nat.le_trans h.count h'.count
  sessions := by
    rw [SessionStore.sessionIds_append]
    exact h.sessions.append h'.sessions h.count h'.count
  tokens := by
    rw [SessionStore.tokenIds_append]
    exact h.tokens.append h'.tokens h.count h'.count

theorem History.append (h : History f d moves) (h' : Draws f d d' more) :
    History f d' (moves ++ more) where
  moved := by rw [h'.moved, h.moved, SessionStore.after_append]
  sessions := by
    rw [SessionStore.sessionIds_append]
    exact h.sessions.append h'.sessions (Nat.zero_le _) h'.count
  tokens := by
    rw [SessionStore.tokenIds_append]
    exact h.tokens.append h'.tokens (Nat.zero_le _) h'.count

/-- A move that brings nothing. -/
theorem Draws.quiet {move : Move} (hmoment : moment d' = (moment d).step move)
    (hwrite : move.write? = none) (hcount : d.idCount ≤ d'.idCount) : Draws f d d' [move] := by
  have hsessions : sessionIds [move] = [] := by
    simp [sessionIds, Sessions.sessionId?_eq_none hwrite]
  have htokens : tokenIds [move] = [] := by simp [tokenIds, Sessions.tokenId?_eq, hwrite]
  exact ⟨hmoment, hcount, hsessions ▸ .nil f _ _, htokens ▸ .nil f _ _⟩

/-- A question that brings nothing into the session store. -/
def IsStill : Question → Prop
  | .sessions q => (Move.ask q).write? = none
  | _ => True

theorem Looks.isStill {q : Question} (h : Looks q) : IsStill q := by
  cases q with
  | sessions q =>
    cases q with
    | indexedUsers => rfl
    | call c => cases c <;> first | rfl | exact h.elim
  | _ => exact trivial

theorem draws_serve {q : Question} (hq : IsStill q) : ∃ more, Draws f d (serve f q d).2 more := by
  cases q with
  | sessions q =>
    simp only [serve, answer]
    split
    · exact ⟨[.ask q], .quiet rfl hq (Nat.le_refl _)⟩
    · exact ⟨[], .nil rfl (Nat.le_refl _)⟩
  | users c =>
    simp only [serve, answer]
    split <;> exact ⟨[], .nil rfl (Nat.le_refl _)⟩
  | newId => exact ⟨[], .nil rfl (Nat.le_succ _)⟩
  | _ => exact ⟨[], .nil rfl (Nat.le_refl _)⟩

/-- A program that brings nothing makes moves that bring nothing. -/
theorem draws_of_asks {p : UseCase α} (hp : Asks IsStill p) :
    ∃ more, Draws f d (runOn (serve f) p d).2 more := by
  have hkept : Preserves (serve f) (fun e => ∃ more, Draws f d e more) p := by
    refine Preserves.of_asks hp ?_
    rintro q e hq ⟨more, hmore⟩
    obtain ⟨last, hlast⟩ := draws_serve (f := f) (d := e) hq
    exact ⟨_, hmore.trans hlast⟩
  exact hkept.run d ⟨[], .nil rfl (Nat.le_refl _)⟩

end Moves

/-! ## Moves of an operation -/

section Operations

variable {s : Setup} {f : Supply} {d d' : Deployment} {α : Type}

/-- A login makes one move at most, and the ids that it brings were the next ones. -/
theorem Auth.draws_login {input : Auth.Login} {r : Except Error Auth.Tokens}
    (h : Auth.LoginCase s f d input r d') : ∃ more, Draws f d d' more := by
  cases h with
  | refused hcount => exact ⟨[], .nil rfl hcount⟩
  | @letIn user ttls expires h =>
    have hvalid := Auth.lifetimes_isValid h.lifetimes
    let move : Move := .ask (.call (.create (Auth.sessionOf f d input user expires) ttls))
    have hmoved : moment (Auth.letIn f d input user ttls expires) = (moment d).run [move] := by
      show _ = (moment d).step move
      rw [SessionStore.Moment.step, SessionStore.answer_create, if_pos hvalid]
      rfl
    refine ⟨[move], hmoved, ?_, ?_, ?_⟩
    · exact Nat.le_add_right _ 3
    · exact .singleton (Nat.le_succ _) (by simp [Auth.letIn])
    · exact .singleton (Nat.le_refl _) (by simp [Auth.letIn])

theorem Auth.draws_refresh {input : Auth.Refresh} {r : Except Error Auth.Tokens}
    (h : Auth.RefreshCase s f d input r d') : ∃ more, Draws f d d' more := by
  have hexchange : ∀ {r : Rotation}, d'.sessions = (d.sessions.rotate d.clock.elapsed r).2 →
      r.newJti = f.ids d.idCount → d'.clock = d.clock → d.idCount < d'.idCount →
        ∃ more, Draws f d d' more := by
    intro r hsessions hnew hclock hcount
    refine ⟨[.ask (.call (.rotate r))], ?_, Nat.le_of_lt hcount, .nil f _ _, ?_⟩
    · rw [moment, hsessions, hclock]
      rfl
    · rw [show tokenIds [.ask (.call (.rotate r))] = [r.newJti] from rfl, hnew]
      exact .singleton (Nat.le_refl _) hcount
  cases h with
  | refused hsame =>
    refine ⟨[], .nil ?_ hsame.idCount⟩
    rw [moment, moment, hsame.sessions, hsame.clock]
  | spent _ _ hnew _ _ hsessions haside hcount =>
    exact hexchange hsessions hnew haside.clock (by omega)
  | @carriedOn claims user id session ttls expires _ _ hlifetimes hpointer hlive hsessions haside
      hcount =>
    have hrotated := SessionStore.rotate_of_live d.clock.elapsed d.sessions
      (r := ⟨claims.jti, f.ids d.idCount, input.ip, input.device, d.clock.wall, expires, ttls⟩)
      (Auth.lifetimes_isValid hlifetimes) hpointer hlive
    exact hexchange (hsessions.trans (congrArg Prod.snd hrotated).symm) rfl haside.clock (by omega)

theorem asksStill_deleteAll (user : UserId) : Asks IsStill (Sessions.deleteAll user) :=
  Sessions.asks_deleteAll rfl (fun _ => rfl) rfl

theorem asksStill_delete (x : Sessions.Deletion) : Asks IsStill (Sessions.delete x) :=
  Sessions.asks_delete rfl fun _ => rfl

theorem Account.asksStill_create (a : NewAccount) : Asks IsStill (create s a) := by
  simp only [create]
  split
  · exact asks_throw_bind _ _
  refine Asks.bind (asks_lift _) fun _ => Asks.bind (asks_newSalt trivial) fun salt => ?_
  exact asks_usersCall trivial

theorem Account.asksStill_changePassword (c : Caller) (current new : String) :
    Asks IsStill (changePassword s c current new) := by
  refine Asks.bind (asks_lift _) fun _ => Asks.bind (asks_usersCall trivial) fun u => ?_
  cases u with
  | none => exact asks_throw _
  | some u =>
    refine Asks.bind (asks_lift _) fun matched => ?_
    dsimp only
    split
    · exact asks_throw_bind _ _
    refine Asks.bind (asks_lift _) fun _ => Asks.bind (asks_newSalt trivial) fun salt => ?_
    refine Asks.bind (asks_usersCall trivial) fun changed => ?_
    split
    · exact asks_throw_bind _ _
    refine Asks.bind (asksStill_deleteAll _) fun ended => ?_
    refine Asks.bind (Authorization.asks_clearUser trivial) fun _ => ?_
    exact Asks.bind (asks_publish trivial) fun _ => asks_pure _

theorem OwnSessions.asksStill_revoke (c : Caller) (ids : List String) (others : Bool) :
    Asks IsStill (revoke s c ids others) := by
  rw [revoke]
  split
  · exact asks_throw_bind _ _
  refine Asks.bind ((Authorization.looks_authorize _ _ _).mono fun _ => Looks.isStill) fun _ => ?_
  exact asksStill_delete _

theorem UserAdmin.asksStill_require (c : Caller) (permission : Permission) :
    Asks IsStill (require s c permission) :=
  (looks_require c permission).mono fun _ => Looks.isStill

theorem UserAdmin.asksStill_invalidate (user : UserId) (event : Event) :
    Asks IsStill (invalidate user event) :=
  asks_invalidate trivial trivial

theorem RoleAdmin.asksStill_change (c : Caller) (role : Role) {change : UseCase Bool}
    (hchange : Asks IsStill change) : Asks IsStill do
      requireManage s c
      let changed ← change
      if changed then invalidate role
      return changed :=
  asks_change (UserAdmin.asksStill_require c .roleManage) hchange (asks_invalidate trivial trivial)

theorem Invalidator.asksStill_handle (i : Invalidator) (e : Event) : Asks IsStill (i.handle e) := by
  cases i <;> cases e
  case userFacts.userChanged user => exact Authorization.asks_clearUser trivial
  case userFacts.userDeleted user => exact Authorization.asks_clearUser trivial
  case sessions.userDeleted user => exact Asks.bind (asksStill_deleteAll user) fun _ => asks_pure _
  case rolePermissions.roleChanged name =>
    rw [handle]
    split
    · exact Authorization.asks_clearRole trivial
    · exact asks_throw _
  all_goals exact asks_pure _

/-- The operations that give out tokens. -/
def Operation.GivesOut : Operation α → Prop
  | .login _ | .refresh _ => True
  | _ => False

/-- All other operations bring nothing into the session store. -/
theorem Operation.asksStill (op : Operation α) (h : ¬ op.GivesOut) : Asks IsStill (op.body s) := by
  unfold Operation.body
  cases op with
  | login | refresh => exact absurd trivial h
  | authenticate => exact (Auth.looks_authenticate _).mono fun _ => Looks.isStill
  | logout => exact Asks.bind (asksStill_delete _) fun _ => asks_pure _
  | profile => exact (Auth.looks_profile _).mono fun _ => Looks.isStill
  | register => exact Account.asksStill_create _
  | changePassword => exact Account.asksStill_changePassword ..
  | listSessions => exact (OwnSessions.looks_list _).mono fun _ => Looks.isStill
  | revokeSessions => exact OwnSessions.asksStill_revoke ..
  | getUser => exact (UserAdmin.looks_get _ _).mono fun _ => Looks.isStill
  | createUser =>
    exact Asks.bind (UserAdmin.asksStill_require _ _) fun _ => Account.asksStill_create _
  | listUsers => exact (UserAdmin.looks_list _ _ _).mono fun _ => Looks.isStill
  | changeRole =>
    exact UserAdmin.asks_changeRole (UserAdmin.asksStill_require _ _) trivial
      (UserAdmin.asksStill_invalidate _ _)
  | changeStatus =>
    exact UserAdmin.asks_changeStatus (UserAdmin.asksStill_require _ _) trivial
      (UserAdmin.asksStill_invalidate _ _) (asksStill_deleteAll _)
  | deleteUser =>
    exact UserAdmin.asks_delete (UserAdmin.asksStill_require _ _) trivial
      (UserAdmin.asksStill_invalidate _ _)
  | listPermissions => exact (RoleAdmin.looks_list _ _).mono fun _ => Looks.isStill
  | grant | revoke => exact RoleAdmin.asksStill_change _ _ (asks_grantsCall trivial)

/-- **What an operation does to the sessions.**  It makes moves, and the ids that these bring were
given out by the process in the meantime. -/
theorem Operation.draws (op : Operation α) (h : d.Settled none) :
    ∃ more, Draws f d (runOn (serve f) (op.body s) d).2 more := by
  cases op with
  | login input => exact Auth.draws_login (Auth.login_cases h.toInReach input)
  | refresh input => exact Auth.draws_refresh (Auth.refresh_cases h input)
  | _ => exact draws_of_asks (Operation.asksStill _ id)

end Operations

/-! ## Runs -/

namespace Service

variable {s : Setup} {f : Supply} {w w' : Service}

/-- The process as an operation finds it, in which a new user, if any, gets the given id. -/
def ready (w : Service) (next : UserId) : Deployment :=
  { w.process with users := { w.process.users with nextId := next } }

/-- What an operation answers. -/
def result (s : Setup) (f : Supply) (w : Service) (next : UserId) {α : Type} (op : Operation α) :
    Except Error α :=
  ((op.body s).runOn (serve f) (w.ready next)).1

theorem runOn_ready {next : UserId} {α : Type} (op : Operation α) :
    (op.body s).runOn (serve f) (w.ready next) =
      (w.result s f next op, (w.perform s f next op).process) := rfl

theorem process_perform {next : UserId} {α : Type} (op : Operation α) :
    (w.perform s f next op).process = ((op.body s).runOn (serve f) (w.ready next)).2 := rfl

/-- The service after an operation that succeeded. -/
theorem perform_of_ok {d d' : Deployment} {next : UserId} (hready : w.ready next = d) {α : Type}
    (op : Operation α) {a : α} (h : (op.body s).runOn (serve f) d = (.ok a, d')) :
    w.result s f next op = .ok a ∧ w.perform s f next op = ⟨d', w.issued ++ op.tokens a⟩ := by
  subst hready
  rw [ready] at h
  rw [result, perform, ready, h]
  exact ⟨rfl, rfl⟩

theorem Reachable.settled_ready (h : Reachable s f w) (next : UserId) :
    (w.ready next).Settled none :=
  (reachable_settled h).set w.process.clock w.process.tasks next

/-- The id of the next user is nothing that can be read. -/
theorem unchanged_of_ready {next : UserId} {d : Deployment} (h : Unchanged (w.ready next) d) :
    Unchanged w.process d where
  users := h.users
  grants := h.grants
  clock := h.clock
  tasks := h.tasks
  inReach hreach := h.inReach ⟨hreach.sessions, hreach.users, hreach.cache⟩
  sessions := h.sessions

theorem Reachable.inReach_ready (h : Reachable s f w) (next : UserId) : (w.ready next).InReach :=
  (h.settled_ready next).toInReach

/-- What becomes of a login, as an operation. -/
theorem loginCase (h : Reachable s f w) (next : UserId) (input : Auth.Login) :
    Auth.LoginCase s f (w.ready next) input (w.result s f next (.login input))
      (w.perform s f next (.login input)).process := by
  have hcase := Auth.login_cases (s := s) (f := f) (h.inReach_ready next) input
  have hrun : runOn (serve f) (Auth.login s input) (w.ready next) = _ := runOn_ready (.login input)
  rw [hrun] at hcase
  dsimp only at hcase
  exact hcase

/-- What becomes of a refresh, as an operation. -/
theorem refreshCase (h : Reachable s f w) (next : UserId) (input : Auth.Refresh) :
    Auth.RefreshCase s f (w.ready next) input (w.result s f next (.refresh input))
      (w.perform s f next (.refresh input)).process := by
  have hcase := Auth.refresh_cases (s := s) (f := f) (h.settled_ready next) input
  have hrun : runOn (serve f) (Auth.refresh s input) (w.ready next) = _ :=
    runOn_ready (.refresh input)
  rwa [hrun] at hcase

/-- A run of the service, of any length. -/
abbrev Steps (s : Setup) (f : Supply) : Service → Service → Prop :=
  Relation.ReflTransGen (Step s f)

theorem Reachable.steps (h : Reachable s f w) (hsteps : Steps s f w w') : Reachable s f w' := by
  induction hsteps with
  | refl => exact h
  | tail _ hstep ih => exact ih.step hstep

/-- A step makes moves, and brings none but new ids. -/
theorem Step.draws (hstep : Step s f w w') (h : w.process.Settled none) :
    ∃ more, Draws f w.process w'.process more := by
  cases hstep with
  | @perform α op next hnext =>
    have hstart := h.set w.process.clock w.process.tasks next
    obtain ⟨more, hmore⟩ := op.draws (s := s) (f := f) hstart
    exact ⟨more, hmore.moved, hmore.count, hmore.sessions, hmore.tokens⟩
  | @handle before after task htasks =>
    obtain ⟨more, hmore⟩ := draws_of_asks (f := f) (d := { w.process with
      tasks := before ++ after }) (task.1.asksStill_handle task.2)
    exact ⟨more, hmore.moved, hmore.count, hmore.sessions, hmore.tokens⟩
  | sweep =>
    exact draws_of_asks (asks_sweepAll rfl fun _ => rfl)
  | evict key => exact ⟨[], .nil rfl (Nat.le_refl _)⟩
  | @advance clock hwall helapsed hdates =>
    refine ⟨[.pass (clock.elapsed - w.process.clock.elapsed)], .quiet ?_ rfl (Nat.le_refl _)⟩
    rw [moment, SessionStore.Moment.step, moment, Nat.add_sub_cancel' helapsed]

theorem Steps.draws (hsteps : Steps s f w w') (h : Reachable s f w) :
    ∃ more, Draws f w.process w'.process more := by
  induction hsteps with
  | refl => exact ⟨[], .nil rfl (Nat.le_refl _)⟩
  | tail hpast hstep ih =>
    obtain ⟨more, hmore⟩ := ih
    obtain ⟨last, hlast⟩ := hstep.draws (reachable_settled (h.steps hpast))
    exact ⟨_, hmore.trans hlast⟩

/-- **A service has a past.**  Whatever has become of it, its sessions are those of a run of the
store, which brought only ids that the process had given out, and none of them twice. -/
theorem reachable_history (h : Reachable s f w) : ∃ moves, History f w.process moves := by
  induction h with
  | @start w h =>
    refine ⟨[.pass w.process.clock.elapsed], ?_, .nil f _ _, .nil f _ _⟩
    rw [moment, h.sessions]
    exact congrArg (SessionStore.Moment.mk · _) (Nat.zero_add _).symm
  | step h hstep ih =>
    obtain ⟨moves, hmoves⟩ := ih
    obtain ⟨more, hmore⟩ := hstep.draws (reachable_settled h)
    exact ⟨_, hmoves.append hmore⟩

/-- A run with all its states, from the start on for ever. -/
structure IsRun (s : Setup) (f : Supply) (run : Nat → Service) : Prop where
  start : IsStart s (run 0)
  step : ∀ n, Step s f (run n) (run (n + 1))

/-- Time may stand still, so that every run can go on. -/
theorem Reachable.idle (h : Reachable s f w) : Step s f w w :=
  @Step.advance s f w w.process.clock (Int.le_refl _) (Nat.le_refl _) (reachable_minted h).1

/-- What can become of a service is what runs come to. -/
theorem reachable_iff_exists_run : Reachable s f w ↔ ∃ run n, IsRun s f run ∧ run n = w := by
  constructor
  · intro h
    induction h with
    | @start w h => exact ⟨fun _ => w, 0, ⟨h, fun _ => (Reachable.start h).idle⟩, rfl⟩
    | @step w w' h hstep ih =>
      obtain ⟨run, n, hrun, rfl⟩ := ih
      have hend : ∀ {k}, n < k → (if k ≤ n then run k else w') = w' := fun h => if_neg (by omega)
      refine ⟨fun k => if k ≤ n then run k else w', n + 1, ⟨?_, fun k => ?_⟩, hend (by omega)⟩
      · rw [if_pos (Nat.zero_le n)]
        exact hrun.start
      · rcases Nat.lt_trichotomy k n with hk | rfl | hk
        · rw [if_pos hk.le, if_pos (Nat.succ_le_of_lt hk)]
          exact hrun.step k
        · rw [if_pos (Nat.le_refl k), hend (Nat.lt_succ_self k)]
          exact hstep
        · rw [hend hk, hend (Nat.lt_succ_of_lt hk)]
          exact (h.step hstep).idle
  · rintro ⟨run, n, hrun, rfl⟩
    induction n with
    | zero => exact .start hrun.start
    | succ n ih => exact ih.step (hrun.step n)

/-- The histories of the states of a run, each of which is the beginning of all later ones. -/
structure Histories (f : Supply) (run : Nat → Service) (moves : Nat → List Move) : Prop where
  history : ∀ n, History f (run n).process (moves n)
  begins : ∀ {m n}, m ≤ n → moves m <+: moves n
  count : ∀ {m n}, m ≤ n → (run m).process.idCount ≤ (run n).process.idCount

namespace IsRun

variable {run : Nat → Service}

theorem reachable (h : IsRun s f run) (n : Nat) : Reachable s f (run n) :=
  reachable_iff_exists_run.2 ⟨run, n, h, rfl⟩

theorem histories (h : IsRun s f run) : ∃ moves, Histories f run moves := by
  obtain ⟨first, hfirst⟩ := reachable_history (Reachable.start h.start)
  choose more hmore using fun n => (h.step n).draws (reachable_settled (h.reachable n))
  let moves (n : Nat) : List Move := Nat.rec first (fun k past => past ++ more k) n
  refine ⟨moves, fun n => ?_, fun {m n} hle => ?_, fun {m n} hle => ?_⟩
  · induction n with
    | zero => exact hfirst
    | succ n ih => exact ih.append (hmore n)
  · induction n, hle using Nat.le_induction with
    | base => exact List.prefix_refl _
    | succ n _ ih => exact ih.trans (List.prefix_append _ _)
  · induction n, hle using Nat.le_induction with
    | base => exact Nat.le_refl _
    | succ n _ ih => exact ih.trans (hmore n).count

end IsRun

/-! ### A first login -/

open Auth.FirstLogin Sample in
theorem firstLogin : ∃ t : Auth.Tokens, t.refreshToken = again.refreshToken ∧
    IsStart setup ⟨Auth.FirstLogin.process, []⟩ ∧
      (⟨Auth.FirstLogin.process, []⟩ : Service).result setup supply ⟨2⟩ (.login input) = .ok t ∧
        (⟨Auth.FirstLogin.process, []⟩ : Service).perform setup supply ⟨2⟩ (.login input) =
          ⟨loggedIn, [t]⟩ ∧
        Step setup supply ⟨Auth.FirstLogin.process, []⟩ ⟨loggedIn, [t]⟩ := by
  obtain ⟨t, hlogin, -, hrefresh, -⟩ := Auth.FirstLogin.runOn_process
  have hready : (⟨Auth.FirstLogin.process, []⟩ : Service).ready ⟨2⟩ = Auth.FirstLogin.process := rfl
  obtain ⟨hresult, hperform⟩ := perform_of_ok hready (.login input) hlogin
  have hfree : Auth.FirstLogin.process.users.users.get? ⟨2⟩ = none := rfl
  refine ⟨t, hrefresh, ⟨inReach, rfl, rfl, rfl, rfl, by decide, by decide⟩, hresult, hperform, ?_⟩
  exact hperform ▸ .perform (.login input) hfree

open Auth.FirstLogin Sample in
/-- Its token is exchanged. -/
theorem firstRefresh (issued : List Auth.Tokens) : ∃ t,
    (⟨loggedIn, issued⟩ : Service).result setup supply ⟨2⟩ (.refresh again) = .ok t := by
  have hlifetimes : Sessions.lifetimes setup.sessionTtl loggedIn.clock.wall (Codec.claimsAt
      loggedIn.clock.wall .refresh claims.userId "" (supply.ids loggedIn.idCount)
        setup.codec.refreshTtl).expiresAt = .ok (⟨86400, 86400⟩, .ofSeconds 86400) := by decide
  have hpointer : loggedIn.sessions.pointer? loggedIn.clock.elapsed claims.jti = some "xx" := rfl
  obtain ⟨t, d, hagain, -⟩ := Auth.runOn_refresh settled_loggedIn
    (accepts ⟨settled_loggedIn, rfl, rfl, rfl⟩ (by decide)) hlifetimes (by decide) hpointer rfl
    (by decide) ⟨by decide, by decide, by decide, by decide⟩
  have hready : (⟨loggedIn, issued⟩ : Service).ready ⟨2⟩ = loggedIn := rfl
  exact ⟨t, (perform_of_ok hready (.refresh again) hagain).1⟩

end Service

/-! ## What is known of the sessions -/

namespace History

variable {f : Supply} {d : Deployment} {moves : List Move}

theorem sessions_eq (h : History f d moves) : d.sessions = (after moves).store :=
  congrArg SessionStore.Moment.store h.moved

theorem elapsed_eq (h : History f d moves) : d.clock.elapsed = (after moves).now :=
  congrArg SessionStore.Moment.now h.moved

theorem mentions (h : History f d moves) :
    SessionStore.Mentions (sessionIds moves) (tokenIds moves) d.sessions :=
  h.sessions_eq ▸ SessionStore.mentions_after moves

variable (hf : Function.Injective f.ids)

include hf

theorem paired (h : History f d moves) : SessionStore.Paired d.sessions :=
  h.sessions_eq ▸ SessionStore.paired_after (h.sessions.nodup hf) (h.tokens.nodup hf)

theorem indexed (h : History f d moves) : SessionStore.Indexed d.clock.elapsed d.sessions :=
  h.sessions_eq ▸ h.elapsed_eq ▸ SessionStore.indexed_after (h.sessions.nodup hf)

theorem single (h : History f d moves) : SessionStore.Single d.sessions :=
  h.sessions_eq ▸ SessionStore.single_after (h.sessions.nodup hf)

theorem listable (h : History f d moves) : SessionStore.Listable d.clock.elapsed d.sessions :=
  ⟨h.indexed hf, _, _, h.mentions⟩

end History
end SessionAuth
