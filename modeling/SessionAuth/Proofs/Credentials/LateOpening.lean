import SessionAuth.Proofs.Credentials.SideBySide
import SessionAuth.Proofs.UseCase.Login

/-!
# Sessions that are opened too late

When a password is changed or a client is suspended, all sessions of the account are ended.  A login
that is under way at that time may have been checked against the account as it was, and still open
its session when everything is over (`not_always_checkedNow`): no login looks at the account again.

This is the only way.  By `checkedNow_or_lateOpening` a live session was opened by a login that was
checked against the account as it is, or that opened it when the change had listed the sessions that
it was to end (`LateOpening`).
-/

set_option autoImplicit false

namespace SessionAuth
namespace Credentials

open Environment Fallible

section Runs

variable {s : Setup} {start : Backend} {w : World}

/-! ## Changes -/

/-- Whether all changes of a world have succeeded. -/
def AllChanged (w : World) : Prop :=
  ∀ j request, w.request? j = some request → request.IsChange → w.result? j = some (.ok ())

/-- A request listed the sessions of a user, and deleted all that were listed. -/
def EndsIn (j : Nat) (user : UserId) (log : Log) : Prop :=
  ∃ before listed after,
    log = before ++ (j, ⟨.sessions (.call (.listByUser user)), .ok listed⟩) :: after ∧
      ∀ session ∈ listed, ∃ ids count, session.id ∈ ids ∧
        (j, ⟨.sessions (.call (.delete ids)), .ok count⟩) ∈ after

/-- What a change ends is not spared. -/
theorem EndsIn.not_spared {j : Nat} {session : Session} {log : Log}
    (h : EndsIn j session.userId log) : ¬ ∀ y ∈ log, Spares session y.2 := by
  obtain ⟨before, listed, after, rfl, hdeleted⟩ := h
  intro hspared
  have hspared := (List.forall_mem_append.1 hspared).2
  obtain ⟨t, ht, hid⟩ := (hspared _ (List.mem_cons_self ..)).list rfl
  obtain ⟨ids, count, hmem, hdelete⟩ := hdeleted t ht
  exact (hspared _ (List.mem_cons_of_mem _ hdelete)).delete rfl (hid ▸ hmem)

/-- After a change the request that made it ends the sessions of the account. -/
theorem endsIn_after (h : (system s).Reachable start w) (hchanged : AllChanged w) {past rest : Log}
    {j : Nat} {y : Exchange Environment.interface} {user : UserId}
    (hlog : w.log = past ++ (j, y) :: rest) (hy : Supersedes y user) : EndsIn j user rest := by
  have hkept := kept_of_reachable h
  obtain ⟨request, hrequest, hask⟩ := hkept.asked hlog
  have hchange : request.IsChange := hask.isChange hy
  have hended : Ended none (Program.transcript j w.log) :=
    hkept.ended hrequest (hchanged j request hrequest hchange) hchange rfl
  rw [hlog, Program.transcript_append_cons_self] at hended
  obtain ⟨before, listed, after, hrest, hdeleted⟩ := (hended rfl hy).resolve_left nofun
  obtain ⟨before', after', rfl, -, rfl⟩ := Program.transcript_eq_append_cons hrest
  refine ⟨before', listed, after', rfl, fun session hsession => ?_⟩
  obtain ⟨ids, count, hid, hmem⟩ := hdeleted session hsession
  exact ⟨ids, count, hid, Program.mem_transcript.1 hmem⟩

/-! ## Openings -/

/-- A request opened a session. -/
def Opened (log : Log) (i : Nat) (id : String) : Prop :=
  ∃ session ttls, (i, ⟨.sessions (.call (.create session ttls)), .ok ()⟩) ∈ log ∧ session.id = id

/-- A login was checked against the account as it is now. -/
def CheckedNow (w : World) (i : Nat) (user : UserId) : Prop :=
  ∃ input u, w.request? i = some (.login input) ∧ Checked input u (Program.transcript i w.log) ∧
    u.id = user ∧ w.env.users.IsCurrent u

/-- A login was told of an account, and opened a session of it only after a change of the account
had listed the sessions that it was to end. -/
inductive LateOpening (log : Log) (i : Nat) (user : UserId) (id : String) : Prop
  | intro {j : Nat} {past before clearing after rest : Log} {email : String} {u : User}
      {changed : Exchange Environment.interface} {listed : List Session} {session : Session}
      {ttls : Ttls}
      (hlog : log = past ++ (i, ⟨.users (.findByEmail email), .ok (some u)⟩) :: (before ++
        (j, changed) :: (clearing ++
          (j, ⟨.sessions (.call (.listByUser user)), .ok listed⟩) :: (after ++
            (i, ⟨.sessions (.call (.create session ttls)), .ok ()⟩) :: rest))))
      (htold : u.id = user) (hchanged : Supersedes changed user) (hid : session.id = id)
      (howner : session.userId = user)

/-- A live session under a new id was opened by a login. -/
theorem opened_of_live (hstart : start.Orderly) (h : (system s).Reachable start w) {id : String}
    {session : Session} (hlive : w.env.sessions.session? w.env.clock.elapsed id = some session)
    (hnew : id ∉ start.ids) :
    ∃ i input, w.request? i = some (.login input) ∧ Opened w.log i id := by
  obtain ⟨jtis, hmentions⟩ := (sound_of_reachable hstart h).openings.mentions
  obtain ⟨e, he, -, -⟩ := SessionStore.session?_eq_some_iff.1 hlive
  have hopened := (List.mem_append.1 (hmentions.session he).1).resolve_left hnew
  obtain ⟨i, session, ttls, hmem, hid⟩ := mem_openedIds.1 hopened
  obtain ⟨past, rest, hlog⟩ := List.append_of_mem hmem
  obtain ⟨request, hrequest, hask⟩ := (kept_of_reachable h).asked hlog
  cases hask with
  | harmless hharmless => exact hharmless.elim
  | @create input => exact ⟨i, input, hrequest, session, ttls, hmem, hid⟩

/-- If the account was changed after the login was told of it, and the session was spared ever since
it was opened, it was opened too late. -/
theorem lateOpening_of_supersedes (h : (system s).Reachable start w) (hchanged : AllChanged w)
    {i j : Nat} {past before rest : Log} {email : String} {u : User} {session : Session}
    {ttls : Ttls} {y : Exchange Environment.interface}
    (hlog : w.log = past ++ (i, ⟨.users (.findByEmail email), .ok (some u)⟩) :: (before ++
      (i, ⟨.sessions (.call (.create session ttls)), .ok ()⟩) :: rest))
    (howner : session.userId = u.id) (hspared : ∀ y ∈ rest, Spares session y.2)
    (hmem : (j, y) ∈ before ++ (i, ⟨.sessions (.call (.create session ttls)), .ok ()⟩) :: rest)
    (hy : Supersedes y session.userId) :
    LateOpening w.log i session.userId session.id := by
  rcases List.mem_append.1 hmem with hmem | hmem
  · -- the change came before the session was opened, but must have ended what it did before that
    obtain ⟨before, clearing, rfl⟩ := List.append_of_mem hmem
    rw [List.append_assoc, List.cons_append] at hlog
    have hchange : w.log = (past ++ (i, ⟨.users (.findByEmail email), .ok (some u)⟩) :: before) ++
        (j, y) :: (clearing ++
          (i, ⟨.sessions (.call (.create session ttls)), .ok ()⟩) :: rest) := by
      simpa using hlog
    obtain ⟨clearing', listed, after, hplace, hdeleted⟩ := endsIn_after h hchanged hchange hy
    rcases append_eq_append_cons hplace with ⟨after', rfl, -⟩ | ⟨middle, -, hrest⟩
    · rw [List.append_assoc, List.cons_append] at hlog
      exact ⟨hlog, howner.symm, hy, rfl, rfl⟩
    · cases middle with
      | nil => cases (List.cons.inj hrest).1
      | cons e middle =>
        exact absurd hspared (EndsIn.not_spared ⟨_, _, _, (List.cons.inj hrest).2, hdeleted⟩)
  · -- the change came later, and what it ended was there to end
    rcases List.mem_cons.1 hmem with heq | hmem
    · cases heq
      cases hy
    obtain ⟨middle, rest, rfl⟩ := List.append_of_mem hmem
    have hchange : w.log = (past ++ (i, ⟨.users (.findByEmail email), .ok (some u)⟩) :: (before ++
        (i, ⟨.sessions (.call (.create session ttls)), .ok ()⟩) :: middle)) ++ (j, y) :: rest := by
      simpa using hlog
    have hspared := (List.forall_mem_cons.1 (List.forall_mem_append.1 hspared).2).2
    exact absurd hspared (endsIn_after h hchanged hchange hy).not_spared

/-- **A login that opened a session was checked against the account as it is, or was too late.**  So
it is for any logins and any changes that succeed, in any interleaving, of each session that is live
in the end. -/
theorem checkedNow_or_lateOpening (hstart : start.Orderly) (h : (system s).Reachable start w)
    (hchanged : AllChanged w) {id : String} {session : Session}
    (hlive : w.env.sessions.session? w.env.clock.elapsed id = some session) :
    (id ∉ start.ids → ∃ i input, w.request? i = some (.login input) ∧ Opened w.log i id) ∧
      ∀ i, Opened w.log i id → CheckedNow w i session.userId ∨
        LateOpening w.log i session.userId id := by
  refine ⟨opened_of_live hstart h hlive, ?_⟩
  have hsound := sound_of_reachable hstart h
  rintro i ⟨opened, ttls, hmem, rfl⟩
  obtain ⟨past, rest, hlog⟩ := List.append_of_mem hmem
  obtain ⟨howner, hspared⟩ := hsound.openings.alive hlog hlive
  rw [howner]
  obtain ⟨request, hrequest, hask⟩ := (kept_of_reachable h).asked hlog
  cases hask with
  | harmless hharmless => exact hharmless.elim
  | @create input u _ _ _ hchecked huser =>
    -- the login had been told of the account, which was superseded since or is as it was
    obtain ⟨email, htold⟩ := hchecked.told
    obtain ⟨past, before, rfl⟩ := List.append_of_mem (Program.mem_transcript.1 htold)
    rw [List.append_assoc, List.cons_append] at hlog
    rcases hsound.accounts.told hlog hchecked.active with ⟨y, hmem, hy⟩ | hcurrent
    · rw [← huser] at hy
      exact .inr (lateOpening_of_supersedes h hchanged hlog huser hspared hmem hy)
    · have htold : ⟨.users (.findByEmail email), .ok (some u)⟩ ∈ Program.transcript i w.log :=
        Program.mem_transcript.2 (hlog ▸ by simp)
      exact .inl ⟨input, u, hrequest, ⟨⟨email, htold⟩, hchecked.verified, hchecked.active⟩,
        huser.symm, hcurrent⟩

end Runs

/-! ## Runs by a process -/

/-- What logins and changes see of a process. -/
def Backend.ofProcess (f : Supply) (d : Deployment) : Backend where
  clock := d.clock
  users := d.users
  sessions := d.sessions
  ids := f.given d.idCount

section Process

variable {s : Setup} {f : Supply} {w : World} {d : Deployment} {i : Nat} {request : Request}

/-- A process with all its backends in reach answers as it may, if its supply repeats no id. -/
theorem Backend.responds_serve (hf : Function.Injective f.ids) (q : Question) (hd : d.InReach) :
    Backend.Responds (.ofProcess f d) ⟨q, (Deployment.serve f q d).1⟩
      (.ofProcess f (Deployment.serve f q d).2) := by
  cases q with
  | now => exact .now
  | newId =>
    obtain ⟨hnew, hgiven⟩ := Deployment.serve_newId hf d
    rw [ofProcess, ofProcess, hgiven]
    exact .newId hnew
  | sessions q =>
    rw [hd.serve_sessions]
    exact .sessions q
  | users c =>
    rw [hd.serve_users]
    exact .users c
  | _ => exact .foreign trivial

/-- A process may run the first part of a request without an interruption. -/
theorem exists_steps (hf : Function.Injective f.ids) (henv : w.env = .ofProcess f d)
    (hd : d.InReach) {α : Type} {p : UseCase α} {rest : α → UseCase Unit}
    (hcall : w.calls[i]? = some (request, (p >>= rest).run)) {a : α} {d' : Deployment}
    (hrun : p.runOn (Deployment.serve f) d = (.ok a, d')) :
    d'.InReach ∧ ∃ log, (system s).Steps w
      ⟨.ofProcess f d', w.calls.set i (request, (rest a).run), log⟩ := by
  have hcall' : w.calls[i]? = some (request, p.run >>= ExceptT.bindCont rest) := hcall
  have hrun' : p.run.run (Deployment.serve f) d = (.ok a, d') := hrun
  have hsteps := Program.System.Steps.of_run_bind (S := system s) Deployment.InReach
    (fun q _ => Backend.responds_serve hf q) (fun q d hd => hd.serve q) hd henv hcall'
  rw [hrun'] at hsteps
  exact hsteps

end Process

/-! ## A client who is suspended during a login -/

namespace Suspension

open Auth.FirstLogin Sample

def admin : User := account ⟨2⟩ .admin

/-- The process of the first login, with an administrator. -/
def staffed : Deployment :=
  { process with
    users := process.users.insert admin
    grants := GrantTable.empty.assign .admin (SortedSet.empty.insert .fullAccess) }

def login : Request := .login input

def suspend : Request := .changeStatus ⟨admin.id, "", "", .admin⟩ user.id .suspended

/-- The process after the client has been suspended. -/
def suspended : Deployment := ((suspend.useCase setup).runOn (Deployment.serve supply) staffed).2

theorem runOn_suspend : (suspend.useCase setup).runOn (Deployment.serve supply) staffed =
    (.ok (), suspended) :=
  Prod.ext rfl rfl

theorem inReach_staffed : staffed.InReach := ⟨rfl, rfl, by decide⟩

/-- The login would succeed in the beginning. -/
theorem admits_staffed :
    Auth.Admits setup supply staffed input user ⟨86400, 86400⟩ (.ofSeconds 86400) where
  toOpens := admits.toOpens.of_same rfl rfl
  email := admits.email
  password := admits.password
  found := rfl
  verified := admits.verified

/-- The session that the login opens. -/
def session : Session := Auth.sessionOf supply suspended input user (.ofSeconds 86400)

/-- The process after the login has gone on. -/
def loggedIn : Deployment :=
  { suspended with
    idCount := 3
    sessions := SessionStore.opened suspended.clock.elapsed suspended.sessions session
      ⟨86400, 86400⟩ }

/-- The login goes on as if nothing had happened. -/
theorem runOn_openFor (hreach : suspended.InReach) : ∃ t,
    (Auth.openFor setup input user).runOn (Deployment.serve supply) suspended =
      (.ok t, loggedIn) := by
  have hopens : Auth.Opens setup supply suspended user ⟨86400, 86400⟩ (.ofSeconds 86400) :=
    admits.toOpens.of_same rfl (Deployment.clock_run _ _)
  obtain ⟨t, ht, -⟩ := Auth.runOn_openFor input hreach hopens
  exact ⟨t, ht⟩

/-- The client may be suspended after the login has checked the password. -/
theorem exists_world : ∃ w, (system setup).Reachable (.ofProcess supply staffed) w ∧
    w.env = .ofProcess supply loggedIn ∧
      w.calls = [(login, .done (.ok ())), (suspend, .done (.ok ()))] := by
  have hlogin : login.useCase setup =
      Auth.verifyCredentials (Text.trim input.email) input.password >>= fun u =>
        ignoring (Auth.openFor setup input u) := by
    show ignoring (Auth.login setup input) = _
    rw [ignoring, Auth.login_eq admits.email admits.password, bind_assoc]
    rfl
  have harrived := Program.System.reachable_arrived (S := system setup)
    (.ofProcess supply staffed) [login, suspend]
  have hfirst : ((system setup).arrived (.ofProcess supply staffed) [login, suspend]).calls[0]? =
      some (login, (Auth.verifyCredentials (Text.trim input.email) input.password >>= fun u =>
        ignoring (Auth.openFor setup input u)).run) := by
    rw [← hlogin]
    rfl
  obtain ⟨-, log₁, hchecked⟩ := exists_steps (s := setup) injective_ids rfl inReach_staffed hfirst
    (Auth.runOn_verifyCredentials inReach_staffed admits_staffed)
  have hsecond : (suspend, (suspend.useCase setup).run) =
      (suspend, (suspend.useCase setup >>= pure).run) := by
    rw [bind_pure]
  obtain ⟨hreach, log₂, hsuspended⟩ := exists_steps (s := setup) (i := 1)
    (w := ⟨.ofProcess supply staffed, [(login, (ignoring (Auth.openFor setup input user)).run),
      (suspend, (suspend.useCase setup).run)], log₁⟩)
    injective_ids rfl inReach_staffed (congrArg some hsecond) runOn_suspend
  obtain ⟨t, ht⟩ := runOn_openFor hreach
  have hthird : (ignoring (Auth.openFor setup input user)).run =
      (Auth.openFor setup input user >>= fun _ => pure ()).run := rfl
  obtain ⟨-, log₃, hopened⟩ := exists_steps (s := setup) (i := 0)
    (w := ⟨.ofProcess supply suspended, [(login, (ignoring (Auth.openFor setup input user)).run),
      (suspend, .done (.ok ()))], log₂⟩)
    injective_ids rfl hreach (congrArg (fun p => some (login, p)) hthird) ht
  exact ⟨_, ((harrived.trans hchecked).trans hsuspended).trans hopened, rfl, rfl⟩

/-- The account that the client has in the end. -/
def client : User := { user with status := .suspended }

theorem get?_loggedIn : loggedIn.users.users.get? user.id = some client := rfl

theorem session?_loggedIn :
    loggedIn.sessions.session? loggedIn.clock.elapsed session.id = some session := by
  refine SessionStore.session?_eq_some_iff.2 ⟨⟨session, 86400 * nanosPerSecond⟩, ?_, ?_, rfl⟩
  · exact Table.get?_set_eq_some_iff.2 (.inl ⟨rfl, rfl⟩)
  · decide

theorem orderly_staffed : (Backend.ofProcess supply staffed).Orderly where
  keyed := by
    intro id u hu
    rcases Table.get?_set_eq_some_iff.1 hu with ⟨rfl, rfl⟩ | ⟨-, hu⟩
    · rfl
    rcases Table.get?_set_eq_some_iff.1 hu with ⟨rfl, rfl⟩ | ⟨-, hu⟩
    · rfl
    · cases hu
  indexed := ⟨nofun, nofun⟩
  mentions := ⟨[], nofun, nofun, nofun⟩

section World

variable {w : World}

theorem result?_world
    (hcalls : w.calls = [(login, .done (.ok ())), (suspend, .done (.ok ()))]) {i : Nat}
    {request : Request} (hrequest : w.request? i = some request) :
    w.result? i = some (.ok ()) := by
  rw [Program.World.request?, hcalls] at hrequest
  rw [Program.World.result?, hcalls]
  rcases i with _ | _ | i
  · rfl
  · rfl
  · cases hrequest

variable (henv : w.env = .ofProcess supply loggedIn)

include henv

theorem live_world : w.env.sessions.session? w.env.clock.elapsed session.id = some session := by
  rw [henv]
  exact session?_loggedIn

/-- No login was checked against the account of a client who is suspended. -/
theorem not_checkedNow (i : Nat) : ¬ CheckedNow w i session.userId := by
  rintro ⟨input, u, -, hchecked, huser, v, hv, -, hstatus⟩
  rw [henv, huser] at hv
  obtain rfl : client = v := Option.some.inj (get?_loggedIn.symm.trans hv)
  cases hstatus.trans hchecked.active

end World

end Suspension

open Suspension Auth.FirstLogin Sample in
/-- The session of the client who was suspended is opened too late. -/
theorem lateOpening_suspension : ∃ w i,
    (system setup).Reachable (.ofProcess supply staffed) w ∧ AllChanged w ∧
      w.env.sessions.session? w.env.clock.elapsed Suspension.session.id =
        some Suspension.session ∧
      LateOpening w.log i user.id Suspension.session.id := by
  obtain ⟨w, hreach, henv, hcalls⟩ := exists_world
  have hchanged : AllChanged w := fun j request hrequest _ => result?_world hcalls hrequest
  have hlive := live_world henv
  obtain ⟨hopened, hlate⟩ := checkedNow_or_lateOpening orderly_staffed hreach hchanged hlive
  obtain ⟨i, input, -, hi⟩ := hopened nofun
  exact ⟨w, i, hreach, hchanged, hlive, (hlate i hi).resolve_left (not_checkedNow henv i)⟩

open Suspension Auth.FirstLogin Sample in
/-- **Logins are not always checked against the account as it is when all is done.**  A client logs
in while an administrator suspends the account.  Both succeed, and there is a live session of an
account that is suspended. -/
theorem not_always_checkedNow : ∃ w i,
    (Backend.ofProcess supply staffed).Orderly ∧
    (system setup).Reachable (.ofProcess supply staffed) w ∧
    (∀ j request, w.request? j = some request → w.result? j = some (.ok ())) ∧
    w.env.sessions.session? w.env.clock.elapsed Suspension.session.id = some Suspension.session ∧
    (∃ input, w.request? i = some (.login input)) ∧ Opened w.log i Suspension.session.id ∧
      ¬ CheckedNow w i Suspension.session.userId := by
  obtain ⟨w, hreach, henv, hcalls⟩ := exists_world
  have hlive := live_world henv
  obtain ⟨i, input, hinput, hi⟩ := opened_of_live orderly_staffed hreach hlive nofun
  exact ⟨w, i, orderly_staffed, hreach, fun j request => result?_world hcalls, hlive,
    ⟨input, hinput⟩, hi, not_checkedNow henv i⟩

end Credentials
end SessionAuth
