import SessionAuth.Proofs.Http.Login
import SessionAuth.Proofs.UseCase.Coping

/-!
# No request makes the service fail

An endpoint reads what it needs from a request, each part of which may be wrong in itself, and does
a use case.  Use cases cope with whatever they are asked in a healthy process, so that endpoints do,
and what they answer if all goes well is no failure either (`Endpoint.copes_respond`).

A process that serves requests stays healthy (`Serving.healthy`), whatever else happens to it in
between.  `Service.status_lt` is what its clients see of that.
-/

set_option autoImplicit false

namespace SessionAuth

/-- The errors that are answered with a status of failure are those of the service. -/
theorem ErrorKind.status_lt_iff {k : ErrorKind} : k.status < 500 ↔ k.isInternal = false := by
  cases k <;> decide

/-! ## Texts that name nothing -/

theorem Role.blameless_read (text : String) : Blameless (Role.read text) := by
  rw [Role.read]
  split
  · exact trivial
  · exact rfl

theorem Status.blameless_read (text : String) : Blameless (Status.read text) := by
  rw [Status.read]
  split
  · exact trivial
  · exact rfl

theorem UserId.blameless_read (text : String) : Blameless (UserId.read text) := by
  rw [UserId.read]
  split
  · exact trivial
  · exact rfl

theorem Permission.blameless_read (text : String) :
    Blameless (Permission.read text) := by
  rw [Permission.read]
  split
  · exact trivial
  · exact rfl

namespace Http

open Environment Fallible Deployment

/-! ## Requests that are wrong in themselves -/

theorem Form.blameless_read {α : Type} (form : Form α) (r : Request) :
    Blameless (form.read r) := by
  rw [read]
  refine .ite rfl (.ite rfl ?_)
  rw [readOctets]
  split
  · exact rfl
  · exact rfl
  · split
    · exact trivial
    · exact rfl

theorem blameless_onceField? (fields : List (String × String)) (name : String) :
    Blameless (onceField? fields name) := by
  rw [onceField?]
  split
  · exact trivial
  · exact trivial
  · exact rfl

theorem blameless_numberField? (fields : List (String × String)) (name : String) :
    Blameless (numberField? fields name) := by
  refine .bind (blameless_onceField? fields name) fun value _ => ?_
  cases value with
  | none => exact trivial
  | some text =>
    dsimp only
    split
    · exact trivial
    · exact rfl

theorem UserListQuery.blameless_read (query : Option String) :
    Blameless (UserListQuery.read query) := by
  refine .bind (blameless_numberField? _ _) fun page _ => ?_
  refine .bind (blameless_numberField? _ _) fun size _ => ?_
  refine .bind (blameless_onceField? _ _) fun search _ => ?_
  refine .bind (blameless_onceField? _ _) fun roles _ => ?_
  exact .bind (blameless_onceField? _ _) fun statuses _ => trivial

theorem UserListQuery.blameless_filter (q : UserListQuery) :
    Blameless q.filter := by
  refine .bind (.mapM Role.blameless_read _) fun roles _ => ?_
  exact .bind (.mapM Status.blameless_read _) fun statuses _ => trivial

/-! ## Endpoints -/

namespace Endpoint

variable {f : Supply} {s : Setup} {r : Request} {params : RawParams}

/-- A response that reports no failure of the service. -/
abbrev Fine (response : Response) : Prop := response.status < 500

theorem fine_ofData {α : Type} {p : UseCase α} {status : Nat} (hp : Copes f p)
    (data : α → Json) (hstatus : status < 500) :
    CopesWith f (do return .ofData status (data (← p))) Fine :=
  Copes.bind hp fun _ => CopesWith.pure hstatus

theorem copes_caller (s : Setup) (r : Request) : Copes f (caller s r) := by
  rw [caller]
  split
  · exact Auth.copes_authenticate _
  · exact CopesWith.throw rfl

theorem copes_withParams {k : List String → UseCase Response}
    (hk : ∀ values, CopesWith f (k values) Fine) : CopesWith f (withParams params k) Fine := by
  rw [withParams]
  split
  · exact hk _
  · exact CopesWith.pure (by simp [invalidParam])

theorem copes_withParam {k : String → UseCase Response}
    (hk : ∀ value, CopesWith f (k value) Fine) : CopesWith f (withParam params k) Fine :=
  copes_withParams fun _ => hk _

/-- A healthy process says so. -/
theorem copes_health : CopesWith f (respond s r params .health) Fine := by
  refine CopesWith.bind (A := fun result => result = .ok true) ⟨fun d hd => ?_⟩ fun result h => ?_
  · rw [runOn_attempt, runOn_cache]
    refine ⟨hd.serve (f := f) (q := .cache .isHealthy) trivial, ?_⟩
    simp only [serve, answer, hd.well]
    rfl
  · subst h
    refine CopesWith.bind (A := fun result => result = none) ⟨fun d hd => ⟨hd, rfl⟩⟩
      fun result h => ?_
    subst h
    exact CopesWith.pure (by decide)

/-- **Endpoints cope with all requests.** -/
theorem copes_respond (hsalts : ∀ n, Password.IsSalt (f.salts n)) (s : Setup) (r : Request)
    (params : RawParams) (e : Endpoint) : CopesWith f (e.respond s r params) Fine := by
  have hread : ∀ {α : Type} (form : Form α), Copes f (liftM (form.read r)) :=
    fun form => CopesWith.lift (form.blameless_read r)
  have hcaller := copes_caller (f := f) s r
  cases e with
  | health => exact copes_health
  | register =>
    refine Copes.bind (hread Form.register) fun form => ?_
    exact fine_ofData (Account.copes_create hsalts _) _ (by decide)
  | login =>
    refine Copes.bind (hread Form.login) fun form => ?_
    exact fine_ofData (Auth.copes_login _) _ (by decide)
  | refresh =>
    refine Copes.bind (hread Form.refresh) fun form => ?_
    exact fine_ofData (Auth.copes_refresh _) _ (by decide)
  | logout =>
    refine Copes.bind hcaller fun c => ?_
    exact fine_ofData (Auth.copes_logout c) _ (by decide)
  | me =>
    refine Copes.bind hcaller fun c => ?_
    exact fine_ofData (Auth.copes_profile c) _ (by decide)
  | changePassword =>
    refine Copes.bind hcaller fun c => Copes.bind (hread Form.changePassword) fun form => ?_
    exact fine_ofData (Account.copes_changePassword hsalts _ _ _) _ (by decide)
  | listSessions =>
    refine Copes.bind hcaller fun c => ?_
    exact fine_ofData (OwnSessions.copes_list c) _ (by decide)
  | revokeSessions =>
    refine Copes.bind hcaller fun c => Copes.bind (hread Form.revokeSessions) fun form => ?_
    exact fine_ofData (OwnSessions.copes_revoke _ _ _) _ (by decide)
  | listUsers =>
    refine Copes.bind hcaller fun c => ?_
    refine Copes.bind (CopesWith.lift (UserListQuery.blameless_read _)) fun query => ?_
    refine Copes.bind (CopesWith.lift query.blameless_filter) fun filter => ?_
    exact fine_ofData (UserAdmin.copes_list _ _ _) _ (by decide)
  | createUser =>
    refine Copes.bind hcaller fun c => Copes.bind (hread Form.createUser) fun form => ?_
    refine Copes.bind (CopesWith.lift (Role.blameless_read _)) fun role => ?_
    have hcreate : ∀ status, CopesWith f (do
        return .ofData 201 (← UserAdmin.create s c
          ⟨form.email, form.password, role, status⟩).toJson) Fine :=
      fun status => fine_ofData (UserAdmin.copes_create hsalts _ _) _ (by decide)
    dsimp only
    split
    · exact Copes.bind (CopesWith.lift (Status.blameless_read _)) hcreate
    · exact Copes.bind (CopesWith.pure trivial) hcreate
  | getUser =>
    refine Copes.bind hcaller fun c => copes_withParam fun id => ?_
    refine Copes.bind (CopesWith.lift (UserId.blameless_read id)) fun user => ?_
    exact fine_ofData (UserAdmin.copes_get _ _) _ (by decide)
  | deleteUser =>
    refine Copes.bind hcaller fun c => copes_withParam fun id => ?_
    refine Copes.bind (CopesWith.lift (UserId.blameless_read id)) fun user => ?_
    exact fine_ofData (UserAdmin.copes_delete _ _) _ (by decide)
  | changeRole =>
    refine Copes.bind hcaller fun c => copes_withParam fun id => ?_
    refine Copes.bind (hread Form.changeRole) fun name => ?_
    refine Copes.bind (CopesWith.lift (UserId.blameless_read id)) fun user => ?_
    refine Copes.bind (CopesWith.lift (Role.blameless_read name)) fun role => ?_
    exact fine_ofData (UserAdmin.copes_changeRole _ _ _) _ (by decide)
  | changeStatus =>
    refine Copes.bind hcaller fun c => copes_withParam fun id => ?_
    refine Copes.bind (hread Form.changeStatus) fun name => ?_
    refine Copes.bind (CopesWith.lift (UserId.blameless_read id)) fun user => ?_
    refine Copes.bind (CopesWith.lift (Status.blameless_read name)) fun status => ?_
    exact fine_ofData (UserAdmin.copes_changeStatus _ _ _) _ (by decide)
  | listPermissions =>
    refine Copes.bind hcaller fun c => copes_withParam fun name => ?_
    refine Copes.bind (CopesWith.lift (Role.blameless_read name)) fun role => ?_
    exact fine_ofData (RoleAdmin.copes_list _ _) _ (by decide)
  | grantPermission =>
    refine Copes.bind hcaller fun c => copes_withParam fun name => ?_
    refine Copes.bind (hread Form.grantPermission) fun text => ?_
    refine Copes.bind (CopesWith.lift (Role.blameless_read name)) fun role => ?_
    refine Copes.bind (CopesWith.lift (Permission.blameless_read text)) fun permission => ?_
    exact fine_ofData (RoleAdmin.copes_grant _ _ _) _ (by decide)
  | revokePermission =>
    refine Copes.bind hcaller fun c => copes_withParams fun values => ?_
    refine Copes.bind (CopesWith.lift (Role.blameless_read _)) fun role => ?_
    refine Copes.bind (CopesWith.lift (Permission.blameless_read _)) fun permission => ?_
    exact fine_ofData (RoleAdmin.copes_revoke _ _ _) _ (by decide)

end Endpoint

/-! ## A process that serves requests -/

/-- What can become of a healthy process that serves requests over HTTP. -/
inductive Serving (s : Setup) (server : ServerSettings) (f : Supply) : Deployment → Prop
  | start {d : Deployment} (h : d.Healthy) : Serving s server f d
  /-- A request is answered. -/
  | request {d : Deployment} (h : Serving s server f d) (r : Request) :
      Serving s server f ((Service.respond s server r).run (serve f) d).2
  /-- One of the handlers that wait runs. -/
  | handle {d : Deployment} {before after : List (Invalidator × Event)}
      {task : Invalidator × Event} (h : Serving s server f d)
      (htasks : d.tasks = before ++ task :: after) :
      Serving s server f ((task.1.handle task.2).runOn (serve f)
        { d with tasks := before ++ after }).2
  /-- The sessions are swept. -/
  | sweep {d : Deployment} (h : Serving s server f d) :
      Serving s server f ((sessions SessionStore.sweepAll).runOn (serve f) d).2
  /-- The cache loses an entry. -/
  | evict {d : Deployment} (h : Serving s server f d) (key : String) :
      Serving s server f { d with cache := ⟨d.cache.entries.erase key⟩ }
  /-- The time changes. -/
  | advance {d : Deployment} (h : Serving s server f d) (clock : Clock) :
      Serving s server f { d with clock := clock }
  /-- The next account is to get another id. -/
  | renumber {d : Deployment} (h : Serving s server f d) (next : UserId) :
      Serving s server f { d with users := { d.users with nextId := next } }

section Serving

variable {s : Setup} {server : ServerSettings} {f : Supply} {d : Deployment}

/-- A healthy process answers any request without a failure of its own, and stays healthy. -/
theorem Service.fine_respond (hsalts : ∀ n, Password.IsSalt (f.salts n)) (hd : d.Healthy)
    (r : Request) : ((respond s server r).run (serve f) d).1.status < 500 ∧
      ((respond s server r).run (serve f) d).2.Healthy := by
  by_cases hmatch : ∃ route params e, r.Matches route params e
  · obtain ⟨route, params, e, hmatch⟩ := hmatch
    obtain ⟨hhealthy, hanswer⟩ := (Endpoint.copes_respond hsalts s r params e).run d hd
    rw [run_respond (serve f) d s server hmatch]
    refine ⟨?_, hhealthy⟩
    rw [status_addHeaders, status_shown]
    cases hresult : (runOn (serve f) (e.respond s r params) d).1 with
    | ok response => exact hanswer.holds hresult
    | error error => exact ErrorKind.status_lt_iff.2 (hanswer.isPublic hresult)
  · simp only [not_exists] at hmatch
    obtain ⟨response, hstatus, hrun⟩ := run_respond_of_no_match (serve f) s server hmatch
    rw [hrun]
    exact ⟨hstatus, hd⟩

/-- A process that serves requests stays healthy. -/
theorem Serving.healthy (hsalts : ∀ n, Password.IsSalt (f.salts n)) (h : Serving s server f d) :
    d.Healthy := by
  induction h with
  | start h => exact h
  | request _ r ih => exact (Service.fine_respond hsalts ih r).2
  | @handle d before after task _ _ ih =>
    have hrest : Healthy { d with tasks := before ++ after } := ih.of_eq rfl rfl rfl rfl
    exact ((Invalidator.copes_handle task.1 task.2).run _ hrest).1
  | sweep _ ih =>
    exact Asks.run (fun _ _ hq hd => hd.serve hq) (asks_sweepAll trivial fun _ => trivial) ih
  | evict _ key ih => exact ih.of_eq rfl rfl rfl rfl
  | advance _ clock ih => exact ih.of_eq rfl rfl rfl rfl
  | renumber _ next ih => exact ih.of_eq rfl rfl rfl rfl

/-- **No request makes the service fail.**  Whatever has become of a process that was healthy at
first, it answers any request with a status below 500, and no error of an internal kind is what an
endpoint ends with. -/
theorem Service.status_lt (hsalts : ∀ n, Password.IsSalt (f.salts n)) (h : Serving s server f d)
    (r : Request) : ((respond s server r).run (serve f) d).1.status < 500 ∧
      ∀ route params e error, r.Matches route params e →
        (runOn (serve f) (e.respond s r params) d).1 = .error error →
          error.kind.isInternal = false := by
  have hd := h.healthy hsalts
  refine ⟨(fine_respond hsalts hd r).1, fun route params e error _ herror => ?_⟩
  exact ((Endpoint.copes_respond hsalts s r params e).run d hd).2.isPublic herror

/-! ### A request that is wrong in every respect -/

namespace Nonsense

def request : Request where
  method := "PUT"
  path := "/api/admin/users/%FF/role"
  query := some "=&%"
  headers := [("authorization", "Bearer nothing"), ("content-type", "text")]
  body := [0xFF]

theorem healthy : Auth.FirstLogin.process.Healthy where
  toInReach := Auth.FirstLogin.inReach
  well := rfl
  hashes user huser := by
    obtain rfl := List.mem_singleton.1 huser
    exact ⟨Auth.FirstLogin.salt, _, ⟨by decide, by decide⟩, rfl⟩

/-- The salts that are counted are long enough. -/
theorem isSalt_counting (n : Nat) : Password.IsSalt (counting.salts n) := by
  have hlength : (counting.salts n).length = 16 := by
    simp [counting, saltAfter, Crypto.bigEndian]
  exact ⟨by omega, by omega⟩

end Nonsense

open Nonsense in
/-- After a login, nonsense is answered, and no failure is reported. -/
theorem Service.status_lt_nonsense :
    ((respond Sample.setup {} request).run (serve counting)
      ((respond Sample.setup {} firstLogin).run (serve counting)
        Auth.FirstLogin.process).2).1.status < 500 := by
  have hstart : Serving Sample.setup {} counting Auth.FirstLogin.process := .start healthy
  exact (status_lt isSalt_counting (hstart.request firstLogin) request).1

end Serving
end Http
end SessionAuth
