import SessionAuth.Proofs.Authorization.Transparent
import SessionAuth.Proofs.Service.Operation

/-!
# The cache is not seen

A process runs operations one after the other; between them handlers of events run, the cache loses
entries, and time passes.  Next to it runs a process that asks the repositories for all facts and
permissions (`Alongside`).  `cache_not_seen` says that every operation has the same result in both,
be it a value or an error, whatever the cache fails to do, and that clearing an entry does not
disturb what is cached of anyone else.

What makes this true is that no operation ends between a change and the clearing of the entry that
the change leaves out of date, and that a change which is refused changes nothing.  Operations are
taken one at a time here; read side by side with a change, an entry can be filled with what was
read before it.
-/

set_option autoImplicit false

namespace SessionAuth

open Environment Fallible Authorization

variable {κ ρ : Type} {b : Surroundings κ ρ} {holds : κ → String → String → Prop} {α : Type}

/-! ## Changes -/

/-- A change of what there is to say of a subject leaves its entry out of date if it took place, and
changes nothing if it was refused. -/
theorem transparent_change {p : UseCase Bool} (q : Question) (subject : Subject)
    (changed : Parts κ ρ → Bool) (hp : Asks SparesCache p) (hq : SparesCache q)
    (htarget : ∀ w : Parts κ ρ, w.target? q = some subject)
    (hrun : ∀ w, p.runOn b.answer w = (.ok (changed w), (b.answer q w).2))
    (hsame : ∀ {w v}, Alike w v → changed w = changed v)
    (hrefused : ∀ {w s text}, changed w = false → w.text? s = some text →
      (b.answer q w).2.text? s = some text) :
    Transparent b (InStep holds none) p fun r =>
      InStep holds (if r = .ok true then some subject else none) := by
  refine ⟨fun w v h => ?_⟩
  rw [uncached_eq_self hp, hrun, hrun, ← hsame h.toAlike]
  refine ⟨rfl, ?_⟩
  cases hchanged : changed w with
  | true =>
    rw [if_pos rfl]
    refine (h.answer hq fun {s text} hne htext => ?_).2
    rw [Parts.text?_answer (htarget w ▸ hne), htext]
  | false =>
    rw [if_neg nofun]
    exact (h.answer hq fun _ htext => hrefused hchanged htext).2

/-- A change of an account is refused if there is no such account. -/
theorem transparent_account {p : UseCase Bool} (c : UserRepository.Call) (user : UserId)
    (hp : Asks SparesCache p) (hc : ∀ t : UserTable, t.target? c = some user)
    (hrun : ∀ w : Parts κ ρ, p.runOn b.answer w =
      (.ok (w.users.users.get? user).isSome, (b.answer (.users c) w).2)) :
    Transparent b (InStep holds none) p fun r =>
      InStep holds (if r = .ok true then some (.user user) else none) := by
  refine transparent_change (.users c) (.user user) (fun w => (w.users.users.get? user).isSome) hp
    trivial (fun w => congrArg (Option.map Subject.user) (hc w.users)) hrun
    (fun h => by rw [h.users]) fun {w s text} habsent htext => ?_
  exact Parts.text?_answer_of_absent (hc w.users) (Option.isSome_eq_false_iff.1 habsent |>
    Option.isNone_iff_eq_none.1) htext

/-- A grant is refused if the permission is held. -/
theorem transparent_grant (role : Role) (permission : Permission) :
    Transparent b (InStep holds none) (grants (Grants.call (.grant role permission))) fun r =>
      InStep holds (if r = .ok true then some (.role role) else none) := by
  refine transparent_change (.grants (.grant role permission)) (.role role)
    (fun w => !(w.grants.ofRole role).toList.contains permission) (asks_grantsCall trivial) trivial
    (fun _ => rfl) (fun _ => rfl) (fun h => by simp only [GrantTable.ofRole, h.grants])
    fun {w s text} hheld htext => ?_
  rw [Parts.text?_grant_of_mem (by simpa using hheld), htext]

/-- A revocation is refused if the permission is not held. -/
theorem transparent_revoke (role : Role) (permission : Permission) :
    Transparent b (InStep holds none) (grants (Grants.call (.revoke role permission))) fun r =>
      InStep holds (if r = .ok true then some (.role role) else none) := by
  refine transparent_change (.grants (.revoke role permission)) (.role role)
    (fun w => (w.grants.ofRole role).toList.contains permission) (asks_grantsCall trivial) trivial
    (fun _ => rfl) (fun _ => rfl) (fun h => by simp only [GrantTable.ofRole, h.grants])
    fun {w s text} hheld htext => ?_
  rw [Parts.text?_revoke_of_not_mem (by simpa using hheld), htext]

/-! ## Operations -/

section Operations

variable (hcache : Unreliable b.cache holds) {s : Setup}

include hcache

/-- A use case that comes to the same result with the cache and without it. -/
abbrev Unseen (b : Surroundings κ ρ) (holds : κ → String → String → Prop) (p : UseCase α) : Prop :=
  Transparent b (ReadyInStep holds) p fun _ => InStep holds none

theorem Consults.unseen {p : UseCase α} (hp : Consults p) : Unseen b holds p :=
  (hp.transparent_ready hcache).mono (fun _ _ h => h) fun _ _ _ h => h.toInStep

/-- What comes first may consult the cache. -/
theorem Consults.unseen_bind {β : Type} {p : UseCase β} {k : β → UseCase α} (hp : Consults p)
    (hk : ∀ a, Unseen b holds (k a)) : Unseen b holds (p >>= k) :=
  Transparent.bind (hp.transparent_ready hcache) hk fun _ _ _ h => h.toInStep

omit hcache in
theorem Unseen.throw_bind {β : Type} (e : Error) (k : β → UseCase α) :
    Unseen b holds (throw e >>= k) :=
  Transparent.throw_bind fun _ _ h => h.toInStep

/-- What comes after a change clears the entry before it goes on. -/
theorem transparent_clear_bind (subject : Subject) {k : UseCase α} (hk : Consults k) :
    Transparent b (InStep holds (some subject)) (subject.clear >>= fun _ => k)
      fun _ => InStep holds none :=
  Transparent.bind (transparent_clear hcache subject) (fun _ => hk.transparent_inStep hcache)
    fun _ _ _ h => h

/-- A new account has an id of which the cache says nothing. -/
theorem Account.unseen_create (a : NewAccount) : Unseen b holds (create s a) := by
  simp only [create]
  split
  · exact Unseen.throw_bind _ _
  refine Consults.unseen_bind hcache (.lift _) fun _ => ?_
  refine Consults.unseen_bind hcache (.asks (asks_newSalt trivial)) fun salt => ?_
  rw [Unseen, Transparent, uncached_eq_self (asks_usersCall trivial)]
  refine ⟨fun w v h => ?_⟩
  rw [runOn_users, runOn_users]
  exact h.toInStep.answer trivial fun _ htext => Parts.text?_answer_of_absent rfl h.fresh htext

namespace UserAdmin

theorem transparent_invalidate (user : UserId) (event : Event) :
    Transparent b (InStep holds (some (.user user))) (invalidate user event)
      fun _ => InStep holds none :=
  transparent_clear_bind hcache (.user user)
    (.asks (Asks.bind (asks_publish trivial) fun _ => asks_pure _))

omit hcache in
/-- A change that is refused ends the use case, and the entry is out of date after one that is
not. -/
theorem unseen_change {p : UseCase Bool} {user : UserId} {k : UseCase α}
    (hp : Transparent b (InStep holds none) p fun r =>
      InStep holds (if r = .ok true then some (.user user) else none))
    (hk : Transparent b (InStep holds (some (.user user))) k fun _ => InStep holds none) :
    Unseen b holds (p >>= fun there => if !there then throw .userMissing else k) := by
  refine Transparent.bind (hp.mono (fun _ _ h => h.toInStep) fun _ _ _ h => h) (fun there => ?_)
    fun e w v h => ?_
  · cases there with
    | true => exact hk
    | false => exact Coupled.throw fun _ _ h => h
  · exact h

theorem unseen_changeRole (c : Caller) (user : UserId) (role : Role) :
    Unseen b holds (changeRole s c user role) := by
  refine (consults_require _ _).unseen_bind hcache fun _ => ?_
  exact unseen_change (transparent_account (.setRole user role) user (asks_usersCall trivial)
    (fun _ => rfl) fun _ => rfl) (transparent_invalidate hcache user _)

theorem unseen_changeStatus (c : Caller) (user : UserId) (status : Status) :
    Unseen b holds (changeStatus s c user status) := by
  refine (consults_require _ _).unseen_bind hcache fun _ => ?_
  dsimp only
  split
  · exact Unseen.throw_bind _ _
  refine unseen_change (transparent_account (.setStatus user status) user (asks_usersCall trivial)
    (fun _ => rfl) fun _ => rfl) ?_
  refine Transparent.bind (transparent_invalidate hcache user _) (fun _ => ?_) fun _ _ _ h => h
  refine Consults.transparent_inStep hcache ?_
  split
  · exact .asks (Asks.bind (Sessions.neutral_deleteAll user) fun _ => asks_pure _)
  · exact .pure _

theorem unseen_delete (c : Caller) (user : UserId) : Unseen b holds (delete s c user) := by
  refine (consults_require _ _).unseen_bind hcache fun _ => ?_
  dsimp only
  split
  · exact Unseen.throw_bind _ _
  exact unseen_change (transparent_account (.delete user) user (asks_usersCall trivial)
    (fun _ => rfl) fun _ => rfl) (transparent_invalidate hcache user _)

end UserAdmin

/-- A change of what a role holds, after which the entry is cleared if there was one. -/
theorem RoleAdmin.unseen_change (c : Caller) (role : Role) {change : UseCase Bool}
    (hchange : Transparent b (InStep holds none) change fun r =>
      InStep holds (if r = .ok true then some (.role role) else none)) :
    Unseen b holds do
      requireManage s c
      let changed ← change
      if changed then invalidate role
      return changed := by
  refine (consults_requireManage c).unseen_bind hcache fun _ => ?_
  refine Transparent.bind (hchange.mono (fun _ _ h => h.toInStep) fun _ _ _ h => h)
    (fun changed => ?_) fun e w v h => ?_
  · cases changed with
    | true =>
      refine Transparent.bind (transparent_clear_bind hcache (.role role)
        (.asks (Asks.bind (asks_publish trivial) fun _ => asks_pure _))) (fun _ => ?_)
        fun _ _ _ h => h
      exact Coupled.pure fun _ _ h => h
    | false => exact Coupled.pure fun _ _ h => h
  · exact h

/-- No operation shows whether there is a cache. -/
theorem Operation.unseen (op : Operation α) : Unseen b holds (op.body s) := by
  unfold Operation.body
  cases op with
  | login => exact (Auth.consults_login _).unseen hcache
  | refresh => exact (Auth.consults_refresh _).unseen hcache
  | authenticate => exact (Auth.consults_authenticate _).unseen hcache
  | logout => exact (Auth.consults_logout _).unseen hcache
  | profile => exact (Auth.consults_profile _).unseen hcache
  | register => exact Account.unseen_create hcache _
  | changePassword => exact (Account.consults_changePassword ..).unseen hcache
  | listSessions => exact (OwnSessions.consults_list _).unseen hcache
  | revokeSessions => exact (OwnSessions.consults_revoke _ _ _).unseen hcache
  | getUser => exact (UserAdmin.consults_get _ _).unseen hcache
  | createUser =>
    exact (UserAdmin.consults_require _ _).unseen_bind hcache fun _ =>
      Account.unseen_create hcache _
  | listUsers => exact (UserAdmin.consults_list _ _ _).unseen hcache
  | changeRole => exact UserAdmin.unseen_changeRole hcache _ _ _
  | changeStatus => exact UserAdmin.unseen_changeStatus hcache _ _ _
  | deleteUser => exact UserAdmin.unseen_delete hcache _ _
  | listPermissions => exact (RoleAdmin.consults_list _ _).unseen hcache
  | grant => exact RoleAdmin.unseen_change hcache _ _ (transparent_grant _ _)
  | revoke => exact RoleAdmin.unseen_change hcache _ _ (transparent_revoke _ _)

end Operations

/-! ## Runs -/

/-- What becomes of a process with a cache, and of one that asks the repositories for everything,
where the same happens to both. -/
inductive Alongside (b : Surroundings κ ρ) (holds : κ → String → String → Prop) (s : Setup) :
    Parts κ ρ → Parts κ ρ → Prop
  /-- The cache is empty in the beginning. -/
  | start {w : Parts κ ρ} (hempty : ∀ key text, ¬ holds w.cache key text) : Alongside b holds s w w
  /-- An operation is run.  If it creates a user, the id is one that nobody has. -/
  | perform {w v : Parts κ ρ} (h : Alongside b holds s w v) {α : Type} (op : Operation α)
      {next : UserId} (hnext : v.users.users.get? next = none) :
      Alongside b holds s ((op.body s).runOn b.answer (w.withNext next)).2
        ((uncached (op.body s)).runOn b.answer (v.withNext next)).2
  /-- A handler runs on an event. -/
  | handle {w v : Parts κ ρ} (h : Alongside b holds s w v) (i : Invalidator) (e : Event) :
      Alongside b holds s ((i.handle e).runOn b.answer w).2
        ((uncached (i.handle e)).runOn b.answer v).2
  /-- Entries are evicted or expire, and all but the repositories changes in any way. -/
  | lapse {w v : Parts κ ρ} (h : Alongside b holds s w v) {cache : κ}
      (hcache : ∀ key text, holds cache key text → holds w.cache key text) (rest : ρ) :
      Alongside b holds s { w with cache := cache, rest := rest } { v with rest := rest }

theorem ReadyInStep.withNext {w v : Parts κ ρ} (h : InStep holds none w v) {next : UserId}
    (hnext : v.users.users.get? next = none) :
    ReadyInStep holds (w.withNext next) (v.withNext next) where
  toInStep := h.of_same ⟨h.users, rfl, h.grants, h.rest⟩ (fun _ => rfl) .inl
  fresh := (congrArg (·.get? next) h.users).trans hnext

/-- Processes side by side are always in step. -/
theorem Alongside.inStep (hcache : Unreliable b.cache holds) {s : Setup} {w v : Parts κ ρ}
    (h : Alongside b holds s w v) : InStep holds none w v := by
  induction h with
  | start hempty => exact ⟨⟨rfl, rfl, rfl, rfl⟩, fun _ hholds => absurd hholds (hempty _ _)⟩
  | perform _ op hnext ih => exact ((op.unseen hcache).run _ _ (.withNext ih hnext)).2
  | handle _ i e ih => exact ((i.consults_handle e).transparent_inStep hcache |>.run _ _ ih).2
  | lapse _ hlost rest ih =>
    exact ih.of_same ⟨ih.users, ih.nextId, ih.grants, rfl⟩ (fun _ => rfl) fun h =>
      .inl (hlost _ _ h)

/-- Clearing an entry does not show in what the cache answers for others. -/
theorem cached?_of_clear (hdelete : DeletesOne b.cache) {cleared other : Subject}
    (hne : other ≠ cleared) (d : Json.Decoder α) (w : Parts κ ρ) :
    ((cached? d other.key).runOn b.answer (cleared.clear.runOn b.answer w).2).1 =
      ((cached? d other.key).runOn b.answer w).1 := by
  have hkey : other.key ≠ cleared.key := fun h => hne (Subject.key_injective h)
  have hget : ∀ w : Parts κ ρ, b.answer (.cache (.get other.key)) w =
      ((b.cache (.get other.key) w.cache).1, (b.answer (.cache (.get other.key)) w).2) :=
    fun _ => rfl
  have hsame : (b.cache (.get other.key) (b.answer (.cache (.delete cleared.key)) w).2.cache).1 =
      (b.cache (.get other.key) w.cache).1 := hdelete hkey
  rw [runOn_clear]
  simp only [cached?, runOn_bind, runOn_attempt, runOn_getJson]
  rw [hget, hget w, hsame]
  rcases (b.cache (.get other.key) w.cache).1 with e | _ | text
  · rfl
  · rfl
  · cases hread : Json.fromText d text <;> simp only [hread] <;> rfl

/-- **The cache is not seen.**  After any run, and whatever the cache fails to do, each operation
has the result that it would have if the repositories were asked for all facts and permissions.
Clearing the entry of a subject leaves the cached answers for all others as they are. -/
theorem cache_not_seen (hcache : Unreliable b.cache holds) {s : Setup} {w v : Parts κ ρ}
    (h : Alongside b holds s w v) :
    (∀ {α : Type} (op : Operation α) {next : UserId}, v.users.users.get? next = none →
      ((op.body s).runOn b.answer (w.withNext next)).1 =
        ((uncached (op.body s)).runOn b.answer (v.withNext next)).1) ∧
    (DeletesOne b.cache → ∀ {cleared other : Subject}, other ≠ cleared →
      ∀ {α : Type} (d : Json.Decoder α),
        ((cached? d other.key).runOn b.answer (cleared.clear.runOn b.answer w).2).1 =
          ((cached? d other.key).runOn b.answer w).1) := by
  constructor
  · intro α op next hnext
    exact ((op.unseen hcache).run _ _ (.withNext (h.inStep hcache) hnext)).1
  · intro hdelete cleared other hne α d
    exact cached?_of_clear hdelete hne d w

namespace FirstGrant

open Sample

def admin : User := account ⟨1⟩ .admin

/-- A process with an administrator, in which operators hold no permission. -/
def process : Parts MemoryCache Deployment where
  users := (UserTable.empty ⟨2⟩).insert admin
  grants := GrantTable.empty.assign .admin (SortedSet.empty.insert .fullAccess)
  cache := .empty
  rest := .start (.ofSeconds 0) ⟨2⟩

def caller : Caller := ⟨admin.id, "", "", .admin⟩

def list : Operation (List Permission) := .listPermissions caller .operator

def grant : Operation Bool := .grant caller .operator .userRead

/-- The process after an operation. -/
def after {α : Type} (op : Operation α) (w : Parts MemoryCache Deployment) :
    Parts MemoryCache Deployment :=
  ((op.body setup).runOn surroundings.answer (w.withNext ⟨2⟩)).2

/-- The process after an operation without the cache. -/
def afterUncached {α : Type} (op : Operation α) (w : Parts MemoryCache Deployment) :
    Parts MemoryCache Deployment :=
  ((uncached (op.body setup)).runOn surroundings.answer (w.withNext ⟨2⟩)).2

end FirstGrant

open FirstGrant Sample in
/-- The permissions of operators are listed, which fills the cache, and then one is granted. -/
theorem cache_not_seen_firstGrant :
    let w := after grant (after list process)
    ((list.body setup).runOn surroundings.answer (w.withNext ⟨2⟩)).1 = .ok [.userRead] ∧
      let cached := cached? Json.Decode.permissions (Subject.role .operator).key
      (cached.runOn surroundings.answer
        ((Subject.role .admin).clear.runOn surroundings.answer w).2).1 =
          (cached.runOn surroundings.answer w).1 := by
  intro w
  have hempty : ∀ key text, ¬ MemoryCache.Holds process.cache key text := by
    rintro key text ⟨e, he, -⟩
    cases he
  have hcache : Unreliable surroundings.cache MemoryCache.Holds := MemoryCache.unreliable_answer 0
  have hlisted : process.users.users.get? ⟨2⟩ = none := rfl
  have hgranted : (afterUncached list process).users.users.get? ⟨2⟩ = none := rfl
  have hnext : (afterUncached grant (afterUncached list process)).users.users.get? ⟨2⟩ = none := rfl
  have h : Alongside surroundings MemoryCache.Holds setup w _ :=
    .perform (.perform (.start hempty) list hlisted) grant hgranted
  obtain ⟨hsame, hcleared⟩ := cache_not_seen hcache h
  exact ⟨(hsame list hnext).trans rfl, hcleared (MemoryCache.deletesOne_answer 0) (by decide) _⟩

end SessionAuth
