import SessionAuth.Proofs.Authorization.Parts
import SessionAuth.Proofs.Authorization.Uncached
import SessionAuth.Proofs.Program.Coupled
import SessionAuth.Proofs.UseCase.Consults

/-!
# Results that do not show the cache

A process with a cache runs next to one that asks the repositories for everything.  The two stay
`InStep` if they differ in what is cached at most, and all that the cache of the first may answer
with is up to date, but for one subject whose entry is still to be cleared.

A program is `Transparent` if it cannot tell the two processes apart.  So are all programs that only
consult the cache (`Consults.transparent_inStep`); `transparent_change` and `transparent_clear` are
the two halves of a change, between which the processes are in step but for its subject.
-/

set_option autoImplicit false

namespace SessionAuth

open Environment Fallible Authorization

variable {κ ρ : Type}

/-! ## Processes side by side -/

/-- Two processes that differ in what is cached and in how often something was looked up, and in
nothing else. -/
structure Alike (w v : Parts κ ρ) : Prop where
  users : w.users.users = v.users.users
  nextId : w.users.nextId = v.users.nextId
  grants : w.grants.grants = v.grants.grants
  rest : w.rest = v.rest

/-- The look-ups that were counted make no difference to answers. -/
theorem UserTable.answer_congr {t t' : UserTable} (husers : t.users = t'.users)
    (hnextId : t.nextId = t'.nextId) (now : Timestamp) (c : UserRepository.Call) :
    (answer now c t).1 = (answer now c t').1 ∧
      (answer now c t).2.users = (answer now c t').2.users ∧
      (answer now c t).2.nextId = (answer now c t').2.nextId := by
  obtain ⟨users, nextId, lookups⟩ := t
  obtain ⟨users', nextId', lookups'⟩ := t'
  obtain rfl : users = users' := husers
  obtain rfl : nextId = nextId' := hnextId
  cases c with
  | create new =>
    cases hfound : (users.values.find? fun u =>
        Text.equalIgnoringAsciiCase u.email new.email).isSome <;>
      simp [answer, create, findByEmail?, newUser, insert, hfound]
  | _ => exact ⟨rfl, rfl, rfl⟩

theorem GrantTable.answer_congr {t t' : GrantTable} (h : t.grants = t'.grants) (c : Grants.Call) :
    (answer c t).1 = (answer c t').1 ∧ (answer c t).2.grants = (answer c t').2.grants := by
  obtain ⟨grants, lookups⟩ := t
  obtain ⟨grants', lookups'⟩ := t'
  obtain rfl : grants = grants' := h
  cases c <;> exact ⟨rfl, rfl⟩

variable {b : Surroundings κ ρ} {holds : κ → String → String → Prop} {w v : Parts κ ρ}

/-- Questions that do not go to the cache cannot tell processes apart that are alike. -/
theorem Alike.answer (h : Alike w v) {q : Question} (hq : SparesCache q) :
    (b.answer q w).1 = (b.answer q v).1 ∧ Alike (b.answer q w).2 (b.answer q v).2 := by
  obtain ⟨husers, hnextId, hgrants, hrest⟩ := h
  cases q with
  | users c =>
    obtain ⟨hanswer, husers', hnextId'⟩ :=
      UserTable.answer_congr husers hnextId (b.wall w.rest) c
    simp only [Surroundings.answer, ← hrest]
    exact ⟨hanswer, husers', hnextId', hgrants, rfl⟩
  | grants c =>
    obtain ⟨hanswer, hgrants'⟩ := GrantTable.answer_congr hgrants c
    exact ⟨hanswer, husers, hnextId, hgrants', hrest⟩
  | cache c => exact hq.elim
  | _ =>
    simp only [Surroundings.answer, ← hrest]
    exact ⟨trivial, husers, hnextId, hgrants, rfl⟩

/-- A process with a cache, and one without that is alike.  All that the cache may answer with is up
to date, but for one subject at most. -/
structure InStep (holds : κ → String → String → Prop) (pending : Option Subject)
    (w v : Parts κ ρ) : Prop extends Alike w v where
  coherent : ∀ {s : Subject} {text : String}, pending ≠ some s → holds w.cache s.key text →
    w.text? s = some text

namespace InStep

variable {pending : Option Subject}

theorem text?_eq (h : InStep holds none w v) {s : Subject} {text : String}
    (hholds : holds w.cache s.key text) : w.text? s = some text :=
  h.coherent (Option.some_ne_none s).symm hholds

/-- After a question the processes are in step but for a subject, if entries for others that were up
to date still are. -/
theorem answer (h : InStep holds none w v) {q : Question} (hq : SparesCache q)
    (hkept : ∀ {s text}, pending ≠ some s → w.text? s = some text →
      (b.answer q w).2.text? s = some text) :
    (b.answer q w).1 = (b.answer q v).1 ∧
      InStep holds pending (b.answer q w).2 (b.answer q v).2 := by
  obtain ⟨hanswer, halike⟩ := h.toAlike.answer (b := b) hq
  refine ⟨hanswer, halike, fun {s text} hne hholds => hkept hne (h.text?_eq ?_)⟩
  cases q with
  | cache c => exact hq.elim
  | _ => exact hholds

/-- Processes stay in step if their repositories stay as they are and the cache gets no entries but
such as are up to date. -/
theorem of_same (h : InStep holds pending w v) {w' v' : Parts κ ρ} (halike : Alike w' v')
    (htext : ∀ s, w'.text? s = w.text? s)
    (hcache : ∀ {s : Subject} {text}, holds w'.cache s.key text →
      holds w.cache s.key text ∨ w.text? s = some text) : InStep holds pending w' v' := by
  refine ⟨halike, fun {s text} hne hholds => (htext s).trans ?_⟩
  exact (hcache hholds).elim (h.coherent hne) id

end InStep

/-- Processes in step, in which the next user gets an id that nobody has. -/
structure ReadyInStep (holds : κ → String → String → Prop) (w v : Parts κ ρ) : Prop
    extends InStep holds none w v where
  fresh : w.users.users.get? w.users.nextId = none

/-- Processes in step with given accounts, and a given id for the next user. -/
structure InStepWith (holds : κ → String → String → Prop) (accounts : Table UserId User)
    (next : UserId) (w v : Parts κ ρ) : Prop extends InStep holds none w v where
  accounts : w.users.users = accounts
  next : w.users.nextId = next

/-- A neutral question changes nothing that is cached. -/
theorem IsNeutral.sparesCache {q : Question} (h : IsNeutral q) : SparesCache q := by
  cases q with
  | cache c => exact h.elim
  | _ => trivial

theorem IsNeutral.target?_eq_none {q : Question} (h : IsNeutral q) (w : Parts κ ρ) :
    w.target? q = none := by
  cases q with
  | users c => cases c <;> first | rfl | exact h.elim
  | grants c => cases c <;> first | rfl | exact h.elim
  | _ => rfl

theorem InStep.neutral (h : InStep holds none w v) {q : Question} (hq : IsNeutral q) :
    (b.answer q w).1 = (b.answer q v).1 ∧
      InStep holds none (b.answer q w).2 (b.answer q v).2 := by
  refine h.answer hq.sparesCache fun {s text} _ htext => ?_
  rw [Parts.text?_answer (by rw [hq.target?_eq_none]; nofun), htext]

theorem ReadyInStep.neutral (h : ReadyInStep holds w v) {q : Question} (hq : IsNeutral q) :
    (b.answer q w).1 = (b.answer q v).1 ∧
      ReadyInStep holds (b.answer q w).2 (b.answer q v).2 := by
  obtain ⟨hanswer, hinStep⟩ := h.toInStep.neutral (b := b) hq
  refine ⟨hanswer, hinStep, ?_⟩
  cases q with
  | users c =>
    have htarget : w.users.target? c = none := by
      cases c <;> first | rfl | exact hq.elim
    have hfresh : w.users.facts? w.users.nextId = none := UserTable.facts?_eq_none_iff.2 h.fresh
    refine UserTable.facts?_eq_none_iff.1 ?_
    show ((UserTable.answer (b.wall w.rest) c w.users).2).facts?
      (UserTable.answer (b.wall w.rest) c w.users).2.nextId = none
    rw [UserTable.nextId_answer c htarget, UserTable.facts?_answer c (by rw [htarget]; nofun)]
    exact hfresh
  | _ => exact h.fresh

/-! ## Transparent programs -/

/-- A program that comes to the same result with the cache and without it. -/
abbrev Transparent {α : Type} (b : Surroundings κ ρ) (P : Parts κ ρ → Parts κ ρ → Prop)
    (p : UseCase α) (Q : Except Error α → Parts κ ρ → Parts κ ρ → Prop) : Prop :=
  Coupled b.answer P p (uncached p) Q

namespace Transparent

variable {α β : Type} {P : Parts κ ρ → Parts κ ρ → Prop}
  {Q : Except Error β → Parts κ ρ → Parts κ ρ → Prop}

theorem bind {R : Except Error α → Parts κ ρ → Parts κ ρ → Prop} {p : UseCase α}
    {f : α → UseCase β} (hp : Transparent b P p R)
    (hok : ∀ a, Transparent b (R (.ok a)) (f a) Q)
    (herror : ∀ e w v, R (.error e) w v → Q (.error e) w v) : Transparent b P (p >>= f) Q := by
  rw [Transparent, uncached_bind]
  exact Coupled.bind hp hok herror

theorem throw_bind {e : Error} {f : α → UseCase β} (h : ∀ w v, P w v → Q (.error e) w v) :
    Transparent b P ((throw e : UseCase α) >>= f) Q :=
  ⟨fun w v hwv => ⟨rfl, h w v hwv⟩⟩

/-- What neutral questions and reading through the cache keep is kept by all programs that only
consult the cache. -/
theorem of_consults {R : Parts κ ρ → Parts κ ρ → Prop}
    (hneutral : ∀ q w v, IsNeutral q → R w v →
      (b.answer q w).1 = (b.answer q v).1 ∧ R (b.answer q w).2 (b.answer q v).2)
    (hfacts : ∀ ttls user, Transparent b R (userFacts ttls user) fun _ => R)
    (hpermissions : ∀ ttls role, Transparent b R (rolePermissions ttls role) fun _ => R)
    (hclear : ∀ s : Subject, Transparent b R s.clear fun _ => R) {p : UseCase α}
    (h : Consults p) : Transparent b R p fun _ => R := by
  induction h with
  | asks h =>
    have hself : uncached _ = _ := uncached_eq_self (h.mono fun _ => IsNeutral.sparesCache)
    rw [Transparent, hself]
    exact Coupled.of_asks h hneutral
  | userFacts ttls user => exact hfacts ttls user
  | rolePermissions ttls role => exact hpermissions ttls role
  | clear s => exact hclear s
  | attempt _ ih =>
    rw [Transparent, uncached_attempt]
    exact Coupled.attempt ih
  | bind _ _ ihp ihf => exact bind ihp ihf fun _ _ _ hR => hR

end Transparent

/-! ## Reading and clearing -/

variable (hcache : Unreliable b.cache holds)

include hcache

/-- The cache answers with a text that it holds, or with nothing; at most it forgets something. -/
theorem runOn_cached? {α : Type} {d : Json.Decoder α} {s : Subject}
    (hd : ∀ {text a}, Json.fromText d text = .ok a → s.Reads text) (w : Parts κ ρ) :
    ∃ found cache, (cached? d s.key).runOn b.answer w = (.ok found, { w with cache := cache }) ∧
      (∀ {key text}, holds cache key text → holds w.cache key text) ∧
      ∀ a, found = some a → ∃ text, holds w.cache s.key text ∧ Json.fromText d text = .ok a := by
  have hlost : ∀ {key text}, holds (b.cache (.get s.key) w.cache).2 key text →
      holds w.cache key text := by
    intro key text hholds
    rcases hcache.kept hholds with hholds | ⟨nanos, ⟨⟩⟩
    exact hholds
  have hget : b.answer (.cache (.get s.key)) w = ((b.cache (.get s.key) w.cache).1,
      { w with cache := (b.cache (.get s.key) w.cache).2 }) := rfl
  rw [cached?, runOn_bind, runOn_attempt, runOn_getJson, hget]
  rcases hfound : (b.cache (.get s.key) w.cache).1 with e | _ | text
  · exact ⟨none, _, rfl, hlost, nofun⟩
  · exact ⟨none, _, rfl, hlost, nofun⟩
  · cases hread : Json.fromText d text with
    | error e => exact ⟨none, _, by simp only [hread]; rfl, hlost, nofun⟩
    | ok a =>
      refine ⟨some a, _, by simp only [hread]; rfl, hlost, ?_⟩
      rintro _ ⟨⟩
      rcases hcache.get hfound with hholds | hunread
      · exact ⟨text, hholds, hread⟩
      · exact absurd (hd hread) hunread

omit hcache in
theorem runOn_storedFacts (user : UserId) (v : Parts κ ρ) :
    (storedFacts user).runOn b.answer v = (match v.users.users.get? user with
      | some u => .ok u.facts
      | none => .error (.userWithIdMissing user), (b.answer (.users (.findById user)) v).2) := by
  have hfind : b.answer (.users (.findById user)) v =
      (.ok (v.users.users.get? user), (b.answer (.users (.findById user)) v).2) := rfl
  rw [storedFacts, runOn_bind, runOn_users, hfind]
  cases v.users.users.get? user <;> rfl

/-- A text that is kept for a subject is the only one that the cache gets. -/
theorem holds_set {k k' : κ} (subject : Subject) {text : String} {nanos : Nat}
    (hlost : ∀ {key text}, holds k' key text → holds k key text) {s : Subject} {text' : String}
    (h : holds (b.cache (.set subject.key text nanos) k').2 s.key text') :
    holds k s.key text' ∨ s = subject ∧ text' = text := by
  rcases hcache.kept h with h | ⟨nanos, hset⟩
  · exact .inl (hlost h)
  · injection hset with hkey htext
    exact .inr ⟨Subject.key_injective hkey.symm, htext.symm⟩

/-- The facts that are read are those that the repository holds now. -/
theorem transparent_userFacts (accounts : Table UserId User) (next : UserId) (ttls : CacheTtls)
    (user : UserId) : Transparent b (InStepWith holds accounts next) (userFacts ttls user)
      fun _ => InStepWith holds accounts next := by
  refine ⟨fun w v hwv => ?_⟩
  obtain ⟨h, rfl, rfl⟩ := hwv
  obtain ⟨found, cache, hcached, hlost, hfound⟩ :=
    runOn_cached? (s := .user user) hcache (fun {_ facts} hread => ⟨facts, hread⟩) w
  replace hcached : (cached? Json.Decode.facts (Keys.userFacts user.toText)).runOn b.answer w =
    (.ok found, { w with cache := cache }) := hcached
  rw [uncached_userFacts, runOn_storedFacts, ← h.users]
  simp only [userFacts]
  rw [runOn_bind_of_ok _ _ hcached]
  cases found with
  | some facts =>
    obtain ⟨text, hholds, hread⟩ := hfound facts rfl
    obtain ⟨stored, hstored, rfl⟩ := Option.map_eq_some_iff.1 (h.text?_eq hholds)
    obtain ⟨u, hu, rfl⟩ := UserTable.facts?_eq_some_iff.1 hstored
    cases (Facts.fromText_compress u.facts).symm.trans hread
    rw [hu]
    refine ⟨rfl, h.of_same ?_ (fun _ => rfl) fun hholds => .inl (hlost hholds), rfl, rfl⟩
    exact ⟨h.users, h.nextId, h.grants, h.rest⟩
  | none =>
    have hfind : b.answer (.users (.findById user)) { w with cache := cache } =
      (.ok (w.users.users.get? user), { w with
        cache := cache, users := { w.users with lookups := w.users.lookups + 1 } }) := rfl
    rw [runOn_bind, runOn_users, hfind]
    cases hu : w.users.users.get? user with
    | none =>
      refine ⟨rfl, h.of_same ?_ (fun _ => rfl) fun hholds => .inl (hlost hholds), rfl, rfl⟩
      exact ⟨h.users, h.nextId, h.grants, h.rest⟩
    | some u =>
      -- the entry that is written is that of the account that was just read
      refine ⟨rfl, h.of_same ?_ (fun _ => rfl) fun {s text} hholds => ?_, rfl, rfl⟩
      · exact ⟨h.users, h.nextId, h.grants, h.rest⟩
      rcases holds_set hcache (.user user) hlost hholds with hholds | ⟨rfl, rfl⟩
      · exact .inl hholds
      · exact .inr (Option.map_eq_some_iff.2
          ⟨u.facts, UserTable.facts?_eq_some_iff.2 ⟨u, hu, rfl⟩, rfl⟩)

/-- The permissions that are read are those that the repository holds now. -/
theorem transparent_rolePermissions (accounts : Table UserId User) (next : UserId)
    (ttls : CacheTtls) (role : Role) :
    Transparent b (InStepWith holds accounts next) (rolePermissions ttls role)
      fun _ => InStepWith holds accounts next := by
  refine ⟨fun w v hwv => ?_⟩
  obtain ⟨h, rfl, rfl⟩ := hwv
  obtain ⟨found, cache, hcached, hlost, hfound⟩ :=
    runOn_cached? (s := .role role) hcache (fun {_ held} hread => ⟨held, hread⟩) w
  replace hcached : (cached? Json.Decode.permissions (Keys.rolePermissions role.name)).runOn
    b.answer w = (.ok found, { w with cache := cache }) := hcached
  have hof : ∀ w : Parts κ ρ, b.answer (.grants (.ofRole role)) w =
    (.ok (w.grants.ofRole role).toList,
      { w with grants := { w.grants with lookups := w.grants.lookups + 1 } }) := fun _ => rfl
  have hheld : v.grants.ofRole role = w.grants.ofRole role := by
    rw [GrantTable.ofRole, GrantTable.ofRole, h.grants]
  rw [uncached_rolePermissions, runOn_grants, hof v, hheld]
  simp only [rolePermissions]
  rw [runOn_bind_of_ok _ _ hcached]
  cases found with
  | some held =>
    obtain ⟨text, hholds, hread⟩ := hfound held rfl
    obtain rfl := Option.some.inj (h.text?_eq hholds)
    cases (Permission.fromText_compress (w.grants.ofRole role).toList).symm.trans hread
    refine ⟨rfl, h.of_same ?_ (fun _ => rfl) fun hholds => .inl (hlost hholds), rfl, rfl⟩
    exact ⟨h.users, h.nextId, h.grants, h.rest⟩
  | none =>
    rw [runOn_bind, runOn_grants, hof]
    refine ⟨rfl, h.of_same ?_ (fun _ => rfl) fun {s text} hholds => ?_, rfl, rfl⟩
    · exact ⟨h.users, h.nextId, h.grants, h.rest⟩
    rcases holds_set hcache (.role role) hlost hholds with hholds | ⟨rfl, rfl⟩
    · exact .inl hholds
    · exact .inr rfl

/-- Once an entry is cleared the processes are in step again. -/
theorem transparent_clear (subject : Subject) : Transparent b (InStep holds (some subject))
    subject.clear fun _ => InStep holds none := by
  refine ⟨fun w v h => ?_⟩
  rw [uncached_clear, runOn_clear, runOn_pure]
  refine ⟨rfl, ⟨h.users, h.nextId, h.grants, h.rest⟩, fun {s text} _ hholds => ?_⟩
  have hne : s ≠ subject := by
    rintro rfl
    exact hcache.deleted hholds
  rcases hcache.kept hholds with hholds | ⟨nanos, ⟨⟩⟩
  exact h.coherent (fun hs => hne (Option.some.inj hs).symm) hholds

omit hcache in
/-- What is known of some processes in step, and depends on accounts and the id of the next user
only, is kept by programs that change neither. -/
theorem Transparent.of_accounts {α : Type} {R : Parts κ ρ → Parts κ ρ → Prop} {p : UseCase α}
    (hinStep : ∀ {w v}, R w v → InStep holds none w v)
    (hback : ∀ {w v w' v'}, R w v → InStepWith holds w.users.users w.users.nextId w' v' → R w' v')
    (hp : ∀ accounts next, Transparent b (InStepWith holds accounts next) p
      fun _ => InStepWith holds accounts next) : Transparent b R p fun _ => R := by
  refine ⟨fun w v h => ?_⟩
  obtain ⟨hr, hafter⟩ := (hp w.users.users w.users.nextId).run w v ⟨hinStep h, rfl, rfl⟩
  exact ⟨hr, hback h hafter⟩

/-- A program that only consults the cache is transparent, whatever is known of the accounts that
neutral questions keep. -/
theorem Consults.transparent {α : Type} {R : Parts κ ρ → Parts κ ρ → Prop}
    (hneutral : ∀ q w v, IsNeutral q → R w v →
      (b.answer q w).1 = (b.answer q v).1 ∧ R (b.answer q w).2 (b.answer q v).2)
    (hinStep : ∀ {w v}, R w v → InStep holds none w v)
    (hback : ∀ {w v w' v'}, R w v → InStepWith holds w.users.users w.users.nextId w' v' → R w' v')
    {p : UseCase α} (h : Consults p) : Transparent b R p fun _ => R := by
  refine Transparent.of_consults hneutral (fun ttls user => ?_) (fun ttls role => ?_)
    (fun s => ?_) h
  · exact .of_accounts hinStep hback fun accounts next =>
      transparent_userFacts hcache accounts next ttls user
  · exact .of_accounts hinStep hback fun accounts next =>
      transparent_rolePermissions hcache accounts next ttls role
  · refine .of_accounts hinStep hback fun accounts next => ⟨fun w v ⟨h, haccounts, hnext⟩ => ?_⟩
    obtain ⟨hr, hafter⟩ :=
      (transparent_clear hcache s).run w v ⟨h.toAlike, fun _ => h.text?_eq⟩
    refine ⟨hr, hafter, ?_, ?_⟩
    · rw [runOn_clear]
      exact haccounts
    · rw [runOn_clear]
      exact hnext

theorem Consults.transparent_inStep {α : Type} {p : UseCase α} (h : Consults p) :
    Transparent b (InStep holds none) p fun _ => InStep holds none :=
  h.transparent hcache (fun _ _ _ hq hwv => hwv.neutral hq) id fun _ h' => h'.toInStep

theorem Consults.transparent_ready {α : Type} {p : UseCase α} (h : Consults p) :
    Transparent b (ReadyInStep holds) p fun _ => ReadyInStep holds := by
  refine h.transparent hcache (fun _ _ _ hq hwv => hwv.neutral hq) (fun hwv => hwv.toInStep) ?_
  rintro w v w' v' hwv ⟨hinStep, haccounts, hnext⟩
  exact ⟨hinStep, by rw [haccounts, hnext, hwv.fresh]⟩

end SessionAuth
