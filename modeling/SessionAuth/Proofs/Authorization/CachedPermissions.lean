import SessionAuth.Proofs.Permission.Grammar
import SessionAuth.Proofs.Program.Coupled
import SessionAuth.Proofs.Service.Process
import SessionAuth.Proofs.UseCase.Questions

/-!
# Permissions that come from the cache

Permissions that are kept in a cache are read again when they are asked for, so that each of them
has to pass as a permission once more.  They all do, and come back in their order, whatever keeps
the text (`Cache.getJson_of_kept`).

So it makes no difference to a decision whether the permissions of a role are found in the cache, as
they were written there, or asked of the repository.  Two processes that differ in that entry alone
are `ButEntry`; no question that spares the entry can tell them apart, and reading the permissions
of the role comes to the same list in both (`Authorization.authorize_kept`).
-/

set_option autoImplicit false

namespace SessionAuth

open Environment Fallible

/-! ## Lists that are kept -/

namespace Cache

variable {σ : Type} {key : String} {held : List Permission}

/-- A list of permissions comes back from every cache that answers with the text that was to be
kept. -/
theorem getJson_of_kept (answer : Program.Server Cache.interface σ) (t : σ)
    (h : (answer (.get key) t).1 = .ok (some (Permission.listToJson held).compress)) :
    ((getJson Json.Decode.permissions key).runOn answer t).1 = .ok (some held) := by
  have hcall : (call (.get key)).runOn answer t = answer (.get key) t := rfl
  rw [getJson, runOn_bind, hcall]
  generalize answer (.get key) t = x at h
  obtain ⟨r, t'⟩ := x
  obtain rfl : r = _ := h
  simp only [Permission.fromText_compress]
  rfl

/-- A cache in memory answers with it until its time is over. -/
theorem getJson_setJson {now later nanos : Nat} (hlive : later < now + nanos) (c : MemoryCache) :
    ((getJson Json.Decode.permissions key).runOn (MemoryCache.answer later)
      ((setJson key (Permission.listToJson held) nanos).runOn (MemoryCache.answer now) c).2).1 =
        .ok (some held) := by
  refine getJson_of_kept _ _ (congrArg Except.ok ?_)
  have hset :
      ((setJson key (Permission.listToJson held) nanos).runOn (MemoryCache.answer now) c).2 =
        ⟨c.entries.set key ⟨(Permission.listToJson held).compress, now + nanos⟩⟩ := rfl
  rw [hset]
  exact Expiring.live?_eq_some_iff.2 ⟨_, (Table.get?_set _ _ _ _).trans (if_pos rfl), hlive, rfl⟩

/-- A call that does not concern the entry of a key. -/
def Call.Spares (key : String) : Call → Prop
  | get k | set k _ _ | delete k | has k => k ≠ key
  | isHealthy => True

end Cache

/-! ## Processes that differ in one entry -/

/-- Two caches that differ in the entry of one key at most: in the first it holds a given text, if
it is there at all, and in the second there is none. -/
structure MemoryCache.ButEntry (key text : String) (c c' : MemoryCache) : Prop where
  others : ∀ {k}, k ≠ key → c.entries.get? k = c'.entries.get? k
  entry : ∀ {e}, c.entries.get? key = some e → e.value = text
  cleared : c'.entries.get? key = none

namespace MemoryCache.ButEntry

variable {key text : String} {c c' : MemoryCache} {q : Cache.Call}

theorem answer (h : ButEntry key text c c') (now : Nat) (hq : q.Spares key) :
    (MemoryCache.answer now q c).1 = (MemoryCache.answer now q c').1 ∧
      ButEntry key text (MemoryCache.answer now q c).2 (MemoryCache.answer now q c').2 := by
  have hget : ∀ {k}, k ≠ key → c.get? now k = c'.get? now k := fun hk => by
    rw [get?, get?, h.others hk]
  cases q with
  | get k => exact ⟨congrArg Except.ok (hget hq), h⟩
  | has k => exact ⟨congrArg (fun found => Except.ok (Option.isSome found)) (hget hq), h⟩
  | isHealthy => exact ⟨rfl, h⟩
  | set k t nanos =>
    refine ⟨rfl, fun {j} hj => ?_, fun {e} he => ?_, ?_⟩
    · show (c.entries.set k _).get? j = (c'.entries.set k _).get? j
      rw [Table.get?_set, Table.get?_set, h.others hj]
    · exact h.entry (((Table.get?_set _ _ _ _).trans (if_neg hq.symm)).symm.trans he)
    · exact ((Table.get?_set _ _ _ _).trans (if_neg hq.symm)).trans h.cleared
  | delete k =>
    refine ⟨rfl, fun {j} hj => ?_, fun {e} he => ?_, ?_⟩
    · show (c.entries.erase k).get? j = (c'.entries.erase k).get? j
      rw [Table.get?_erase, Table.get?_erase, h.others hj]
    · exact h.entry (Table.get?_erase_eq_some_iff.1 he).2
    · exact ((Table.get?_erase _ _ _).trans (if_neg hq.symm)).trans h.cleared

/-- Calls that spare the entry cannot tell the two caches apart, whatever their condition. -/
theorem impaired (h : ButEntry key text c c') (condition : CacheCondition) (now : Nat)
    (hq : q.Spares key) :
    (condition.impair (MemoryCache.answer now) q c).1 =
        (condition.impair (MemoryCache.answer now) q c').1 ∧
      ButEntry key text (condition.impair (MemoryCache.answer now) q c).2
        (condition.impair (MemoryCache.answer now) q c').2 := by
  cases condition with
  | unreachable => exact ⟨rfl, h⟩
  | well => exact h.answer now hq
  | unwell =>
    cases q with
    | isHealthy => exact ⟨rfl, h⟩
    | _ => exact h.answer now hq

end MemoryCache.ButEntry

namespace Deployment

/-- Two processes that differ in one entry of their caches at most. -/
structure ButEntry (key text : String) (d e : Deployment) : Prop where
  rest : d = { e with cache := d.cache }
  cache : MemoryCache.ButEntry key text d.cache e.cache

/-- A question that does not concern the entry of a key. -/
def SparesEntry (key : String) : Question → Prop
  | .cache c => c.Spares key
  | _ => True

variable {f : Supply} {key text : String} {d e : Deployment}

/-- A cache that is out of reach answers nothing. -/
theorem serve_cache_of_unreachable (h : d.cacheCondition = .unreachable) (c : Cache.Call) :
    serve f (.cache c) d = (.error (.unreachable .cache), d) := by
  cases d with
  | mk =>
    cases h
    rfl

theorem ButEntry.serve (h : ButEntry key text d e) {q : Question} (hq : SparesEntry key q) :
    (Deployment.serve f q d).1 = (Deployment.serve f q e).1 ∧
      ButEntry key text (Deployment.serve f q d).2 (Deployment.serve f q e).2 := by
  obtain ⟨c, rfl⟩ : ∃ c, d = { e with cache := c } := ⟨d.cache, h.rest⟩
  have hcache : MemoryCache.ButEntry key text c e.cache := h.cache
  cases q with
  | cache call =>
    obtain ⟨hsame, hnext⟩ := hcache.impaired e.cacheCondition e.clock.elapsed hq
    exact ⟨hsame, rfl, hnext⟩
  | sessions q =>
    simp only [Deployment.serve, Deployment.answer]
    split <;> exact ⟨rfl, rfl, hcache⟩
  | users q =>
    simp only [Deployment.serve, Deployment.answer]
    split <;> exact ⟨rfl, rfl, hcache⟩
  | _ => exact ⟨rfl, rfl, hcache⟩

theorem ButEntry.advance (h : ButEntry key text d e) (millis : Nat) :
    ButEntry key text (d.advance millis) (e.advance millis) := by
  obtain ⟨c, rfl⟩ : ∃ c, d = { e with cache := c } := ⟨d.cache, h.rest⟩
  exact ⟨rfl, h.cache⟩

/-- Writing an entry in one process and clearing it in the other makes that difference, unless the
cache is out of reach. -/
theorem butEntry_of_written (f : Supply) (d : Deployment) (key text : String) (nanos : Nat) :
    (serve f (.cache (.set key text nanos)) d).2 = (serve f (.cache (.delete key)) d).2 ∨
      ButEntry key text (serve f (.cache (.set key text nanos)) d).2
        (serve f (.cache (.delete key)) d).2 := by
  by_cases hreach : d.cacheCondition = .unreachable
  · left
    rw [serve_cache_of_unreachable hreach, serve_cache_of_unreachable hreach]
  right
  rw [serve_cache hreach (c := .set _ _ _) nofun, serve_cache hreach (c := .delete _) nofun]
  refine ⟨rfl, fun {k} hk => ?_, fun {e} he => ?_, ?_⟩
  · show (d.cache.entries.set key _).get? k = (d.cache.entries.erase key).get? k
    rw [Table.get?_set, Table.get?_erase, if_neg hk, if_neg hk]
  · cases ((Table.get?_set _ _ _ _).trans (if_pos rfl)).symm.trans he
    rfl
  · exact (Table.get?_erase _ _ _).trans (if_pos rfl)

end Deployment

/-! ## Decisions -/

namespace Authorization

open Deployment

variable {f : Supply} {ttls : CacheTtls} {role : Role}

/-- A lookup in the cache finds nothing, or the list that is kept there. -/
theorem runOn_cached?_of_kept {d : Deployment} {key : String} {held : List Permission}
    (h : ∀ text, d.cache.get? d.clock.elapsed key = some text →
      text = (Permission.listToJson held).compress) :
    runOn (serve f) (cached? Json.Decode.permissions key) d = (.ok none, d) ∨
      runOn (serve f) (cached? Json.Decode.permissions key) d = (.ok (some held), d) := by
  rw [cached?, runOn_bind, runOn_attempt, runOn_getJson]
  by_cases hreach : d.cacheCondition = .unreachable
  · left
    rw [serve_cache_of_unreachable hreach]
    rfl
  rw [serve_cache hreach (c := .get _) nofun]
  cases hfound : d.cache.get? d.clock.elapsed key with
  | none =>
    left
    simp only [MemoryCache.answer, hfound]
    rfl
  | some text =>
    right
    simp only [MemoryCache.answer, hfound, h text hfound, Permission.fromText_compress]
    rfl

/-- What is read through the cache is what the repository holds, if the cache answers with nothing
else. -/
theorem runOn_rolePermissions_of_kept {d : Deployment}
    (h : ∀ text, d.cache.get? d.clock.elapsed (Keys.rolePermissions role.name) = some text →
      text = (Permission.listToJson (d.grants.ofRole role).toList).compress) :
    ((rolePermissions ttls role).runOn (serve f) d).1 = .ok (d.grants.ofRole role).toList := by
  rw [rolePermissions]
  rcases runOn_cached?_of_kept h with hcached | hcached
  · rw [runOn_bind_of_ok _ _ hcached]
    dsimp only
    have hasked : runOn (serve f) (grants (Grants.call (.ofRole role))) d =
        (.ok (d.grants.ofRole role).toList, (serve f (.grants (.ofRole role)) d).2) := rfl
    rw [runOn_bind_of_ok _ _ hasked, runOn_bind_of_ok _ _ (runOn_bestEffort _ _ _)]
    rfl
  · rw [runOn_bind_of_ok _ _ hcached]
    rfl

/-- Two processes that differ in the entry of a role at most, which is what was written of the
permissions that it holds. -/
structure Kept (role : Role) (text : String) (d e : Deployment) : Prop where
  butEntry : ButEntry (Keys.rolePermissions role.name) text d e
  current : text = (Permission.listToJson (d.grants.ofRole role).toList).compress

/-- A question about users, or to the cache about something else. -/
def AsksUsers (role : Role) : Question → Prop
  | .cache c => c.Spares (Keys.rolePermissions role.name)
  | .users _ => True
  | _ => False

theorem Kept.serve {text : String} {d e : Deployment} (h : Kept role text d e) {q : Question}
    (hq : AsksUsers role q) : (Deployment.serve f q d).1 = (Deployment.serve f q e).1 ∧
      Kept role text (Deployment.serve f q d).2 (Deployment.serve f q e).2 := by
  have hspares : SparesEntry (Keys.rolePermissions role.name) q := by
    cases q <;> first | exact hq | exact trivial
  obtain ⟨hsame, hnext⟩ := h.butEntry.serve (f := f) hspares
  refine ⟨hsame, hnext, h.current.trans ?_⟩
  cases q with
  | cache c => rfl
  | users c =>
    simp only [Deployment.serve, Deployment.answer]
    split <;> rfl
  | _ => exact hq.elim

theorem asksUsers_checkStatus (ttls : CacheTtls) (user : UserId) (role : Role) :
    Asks (AsksUsers role) (checkStatus ttls user) := by
  have hne : Keys.userFacts user.toText ≠ Keys.rolePermissions role.name :=
    Keys.userFacts_ne_rolePermissions _ _
  exact asks_checkStatus (asks_userFacts hne trivial fun _ _ => hne)

/-- The permissions of all roles are read alike. -/
theorem coupled_rolePermissions {text : String} (ttls : CacheTtls) (r : Role) :
    Coupled (serve f) (Kept role text) (rolePermissions ttls r) (rolePermissions ttls r)
      fun _ _ _ => True := by
  by_cases hr : r = role
  · subst hr
    refine ⟨fun d e h => ⟨?_, trivial⟩⟩
    have hgrants : e.grants = d.grants := by rw [h.butEntry.rest]
    rw [runOn_rolePermissions_of_kept fun found hfound => ?_,
      runOn_rolePermissions_of_kept fun found hfound => ?_, hgrants]
    · -- nothing is found where the entry was cleared
      obtain ⟨x, hx, -⟩ := Expiring.live?_eq_some_iff.1 hfound
      cases h.butEntry.cache.cleared.symm.trans hx
    · obtain ⟨x, hx, -, rfl⟩ := Expiring.live?_eq_some_iff.1 hfound
      rw [h.butEntry.cache.entry hx]
      exact h.current
  · have hne : Keys.rolePermissions r.name ≠ Keys.rolePermissions role.name := by
      intro heq
      have hkeys : (Subject.role r).key = (Subject.role role).key := heq
      exact hr (Subject.role.inj (Subject.key_injective hkeys))
    have hasks : Asks (SparesEntry (Keys.rolePermissions role.name)) (rolePermissions ttls r) :=
      asks_rolePermissions hne trivial fun _ _ => hne
    exact (Coupled.of_asks hasks fun _ _ _ hq h => h.serve hq).mono (fun _ _ h => h.butEntry)
      fun _ _ _ _ => trivial

theorem coupled_authorize {text : String} (ttls : CacheTtls) (user : UserId)
    (required : Permission) : Coupled (serve f) (Kept role text) (authorize ttls user required)
      (authorize ttls user required) fun _ _ _ => True := by
  refine Coupled.bind (Coupled.of_asks (asksUsers_checkStatus ttls user role)
    fun _ _ _ hq h => h.serve hq) (fun facts => ?_) fun _ _ _ _ => trivial
  refine Coupled.bind (coupled_rolePermissions ttls facts.role) (fun held => ?_)
    fun _ _ _ _ => trivial
  split
  · exact Coupled.pure fun _ _ _ => trivial
  · exact Coupled.throw fun _ _ _ => trivial

/-- **A decision does not depend on where permissions come from.**  It is the same in a process in
which the permissions that a role holds were written to the cache, and in one in which the entry of
the role was cleared, however much time has passed since. -/
theorem authorize_kept (f : Supply) (d : Deployment) (role : Role) (nanos millis : Nat)
    (ttls : CacheTtls) (user : UserId) (required : Permission) :
    ((authorize ttls user required).runOn (serve f)
        (((cache (Cache.setJson (Keys.rolePermissions role.name)
          (Permission.listToJson (d.grants.ofRole role).toList) nanos)).runOn (serve f) d).2.advance
            millis)).1 =
      ((authorize ttls user required).runOn (serve f)
        (((clearRole role).runOn (serve f) d).2.advance millis)).1 := by
  have hset : (cache (Cache.setJson (Keys.rolePermissions role.name)
      (Permission.listToJson (d.grants.ofRole role).toList) nanos)).runOn (serve f) d =
        serve f (.cache (.set (Keys.rolePermissions role.name)
          (Permission.listToJson (d.grants.ofRole role).toList).compress nanos)) d :=
    runOn_cache ..
  have hclear : (clearRole role).runOn (serve f) d =
      (.ok (), (serve f (.cache (.delete (Keys.rolePermissions role.name))) d).2) :=
    runOn_clear (serve f) d (.role role)
  rw [hset, hclear]
  rcases butEntry_of_written f d (Keys.rolePermissions role.name)
    (Permission.listToJson (d.grants.ofRole role).toList).compress nanos with heq | hbut
  · rw [heq]
  · exact ((coupled_authorize ttls user required).run _ _ ⟨hbut.advance millis, rfl⟩).1

end Authorization

/-! ## What becomes of the text of a permission -/

/-- **Permissions are what they are written as, wherever they come from.**

A text is read as a permission, directly or as JSON, if and only if it is of the grammar; it is then
the text of the permission, and no other text is that of the wildcard.  A list of permissions comes
back from a cache as it was, and a decision with permissions from there is the one with those of the
repository. -/
theorem Permission.cached_as_stored :
    (∀ s p, Permission.read s = .ok p ↔ Permission.Names s ∧ p.text = s) ∧
    (∀ s, ¬ Permission.Names s → Permission.read s = .error (.invalidPermission s)) ∧
    (∀ s text p, Json.fromText Json.Decode.string text = .ok s →
      (Json.fromText Json.Decode.permission text = .ok p ↔ Permission.Names s ∧ p.text = s)) ∧
    (∀ s p, Json.fromText Json.Decode.permission (Json.str s).compress = .ok p ↔
      Permission.Names s ∧ p.text = s) ∧
    (∀ p : Permission, p.toJson = .str p.text ∧
      (p.isFullAccess ↔ p.text = "full_access") ∧
      ((∀ required, p.grants required) ↔ p.text = "full_access") ∧
      ∀ required, p.text ≠ "full_access" → (p.grants required ↔ required = p)) ∧
    (∀ (held : List Permission) (key : String) (nanos : Nat),
      Cache.setJson key (Permission.listToJson held) nanos =
        Cache.call (.set key (Permission.listToJson held).compress nanos) ∧
      (∀ {σ : Type} (answer : Program.Server Cache.interface σ) (t : σ),
        (answer (.get key) t).1 = .ok (some (Permission.listToJson held).compress) →
          ((Cache.getJson Json.Decode.permissions key).runOn answer t).1 = .ok (some held)) ∧
      ∀ (c : MemoryCache) (now later : Nat), later < now + nanos →
        ((Cache.getJson Json.Decode.permissions key).runOn (MemoryCache.answer later)
          ((Cache.setJson key (Permission.listToJson held) nanos).runOn
            (MemoryCache.answer now) c).2).1 = .ok (some held)) ∧
    ∀ (f : Supply) (d : Deployment) (role : Role) (nanos millis : Nat)
      (ttls : Authorization.CacheTtls) (user : UserId) (required : Permission),
      ((Authorization.authorize ttls user required).runOn (Deployment.serve f)
          (((cache (Cache.setJson (Keys.rolePermissions role.name)
            (Permission.listToJson (d.grants.ofRole role).toList) nanos)).runOn
              (Deployment.serve f) d).2.advance millis)).1 =
        ((Authorization.authorize ttls user required).runOn (Deployment.serve f)
          (((Authorization.clearRole role).runOn (Deployment.serve f) d).2.advance millis)).1 := by
  have hread : ∀ s (p : Permission), p.text = s ↔ Permission.Names s ∧ p.text = s :=
    fun s p => ⟨fun h => ⟨Permission.exists_text_iff.1 ⟨p, h⟩, h⟩, And.right⟩
  have hjson : ∀ s text p, Json.fromText Json.Decode.string text = .ok s →
      (Json.fromText Json.Decode.permission text = .ok p ↔ Permission.Names s ∧ p.text = s) := by
    intro s text p htext
    rw [Permission.fromText_eq_ok_iff, htext, Except.ok.injEq, eq_comm, ← hread]
  refine ⟨fun s p => ?_, fun s => Permission.read_of_not_names, hjson,
    fun s p => hjson s _ p (Json.fromText_str s), fun p => ⟨rfl, Permission.isFullAccess_iff,
      Permission.forall_grants_iff, fun required hp => ?_⟩, fun held key nanos => ⟨rfl, ?_, ?_⟩,
    Authorization.authorize_kept⟩
  · exact Permission.read_eq_ok_iff.trans (hread s p)
  · have hne : p ≠ Permission.fullAccess := fun h => hp (h ▸ rfl)
    rw [Permission.grants_iff, or_iff_right hne, eq_comm]
  · exact Cache.getJson_of_kept
  · exact fun c now later hlive => Cache.getJson_setJson hlive c

end SessionAuth
