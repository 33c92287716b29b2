import SessionAuth.Proofs.Permission.Grammar
import SessionAuth.Proofs.Service.History
import SessionAuth.Proofs.Service.InParts

/-!
# Authority

A caller has authority for what needs a permission if the repositories, as they are now, have an
active account of the caller with a role that holds the permission (`Deployment.Holds`).  A decision
looks at the cache, and the repositories are asked only for what is not found there.  All entries of
the cache are up to date in whatever becomes of the service, so that the decision is in favour of a
caller only if the caller has authority (`Service.holds_of_require`).
-/

set_option autoImplicit false

namespace SessionAuth

open Environment Fallible Authorization

/-! ## Decisions without the cache -/

namespace Authorization

variable {κ ρ : Type} {b : Surroundings κ ρ} {v v' : Parts κ ρ} {ttls : CacheTtls} {user : UserId}
  {facts : Facts} {required : Permission}

/-- A status that is checked without the cache is that of the account. -/
theorem active_of_checkStatus
    (h : (uncached (checkStatus ttls user)).runOn b.answer v = (.ok facts, v')) :
    (∃ u, v.users.users.get? user = some u ∧ u.status = .active ∧ facts = u.facts) ∧
      v'.grants = v.grants := by
  rw [checkStatus, uncached_bind, uncached_attempt, uncached_userFacts,
    runOn_bind_of_ok _ _ (runOn_attempt _ _ _), runOn_storedFacts] at h
  cases hu : v.users.users.get? user with
  | none =>
    rw [hu] at h
    cases h
  | some u =>
    rw [hu] at h
    have hstatus : u.facts.status = u.status := rfl
    simp only [hstatus] at h
    cases hactive : u.status with
    | inactive | suspended =>
      rw [hactive] at h
      cases h
    | active =>
      rw [hactive] at h
      obtain ⟨hfacts, rfl⟩ := Prod.mk.inj h
      exact ⟨⟨u, rfl, hactive, (Except.ok.inj hfacts).symm⟩, rfl⟩

/-- A decision without the cache is in favour of those only who hold the permission. -/
theorem held_of_authorize
    (h : (uncached (authorize ttls user required)).runOn b.answer v = (.ok facts, v')) :
    ∃ u, v.users.users.get? user = some u ∧ u.status = .active ∧
      ∃ held ∈ (v.grants.ofRole u.role).toList, held.grants required = true := by
  rw [authorize, uncached_bind] at h
  obtain ⟨facts', v₁, hchecked, h⟩ := (runOn_bind_eq_ok_iff _ _).1 h
  obtain ⟨⟨u, hu, hactive, rfl⟩, hgrants⟩ := active_of_checkStatus hchecked
  have hrole : (b.answer (.grants (.ofRole u.role)) v₁).1 = .ok (v.grants.ofRole u.role).toList :=
    congrArg (fun t : GrantTable => Except.ok (t.ofRole u.role).toList) hgrants
  rw [uncached_bind, uncached_rolePermissions] at h
  obtain ⟨held, v₂, hasked, h⟩ := (runOn_bind_eq_ok_iff _ _).1 h
  rw [runOn_grants] at hasked
  obtain rfl : (v.grants.ofRole u.role).toList = held :=
    Except.ok.inj (hrole.symm.trans (congrArg Prod.fst hasked))
  refine ⟨u, hu, hactive, List.any_eq_true.1 ?_⟩
  by_contra hnone
  have hrole' : u.facts.role = u.role := rfl
  rw [if_neg hnone] at h
  cases h

end Authorization

/-! ## Callers -/

namespace Deployment

/-- Whether the repositories have an active account of a user, with a role that holds a permission
or the one that grants all others. -/
def Holds (d : Deployment) (user : UserId) (permission : Permission) : Prop :=
  ∃ u, d.users.users.get? user = some u ∧ u.status = .active ∧
    (permission ∈ (d.grants.ofRole u.role).toList ∨
      .fullAccess ∈ (d.grants.ofRole u.role).toList)

end Deployment

namespace Service

open Deployment

variable {s : Setup} {f : Supply} {w : Service} {next : UserId}

/-- **Decisions follow the repositories.**  Whoever is let through has authority at that moment. -/
theorem holds_of_require (h : Reachable s f w) (hnext : w.process.users.users.get? next = none)
    {c : Caller} {permission : Permission} {d' : Deployment}
    (hrun : (UserAdmin.require s c permission).runOn (serve f) (w.ready next) = (.ok (), d')) :
    w.process.Holds c.userId permission := by
  have hcache : Unreliable f.surroundings.cache TimedCache.Holds := TimedCache.unreliable_answer
  have hready : ReadyInStep TimedCache.Holds (w.ready next).parts (w.ready next).parts :=
    .withNext (reachable_upToDate h).inStep hnext
  obtain ⟨hsame, -⟩ := ((UserAdmin.consults_require (s := s) c permission).transparent_inStep
    hcache).run _ _ hready.toInStep
  rw [runOn_parts (h.inReach_ready next), hrun] at hsame
  cases huncached : (uncached (UserAdmin.require s c permission)).runOn f.surroundings.answer
    (w.ready next).parts with
  | mk r v =>
    obtain rfl : .ok () = r := hsame.trans (congrArg Prod.fst huncached)
    rw [UserAdmin.require, uncached_bind] at huncached
    obtain ⟨facts, v', hdecided, -⟩ := (runOn_bind_eq_ok_iff _ _).1 huncached
    obtain ⟨u, hu, hactive, held, hmem, hgrants⟩ := held_of_authorize hdecided
    refine ⟨u, hu, hactive, ?_⟩
    rcases Permission.grants_iff.1 hgrants with rfl | rfl
    · exact .inr hmem
    · exact .inl hmem

/-- Without authority for its first step a use case fails, and changes nothing. -/
theorem unchanged_or_holds (h : Reachable s f w)
    (hnext : w.process.users.users.get? next = none) (c : Caller) (permission : Permission)
    {α : Type} (k : Unit → UseCase α) :
    Unchanged (w.ready next) ((UserAdmin.require s c permission >>= k).runOn (serve f)
      (w.ready next)).2 ∨ w.process.Holds c.userId permission := by
  have hlooked := (preserves_unchanged (f := f) (UserAdmin.looks_require (s := s) c permission)).run
    _ (.refl (w.ready next))
  rw [runOn_bind]
  cases hrun : (UserAdmin.require s c permission).runOn (serve f) (w.ready next) with
  | mk r d' =>
    rw [hrun] at hlooked
    cases r with
    | error e => exact .inl hlooked
    | ok a => exact .inr (holds_of_require h hnext hrun)

end Service
end SessionAuth
