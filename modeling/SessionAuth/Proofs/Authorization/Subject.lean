import SessionAuth.Authorization.Invalidation
import SessionAuth.Proofs.Json.Read
import SessionAuth.Proofs.Program.Run

/-!
# What is cached of whom

An entry of the cache is about a `Subject`: it holds the facts of a user or the permissions of a
role.  No two subjects share a key (`Subject.key_injective`), and what is written for a subject is
read back as it was (`Facts.fromText_compress`, `Permission.fromText_compress`).

Few calls to the repositories change what there is to say of a subject.  For users these are the
calls with a `UserTable.target?`; for roles, granting what is not held and revoking what is.
-/

set_option autoImplicit false

namespace SessionAuth

/-! ## Keys -/

theorem Keys.userFacts_injective {u v : UserId}
    (h : Keys.userFacts u.toText = Keys.userFacts v.toText) : u = v := by
  have hlist := congrArg String.toList h
  simp only [Keys.userFacts, String.toList_append, List.append_cancel_left_eq] at hlist
  exact Uuid.toText_injective (String.toList_inj.1 hlist)

theorem Keys.userFacts_ne_rolePermissions (user role : String) :
    Keys.userFacts user ≠ Keys.rolePermissions role := by
  intro h
  have hprefix := congrArg (fun s => s.toList.take 11) h
  simp only [Keys.userFacts, Keys.rolePermissions, String.toList_append] at hprefix
  have hu : "authz:user:".toList.length = 11 := by decide
  have hr : "authz:role:".toList.length = 11 := by decide
  rw [← hu, List.take_left, hu, ← hr, List.take_left] at hprefix
  exact absurd hprefix (by decide)

/-- What the cache keeps an entry about. -/
inductive Subject where
  | user (id : UserId)
  | role (role : Role)
  deriving DecidableEq

namespace Subject

/-- The key of the entry. -/
def key : Subject → String
  | user id => Keys.userFacts id.toText
  | role r => Keys.rolePermissions r.name

theorem key_injective {s s' : Subject} (h : s.key = s'.key) : s = s' := by
  cases s with
  | user id =>
    cases s' with
    | user id' => exact congrArg user (Keys.userFacts_injective h)
    | role r => exact absurd h (Keys.userFacts_ne_rolePermissions _ _)
  | role r =>
    cases s' with
    | user id => exact absurd h.symm (Keys.userFacts_ne_rolePermissions _ _)
    | role r' => revert h; cases r <;> cases r' <;> decide

/-- Forgets the entry. -/
def clear : Subject → UseCase Unit
  | user id => Authorization.clearUser id
  | role r => Authorization.clearRole r

/-- Whether a text can be read as the entry. -/
def Reads : Subject → String → Prop
  | user _, text => ∃ facts, Json.fromText Json.Decode.facts text = .ok facts
  | role _, text => ∃ held, Json.fromText Json.Decode.permissions text = .ok held

end Subject

/-! ## Clearing -/

namespace Authorization

variable {σ : Type} (answer : Program.Server Environment.interface σ) (s : σ)

open Fallible

theorem runOn_bestEffort (p : UseCase Unit) :
    runOn answer (bestEffort p) s = (.ok (), (runOn answer p s).2) := by
  show runOn answer (p.attempt >>= fun _ => pure ()) s = _
  rw [runOn_bind, runOn_attempt]
  rfl

/-- Clearing an entry does not fail, whatever the cache answers. -/
theorem runOn_clear (subject : Subject) : runOn answer subject.clear s =
    (.ok (), (answer (.cache (.delete subject.key)) s).2) := by
  cases subject <;> exact runOn_bestEffort answer s _

end Authorization

/-! ## Texts -/

/-- The facts of a user can be read from the text in which they are kept. -/
theorem Facts.fromText_compress (f : Facts) :
    Json.fromText Json.Decode.facts f.toJson.compress = .ok f := by
  have hplain : f.toJson.isPlain = true := by cases f with | mk r s => cases r <;> cases s <;> rfl
  have hdecode : Json.Decode.facts f.toJson = .ok f := by
    cases f with | mk r s => cases r <;> cases s <;> rfl
  exact Json.fromText_compress hplain hdecode

/-- The permissions of a role can be read from the text in which they are kept. -/
theorem Permission.fromText_compress (held : List Permission) :
    Json.fromText Json.Decode.permissions (listToJson held).compress = .ok held := by
  have hplain : (listToJson held).isPlain = true := Json.itemsPlain_map (fun _ => rfl) held
  have hread : ∀ p : Permission, Json.Decode.permission p.toJson = .ok p := by
    intro p
    simp only [Json.Decode.permission, Json.Decode.text, toJson, Json.Decode.string, bind,
      Except.bind, Permission.read, ofText?_text]
  have hdecode : Json.Decode.permissions (listToJson held) = .ok held :=
    Json.Decode.items_map hread held
  exact Json.fromText_compress hplain hdecode

/-! ## The facts of users -/

namespace UserTable

/-- The facts of a user. -/
def facts? (t : UserTable) (user : UserId) : Option Facts := (t.users.get? user).map User.facts

variable {t : UserTable} {now : Timestamp} {id user : UserId} {change : User → User}

theorem facts?_eq_some_iff {f : Facts} :
    t.facts? user = some f ↔ ∃ u, t.users.get? user = some u ∧ u.facts = f :=
  Option.map_eq_some_iff

theorem facts?_eq_none_iff : t.facts? user = none ↔ t.users.get? user = none :=
  Option.map_eq_none_iff

/-- A change of an account changes the facts of that account at most. -/
theorem facts?_update (h : user = id → ∀ u, (change u).facts = u.facts) :
    (t.update now id change).2.facts? user = t.facts? user := by
  simp only [facts?, update, Table.get?_modify]
  split
  · rename_i hid
    rw [Option.map_map]
    refine congrArg (fun g => (t.users.get? user).map g) (funext fun u => ?_)
    exact h hid u
  · rfl

/-- The user whose facts a call may change. -/
def target? (t : UserTable) : UserRepository.Call → Option UserId
  | .create _ => some t.nextId
  | .setRole id _ => some id
  | .setStatus id _ => some id
  | .delete id => some id
  | _ => none

/-- A call changes the facts of no other user. -/
theorem facts?_answer (c : UserRepository.Call) (h : t.target? c ≠ some user) :
    (answer now c t).2.facts? user = t.facts? user := by
  have hne : ∀ {id}, t.target? c = some id → user = id → False :=
    fun hid heq => h (heq ▸ hid)
  cases c with
  | findById | findByEmail | list => rfl
  | setPassword => exact facts?_update fun _ _ => rfl
  | setRole | setStatus => exact facts?_update fun heq => (hne rfl heq).elim
  | delete id => simp only [facts?, answer, Table.get?_erase, if_neg (hne rfl)]
  | create new =>
    simp only [answer, create]
    split
    · rfl
    · simp only [facts?, insert, newUser, Table.get?_set, if_neg (hne rfl)]

/-- A call that changes no facts leaves the id of the next user as it is. -/
theorem nextId_answer (c : UserRepository.Call) (h : t.target? c = none) :
    (answer now c t).2.nextId = t.nextId := by
  cases c <;> first | rfl | cases h

end UserTable

/-! ## The permissions of roles -/

namespace GrantTable

variable {t : GrantTable} {role : Role} {permission : Permission}

theorem ofRole_assign (held : SortedSet Permission) (r : Role) :
    (t.assign role held).ofRole r = if r = role then held else t.ofRole r := by
  simp only [ofRole, assign, Table.get?_set]
  split <;> rfl

/-- Granting what is held changes nothing. -/
theorem ofRole_grant_of_mem (h : permission ∈ (t.ofRole role).toList) (r : Role) :
    (answer (.grant role permission) t).2.ofRole r = t.ofRole r := by
  simp only [answer, ofRole_assign, SortedSet.insert_of_mem h]
  split
  · rename_i heq
    rw [heq]
  · rfl

/-- Revoking what is not held changes nothing. -/
theorem ofRole_revoke_of_not_mem (h : permission ∉ (t.ofRole role).toList) (r : Role) :
    (answer (.revoke role permission) t).2.ofRole r = t.ofRole r := by
  simp only [answer, ofRole_assign, SortedSet.erase_of_not_mem h]
  split
  · rename_i heq
    rw [heq]
  · rfl

end GrantTable
end SessionAuth
