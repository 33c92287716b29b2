import SessionAuth.User.Repository

/-!
# Repositories of users

A repository files each account under its own id (`UserTable.Keyed`), whatever it is asked.  So an
account that is found by its email is the one under its id, and what is told of it is so
(`UserTable.IsCurrent`) until it is changed.
-/

set_option autoImplicit false

namespace SessionAuth

/-- Whether each account is filed under its own id. -/
def UserTable.Keyed (t : UserTable) : Prop :=
  ∀ ⦃id : UserId⦄ ⦃u : User⦄, t.users.get? id = some u → u.id = id

/-- Whether an account has the password and the status that were told of it. -/
def UserTable.IsCurrent (t : UserTable) (u : User) : Prop :=
  ∃ v, t.users.get? u.id = some v ∧ v.passwordHash = u.passwordHash ∧ v.status = u.status

namespace UserTable

variable {t : UserTable} {now : Timestamp}

theorem keyed_empty (next : UserId) : (empty next).Keyed := by
  intro id u hu
  cases hu

theorem Keyed.insert (h : t.Keyed) (u : User) : (t.insert u).Keyed := by
  intro id v hv
  rcases Table.get?_set_eq_some_iff.1 hv with ⟨rfl, rfl⟩ | ⟨-, hv⟩
  · rfl
  · exact h hv

theorem Keyed.update (h : t.Keyed) (id : UserId) {change : User → User}
    (hchange : ∀ u, (change u).id = u.id) : (t.update now id change).2.Keyed := by
  intro id' u hu
  rw [UserTable.update, Table.get?_modify] at hu
  split at hu
  · obtain ⟨v, hv, rfl⟩ := Option.map_eq_some_iff.1 hu
    exact (hchange v).trans (h hv)
  · exact h hu

theorem Keyed.answer (h : t.Keyed) (c : UserRepository.Call) :
    (answer now c t).2.Keyed := by
  cases c with
  | findById | findByEmail | list => exact h
  | setPassword | setRole | setStatus => exact h.update _ fun _ => rfl
  | delete id => exact fun id u hu => h (Table.get?_erase_eq_some_iff.1 hu).2
  | create new =>
    simp only [UserTable.answer, create]
    split
    · exact h
    · exact h.insert _

/-- An account that is found by its email is filed under its id. -/
theorem Keyed.get?_of_find (h : t.Keyed) {email : String} {u : User}
    (hu : t.findByEmail? email = some u) : t.users.get? u.id = some u := by
  obtain ⟨id, hid⟩ := Table.mem_values_iff.1 (List.mem_of_find?_eq_some hu)
  rwa [h hid]

/-- What is told of an account is so. -/
theorem Keyed.isCurrent_of_find (h : t.Keyed) {email : String} {u : User}
    (hu : t.findByEmail? email = some u) : t.IsCurrent u :=
  ⟨u, h.get?_of_find hu, rfl, rfl⟩

/-- A change of an account keeps the passwords and the statuses of all others. -/
theorem IsCurrent.update {u : User} (h : t.IsCurrent u) {id : UserId} {change : User → User}
    (hchange : id = u.id → ∀ v, v.passwordHash = u.passwordHash → v.status = u.status →
      (change v).passwordHash = u.passwordHash ∧ (change v).status = u.status) :
    (t.update now id change).2.IsCurrent u := by
  obtain ⟨v, hv, hhash, hstatus⟩ := h
  by_cases hid : id = u.id
  · obtain ⟨hhash, hstatus⟩ := hchange hid v hhash hstatus
    refine ⟨{ change v with updatedAt := now }, ?_, hhash, hstatus⟩
    simp [UserTable.update, Table.get?_modify, hid, hv]
  · refine ⟨v, ?_, hhash, hstatus⟩
    rw [UserTable.update, Table.get?_modify, if_neg (Ne.symm hid), hv]

/-- Nothing is changed where there is no account. -/
theorem users_update_of_absent {user : UserId} (h : t.users.get? user = none) (now : Timestamp)
    (change : User → User) : (t.update now user change).2.users = t.users :=
  Table.modify_of_get?_eq_none h fun u => { change u with updatedAt := now }

end UserTable
end SessionAuth
