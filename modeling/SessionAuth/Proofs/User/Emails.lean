import SessionAuth.Proofs.Service.Unchanged
import SessionAuth.Proofs.Text.Blank
import SessionAuth.Proofs.User.Repository

/-!
# The emails of accounts

A repository finds the account of an email by going through all accounts, in whatever order it has
them, and takes the first whose email is the same but for the case of ASCII letters.  It is
`Unambiguous` if there is never more than one to take, and then what it finds depends on the
accounts alone (`findByEmail?_congr`).

A repository stays unambiguous whatever it is asked, if new accounts come with emails that have no
blanks around them (`Unambiguous.answer`).
-/

set_option autoImplicit false

namespace SessionAuth

open Environment

/-! ## Spellings -/

namespace Text

variable {s t u : String}

/-- Whether two emails are the same but for blanks around them and the case of ASCII letters. -/
def SameAddress (s t : String) : Prop := equalIgnoringAsciiCase (trim s) (trim t)

theorem SameAddress.isEmpty_eq (h : SameAddress s t) : (trim s).isEmpty = (trim t).isEmpty := by
  have hlength := congrArg List.length (equalIgnoringAsciiCase_iff.1 h)
  rw [List.length_map, List.length_map] at hlength
  rw [Bool.eq_iff_iff, String.isEmpty_iff, String.isEmpty_iff, ← String.toList_eq_nil_iff,
    ← String.toList_eq_nil_iff, ← List.length_eq_zero_iff, ← List.length_eq_zero_iff, hlength]

end Text

/-- A question that is not put to the repository of users. -/
def LeavesUsers : Question → Prop
  | .users _ => False
  | _ => True

namespace UserTable

open Text

variable {t t' : UserTable} {now : Timestamp} {email email' : String} {id : UserId} {u : User}

/-! ## The same accounts -/

/-- Whether two repositories have the same accounts, in whatever order. -/
def SameAccounts (t t' : UserTable) : Prop := ∀ id, t.users.get? id = t'.users.get? id

theorem SameAccounts.refl (t : UserTable) : SameAccounts t t := fun _ => rfl

theorem SameAccounts.symm (h : SameAccounts t t') : SameAccounts t' t := fun id => (h id).symm

theorem SameAccounts.trans {t'' : UserTable} (h : SameAccounts t t') (h' : SameAccounts t' t'') :
    SameAccounts t t'' := fun id => (h id).trans (h' id)

/-- Looking something up changes no account. -/
theorem sameAccounts_answer {c : UserRepository.Call} (h : Deployment.Looks (.users c))
    (t : UserTable) : SameAccounts (answer now c t).2 t := by
  cases c with
  | findById | findByEmail | list => exact .refl t
  | _ => exact h.elim

theorem mem_values_of_find (hu : t.findByEmail? email = some u) :
    u ∈ t.users.values ∧ equalIgnoringAsciiCase u.email email := by
  rw [findByEmail?] at hu
  have hemail := List.find?_some hu
  exact ⟨List.mem_of_find?_eq_some hu, hemail⟩

/-! ## Repositories without ambiguous emails -/

/-- Whether each email leads to one account at most.  No email has blanks around it, so that an
email without them leads to its account. -/
structure Unambiguous (t : UserTable) : Prop where
  keyed : t.Keyed
  trimmed : ∀ {id : UserId} {u : User}, t.users.get? id = some u → trim u.email = u.email
  distinct : ∀ {id id' : UserId} {u v : User}, t.users.get? id = some u →
    t.users.get? id' = some v → equalIgnoringAsciiCase u.email v.email → id = id'

theorem unambiguous_empty (next : UserId) : (empty next).Unambiguous :=
  ⟨keyed_empty next, nofun, nofun⟩

namespace Unambiguous

/-- A repository without new emails is unambiguous if the old one was. -/
theorem of_emails (h : t.Unambiguous) (hkeyed : t'.Keyed)
    (hold : ∀ {id u}, t'.users.get? id = some u →
      ∃ v, t.users.get? id = some v ∧ v.email = u.email) : t'.Unambiguous where
  keyed := hkeyed
  trimmed hu := by
    obtain ⟨v, hv, hemail⟩ := hold hu
    exact hemail ▸ h.trimmed hv
  distinct hu hv heq := by
    obtain ⟨u', hu', huemail⟩ := hold hu
    obtain ⟨v', hv', hvemail⟩ := hold hv
    exact h.distinct hu' hv' (huemail ▸ hvemail ▸ heq)

theorem congr (h : t.Unambiguous) (hsame : SameAccounts t' t) : t'.Unambiguous :=
  h.of_emails (fun id _ hu => h.keyed (hsame id ▸ hu)) fun {id} _ hu => ⟨_, hsame id ▸ hu, rfl⟩

/-- An email leads to the account that has it. -/
theorem findByEmail?_eq_some_iff (h : t.Unambiguous) : t.findByEmail? email = some u ↔
    t.users.get? u.id = some u ∧ equalIgnoringAsciiCase u.email email := by
  constructor
  · exact fun hu => ⟨h.keyed.get?_of_find hu, (mem_values_of_find hu).2⟩
  · rintro ⟨hu, hemail⟩
    -- some account is found, and there is no other
    obtain ⟨v, hv⟩ : ∃ v, t.findByEmail? email = some v :=
      Option.isSome_iff_exists.1 (List.find?_isSome.2 ⟨u, Table.mem_values_iff.2 ⟨_, hu⟩, hemail⟩)
    have hstored := h.keyed.get?_of_find hv
    have hid : v.id = u.id :=
      h.distinct hstored hu (equalIgnoringAsciiCase_trans (mem_values_of_find hv).2
        (equalIgnoringAsciiCase_symm hemail))
    rw [hv, ← hstored, hid, hu]

/-- All spellings of an email lead to one account, in whatever order the accounts are gone
through. -/
theorem findByEmail?_congr (h : t.Unambiguous) (hsame : SameAccounts t' t)
    (hemail : equalIgnoringAsciiCase email email') :
    t'.findByEmail? email' = t.findByEmail? email := by
  refine Option.ext fun u => ?_
  rw [(h.congr hsame).findByEmail?_eq_some_iff, h.findByEmail?_eq_some_iff, hsame]
  refine and_congr_right fun _ => ⟨fun hu => ?_, fun hu => ?_⟩
  · exact equalIgnoringAsciiCase_trans hu (equalIgnoringAsciiCase_symm hemail)
  · exact equalIgnoringAsciiCase_trans hu hemail

end Unambiguous

/-! ## New accounts -/

/-- The two ways in which the creation of an account can go. -/
inductive Creates (t : UserTable) (now : Timestamp) (new : NewUser) :
    Except Error User × UserTable → Prop
  | taken {id : UserId} {u : User} (hu : t.users.get? id = some u)
      (hemail : equalIgnoringAsciiCase u.email new.email) :
      Creates t now new (.error .emailTaken, t)
  | created (hfree : ∀ {id u}, t.users.get? id = some u →
        ¬ equalIgnoringAsciiCase u.email new.email) :
      Creates t now new (.ok (t.newUser now new),
        { t.insert (t.newUser now new) with nextId := t.nextId.succ })

theorem creates_create (t : UserTable) (now : Timestamp) (new : NewUser) :
    Creates t now new (t.create now new) := by
  rw [create]
  split
  · rename_i hfound
    obtain ⟨u, hu⟩ := Option.isSome_iff_exists.1 hfound
    obtain ⟨id, hid⟩ := Table.mem_values_iff.1 (mem_values_of_find hu).1
    exact .taken hid (mem_values_of_find hu).2
  · rename_i hnone
    refine .created fun {id u} hu hemail => hnone ?_
    exact List.find?_isSome.2 ⟨u, Table.mem_values_iff.2 ⟨id, hu⟩, hemail⟩

/-- A new account leaves a repository unambiguous, if its email is new and has no blanks around
it. -/
theorem Unambiguous.insert (h : t.Unambiguous) (htrimmed : trim u.email = u.email)
    (hfree : ∀ {id v}, t.users.get? id = some v → ¬ equalIgnoringAsciiCase v.email u.email) :
    (t.insert u).Unambiguous where
  keyed := h.keyed.insert u
  trimmed hv := by
    rcases Table.get?_set_eq_some_iff.1 hv with ⟨-, rfl⟩ | ⟨-, hv⟩
    · exact htrimmed
    · exact h.trimmed hv
  distinct hv hw heq := by
    rcases Table.get?_set_eq_some_iff.1 hv with ⟨rfl, rfl⟩ | ⟨-, hv⟩ <;>
      rcases Table.get?_set_eq_some_iff.1 hw with ⟨rfl, rfl⟩ | ⟨-, hw⟩
    · rfl
    · exact absurd (equalIgnoringAsciiCase_symm heq) (hfree hw)
    · exact absurd heq (hfree hv)
    · exact h.distinct hv hw heq

/-! ## What is asked of a repository -/

theorem get?_update_eq_some {change : User → User} {id' : UserId}
    (hu : (t.update now id change).2.users.get? id' = some u) :
    ∃ v, t.users.get? id' = some v ∧ (u = v ∨ u = { change v with updatedAt := now }) := by
  rw [update, Table.get?_modify] at hu
  split at hu
  · obtain ⟨v, hv, rfl⟩ := Option.map_eq_some_iff.1 hu
    exact ⟨v, hv, .inr rfl⟩
  · exact ⟨u, hu, .inl rfl⟩

theorem Unambiguous.update (h : t.Unambiguous) (id : UserId) {change : User → User}
    (hid : ∀ u, (change u).id = u.id) (hemail : ∀ u, (change u).email = u.email) :
    (t.update now id change).2.Unambiguous := by
  refine h.of_emails (h.keyed.update id hid) fun hu => ?_
  obtain ⟨v, hv, rfl | rfl⟩ := get?_update_eq_some hu
  · exact ⟨_, hv, rfl⟩
  · exact ⟨_, hv, (hemail _).symm⟩

/-- A repository stays unambiguous whatever it is asked, if new accounts come with emails that have
no blanks around them. -/
theorem Unambiguous.answer (h : t.Unambiguous) (c : UserRepository.Call)
    (hnew : ∀ new, c = .create new → trim new.email = new.email) :
    (UserTable.answer now c t).2.Unambiguous := by
  cases c with
  | findById | findByEmail | list => exact h.congr (.refl t)
  | setPassword | setRole | setStatus => exact h.update _ (fun _ => rfl) fun _ => rfl
  | delete id =>
    exact h.of_emails (h.keyed.answer (.delete id)) fun hu =>
      ⟨_, (Table.get?_erase_eq_some_iff.1 hu).2, rfl⟩
  | create new =>
    have hcreates := creates_create t now new
    show (t.create now new).2.Unambiguous
    generalize t.create now new = r at hcreates
    cases hcreates with
    | taken => exact h
    | created hfree =>
      exact (h.insert (u := t.newUser now new) (hnew new rfl) hfree).congr (.refl _)

/-- Whether an account is there, with a given email. -/
def Has (t : UserTable) (id : UserId) (email : String) : Prop :=
  ∃ u, t.users.get? id = some u ∧ u.email = email

theorem Has.congr (h : t.Has id email) (hsame : SameAccounts t t') : t'.Has id email := by
  obtain ⟨u, hu, hemail⟩ := h
  exact ⟨u, hsame id ▸ hu, hemail⟩

theorem Has.update (h : t.Has id email) (id' : UserId) {change : User → User}
    (hchange : ∀ v, (change v).email = v.email) : (t.update now id' change).2.Has id email := by
  obtain ⟨u, hu, rfl⟩ := h
  by_cases hid : id = id'
  · refine ⟨{ change u with updatedAt := now }, ?_, hchange u⟩
    rw [UserTable.update, Table.get?_modify, if_pos hid, hu, Option.map_some]
  · refine ⟨u, ?_, rfl⟩
    rw [UserTable.update, Table.get?_modify, if_neg hid, hu]

/-- An account that is created is there with the email that was asked for, and no other has it. -/
theorem has_of_create_eq_ok {new : NewUser} (h : (t.create now new).1 = .ok u) :
    u.email = new.email ∧ (t.create now new).2.Has u.id u.email ∧
      ∀ {id email}, t.Has id email → ¬ equalIgnoringAsciiCase email u.email := by
  have hcreates := creates_create t now new
  generalize t.create now new = r at h hcreates
  cases hcreates with
  | taken => cases h
  | created hfree =>
    cases h
    refine ⟨rfl, ⟨_, Table.get?_set_eq_some_iff.2 (.inl ⟨rfl, rfl⟩), rfl⟩, ?_⟩
    rintro id _ ⟨v, hv, rfl⟩
    exact hfree hv

/-- Nothing fails but the creation of an account whose email is in use, which changes nothing. -/
theorem answer_eq_error {c : UserRepository.Call} {e : Error}
    (h : (UserTable.answer now c t).1 = .error e) :
    (∃ new, c = .create new) ∧ e = .emailTaken ∧ (UserTable.answer now c t).2 = t := by
  cases c with
  | create new =>
    have hcreates := creates_create t now new
    change (t.create now new).1 = .error e at h
    show _ ∧ _ ∧ (t.create now new).2 = t
    generalize t.create now new = r at h hcreates
    cases hcreates with
    | taken =>
      cases h
      exact ⟨⟨new, rfl⟩, rfl, rfl⟩
    | created => cases h
  | _ => cases h

/-- An account stays, with its email, until it is deleted. -/
theorem Has.answer (h : t.Has id email) (hnext : t.users.get? t.nextId = none)
    (c : UserRepository.Call) :
    (⟨.users c, (UserTable.answer now c t).1⟩ : Exchange Environment.interface) =
        ⟨.users (.delete id), .ok true⟩ ∨ (UserTable.answer now c t).2.Has id email := by
  cases c with
  | findById | findByEmail | list => exact .inr h
  | setPassword | setRole | setStatus => exact .inr (h.update _ fun _ => rfl)
  | delete id' =>
    obtain ⟨u, hu, rfl⟩ := h
    by_cases hid : id = id'
    · subst hid
      left
      simp [UserTable.answer, hu]
    · exact .inr ⟨u, Table.get?_erase_eq_some_iff.2 ⟨hid, hu⟩, rfl⟩
  | create new =>
    right
    have hcreates := creates_create t now new
    show (t.create now new).2.Has id email
    generalize t.create now new = r at hcreates
    cases hcreates with
    | taken => exact h
    | created hfree =>
      obtain ⟨u, hu, rfl⟩ := h
      have hne : id ≠ t.nextId := by
        rintro rfl
        cases hu.symm.trans hnext
      exact ⟨u, Table.get?_set_eq_some_iff.2 (.inr ⟨hne, hu⟩), rfl⟩

end UserTable
end SessionAuth
