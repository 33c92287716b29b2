import SessionAuth.Proofs.Authorization.Parts
import SessionAuth.Proofs.Program.Coupled
import SessionAuth.Proofs.User.Emails

/-!
# Logins under any spelling

A login asks the repository for the account of the email that it was given, once, and nothing else.
If the repository is unambiguous, the answer depends neither on the order in which the accounts are
gone through nor on how the email is spelled, and so does all that comes after it.
-/

set_option autoImplicit false

namespace SessionAuth

open Environment Fallible Text

variable {κ ρ : Type} {b : Surroundings κ ρ} {w v : Parts κ ρ} {s : Setup} {α : Type}

/-- Two processes with the same unambiguous accounts, in whatever order, and nothing else that
differs. -/
structure Reordered (w v : Parts κ ρ) : Prop where
  unambiguous : w.users.Unambiguous
  users : UserTable.SameAccounts v.users w.users
  grants : v.grants = w.grants
  cache : v.cache = w.cache
  rest : v.rest = w.rest

theorem Reordered.answer {q : Question} (hq : LeavesUsers q) (h : Reordered w v) :
    (b.answer q w).1 = (b.answer q v).1 ∧ Reordered (b.answer q w).2 (b.answer q v).2 := by
  obtain ⟨hunambiguous, husers, hgrants, hcache, hrest⟩ := h
  cases q with
  | users c => exact hq.elim
  | _ =>
    simp only [Surroundings.answer, hgrants, hcache, hrest]
    exact ⟨trivial, hunambiguous, husers, rfl, rfl, rfl⟩

theorem coupled_of_leavesUsers {p : UseCase α} (hp : Asks LeavesUsers p) :
    Coupled b.answer Reordered p p fun _ => Reordered :=
  .of_asks hp fun _ _ _ hq h => h.answer hq

/-- The account of an email is the same under all its spellings. -/
theorem coupled_findByEmail {email email' : String}
    (hemail : equalIgnoringAsciiCase email email') :
    Coupled b.answer Reordered (users (UserRepository.call (.findByEmail email)))
      (users (UserRepository.call (.findByEmail email'))) fun _ => Reordered :=
  ⟨fun _ _ h => ⟨congrArg Except.ok (h.unambiguous.findByEmail?_congr h.users hemail).symm, h⟩⟩

namespace Auth

theorem coupled_verifyCredentials {email email' : String} (password : String)
    (hemail : equalIgnoringAsciiCase email email') :
    Coupled b.answer Reordered (verifyCredentials email password)
      (verifyCredentials email' password) fun _ => Reordered := by
  refine .bind (coupled_findByEmail hemail) (fun found => ?_) fun _ _ _ h => h
  cases found with
  | none => exact .throw fun _ _ h => h
  | some user => exact coupled_of_leavesUsers (Asks.bind (asks_lift _) fun matched => by
      cases matched <;> first | exact asks_pure _ | exact asks_throw _)

/-- **A login ends alike under all spellings of an email**, in whatever order the accounts are gone
through. -/
theorem coupled_login (input : Login) {email : String} (h : SameAddress input.email email) :
    Coupled b.answer Reordered (login s input) (login s { input with email := email })
      fun _ => Reordered := by
  simp only [login, h.isEmpty_eq]
  split
  · exact .throw_bind fun _ _ h => h
  refine .bind (coupled_verifyCredentials _ h) (fun user => ?_) fun _ _ _ h => h
  refine coupled_of_leavesUsers (Asks.bind (asks_lift _) fun _ => ?_)
  refine Asks.bind (asks_issueRefresh s trivial trivial) fun refresh => ?_
  refine Asks.bind (Sessions.asks_openSession trivial trivial fun _ _ _ _ _ => trivial)
    fun session => ?_
  exact asks_completePair s trivial trivial

end Auth
end SessionAuth
