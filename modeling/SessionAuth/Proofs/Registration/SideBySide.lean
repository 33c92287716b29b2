import SessionAuth.Proofs.Program.Concurrent
import SessionAuth.Proofs.Registration.Promises
import SessionAuth.Proofs.Registration.Spelling

/-!
# Creations of accounts side by side

Creations run side by side with each other and with all else that the service does, over one
repository of users in memory (`Registration.system`).  The repository answers each question from
the accounts that it has, and may go through them in another order each time.

What is known of the repository is tied to the log of all exchanges (`Records`): an account that was
created is there, with its email, unless it was deleted since, and of two that were created with one
email the first was deleted in between.
-/

set_option autoImplicit false

namespace SessionAuth
namespace Registration

open Environment Fallible Text
open Deployment (Looks)

/-! ## The system -/

/-- What requests talk to, as far as it matters for accounts. -/
structure Backend where
  now : Timestamp
  users : UserTable

/-- How questions are answered: the repository may have its accounts in any order, and gives a new
account an id that no other has.  What is not asked of it may be answered in any way. -/
inductive Backend.Responds (b : Backend) : Exchange Environment.interface → Backend → Prop
  | users (c : UserRepository.Call) {t : UserTable} (hsame : UserTable.SameAccounts t b.users)
      (hnext : t.users.get? t.nextId = none) :
      Responds b ⟨.users c, (UserTable.answer b.now c t).1⟩
        { b with users := (UserTable.answer b.now c t).2 }
  | foreign {x : Exchange Environment.interface} (h : LeavesUsers x.question) : Responds b x b

/-- The clock may be set to any time. -/
inductive Backend.Passes (b : Backend) : Backend → Prop
  | set (now : Timestamp) : Passes b { b with now := now }

/-- Any number of requests, whose questions are answered in any order. -/
def system (s : Setup) :
    Program.System Environment.interface (Request s) (Except Error (Option User)) Backend where
  body r := r.useCase.run
  Responds := Backend.Responds
  Passes := Backend.Passes

/-- Requests that are under way or done. -/
abbrev World (s : Setup) : Type :=
  Program.World Environment.interface (Request s) (Except Error (Option User)) Backend

/-- The exchanges of all requests, each with the number of its request. -/
abbrev Log : Type := List (Nat × Exchange Environment.interface)

/-! ## Accounts that were created -/

/-- An account is created. -/
def IsCreated (x : Exchange Environment.interface) (u : User) : Prop :=
  ∃ new, x = ⟨.users (.create new), .ok u⟩

/-- An account is deleted. -/
def IsDeleted (x : Exchange Environment.interface) (id : UserId) : Prop :=
  x = ⟨.users (.delete id), .ok true⟩

/-- Whether the repository may answer so: it does not fail but for an email that is in use, and a
new account has the email that was asked for. -/
def IsSensible : Exchange Environment.interface → Prop
  | ⟨.users (.create new), .ok u⟩ => u.email = new.email
  | ⟨.users (.create _), .error e⟩ => e = .emailTaken
  | ⟨.users _, .error _⟩ => False
  | _ => True

/-- What is known of a repository after all that was asked of it. -/
structure Records (t : UserTable) (log : Log) : Prop where
  unambiguous : t.Unambiguous
  sensible : ∀ {i x}, (i, x) ∈ log → IsSensible x
  /-- An account that was created is there unless it was deleted. -/
  there : ∀ {past rest : Log} {i x u}, log = past ++ (i, x) :: rest → IsCreated x u →
    (∃ y ∈ rest, IsDeleted y.2 u.id) ∨ t.Has u.id u.email
  /-- Between two creations with one email there is a deletion. -/
  apart : ∀ {past between rest : Log} {i j x y u v},
    log = past ++ (i, x) :: (between ++ (j, y) :: rest) → IsCreated x u → IsCreated y v →
      equalIgnoringAsciiCase u.email v.email → ∃ z ∈ between, IsDeleted z.2 u.id

theorem isSensible_of_leavesUsers {x : Exchange Environment.interface}
    (h : LeavesUsers x.question) : IsSensible x := by
  obtain ⟨q, a⟩ := x
  cases q with
  | users c => exact h.elim
  | _ => trivial

theorem isSensible_answer (now : Timestamp) (c : UserRepository.Call) (t : UserTable) :
    IsSensible ⟨.users c, (UserTable.answer now c t).1⟩ := by
  cases c with
  | create new =>
    cases hanswer : (UserTable.answer now (.create new) t).1 with
    | ok u => exact (UserTable.has_of_create_eq_ok hanswer).1
    | error e => exact (UserTable.answer_eq_error hanswer).2.1
  | _ => trivial

/-- A new account is asked for with an email that has no blanks around it. -/
theorem MayAsk.trim_eq {s : Setup} {request : Request s} {said : Talk} {new : NewUser}
    (h : MayAsk request said (.users (.create new))) : trim new.email = new.email := by
  cases h with
  | looks h => exact h.elim
  | create hemail => rw [hemail, trim_trim]
  | other hq => exact absurd rfl (hq new)

namespace Records

variable {b b' : Backend} {log : Log} {x : Exchange Environment.interface}

/-- What one exchange does: it creates an account only if no other has the email, and all accounts
stay but for one that is deleted. -/
theorem concat {t t' : UserTable} (h : Records t log) (hunambiguous : t'.Unambiguous)
    (hsensible : IsSensible x)
    (hcreated : ∀ {u}, IsCreated x u → t'.Has u.id u.email ∧
      ∀ {id email}, t.Has id email → ¬ equalIgnoringAsciiCase email u.email)
    (hkept : ∀ {id email}, t.Has id email → IsDeleted x id ∨ t'.Has id email) (i : Nat) :
    Records t' (log ++ [(i, x)]) where
  unambiguous := hunambiguous
  sensible := by
    intro j y hmem
    rcases List.mem_append.1 hmem with hmem | hmem
    · exact h.sensible hmem
    · exact (Prod.mk.inj (List.mem_singleton.1 hmem)).2 ▸ hsensible
  there := by
    intro past rest j y u hlog hy
    rcases concat_eq_append_cons hlog with ⟨-, heq⟩ | ⟨rest', hplace, rfl⟩
    · obtain ⟨-, rfl⟩ := Prod.mk.inj heq
      exact .inr (hcreated hy).1
    · exact exists_mem_concat_or (h.there hplace hy) hkept
  apart := by
    intro past between rest j k y z u v hlog hy hz hemail
    rw [← List.cons_append, ← List.append_assoc] at hlog
    rcases concat_eq_append_cons hlog with ⟨hplace, heq⟩ | ⟨rest', hplace, -⟩
    · -- the first account is not there any more when the second is created
      obtain ⟨-, rfl⟩ := Prod.mk.inj heq
      exact (h.there hplace hy).resolve_right fun hhas => (hcreated hz).2 hhas hemail
    · rw [List.append_assoc, List.cons_append] at hplace
      exact h.apart hplace hy hz hemail

theorem turn (h : Records b.users log) (hresponds : b.Responds x b') {s : Setup}
    {request : Request s} {said : Talk} (hask : MayAsk request said x.question) (i : Nat) :
    Records b'.users (log ++ [(i, x)]) := by
  cases hresponds with
  | foreign hforeign =>
    refine h.concat h.unambiguous (isSensible_of_leavesUsers hforeign) ?_ .inr i
    rintro u ⟨new, rfl⟩
    exact hforeign.elim
  | @users c t hsame hnext =>
    have hkept : ∀ {id email}, b.users.Has id email →
        IsDeleted ⟨.users c, (UserTable.answer b.now c t).1⟩ id ∨
          (UserTable.answer b.now c t).2.Has id email :=
      fun hhas => (hhas.congr hsame.symm).answer hnext c
    refine h.concat ((h.unambiguous.congr hsame).answer c ?_) (isSensible_answer ..) ?_ hkept i
    · rintro new rfl
      exact hask.trim_eq
    · rintro u ⟨new, hx⟩
      obtain ⟨hq, hanswer⟩ := Exchange.mk.inj hx
      cases hq
      obtain ⟨-, hthere, hfree⟩ := UserTable.has_of_create_eq_ok (eq_of_heq hanswer)
      exact ⟨hthere, fun hhas => hfree (hhas.congr hsame.symm)⟩

end Records

/-- A question of a creation changes no account, unless it creates one. -/
theorem sameAccounts_of_responds {b b' : Backend} {x : Exchange Environment.interface}
    (hresponds : b.Responds x b') {s : Setup} {c : Creation} {said : Talk}
    (hask : MayAsk (.create c : Request s) said x.question) (hnone : ∀ u, ¬ IsCreated x u) :
    UserTable.SameAccounts b'.users b.users := by
  cases hresponds with
  | foreign => exact .refl _
  | @users call t hsame =>
    refine .trans ?_ hsame
    cases hask with
    | looks h => exact UserTable.sameAccounts_answer h t
    | @create _ _ new =>
      cases hanswer : (UserTable.answer b.now (.create new) t).1 with
      | ok u => exact absurd ⟨new, congrArg _ hanswer⟩ (hnone u)
      | error e =>
        rw [(UserTable.answer_eq_error hanswer).2.2]
        exact .refl t

/-! ## Worlds -/

/-- How a creation ends: with a new account, or because the email is in use, or because it was
refused before it asked for an account. -/
inductive Ends (s : Setup) (c : Creation) (said : Talk) : Except Error (Option User) → Prop
  | created {new : NewUser} {u : User} (hemail : u.email = trim c.email)
      (hsaid : ⟨.users (.create new), .ok u⟩ ∈ said) : Ends s c said (.ok (some u))
  | taken {new : NewUser} (hemail : new.email = trim c.email)
      (hsaid : ⟨.users (.create new), .error .emailTaken⟩ ∈ said) :
      Ends s c said (.error .emailTaken)
  | refused {e : Error} (hlooks : ∀ x ∈ said, Looks x.question) (hearly : IsEarly s c said e) :
      Ends s c said (.error e)

/-- Whether an account was created, deleted, and then another one was created. -/
def Succeeds (log : Log) (u v : User) : Prop :=
  ∃ past between rest i j x y, log = past ++ (i, x) :: (between ++ (j, y) :: rest) ∧
    IsCreated x u ∧ IsCreated y v ∧ ∃ z ∈ between, IsDeleted z.2 u.id

/-- Whether a repository leads a login to one account, under all spellings of an email and in
whatever order it goes through its accounts. -/
structure Resolves (s : Setup) (t : UserTable) : Prop where
  account : ∀ {t' : UserTable} {email email' : String}, UserTable.SameAccounts t' t →
    SameAddress email email' → t'.findByEmail? (trim email') = t.findByEmail? (trim email)
  found : ∀ {email : String} {u : User}, t.findByEmail? (trim email) = some u ↔
    t.users.get? u.id = some u ∧ SameAddress u.email email
  login : ∀ {κ ρ : Type} (b : Surroundings κ ρ) (w : Parts κ ρ) {t' : UserTable}
    (input : Auth.Login) {email : String}, UserTable.SameAccounts t' t →
      SameAddress input.email email →
        ((Auth.login s { input with email := email }).runOn b.answer { w with users := t' }).1 =
          ((Auth.login s input).runOn b.answer { w with users := t }).1

theorem resolves_of_unambiguous {s : Setup} {t : UserTable} (h : t.Unambiguous) :
    Resolves s t where
  account hsame hemail := h.findByEmail?_congr hsame hemail
  found := by
    intro email u
    rw [h.findByEmail?_eq_some_iff]
    refine and_congr_right fun hu => ?_
    rw [SameAddress, h.trimmed hu]
  login b w t' input email hsame hemail := by
    have hreordered : Reordered { w with users := t } { w with users := t' } :=
      ⟨h, hsame, rfl, rfl, rfl⟩
    exact ((Auth.coupled_login input hemail).run _ _ hreordered).1.symm

section Runs

variable {s : Setup} {start : Backend} {w : World s}

theorem kept_of_reachable (h : (system s).Reachable start w) :
    Program.System.Kept MayAsk MayEnd w :=
  h.kept fun r => keeps_run.2 r.promises

theorem records_of_reachable (hstart : start.users.Unambiguous)
    (h : (system s).Reachable start w) : Records w.env.users w.log := by
  induction h with
  | refl =>
    have hnone : ∀ {past rest : Log} {e}, [] ≠ past ++ e :: rest := by simp
    exact ⟨hstart, nofun, fun hlog => absurd hlog hnone, fun hlog => absurd hlog hnone⟩
  | @tail w w' hsteps hstep ih =>
    cases hstep with
    | arrive => exact ih
    | pass hpasses =>
      obtain ⟨now⟩ := hpasses
      exact ih
    | @turn i request q next a env hcall hresponds =>
      exact ih.turn hresponds ((kept_of_reachable hsteps).calls hcall).1 i

/-- How a creation that is done has ended. -/
theorem ends_of_reachable (hstart : start.users.Unambiguous) (h : (system s).Reachable start w)
    {i : Nat} {c : Creation} {r : Except Error (Option User)}
    (hrequest : w.request? i = some (.create c)) (hresult : w.result? i = some r) :
    Ends s c (Program.transcript i w.log) r := by
  have hrecords := records_of_reachable hstart h
  have hsensible : ∀ {x}, x ∈ Program.transcript i w.log → IsSensible x :=
    fun hx => hrecords.sensible (Program.mem_transcript.1 hx)
  obtain ⟨r, rfl, houtcome⟩ := (kept_of_reachable h).ended hrequest hresult
  cases houtcome with
  | refused hlooks hearly =>
    rcases hearly with hearly | ⟨id, hfails⟩
    · exact .refused hlooks hearly
    · exact (hsensible hfails).elim
  | @answered new r before hemail hsaid hlooks =>
    have hmem : ⟨.users (.create new), r⟩ ∈ Program.transcript i w.log := by simp [hsaid]
    have hanswer := hsensible hmem
    cases r with
    | ok u => exact .created (Eq.trans hanswer hemail) hmem
    | error e =>
      obtain rfl : e = .emailTaken := hanswer
      exact .taken hemail hmem

/-- A creation that fails has changed no account. -/
theorem sameAccounts_of_fails {i : Nat} {c : Creation} {x : Exchange Environment.interface}
    {e : Error} {w₁ w₂ : World s} (hreachable : (system s).Reachable start w₁)
    (hstep : (system s).Step w₁ w₂) (hlog : w₂.log = w₁.log ++ [(i, x)])
    (hsteps : (system s).Steps w₂ w) (hrequest : w.request? i = some (.create c))
    (hresult : w.result? i = some (.error e)) :
    UserTable.SameAccounts w₂.env.users w₁.env.users := by
  have hafter : (system s).Steps w₁ w := .head hstep hsteps
  have hend : (system s).Reachable start w := hreachable.trans hafter
  have hmem : (i, x) ∈ w.log := hsteps.log_prefix.subset (by simp [hlog])
  obtain ⟨r, hr, houtcome⟩ := (kept_of_reachable hend).ended hrequest hresult
  obtain rfl : r = .error e := by
    cases r with
    | ok u => cases hr
    | error e' => exact congrArg _ (Except.error.inj hr).symm
  cases hstep with
  | arrive => simp at hlog
  | pass => simp at hlog
  | @turn j request q next a env hcall hresponds =>
    obtain ⟨rfl, rfl⟩ : j = i ∧ ⟨q, a⟩ = x := by simpa using hlog
    have hasked : w₁.request? j = some request := by
      rw [Program.World.request?, hcall, Option.map_some]
    obtain rfl : request = .create c :=
      Option.some.inj ((Program.System.Steps.request? hafter hasked).symm.trans hrequest)
    refine sameAccounts_of_responds hresponds ((kept_of_reachable hreachable).calls hcall).1 ?_
    rintro u ⟨new, hx⟩
    exact houtcome.not_mem_of_error new u (hx ▸ Program.mem_transcript.2 hmem)

/-- Of two accounts that were created with one email, the first was deleted before the second was
created. -/
theorem succeeds_or_succeeds (hstart : start.users.Unambiguous)
    (h : (system s).Reachable start w) {i j : Nat} {c c' : Creation} {u v : User} (hne : i ≠ j)
    (hi : w.request? i = some (.create c)) (hj : w.request? j = some (.create c'))
    (hsame : SameAddress c.email c'.email) (hu : w.result? i = some (.ok (some u)))
    (hv : w.result? j = some (.ok (some v))) : Succeeds w.log u v ∨ Succeeds w.log v u := by
  have hrecords := records_of_reachable hstart h
  cases ends_of_reachable hstart h hi hu with
  | @created new _ huemail hucreated =>
    cases ends_of_reachable hstart h hj hv with
    | @created new' _ hvemail hvcreated =>
      rw [Program.mem_transcript] at hucreated hvcreated
      have hemail : equalIgnoringAsciiCase u.email v.email := by
        rw [huemail, hvemail]
        exact hsame
      refine (exists_between hucreated hvcreated fun heq => hne (Prod.mk.inj heq).1).imp ?_ ?_
      · rintro ⟨past, between, rest, hlog⟩
        exact ⟨past, between, rest, i, j, _, _, hlog, ⟨new, rfl⟩, ⟨new', rfl⟩,
          hrecords.apart hlog ⟨new, rfl⟩ ⟨new', rfl⟩ hemail⟩
      · rintro ⟨past, between, rest, hlog⟩
        exact ⟨past, between, rest, j, i, _, _, hlog, ⟨new', rfl⟩, ⟨new, rfl⟩,
          hrecords.apart hlog ⟨new', rfl⟩ ⟨new, rfl⟩ (equalIgnoringAsciiCase_symm hemail)⟩

/-- What is so of every world. -/
structure Sound (s : Setup) (start : Backend) (w : World s) : Prop where
  /-- No two accounts have one email, in any case of ASCII letters, and no email has blanks around
  it. -/
  unambiguous : w.env.users.Unambiguous
  ends : ∀ {i : Nat} {c : Creation} {r : Except Error (Option User)},
    w.request? i = some (.create c) → w.result? i = some r →
      Ends s c (Program.transcript i w.log) r
  /-- Of two creations with one email only one succeeds, unless the account was deleted in
  between. -/
  once : ∀ {i j : Nat} {c c' : Creation} {u v : User}, i ≠ j →
    w.request? i = some (.create c) → w.request? j = some (.create c') →
      SameAddress c.email c'.email → w.result? i = some (.ok (some u)) →
        w.result? j = some (.ok (some v)) → Succeeds w.log u v ∨ Succeeds w.log v u
  /-- A creation that fails changed no account on its way here. -/
  unchanged : ∀ {i : Nat} {c : Creation} {x : Exchange Environment.interface} {e : Error}
    {w₁ w₂ : World s}, (system s).Reachable start w₁ → (system s).Step w₁ w₂ →
      w₂.log = w₁.log ++ [(i, x)] → (system s).Steps w₂ w → w.request? i = some (.create c) →
        w.result? i = some (.error e) → UserTable.SameAccounts w₂.env.users w₁.env.users
  resolves : Resolves s w.env.users

/-- **One account for each email.**  However creations of accounts are interleaved with each other
and with all else that goes on, no email ever leads to two accounts.  Of creations with one email
one succeeds at most, as long as its account is not deleted, and the others leave the accounts as
they are and are told that the email is in use, if they get so far; so logins find one account under
all spellings of its email. -/
theorem emails_unique (hstart : start.users.Unambiguous)
    (h : (system s).Reachable start w) : Sound s start w where
  unambiguous := (records_of_reachable hstart h).unambiguous
  ends := ends_of_reachable hstart h
  once := succeeds_or_succeeds hstart h
  unchanged := sameAccounts_of_fails
  resolves := resolves_of_unambiguous (records_of_reachable hstart h).unambiguous

end Runs

/-! ### Two registrations of one email -/

/-- What a registration comes to when all checks are passed. -/
def registering (email password : String) (salt : List UInt8) :
    Program Environment.interface (Except Error (Option User)) :=
  .ask (.users (.create ⟨trim email, Password.hashNew salt password, .client, .inactive⟩))
    fun r => .done (r.map some)

theorem body_register {s : Setup} {email password : String} (hemail : (trim email).isEmpty = false)
    (hcheck : Password.checkNew s.passwordMinLength password [trim email] = .ok ()) :
    (system s).body (.create (.register email password)) =
      .ask .newSalt (registering email password) := by
  have hregister : Account.register s email password = (do
      let salt ← newSalt
      users (UserRepository.call
        (.create ⟨trim email, Password.hashNew salt password, .client, .inactive⟩))) := by
    simp only [Account.register, Account.create, hemail, hcheck]
    rfl
  show (Request.create (.register email password) : Request s).useCase.run = _
  rw [Request.useCase, Creation.useCase, hregister]
  refine congrArg (Program.ask _) (funext fun salt => congrArg (Program.ask _) (funext fun r => ?_))
  cases r <;> rfl

namespace Collision

def setup : Setup := { Sample.setup with passwordMinLength := 9 }

/-- A repository without accounts. -/
def start : Backend := ⟨.ofSeconds 0, .empty ⟨1⟩⟩

def password : String := "q#vLmxwkj"

/-- What the repository is asked for. -/
def account (email : String) : NewUser :=
  ⟨trim email, Password.hashNew [] password, .client, .inactive⟩

/-- A registration, and another one of the same email. -/
def first : Request setup := .create (.register "ann@example.org" password)

def second : Request setup := .create (.register " Ann@Example.org " password)

/-- The account that the second creates. -/
def ann : User := start.users.newUser start.now (account " Ann@Example.org ")

/-- The repository in the end. -/
def users : UserTable := { start.users.insert ann with nextId := ⟨2⟩ }

/-- Both were checked before the second, and then the first, asked for its account. -/
def world : World setup where
  env := ⟨start.now, users⟩
  calls := [(first, .done (.error .emailTaken)), (second, .done (.ok (some ann)))]
  log := [(0, ⟨.newSalt, []⟩), (1, ⟨.newSalt, []⟩),
    (1, ⟨.users (.create (account " Ann@Example.org ")), .ok ann⟩),
    (0, ⟨.users (.create (account "ann@example.org")), .error .emailTaken⟩)]

theorem checkNew_password {email : String} (hemail : lowercase (trim email) = "ann@example.org") :
    Password.checkNew setup.passwordMinLength password [trim email] = .ok () := by
  have hlength : ¬ password.length < setup.passwordMinLength.toNat := by decide +kernel
  have hstrong : ¬ Password.guessesWithin ("ann@example.org".toList ::
      Password.commonWords.map String.toList) 2 (password.toList.take Password.longestLook) <
        Password.strongGuesses := by
    decide +kernel
  rw [Password.checkNew, if_neg hlength, Password.guesses, List.map_singleton, hemail,
    List.singleton_append, if_neg hstrong]

theorem responds_created : start.Responds
    ⟨.users (.create (account " Ann@Example.org ")), .ok ann⟩ ⟨start.now, users⟩ :=
  .users (.create _) (.refl _) rfl

theorem responds_taken : Backend.Responds ⟨start.now, users⟩
    ⟨.users (.create (account "ann@example.org")), .error .emailTaken⟩ ⟨start.now, users⟩ := by
  have hfound : (users.findByEmail? (account "ann@example.org").email).isSome := by decide +kernel
  have htaken : UserTable.answer start.now (.create (account "ann@example.org")) users =
      (.error .emailTaken, users) := by
    rw [UserTable.answer, UserTable.create, if_pos hfound]
  have hresponds := Backend.Responds.users (b := ⟨start.now, users⟩)
    (.create (account "ann@example.org")) (.refl users) rfl
  rwa [htaken] at hresponds

theorem reachable_world : (system setup).Reachable start world := by
  have hfirst : (system setup).body first = _ := body_register (by decide +kernel)
    (checkNew_password (by decide +kernel))
  have hsecond : (system setup).body second = _ := body_register (by decide +kernel)
    (checkNew_password (by decide +kernel))
  have harrived := Program.System.reachable_arrived (S := system setup) start [first, second]
  rw [Program.System.arrived, List.map_cons, List.map_singleton, hfirst, hsecond] at harrived
  have hsalted : (system setup).Reachable start _ :=
    (harrived.tail (.turn _ (i := 0) (a := []) rfl (.foreign trivial))).tail
      (.turn _ (i := 1) (a := []) rfl (.foreign trivial))
  have hcreated := hsalted.tail (.turn _ (i := 1) rfl responds_created)
  have htaken := hcreated.tail (.turn _ (i := 0) rfl responds_taken)
  exact htaken

end Collision

open Collision in
/-- Of two registrations of one email, the one that asks first succeeds. -/
theorem emails_unique_collision :
    start.users.Unambiguous ∧ (system setup).Reachable start world ∧
      world.result? 0 = some (.error .emailTaken) ∧ world.result? 1 = some (.ok (some ann)) ∧
      Sound setup start world := by
  have hstart : start.users.Unambiguous := UserTable.unambiguous_empty _
  exact ⟨hstart, reachable_world, rfl, rfl, emails_unique hstart reachable_world⟩

end Registration
end SessionAuth
