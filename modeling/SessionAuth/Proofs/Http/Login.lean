import SessionAuth.Proofs.Http.Answering
import SessionAuth.Proofs.UseCase.Login

/-!
# A refused login does not tell why

There may be no account with the email of a login, or the password may be another one.  Whoever logs
in learns that one of the two is the case and not which: `runOn_login_of_refuses` gives the answer
from the input alone.  Nor does the answer depend on the role or the status of an account, since
neither is looked at before the password has been verified.

The same is true of the response over HTTP, whose request may also be wrong in itself
(`run_respond_login`).  `login_reveals_nothing` compares two processes, about whose accounts nothing
else is known.
-/

set_option autoImplicit false

namespace SessionAuth

open Environment Fallible Deployment Text

/-- Whether nobody gets in with an email and a password: no account has the email, or else the
password does not have the hash of the account, which is well-formed. -/
def UserTable.Refuses (t : UserTable) (email password : String) : Prop :=
  ∀ user, t.findByEmail? (trim email) = some user →
    Password.IsWellFormed user.passwordHash ∧ Password.verify password user.passwordHash ≠ .ok true

namespace Auth

/-- What is said to someone who does not get in. -/
def refusal (input : Login) : Error :=
  if (trim input.email).isEmpty || input.password.isEmpty then .credentialsMissing
  else .invalidCredentials

theorem refusal_cases (input : Login) :
    refusal input = .credentialsMissing ∨ refusal input = .invalidCredentials := by
  rw [refusal]
  split
  · exact .inl rfl
  · exact .inr rfl

variable {s : Setup} {f : Supply} {d : Deployment} {input : Login}

theorem runOn_verifyCredentials_of_refuses {email password : String}
    (hreach : d.usersReachable = true) (h : d.users.Refuses email password) :
    runOn (serve f) (verifyCredentials (trim email) password) d =
      (.error .invalidCredentials, d) := by
  have hfind : serve f (.users (.findByEmail (trim email))) d =
      (.ok (d.users.findByEmail? (trim email)), d) := by
    simp only [serve, answer, if_pos hreach]
    rfl
  rw [verifyCredentials, runOn_bind, runOn_users, hfind]
  dsimp only
  cases huser : d.users.findByEmail? (trim email) with
  | none => rfl
  | some user =>
    obtain ⟨hformed, hwrong⟩ := h user huser
    obtain ⟨matched, hverify⟩ := (Password.exists_verify_eq_ok_iff password).2 hformed
    cases matched with
    | true => exact absurd hverify hwrong
    | false =>
      dsimp only
      rw [hverify]
      rfl

/-- **Someone who does not get in leaves no trace**, and is told nothing but what the input says
anyway. -/
theorem runOn_login_of_refuses (hreach : d.usersReachable = true)
    (h : d.users.Refuses input.email input.password) :
    runOn (serve f) (login s input) d = (.error (refusal input), d) := by
  by_cases hblank : (trim input.email).isEmpty || input.password.isEmpty
  · rw [refusal, if_pos hblank]
    simp only [login, hblank, if_true]
    rfl
  · rw [refusal, if_neg hblank]
    rw [Bool.not_eq_true, Bool.or_eq_false_iff] at hblank
    rw [login_eq hblank.1 hblank.2, runOn_bind, runOn_verifyCredentials_of_refuses hreach h]

end Auth

namespace Http

namespace LoginForm

/-- What a request to log in asks for. -/
def input (form : LoginForm) (r : Request) : Auth.Login where
  email := form.email
  password := form.password
  device := (ClientInfo.ofHeaders r.headers).deviceOr form.device
  ip := (ClientInfo.ofHeaders r.headers).ip

end LoginForm

/-- The first login, as it is sent. -/
def firstLogin : Request where
  method := "POST"
  path := "/api/auth/login"
  query := none
  headers := [("content-type", "application/json")]
  body := Crypto.octets
    "\x7b\"email\":\"someone@example.org\",\"password\":\"a password of some length\"\x7d"

namespace Service

variable {s : Setup} {server : ServerSettings} {f : Supply} {d : Deployment} {r : Request}

/-- What is said to a request to log in that is refused. -/
def loginRefusal (r : Request) : Error :=
  match Form.login.read r with
  | .ok form => Auth.refusal (form.input r)
  | .error e => e

theorem matches_login (hmethod : r.method = "POST") (hpath : r.path = "/api/auth/login") :
    ∃ route params, r.Matches route params .login := by
  refine ⟨⟨[.literal "api", .literal "auth", .literal "login"], [("POST", .login)]⟩, [], ?_, ?_⟩
  · rw [hpath]
    rfl
  · rw [hmethod]
    decide

/-- The response to a refused login depends on the request alone. -/
theorem run_respond_login (hreach : d.usersReachable = true) (hmethod : r.method = "POST")
    (hpath : r.path = "/api/auth/login")
    (h : ∀ form, Form.login.read r = .ok form → d.users.Refuses form.email form.password) :
    (respond s server r).run (serve f) d =
      (addHeaders (.ofError (loginRefusal r)) (Cors.headers server.allowedOrigins r), d) := by
  obtain ⟨route, params, hmatch⟩ := matches_login hmethod hpath
  have hanswer : runOn (serve f) (Endpoint.respond s r params .login) d =
      (.error (loginRefusal r), d) := by
    rw [Endpoint.respond, runOn_bind, runOn_lift, loginRefusal]
    cases hform : Form.login.read r with
    | error e => rfl
    | ok form =>
      have hrefuses : d.users.Refuses (form.input r).email (form.input r).password := h form hform
      have hlogin := Auth.runOn_login_of_refuses (s := s) (f := f) hreach hrefuses
      dsimp only
      rw [runOn_bind, ← LoginForm.input, hlogin]
  rw [run_respond (serve f) d s server hmatch, hanswer, shown_of_ne (by simp [hmethod]), conclude]

/-- **Logging in does not tell who has an account.**  Two processes that refuse a login give the
same error and stay as they are, and so they do if it is a request over HTTP, with the same
response. -/
theorem login_reveals_nothing (s : Setup) (server : ServerSettings) {f₁ f₂ : Supply}
    (d₁ d₂ : Deployment) (hreach₁ : d₁.usersReachable = true) (hreach₂ : d₂.usersReachable = true) :
    (∀ input : Auth.Login, d₁.users.Refuses input.email input.password →
      d₂.users.Refuses input.email input.password →
        ∃ e, (e = .credentialsMissing ∨ e = .invalidCredentials) ∧
          runOn (serve f₁) (Auth.login s input) d₁ = (.error e, d₁) ∧
          runOn (serve f₂) (Auth.login s input) d₂ = (.error e, d₂)) ∧
      ∀ r : Request, r.method = "POST" → r.path = "/api/auth/login" →
        (∀ form, Form.login.read r = .ok form → d₁.users.Refuses form.email form.password ∧
          d₂.users.Refuses form.email form.password) →
        ∃ response, (respond s server r).run (serve f₁) d₁ = (response, d₁) ∧
          (respond s server r).run (serve f₂) d₂ = (response, d₂) := by
  refine ⟨fun input h₁ h₂ => ?_, fun r hmethod hpath h => ?_⟩
  · exact ⟨Auth.refusal input, Auth.refusal_cases input, Auth.runOn_login_of_refuses hreach₁ h₁,
      Auth.runOn_login_of_refuses hreach₂ h₂⟩
  · exact ⟨_, run_respond_login hreach₁ hmethod hpath fun form hform => (h form hform).1,
      run_respond_login hreach₂ hmethod hpath fun form hform => (h form hform).2⟩

/-! ### An account that is not there, and one that is suspended -/

namespace RefusedLogin

/-- A process without accounts. -/
def nobody : Deployment := .start (.ofSeconds 0) ⟨2⟩

/-- What a new hash of the password at hand is computed with. -/
def recipe : Password.Recipe := ⟨.id, .v19, .default, Auth.FirstLogin.salt⟩

/-- Another hash than that of the password at hand. -/
def otherHash : List UInt8 := (recipe.hash Auth.FirstLogin.input.password).map (· + 1)

/-- An administrator with another password, whose account is suspended. -/
def user : User :=
  { Auth.FirstLogin.user with
    role := .admin
    status := .suspended
    passwordHash := (recipe.store otherHash).toText }

/-- A process with this account. -/
def somebody : Deployment := { nobody with users := nobody.users.insert user }

theorem otherHash_ne : recipe.hash Auth.FirstLogin.input.password ≠ otherHash := by
  intro heq
  have hlength : (recipe.hash Auth.FirstLogin.input.password).length = 32 :=
    Password.length_hash_default _ _
  obtain ⟨octet, octets, hhash⟩ := List.exists_cons_of_length_eq_add_one hlength
  rw [otherHash, hhash, List.map_cons] at heq
  exact absurd (List.cons.inj heq).1 (by simp)

theorem verify_user :
    Password.verify Auth.FirstLogin.input.password user.passwordHash = .ok false := by
  have hlength : otherHash.length = 32 :=
    (List.length_map _).trans (Password.length_hash_default _ _)
  refine (Password.verify_store (by decide) (by decide) hlength _).trans (congrArg _ ?_)
  exact beq_eq_false_iff_ne.2 otherHash_ne

theorem refuses_nobody (email password : String) : nobody.users.Refuses email password :=
  fun _ huser => nomatch huser

theorem refuses_somebody (email : String) :
    somebody.users.Refuses email Auth.FirstLogin.input.password := by
  intro found hfound
  obtain rfl : found = user := List.mem_singleton.1 (List.mem_of_find?_eq_some hfound)
  refine ⟨(Password.exists_verify_eq_ok_iff _).1 ⟨false, verify_user⟩, ?_⟩
  rw [verify_user]
  simp

theorem read_firstLogin {form : LoginForm} (h : Form.login.read firstLogin = .ok form) :
    form.password = Auth.FirstLogin.input.password := by
  have hread : (Form.login.read firstLogin).toOption.map (·.password) =
      some Auth.FirstLogin.input.password := by decide +kernel
  rw [h] at hread
  exact Option.some.inj hread

end RefusedLogin

open RefusedLogin in
/-- A suspended administrator with another password is as good as nobody. -/
theorem login_reveals_nothing_suspended :
    ∃ response,
      (respond Sample.setup {} firstLogin).run (serve Auth.FirstLogin.supply) nobody =
        (response, nobody) ∧
      (respond Sample.setup {} firstLogin).run (serve Auth.FirstLogin.supply) somebody =
        (response, somebody) := by
  refine (login_reveals_nothing Sample.setup {} nobody somebody rfl rfl).2
    firstLogin rfl rfl fun form hform => ⟨refuses_nobody _ _, ?_⟩
  rw [read_firstLogin hform]
  exact refuses_somebody _

end Service
end Http
end SessionAuth
