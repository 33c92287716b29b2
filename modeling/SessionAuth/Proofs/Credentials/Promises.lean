import SessionAuth.Proofs.UseCase.Conversation
import SessionAuth.UseCase.UserAdmin

/-!
# What logins promise, and changes of accounts

A login is told of an account, checks what it was given against it, and opens a session much later.
A change of a password or a status writes it first, and then lists the sessions of the account and
deletes them.  Whatever they are answered, a login opens one session at most, of an account that it
was told of and whose password it was given (`MayAsk`), and a change that succeeds deletes all
sessions that it was told of after it wrote (`Request.promises`).

No login looks at the account again, nor does any change look for sessions again.
-/

set_option autoImplicit false

namespace SessionAuth
namespace Credentials

open Environment Fallible

/-! ## Requests -/

/-- What goes on at the same time: logins, and changes of passwords and statuses. -/
inductive Request where
  | login (input : Auth.Login)
  | changePassword (c : Caller) (current new : String)
  | changeStatus (c : Caller) (user : UserId) (status : Status)

/-- Whether a request changes an account. -/
def Request.IsChange : Request → Prop
  | login _ => False
  | _ => True

/-- The use case of a request. -/
def Request.useCase (s : Setup) : Request → UseCase Unit
  | login input => ignoring (Auth.login s input)
  | changePassword c current new => ignoring (Account.changePassword s c current new)
  | changeStatus c user status => UserAdmin.changeStatus s c user status

/-- The password of an account is changed, or its status to one that keeps the owner out. -/
inductive Supersedes : Exchange Environment.interface → UserId → Prop
  | setPassword {id : UserId} {hash : String} :
      Supersedes ⟨.users (.setPassword id hash), .ok true⟩ id
  | setStatus {id : UserId} {status : Status} (h : status.canAuthenticate = false) :
      Supersedes ⟨.users (.setStatus id status), .ok true⟩ id

/-- Whether the sessions of a user were listed, and all that were listed were deleted. -/
def Ends (user : UserId) (said : Talk) : Prop :=
  ∃ before listed after,
    said = before ++ ⟨.sessions (.call (.listByUser user)), .ok listed⟩ :: after ∧
      ∀ session ∈ listed, ∃ ids count, session.id ∈ ids ∧
        ⟨.sessions (.call (.delete ids)), .ok count⟩ ∈ after

theorem Ends.append (user : UserId) (said more : Talk) (h : Ends user said) :
    Ends user (said ++ more) := by
  obtain ⟨before, listed, after, rfl, hdeleted⟩ := h
  refine ⟨before, listed, after ++ more, by simp, fun session hsession => ?_⟩
  obtain ⟨ids, count, hid, hmem⟩ := hdeleted session hsession
  exact ⟨ids, count, hid, List.mem_append_left _ hmem⟩

/-- Whether the sessions of all accounts that were changed, but for one at most, were ended
since. -/
abbrev Ended : Option UserId → Talk → Prop := Discharged Supersedes Ends

/-! ## Contracts -/

/-- A question that opens no session and carries none on, and that changes no account. -/
def IsHarmless : Question → Prop
  | .sessions (.call (.create _ _)) => False
  | .sessions (.call (.rotate _)) => False
  | .users (.create _) => False
  | .users (.setPassword _ _) => False
  | .users (.setStatus _ _) => False
  | .users (.delete _) => False
  | _ => True

/-- A login was told of an account that can be used, and was given its password. -/
structure Checked (input : Auth.Login) (u : User) (said : Talk) : Prop where
  told : ∃ email, ⟨.users (.findByEmail email), .ok (some u)⟩ ∈ said
  verified : Password.verify input.password u.passwordHash = .ok true
  active : u.status = .active

/-- What a request may ask after what was said. -/
inductive MayAsk : Request → Talk → Question → Prop
  | harmless {request : Request} {said : Talk} {q : Question} (h : IsHarmless q) :
      MayAsk request said q
  | create {input : Auth.Login} {u : User} {said : Talk} {session : Session} {ttls : Ttls}
      (hchecked : Checked input u said) (huser : session.userId = u.id)
      (hnew : ⟨.newId, session.id⟩ ∈ said) (hfirst : ∀ x ∈ said, IsHarmless x.question) :
      MayAsk (.login input) said (.sessions (.call (.create session ttls)))
  | setPassword {request : Request} {said : Talk} {id : UserId} {hash : String}
      (h : request.IsChange) : MayAsk request said (.users (.setPassword id hash))
  | setStatus {request : Request} {said : Talk} {id : UserId} {status : Status}
      (h : request.IsChange) : MayAsk request said (.users (.setStatus id status))

/-- Nothing but a change supersedes what was told of an account. -/
theorem MayAsk.isChange {request : Request} {said : Talk} {x : Exchange Environment.interface}
    {user : UserId} (h : MayAsk request said x.question) (hx : Supersedes x user) :
    request.IsChange := by
  cases hx with
  | setPassword =>
    cases h with
    | harmless hharmless => exact hharmless.elim
    | setPassword hchange => exact hchange
  | setStatus =>
    cases h with
    | harmless hharmless => exact hharmless.elim
    | setStatus hchange => exact hchange

/-- A program asks what its request may, and if it succeeds it has ended the sessions of all
accounts that it changed, but for one at most. -/
abbrev Promises (request : Request) {α : Type} (pending : α → Option UserId) (p : UseCase α)
    (said : Talk) : Prop :=
  Keeps (MayAsk request) (fun said r => ∀ a, r = .ok a → Ended (pending a) said) p said

variable {request : Request} {said : Talk} {α β : Type} {s : Setup}

theorem IsHarmless.not_supersedes {x : Exchange Environment.interface} (h : IsHarmless x.question)
    (user : UserId) : ¬ Supersedes x user := by
  rintro ⟨⟩ <;> exact h

namespace Promises

variable {pending : α → Option UserId} {pending' : β → Option UserId} {p : UseCase α}
  {f : α → UseCase β}

theorem pure {a : α} (h : Ended (pending a) said) :
    Promises request pending (Pure.pure a) said :=
  (keeps_pure a).2 fun _ ha => Except.ok.inj ha ▸ h

theorem throw (e : Error) : Promises request pending (MonadExcept.throw e) said :=
  (keeps_throw e).2 nofun

theorem throw_bind (e : Error) :
    Promises request pending' ((MonadExcept.throw e : UseCase α) >>= f) said :=
  keeps_throw_bind.2 nofun

theorem bind (hp : Promises request pending p said)
    (hf : ∀ a said, Ended (pending a) said → Promises request pending' (f a) said) :
    Promises request pending' (p >>= f) said := by
  refine (keeps_bind p f).2 (hp.mono fun said r hsaid => ?_)
  cases r with
  | ok a => exact hf a said (hsaid a rfl)
  | error e => exact nofun

/-- A part that asks nothing but harmless questions leaves to do what there was. -/
theorem of_asks (hp : Asks IsHarmless p) {user : Option UserId} (h : Ended user said) :
    Promises request (fun _ => user) p said :=
  Keeps.of_asks hp (fun _ _ hq => .harmless hq) fun _ _ hmore _ _ =>
    h.append Ends.append fun x hx => (hmore x hx).not_supersedes

theorem lift (r : Except Error α) {user : Option UserId} (h : Ended user said) :
    Promises request (fun _ => user) (liftM r) said :=
  of_asks (asks_lift r) h

end Promises

/-! ## Harmless parts -/

theorem harmless_require (c : Caller) (permission : Permission) :
    Asks IsHarmless (UserAdmin.require s c permission) := by
  refine Asks.bind (Authorization.asks_authorize ?_ fun role => ?_) fun _ => asks_pure _
  · exact Authorization.asks_userFacts trivial trivial fun _ _ => trivial
  · exact Authorization.asks_rolePermissions trivial trivial fun _ _ => trivial

theorem harmless_invalidate (user : UserId) (event : Event) :
    Asks IsHarmless (UserAdmin.invalidate user event) :=
  UserAdmin.asks_invalidate trivial trivial

/-! ## Changes -/

/-- Deleting all sessions of a user ends them. -/
theorem promises_deleteAll {user : UserId} (h : Ended (some user) said) :
    Promises request (fun _ => none) (Sessions.deleteAll user) said := by
  refine (keeps_bind _ _).2 ((keeps_call (c := .listByUser user)).2 ⟨.harmless trivial, ?_⟩)
  rintro (e | listed)
  · rintro _ ⟨⟩
  -- what was asked after the list is left open as long as all that was listed gets deleted
  have hswept : ∀ (count : Nat) (deleted : Talk), (∀ x ∈ deleted, IsHarmless x.question) →
      (∀ session ∈ listed, ∃ ids count, session.id ∈ ids ∧
        ⟨.sessions (.call (.delete ids)), .ok count⟩ ∈ deleted) →
      Promises request (fun _ => none) (do
        let _ ← sessions (SessionStore.call (.sweepUser user))
        return count)
        (said ++ [⟨.sessions (.call (.listByUser user)), .ok listed⟩] ++ deleted) := by
    intro count deleted hharmless hdeleted
    rw [List.append_assoc]
    refine Promises.bind (Promises.of_asks (asks_call (c := .sweepUser user) trivial) ?_)
      fun _ _ h => .pure h
    refine h.meet Ends.append (fun x hx => IsHarmless.not_supersedes ?_) fun said =>
      ⟨said, listed, deleted, rfl, hdeleted⟩
    rcases List.mem_cons.1 hx with rfl | hx
    · trivial
    · exact hharmless x hx
  refine (keeps_bind _ _).2 ?_
  rw [Sessions.deleteIds]
  split
  · rename_i hnone
    obtain rfl : listed = [] := by simpa using hnone
    refine (keeps_pure _).2 ?_
    rw [← List.append_nil (said ++ _)]
    exact hswept 0 [] (List.forall_mem_nil _) (List.forall_mem_nil _)
  · refine (keeps_call (c := .delete _)).2 ⟨.harmless trivial, ?_⟩
    rintro (e | count)
    · rintro _ ⟨⟩
    refine hswept count _ (List.forall_mem_singleton.2 trivial) fun session hsession => ?_
    exact ⟨_, count, List.mem_map_of_mem hsession, List.mem_singleton_self _⟩

/-- A change that is refused fails; after one that is not, the sessions are to be ended. -/
theorem promises_change (pending : Bool → Option UserId) {p : UseCase Bool} {k : UseCase α}
    (hp : Promises request pending p said)
    (hk : ∀ said, Ended (pending true) said → Promises request (fun _ => none) k said) :
    Promises request (fun _ => none)
      (p >>= fun there => if !there then throw .userMissing else k) said := by
  refine Promises.bind hp fun there said h => ?_
  cases there with
  | false => exact .throw _
  | true => exact hk said h

theorem promises_changePassword (c : Caller) (current new : String) :
    Promises (.changePassword c current new) (fun _ => none)
      (Account.changePassword s c current new) [] := by
  refine .bind (.lift _ .nil) fun _ said h => ?_
  refine .bind (.of_asks (asks_usersCall (c := .findById c.userId) trivial) h)
    fun found said h => ?_
  cases found with
  | none => exact .throw _
  | some u =>
    refine .bind (.lift _ h) fun matched said h => ?_
    dsimp only
    split
    · exact .throw_bind _
    refine .bind (.lift _ h) fun _ said h => ?_
    refine .bind (.of_asks (asks_newSalt trivial) h) fun salt said h => ?_
    refine promises_change (fun there => if there then some u.id else none) ?_ fun said h => ?_
    · refine (keeps_usersCall (c := .setPassword u.id _)).2 ⟨.setPassword trivial, ?_⟩
      rintro _ (_ | _) rfl
      · exact h.append Ends.append (List.forall_mem_singleton.2 nofun)
      · refine h.incur Ends.append ?_
        rintro _ ⟨⟩
        rfl
    · refine .bind (promises_deleteAll h) fun ended said h => ?_
      refine .bind (.of_asks (Authorization.asks_clearUser trivial) h) fun _ said h => ?_
      exact .bind (.of_asks (asks_publish trivial) h) fun _ said h => .pure h

theorem promises_changeStatus (c : Caller) (user : UserId) (status : Status) :
    Promises (.changeStatus c user status) (fun _ => none)
      (UserAdmin.changeStatus s c user status) [] := by
  refine .bind (.of_asks (harmless_require _ _) .nil) fun _ said h => ?_
  dsimp only
  split
  · exact .throw_bind _
  refine promises_change
    (fun there => if there && !status.canAuthenticate then some user else none) ?_ fun said h => ?_
  · refine (keeps_usersCall (c := .setStatus user status)).2 ⟨.setStatus trivial, ?_⟩
    rintro _ (_ | _) rfl
    · exact h.append Ends.append (List.forall_mem_singleton.2 nofun)
    cases hstatus : status.canAuthenticate with
    | true =>
      refine h.append Ends.append (List.forall_mem_singleton.2 ?_)
      rintro _ ⟨⟩
      simp_all
    | false =>
      refine h.incur Ends.append ?_
      rintro _ ⟨⟩
      rfl
  · refine .bind (.of_asks (harmless_invalidate _ _) h) fun _ said h => ?_
    cases hstatus : status.canAuthenticate with
    | true => exact .pure (by simpa [hstatus] using h)
    | false => exact .bind (promises_deleteAll (by simpa [hstatus] using h)) fun _ _ h => .pure h

/-! ## Logins -/

/-- A login that goes on was told of an account, and was given its password. -/
theorem keeps_verifyCredentials {input : Auth.Login} (email : String)
    {mayEnd : Talk → Except Error User → Prop}
    (hend : ∀ more r, (∀ x ∈ more, IsHarmless x.question) →
      (∀ u, r = .ok u → ⟨.users (.findByEmail email), .ok (some u)⟩ ∈ more ∧
        Password.verify input.password u.passwordHash = .ok true) → mayEnd (said ++ more) r) :
    Keeps (MayAsk request) mayEnd (Auth.verifyCredentials email input.password) said := by
  refine (keeps_bind _ _).2
    ((keeps_usersCall (c := .findByEmail email)).2 ⟨.harmless trivial, fun r => ?_⟩)
  have hharmless : ∀ x ∈ [(⟨.users (.findByEmail email), r⟩ : Exchange Environment.interface)],
      IsHarmless x.question := List.forall_mem_singleton.2 trivial
  rcases r with e | _ | u
  · exact hend _ _ hharmless nofun
  · exact (keeps_throw _).2 (hend _ _ hharmless nofun)
  refine (keeps_bind _ _).2 ((keeps_lift _).2 ?_)
  cases hverified : Password.verify input.password u.passwordHash with
  | error e => exact hend _ _ hharmless nofun
  | ok matched =>
    cases matched with
    | false => exact (keeps_throw _).2 (hend _ _ hharmless nofun)
    | true =>
      refine (keeps_pure _).2 (hend _ _ hharmless ?_)
      rintro _ ⟨⟩
      exact ⟨List.mem_singleton_self _, hverified⟩

/-- A login opens a session only when it has checked what it was given. -/
theorem keeps_login (input : Auth.Login) :
    Keeps (MayAsk (.login input)) (fun _ _ => True) (Auth.login s input) [] := by
  simp only [Auth.login]
  split
  · exact keeps_throw_bind.2 trivial
  refine (keeps_bind _ _).2 (keeps_verifyCredentials _ fun before r hbefore hr => ?_)
  cases r with
  | error e => trivial
  | ok u =>
    obtain ⟨htold, hverified⟩ := hr u rfl
    refine (keeps_bind _ _).2 ((keeps_lift _).2 ?_)
    cases husable : Auth.checkUsable u with
    | error e => trivial
    | ok =>
      have hactive : u.status = .active := by
        cases hstatus : u.status with
        | active => rfl
        | _ => simp [Auth.checkUsable, hstatus] at husable
      refine (keeps_bind _ _).2 (Keeps.of_asks (Auth.asks_issueRefresh s trivial trivial)
        (fun _ _ hq => .harmless hq) fun issuing r hissuing => ?_)
      cases r with
      | error e => trivial
      | ok issued =>
        refine (keeps_bind _ _).2 (Auth.keeps_openSession (fun _ => .harmless trivial)
          (fun _ => .harmless trivial) (fun opening session ttls hopening hnew huser _ => ?_)
          fun _ r => ?_)
        · refine .create ⟨⟨Text.trim input.email, ?_⟩, hverified, hactive⟩ huser
            (List.mem_append_right _ hnew) ?_
          · exact List.mem_append_left _ (List.mem_append_left _ htold)
          · have hharmless : ∀ x ∈ opening, IsHarmless x.question := by
              intro x hx
              rcases hopening x hx with h | h <;> rw [h] <;> trivial
            simpa [or_imp, forall_and] using ⟨hbefore, hissuing, hharmless⟩
        · cases r with
          | error e => trivial
          | ok id =>
            exact Keeps.of_asks (Auth.asks_completePair s trivial trivial)
              (fun _ _ hq => .harmless hq) fun _ _ _ => trivial

/-- How a request may end: a change that succeeds has ended the sessions of all accounts that it
changed. -/
def MayEnd (request : Request) (said : Talk) (r : Except Error Unit) : Prop :=
  request.IsChange → r = .ok () → Ended none said

/-- **What a request promises.** -/
theorem Request.keeps (request : Request) :
    Keeps (MayAsk request) (MayEnd request) (request.useCase s) [] := by
  have hchange : Promises request (fun _ => none) (request.useCase s) [] →
      Keeps (MayAsk request) (MayEnd request) (request.useCase s) [] :=
    fun h => h.mono fun said r hsaid _ hr => hsaid () hr
  cases request with
  | login input =>
    refine (keeps_bind _ _).2 ((keeps_login input).mono fun said r _ => ?_)
    cases r with
    | error e => exact fun h => h.elim
    | ok tokens => exact (keeps_pure _).2 fun h => h.elim
  | changePassword c current new =>
    exact hchange (.bind (promises_changePassword c current new) fun _ _ h => .pure h)
  | changeStatus c user status => exact hchange (promises_changeStatus c user status)

end Credentials
end SessionAuth
