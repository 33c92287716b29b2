import SessionAuth.Proofs.Program.Contract
import SessionAuth.Proofs.UseCase.Consults

/-!
# What reads and changes promise of the cache

Two things can be read off the programs alone, whatever they are answered.  A text is written into
the cache only if a repository told it before, in the same program; and after a change that took
place the entry of its subject is deleted before the program ends
(`Authorization.Request.promises`).

That is all there is: no program looks again at what it was told before it writes it.
-/

set_option autoImplicit false

namespace SessionAuth

open Environment Fallible

/-! ## Exchanges -/

/-- A repository tells what the entry of a subject has to be. -/
inductive Tells : Exchange Environment.interface → Subject → String → Prop
  | user {id : UserId} {u : User} :
      Tells ⟨.users (.findById id), .ok (some u)⟩ (.user id) u.facts.toJson.compress
  | role {r : Role} {held : List Permission} :
      Tells ⟨.grants (.ofRole r), .ok held⟩ (.role r) (Permission.listToJson held).compress

/-- A repository is changed in what there is to say of a subject. -/
inductive Changes : Exchange Environment.interface → Subject → Prop
  | setRole {id : UserId} {r : Role} : Changes ⟨.users (.setRole id r), .ok true⟩ (.user id)
  | setStatus {id : UserId} {status : Status} :
      Changes ⟨.users (.setStatus id status), .ok true⟩ (.user id)
  | delete {id : UserId} : Changes ⟨.users (.delete id), .ok true⟩ (.user id)
  | grant {r : Role} {p : Permission} : Changes ⟨.grants (.grant r p), .ok true⟩ (.role r)
  | revoke {r : Role} {p : Permission} : Changes ⟨.grants (.revoke r p), .ok true⟩ (.role r)

theorem IsNeutral.not_changes {x : Exchange Environment.interface} (h : IsNeutral x.question)
    (s : Subject) : ¬ Changes x s := by
  rintro ⟨⟩ <;> exact h

/-- Whether the entry of a subject was deleted. -/
def Deletes (subject : Subject) (said : Talk) : Prop :=
  ∃ y ∈ said, y.question = .cache (.delete subject.key)

theorem Deletes.append (s : Subject) (said more : Talk) (h : Deletes s said) :
    Deletes s (said ++ more) := by
  obtain ⟨y, hy, hdelete⟩ := h
  exact ⟨y, List.mem_append_left _ hy, hdelete⟩

/-- Whether the entries of all subjects that were changed, but for one at most, were deleted
since. -/
abbrev Cleared : Option Subject → Talk → Prop := Discharged Changes Deletes

namespace Cleared

variable {pending : Option Subject} {said : Talk}

theorem concat (h : Cleared pending said) {x : Exchange Environment.interface}
    (hx : ∀ s, ¬ Changes x s) : Cleared pending (said ++ [x]) :=
  h.append Deletes.append (List.forall_mem_singleton.2 hx)

/-- After a change there is one more entry to delete. -/
theorem change (h : Cleared none said) {x : Exchange Environment.interface} {subject : Subject}
    (hx : ∀ s, Changes x s → s = subject) : Cleared (some subject) (said ++ [x]) :=
  h.incur Deletes.append hx

/-- Once it is deleted there is none. -/
theorem clear {subject : Subject} (h : Cleared (some subject) said) (r : Except Error Unit) :
    Cleared none (said ++ [⟨.cache (.delete subject.key), r⟩]) :=
  h.meet Deletes.append (List.forall_mem_singleton.2 nofun) fun said =>
    ⟨_, List.mem_append_right said (List.mem_singleton_self _), rfl⟩

end Cleared

/-- What may be asked after what was said: a text is written into the cache only as the entry of a
subject of whom it was told. -/
def MayFill (said : Talk) : Question → Prop
  | .cache (.set key text _) => ∃ s x, x ∈ said ∧ key = s.key ∧ Tells x s text
  | .users (.create _) => False
  | _ => True

theorem IsNeutral.mayFill {q : Question} (h : IsNeutral q) (said : Talk) : MayFill said q := by
  cases q with
  | users c => cases c <;> trivial
  | cache c => exact h.elim
  | _ => trivial

/-! ## Programs -/

/-- A program fills the cache with nothing but what it was told, and ends with the entries deleted
of all that it changed, but for one at most. -/
abbrev Promises {α : Type} (pending : Except Error α → Option Subject) (p : UseCase α)
    (said : Talk) : Prop :=
  Keeps MayFill (fun said r => Cleared (pending r) said) p said

variable {α β : Type} {said : Talk}

theorem Promises.bind {pending : Except Error β → Option Subject} {p : UseCase α}
    {f : α → UseCase β} (hp : Promises (fun _ => none) p said)
    (hf : ∀ a said, Cleared none said → Promises pending (f a) said)
    (herror : ∀ e, pending (.error e) = none) : Promises pending (p >>= f) said := by
  refine (keeps_bind p f).2 (hp.mono fun said r hsaid => ?_)
  cases r with
  | ok a => exact hf a said hsaid
  | error e =>
    show Cleared (pending (.error e)) said
    rw [herror]
    exact hsaid

namespace Authorization

/-- An entry that was told may be written. -/
theorem promises_fill {s : Subject} {text : String} {nanos : Nat}
    {x : Exchange Environment.interface} (hx : x ∈ said) (htells : Tells x s text)
    (h : Cleared none said) :
    Promises (fun _ => none) (bestEffort (cache (Cache.call (.set s.key text nanos)))) said := by
  refine (keeps_bind _ _).2 ((keeps_attempt _).2
    ((keeps_cacheCall (c := .set s.key text nanos)).2 ⟨?_, fun r => ?_⟩))
  · exact ⟨s, x, hx, rfl, htells⟩
  · exact (keeps_pure _).2 (h.concat nofun)

/-- Looking into the cache fills and changes nothing. -/
theorem promises_cached? {d : Json.Decoder α} {key : String} (h : Cleared none said) :
    Promises (fun _ => none) (cached? d key) said := by
  have hasks : Asks (fun q : Question => q = .cache (.get key)) (cached? d key) := asks_cached? rfl
  refine Keeps.of_asks hasks (fun said q hq => hq ▸ trivial) fun more r hmore =>
    h.append Deletes.append ?_
  rintro x hx s hchanges
  cases hchanges <;> cases hmore _ hx

theorem promises_userFacts (ttls : CacheTtls) (user : UserId) (h : Cleared none said) :
    Promises (fun _ => none) (userFacts ttls user) said := by
  refine Promises.bind (promises_cached? h) (fun found said h => ?_) fun _ => rfl
  cases found with
  | some facts => exact (keeps_pure _).2 h
  | none =>
    refine (keeps_bind _ _).2 (keeps_usersCall.2 ⟨trivial, fun r => ?_⟩)
    have hfound : Cleared none (said ++ [⟨.users (.findById user), r⟩]) :=
      h.concat nofun
    rcases r with e | _ | u
    · exact hfound
    · exact (keeps_throw _).2 hfound
    · refine Promises.bind (promises_fill (s := .user user) (List.mem_append_right _ (by simp))
        .user hfound) (fun _ said h => (keeps_pure _).2 h) fun _ => rfl

theorem promises_rolePermissions (ttls : CacheTtls) (role : Role) (h : Cleared none said) :
    Promises (fun _ => none) (rolePermissions ttls role) said := by
  refine Promises.bind (promises_cached? h) (fun found said h => ?_) fun _ => rfl
  cases found with
  | some held => exact (keeps_pure _).2 h
  | none =>
    refine (keeps_bind _ _).2 (keeps_grantsCall.2 ⟨trivial, fun r => ?_⟩)
    have hheld : Cleared none (said ++ [⟨.grants (.ofRole role), r⟩]) :=
      h.concat nofun
    rcases r with e | held
    · exact hheld
    · refine Promises.bind (promises_fill (s := .role role) (List.mem_append_right _ (by simp))
        .role hheld) (fun _ said h => (keeps_pure _).2 h) fun _ => rfl

end Authorization

/-- Clearing an entry deletes it. -/
theorem promises_clear (subject : Subject) (h : Cleared (some subject) said) :
    Promises (fun _ => none) subject.clear said := by
  cases subject <;> exact (keeps_bind _ _).2 ((keeps_attempt _).2
    ((keeps_cacheCall (c := .delete _)).2 ⟨trivial, fun r => (keeps_pure _).2 (h.clear r)⟩))

/-- A program that only consults the cache leaves nothing to delete. -/
theorem Consults.promises {p : UseCase α} (hp : Consults p) (h : Cleared none said) :
    Promises (fun _ => none) p said := by
  induction hp generalizing said with
  | asks hp =>
    refine Keeps.of_asks hp (fun said q hq => hq.mayFill said) fun more r hmore =>
      h.append Deletes.append ?_
    exact fun x hx s => (hmore x hx).not_changes s
  | userFacts ttls user => exact Authorization.promises_userFacts ttls user h
  | rolePermissions ttls role => exact Authorization.promises_rolePermissions ttls role h
  | clear subject =>
    exact promises_clear subject fun _ _ _ _ hsaid hx => .inr ((h hsaid hx).resolve_left nofun)
  | attempt _ ih => exact (keeps_attempt _).2 (ih h)
  | bind _ _ ihp ihf => exact Promises.bind (ihp h) (fun a said h => ihf a h) fun _ => rfl

/-! ## Requests -/

namespace Authorization

/-- What goes on at the same time: reads, decisions, changes, and handlers of events. -/
inductive Request where
  | facts (user : UserId)
  | permissions (role : Role)
  | authorize (user : UserId) (required : Permission)
  | changeRole (c : Caller) (user : UserId) (role : Role)
  | changeStatus (c : Caller) (user : UserId) (status : Status)
  | deleteUser (c : Caller) (user : UserId)
  | grant (c : Caller) (role : Role) (permission : Permission)
  | revoke (c : Caller) (role : Role) (permission : Permission)
  | handle (i : Invalidator) (e : Event)

/-- The use case of a request. -/
def Request.useCase (s : Setup) : Request → UseCase Unit
  | facts user => ignoring (userFacts s.cacheTtls user)
  | permissions role => ignoring (rolePermissions s.cacheTtls role)
  | authorize user required => ignoring (Authorization.authorize s.cacheTtls user required)
  | changeRole c user role => UserAdmin.changeRole s c user role
  | changeStatus c user status => UserAdmin.changeStatus s c user status
  | deleteUser c user => UserAdmin.delete s c user
  | grant c role permission => ignoring (RoleAdmin.grant s c role permission)
  | revoke c role permission => ignoring (RoleAdmin.revoke s c role permission)
  | handle i e => i.handle e

end Authorization

variable {s : Setup}

/-- After a question that changes a subject if it is answered so, its entry is to be deleted. -/
theorem Cleared.changed (h : Cleared none said) {subject : Subject}
    {x : Except Error Bool → Exchange Environment.interface}
    (hx : ∀ r s, Changes (x r) s → r = .ok true ∧ s = subject) (r : Except Error Bool) :
    Cleared (if r = .ok true then some subject else none) (said ++ [x r]) := by
  by_cases hr : r = .ok true
  · rw [if_pos hr]
    exact h.change fun s hs => (hx r s hs).2
  · rw [if_neg hr]
    exact h.concat fun s hs => hr (hx r s hs).1

/-- A change that is refused ends the use case; after one that is not, the entry is deleted. -/
theorem UserAdmin.promises_change {p : UseCase Bool} {user : UserId} {k : UseCase Unit}
    (hp : Promises (fun r => if r = .ok true then some (.user user) else none) p said)
    (hk : ∀ said, Cleared (some (.user user)) said → Promises (fun _ => none) k said) :
    Promises (fun _ => none)
      (p >>= fun there => if !there then throw .userMissing else k) said := by
  refine (keeps_bind _ _).2 (hp.mono fun said r hsaid => ?_)
  rcases r with e | _ | _
  · exact hsaid
  · exact (keeps_throw _).2 hsaid
  · exact hk said hsaid

theorem UserAdmin.promises_invalidate {user : UserId} {event : Event}
    (h : Cleared (some (.user user)) said) :
    Promises (fun _ => none) (UserAdmin.invalidate user event) said :=
  Promises.bind (promises_clear (.user user) h) (fun _ _ h =>
    Consults.promises (.asks (Asks.bind (asks_publish trivial) fun _ => asks_pure _)) h)
    fun _ => rfl

theorem UserAdmin.promises_changeRole (c : Caller) (user : UserId) (role : Role) :
    Promises (fun _ => none) (changeRole s c user role) [] := by
  refine Promises.bind ((consults_require _ _).promises .nil) (fun _ said h => ?_) fun _ => rfl
  refine promises_change ?_ fun said h => promises_invalidate h
  refine (keeps_usersCall (c := .setRole user role)).2 ⟨trivial, h.changed ?_⟩
  rintro r s ⟨⟩
  exact ⟨rfl, rfl⟩

theorem UserAdmin.promises_changeStatus (c : Caller) (user : UserId) (status : Status) :
    Promises (fun _ => none) (changeStatus s c user status) [] := by
  refine Promises.bind ((consults_require _ _).promises .nil) (fun _ said h => ?_) fun _ => rfl
  dsimp only
  split
  · exact keeps_throw_bind.2 h
  refine promises_change ?_ fun said h => Promises.bind (promises_invalidate h)
    (fun _ said h => Consults.promises ?_ h) fun _ => rfl
  · refine (keeps_usersCall (c := .setStatus user status)).2 ⟨trivial, h.changed ?_⟩
    rintro r s ⟨⟩
    exact ⟨rfl, rfl⟩
  · split
    · exact .asks (Asks.bind (Sessions.neutral_deleteAll user) fun _ => asks_pure _)
    · exact .pure _

theorem UserAdmin.promises_delete (c : Caller) (user : UserId) :
    Promises (fun _ => none) (delete s c user) [] := by
  refine Promises.bind ((consults_require _ _).promises .nil) (fun _ said h => ?_) fun _ => rfl
  dsimp only
  split
  · exact keeps_throw_bind.2 h
  refine promises_change ?_ fun said h => promises_invalidate h
  refine (keeps_usersCall (c := .delete user)).2 ⟨trivial, h.changed ?_⟩
  rintro r s ⟨⟩
  exact ⟨rfl, rfl⟩

/-- A change of what a role holds; the entry is deleted if there was one. -/
theorem RoleAdmin.promises_change (c : Caller) (role : Role) {change : UseCase Bool}
    (hchange : ∀ said, Cleared none said →
      Promises (fun r => if r = .ok true then some (.role role) else none) change said) :
    Promises (fun _ => none) (do
      requireManage s c
      let changed ← change
      if changed then invalidate role
      return changed) [] := by
  refine Promises.bind ((consults_requireManage c).promises .nil) (fun _ said h => ?_) fun _ => rfl
  refine (keeps_bind _ _).2 ((hchange said h).mono fun said r hsaid => ?_)
  rcases r with e | _ | _
  · exact hsaid
  · exact (keeps_pure _).2 hsaid
  · refine Promises.bind (Promises.bind (promises_clear (.role role) hsaid)
      (fun _ said h => Consults.promises ?_ h) fun _ => rfl)
      (fun _ said h => (keeps_pure _).2 h) fun _ => rfl
    exact .asks (Asks.bind (asks_publish trivial) fun _ => asks_pure _)

/-- **What a request promises.**  It fills the cache with nothing but what it was told, and deletes
the entries of all that it changes. -/
theorem Authorization.Request.promises (request : Request) :
    Promises (fun _ => none) (request.useCase s) [] := by
  have hignoring : ∀ {α : Type} {p : UseCase α}, Promises (fun _ => none) p [] →
      Promises (fun _ => none) (ignoring p) [] :=
    fun hp => Promises.bind hp (fun _ _ h => (keeps_pure _).2 h) fun _ => rfl
  cases request with
  | facts user => exact hignoring ((Consults.userFacts _ user).promises .nil)
  | permissions role => exact hignoring ((Consults.rolePermissions _ role).promises .nil)
  | authorize user required =>
    exact hignoring ((consults_authorize _ user required).promises .nil)
  | changeRole c user role => exact UserAdmin.promises_changeRole c user role
  | changeStatus c user status => exact UserAdmin.promises_changeStatus c user status
  | deleteUser c user => exact UserAdmin.promises_delete c user
  | grant c role permission =>
    refine hignoring (RoleAdmin.promises_change c role fun said h => ?_)
    refine (keeps_grantsCall (c := .grant role permission)).2 ⟨trivial, h.changed ?_⟩
    rintro r s ⟨⟩
    exact ⟨rfl, rfl⟩
  | revoke c role permission =>
    refine hignoring (RoleAdmin.promises_change c role fun said h => ?_)
    refine (keeps_grantsCall (c := .revoke role permission)).2 ⟨trivial, h.changed ?_⟩
    rintro r s ⟨⟩
    exact ⟨rfl, rfl⟩
  | handle i e => exact (i.consults_handle e).promises .nil

end SessionAuth
