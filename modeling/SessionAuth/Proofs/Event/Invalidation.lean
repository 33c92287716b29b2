import SessionAuth.Proofs.Authorization.Subject
import SessionAuth.Proofs.Program.Interference
import SessionAuth.Proofs.Session.Deletion
import SessionAuth.Proofs.Session.Ending

/-!
# Events are handled in any order

Every event becomes a task for each of its handlers, and tasks run side by side.  Clearing an entry
of the cache is one call, but the deletion of all sessions of a user takes three: the sessions are
listed, those that were listed are deleted, and the index is swept.  Two such deletions may find the
same sessions, and one of them deletes what the other has already deleted.

What a handler may do at all is `Invalidates`: entries of subjects of events go, and sessions of
users whose deletion was published are forgotten.  No handler brings anything back, so that what one
achieves for its event (`Invalidator.Achieves`) the others do not undo, and each handler achieves it
whatever the others do in between (`Invalidator.ensures_handle`).  When all are done, there is only
one state that the process can have come to, as far as anything can be read of it
(`Invalidated`).
-/

set_option autoImplicit false

namespace SessionAuth

open Environment Fallible Deployment
open SessionStore (Ended Listable Paired after sessionIds tokenIds)

/-! ## What an event calls for -/

namespace Event

/-- The handlers of an event at work on it. -/
def tasks (e : Event) : List (Invalidator × Event) :=
  (Invalidator.registry.handlers e.kind).map (·, e)

/-- What may no longer be cached after an event. -/
def subject? : Event → Option Subject
  | userChanged user | userDeleted user => some (.user user)
  | roleChanged name => (Role.ofText? name).map .role

end Event

/-- What a handler achieves for an event: no session of the user is left that was deleted, or
nothing is cached of the subject. -/
def Invalidator.Achieves : Invalidator → Event → Deployment → Prop
  | .sessions, .userDeleted user, d => ∀ id, ¬ d.sessions.Owns d.clock.elapsed user id
  | .sessions, _, _ => True
  | _, e, d => ∀ subject, e.subject? = some subject → d.cache.entries.get? subject.key = none

namespace Deployment

/-- Whether all that handlers ask for is in reach. -/
structure HandlersReach (d : Deployment) : Prop where
  sessions : d.sessionsReachable = true
  cache : d.cacheCondition ≠ .unreachable

/-- One process is another in which some of what events call for was done.  Which sessions belong to
whom is read off the given store. -/
structure Invalidates (events : List Event) (s : SessionStore) (d d' : Deployment) : Prop where
  clock : d'.clock = d.clock
  reach : d.HandlersReach → d'.HandlersReach
  cache : ∀ key, d'.cache.entries.get? key = d.cache.entries.get? key ∨
    (∃ subject ∈ events.filterMap Event.subject?, subject.key = key) ∧
      d'.cache.entries.get? key = none
  sessions : Ended d.clock.elapsed (fun id => ∃ user, .userDeleted user ∈ events ∧
    s.Owns d.clock.elapsed user id) d.sessions d'.sessions

namespace Invalidates

variable {f : Supply} {events : List Event} {s : SessionStore} {d d' d'' : Deployment}

theorem refl (d : Deployment) : Invalidates events s d d where
  clock := rfl
  reach h := h
  cache _ := .inl rfl
  sessions := .refl ..

theorem trans (h : Invalidates events s d d') (h' : Invalidates events s d' d'') :
    Invalidates events s d d'' where
  clock := h'.clock.trans h.clock
  reach hreach := h'.reach (h.reach hreach)
  cache key := by
    rcases h'.cache key with hsame' | hgone
    · exact (h.cache key).imp hsame'.trans (.imp_right hsame'.trans)
    · exact .inr hgone
  sessions := h.sessions.trans (h.clock ▸ h'.sessions)

instance : Std.Refl (Invalidates events s) := ⟨refl⟩
instance : IsTrans Deployment (Invalidates events s) := ⟨fun _ _ _ => trans⟩

/-- No sessions come to a user. -/
theorem owns (h : Invalidates events s d d') {user : UserId} {id : String}
    (howns : d'.sessions.Owns d'.clock.elapsed user id) :
    d.sessions.Owns d.clock.elapsed user id :=
  h.sessions.owns (h.clock ▸ howns)

/-- What a handler has achieved is not undone. -/
theorem achieves (h : Invalidates events s d d') {i : Invalidator} {e : Event}
    (ha : i.Achieves e d) : i.Achieves e d' := by
  have hcache : (∀ subject, e.subject? = some subject →
      d.cache.entries.get? subject.key = none) → ∀ subject, e.subject? = some subject →
        d'.cache.entries.get? subject.key = none := by
    intro hnone subject he
    rcases h.cache subject.key with hsame | ⟨-, hgone⟩
    · exact hsame.trans (hnone subject he)
    · exact hgone
  cases i with
  | userFacts | rolePermissions => exact hcache ha
  | sessions =>
    cases e with
    | userChanged | roleChanged => trivial
    | userDeleted user => exact fun id howns => ha id (h.owns howns)

/-- The entry of a subject may be cleared. -/
theorem clear (hreach : d.HandlersReach) {subject : Subject}
    (hsubject : subject ∈ events.filterMap Event.subject?) :
    Invalidates events s d (serve f (.cache (.delete subject.key)) d).2 ∧
      (serve f (.cache (.delete subject.key)) d).2.cache.entries.get? subject.key = none := by
  rw [serve_cache hreach.cache (c := .delete subject.key) nofun]
  simp only [MemoryCache.answer]
  refine ⟨⟨rfl, fun h => ⟨h.sessions, h.cache⟩, fun key => ?_, .refl ..⟩, ?_⟩
  · rw [Table.get?_erase]
    by_cases hkey : key = subject.key
    · exact .inr ⟨⟨subject, hsubject, hkey.symm⟩, if_pos hkey⟩
    · exact .inl (if_neg hkey)
  · rw [Table.get?_erase, if_pos rfl]

/-- The session store may be asked what ends no other sessions. -/
theorem ask (hreach : d.HandlersReach) {q : SessionStore.Question}
    (hended : Ended d.clock.elapsed (fun id => ∃ user, .userDeleted user ∈ events ∧
      s.Owns d.clock.elapsed user id) d.sessions
        (SessionStore.answer d.clock.elapsed q d.sessions).2) :
    Invalidates events s d (serve f (.sessions q) d).2 := by
  rw [serve_sessions hreach.sessions]
  exact ⟨rfl, fun h => ⟨h.sessions, h.cache⟩, fun _ => .inl rfl, hended⟩

end Invalidates
end Deployment

/-! ## Handlers among others -/

section Handlers

variable {f : Supply} {events : List Event} {s : SessionStore} {start d d' : Deployment}

theorem Subject.ensures_clear (hreach : d.HandlersReach) {i : Invalidator} {e : Event}
    {subject : Subject} (hsubject : subject ∈ events.filterMap Event.subject?)
    (hachieves : ∀ d : Deployment, d.cache.entries.get? subject.key = none → i.Achieves e d) :
    subject.clear.run.Ensures (serve f) (Invalidates events s) (fun _ => i.Achieves e) d := by
  have h : (Program.ask (I := Environment.interface) (.cache (.delete subject.key)) fun _ =>
      .done (.ok ())).Ensures (serve f) (Invalidates events s)
        (fun (_ : Except Error Unit) => i.Achieves e) d := by
    intro t ht
    obtain ⟨hclear, hnone⟩ := Invalidates.clear (f := f) (s := s) (ht.reach hreach) hsubject
    exact ⟨hclear, fun u hu => hu.achieves (hachieves _ hnone)⟩
  cases subject <;> exact h

/-! ### The deletion of all sessions of a user -/

/-- A process in which all sessions of a user that are left are among the given ones, which have
been the user's from the start. -/
structure Deployment.Targets (events : List Event) (start : Deployment) (user : UserId)
    (ids : List String) (d : Deployment) : Prop where
  invalidates : Invalidates events start.sessions start d
  owned : ∀ id ∈ ids, start.sessions.Owns start.clock.elapsed user id
  left : ∀ id, d.sessions.Owns d.clock.elapsed user id → id ∈ ids

namespace Sessions

variable (hreach : start.HandlersReach) (hs : Listable start.clock.elapsed start.sessions)
  (hpaired : Paired start.sessions) {user : UserId} (hdeleted : .userDeleted user ∈ events)
  {ids : List String}

theorem targets_of_invalidates (h : Targets events start user ids d)
    (h' : Invalidates events start.sessions d d') : Targets events start user ids d' where
  invalidates := h.invalidates.trans h'
  owned := h.owned
  left id howns := h.left id (h'.owns howns)

include hreach

include hs in
theorem ensures_ofUser (h : Invalidates events start.sessions start d) :
    (ofUser user).run.Ensures (serve f) (Invalidates events start.sessions)
      (fun r t => ∃ found, r = .ok found ∧ Targets events start user (found.map (·.id)) t) d := by
  intro t ht
  have hpast := h.trans ht
  have hlistable : Listable t.clock.elapsed t.sessions := by
    rw [hpast.clock]
    exact hs.prunes hpast.sessions.prunes
  have hlists : Invalidates events start.sessions t
      (serve f (.sessions (.call (.listByUser user))) t).2 :=
    .ask (hpast.reach hreach) (.listByUser _ _)
  refine ⟨hlists, fun u hu => ⟨(t.sessions.listByUser t.clock.elapsed user).1, ?answer, ?targets⟩⟩
  case answer =>
    exact congrArg Prod.fst (serve_sessions (hpast.reach hreach).sessions (.call (.listByUser user)))
  case targets =>
    refine ⟨(hpast.trans hlists).trans hu, fun id hid => ?_, fun id howns => ?_⟩
    · exact hpast.owns ((SessionStore.mem_map_id_listByUser hlistable).1 hid)
    · exact (SessionStore.mem_map_id_listByUser hlistable).2 (hlists.owns (hu.owns howns))

include hpaired hdeleted in
theorem ensures_deleteIds (h : Targets events start user ids d) :
    (deleteIds ids).run.Ensures (serve f) (Invalidates events start.sessions)
      (fun r t => (∃ n, r = .ok n) ∧ Targets events start user [] t) d := by
  rw [deleteIds]
  split
  case isTrue hempty =>
    obtain rfl := List.isEmpty_iff.1 hempty
    exact ensures_pure fun t ht => ⟨⟨0, rfl⟩, targets_of_invalidates h ht⟩
  case isFalse =>
    intro t ht
    have htargets := targets_of_invalidates h ht
    have hpast := htargets.invalidates
    have hserve := serve_sessions (f := f) (hpast.reach hreach).sessions (.call (.delete ids))
    have hdeletes : Invalidates events start.sessions t
        (serve f (.sessions (.call (.delete ids))) t).2 :=
      .ask (hpast.reach hreach) (.delete (hpast.sessions.paired hpaired) fun id hid =>
        ⟨user, hdeleted, hpast.clock ▸ h.owned id hid⟩)
    refine ⟨hdeletes, fun u hu => ⟨⟨(t.sessions.delete t.clock.elapsed ids).1, ?answer⟩,
      (hpast.trans hdeletes).trans hu, fun id hid => ?owned, fun id howns => ?none⟩⟩
    case answer => exact congrArg Prod.fst hserve
    case owned => exact absurd hid List.not_mem_nil
    case none =>
      -- what is left was listed, and what was listed is deleted
      have hid := htargets.left id (hdeletes.owns (hu.owns howns))
      obtain ⟨session, hlive, -⟩ := hu.owns howns
      rw [hserve] at hlive
      cases (SessionStore.session?_delete_of_mem t.clock.elapsed t.sessions hid).symm.trans hlive

theorem ensures_sweepUser (h : Targets events start user [] d) :
    (sessions (SessionStore.call (.sweepUser user))).run.Ensures (serve f)
      (Invalidates events start.sessions) (fun _ => Targets events start user []) d := by
  intro t ht
  have htargets := targets_of_invalidates h ht
  have hsweeps : Invalidates events start.sessions t
      (serve f (.sessions (.call (.sweepUser user))) t).2 :=
    .ask (htargets.invalidates.reach hreach) (.sweepUser _ _)
  exact ⟨hsweeps, fun u hu => targets_of_invalidates htargets (hsweeps.trans hu)⟩

include hs hpaired hdeleted in
/-- The deletion of all sessions of a user leaves none, whatever happens between its calls. -/
theorem ensures_deleteAll (h : Invalidates events start.sessions start d) :
    (deleteAll user).run.Ensures (serve f) (Invalidates events start.sessions)
      (fun _ t => ∀ id, ¬ t.sessions.Owns t.clock.elapsed user id) d := by
  refine ensures_bind (ensures_ofUser hreach hs h) (fun found t hlisted => ?_)
    fun _ _ ⟨_, herror, _⟩ => nomatch herror
  obtain ⟨_, ⟨⟩, htargets⟩ := hlisted t (.refl t)
  refine ensures_bind (ensures_deleteIds hreach hpaired hdeleted htargets)
    (fun removed t hremoved => ?_) fun _ _ ⟨⟨_, herror⟩, _⟩ => nomatch herror
  refine ensures_bind (ensures_sweepUser hreach (hremoved t (.refl t)).2) (fun _ t hswept => ?_)
    fun _ _ hnone id howns => nomatch hnone.left id howns
  exact ensures_pure fun u hu id howns => nomatch (hswept u hu).left id howns

end Sessions

/-! ### Any handler -/

/-- **Handlers do not get in each other's way.**  A handler of a published event achieves what is
its to do, whatever others do in between, and does nothing that no event calls for. -/
theorem Invalidator.ensures_handle (hreach : start.HandlersReach)
    (hs : Listable start.clock.elapsed start.sessions) (hpaired : Paired start.sessions)
    {i : Invalidator} {e : Event} (he : e ∈ events) (hi : i ∈ registry.handlers e.kind)
    (h : Invalidates events start.sessions start d) :
    (i.handle e).run.Ensures (serve f) (Invalidates events start.sessions)
      (fun _ => i.Achieves e) d := by
  -- a handler that clears the entry of the subject does all that there is to do
  have hclear : ∀ subject, e.subject? = some subject → i ≠ .sessions →
      subject.clear.run.Ensures (serve f) (Invalidates events start.sessions)
        (fun _ => i.Achieves e) d := by
    intro subject hsubject hne
    refine subject.ensures_clear (h.reach hreach) (List.mem_filterMap.2 ⟨e, he, hsubject⟩) ?_
    intro d hnone
    cases i with
    | sessions => exact absurd rfl hne
    | userFacts | rolePermissions =>
      exact fun subject' hsubject' => Option.some.inj (hsubject.symm.trans hsubject') ▸ hnone
  cases e with
  | userChanged user =>
    obtain rfl := List.mem_singleton.1 hi
    exact hclear (.user user) rfl nofun
  | userDeleted user =>
    rcases List.mem_cons.1 hi with rfl | hi
    · exact hclear (.user user) rfl nofun
    · obtain rfl := List.mem_singleton.1 hi
      exact ensures_bind (Sessions.ensures_deleteAll hreach hs hpaired he h)
        (fun _ _ hnone => hnone) fun _ _ hnone => hnone
  | roleChanged name =>
    obtain rfl := List.mem_singleton.1 hi
    rw [handle]
    cases hrole : Role.ofText? name with
    | none =>
      -- the name is that of no role
      intro t _ subject hsubject
      rw [Event.subject?, hrole] at hsubject
      cases hsubject
    | some role => exact hclear (.role role) (congrArg (Option.map Subject.role) hrole) nofun

end Handlers

/-! ## All handlers -/

namespace Deployment

/-- Handlers at work side by side, each on its event. -/
def handling (f : Supply) : Program.System Environment.interface (Invalidator × Event)
    (Except Error Unit) Deployment :=
  Program.sharing (serve f) fun task => (task.1.handle task.2).run

/-- A process after events: nothing is cached of their subjects, no sessions are left of users who
were deleted, and for the rest the same is read as before. -/
structure Invalidated (events : List Event) (d d' : Deployment) : Prop where
  clock : d'.clock = d.clock
  entry : ∀ subject : Subject, d'.cache.entries.get? subject.key =
    if subject ∈ events.filterMap Event.subject? then none
    else d.cache.entries.get? subject.key
  others : ∀ key, (∀ subject : Subject, subject.key ≠ key) →
    d'.cache.entries.get? key = d.cache.entries.get? key
  get : ∀ id, (d'.sessions.get d'.clock.elapsed id).1 =
    (d.sessions.get d.clock.elapsed id).1.filter fun session =>
      .userDeleted session.userId ∉ events
  listByUser : ∀ user, (d'.sessions.listByUser d'.clock.elapsed user).1 =
    if .userDeleted user ∈ events then []
    else (d.sessions.listByUser d.clock.elapsed user).1
  hasJti : ∀ jti, d'.sessions.hasJti d'.clock.elapsed jti = true ↔
    ∃ id, d.sessions.pointer? d.clock.elapsed jti = some id ∧
      ∀ user, .userDeleted user ∈ events → ¬ d.sessions.Owns d.clock.elapsed user id

/-- Where every handler has achieved what is its to do, nothing is left to do. -/
theorem Invalidates.invalidated {events : List Event} {d d' : Deployment}
    (h : Invalidates events d.sessions d d') (hs : Listable d.clock.elapsed d.sessions)
    (hall : ∀ e ∈ events, ∀ i ∈ Invalidator.registry.handlers e.kind, i.Achieves e d') :
    Invalidated events d d' := by
  have hgone : ∀ user, .userDeleted user ∈ events → ∀ id,
      ¬ d'.sessions.Owns d.clock.elapsed user id := fun user hdeleted =>
    h.clock ▸ hall _ hdeleted .sessions (List.mem_cons_of_mem _ (List.mem_singleton_self _))
  have hcleared : ∀ subject ∈ events.filterMap Event.subject?,
      d'.cache.entries.get? subject.key = none := by
    intro subject hsubject
    obtain ⟨e, he, hsubject⟩ := List.mem_filterMap.1 hsubject
    cases e with
    | userChanged | userDeleted => exact hall _ he .userFacts (List.mem_cons_self ..) _ hsubject
    | roleChanged => exact hall _ he .rolePermissions (List.mem_cons_self ..) _ hsubject
  constructor
  case clock => exact h.clock
  case entry =>
    intro subject
    split
    case isTrue hsubject => exact hcleared subject hsubject
    case isFalse hsubject =>
      refine (h.cache subject.key).resolve_right ?_
      rintro ⟨⟨subject', hsubject', hkey⟩, -⟩
      exact hsubject (Subject.key_injective hkey ▸ hsubject')
  case others =>
    intro key hkey
    refine (h.cache key).resolve_right ?_
    rintro ⟨⟨subject, -, heq⟩, -⟩
    exact hkey subject heq
  case get =>
    intro id
    rw [h.clock]
    refine Option.ext fun session => ?_
    rw [Option.filter_eq_some_iff, decide_eq_true_eq]
    exact h.sessions.session?_iff hgone
  case listByUser =>
    intro user
    rw [h.clock]
    exact h.sessions.listByUser_eq hgone hs user
  case hasJti =>
    intro jti
    rw [h.clock]
    exact h.sessions.hasJti_iff hgone

/-- **Events are handled in any order.**  In a process whose sessions went through any run that uses
no id twice, let the handlers of any events work side by side, each at least once on each of its
events.  However their calls are interleaved, the process that they leave is read in the same way:
nothing is cached of users and roles that were named, no user has a session left who was deleted, and
all else is as it was. -/
theorem invalidated_in_any_order {moves : List SessionStore.Move}
    (hids : (sessionIds moves).Nodup) (hjtis : (tokenIds moves).Nodup) {f : Supply}
    {d : Deployment} (hreach : d.HandlersReach) (hstore : d.sessions = (after moves).store)
    (hclock : d.clock.elapsed = (after moves).now) {events : List Event}
    {w : Program.World Environment.interface (Invalidator × Event) (Except Error Unit) Deployment}
    (h : (handling f).Reachable d w)
    (htasks : ∀ task, task ∈ w.calls.map (·.1) ↔ task ∈ events.flatMap Event.tasks)
    (hdone : ∀ call ∈ w.calls, ∃ r, call.2 = .done r) : Invalidated events d w.env := by
  have hs : Listable d.clock.elapsed d.sessions := by
    rw [hstore, hclock]
    exact ⟨SessionStore.indexed_after hids, _, _, SessionStore.mentions_after moves⟩
  have hpaired : Paired d.sessions := hstore ▸ SessionStore.paired_after hids hjtis
  obtain ⟨hinvalidates, hensures⟩ : Invalidates events d.sessions d w.env ∧
      ∀ {n : Nat} {task : Invalidator × Event} {p : Program Environment.interface _},
        w.calls[n]? = some (task, p) → p.Ensures (serve f) (Invalidates events d.sessions)
          (fun _ => task.1.Achieves task.2) w.env := by
    refine h.ensures fun {n task} hn t ht => ?_
    obtain ⟨call, hcall, rfl⟩ := Option.map_eq_some_iff.1 hn
    obtain ⟨e, he, htask⟩ := List.mem_flatMap.1
      ((htasks _).1 (List.mem_map_of_mem (List.mem_of_getElem? hcall)))
    obtain ⟨i, hi, heq⟩ := List.mem_map.1 htask
    rw [← heq]
    exact i.ensures_handle hreach hs hpaired he hi ht
  refine hinvalidates.invalidated hs fun e he i hi => ?_
  obtain ⟨⟨task, p⟩, hcall, rfl⟩ := List.mem_map.1
    ((htasks (i, e)).2 (List.mem_flatMap.2 ⟨e, he, List.mem_map.2 ⟨i, hi, rfl⟩⟩))
  obtain ⟨r, rfl⟩ := hdone _ hcall
  obtain ⟨n, hn⟩ := List.mem_iff_getElem?.1 hcall
  exact hensures hn w.env (.refl _)

/-! ### Two deletions at once -/

/-- What is published: a user is deleted, and the permissions of a role change. -/
def published : List Event := [.userDeleted .nil, .roleChanged "admin"]

/-- A process with a session of the user. -/
def inhabited : Deployment :=
  { Deployment.start (.ofSeconds 0) ⟨2⟩ with
    sessions := (after (SessionStore.opening .nil)).store
    cache := ⟨.ofList [(Keys.userFacts (Uuid.toText .nil), ⟨"{}", 1⟩),
      (Keys.rolePermissions "client", ⟨"[]", 1⟩)]⟩ }

/-- The handlers of the events, of which the one that deletes the sessions is at work twice. -/
def working : List (Invalidator × Event) :=
  [(.sessions, .userDeleted .nil), (.sessions, .userDeleted .nil), (.userFacts, .userDeleted .nil),
    (.rolePermissions, .roleChanged "admin")]

/-- Both deletions have listed the session before one of them deletes it. -/
def contested : Program.World Environment.interface (Invalidator × Event) (Except Error Unit)
    Deployment :=
  [0, 1, 2, 0, 1, 3, 1, 0].foldl (Program.System.turn (serve counting))
    ((handling counting).arrived inhabited working)

/-- The session is gone in the end. -/
theorem invalidated_in_any_order_contested :
    (handling counting).Reachable inhabited contested ∧
      Invalidated published inhabited contested.env ∧
        (∃ session, (inhabited.sessions.get inhabited.clock.elapsed "s").1 = some session ∧
          session.userId = .nil) ∧
        (contested.env.sessions.get contested.env.clock.elapsed "s").1 = none := by
  have hreach : (handling counting).Reachable inhabited contested :=
    Program.System.reachable_turns (fun _ _ => rfl) (Program.System.reachable_arrived _ _) _
  have hcalls : contested.calls = working.map (·, .done (.ok ())) := rfl
  have hrequests : contested.calls.map (·.1) = working := by
    rw [hcalls, List.map_map]
    exact List.map_id _
  have htasks : ∀ task, task ∈ contested.calls.map (·.1) ↔
      task ∈ published.flatMap Event.tasks := by
    have hworks : ∀ task ∈ working, task ∈ published.flatMap Event.tasks := by decide
    have hworked : ∀ task ∈ published.flatMap Event.tasks, task ∈ working := by decide
    rw [hrequests]
    exact fun task => ⟨hworks task, hworked task⟩
  have hdone : ∀ call ∈ contested.calls, ∃ r, call.2 = .done r := by
    intro call hcall
    rw [hcalls] at hcall
    obtain ⟨task, -, rfl⟩ := List.mem_map.1 hcall
    exact ⟨.ok (), rfl⟩
  have h := invalidated_in_any_order (by decide) (by decide)
    ⟨rfl, by decide⟩ rfl rfl hreach htasks hdone
  exact ⟨hreach, h, ⟨_, rfl, rfl⟩, h.get "s"⟩

end Deployment
end SessionAuth
