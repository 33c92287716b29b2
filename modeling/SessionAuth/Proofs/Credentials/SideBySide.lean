import SessionAuth.Proofs.Credentials.Promises
import SessionAuth.Proofs.Program.Concurrent
import SessionAuth.Proofs.Session.Index
import SessionAuth.Proofs.User.Repository
import SessionAuth.Time.Clock

/-!
# Logins and changes side by side

Logins and changes of accounts run side by side over one repository of users and one session store,
each of which may be out of reach at any time (`Credentials.system`).  What is known of the backend
is tied to the log of all exchanges, in three parts that do not depend on each other:

* `Ids`: no id was given out twice;
* `Accounts`: what was told of an account that can be used is so, or was superseded since;
* `Openings`: a session that was opened and is live was in all lists of its owner's sessions since,
  and was in no deletion.

Each has a lemma `turn` for one exchange, and `sound_of_reachable` puts them together.
-/

set_option autoImplicit false

namespace SessionAuth

open Environment Fallible

namespace Credentials

/-! ## Logins and changes side by side -/

/-- What logins and changes talk to, as far as it matters for accounts and sessions. -/
structure Backend where
  clock : Clock
  users : UserTable
  sessions : SessionStore
  /-- The ids that were given out. -/
  ids : List String

/-- A question that the backend does not answer. -/
def IsForeign : Question → Prop
  | .now => False
  | .newId => False
  | .sessions _ => False
  | .users _ => False
  | _ => True

/-- How questions are answered: no id is given out twice, repository and session store may be out of
reach at any time, and what is asked of permissions, the cache and others may be answered in any
way. -/
inductive Backend.Responds (b : Backend) : Exchange Environment.interface → Backend → Prop
  | now : Responds b ⟨.now, b.clock.wall⟩ b
  | newId {id : String} (hnew : id ∉ b.ids) :
      Responds b ⟨.newId, id⟩ { b with ids := id :: b.ids }
  | sessions (q : SessionStore.Question) :
      Responds b ⟨.sessions q, (SessionStore.answer b.clock.elapsed q b.sessions).1⟩
        { b with sessions := (SessionStore.answer b.clock.elapsed q b.sessions).2 }
  | users (c : UserRepository.Call) :
      Responds b ⟨.users c, (UserTable.answer b.clock.wall c b.users).1⟩
        { b with users := (UserTable.answer b.clock.wall c b.users).2 }
  | sessionsFail (q : SessionStore.Question) (e : Error) : Responds b ⟨.sessions q, .error e⟩ b
  | usersFail (c : UserRepository.Call) (e : Error) : Responds b ⟨.users c, .error e⟩ b
  | foreign {x : Exchange Environment.interface} (h : IsForeign x.question) : Responds b x b

/-- Time passes.  The wall clock may be set to any time. -/
inductive Backend.Passes (b : Backend) : Backend → Prop
  | advance {clock : Clock} (h : b.clock.elapsed ≤ clock.elapsed) :
      Passes b { b with clock := clock }

/-- Logins and changes, any number of them, whose questions are answered in any order. -/
def system (s : Setup) :
    Program.System Environment.interface Request (Except Error Unit) Backend where
  body r := (r.useCase s).run
  Responds := Backend.Responds
  Passes := Backend.Passes

/-- Logins and changes that are under way or done. -/
abbrev World : Type := Program.World Environment.interface Request (Except Error Unit) Backend

/-- The exchanges of logins and changes, each with the number of its request. -/
abbrev Log : Type := List (Nat × Exchange Environment.interface)

/-! ## Ids -/

/-- Ids are given out once, and only new ones. -/
structure Ids (start b : Backend) (log : Log) : Prop where
  kept : start.ids ⊆ b.ids
  given : ∀ {i id}, (i, ⟨.newId, id⟩) ∈ log → id ∈ b.ids
  fresh : ∀ {i id}, (i, ⟨.newId, id⟩) ∈ log → id ∉ start.ids
  once : ∀ {i j id}, (i, ⟨.newId, id⟩) ∈ log → (j, ⟨.newId, id⟩) ∈ log → i = j

theorem Ids.turn {start b b' : Backend} {log : Log} {x : Exchange Environment.interface}
    (h : Ids start b log) (hresponds : b.Responds x b') (i : Nat) :
    Ids start b' (log ++ [(i, x)]) := by
  have hids : b.ids ⊆ b'.ids := by
    cases hresponds with
    | newId => exact List.subset_cons_self ..
    | _ => exact List.Subset.refl _
  have hnew : ∀ {id}, x = ⟨.newId, id⟩ → id ∈ b'.ids ∧ id ∉ b.ids := by
    rintro id rfl
    cases hresponds with
    | newId hnew => exact ⟨List.mem_cons_self .., hnew⟩
    | foreign h => exact h.elim
  have hsplit : ∀ {j y}, (j, y) ∈ log ++ [(i, x)] → (j, y) ∈ log ∨ j = i ∧ x = y :=
    fun hmem => (List.mem_append.1 hmem).imp_right fun h =>
      (Prod.mk.inj (List.mem_singleton.1 h)).imp_right Eq.symm
  constructor
  case kept => exact fun _ hid => hids (h.kept hid)
  case given =>
    intro j id hmem
    rcases hsplit hmem with hmem | ⟨-, hx⟩
    · exact hids (h.given hmem)
    · exact (hnew hx).1
  case fresh =>
    intro j id hmem
    rcases hsplit hmem with hmem | ⟨-, hx⟩
    · exact h.fresh hmem
    · exact fun hstart => (hnew hx).2 (h.kept hstart)
  case once =>
    intro j k id hj hk
    rcases hsplit hj with hold | ⟨hji, hx⟩ <;> rcases hsplit hk with hold' | ⟨hki, hx'⟩
    · exact h.once hold hold'
    · exact absurd (h.given hold) (hnew hx').2
    · exact absurd (h.given hold') (hnew hx).2
    · exact hji.trans hki.symm

/-! ## Accounts -/

/-- What was told of an account that can be used stays so until it is superseded. -/
theorem supersedes_or_isCurrent {t : UserTable} {now : Timestamp} {c : UserRepository.Call}
    {request : Request} {said : Talk} (hask : MayAsk request said (.users c)) {u : User}
    (hactive : u.status = .active) (h : t.IsCurrent u) :
    Supersedes ⟨.users c, (UserTable.answer now c t).1⟩ u.id ∨
      (UserTable.answer now c t).2.IsCurrent u := by
  have hthere : (t.users.get? u.id).isSome = true := by
    obtain ⟨v, hv, -⟩ := h
    rw [hv, Option.isSome_some]
  cases c with
  | findById | findByEmail | list => exact .inr h
  | setRole id role => exact .inr (h.update fun _ v hhash hstatus => ⟨hhash, hstatus⟩)
  | setPassword id hash =>
    by_cases hid : id = u.id
    · subst hid
      have hanswer : (UserTable.answer now (.setPassword u.id hash) t).1 = .ok true :=
        congrArg Except.ok hthere
      exact .inl (hanswer ▸ .setPassword)
    · exact .inr (h.update fun heq => absurd heq hid)
  | setStatus id status =>
    by_cases hid : id = u.id
    · subst hid
      have hanswer : (UserTable.answer now (.setStatus u.id status) t).1 = .ok true :=
        congrArg Except.ok hthere
      cases hout : status.canAuthenticate with
      | false => exact .inl (hanswer ▸ .setStatus hout)
      | true =>
        have hstatus : status = .active := by simpa [Status.canAuthenticate] using hout
        exact .inr (h.update fun _ v hhash _ => ⟨hhash, hstatus.trans hactive.symm⟩)
    · exact .inr (h.update fun heq => absurd heq hid)
  | create | delete =>
    cases hask with
    | harmless h => exact h.elim

/-- What was told of an account that can be used is so, or was superseded since. -/
structure Accounts (t : UserTable) (log : Log) : Prop where
  keyed : t.Keyed
  told : ∀ {past rest : Log} {i : Nat} {email : String} {u : User},
    log = past ++ (i, ⟨.users (.findByEmail email), .ok (some u)⟩) :: rest → u.status = .active →
      (∃ y ∈ rest, Supersedes y.2 u.id) ∨ t.IsCurrent u

theorem Accounts.turn {b b' : Backend} {log : Log} {x : Exchange Environment.interface}
    (h : Accounts b.users log) (hresponds : b.Responds x b') {request : Request} {said : Talk}
    (hask : MayAsk request said x.question) (i : Nat) : Accounts b'.users (log ++ [(i, x)]) where
  keyed := by
    cases hresponds with
    | users c => exact h.keyed.answer c
    | _ => exact h.keyed
  told := by
    intro past rest j email u hlog hactive
    rcases concat_eq_append_cons hlog with ⟨-, heq⟩ | ⟨rest', hplace, rfl⟩
    · obtain ⟨rfl, rfl⟩ := Prod.mk.inj heq
      generalize ha : (Except.ok (some u) : Except Error (Option User)) = a at hresponds
      cases hresponds with
      | users => exact .inr (h.keyed.isCurrent_of_find (Except.ok.inj ha).symm)
      | usersFail => cases ha
      | foreign hforeign => exact hforeign.elim
    · have hkept : b.users.IsCurrent u → Supersedes x u.id ∨ b'.users.IsCurrent u := by
        intro hcurrent
        cases hresponds with
        | users c => exact supersedes_or_isCurrent hask hactive hcurrent
        | _ => exact .inr hcurrent
      exact exists_mem_concat_or (h.told hplace hactive) hkept

/-! ## Sessions -/

/-- The id of the session that an exchange opened. -/
def opened? (e : Nat × Exchange Environment.interface) : Option String :=
  match e.2 with
  | ⟨.sessions (.call (.create session _)), .ok _⟩ => some session.id
  | _ => none

/-- The ids of the sessions that were opened. -/
def openedIds (log : Log) : List String := log.filterMap opened?

theorem mem_openedIds {log : Log} {id : String} : id ∈ openedIds log ↔ ∃ i session ttls,
    (i, ⟨.sessions (.call (.create session ttls)), .ok ()⟩) ∈ log ∧ session.id = id := by
  simp only [openedIds, List.mem_filterMap]
  constructor
  · rintro ⟨⟨i, q, a⟩, hmem, hopened⟩
    simp only [opened?] at hopened
    split at hopened
    · rename_i session ttls u heq
      cases heq
      exact ⟨i, session, ttls, hmem, Option.some.inj hopened⟩
    · cases hopened
  · rintro ⟨i, session, ttls, hmem, rfl⟩
    exact ⟨_, hmem, rfl⟩

/-- Whether an exchange leaves a session in place: it does not delete it, and does not miss it in
the list of its owner's. -/
structure Spares (session : Session) (x : Exchange Environment.interface) : Prop where
  delete : ∀ {ids count}, x = ⟨.sessions (.call (.delete ids)), .ok count⟩ → session.id ∉ ids
  list : ∀ {listed}, x = ⟨.sessions (.call (.listByUser session.userId)), .ok listed⟩ →
    ∃ t ∈ listed, t.id = session.id

theorem Spares.of_create (session opened : Session) (ttls : Ttls) (r : Except Error Unit) :
    Spares session ⟨.sessions (.call (.create opened ttls)), r⟩ := by
  constructor
  · rintro _ _ ⟨⟩
  · rintro _ ⟨⟩

/-- A session that was opened and is live was spared ever since. -/
structure Openings (ids : List String) (now : Nat) (store : SessionStore) (log : Log) : Prop where
  indexed : SessionStore.Indexed now store
  mentions : ∃ jtis, SessionStore.Mentions (ids ++ openedIds log) jtis store
  alive : ∀ {past rest : Log} {i : Nat} {session t : Session} {ttls : Ttls},
    log = past ++ (i, ⟨.sessions (.call (.create session ttls)), .ok ()⟩) :: rest →
      store.session? now session.id = some t →
        t.userId = session.userId ∧ ∀ y ∈ rest, Spares session y.2

namespace Openings

open SessionStore

variable {ids : List String} {now later i : Nat} {store store' : SessionStore} {log : Log}
  {x : Exchange Environment.interface}

theorem mono (h : Openings ids now store log) (hle : now ≤ later) :
    Openings ids later store log where
  indexed := h.indexed.mono hle
  mentions := h.mentions
  alive hlog ht := by
    obtain ⟨e, he, hlive, rfl⟩ := session?_eq_some_iff.1 ht
    exact h.alive hlog (session?_eq_some_iff.2 ⟨e, he, Nat.lt_of_le_of_lt hle hlive, rfl⟩)

/-- A session that is live is the one that was opened under its id. -/
theorem id_eq (h : Openings ids now store log) {id : String} {t : Session}
    (ht : store.session? now id = some t) : t.id = id := by
  obtain ⟨jtis, hmentions⟩ := h.mentions
  obtain ⟨e, he, -, rfl⟩ := session?_eq_some_iff.1 ht
  exact (hmentions.session he).2.1

/-- Nothing is opened, and what is left was spared. -/
theorem turn_of_prunes (h : Openings ids now store log) (hp : Prunes now store store')
    (hnone : ∀ session ttls,
      x ≠ ⟨.sessions (.call (.create session ttls)), .ok ()⟩)
    (hspares : ∀ {session t : Session}, store.session? now session.id = some t →
      store'.session? now session.id = some t → t.userId = session.userId → Spares session x) :
    Openings ids now store' (log ++ [(i, x)]) where
  indexed := hp.induction (fun hp h => h.prune hp) h.indexed
  mentions := by
    obtain ⟨jtis, hmentions⟩ := h.mentions
    have hids : openedIds (log ++ [(i, x)]) = openedIds log ++ openedIds [(i, x)] :=
      List.filterMap_append
    refine ⟨jtis, hp.induction (fun hp h => h.prune hp) (hmentions.mono ?_ (List.Subset.refl _))⟩
    rw [hids, ← List.append_assoc]
    exact List.subset_append_left ..
  alive := by
    intro past rest j session t ttls hlog ht
    rcases concat_eq_append_cons hlog with ⟨-, heq⟩ | ⟨rest', hplace, rfl⟩
    · exact absurd (Prod.mk.inj heq).2 (hnone session ttls)
    obtain ⟨e, he, hlive, rfl⟩ := session?_eq_some_iff.1 ht
    have hold := session?_eq_some_iff.2 ⟨e, hp.sessions_get? he, hlive, rfl⟩
    obtain ⟨huser, hrest⟩ := h.alive hplace hold
    exact ⟨huser, List.forall_mem_append.2
      ⟨hrest, List.forall_mem_singleton.2 (hspares hold ht huser)⟩⟩

/-- A session is opened under an id that was not used before. -/
theorem turn_of_opened (h : Openings ids now store log) {session : Session} {ttls : Ttls}
    (hfresh : session.id ∉ ids ++ openedIds log) :
    Openings ids now (opened now store session ttls)
      (log ++ [(i, ⟨.sessions (.call (.create session ttls)), .ok ()⟩)]) where
  indexed := by
    obtain ⟨jtis, hmentions⟩ := h.mentions
    exact h.indexed.opened ttls fun hx hmem => hfresh (hmentions.index hx hmem)
  mentions := by
    obtain ⟨jtis, hmentions⟩ := h.mentions
    have hids : ids ++ openedIds (log ++ [(i, ⟨.sessions (.call (.create session ttls)), .ok ()⟩)])
        = (ids ++ openedIds log) ++ [session.id] := by
      simp [openedIds, opened?]
    refine ⟨session.currentJti :: jtis, ?_⟩
    rw [hids]
    have hmore := hmentions.mono (List.subset_append_left _ [session.id])
      (List.subset_cons_self session.currentJti jtis)
    refine hmore.opened ttls ?_ ?_
    · exact List.mem_append_right _ (List.mem_singleton_self _)
    · exact List.mem_cons_self ..
  alive := by
    intro past rest j session' t ttls' hlog ht
    obtain ⟨e, he, hlive, rfl⟩ := session?_eq_some_iff.1 ht
    rw [sessions_opened, Table.get?_set_eq_some_iff] at he
    rcases concat_eq_append_cons hlog with ⟨rfl, heq⟩ | ⟨rest', hplace, rfl⟩
    · cases heq
      obtain rfl : rest = [] := by simpa using hlog
      rcases he with ⟨-, rfl⟩ | ⟨hne, -⟩
      · exact ⟨rfl, List.forall_mem_nil _⟩
      · exact absurd rfl hne
    · rcases he with ⟨hid, -⟩ | ⟨-, he⟩
      · refine absurd (List.mem_append_right _ ?_) hfresh
        refine mem_openedIds.2 ⟨j, session', ttls', ?_, hid⟩
        rw [hplace]
        simp
      · obtain ⟨huser, hrest⟩ := h.alive hplace (session?_eq_some_iff.2 ⟨e, he, hlive, rfl⟩)
        exact ⟨huser, List.forall_mem_append.2
          ⟨hrest, List.forall_mem_singleton.2 (.of_create ..)⟩⟩

/-- A question to the store that opens no session and carries none on. -/
theorem turn_of_harmless (h : Openings ids now store log) {q : SessionStore.Question}
    (hq : IsHarmless (.sessions q)) :
    Openings ids now (SessionStore.answer now q store).2
      (log ++ [(i, ⟨.sessions q, (SessionStore.answer now q store).1⟩)]) := by
  have hcreate : ∀ session ttls, q ≠ .call (.create session ttls) := by
    rintro session ttls rfl
    exact hq
  have hrotate : ∀ r, q ≠ .call (.rotate r) := by
    rintro r rfl
    exact hq
  refine h.turn_of_prunes (prunes_answer now store hcreate hrotate) ?_ ?_
  · intro session ttls hx
    exact hcreate session ttls (Question.sessions.inj (congrArg Exchange.question hx))
  intro session t ht ht' huser
  constructor
  case delete =>
    intro deleted count hx hid
    obtain rfl : q = .call (.delete deleted) :=
      Question.sessions.inj (congrArg Exchange.question hx)
    cases (session?_delete_of_mem now store hid).symm.trans ht'
  case list =>
    intro listed hx
    obtain rfl : q = .call (.listByUser session.userId) :=
      Question.sessions.inj (congrArg Exchange.question hx)
    obtain rfl : (store.listByUser now session.userId).1 = listed :=
      Except.ok.inj (eq_of_heq (Exchange.mk.inj hx).2)
    exact ⟨t, (mem_listByUser h.indexed).2 ⟨_, ht, huser⟩, h.id_eq ht⟩

/-- Any answer keeps it, if what is opened is opened under a new id. -/
theorem turn {b b' : Backend} (h : Openings ids b.clock.elapsed b.sessions log)
    (hresponds : b.Responds x b') {request : Request} {said : Talk}
    (hask : MayAsk request said x.question)
    (hfresh : ∀ session ttls, x.question = .sessions (.call (.create session ttls)) →
      session.id ∉ ids ++ openedIds log) (i : Nat) :
    Openings ids b'.clock.elapsed b'.sessions (log ++ [(i, x)]) := by
  have helsewhere : (∀ q, x.question ≠ .sessions q) →
      Openings ids b.clock.elapsed b.sessions (log ++ [(i, x)]) := by
    intro hx
    refine h.turn_of_prunes .refl ?_ fun _ _ _ => ⟨?_, ?_⟩
    · rintro session ttls rfl
      exact hx _ rfl
    · rintro ids count rfl
      exact absurd rfl (hx _)
    · rintro listed rfl
      exact absurd rfl (hx _)
  cases hresponds with
  | now | newId | users | usersFail =>
    refine helsewhere ?_
    rintro _ ⟨⟩
  | sessionsFail q e =>
    refine h.turn_of_prunes .refl ?_ fun _ _ _ => ⟨?_, ?_⟩
    · rintro _ _ ⟨⟩
    · rintro _ _ ⟨⟩
    · rintro _ ⟨⟩
  | foreign hforeign => exact helsewhere fun q hq => by rw [hq] at hforeign; exact hforeign
  | sessions q =>
    replace hask : MayAsk request said (.sessions q) := hask
    cases hask with
    | harmless hharmless => exact h.turn_of_harmless hharmless
    | @create _ _ _ session ttls =>
      have hid := hfresh session ttls rfl
      dsimp only
      rw [answer_create]
      split
      · exact h.turn_of_opened hid
      · -- a session without a lifetime is refused
        refine h.turn_of_prunes .refl ?_ fun _ _ _ => .of_create ..
        rintro _ _ ⟨⟩

end Openings

/-! ## Runs -/

section Runs

variable {s : Setup} {start : Backend} {w : World}

/-- The requests of a world kept to their contracts. -/
theorem kept_of_reachable (h : (system s).Reachable start w) :
    Program.System.Kept MayAsk MayEnd w :=
  Program.System.Reachable.kept h fun r => keeps_run.2 r.keeps

/-- No session is opened under an id that is in use. -/
theorem not_mem_openedIds (hkept : Program.System.Kept MayAsk MayEnd w)
    (hids : Ids start w.env w.log) {i : Nat} {request : Request} {session : Session} {ttls : Ttls}
    (hask : MayAsk request (Program.transcript i w.log)
      (.sessions (.call (.create session ttls)))) :
    session.id ∉ start.ids ++ openedIds w.log := by
  cases hask with
  | harmless h => exact h.elim
  | create _ _ hnew hfirst =>
    have hnew := Program.mem_transcript.1 hnew
    intro hmem
    rcases List.mem_append.1 hmem with hstart | hopened
    · exact hids.fresh hnew hstart
    -- the request that opened the session had been given the id as well, so that it is this one
    obtain ⟨j, session', ttls', hmem, hid⟩ := mem_openedIds.1 hopened
    obtain ⟨past, rest, hlog⟩ := List.append_of_mem hmem
    obtain ⟨_, -, hask⟩ := hkept.asked hlog
    cases hask with
    | harmless h => exact h.elim
    | create _ _ hnew' =>
      have hnew' : (j, ⟨.newId, session'.id⟩) ∈ w.log := by
        rw [hlog]
        exact List.mem_append_left _ (Program.mem_transcript.1 hnew')
      obtain rfl := hids.once hnew (hid ▸ hnew')
      exact hfirst _ (Program.mem_transcript.2 hmem)

/-- What a backend has to be like at the start: each account is under its own id, and the session
store is one that may have come from a run. -/
structure Backend.Orderly (b : Backend) : Prop where
  keyed : b.users.Keyed
  indexed : SessionStore.Indexed b.clock.elapsed b.sessions
  mentions : ∃ jtis, SessionStore.Mentions b.ids jtis b.sessions

/-- What is known of a backend and the log of all that happened to it since the start. -/
structure Sound (start b : Backend) (log : Log) : Prop where
  ids : Ids start b log
  accounts : Accounts b.users log
  openings : Openings start.ids b.clock.elapsed b.sessions log

theorem sound_of_reachable (hstart : start.Orderly) (h : (system s).Reachable start w) :
    Sound start w.env w.log := by
  induction h with
  | refl =>
    have hnone : ∀ {past rest : Log} {e}, [] ≠ past ++ e :: rest := by simp
    refine ⟨⟨List.Subset.refl _, nofun, nofun, nofun⟩, ⟨hstart.keyed, fun hlog => ?_⟩,
      ⟨hstart.indexed, ?_, fun hlog => ?_⟩⟩
    · exact absurd hlog hnone
    · simpa [Program.World.start, openedIds] using hstart.mentions
    · exact absurd hlog hnone
  | @tail w w' hsteps hstep ih =>
    cases hstep with
    | arrive => exact ih
    | pass hpasses =>
      obtain ⟨hle⟩ := hpasses
      exact ⟨⟨ih.ids.kept, ih.ids.given, ih.ids.fresh, ih.ids.once⟩, ih.accounts,
        ih.openings.mono hle⟩
    | @turn i request q next a env hcall hresponds =>
      have hkept := kept_of_reachable hsteps
      have hask := (hkept.calls hcall).1
      refine ⟨ih.ids.turn hresponds i, ih.accounts.turn hresponds hask i,
        ih.openings.turn hresponds hask ?_ i⟩
      rintro session ttls rfl
      exact not_mem_openedIds hkept ih.ids hask

end Runs

end Credentials
end SessionAuth
