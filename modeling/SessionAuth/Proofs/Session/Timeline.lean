import Mathlib.Data.List.Induction
import Mathlib.Logic.Relation
import SessionAuth.Session.Store

/-!
# What can happen to a session store

A store is asked questions one after the other while time passes between them.  `Move` lists what
can happen to it, a `Moment` is a store with the time on its clock, and `after moves` is the moment
after a run from the empty store.

All invariants of the store rest on one statement about a single question, `effect_answer`: whatever
is asked, the store either only loses entries (`Prunes`), or a session was opened, or a session was
carried on under a new refresh token.  Losing entries is broken down further into the four ways of
`Prune`.  `Moment.step_induction` puts this together: what is true of a store is true after any move
if it survives the loss of one entry, a new session, and a session that is carried on.
-/

set_option autoImplicit false

namespace SessionAuth
namespace SessionStore

/-! ## Runs -/

/-- What happens to a store: a question is answered, the size of an index is read, or time
passes. -/
inductive Move where
  | ask (q : Question)
  | indexSize (user : UserId)
  /-- So many nanoseconds pass. -/
  | pass (nanos : Nat)

/-- A store and the time on the clock of its deadlines. -/
structure Moment where
  now : Nat
  store : SessionStore

namespace Moment

/-- The empty store at the start of its clock. -/
def start : Moment := ⟨0, .empty⟩

/-- The moment after a move. -/
def step (m : Moment) : Move → Moment
  | .ask q => { m with store := (answer m.now q m.store).2 }
  | .indexSize user => { m with store := (m.store.indexSize m.now user).2 }
  | .pass nanos => { m with now := m.now + nanos }

/-- The moment after some moves. -/
def run (m : Moment) (moves : List Move) : Moment := moves.foldl step m

theorem run_append (m : Moment) (moves more : List Move) :
    m.run (moves ++ more) = (m.run moves).run more :=
  List.foldl_append

/-- Whether the record of a session is live. -/
def IsLive (m : Moment) (id : String) : Prop := ∃ session, m.store.session? m.now id = some session

end Moment

/-- The moment after a run from the empty store. -/
def after (moves : List Move) : Moment := Moment.start.run moves

theorem after_append (moves more : List Move) : after (moves ++ more) = (after moves).run more :=
  Moment.run_append _ _ _

/-- The id of the session that a move opens. -/
def Move.sessionId? : Move → Option String
  | .ask (.call (.create session _)) => some session.id
  | _ => none

/-- The id of the refresh token that a move brings into the store. -/
def Move.tokenId? : Move → Option String
  | .ask (.call (.create session _)) => some session.currentJti
  | .ask (.call (.rotate r)) => some r.newJti
  | _ => none

/-- The ids of the sessions that a run opens. -/
def sessionIds (moves : List Move) : List String := moves.filterMap Move.sessionId?

/-- The ids of the refresh tokens that a run brings into the store. -/
def tokenIds (moves : List Move) : List String := moves.filterMap Move.tokenId?

/-! ## Live entries -/

theorem session?_eq_some_iff {s : SessionStore} {now : Nat} {id : String} {session : Session} :
    s.session? now id = some session ↔
      ∃ e, s.sessions.get? id = some e ∧ now < e.deadline ∧ e.value = session :=
  Expiring.live?_eq_some_iff

theorem pointer?_eq_some_iff {s : SessionStore} {now : Nat} {jti id : String} :
    s.pointer? now jti = some id ↔
      ∃ p, s.pointers.get? jti = some p ∧ now < p.deadline ∧ p.value = id :=
  Expiring.live?_eq_some_iff

theorem index?_eq_some_iff {s : SessionStore} {now : Nat} {user : UserId}
    {ids : SortedSet String} :
    s.index? now user = some ids ↔
      ∃ x, s.indexes.get? user = some x ∧ now < x.deadline ∧ x.value = ids :=
  Expiring.live?_eq_some_iff

theorem session?_eq_none_iff {s : SessionStore} {now : Nat} {id : String} :
    s.session? now id = none ↔ ∀ e, s.sessions.get? id = some e → e.deadline ≤ now :=
  Expiring.live?_eq_none_iff

theorem index?_eq_none_iff {s : SessionStore} {now : Nat} {user : UserId} :
    s.index? now user = none ↔ ∀ x, s.indexes.get? user = some x → x.deadline ≤ now :=
  Expiring.live?_eq_none_iff

theorem hasJti_eq_false_iff {s : SessionStore} {now : Nat} {jti : String} :
    s.hasJti now jti = false ↔ s.pointer? now jti = none := by
  simp [hasJti]

theorem lt_deadline (now : Nat) {ttl : Int} (h : 0 < ttl) : now < deadline now ttl := by
  have hseconds : 0 < ttl.toNat := by omega
  have hnanos : 0 < ttl.toNat * nanosPerSecond := Nat.mul_pos hseconds (by decide)
  rw [deadline]
  omega

/-- What is written with lifetimes is live at first. -/
theorem lt_deadlines (now : Nat) {ttls : Ttls} (h : ttls.isValid) :
    now < deadline now ttls.session ∧ now < deadline now ttls.jti := by
  simp only [Ttls.isValid, Bool.and_eq_true, decide_eq_true_eq] at h
  exact ⟨lt_deadline now h.1, lt_deadline now h.2⟩

/-- A record that has expired does not come back to life. -/
theorem session?_eq_none_of_le {s : SessionStore} {now later : Nat} {id : String}
    (h : s.session? now id = none) (hle : now ≤ later) : s.session? later id = none :=
  session?_eq_none_iff.2 fun e he => Nat.le_trans (session?_eq_none_iff.1 h e he) hle

theorem Moment.not_isLive_iff {m : Moment} {id : String} :
    ¬ m.IsLive id ↔ m.store.session? m.now id = none := by
  rw [IsLive, ← Option.isSome_iff_exists, Option.not_isSome_iff_eq_none]

/-! ## Losing entries -/

/-- The ways in which a store loses a single entry.  An index is lost only once it has expired, and
only sessions that are gone are taken out of one. -/
inductive Prune (now : Nat) : SessionStore → SessionStore → Prop
  | session (s : SessionStore) (id : String) :
      Prune now s { s with sessions := s.sessions.erase id }
  | pointer (s : SessionStore) (jti : String) :
      Prune now s { s with pointers := s.pointers.erase jti }
  | index (s : SessionStore) (user : UserId) (h : s.index? now user = none) :
      Prune now s { s with indexes := s.indexes.erase user }
  | member (s : SessionStore) (user : UserId) (id : String) (h : s.session? now id = none) :
      Prune now s (s.removeFromIndex user id)

/-- One store is another that lost entries. -/
abbrev Prunes (now : Nat) : SessionStore → SessionStore → Prop :=
  Relation.ReflTransGen (Prune now)

variable {now : Nat} {s s' : SessionStore}

theorem Prune.sessions_get? (h : Prune now s s') {id : String} {e : Expiring Session}
    (he : s'.sessions.get? id = some e) : s.sessions.get? id = some e := by
  cases h with
  | session id' => exact (Table.get?_erase_eq_some_iff.1 he).2
  | pointer => exact he
  | index => exact he
  | member => exact he

theorem Prune.pointers_get? (h : Prune now s s') {jti : String} {p : Expiring String}
    (hp : s'.pointers.get? jti = some p) : s.pointers.get? jti = some p := by
  cases h with
  | session => exact hp
  | pointer jti' => exact (Table.get?_erase_eq_some_iff.1 hp).2
  | index => exact hp
  | member => exact hp

/-- What is left of an index has its deadline, and names no session that it did not name before. -/
theorem Prune.indexes_get? (h : Prune now s s') {user : UserId}
    {x' : Expiring (SortedSet String)} (hx : s'.indexes.get? user = some x') :
    ∃ x, s.indexes.get? user = some x ∧ x'.deadline = x.deadline ∧
      ∀ id ∈ x'.value.toList, id ∈ x.value.toList := by
  cases h with
  | session => exact ⟨x', hx, rfl, fun _ hid => hid⟩
  | pointer => exact ⟨x', hx, rfl, fun _ hid => hid⟩
  | index user' => exact ⟨x', (Table.get?_erase_eq_some_iff.1 hx).2, rfl, fun _ hid => hid⟩
  | member user' id =>
    rw [removeFromIndex, Table.get?_modify] at hx
    split at hx
    · obtain ⟨x, hold, rfl⟩ := Option.map_eq_some_iff.1 hx
      exact ⟨x, hold, rfl, fun _ hid => ((SortedSet.mem_erase _ _ _).1 hid).1⟩
    · exact ⟨x', hx, rfl, fun _ hid => hid⟩

/-- A live index keeps its deadline and all sessions that are live. -/
theorem Prune.index_kept (h : Prune now s s') {user : UserId} {x : Expiring (SortedSet String)}
    (hx : s.indexes.get? user = some x) (hlive : now < x.deadline) :
    ∃ x', s'.indexes.get? user = some x' ∧ x'.deadline = x.deadline ∧
      ∀ id ∈ x.value.toList, s.session? now id ≠ none → id ∈ x'.value.toList := by
  cases h with
  | session => exact ⟨x, hx, rfl, fun _ hid _ => hid⟩
  | pointer => exact ⟨x, hx, rfl, fun _ hid _ => hid⟩
  | index user' h =>
    refine ⟨x, Table.get?_erase_eq_some_iff.2 ⟨?_, hx⟩, rfl, fun _ hid _ => hid⟩
    rintro rfl
    exact absurd hlive (Nat.not_lt.2 (index?_eq_none_iff.1 h x hx))
  | member user' id' h =>
    by_cases hu : user = user'
    · refine ⟨x.map (·.erase id'), ?_, rfl, fun id hid hs => ?_⟩
      · rw [removeFromIndex, Table.get?_modify, if_pos hu, hx]
        rfl
      · refine (SortedSet.mem_erase _ _ _).2 ⟨hid, ?_⟩
        rintro rfl
        exact hs h
    · refine ⟨x, ?_, rfl, fun _ hid _ => hid⟩
      rw [removeFromIndex, Table.get?_modify, if_neg hu, hx]

theorem Prune.session?_eq_none (h : Prune now s s') {id : String}
    (hs : s.session? now id = none) : s'.session? now id = none :=
  session?_eq_none_iff.2 fun e he => session?_eq_none_iff.1 hs e (h.sessions_get? he)

theorem Prunes.session?_eq_none (h : Prunes now s s') {id : String}
    (hs : s.session? now id = none) : s'.session? now id = none := by
  induction h with
  | refl => exact hs
  | tail _ h ih => exact h.session?_eq_none ih

theorem Prunes.sessions_get? (h : Prunes now s s') {id : String} {e : Expiring Session}
    (he : s'.sessions.get? id = some e) : s.sessions.get? id = some e := by
  induction h with
  | refl => exact he
  | tail _ h ih => exact ih (h.sessions_get? he)

theorem Prunes.pointers_get? (h : Prunes now s s') {jti : String} {p : Expiring String}
    (hp : s'.pointers.get? jti = some p) : s.pointers.get? jti = some p := by
  induction h with
  | refl => exact hp
  | tail _ h ih => exact ih (h.pointers_get? hp)

/-- What every single loss keeps, losing many entries keeps. -/
theorem Prunes.induction {P : SessionStore → Prop} (h : Prunes now s s')
    (step : ∀ {t t'}, Prune now t t' → P t → P t') (hs : P s) : P s' := by
  induction h with
  | refl => exact hs
  | tail _ h ih => exact step h ih

/-! ## Operations that only lose entries -/

variable (now s)

theorem prunes_purgeSession (id : String) : Prunes now s (s.purgeSession now id) := by
  rw [purgeSession]
  split
  · exact .refl
  · exact .single (.session s id)

theorem prunes_purgeIndex (user : UserId) : Prunes now s (s.purgeIndex now user) := by
  rw [purgeIndex]
  split
  · exact .refl
  · rename_i h
    exact .single (.index s user (Option.not_isSome_iff_eq_none.1 h))

@[simp] theorem pointers_purgeSession (id : String) :
    (s.purgeSession now id).pointers = s.pointers := by
  rw [purgeSession]
  split <;> rfl

@[simp] theorem sessions_purgeIndex (user : UserId) :
    (s.purgeIndex now user).sessions = s.sessions := by
  rw [purgeIndex]
  split <;> rfl

@[simp] theorem pointers_purgeIndex (user : UserId) :
    (s.purgeIndex now user).pointers = s.pointers := by
  rw [purgeIndex]
  split <;> rfl

theorem prunes_purgeSessions (ids : List String) :
    Prunes now s (ids.foldl (fun s id => s.purgeSession now id) s) := by
  induction ids generalizing s with
  | nil => exact .refl
  | cons id ids ih => exact (prunes_purgeSession now s id).trans (ih _)

theorem prunes_removeFromIndex (user : UserId) {ids : List String}
    (h : ∀ id ∈ ids, s.session? now id = none) :
    Prunes now s (ids.foldl (fun s id => s.removeFromIndex user id) s) := by
  induction ids generalizing s with
  | nil => exact .refl
  | cons id ids ih =>
    refine .head (.member s user id (h id (List.mem_cons_self ..))) (ih _ fun id' hid' => ?_)
    exact h id' (List.mem_cons_of_mem _ hid')

theorem prunes_listByUser (user : UserId) : Prunes now s (s.listByUser now user).2 :=
  (prunes_purgeIndex now s user).trans (prunes_purgeSessions now _ _)

theorem prunes_sweepUser (user : UserId) : Prunes now s (s.sweepUser now user).2 := by
  have hpurge : Prunes now s ((s.indexed now user).foldl (fun s id => s.purgeSession now id)
      (s.purgeIndex now user)) :=
    (prunes_purgeIndex now s user).trans (prunes_purgeSessions now _ _)
  refine hpurge.trans (prunes_removeFromIndex now _ user fun id hid => ?_)
  refine hpurge.session?_eq_none ?_
  simpa using (List.mem_filter.1 hid).2

theorem prunes_deleteOne (id : String) : Prunes now s (s.deleteOne now id).2 := by
  rw [deleteOne]
  split
  · exact .refl
  · rename_i e _
    -- the record goes first, so that the session is gone when it is taken out of the index
    have hsession : Prunes now s { s with sessions := s.sessions.erase id } :=
      .single (.session s id)
    have hindex := hsession.trans (prunes_purgeIndex now _ e.value.userId)
    refine (hindex.tail (.member _ e.value.userId id ?_)).tail (.pointer _ e.value.currentJti)
    refine (prunes_purgeIndex now _ e.value.userId).session?_eq_none ?_
    refine session?_eq_none_iff.2 fun e' he' => ?_
    exact absurd rfl (Table.get?_erase_eq_some_iff.1 he').1

theorem prunes_delete (ids : List String) : Prunes now s (s.delete now ids).2 := by
  induction ids generalizing s with
  | nil => exact .refl
  | cons id ids ih => exact (prunes_deleteOne now s id).trans (ih _)

/-- A deletion takes the record of a session away. -/
theorem get?_deleteOne (id : String) : (s.deleteOne now id).2.sessions.get? id = none := by
  rw [deleteOne]
  split
  · assumption
  · simp [removeFromIndex, Table.get?_erase]

/-- A deletion takes away all records in its list. -/
theorem session?_delete_of_mem {ids : List String} {id : String} (hid : id ∈ ids) :
    (s.delete now ids).2.session? now id = none := by
  induction ids generalizing s with
  | nil => cases hid
  | cons id' ids ih =>
    show (delete (s.deleteOne now id').2 now ids).2.session? now id = none
    rcases List.mem_cons.1 hid with rfl | hid
    · refine (prunes_delete now _ ids).session?_eq_none ?_
      rw [session?, get?_deleteOne]
      rfl
    · exact ih _ hid

/-! ## Opening a session -/

/-- The store with the record of a new session, its pointer and its place in the index. -/
def opened (session : Session) (ttls : Ttls) : SessionStore :=
  addToIndex { s with
      sessions := s.sessions.set session.id ⟨session, deadline now ttls.session⟩
      pointers := s.pointers.set session.currentJti ⟨session.id, deadline now ttls.jti⟩ }
    now session.userId session.id (deadline now ttls.session)

variable (session : Session) (ttls : Ttls)

@[simp] theorem sessions_opened : (opened now s session ttls).sessions =
    s.sessions.set session.id ⟨session, deadline now ttls.session⟩ := rfl

@[simp] theorem pointers_opened : (opened now s session ttls).pointers =
    s.pointers.set session.currentJti ⟨session.id, deadline now ttls.jti⟩ := rfl

theorem indexes_opened_of_ne {session ttls} {user : UserId} (h : user ≠ session.userId) :
    (opened now s session ttls).indexes.get? user = s.indexes.get? user := by
  rw [opened, addToIndex, Table.get?_set, if_neg h]

/-- The index of the owner names the new session; a live one keeps what it named and is not
shortened, and one that has expired starts anew. -/
theorem indexes_opened : ∃ x', (opened now s session ttls).indexes.get? session.userId = some x' ∧
    deadline now ttls.session ≤ x'.deadline ∧
    (∀ id, id ∈ x'.value.toList ↔ id = session.id ∨ ∃ x, s.indexes.get? session.userId = some x ∧
      now < x.deadline ∧ id ∈ x.value.toList) ∧
    ∀ x, s.indexes.get? session.userId = some x → now < x.deadline → x.deadline ≤ x'.deadline := by
  simp only [opened, addToIndex, Table.get?_set, if_true]
  cases hx : s.indexes.get? session.userId with
  | none =>
    refine ⟨_, rfl, ?_, fun id => ?_, by simp⟩
    · exact Nat.le_refl _
    · simp [SortedSet.empty]
  | some x =>
    by_cases hlive : now < x.deadline
    · have hf : (some x).filter (·.isLive now) = some x := by simp [Option.filter, hlive]
      simp only [hf]
      refine ⟨_, rfl, Nat.le_max_right _ _, fun id => ?_, ?_⟩
      · simp [hlive]
      · rintro _ ⟨⟩ _
        exact Nat.le_max_left _ _
    · have hf : (some x).filter (·.isLive now) = none := by
        simp [Option.filter, Expiring.isLive, hlive]
      simp only [hf]
      refine ⟨_, rfl, Nat.le_refl _, fun id => ?_, ?_⟩
      · simp [SortedSet.empty, hlive]
      · rintro _ ⟨⟩ h
        exact absurd h hlive

/-! ## Carrying a session on -/

/-- The store after a refresh token of a live session was exchanged. -/
def carriedOn (r : Rotation) (id : String) (session : Session) : SessionStore :=
  raiseIndex { s with
      sessions := s.sessions.set id ⟨session.rotated r, deadline now r.ttls.session⟩
      pointers := (s.pointers.erase r.oldJti).set r.newJti ⟨id, deadline now r.ttls.jti⟩ }
    now session.userId (deadline now r.ttls.session)

variable (r : Rotation) (id : String)

@[simp] theorem sessions_carriedOn : (carriedOn now s r id session).sessions =
    s.sessions.set id ⟨session.rotated r, deadline now r.ttls.session⟩ := rfl

@[simp] theorem pointers_carriedOn : (carriedOn now s r id session).pointers =
    (s.pointers.erase r.oldJti).set r.newJti ⟨id, deadline now r.ttls.jti⟩ := rfl

/-- A token that was exchanged leads to nothing. -/
theorem pointer?_carriedOn_oldJti (hne : r.oldJti ≠ r.newJti) (later : Nat) :
    (carriedOn now s r id session).pointer? later r.oldJti = none := by
  refine Option.eq_none_iff_forall_ne_some.2 fun id' hp => ?_
  obtain ⟨p, hp, -⟩ := pointer?_eq_some_iff.1 hp
  rw [pointers_carriedOn, Table.get?_set_eq_some_iff, Table.get?_erase_eq_some_iff] at hp
  rcases hp with ⟨heq, -⟩ | ⟨-, hold, -⟩
  · exact hne heq
  · exact hold rfl

/-- Indexes keep what they name; a live index of the owner lasts as long as the record. -/
theorem indexes_carriedOn {user : UserId} {x : Expiring (SortedSet String)}
    (hx : s.indexes.get? user = some x) :
    ∃ x', (carriedOn now s r id session).indexes.get? user = some x' ∧ x'.value = x.value ∧
      x.deadline ≤ x'.deadline ∧
      (user = session.userId → now < x.deadline → deadline now r.ttls.session ≤ x'.deadline) := by
  simp only [carriedOn, raiseIndex, Table.get?_modify, hx]
  by_cases hu : user = session.userId
  · rw [if_pos hu, Option.map_some]
    by_cases hlive : now < x.deadline
    · simp only [Expiring.isLive_iff, hlive, if_true]
      exact ⟨_, rfl, rfl, Nat.le_max_left _ _, fun _ _ => Nat.le_max_right _ _⟩
    · simp only [Expiring.isLive_iff, hlive, if_false]
      exact ⟨x, rfl, rfl, Nat.le_refl _, fun _ h => h.elim⟩
  · rw [if_neg hu]
    exact ⟨x, rfl, rfl, Nat.le_refl _, fun h => absurd h hu⟩

theorem indexes_of_carriedOn {session r id} {user : UserId} {x' : Expiring (SortedSet String)}
    (hx : (carriedOn now s r id session).indexes.get? user = some x') :
    ∃ x, s.indexes.get? user = some x ∧ x'.value = x.value := by
  cases h : s.indexes.get? user with
  | none => simp [carriedOn, raiseIndex, Table.get?_modify, h] at hx
  | some x =>
    obtain ⟨y, hy, hv, -⟩ := indexes_carriedOn now s session r id h
    rw [hx, Option.some.injEq] at hy
    exact ⟨x, rfl, hy ▸ hv⟩

/-! ## What a question does -/

variable {session} {r} {id}

/-- The ways in which a question changes a store. -/
inductive Effect (now : Nat) (s : SessionStore) : Question → SessionStore → Prop
  | pruned {q : Question} {s' : SessionStore} (h : Prunes now s s') : Effect now s q s'
  | opened {session : Session} {ttls : Ttls} :
      Effect now s (.call (.create session ttls)) (opened now s session ttls)
  | carriedOn {r : Rotation} {id : String} {session : Session}
      (hp : s.pointer? now r.oldJti = some id) (hs : s.session? now id = some session) :
      Effect now s (.call (.rotate r)) (carriedOn now s r id session)

/-- A refresh token leads to a live session, or it is spent. -/
theorem leads_or_spent (jti : String) :
    (∃ id session, s.pointer? now jti = some id ∧ s.session? now id = some session) ∨
      ∀ id, s.pointer? now jti = some id → s.session? now id = none := by
  cases hp : s.pointer? now jti with
  | none => exact .inr (by simp)
  | some id =>
    cases hs : s.session? now id with
    | none => exact .inr (by simpa using hs)
    | some session => exact .inl ⟨id, session, rfl, hs⟩

/-- The exchange of a token that leads to a live session. -/
theorem rotate_of_live (hv : r.ttls.isValid) (hp : s.pointer? now r.oldJti = some id)
    (hs : s.session? now id = some session) :
    s.rotate now r = (.ok id, carriedOn now s r id session) := by
  have htaken : session? { s with pointers := s.pointers.erase r.oldJti } now id = some session :=
    hs
  simp only [rotate, hv, hp, htaken]
  rfl

/-- The exchange of a token that leads to no live session: its pointer is gone if it was there. -/
theorem rotate_of_spent (hv : r.ttls.isValid)
    (h : ∀ id, s.pointer? now r.oldJti = some id → s.session? now id = none) :
    (s.rotate now r).1 = .error .refreshTokenSpent ∧ Prunes now s (s.rotate now r).2 ∧
      (s.rotate now r).2.pointers = s.pointers.erase r.oldJti := by
  have htaken : Prunes now s { s with pointers := s.pointers.erase r.oldJti } :=
    .single (.pointer s r.oldJti)
  simp only [rotate, hv, Bool.not_true, Bool.false_eq_true, if_false]
  cases hp : s.pointer? now r.oldJti with
  | none => exact ⟨rfl, htaken, rfl⟩
  | some id =>
    have hs : session? { s with pointers := s.pointers.erase r.oldJti } now id = none := h id hp
    simp only [hs, pointers_purgeSession, and_true, true_and]
    exact htaken.trans (prunes_purgeSession now _ id)

/-- An exchange takes the pointer of the old token away, and writes that of the new one only if it
succeeds. -/
theorem pointer_of_rotate (hv : r.ttls.isValid) {jti : String} {p : Expiring String}
    (hp : (s.rotate now r).2.pointers.get? jti = some p) :
    jti ≠ r.oldJti ∧ s.pointers.get? jti = some p ∨
      jti = r.newJti ∧ ∃ id, (s.rotate now r).1 = .ok id := by
  rcases leads_or_spent now s r.oldJti with ⟨id, session, hptr, hs⟩ | h
  · rw [rotate_of_live now s hv hptr hs] at hp ⊢
    rw [pointers_carriedOn, Table.get?_set_eq_some_iff, Table.get?_erase_eq_some_iff] at hp
    rcases hp with ⟨rfl, -⟩ | ⟨-, hold⟩
    · exact .inr ⟨rfl, id, rfl⟩
    · exact .inl hold
  · rw [(rotate_of_spent now s hv h).2.2, Table.get?_erase_eq_some_iff] at hp
    exact .inl hp

/-- An exchange succeeds just if the token leads to a live session. -/
theorem rotate_eq_ok_iff : (s.rotate now r).1 = .ok id ↔
    r.ttls.isValid ∧ s.pointer? now r.oldJti = some id ∧ s.session? now id ≠ none := by
  cases hv : r.ttls.isValid with
  | false => simp [rotate, hv]
  | true =>
    rcases leads_or_spent now s r.oldJti with ⟨i, session, hp, hs⟩ | h
    · rw [rotate_of_live now s hv hp hs, hp]
      simp only [Except.ok.injEq, Option.some.injEq, true_and]
      refine ⟨?_, And.left⟩
      rintro rfl
      exact ⟨rfl, by simp [hs]⟩
    · rw [(rotate_of_spent now s hv h).1]
      simp only [reduceCtorEq, true_and, false_iff]
      exact fun ⟨hp, hs⟩ => hs (h id hp)

theorem effect_rotate : Effect now s (.call (.rotate r)) (s.rotate now r).2 := by
  cases hv : r.ttls.isValid with
  | false =>
    rw [rotate, hv]
    exact .pruned .refl
  | true =>
    rcases leads_or_spent now s r.oldJti with ⟨i, session, hp, hs⟩ | h
    · rw [rotate_of_live now s hv hp hs]
      exact .carriedOn hp hs
    · exact .pruned (rotate_of_spent now s hv h).2.1

/-- **What a question can do.**  It makes the store lose entries, or opens a session, or carries a
session on. -/
theorem effect_answer (q : Question) : Effect now s q (answer now q s).2 := by
  cases q with
  | indexedUsers => exact .pruned .refl
  | call c =>
    cases c with
    | create session ttls =>
      show Effect now s _ (s.create now session ttls).2
      rw [create]
      split
      · exact .pruned .refl
      · exact .opened
    | rotate r => exact effect_rotate now s
    | hasJti jti => exact .pruned .refl
    | get id => exact .pruned (prunes_purgeSession now s id)
    | listByUser user => exact .pruned (prunes_listByUser now s user)
    | delete ids => exact .pruned (prunes_delete now s ids)
    | sweepUser user => exact .pruned (prunes_sweepUser now s user)

/-- A question that opens no session and carries none on makes the store lose entries at most. -/
theorem prunes_answer {q : Question} (hcreate : ∀ session ttls, q ≠ .call (.create session ttls))
    (hrotate : ∀ r, q ≠ .call (.rotate r)) : Prunes now s (answer now q s).2 := by
  have heffect := effect_answer now s q
  generalize (answer now q s).2 = s' at heffect
  cases heffect with
  | pruned h => exact h
  | opened => exact absurd rfl (hcreate _ _)
  | carriedOn => exact absurd rfl (hrotate _)

theorem answer_create (session : Session) (ttls : Ttls) :
    answer now (.call (.create session ttls)) s =
      if ttls.isValid then (.ok (), opened now s session ttls)
      else (.error .ttlsNotPositive, s) := by
  cases h : ttls.isValid <;> simp [answer, create, opened, h]

/-! ## Runs, step by step -/

theorem after_concat (past : List Move) (move : Move) :
    after (past ++ [move]) = (after past).step move :=
  after_append past [move]

theorem Moment.now_le_step (m : Moment) (move : Move) : m.now ≤ (m.step move).now := by
  cases move with
  | ask | indexSize => exact Nat.le_refl _
  | pass nanos => exact Nat.le_add_right _ _

/-- **What a move can do.**  What is true of a store is true after any move, if losing an entry
keeps it, and opening or carrying on a session does. -/
theorem Moment.step_induction {m : Moment} {move : Move} {P : SessionStore → Prop}
    (hprune : ∀ {s s'}, Prune m.now s s' → P s → P s')
    (hopened : ∀ session ttls, move.sessionId? = some session.id →
      move.tokenId? = some session.currentJti → P (opened m.now m.store session ttls))
    (hcarriedOn : ∀ r id session, move.tokenId? = some r.newJti →
      m.store.pointer? m.now r.oldJti = some id → m.store.session? m.now id = some session →
        P (carriedOn m.now m.store r id session))
    (h : P m.store) : P (m.step move).store := by
  have pruned : ∀ {s'}, Prunes m.now m.store s' → P s' := fun hp => hp.induction hprune h
  cases move with
  | ask q =>
    have heffect := effect_answer m.now m.store q
    show P (answer m.now q m.store).2
    generalize (answer m.now q m.store).2 = s' at heffect
    cases heffect with
    | pruned hp => exact pruned hp
    | @opened session ttls => exact hopened session ttls rfl rfl
    | @carriedOn r id session hp hs => exact hcarriedOn r id session rfl hp hs
  | indexSize user => exact pruned (prunes_purgeIndex m.now m.store user)
  | pass nanos => exact h

theorem sessionIds_append (moves more : List Move) :
    sessionIds (moves ++ more) = sessionIds moves ++ sessionIds more :=
  List.filterMap_append

theorem tokenIds_append (moves more : List Move) :
    tokenIds (moves ++ more) = tokenIds moves ++ tokenIds more :=
  List.filterMap_append

theorem mem_sessionIds_concat (past : List Move) {move : Move} {id : String}
    (hid : move.sessionId? = some id) : id ∈ sessionIds (past ++ [move]) :=
  List.mem_filterMap.2 ⟨move, List.mem_append_right _ (List.mem_singleton_self _), hid⟩

theorem mem_tokenIds_concat (past : List Move) {move : Move} {jti : String}
    (hjti : move.tokenId? = some jti) : jti ∈ tokenIds (past ++ [move]) :=
  List.mem_filterMap.2 ⟨move, List.mem_append_right _ (List.mem_singleton_self _), hjti⟩

/-- In a run that uses no session id twice, a session is opened under an id that is new. -/
theorem not_mem_sessionIds {past : List Move} {move : Move} {id : String}
    (h : (sessionIds (past ++ [move])).Nodup) (hid : move.sessionId? = some id) :
    id ∉ sessionIds past := by
  rw [sessionIds_append] at h
  have hlast : id ∈ sessionIds [move] := mem_sessionIds_concat [] hid
  exact fun hpast => (List.nodup_append.1 h).2.2 id hpast id hlast rfl

/-- In a run that uses no token id twice, a token comes into the store under an id that is new. -/
theorem not_mem_tokenIds {past : List Move} {move : Move} {jti : String}
    (h : (tokenIds (past ++ [move])).Nodup) (hjti : move.tokenId? = some jti) :
    jti ∉ tokenIds past := by
  rw [tokenIds_append] at h
  have hlast : jti ∈ tokenIds [move] := mem_tokenIds_concat [] hjti
  exact fun hpast => (List.nodup_append.1 h).2.2 jti hpast jti hlast rfl

theorem nodup_of_append {α : Type} {as bs : List α} (h : (as ++ bs).Nodup) : as.Nodup :=
  (List.nodup_append.1 h).1

/-! ## Names that a store mentions -/

/-- All sessions and refresh tokens that a store mentions are in two lists, and each record is
filed under its own id. -/
structure Mentions (ids jtis : List String) (s : SessionStore) : Prop where
  session : ∀ {id : String} {e : Expiring Session}, s.sessions.get? id = some e →
    id ∈ ids ∧ e.value.id = id ∧ e.value.currentJti ∈ jtis
  pointer : ∀ {jti : String} {p : Expiring String}, s.pointers.get? jti = some p →
    jti ∈ jtis ∧ p.value ∈ ids
  index : ∀ {user : UserId} {x : Expiring (SortedSet String)} {id : String},
    s.indexes.get? user = some x → id ∈ x.value.toList → id ∈ ids

namespace Mentions

variable {ids jtis more others : List String} {now : Nat} {s s' : SessionStore}

theorem mono (h : Mentions ids jtis s) (hids : ids ⊆ more) (hjtis : jtis ⊆ others) :
    Mentions more others s where
  session he := ⟨hids (h.session he).1, (h.session he).2.1, hjtis (h.session he).2.2⟩
  pointer hp := ⟨hjtis (h.pointer hp).1, hids (h.pointer hp).2⟩
  index hx hid := hids (h.index hx hid)

theorem prune (h : Mentions ids jtis s) (hp : Prune now s s') : Mentions ids jtis s' where
  session he := h.session (hp.sessions_get? he)
  pointer hp' := h.pointer (hp.pointers_get? hp')
  index hx hid := by
    obtain ⟨x, hx, -, hsub⟩ := hp.indexes_get? hx
    exact h.index hx (hsub _ hid)

theorem opened (h : Mentions ids jtis s) {session : Session} (ttls : Ttls)
    (hid : session.id ∈ ids) (hjti : session.currentJti ∈ jtis) :
    Mentions ids jtis (opened now s session ttls) where
  session he := by
    rw [sessions_opened, Table.get?_set_eq_some_iff] at he
    rcases he with ⟨rfl, rfl⟩ | ⟨-, he⟩
    · exact ⟨hid, rfl, hjti⟩
    · exact h.session he
  pointer hp := by
    rw [pointers_opened, Table.get?_set_eq_some_iff] at hp
    rcases hp with ⟨rfl, rfl⟩ | ⟨-, hp⟩
    · exact ⟨hjti, hid⟩
    · exact h.pointer hp
  index {user x' id} hx hmem := by
    by_cases hu : user = session.userId
    · subst hu
      obtain ⟨y, hy, -, hiff, -⟩ := indexes_opened now s session ttls
      rw [hx, Option.some.injEq] at hy
      subst hy
      rcases (hiff id).1 hmem with rfl | ⟨x, hx, -, hmem⟩
      · exact hid
      · exact h.index hx hmem
    · rw [indexes_opened_of_ne now s hu] at hx
      exact h.index hx hmem

theorem carriedOn (h : Mentions ids jtis s) {r : Rotation} {id : String} {session : Session}
    (hs : s.session? now id = some session) (hjti : r.newJti ∈ jtis) :
    Mentions ids jtis (carriedOn now s r id session) := by
  obtain ⟨e, he, -, rfl⟩ := session?_eq_some_iff.1 hs
  constructor
  case session =>
    intro i e' he'
    rw [sessions_carriedOn, Table.get?_set_eq_some_iff] at he'
    rcases he' with ⟨rfl, rfl⟩ | ⟨-, he'⟩
    · exact ⟨(h.session he).1, (h.session he).2.1, hjti⟩
    · exact h.session he'
  case pointer =>
    intro jti p hp
    rw [pointers_carriedOn, Table.get?_set_eq_some_iff, Table.get?_erase_eq_some_iff] at hp
    rcases hp with ⟨rfl, rfl⟩ | ⟨-, -, hp⟩
    · exact ⟨hjti, (h.session he).1⟩
    · exact h.pointer hp
  case index =>
    intro user x' i hx hmem
    obtain ⟨x, hx, hv⟩ := indexes_of_carriedOn now s hx
    exact h.index hx (hv ▸ hmem)

end Mentions

/-- A store mentions only the sessions and tokens of its run. -/
theorem mentions_after (moves : List Move) :
    Mentions (sessionIds moves) (tokenIds moves) (after moves).store := by
  induction moves using List.reverseRecOn with
  | nil => exact ⟨nofun, nofun, nofun⟩
  | append_singleton past move ih =>
    have hmono : Mentions (sessionIds (past ++ [move])) (tokenIds (past ++ [move]))
        (after past).store := by
      refine ih.mono ?_ ?_
      · rw [sessionIds_append]
        exact List.subset_append_left ..
      · rw [tokenIds_append]
        exact List.subset_append_left ..
    rw [after_concat]
    refine Moment.step_induction (fun h hm => hm.prune h) ?_ ?_ hmono
    · intro session ttls hid hjti
      exact hmono.opened ttls (mem_sessionIds_concat past hid) (mem_tokenIds_concat past hjti)
    · intro r id session hjti _ hs
      exact hmono.carriedOn hs (mem_tokenIds_concat past hjti)

end SessionStore
end SessionAuth
