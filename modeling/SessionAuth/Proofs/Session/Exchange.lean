import SessionAuth.Proofs.Session.Fading
import SessionAuth.Proofs.Session.Revocation

/-!
# The exchange of a refresh token

An exchange takes the pointer of the old token away before it looks for the session, and if there is
one, it writes a record, a pointer and the deadline of an index one after the other.  Here is what
is left of the store in the end.

`Exchanged` is what has become of it if the exchange succeeded: a record and two pointers are
different, and nothing else is.  `Refused` is what has become of it if the token led to no live
session, be it that the token was never given out, has expired, or leads to a session that is gone.
These cases have in common that a record of the session may be purged which has expired, so that no
question has another answer at any time, but for the one about the token itself.
-/

set_option autoImplicit false

namespace SessionAuth
namespace SessionStore

variable {now : Nat} {s s' : SessionStore} {r : Rotation} {id : String}

/-! ## Sessions that are carried on -/

/-- Raising the deadline of an index changes no live index at the time. -/
theorem index?_raiseIndex (s : SessionStore) (now : Nat) (user : UserId) (least : Nat)
    (v : UserId) : (s.raiseIndex now user least).index? now v = s.index? now v := by
  rw [index?, raiseIndex, Table.get?_modify, index?]
  split
  · rename_i hv
    subst hv
    cases s.indexes.get? v with
    | none => rfl
    | some x =>
      by_cases hlive : now < x.deadline
      · have hraised : now < max x.deadline least := by omega
        simp [Expiring.live?, Expiring.isLive, Option.filter, hlive, hraised]
      · simp [Expiring.isLive, hlive]
  · rfl

/-- What an exchange leaves behind that carried a session on. -/
structure Exchanged (now : Nat) (r : Rotation) (id : String) (s s' : SessionStore) : Prop where
  /-- The old token led to the session. -/
  led : s.pointer? now r.oldJti = some id
  /-- The session was live, and its record is what it was but for what the exchange brings. -/
  record : ∃ session, s.session? now id = some session ∧ session.id = id ∧
    s'.sessions.get? id = some ⟨{ session with
      currentJti := r.newJti
      ip := r.ip
      device := r.device
      updatedAt := r.updatedAt
      expiresAt := r.expiresAt }, now + r.ttls.session.toNat * nanosPerSecond⟩
  spent : ∀ later, s'.hasJti later r.oldJti = false
  pointer : s'.pointers.get? r.newJti = some ⟨id, now + r.ttls.jti.toNat * nanosPerSecond⟩
  inUse : s'.hasJti now r.newJti = true
  other_records : ∀ other, other ≠ id → s'.sessions.get? other = s.sessions.get? other
  other_pointers : ∀ jti, jti ≠ r.oldJti → jti ≠ r.newJti →
    s'.pointers.get? jti = s.pointers.get? jti
  /-- Indexes name the sessions that they named, live or not. -/
  members : ∀ user,
    (s'.indexes.get? user).map (·.value) = (s.indexes.get? user).map (·.value)
  indexed : ∀ user, s'.indexed now user = s.indexed now user

/-- This is what carrying a session on leaves behind, if the new token is not the old one. -/
theorem exchanged_carriedOn (hvalid : r.ttls.isValid) (hled : s.pointer? now r.oldJti = some id)
    {session : Session} (hlive : s.session? now id = some session) (hid : session.id = id)
    (hne : r.oldJti ≠ r.newJti) : Exchanged now r id s (carriedOn now s r id session) where
  led := hled
  record := ⟨session, hlive, hid, by rw [sessions_carriedOn, Table.get?_set, if_pos rfl]; rfl⟩
  spent later := hasJti_eq_false_iff.2 (pointer?_carriedOn_oldJti now s session r id hne later)
  pointer := by rw [pointers_carriedOn, Table.get?_set, if_pos rfl, deadline]
  inUse := by
    have hnew : (carriedOn now s r id session).pointer? now r.newJti = some id := by
      refine pointer?_eq_some_iff.2 ⟨⟨id, deadline now r.ttls.jti⟩, ?_, ?_, rfl⟩
      · rw [pointers_carriedOn, Table.get?_set, if_pos rfl]
      · exact (lt_deadlines now hvalid).2
    rw [hasJti, hnew, Option.isSome_some]
  other_records other hother := by rw [sessions_carriedOn, Table.get?_set, if_neg hother]
  other_pointers jti hold hnew := by
    rw [pointers_carriedOn, Table.get?_set, if_neg hnew, Table.get?_erase, if_neg hold]
  members user := by
    cases hx : s.indexes.get? user with
    | some x =>
      obtain ⟨x', hx', hvalue, -⟩ := indexes_carriedOn now s session r id hx
      rw [hx', Option.map_some, Option.map_some, hvalue]
    | none =>
      cases hx' : (carriedOn now s r id session).indexes.get? user with
      | none => rfl
      | some x' =>
        obtain ⟨x, hsome, -⟩ := indexes_of_carriedOn now s hx'
        cases hx.symm.trans hsome
  indexed user := by rw [SessionStore.indexed, carriedOn, index?_raiseIndex]; rfl

/-! ## Exchanges that are refused -/

/-- What an exchange leaves behind that was refused: at no time from now on is there another answer
to a question, except that the token that was presented is not in use. -/
structure Refused (now : Nat) (oldJti : String) (s s' : SessionStore) : Prop where
  get_eq : ∀ later ≥ now, ∀ id, (s'.get later id).1 = (s.get later id).1
  listByUser_eq : ∀ later ≥ now, ∀ user,
    (s'.listByUser later user).1 = (s.listByUser later user).1
  hasJti_eq : ∀ later ≥ now, ∀ jti, jti ≠ oldJti → s'.hasJti later jti = s.hasJti later jti
  spent : ∀ later, s'.hasJti later oldJti = false
  /-- If the token was in use, then the session to which it led has no record any more. -/
  dangling : s.hasJti now oldJti = true →
    ∃ id, s.pointer? now oldJti = some id ∧ (s.get now id).1 = none

theorem refused_of_spent (hvalid : r.ttls.isValid)
    (hspent : ∀ id, s.pointer? now r.oldJti = some id → s.session? now id = none) :
    Refused now r.oldJti s (s.rotate now r).2 := by
  have hfaded := Faded.rotate_of_spent hvalid hspent
  constructor
  case get_eq => exact fun later hle id => (hfaded.mono hle).session?_eq id
  case listByUser_eq => exact fun later hle user => ((hfaded.mono hle).listByUser user).1
  case hasJti_eq =>
    intro later hle jti hne
    rw [hasJti, (hfaded.mono hle).pointer?_eq, pointer?, Table.get?_erase, if_neg hne]
    rfl
  case spent =>
    intro later
    rw [hasJti, pointer?, (rotate_of_spent now s hvalid hspent).2.2, Table.get?_erase, if_pos rfl]
    rfl
  case dangling =>
    intro hused
    obtain ⟨id, hid⟩ := Option.isSome_iff_exists.1 hused
    exact ⟨id, hid, hspent id hid⟩

/-! ## All exchanges -/

/-- **An exchange is exact.**  In every run, the exchange of a refresh token for one that is new to
the store does one of three things.  It carries on the live session to which the token led, and
leaves all else as it was.  Or the lifetimes are invalid and nothing changes.  Or it is
unauthorized, and the token is not in use any more, which it was before only if its session is
gone. -/
theorem rotate_exact {moves : List Move} {r : Rotation} (hnew : r.newJti ∉ tokenIds moves) :
    let now := (after moves).now
    let s := (after moves).store
    match s.rotate now r with
    | (.ok id, s') => Exchanged now r id s s'
    | (.error e, s') => e.kind = .invalidInput ∧ s' = s ∨
        e.kind = .unauthorized ∧ Refused now r.oldJti s s' := by
  intro now s
  have hmentions := mentions_after moves
  by_cases hvalid : r.ttls.isValid
  case neg =>
    rw [Bool.not_eq_true] at hvalid
    rw [rotate, hvalid]
    exact .inl ⟨rfl, rfl⟩
  rcases leads_or_spent now s r.oldJti with ⟨id, session, hled, hlive⟩ | hspent
  · rw [rotate_of_live now s hvalid hled hlive]
    obtain ⟨p, hp, -⟩ := pointer?_eq_some_iff.1 hled
    obtain ⟨e, he, -, rfl⟩ := session?_eq_some_iff.1 hlive
    refine exchanged_carriedOn hvalid hled hlive (hmentions.session he).2.1 fun heq => ?_
    exact hnew (heq ▸ (hmentions.pointer hp).1)
  · have hrefused := refused_of_spent hvalid hspent
    have hanswer := (rotate_of_spent now s hvalid hspent).1
    generalize s.rotate now r = result at hrefused hanswer
    obtain ⟨answer, s'⟩ := result
    obtain rfl : answer = .error .refreshTokenSpent := hanswer
    exact .inr ⟨rfl, hrefused⟩

/-- An exchange for the token with id `b`. -/
def forB (oldJti : String) : Rotation :=
  ⟨oldJti, "b", "", "", ⟨0, false⟩, ⟨0, false⟩, ⟨60, 60⟩⟩

/-- After a login, its token is exchanged, and one that was never given out is refused. -/
theorem rotate_exact_opening : "b" ∉ tokenIds (opening .nil) ∧
    Exchanged 0 (forB "a") "s" (after (opening .nil)).store
      ((after (opening .nil)).store.rotate 0 (forB "a")).2 ∧
    Refused 0 "c" (after (opening .nil)).store
      ((after (opening .nil)).store.rotate 0 (forB "c")).2 := by
  have hnew : "b" ∉ tokenIds (opening .nil) := by decide
  have hexchanged := rotate_exact (r := forB "a") hnew
  have hrefused := rotate_exact (r := forB "c") hnew
  refine ⟨hnew, hexchanged, ?_⟩
  rcases hrefused with ⟨hkind, -⟩ | ⟨-, h⟩
  · cases hkind
  · exact h

end SessionStore
end SessionAuth
