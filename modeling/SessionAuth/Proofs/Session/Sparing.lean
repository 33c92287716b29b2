import Mathlib.Data.List.Sort
import SessionAuth.Proofs.Session.Lineage
import SessionAuth.Proofs.Session.Sweeping

/-!
# Sessions that are left alone

`SameBut` compares two stores by what can be read of all sessions but those that are `touched`:
their records, and the refresh tokens that lead to them.  A new session touches itself alone, and so
does a session that is carried on.  Deleting sessions touches no others than those in the list,
since the pointers that go with their records lead to them (`Paired`).

What users see in their lists follows (`filter_listByUser_eq`): a list has all live sessions of its
user in the order of their ids, so that two of them are equal if they have the same sessions.
-/

set_option autoImplicit false

namespace SessionAuth
namespace SessionStore

variable {now : Nat} {touched : String → Prop} {s t u : SessionStore}

/-! ## Sessions but for some -/

/-- Two stores in which the same can be read of all sessions but for some. -/
structure SameBut (now : Nat) (touched : String → Prop) (s t : SessionStore) : Prop where
  session?_eq : ∀ {id : String}, ¬ touched id → t.session? now id = s.session? now id
  pointer?_iff : ∀ {jti id : String}, ¬ touched id →
    (t.pointer? now jti = some id ↔ s.pointer? now jti = some id)

namespace SameBut

theorem trans (h : SameBut now touched s t) (h' : SameBut now touched t u) :
    SameBut now touched s u where
  session?_eq hid := (h'.session?_eq hid).trans (h.session?_eq hid)
  pointer?_iff hid := (h'.pointer?_iff hid).trans (h.pointer?_iff hid)

theorem mono {more : String → Prop} (h : SameBut now touched s t)
    (hmore : ∀ id, touched id → more id) : SameBut now more s t where
  session?_eq hid := h.session?_eq (mt (hmore _) hid)
  pointer?_iff hid := h.pointer?_iff (mt (hmore _) hid)

/-- Reading touches nothing. -/
theorem of_faded (h : Faded now s t) : SameBut now touched s t where
  session?_eq _ := h.session?_eq _
  pointer?_iff _ := by rw [h.pointer?_eq]

theorem sweepUser {later : Nat} (hle : now ≤ later) (user : UserId) :
    SameBut later touched s (s.sweepUser now user).2 := by
  have hswept := Swept.sweepUser now s user
  refine ⟨fun _ => hswept.session?_of_le hle _, fun _ => ?_⟩
  rw [pointer?, hswept.pointers, pointer?]

/-- A new session is the only one that is touched, if its token is new as well. -/
theorem opened {session : Session} (ttls : Ttls)
    (hjti : s.pointers.get? session.currentJti = none) :
    SameBut now (· = session.id) s (opened now s session ttls) where
  session?_eq hid := by
    rw [session?, sessions_opened, Table.get?_set, if_neg hid, session?]
  pointer?_iff {jti id} hid := by
    rw [pointer?_eq_some_iff, pointer?_eq_some_iff]
    refine exists_congr fun p => and_congr_left fun hp => ?_
    rw [pointers_opened, Table.get?_set_eq_some_iff]
    constructor
    · rintro (⟨-, rfl⟩ | ⟨-, hold⟩)
      · exact absurd hp.2.symm hid
      · exact hold
    · refine fun hold => .inr ⟨?_, hold⟩
      rintro rfl
      cases hjti.symm.trans hold

/-- Taking a pointer away touches the session to which it led. -/
theorem erase_pointer {jti id : String} (hpointer : s.pointer? now jti = some id) :
    SameBut now (· = id) s { s with pointers := s.pointers.erase jti } where
  session?_eq _ := rfl
  pointer?_iff {jti' id'} hid := by
    rw [pointer?_eq_some_iff, pointer?_eq_some_iff]
    refine exists_congr fun p => and_congr_left fun hp => ?_
    rw [Table.get?_erase_eq_some_iff]
    refine and_iff_right_of_imp fun hold => ?_
    rintro rfl
    have hlead : s.pointer? now jti' = some id' := pointer?_eq_some_iff.2 ⟨p, hold, hp⟩
    exact hid (Option.some.inj (hlead.symm.trans hpointer))

/-- A session that is carried on is the only one that is touched, if the new token is new. -/
theorem carriedOn {r : Rotation} {id : String} (session : Session)
    (hpointer : s.pointer? now r.oldJti = some id) (hnew : s.pointers.get? r.newJti = none) :
    SameBut now (· = id) s (carriedOn now s r id session) := by
  refine (erase_pointer hpointer).trans ⟨fun hid => ?_, fun {jti id'} hid => ?_⟩
  · rw [session?, sessions_carriedOn, Table.get?_set, if_neg hid, session?]
  · rw [pointer?_eq_some_iff, pointer?_eq_some_iff]
    refine exists_congr fun p => and_congr_left fun hp => ?_
    rw [pointers_carriedOn, Table.get?_set_eq_some_iff]
    constructor
    · rintro (⟨-, rfl⟩ | ⟨-, hold⟩)
      · exact absurd hp.2.symm hid
      · exact hold
    · refine fun hold => .inr ⟨?_, hold⟩
      rintro rfl
      cases hnew.symm.trans (Table.get?_erase_eq_some_iff.1 hold).2

/-- An exchange that is refused touches the session to which its token led. -/
theorem rotate_of_spent {r : Rotation} {id : String} (hvalid : r.ttls.isValid)
    (hpointer : s.pointer? now r.oldJti = some id) (hgone : s.session? now id = none) :
    SameBut now (· = id) s (s.rotate now r).2 := by
  refine (erase_pointer hpointer).trans (.of_faded (.rotate_of_spent hvalid fun id' hid' => ?_))
  rw [← Option.some.inj (hpointer.symm.trans hid')]
  exact hgone

/-- A session that is deleted is the only one that is touched, if the pointer that goes with its
record leads to no other. -/
theorem deleteOne {id : String} (later : Nat)
    (hleads : ∀ e, s.sessions.get? id = some e → ∀ id',
      s.pointer? later e.value.currentJti = some id' → id' = id) :
    SameBut later (· = id) s (s.deleteOne now id).2 := by
  rw [SessionStore.deleteOne]
  split
  · exact ⟨fun _ => rfl, fun _ => Iff.rfl⟩
  rename_i e he
  constructor
  case session?_eq =>
    intro id' hid'
    simp [removeFromIndex, session?, Table.get?_erase, hid']
  case pointer?_iff =>
    intro jti id' hid'
    rw [pointer?_eq_some_iff, pointer?_eq_some_iff]
    refine exists_congr fun p => and_congr_left fun hp => ?_
    simp only [removeFromIndex, pointers_purgeIndex, Table.get?_erase_eq_some_iff]
    refine and_iff_right_of_imp fun hold => ?_
    rintro rfl
    exact hid' (hleads e he id' (pointer?_eq_some_iff.2 ⟨p, hold, hp⟩))

/-- Which refresh tokens are in use does not change for those of sessions that are not touched. -/
theorem hasJti_eq (h : SameBut now touched s t) {jti : String}
    (hs : ∀ id, s.pointer? now jti = some id → ¬ touched id)
    (ht : ∀ id, t.pointer? now jti = some id → ¬ touched id) :
    t.hasJti now jti = s.hasJti now jti := by
  refine Bool.eq_iff_iff.2 ⟨fun hused => ?_, fun hused => ?_⟩
  · obtain ⟨id, hid⟩ := Option.isSome_iff_exists.1 hused
    exact Option.isSome_iff_exists.2 ⟨id, (h.pointer?_iff (ht id hid)).1 hid⟩
  · obtain ⟨id, hid⟩ := Option.isSome_iff_exists.1 hused
    exact Option.isSome_iff_exists.2 ⟨id, (h.pointer?_iff (hs id hid)).2 hid⟩

end SameBut

/-! ## Lists of sessions -/

/-- A store in which indexes name the sessions of their users, and records have their own ids. -/
structure Listable (now : Nat) (s : SessionStore) : Prop where
  indexed : Indexed now s
  mentions : ∃ ids jtis, Mentions ids jtis s

theorem Listable.id_eq (h : Listable now s) {id : String} {session : Session}
    (hs : s.session? now id = some session) : session.id = id := by
  obtain ⟨ids, jtis, hm⟩ := h.mentions
  obtain ⟨e, he, -, rfl⟩ := session?_eq_some_iff.1 hs
  exact (hm.session he).2.1

theorem Listable.prunes (h : Listable now s) (hp : Prunes now s t) : Listable now t where
  indexed := hp.induction (fun h hi => hi.prune h) h.indexed
  mentions := by
    obtain ⟨ids, jtis, hm⟩ := h.mentions
    exact ⟨ids, jtis, hp.induction (fun h hm => hm.prune h) hm⟩

theorem Listable.mono {later : Nat} (h : Listable now s) (hle : now ≤ later) : Listable later s :=
  ⟨h.indexed.mono hle, h.mentions⟩

/-- Lists show the same of those sessions of a user that are the same in two stores. -/
theorem filter_listByUser_eq (hs : Listable now s) (ht : Listable now t) {user : UserId}
    (p : Session → Bool) (h : ∀ id session, session.userId = user → p session = true →
      (t.session? now id = some session ↔ s.session? now id = some session)) :
    (t.listByUser now user).1.filter p = (s.listByUser now user).1.filter p := by
  obtain ⟨_, _, hms⟩ := hs.mentions
  obtain ⟨_, _, hmt⟩ := ht.mentions
  have hirrefl : Std.Irrefl fun a b : Session => compare a.id b.id = .lt :=
    ⟨fun a hlt => by simp [Std.ReflCmp.compare_self] at hlt⟩
  have hantisymm : Std.Antisymm fun a b : Session => compare a.id b.id = .lt :=
    ⟨fun a b hlt hgt => by cases hgt.symm.trans (Std.OrientedCmp.gt_of_lt hlt)⟩
  refine List.Pairwise.eq_of_mem_iff ((listByUser_sorted now user hmt).filter p)
    ((listByUser_sorted now user hms).filter p) fun session => ?_
  rw [List.mem_filter, List.mem_filter, mem_listByUser hs.indexed, mem_listByUser ht.indexed]
  refine and_congr_left fun hp => exists_congr fun id => and_congr_left fun huser => ?_
  exact h id session huser hp

/-- Where one session is touched, lists are the same without it. -/
theorem SameBut.listByUser_eq {id : String} (h : SameBut now (· = id) s t) (hs : Listable now s)
    (ht : Listable now t) (user : UserId) :
    (t.listByUser now user).1.filter (·.id ≠ id) =
      (s.listByUser now user).1.filter (·.id ≠ id) := by
  refine filter_listByUser_eq hs ht _ fun id' session _ hne => ?_
  rw [decide_eq_true_eq] at hne
  constructor
  · intro hlive
    rwa [← h.session?_eq (ht.id_eq hlive ▸ hne)]
  · intro hlive
    rwa [h.session?_eq (hs.id_eq hlive ▸ hne)]

/-! ## The sessions of one user -/

/-- Whether a session is live and belongs to a user. -/
def Owns (s : SessionStore) (now : Nat) (user : UserId) (id : String) : Prop :=
  ∃ session, s.session? now id = some session ∧ session.userId = user

/-- A store from which records and pointers are missing, and where the same can be read of all
sessions but those of one user. -/
structure Spares (now : Nat) (user : UserId) (s t : SessionStore) : Prop where
  records : ∀ {id : String} {e : Expiring Session}, t.sessions.get? id = some e →
    s.sessions.get? id = some e
  pointers : ∀ {jti id : String}, t.pointer? now jti = some id → s.pointer? now jti = some id
  same : SameBut now (s.Owns now user) s t

namespace Spares

variable {user other : UserId}

theorem of_faded (h : Faded now s t) : Spares now user s t where
  records {id e} he := by
    rcases h.sessions id with heq | ⟨hnone, -⟩
    · exact heq ▸ he
    · cases hnone.symm.trans he
  pointers hid := h.pointer?_eq _ ▸ hid
  same := .of_faded h

/-- What makes the store lose entries brings no records and no pointers. -/
theorem of_prunes (h : Spares now user s t) (hp : Prunes now t u)
    (hsame : SameBut now (s.Owns now user) s u) : Spares now user s u where
  records he := h.records (hp.sessions_get? he)
  pointers hid := by
    obtain ⟨p, hp', hrest⟩ := pointer?_eq_some_iff.1 hid
    exact h.pointers (pointer?_eq_some_iff.2 ⟨p, hp.pointers_get? hp', hrest⟩)
  same := hsame

theorem sweepUser (h : Spares now user s t) (swept : UserId) :
    Spares now user s (t.sweepUser now swept).2 :=
  h.of_prunes (prunes_sweepUser now t swept) (h.same.trans (.sweepUser (Nat.le_refl _) swept))

/-- A session of the user may be deleted, with the pointer that leads to it. -/
theorem deleteOne (h : Spares now user s t) (hpaired : Paired s) {id : String}
    (hid : s.Owns now user id) : Spares now user s (t.deleteOne now id).2 := by
  refine h.of_prunes (prunes_deleteOne now t id) (h.same.trans ?_)
  refine (SameBut.deleteOne now fun e he id' hlead => ?_).mono fun _ heq => heq ▸ hid
  obtain ⟨p, hp, -, rfl⟩ := pointer?_eq_some_iff.1 (h.pointers hlead)
  exact (hpaired.leads_iff hp (h.records he)).2 rfl

theorem delete (h : Spares now user s t) (hpaired : Paired s) {ids : List String}
    (hids : ∀ id ∈ ids, s.Owns now user id) : Spares now user s (t.delete now ids).2 := by
  induction ids generalizing t with
  | nil => exact h
  | cons id ids ih =>
    obtain ⟨hid, hids⟩ := List.forall_mem_cons.1 hids
    exact ih (h.deleteOne hpaired hid) hids

/-- What is listed for the user are sessions that may be deleted. -/
theorem owns_of_mem_listByUser (hs : Listable now s) {session : Session}
    (h : session ∈ (s.listByUser now user).1) : s.Owns now user session.id := by
  obtain ⟨id, hlive, huser⟩ := (mem_listByUser hs.indexed).1 h
  exact ⟨session, hs.id_eq hlive ▸ hlive, huser⟩

/-! ### What others see -/

/-- The sessions of all others stay, and none are added. -/
theorem session?_iff (h : Spares now user s t) {id : String} {session : Session}
    (hother : session.userId ≠ user) :
    t.session? now id = some session ↔ s.session? now id = some session := by
  constructor
  · intro hlive
    obtain ⟨e, he, hafter⟩ := session?_eq_some_iff.1 hlive
    exact session?_eq_some_iff.2 ⟨e, h.records he, hafter⟩
  · intro hlive
    rw [h.same.session?_eq, hlive]
    rintro ⟨session', hlive', huser⟩
    cases hlive.symm.trans hlive'
    exact hother huser

theorem listByUser_eq (h : Spares now user s t) (hs : Listable now s) (ht : Listable now t)
    (hother : other ≠ user) : (t.listByUser now other).1 = (s.listByUser now other).1 := by
  have hall := filter_listByUser_eq hs ht (fun _ => true) fun _ _ huser _ =>
    h.session?_iff (huser ▸ hother)
  rwa [List.filter_true, List.filter_true] at hall

/-- Refresh tokens are no longer in use only if they led to sessions of the user. -/
theorem owns_of_hasJti_ne (h : Spares now user s t) {jti : String}
    (hne : t.hasJti now jti ≠ s.hasJti now jti) :
    ∃ id, s.pointer? now jti = some id ∧ s.Owns now user id := by
  by_contra hnone
  have hspared : ∀ id, s.pointer? now jti = some id → ¬ s.Owns now user id :=
    fun id hid howns => hnone ⟨id, hid, howns⟩
  exact hne (h.same.hasJti_eq hspared fun id hid => hspared id (h.pointers hid))

end Spares
end SessionStore
end SessionAuth
