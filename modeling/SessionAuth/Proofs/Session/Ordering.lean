import SessionAuth.Proofs.Collection.Latest
import SessionAuth.Proofs.Session.Sparing
import SessionAuth.Session.Lifecycle

/-!
# The sessions of a user, the latest first

The store lists the sessions of a user by their ids; they are shown in another order, those first
that were used last (`SessionStore.latest`).  The order is strict, since no two of them have the same
id, and a session that is carried on moves in it while the others stay as they are
(`latest_of_sameBut`).
-/

set_option autoImplicit false

namespace SessionAuth

/-- Whether a session comes strictly before another in lists. -/
abbrev Session.ComesBefore : Session → Session → Prop :=
  SessionAuth.ComesBefore Session.updatedAt Session.id

/-! ## Lists without a repeated id -/

section Ids

variable {session : Session}

theorem Session.id_ne_of_nodup {before after : List Session}
    (h : ((before ++ session :: after).map (·.id)).Nodup) :
    ∀ other ∈ before ++ after, other.id ≠ session.id := by
  rw [List.map_append, List.map_cons, List.nodup_middle, List.nodup_cons, ← List.map_append] at h
  exact fun other hother heq => h.1 (heq ▸ List.mem_map_of_mem hother)

theorem Session.filter_id_eq {sessions : List Session} (h : (sessions.map (·.id)).Nodup)
    (hmem : session ∈ sessions) : sessions.filter (·.id = session.id) = [session] := by
  obtain ⟨before, after, rfl⟩ := List.append_of_mem hmem
  have hne := Session.id_ne_of_nodup h
  rw [List.filter_append, List.filter_cons_of_pos (by simp), List.filter_eq_nil_iff.2,
    List.filter_eq_nil_iff.2, List.nil_append]
  · exact fun other hother => by simpa using hne other (List.mem_append_right _ hother)
  · exact fun other hother => by simpa using hne other (List.mem_append_left _ hother)

end Ids

/-! ## The order of a list -/

namespace SessionStore

variable {now : Nat} {s t : SessionStore} {user : UserId}

/-- The live sessions of a user, the one that was used last first. -/
def latest (s : SessionStore) (now : Nat) (user : UserId) : List Session :=
  (s.listByUser now user).1.mergeSort Sessions.precedes

theorem mem_latest (h : Listable now s) {session : Session} :
    session ∈ s.latest now user ↔
      s.session? now session.id = some session ∧ session.userId = user := by
  rw [latest, List.mem_mergeSort, mem_listByUser h.indexed]
  constructor
  · rintro ⟨id, hlive, huser⟩
    exact ⟨h.id_eq hlive ▸ hlive, huser⟩
  · rintro ⟨hlive, huser⟩
    exact ⟨_, hlive, huser⟩

theorem nodup_map_id_listByUser (h : Listable now s) (user : UserId) :
    ((s.listByUser now user).1.map (·.id)).Nodup := by
  obtain ⟨_, _, hmentions⟩ := h.mentions
  refine List.pairwise_map.2 ((listByUser_sorted now user hmentions).imp fun hlt heq => ?_)
  simp [heq, Std.ReflCmp.compare_self] at hlt

theorem nodup_map_id_latest (h : Listable now s) (user : UserId) :
    ((s.latest now user).map (·.id)).Nodup :=
  ((List.mergeSort_perm ..).map _).nodup_iff.2 (nodup_map_id_listByUser h user)

theorem latest_comesBefore (h : Listable now s) (user : UserId) :
    (s.latest now user).Pairwise Session.ComesBefore :=
  pairwise_mergeSort_comesBefore (nodup_map_id_listByUser h user)

/-- Where one session is touched, the others are listed as they were. -/
theorem filter_latest_eq {id : String} (h : SameBut now (· = id) s t) (hs : Listable now s)
    (ht : Listable now t) (user : UserId) :
    (t.latest now user).filter (·.id ≠ id) = (s.latest now user).filter (·.id ≠ id) := by
  refine eq_of_mem_iff_comesBefore ((latest_comesBefore ht user).filter _)
    ((latest_comesBefore hs user).filter _) fun session => ?_
  simp only [List.mem_filter, mem_latest hs, mem_latest ht, decide_eq_true_eq]
  refine and_congr_left fun hne => ?_
  rw [h.session?_eq hne]

/-- **A session that is used moves to the front**, up to those that were not used before it.  The
others are listed as they were. -/
theorem latest_of_sameBut {session : Session} (h : SameBut now (· = session.id) s t)
    (hs : Listable now s) (ht : Listable now t)
    (hlive : t.session? now session.id = some session) :
    ∃ before after, t.latest now session.userId = before ++ session :: after ∧
      before ++ after = (s.latest now session.userId).filter (·.id ≠ session.id) ∧
      ∀ other ∈ before, compare other.updatedAt session.updatedAt ≠ .lt := by
  obtain ⟨before, after, hlatest⟩ := List.append_of_mem ((mem_latest ht).2 ⟨hlive, rfl⟩)
  refine ⟨before, after, hlatest, ?_, fun other hother hlt => ?_⟩
  · have hothers := Session.id_ne_of_nodup (hlatest ▸ nodup_map_id_latest ht session.userId)
    rw [← filter_latest_eq h hs ht, hlatest, List.filter_append, List.filter_cons_of_neg (by simp),
      ← List.filter_append]
    exact (List.filter_eq_self.2 fun other hother => by simpa using hothers other hother).symm
  · have hpairs := latest_comesBefore ht session.userId
    rw [hlatest] at hpairs
    have hbefore := (List.pairwise_append.1 hpairs).2.2 other hother session (List.mem_cons_self ..)
    exact (comesBefore_of_later hlt).asymm hbefore

end SessionStore
end SessionAuth
