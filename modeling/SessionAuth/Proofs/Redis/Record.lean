import SessionAuth.Proofs.Authorization.Subject
import SessionAuth.Redis.Sessions

/-!
# Records of sessions in Redis

A session is written field by field by one script, and carried on by another that writes some of the
fields again.  What the two know of each other, and of the function that reads a record, is the
names of the fields and the places of the arguments.

* `Tells` says what the fields of a record tell of a session: it holds once a session was created
  (`tells_created`), and it is kept when the session is carried on (`Tells.rotated`).
* `Tells.readSession_eq` reads the session back, with its times rounded down to whole seconds.
* `Entry.key_injective` says that no two entries share a key, whatever their kinds.

The scripts that carry a session on or delete it make some keys themselves, from what the record
says; `readSession_rotations` puts all of this together.
-/

set_option autoImplicit false

namespace SessionAuth

/-! ## Whole seconds -/

namespace Timestamp

/-- Whether a time is in the range of the calendar. -/
def InCalendar (t : Timestamp) : Prop := minSeconds ≤ t.second ∧ t.second ≤ maxSeconds

/-- The time rounded down to whole seconds. -/
def floor (t : Timestamp) : Timestamp := ofSeconds t.second

theorem intoSecond_nonneg (t : Timestamp) : 0 ≤ t.intoSecond := by
  simp only [intoSecond, second, seconds, nanosPerSecond]
  split <;> omega

/-- Of all times in whole seconds, `floor` is the latest one that is not after a time. -/
theorem isLE_ofSeconds_iff {s : Int} {t : Timestamp} :
    (compare (ofSeconds s) t).isLE ↔ s ≤ t.floor.second := by
  have hsecond : ∀ s : Int, (ofSeconds s).second = s := seconds_ofSeconds
  have hinto : (ofSeconds s).intoSecond = 0 := by
    rw [intoSecond, hsecond]
    exact Int.sub_self _
  show ((compare (ofSeconds s).second t.second).then
    (compare (ofSeconds s).intoSecond t.intoSecond)).isLE ↔ _
  rw [floor, hsecond, hsecond, hinto, Ordering.isLE_then_iff_or]
  have hnonneg : (compare 0 t.intoSecond).isLE := Int.isLE_compare.2 t.intoSecond_nonneg
  rw [Int.compare_eq_lt, Int.compare_eq_eq]
  simp only [hnonneg, and_true]
  omega

end Timestamp

/-- Whether the times of a session are in the range of the calendar. -/
def Session.InCalendar (s : Session) : Prop :=
  s.createdAt.InCalendar ∧ s.updatedAt.InCalendar ∧ s.expiresAt.InCalendar

/-- Whether the times of a rotation are in the range of the calendar. -/
def Rotation.InCalendar (r : Rotation) : Prop := r.updatedAt.InCalendar ∧ r.expiresAt.InCalendar

/-- The session with its times rounded down to whole seconds. -/
def Session.floor (s : Session) : Session :=
  { s with
    createdAt := s.createdAt.floor
    updatedAt := s.updatedAt.floor
    expiresAt := s.expiresAt.floor }

namespace Redis

open Text

/-! ## The keys of entries -/

/-- What is kept in Redis: the records, pointers and indexes of the session store, and the entries
of the cache. -/
inductive Entry where
  | record (id : String)
  | pointer (jti : String)
  | index (user : UserId)
  | cached (subject : Subject)

namespace Entry

/-- The key of an entry without what all keys begin with. -/
def name : Entry → String
  | record id => Keys.session id
  | pointer jti => Keys.jti jti
  | index user => Keys.userSessions user.toText
  | cached subject => subject.key

/-- The key of an entry. -/
def key (c : Client) : Entry → String
  | record id => c.recordKey id
  | pointer jti => c.pointerKey jti
  | index user => c.indexKey user
  | cached subject => c.key subject.key

/-- The families of keys. -/
inductive Family where
  | records | pointers | indexes | facts | permissions
  deriving DecidableEq

/-- How the names of a family begin. -/
def Family.start : Family → String
  | records => "session:id:"
  | pointers => "session:jti:"
  | indexes => "session:user:"
  | facts => "authz:user:"
  | permissions => "authz:role:"

/-- No family begins as another one does, not even when only nine characters are compared. -/
theorem Family.take_start_injective : Function.Injective fun f => (start f).toList.take 9 := by
  intro f f'
  cases f <;> cases f' <;> decide

theorem Family.le_length_start (f : Family) : 9 ≤ f.start.toList.length := by
  cases f <;> decide

def family : Entry → Family
  | record _ => .records
  | pointer _ => .pointers
  | index _ => .indexes
  | cached (.user _) => .facts
  | cached (.role _) => .permissions

/-- What the key of an entry tells besides its family. -/
def own : Entry → String
  | record id => id
  | pointer jti => jti
  | index user => user.toText
  | cached (.user id) => id.toText
  | cached (.role role) => role.name

theorem name_eq (e : Entry) : e.name = e.family.start ++ e.own := by
  cases e with
  | record | pointer | index => rfl
  | cached subject => cases subject <;> rfl

theorem key_eq (c : Client) (e : Entry) : e.key c = c.keyPrefix ++ e.name := by
  cases e <;> rfl

theorem name_injective : Function.Injective name := by
  intro e e' h
  have hfamily : e.family = e'.family := by
    have htake := congrArg (fun s => s.toList.take 9) h
    simp only [name_eq, String.toList_append,
      List.take_append_of_le_length (Family.le_length_start _)] at htake
    exact Family.take_start_injective htake
  have hcancel : ∀ {start s t : String}, start ++ s = start ++ t → s = t := fun hst => by
    rw [← String.toList_inj] at hst ⊢
    simpa using hst
  -- where the families differ there is nothing to show
  match e, e', h, hfamily with
  | record _, record _, h, _ => exact congrArg record (hcancel h)
  | pointer _, pointer _, h, _ => exact congrArg pointer (hcancel h)
  | index _, index _, h, _ => exact congrArg index (Uuid.toText_injective (hcancel h))
  | cached (.user _), cached (.user _), h, _ => exact congrArg cached (Subject.key_injective h)
  | cached (.role _), cached (.role _), h, _ => exact congrArg cached (Subject.key_injective h)

/-- No two entries have the same key. -/
theorem key_injective (c : Client) : Function.Injective (key c) := by
  intro e e' h
  rw [key_eq, key_eq, ← String.toList_inj, String.toList_append, String.toList_append,
    List.append_cancel_left_eq, String.toList_inj] at h
  exact name_injective h

end Entry

/-! ## Times -/

/-- A time that was written is read as its whole seconds. -/
theorem readTime?_writeTime {t : Timestamp} (h : t.InCalendar) :
    readTime? (writeTime t) = some t.floor := by
  have hint64 : minInt64 ≤ t.second ∧ t.second ≤ maxInt64 := by
    obtain ⟨hmin, hmax⟩ := h
    simp only [Timestamp.minSeconds, Timestamp.maxSeconds] at hmin hmax
    simp only [minInt64, maxInt64]
    omega
  rw [readTime?, writeTime, readInt64?, readInt?_writeInt, Option.filter_some,
    if_pos (decide_eq_true hint64), Option.bind_some]
  exact if_pos h

/-! ## What records tell -/

/-- The record after a script wrote some fields of it. -/
def write (record : Table String String) (written : List (String × String)) :
    Table String String :=
  written.foldl (fun record field => record.set field.1 field.2) record

/-- The record of a session that was created. -/
def created (s : Session) (ttls : Ttls) : Table String String :=
  write .empty (writtenBy createdFields (createArguments s ttls))

/-- The record of a session that is carried on. -/
def rotated (c : Client) (record : Table String String) (r : Rotation) : Table String String :=
  write record (writtenBy rotatedFields (rotateArguments c r))

/-- What the fields of a record tell of a session. -/
structure Tells (record : Table String String) (s : Session) : Prop where
  id : record.get? "id" = some s.id
  userId : record.get? "user_id" = some s.userId.toText
  device : record.get? "device" = some s.device
  ip : record.get? "ip" = some s.ip
  currentJti : record.get? "current_jti" = some s.currentJti
  createdAt : record.get? "created_at" = some (writeTime s.createdAt)
  updatedAt : record.get? "updated_at" = some (writeTime s.updatedAt)
  expiresAt : record.get? "expires_at" = some (writeTime s.expiresAt)

theorem tells_created (s : Session) (ttls : Ttls) : Tells (created s ttls) s := by
  constructor <;>
    simp [created, write, writtenBy, createdFields, createArguments, argument, Table.get?_set]

/-- What is written for a session that is carried on leaves the other fields as they are. -/
theorem Tells.rotated {record : Table String String} {s : Session} (h : Tells record s) (c : Client)
    (r : Rotation) : Tells (rotated c record r) (s.rotated r) := by
  constructor <;>
    simp [Redis.rotated, write, writtenBy, rotatedFields, rotateArguments, argument, Table.get?_set,
      Session.rotated, h.id, h.userId, h.createdAt]

theorem Tells.rotations {record : Table String String} {s : Session} (h : Tells record s)
    (c : Client) (rs : List Rotation) :
    Tells (rs.foldl (Redis.rotated c) record) (rs.foldl Session.rotated s) := by
  induction rs generalizing record s with
  | nil => exact h
  | cons r rs ih => exact ih (h.rotated c r)

/-- A session whose times are in the range of the calendar is read as it is told, with its times
in whole seconds. -/
theorem Tells.readSession_eq {record : Table String String} {s : Session} (h : Tells record s)
    (hs : s.InCalendar) : readSession record = some s.floor := by
  obtain ⟨hcreated, hupdated, hexpires⟩ := hs
  simp only [readSession, h.id, h.userId, h.device, h.ip, h.currentJti, h.createdAt, h.updatedAt,
    h.expiresAt, Option.bind_some, Uuid.ofText?_toText, readTime?_writeTime hcreated,
    readTime?_writeTime hupdated, readTime?_writeTime hexpires]
  rfl

/-- The index that a script finds for a record is that of the owner of the session. -/
theorem Tells.index {record : Table String String} {s : Session} (h : Tells record s)
    (c : Client) {k : MadeKey} {arguments : List String} (hfield : k.field = "user_id")
    (hstart : argument arguments k.start = c.indexPrefix) :
    k.key? arguments record = some (c.indexKey s.userId) := by
  rw [MadeKey.key?, hfield, h.userId, hstart]
  simp [Client.indexPrefix, Client.indexKey, Client.key, Keys.userSessions, String.append_assoc]

/-- The pointer that a script finds for a record is that of the present refresh token. -/
theorem Tells.pointer {record : Table String String} {s : Session} (h : Tells record s)
    (c : Client) :
    deletedPointer.key? (deleteArguments c) record = some (c.pointerKey s.currentJti) := by
  have hstart : argument (deleteArguments c) deletedPointer.start = c.pointerPrefix := rfl
  rw [MadeKey.key?, hstart, deletedPointer, h.currentJti]
  simp [Client.pointerPrefix, Client.pointerKey, Client.key, Keys.jti, String.append_assoc]

/-- A session that was carried on some times is as the last time left it. -/
theorem foldl_rotated (s : Session) (rs : List Rotation) :
    rs.foldl Session.rotated s = rs.getLast?.elim s s.rotated := by
  rcases List.eq_nil_or_concat rs with rfl | ⟨rs, r, rfl⟩
  · rfl
  have hrotated : ∀ (rs : List Rotation) (s : Session),
      (rs.foldl Session.rotated s).rotated r = s.rotated r := by
    intro rs
    induction rs with
    | nil => exact fun _ => rfl
    | cons r' rs ih => exact fun s => (ih (s.rotated r')).trans rfl
  simp [hrotated]

/-- **What is written of a session is read back.**  After a session was created and carried on any
number of times, its record is read as the session as the last rotation left it, with the times
rounded down to whole seconds.  The index and the pointer that the scripts find from the record are
those of its owner and of its present refresh token, and no two entries share a key. -/
theorem readSession_rotations (c : Client) (s : Session) (ttls : Ttls) (rs : List Rotation)
    (hs : s.InCalendar) (hrs : ∀ r ∈ rs, r.InCalendar) :
    let latest := rs.getLast?.elim s s.rotated
    let record := rs.foldl (rotated c) (created s ttls)
    readSession record = some latest.floor ∧
      (∀ r, rotatedIndex.key? (rotateArguments c r) record = some (c.indexKey s.userId)) ∧
      deletedIndex.key? (deleteArguments c) record = some (c.indexKey s.userId) ∧
      deletedPointer.key? (deleteArguments c) record = some (c.pointerKey latest.currentJti) ∧
      Function.Injective (Entry.key c) := by
  intro latest record
  have htells : Tells record latest := by
    have h := (tells_created s ttls).rotations c rs
    rwa [foldl_rotated] at h
  have howner : latest.userId = s.userId := by
    cases h : rs.getLast? <;> simp [latest, h, Session.rotated]
  have hlatest : latest.InCalendar := by
    cases h : rs.getLast? with
    | none => simpa [latest, h] using hs
    | some r => simpa [latest, h] using ⟨hs.1, hrs r (List.mem_of_getLast? h)⟩
  refine ⟨htells.readSession_eq hlatest, fun r => ?_, ?_, htells.pointer c, Entry.key_injective c⟩
  · exact howner ▸ htells.index c rfl rfl
  · exact howner ▸ htells.index c rfl rfl

/-- A session from just before the epoch, and two rotations of it. -/
def beforeEpoch (user : UserId) : Session × List Rotation :=
  let rotation (old new : String) (nanos : Int) : Rotation :=
    ⟨old, new, "10.0.0.2", "phone", ⟨nanos, false⟩, ⟨nanos, false⟩, ⟨60, 60⟩⟩
  (⟨"s", user, "laptop", "10.0.0.1", "a", ⟨-1, false⟩, ⟨-1, false⟩, ⟨-1, false⟩⟩,
    [rotation "a" "b" (-1), rotation "b" "c" 1500000000])

theorem readSession_rotations_beforeEpoch :
    let c : Client := ⟨"app:", 2000⟩
    let (s, rs) := beforeEpoch .nil
    s.InCalendar ∧ (∀ r ∈ rs, r.InCalendar) ∧
      readSession (rs.foldl (rotated c) (created s ⟨60, 60⟩)) =
        some ⟨"s", .nil, "phone", "10.0.0.2", "c", .ofSeconds (-1), .ofSeconds 1, .ofSeconds 1⟩ ∧
      deletedPointer.key? (deleteArguments c) (rs.foldl (rotated c) (created s ⟨60, 60⟩)) =
        some "app:session:jti:c" := by
  have hs : (beforeEpoch .nil).1.InCalendar := by
    refine ⟨?_, ?_, ?_⟩ <;> exact ⟨by decide, by decide⟩
  have hrs : ∀ r ∈ (beforeEpoch .nil).2, r.InCalendar := by
    intro r hr
    simp only [beforeEpoch, List.mem_cons, List.not_mem_nil, or_false] at hr
    rcases hr with rfl | rfl <;> refine ⟨?_, ?_⟩ <;> exact ⟨by decide, by decide⟩
  obtain ⟨hread, -, -, hpointer, -⟩ :=
    readSession_rotations ⟨"app:", 2000⟩ (beforeEpoch .nil).1 ⟨60, 60⟩ (beforeEpoch .nil).2 hs hrs
  exact ⟨hs, hrs, hread.trans rfl, hpointer.trans rfl⟩

end Redis
end SessionAuth
