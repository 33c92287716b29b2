import SessionAuth.Proofs.Json.Read
import SessionAuth.Proofs.Json.Record
import SessionAuth.Token.Codec

/-!
# Which headers are read

The header of a token is read as a JSON object of which only the algorithm is kept.  The other
members are looked at nevertheless, and one of the wrong form makes the header unreadable.
`IsHeader` says what the members have to be, without the reader: the algorithm is a known one, a
member with a meaning has the form that belongs to it and stands once, and all others are texts.

`header_eq_ok_iff` and `decodeOctets_header_iff` say that these are the values and the octets that
are read as the header of an algorithm.
-/

set_option autoImplicit false

namespace SessionAuth
namespace Codec

open Json (Record)

variable {alg : String} {v : Json} {ms : List (String × Json)}

/-! ## What a header is -/

/-- A value that stands for a name: the text, or an object with the name as its only key. -/
def Names (name : String) (v : Json) : Prop := v = .str name ∨ v = .obj [(name, .null)]

/-- The members with some names are texts, where they are not missing or null. -/
def Texts (names : List String) (ms : List (String × Json)) : Prop :=
  ∀ n ∈ names, ∀ v, ms.lookup n = some v → v = .null ∨ ∃ s, v = .str s

/-- The members with some names are lists of texts, where they are not missing or null. -/
def Lists (names : List String) (ms : List (String × Json)) : Prop :=
  ∀ n ∈ names, ∀ v, ms.lookup n = some v → v = .null ∨ ∃ ss : List String, v = .arr (ss.map .str)

/-- The algorithm of a key: a text, or an object with one key and nothing behind it. -/
def IsKeyAlgorithm (v : Json) : Prop :=
  (∃ s, v = .str s) ∨ ∃ s, v = .obj [(s, .null)] ∨ v = .obj [(s, .obj [])]

/-- The value of a member that belongs to a type of keys: a curve, or a text. -/
def IsKeyMember (name : String) (v : Json) : Prop :=
  if name = "crv" then ∃ curve ∈ curves, Names curve v else ∃ s, v = .str s

/-- The members of a key of a type, with those that belong to it. -/
structure HasType (kty : String) (names : List String) (ms : List (String × Json)) : Prop where
  type : ∃ v, ms.lookup "kty" = some v ∧ Names kty v
  members : ∀ n ∈ names, ∃ v, ms.lookup n = some v ∧ IsKeyMember n v
  once : Record.Once ("kty" :: names) ms

/-- The members of a key in a header. -/
structure IsKey (ms : List (String × Json)) : Prop where
  keepable : (Json.obj ms).isKeepable
  texts : Texts keyTexts ms
  lists : Lists keyLists ms
  algorithm : ∀ v, ms.lookup "alg" = some v → v = .null ∨ IsKeyAlgorithm v
  once : Record.Once (keyTexts ++ keyLists ++ ["alg"]) ms
  hasType : ∃ kty names, (kty, names) ∈ keyMembers ∧ HasType kty names ms

/-- The members of a header with a meaning. -/
def memberNames : List String := "alg" :: textMembers ++ listMembers ++ ["jwk"]

/-- The members of a header that names an algorithm. -/
structure IsHeader (alg : String) (ms : List (String × Json)) : Prop where
  known : alg ∈ algorithms
  algorithm : ∃ v, ms.lookup "alg" = some v ∧ Names alg v
  texts : Texts textMembers ms
  lists : Lists listMembers ms
  key : ∀ v, ms.lookup "jwk" = some v → v = .null ∨ ∃ members, v = .obj members ∧ IsKey members
  once : Record.Once memberNames ms
  others : ∀ m ∈ ms, m.1 ∉ memberNames → ∃ s, m.2 = .str s

/-! ## The parts of a header -/

theorem oneOf_eq_ok_iff {names : List String} {name : String} :
    oneOf names v = .ok name ↔ name ∈ names ∧ Names name v := by
  have hlookup : ∀ k, (names.map fun n => (n, n)).lookup k = some name ↔
      name ∈ names ∧ k = name := by
    intro k
    constructor
    · intro hk
      obtain ⟨before, after, hsplit, -⟩ := List.lookup_eq_some_iff.1 hk
      have hmem : (k, name) ∈ names.map fun n => (n, n) :=
        hsplit ▸ List.mem_append_right _ (List.mem_cons_self ..)
      obtain ⟨n, hn, heq⟩ := List.mem_map.1 hmem
      cases heq
      exact ⟨hn, rfl⟩
    · rintro ⟨hname, rfl⟩
      exact List.lookup_graph (fun n => n) hname
  rw [oneOf, Json.Decode.name_eq_ok_iff]
  simp only [hlookup]
  constructor
  · rintro ⟨k, ⟨hname, rfl⟩, hv⟩
    exact ⟨hname, hv⟩
  · rintro ⟨hname, hv⟩
    exact ⟨name, ⟨hname, rfl⟩, hv⟩

theorem keyAlgorithm_eq_ok_iff : keyAlgorithm v = .ok () ↔ IsKeyAlgorithm v := by
  constructor
  · intro h
    unfold keyAlgorithm at h
    split at h
    · exact .inl ⟨_, rfl⟩
    · exact .inr ⟨_, .inl rfl⟩
    · exact .inr ⟨_, .inr rfl⟩
    · cases h
  · rintro (⟨s, rfl⟩ | ⟨s, rfl | rfl⟩) <;> rfl

theorem reads_glances_iff {texts lists : List String} {d : Json.Decoder Unit} {name : String} :
    (∀ other ∈ glances texts lists name d, Record.Reads other ms ()) ↔
      Texts texts ms ∧ Lists lists ms ∧
        ∀ v, ms.lookup name = some v → v = .null ∨ d v = .ok () := by
  simp only [glances, List.forall_mem_append, List.forall_mem_map, List.forall_mem_singleton,
    Record.reads_glance_iff, Json.Decode.string_eq_ok_iff, Json.Decode.strings_eq_ok_iff,
    Unique.exists_iff, PUnit.default_eq_unit, Texts, Lists, and_assoc]

/-! ## Keys -/

section Keys

variable {kty : String} {names : List String}

theorem reads_anyKey_iff : Record.Reads anyKey ms () ↔ Texts keyTexts ms ∧ Lists keyLists ms ∧
    ∀ v, ms.lookup "alg" = some v → v = .null ∨ IsKeyAlgorithm v := by
  have hpure : Record.Reads (pure ()) ms () := ⟨fun _ hf => absurd hf List.not_mem_nil, rfl⟩
  rw [anyKey, Record.reads_beside_iff, and_iff_right hpure, reads_glances_iff]
  simp only [keyAlgorithm_eq_ok_iff]

theorem reads_keyMember_iff {name : String} : Record.Reads (keyMember name) ms () ↔
    ∃ v, ms.lookup name = some v ∧ IsKeyMember name v := by
  simp only [keyMember, Record.reads_map_iff, Record.reads_required_iff, and_true]
  rw [exists_comm]
  refine exists_congr fun v => ?_
  rw [IsKeyMember]
  split
  · simp only [oneOf_eq_ok_iff, exists_and_left]
  · simp only [Json.Decode.string_eq_ok_iff, exists_and_left]

theorem reads_keyOf_iff : Record.Reads (keyOf kty names) ms () ↔
    (∃ v, ms.lookup "kty" = some v ∧ Names kty v) ∧
      ∀ n ∈ names, ∃ v, ms.lookup n = some v ∧ IsKeyMember n v := by
  rw [keyOf, Record.reads_beside_iff]
  simp only [List.forall_mem_map, reads_keyMember_iff, Record.reads_map_iff,
    Record.reads_required_iff, oneOf_eq_ok_iff, List.mem_singleton, and_true]
  refine and_congr_left fun _ => ?_
  constructor
  · rintro ⟨_, v, hv, rfl, hname⟩
    exact ⟨v, hv, hname⟩
  · rintro ⟨v, hv, hname⟩
    exact ⟨kty, v, hv, rfl, hname⟩

/-- Where other members are passed over, a record is decoded if it is read and has no name twice. -/
theorem ofMembers_passing_iff {r : Record Unit} (hfields : (r.fields.map (·.name)).Nodup) :
    r.ofMembers (fun _ _ => .ok ()) ms = .ok () ↔
      Record.Once (r.fields.map (·.name)) ms ∧ Record.Reads r ms () := by
  rw [Record.ofMembers_eq_ok_iff hfields]
  exact and_congr_left fun _ => ⟨fun h => h.once, fun h => ⟨h, fun _ _ _ => rfl⟩⟩

theorem keyOf_eq_ok_iff (h : (kty, names) ∈ keyMembers) :
    (keyOf kty names).ofMembers (fun _ _ => .ok ()) ms = .ok () ↔ HasType kty names ms := by
  have hnames : ∀ p ∈ keyMembers, (keyOf p.1 p.2).fields.map (·.name) = "kty" :: p.2 := by decide
  have hnodup : ∀ p ∈ keyMembers, ("kty" :: p.2).Nodup := by decide
  have hfields := hnames _ h
  rw [ofMembers_passing_iff (hfields ▸ hnodup _ h), hfields, reads_keyOf_iff]
  exact ⟨fun ⟨honce, htype, hmembers⟩ => ⟨htype, hmembers, honce⟩,
    fun h => ⟨h.once, h.type, h.members⟩⟩

theorem hasKeyType_iff : hasKeyType ms = true ↔
    ∃ kty names, (kty, names) ∈ keyMembers ∧ HasType kty names ms := by
  have hisOk : ∀ x : Except Json.Objection Unit, x.isOk = true ↔ x = .ok () := by
    rintro (_ | ⟨⟩) <;> simp [Except.isOk, Except.toBool]
  rw [hasKeyType, List.any_eq_true]
  constructor
  · rintro ⟨⟨kty, names⟩, hmem, hok⟩
    exact ⟨kty, names, hmem, (keyOf_eq_ok_iff hmem).1 ((hisOk _).1 hok)⟩
  · rintro ⟨kty, names, hmem, htype⟩
    exact ⟨(kty, names), hmem, (hisOk _).2 ((keyOf_eq_ok_iff hmem).2 htype)⟩

theorem headerKey_obj_eq_ok_iff : headerKey (.obj ms) = .ok () ↔ IsKey ms := by
  have hsteps : headerKey (.obj ms) = .ok () ↔ (Json.obj ms).isKeepable = true ∧
      anyKey.ofMembers (fun _ _ => .ok ()) ms = .ok () ∧ hasKeyType ms = true := by
    rw [headerKey]
    cases (Json.obj ms).isKeepable with
    | false => exact iff_of_false (by rintro ⟨⟩) (by rintro ⟨⟨⟩, -⟩)
    | true =>
      rw [and_iff_right rfl]
      refine Json.check_bind_eq_ok_iff.trans (and_congr_right fun _ => ?_)
      cases hasKeyType ms <;> simp
  rw [hsteps, ofMembers_passing_iff (by decide), reads_anyKey_iff, hasKeyType_iff]
  constructor
  · rintro ⟨hkeepable, ⟨honce, htexts, hlists, halgorithm⟩, htype⟩
    exact ⟨hkeepable, htexts, hlists, halgorithm, honce, htype⟩
  · intro h
    exact ⟨h.keepable, ⟨h.once, h.texts, h.lists, h.algorithm⟩, h.hasType⟩

theorem headerKey_eq_ok_iff : headerKey v = .ok () ↔ ∃ ms, v = .obj ms ∧ IsKey ms := by
  constructor
  · intro h
    cases v with
    | obj ms => exact ⟨ms, rfl, headerKey_obj_eq_ok_iff.1 h⟩
    | _ => cases h
  · rintro ⟨ms, rfl, h⟩
    exact headerKey_obj_eq_ok_iff.2 h

end Keys

/-! ## Headers -/

theorem reads_headerRecord_iff : Record.Reads headerRecord ms alg ↔
    (∃ v, ms.lookup "alg" = some v ∧ alg ∈ algorithms ∧ Names alg v) ∧
      Texts textMembers ms ∧ Lists listMembers ms ∧
        ∀ v, ms.lookup "jwk" = some v →
          v = .null ∨ ∃ members, v = .obj members ∧ IsKey members := by
  rw [headerRecord, Record.reads_beside_iff, Record.reads_required_iff, reads_glances_iff]
  simp only [oneOf_eq_ok_iff, headerKey_eq_ok_iff]

theorem header_obj_eq_ok_iff : header (.obj ms) = .ok alg ↔ IsHeader alg ms := by
  refine (Record.ofMembers_eq_ok_iff (by decide)).trans ?_
  rw [reads_headerRecord_iff]
  constructor
  · rintro ⟨⟨honce, hothers⟩, ⟨v, hv, hknown, hname⟩, htexts, hlists, hkey⟩
    refine ⟨hknown, ⟨v, hv, hname⟩, htexts, hlists, hkey, honce, fun m hm hother => ?_⟩
    obtain ⟨s, hs, -⟩ := Json.map_eq_ok_iff.1 (hothers m hm hother)
    exact ⟨s, Json.Decode.string_eq_ok_iff.1 hs⟩
  · intro h
    obtain ⟨v, hv, hname⟩ := h.algorithm
    refine ⟨⟨h.once, fun m hm hother => ?_⟩, ⟨v, hv, h.known, hname⟩, h.texts, h.lists, h.key⟩
    obtain ⟨s, hs⟩ := h.others m hm hother
    exact Json.map_eq_ok_iff.2 ⟨s, Json.Decode.string_eq_ok_iff.2 hs, rfl⟩

/-- A header is an object with the members of a header. -/
theorem header_eq_ok_iff : header v = .ok alg ↔ ∃ ms, v = .obj ms ∧ IsHeader alg ms := by
  constructor
  · intro h
    cases v with
    | obj ms => exact ⟨ms, rfl, header_obj_eq_ok_iff.1 h⟩
    | _ => cases h
  · rintro ⟨ms, rfl, h⟩
    exact header_obj_eq_ok_iff.2 h

/-- Nothing in a header is cut off. -/
theorem IsHeader.isComplete (h : IsHeader alg ms) : (Json.obj ms).isComplete := by
  have hlist : ∀ ss : List String, (Json.arr (ss.map .str)).isComplete = true := fun ss =>
    Json.itemsComplete_iff.2 (List.forall_mem_map.2 fun _ _ => rfl)
  refine Json.membersComplete_iff.2 fun m hm => ?_
  obtain ⟨n, v⟩ := m
  by_cases hmember : n ∈ memberNames
  · have hv : ms.lookup n = some v := (Record.mem_iff_lookup h.once hmember).1 hm
    simp only [memberNames, List.mem_append, List.mem_cons, List.not_mem_nil, or_false] at hmember
    rcases hmember with ((rfl | htext) | hlists) | rfl
    · obtain ⟨w, hw, hname⟩ := h.algorithm
      obtain rfl : v = w := Option.some.inj (hv.symm.trans hw)
      rcases hname with rfl | rfl <;> rfl
    · rcases h.texts n htext v hv with rfl | ⟨s, rfl⟩ <;> rfl
    · rcases h.lists n hlists v hv with rfl | ⟨ss, rfl⟩
      · rfl
      · exact hlist ss
    · rcases h.key v hv with rfl | ⟨members, rfl, hkey⟩
      · rfl
      · exact Json.isComplete_of_isKeepable _ hkey.keepable
  · obtain ⟨s, rfl⟩ : ∃ s, v = .str s := h.others (n, v) hm hmember
    rfl

/-- **Which texts are read as headers.**  Each is the JSON of an object with the members of a
header, with nothing behind it. -/
theorem decodeOctets_header_iff {bs : List UInt8} : Json.decodeOctets header bs = .ok alg ↔
    ∃ ms, Json.parse? (String.ofList (Json.charactersOf bs)) = some (.obj ms) ∧
      IsHeader alg ms := by
  rw [Json.decodeOctets, Json.decodeText_eq_ok_iff, header_eq_ok_iff, Json.parse?,
    String.toList_ofList]
  constructor
  · rintro ⟨⟨ms, hvalue, hheader⟩, hend⟩
    refine ⟨ms, ?_, hheader⟩
    simp [hvalue, hend, hheader.isComplete]
  · rintro ⟨ms, hparse, hheader⟩
    obtain ⟨⟨hend, -⟩, hvalue⟩ : (_ = false ∧ _) ∧ _ := by simpa using hparse
    exact ⟨⟨ms, hvalue, hheader⟩, hend⟩

end Codec
end SessionAuth
