import SessionAuth.Proofs.Json.Decode

/-!
# Records that are written member by member

`Record.Reads` says what a record makes of the members of an object, and follows the way in which
the record is put together from its fields: one lemma says what a record of each form reads.  What
is left are the members themselves.  They may stand in any order, but a field may not stand twice,
and those that are no fields are looked at one by one (`Record.Admits`).  `ofMembers_eq_ok_iff` says
that an object is decoded just if both are so.
-/

set_option autoImplicit false

namespace SessionAuth
namespace Json
namespace Record

variable {α β : Type} {extra : String → Json → Except Objection Unit}

/-- The values of the fields among some members. -/
def values (fields : List Field) (ms : List (String × Json)) : List (Option Json) :=
  fields.map fun f => ms.lookup f.name

/-- Whether the fields of a record accept their values among some members. -/
def Fits (fields : List Field) (ms : List (String × Json)) : Prop :=
  ∀ f ∈ fields, match ms.lookup f.name with
    | some v => f.check v = .ok ()
    | none => f.mayBeAbsent = true

/-- The members have accepted values for all fields, and the structure with these is `a`. -/
structure Reads (r : Record α) (ms : List (String × Json)) (a : α) : Prop where
  fits : Fits r.fields ms
  build : r.build (values r.fields ms) = .ok a

/-! ## Reading by fields -/

section Reads

variable {ms : List (String × Json)} {name : String} {d : Decoder α} {v : Json} {a default : α}

theorem reads_map_iff {r : Record α} {f : α → β} {b : β} :
    Reads (f <$> r) ms b ↔ ∃ a, Reads r ms a ∧ f a = b := by
  constructor
  · intro h
    obtain ⟨a, ha, hb⟩ := map_eq_ok_iff.1 h.build
    exact ⟨a, ⟨h.fits, ha⟩, hb⟩
  · rintro ⟨a, h, hb⟩
    exact ⟨h.fits, map_eq_ok_iff.2 ⟨a, h.build, hb⟩⟩

theorem Reads.map {r : Record α} (h : Reads r ms a) (f : α → β) : Reads (f <$> r) ms (f a) :=
  reads_map_iff.2 ⟨a, h, rfl⟩

/-- Of two records in a row, each has the values of its own fields. -/
theorem build_seq (f : Record (α → β)) (r : Record α) :
    (f <*> r).build (values (f <*> r).fields ms) =
      (f.build (values f.fields ms)).bind fun g => (r.build (values r.fields ms)).map g := by
  have htake : (values (f.fields ++ r.fields) ms).take f.fields.length = values f.fields ms := by
    rw [values, List.map_append, List.take_left' (List.length_map _)]
    rfl
  have hdrop : (values (f.fields ++ r.fields) ms).drop f.fields.length = values r.fields ms := by
    rw [values, List.map_append, List.drop_left' (List.length_map _)]
    rfl
  show (do
    let g ← f.build ((values (f.fields ++ r.fields) ms).take f.fields.length)
    let a ← r.build ((values (f.fields ++ r.fields) ms).drop f.fields.length)
    Except.ok (g a)) = _
  rw [htake, hdrop]
  rfl

theorem reads_seq_iff {f : Record (α → β)} {r : Record α} {b : β} :
    Reads (f <*> r) ms b ↔ ∃ g a, Reads f ms g ∧ Reads r ms a ∧ g a = b := by
  constructor
  · intro h
    obtain ⟨hf, hr⟩ := List.forall_mem_append.1 h.fits
    obtain ⟨g, hg, hmap⟩ := bind_eq_ok_iff.1 ((build_seq f r).symm.trans h.build)
    obtain ⟨a, ha, hb⟩ := map_eq_ok_iff.1 hmap
    exact ⟨g, a, ⟨hf, hg⟩, ⟨hr, ha⟩, hb⟩
  · rintro ⟨g, a, hf, hr, hb⟩
    refine ⟨List.forall_mem_append.2 ⟨hf.fits, hr.fits⟩, (build_seq f r).trans ?_⟩
    exact bind_eq_ok_iff.2 ⟨g, hf.build, map_eq_ok_iff.2 ⟨a, hr.build, hb⟩⟩

theorem Reads.seq {f : Record (α → β)} {g : α → β} {r : Record α} (hf : Reads f ms g)
    (hr : Reads r ms a) : Reads (f <*> r) ms (g a) :=
  reads_seq_iff.2 ⟨g, a, hf, hr, rfl⟩

/-- Fields that are only looked at have to be read, and change nothing. -/
theorem reads_beside_iff {others : List (Record Unit)} {r : Record α} :
    Reads (r.beside others) ms a ↔ Reads r ms a ∧ ∀ other ∈ others, Reads other ms () := by
  induction others generalizing r with
  | nil => simp [beside]
  | cons other others ih =>
    have hhead : Reads ((fun a (_ : Unit) => a) <$> r <*> other) ms a ↔
        Reads r ms a ∧ Reads other ms () := by
      rw [reads_seq_iff]
      constructor
      · rintro ⟨g, u, hg, hu, rfl⟩
        obtain ⟨a, ha, rfl⟩ := reads_map_iff.1 hg
        exact ⟨ha, hu⟩
      · rintro ⟨ha, hu⟩
        exact ⟨fun _ => a, (), ha.map _, hu, rfl⟩
    have hcons : r.beside (other :: others) =
        ((fun a (_ : Unit) => a) <$> r <*> other).beside others := rfl
    rw [hcons, ih, hhead, List.forall_mem_cons, and_assoc]

theorem reads_required_iff :
    Reads (required name d) ms a ↔ ∃ v, ms.lookup name = some v ∧ d v = .ok a := by
  constructor
  · intro h
    have hbuild := h.build
    cases hv : ms.lookup name with
    | none => simp [required, values, hv] at hbuild
    | some v => exact ⟨v, rfl, by simpa [required, values, hv] using hbuild⟩
  · rintro ⟨v, hv, hd⟩
    exact ⟨List.forall_mem_singleton.2 (by simp [hv, hd, Except.map]),
      by simpa [required, values, hv] using hd⟩

theorem reads_maybe_iff {o : Option α} : Reads (maybe name d) ms o ↔
    (ms.lookup name).elim (o = none) fun v => Decode.optional d v = .ok o := by
  cases hv : ms.lookup name with
  | none =>
    constructor
    · intro h
      simpa [maybe, values, hv, eq_comm] using h.build
    · rintro rfl
      exact ⟨List.forall_mem_singleton.2 (by simp [hv]), by simp [maybe, values, hv]⟩
  | some v =>
    constructor
    · intro h
      simpa [maybe, values, hv] using h.build
    · intro h
      change Decode.optional d v = .ok o at h
      exact ⟨List.forall_mem_singleton.2 (by simp [hv, h, Except.map]),
        by simpa [maybe, values, hv] using h⟩

theorem reads_glance_iff : Reads (glance d name) ms () ↔
    ∀ v, ms.lookup name = some v → v = .null ∨ ∃ a, d v = .ok a := by
  rw [glance, reads_map_iff]
  simp only [and_true, reads_maybe_iff]
  cases ms.lookup name with
  | none => simp
  | some v => simp [Decode.exists_optional_eq_ok]

theorem reads_withDefault (hv : ms.lookup name = some v) (hd : d v = .ok a) :
    Reads (withDefault name d default) ms a where
  fits := List.forall_mem_singleton.2 (by simp [hv, hd, Except.map])
  build := by simpa [withDefault, values, hv] using hd

theorem reads_withDefault_of_none (hv : ms.lookup name = none) :
    Reads (withDefault name d default) ms default where
  fits := List.forall_mem_singleton.2 (by simp [hv])
  build := by simp [withDefault, values, hv]

end Reads

/-! ## Reading member by member -/

/-- None of some names stands twice among some members. -/
def Once (names : List String) (ms : List (String × Json)) : Prop :=
  ms.Pairwise fun m m' => m.1 = m'.1 → m.1 ∉ names

/-- A member is accepted by its field, or by `extra` if it is no field. -/
structure Accepts (fields : List Field) (extra : String → Json → Except Objection Unit)
    (m : String × Json) : Prop where
  check : ∀ f ∈ fields, f.name = m.1 → f.check m.2 = .ok ()
  other : m.1 ∉ fields.map (·.name) → extra m.1 m.2 = .ok ()

/-- What is said of the members of an object apart from the values of the fields. -/
structure Admits (fields : List Field) (extra : String → Json → Except Objection Unit)
    (ms : List (String × Json)) : Prop where
  once : Once (fields.map (·.name)) ms
  others : ∀ m ∈ ms, m.1 ∉ fields.map (·.name) → extra m.1 m.2 = .ok ()

section Gather

variable {fields : List Field} {names : List String} {ms done : List (String × Json)}
variable {m : String × Json}

theorem once_concat_iff : Once names (done ++ [m]) ↔
    Once names done ∧ (m.1 ∈ names → done.lookup m.1 = none) := by
  rw [Once, List.pairwise_append]
  refine and_congr_right fun _ => ?_
  simp only [List.pairwise_singleton, true_and, List.forall_mem_singleton]
  constructor
  · intro h hm
    refine List.lookup_eq_none_iff.2 fun p hp => bne_iff_ne.2 fun heq => ?_
    exact h p hp heq.symm (heq ▸ hm)
  · intro h p hp heq hm
    have hne := List.lookup_eq_none_iff.1 (h (heq ▸ hm)) p hp
    exact bne_iff_ne.1 hne heq.symm

/-- A name that does not stand twice has one value. -/
theorem mem_iff_lookup (honce : Once names ms) (hm : m.1 ∈ names) :
    m ∈ ms ↔ ms.lookup m.1 = some m.2 := by
  rw [List.lookup_eq_some_iff]
  constructor
  · intro hmem
    obtain ⟨before, after, rfl⟩ := List.append_of_mem hmem
    refine ⟨before, after, rfl, fun p hp => bne_iff_ne.2 fun heq => ?_⟩
    have hpair := (List.pairwise_append.1 honce).2.2 p hp m (List.mem_cons_self ..)
    exact hpair heq.symm (heq ▸ hm)
  · rintro ⟨before, after, rfl, -⟩
    exact List.mem_append_right _ (List.mem_cons_self ..)

theorem isAssigned_values {name : String} (h : name ∈ fields.map (·.name)) :
    isAssigned name fields (values fields done) = (done.lookup name).isSome := by
  induction fields with
  | nil => cases h
  | cons f fs ih =>
    rw [values, List.map_cons, isAssigned]
    split
    · rename_i hname
      rw [hname]
    · rename_i hname
      exact ih ((List.mem_cons.1 h).resolve_left fun heq => hname heq.symm)

theorem lookup_concat_of_ne {name : String} (h : name ≠ m.1) :
    (done ++ [m]).lookup name = done.lookup name := by
  have hnone : [m].lookup name = none := by
    rw [List.lookup_cons, beq_false_of_ne h, List.lookup_nil]
  rw [List.lookup_append, hnone, Option.or_none]

theorem lookup_concat_self (h : done.lookup m.1 = none) :
    (done ++ [m]).lookup m.1 = some m.2 := by
  rw [List.lookup_append, h, List.lookup_cons_self, Option.none_or]

/-- A member that is no field gives none of them a value. -/
theorem values_concat (h : m.1 ∉ fields.map (·.name)) :
    values fields (done ++ [m]) = values fields done :=
  List.map_congr_left fun _ hf =>
    lookup_concat_of_ne fun heq => h (List.mem_map.2 ⟨_, hf, heq⟩)

/-- A value is assigned to its field only. -/
theorem assign_values (hfields : (fields.map (·.name)).Nodup) (h : done.lookup m.1 = none) :
    assign m.1 m.2 fields (values fields done) = values fields (done ++ [m]) := by
  induction fields with
  | nil => rfl
  | cons f fs ih =>
    obtain ⟨hf, hfs⟩ := List.nodup_cons.1 hfields
    rw [values, List.map_cons, assign]
    split
    · rename_i hname
      have hother : m.1 ∉ fs.map (·.name) := hname ▸ hf
      rw [values, List.map_cons, hname, lookup_concat_self h]
      exact congrArg _ (values_concat hother).symm
    · rename_i hname
      exact congr (congrArg _ (lookup_concat_of_ne hname).symm) (ih hfs)

theorem find?_eq_of_mem (hfields : (fields.map (·.name)).Nodup) {f : Field} (hf : f ∈ fields) :
    (fields.find? fun g => g.name = f.name) = some f := by
  induction fields with
  | nil => cases hf
  | cons g fs ih =>
    obtain ⟨hg, hfs⟩ := List.nodup_cons.1 hfields
    rcases List.mem_cons.1 hf with rfl | hmem
    · simp
    · have hne : g.name ≠ f.name := fun heq => hg (List.mem_map.2 ⟨f, hmem, heq.symm⟩)
      rw [List.find?_cons_of_neg (by simpa using hne), ih hfs hmem]

theorem gather_cons_of_mem (hfields : (fields.map (·.name)).Nodup) {f : Field} (hf : f ∈ fields)
    (hname : f.name = m.1) {vs : List (Option Json)} : gather fields extra (m :: ms) vs =
      if isAssigned m.1 fields vs then .error .mismatch
      else (f.check m.2).bind fun _ => gather fields extra ms (assign m.1 m.2 fields vs) := by
  have hfind := find?_eq_of_mem hfields hf
  rw [hname] at hfind
  rw [gather, hfind]
  dsimp only
  split <;> rfl

theorem gather_cons_of_not_mem (hother : m.1 ∉ fields.map (·.name)) {vs : List (Option Json)} :
    gather fields extra (m :: ms) vs =
      (extra m.1 m.2).bind fun _ => gather fields extra ms vs := by
  have hfind : (fields.find? fun f => f.name = m.1) = none := by
    refine List.find?_eq_none.2 fun f hf hname => hother ?_
    exact List.mem_map.2 ⟨f, hf, of_decide_eq_true hname⟩
  rw [gather, hfind]
  rfl

/-- A member that is accepted gives a value to its field, which has none yet. -/
theorem gather_cons_eq_ok_iff (hfields : (fields.map (·.name)).Nodup) {ws : List (Option Json)} :
    gather fields extra (m :: ms) (values fields done) = .ok ws ↔
      Accepts fields extra m ∧ (m.1 ∈ fields.map (·.name) → done.lookup m.1 = none) ∧
        gather fields extra ms (values fields (done ++ [m])) = .ok ws := by
  by_cases hmem : m.1 ∈ fields.map (·.name)
  · obtain ⟨f, hf, hname⟩ := List.mem_map.1 hmem
    have haccepts : Accepts fields extra m ↔ f.check m.2 = .ok () := by
      refine ⟨fun h => h.check f hf hname, fun h => ⟨fun g hg hg' => ?_, absurd hmem⟩⟩
      have hsame := find?_eq_of_mem hfields hg
      rw [hg'.trans hname.symm, find?_eq_of_mem hfields hf] at hsame
      cases hsame
      exact h
    rw [gather_cons_of_mem hfields hf hname, isAssigned_values hmem, haccepts]
    cases hlookup : done.lookup m.1 with
    | some v => simp [hmem]
    | none =>
      rw [assign_values hfields hlookup]
      simp [check_bind_eq_ok_iff]
  · have haccepts : Accepts fields extra m ↔ extra m.1 m.2 = .ok () := by
      refine ⟨fun h => h.other hmem, fun h => ⟨fun g hg hg' => ?_, fun _ => h⟩⟩
      exact absurd (List.mem_map.2 ⟨g, hg, hg'⟩) hmem
    rw [gather_cons_of_not_mem hmem, haccepts, values_concat hmem]
    simp [check_bind_eq_ok_iff, hmem]

/-- The members of an object give the values of the fields. -/
theorem gather_eq_ok_iff (hfields : (fields.map (·.name)).Nodup)
    (hdone : Once (fields.map (·.name)) done) {ws : List (Option Json)} :
    gather fields extra ms (values fields done) = .ok ws ↔
      (∀ m ∈ ms, Accepts fields extra m) ∧ Once (fields.map (·.name)) (done ++ ms) ∧
        values fields (done ++ ms) = ws := by
  -- The members read so far move on with the induction: they say which fields have a value.
  induction ms generalizing done with
  | nil => simp [gather, hdone]
  | cons m ms ih =>
    rw [gather_cons_eq_ok_iff hfields, List.forall_mem_cons, List.append_cons done m ms]
    constructor
    · rintro ⟨hm, hnew, hrest⟩
      obtain ⟨hms, honce, hws⟩ := (ih (once_concat_iff.2 ⟨hdone, hnew⟩)).1 hrest
      exact ⟨⟨hm, hms⟩, honce, hws⟩
    · rintro ⟨⟨hm, hms⟩, honce, hws⟩
      have hfirst := (List.pairwise_append.1 honce).1
      exact ⟨hm, (once_concat_iff.1 hfirst).2, (ih hfirst).2 ⟨hms, honce, hws⟩⟩

theorem allPresent_values_iff : allPresent fields (values fields ms) = true ↔
    ∀ f ∈ fields, ms.lookup f.name = none → f.mayBeAbsent = true := by
  induction fields with
  | nil => simp [allPresent]
  | cons f fs ih =>
    rw [values, List.map_cons, allPresent, ← values, Bool.and_eq_true, ih, List.forall_mem_cons]
    refine and_congr_left fun _ => ?_
    cases ms.lookup f.name <;> simp

/-- The fields accept their values just if they accept the members, and no member is missing. -/
theorem fits_iff (honce : Once (fields.map (·.name)) ms) : Fits fields ms ↔
    (∀ m ∈ ms, ∀ f ∈ fields, f.name = m.1 → f.check m.2 = .ok ()) ∧
      allPresent fields (values fields ms) = true := by
  rw [allPresent_values_iff]
  constructor
  · intro h
    refine ⟨fun m hm f hf hname => ?_, fun f hf hnone => ?_⟩
    · have hfits := h f hf
      rw [hname, (mem_iff_lookup honce (List.mem_map.2 ⟨f, hf, hname⟩)).1 hm] at hfits
      exact hfits
    · have hfits := h f hf
      rw [hnone] at hfits
      exact hfits
  · rintro ⟨hchecks, hpresent⟩ f hf
    cases hlookup : ms.lookup f.name with
    | none => exact hpresent f hf hlookup
    | some v =>
      have hmem := (mem_iff_lookup (m := (f.name, v)) honce (List.mem_map_of_mem hf)).2 hlookup
      exact hchecks _ hmem f hf rfl

end Gather

/-- **Which objects are decoded.**  What is read are the values of the fields, and the rest is that
the members are admitted. -/
theorem ofMembers_eq_ok_iff {r : Record α} {ms : List (String × Json)} {a : α}
    (hfields : (r.fields.map (·.name)).Nodup) :
    r.ofMembers extra ms = .ok a ↔ Admits r.fields extra ms ∧ Reads r ms a := by
  have hstart : List.replicate r.fields.length none = values r.fields [] :=
    (List.map_eq_replicate_iff.2 fun _ _ => rfl).symm
  have hgather : ∀ ws, gather r.fields extra ms (List.replicate r.fields.length none) = .ok ws ↔
      (∀ m ∈ ms, Accepts r.fields extra m) ∧ Once (r.fields.map (·.name)) ms ∧
        values r.fields ms = ws := by
    intro ws
    rw [hstart]
    exact gather_eq_ok_iff hfields List.Pairwise.nil
  have hbind : r.ofMembers extra ms = .ok a ↔ ∃ ws,
      gather r.fields extra ms (List.replicate r.fields.length none) = .ok ws ∧
        (if allPresent r.fields ws then r.build ws else throw .mismatch) = .ok a :=
    bind_eq_ok_iff
  rw [hbind]
  constructor
  · rintro ⟨ws, hws, ha⟩
    obtain ⟨haccepts, honce, rfl⟩ := (hgather ws).1 hws
    split at ha
    · rename_i hpresent
      have hfits := (fits_iff honce).2 ⟨fun m hm => (haccepts m hm).check, hpresent⟩
      exact ⟨⟨honce, fun m hm => (haccepts m hm).other⟩, ⟨hfits, ha⟩⟩
    · cases ha
  · rintro ⟨⟨honce, hothers⟩, hreads⟩
    obtain ⟨hchecks, hpresent⟩ := (fits_iff honce).1 hreads.fits
    refine ⟨values r.fields ms, (hgather _).2 ⟨fun m hm => ?_, honce, rfl⟩, ?_⟩
    · exact ⟨hchecks m hm, hothers m hm⟩
    · rw [if_pos hpresent]
      exact hreads.build

/-- An object is decoded by its fields if all of its members are fields, and none stands twice. -/
theorem decode_obj {r : Record α} {ms : List (String × Json)} {a : α} (h : Reads r ms a)
    (hfields : (r.fields.map (·.name)).Nodup) (hkeys : (ms.map (·.1)).Nodup)
    (hsub : ms.map (·.1) ⊆ r.fields.map (·.name)) : r.decode (.obj ms) = .ok a := by
  refine (ofMembers_eq_ok_iff hfields).2 ⟨⟨?once, ?others⟩, h⟩
  case once =>
    exact (List.pairwise_map.1 hkeys).imp fun hne heq => absurd heq hne
  case others =>
    exact fun m hm hother => absurd (hsub (List.mem_map_of_mem hm)) hother

end Record
end Json
end SessionAuth
