import SessionAuth.Proofs.Authorization.Subject

/-!
# The texts of permissions

`Permission.Names` says which texts name a permission, without the functions that read them: the
wildcard, and two non-empty runs over an alphabet with a colon in between.  A text is read as a
permission if it is one of these (`Permission.exists_text_iff`), and then as itself, directly
(`Permission.read_eq_ok_iff`) and as JSON (`Permission.fromText_eq_ok_iff`).

The search for the first colon finds the only one, because there is none in the alphabet.
-/

set_option autoImplicit false

namespace SessionAuth

open Text

namespace Permission

/-! ## The grammar -/

/-- The characters that a part of a permission is made of. -/
def alphabet : List Char := "abcdefghijklmnopqrstuvwxyz0123456789_".toList

/-- What may stand on one side of the colon. -/
structure IsRun (cs : List Char) : Prop where
  nonempty : cs ≠ []
  chars : ∀ c ∈ cs, c ∈ alphabet

/-- The texts that name a permission. -/
inductive Names : String → Prop
  | wildcard : Names "full_access"
  | pair {resource action : List Char} (hresource : IsRun resource) (haction : IsRun action) :
      Names (String.ofList (resource ++ ':' :: action))

/-- Of all characters those of the alphabet are taken. -/
theorem isPermissionChar_iff {c : Char} : isPermissionChar c ↔ c ∈ alphabet := by
  by_cases hc : c.toNat < 128
  · have hall : ∀ n < 128, (isPermissionChar (Char.ofNat n) ↔ Char.ofNat n ∈ alphabet) := by
      decide +kernel
    simpa using hall c.toNat hc
  · have hall : alphabet.all (fun d => decide (d.toNat < 128)) = true := by decide
    have hlow : ∀ d ∈ alphabet, d.toNat < 128 :=
      fun d hd => of_decide_eq_true (List.all_eq_true.1 hall d hd)
    refine iff_of_false (fun h => hc ?_) fun h => hc (hlow c h)
    simp only [isPermissionChar, Bool.or_eq_true, Bool.and_eq_true, decide_eq_true_iff,
      beq_iff_eq, Char.le_def, UInt32.le_iff_toNat_le] at h
    rcases h with (⟨-, h⟩ | ⟨-, h⟩) | rfl
    · exact Nat.lt_of_le_of_lt h (by decide)
    · exact Nat.lt_of_le_of_lt h (by decide)
    · decide

theorem isPermissionPart_iff {cs : List Char} : isPermissionPart cs ↔ IsRun cs := by
  rw [isPermissionPart, Bool.and_eq_true, Bool.not_eq_true', List.isEmpty_eq_false_iff,
    List.all_eq_true]
  simp only [isPermissionChar_iff]
  exact ⟨fun h => ⟨h.1, h.2⟩, fun h => ⟨h.nonempty, h.chars⟩⟩

/-- **The texts of permissions are those of the grammar.** -/
theorem isPermissionText_iff {s : String} : isPermissionText s ↔ Names s := by
  constructor
  · intro h
    rw [isPermissionText, Bool.or_eq_true, beq_iff_eq] at h
    rcases h with rfl | h
    · exact .wildcard
    · split at h
      · rename_i resource action hcut
        rw [Bool.and_eq_true, isPermissionPart_iff, isPermissionPart_iff] at h
        rw [← String.ofList_toList (s := s), (cutFirst_eq_some hcut).1]
        exact .pair h.1 h.2
      · cases h
  · rintro (_ | ⟨hresource, haction⟩)
    · decide
    · have hcolon : ':' ∉ _ := fun h => absurd (hresource.chars ':' h) (by decide)
      rw [isPermissionText, String.toList_ofList, cutFirst_append _ hcolon]
      simp [isPermissionPart_iff.2 hresource, isPermissionPart_iff.2 haction]

theorem names_text (p : Permission) : Names p.text := isPermissionText_iff.1 p.isText

/-- A text of the grammar is that of a permission. -/
theorem exists_text_iff {s : String} : (∃ p : Permission, p.text = s) ↔ Names s :=
  ⟨fun ⟨p, hp⟩ => hp ▸ p.names_text, fun h => ⟨⟨s, isPermissionText_iff.2 h⟩, rfl⟩⟩

/-! ## Reading -/

variable {s : String} {p : Permission}

/-- A text is read as the permission with this text. -/
theorem read_eq_ok_iff : read s = .ok p ↔ p.text = s := by
  rw [read, ← ofText?_eq_some_iff]
  cases ofText? s <;> simp

/-- All other texts are refused, and the error repeats them. -/
theorem read_of_not_names (h : ¬ Names s) : read s = .error (.invalidPermission s) := by
  have hnone : ofText? s = none := by
    refine Option.eq_none_iff_forall_ne_some.2 fun p hp => h ?_
    exact exists_text_iff.1 ⟨p, ofText?_eq_some_iff.1 hp⟩
  rw [read, hnone]

/-- In JSON a permission is its text, as a string. -/
theorem decode_eq_ok_iff {v : Json} :
    Json.Decode.permission v = .ok p ↔ Json.Decode.string v = .ok p.text := by
  rw [Json.Decode.permission, Json.Decode.text]
  cases Json.Decode.string v with
  | error e => exact iff_of_false (by rintro ⟨⟩) (by rintro ⟨⟩)
  | ok s =>
    have hread : read s = .ok p ↔ s = p.text := read_eq_ok_iff.trans eq_comm
    rw [Except.ok.injEq, ← hread]
    dsimp only [bind, Except.bind]
    cases read s <;> simp

/-- **A JSON text is read as a permission if it stands for the text of one**, whatever escapes it is
written with. -/
theorem fromText_eq_ok_iff {text : String} :
    Json.fromText Json.Decode.permission text = .ok p ↔
      Json.fromText Json.Decode.string text = .ok p.text := by
  rw [Json.fromText_eq_ok_iff, Json.fromText_eq_ok_iff, decode_eq_ok_iff]

/-! ## The wildcard -/

variable {held required : Permission}

theorem isFullAccess_iff : held.isFullAccess ↔ held.text = "full_access" := beq_iff_eq

/-- The permission that grants all others is the only one that does. -/
theorem grants_iff : held.grants required = true ↔ held = fullAccess ∨ held = required := by
  have hfull : held.isFullAccess = true ↔ held = fullAccess := by
    rw [isFullAccess, beq_iff_eq]
    exact ⟨fun h => ext_text h, fun h => h ▸ rfl⟩
  rw [grants, Bool.or_eq_true, hfull, beq_iff_eq]

/-- Every permission is granted by the wildcard, and by no other. -/
theorem forall_grants_iff : (∀ required, held.grants required) ↔ held.text = "full_access" := by
  constructor
  · intro h
    rcases grants_iff.1 (h fullAccess) with rfl | rfl <;> rfl
  · exact fun h required => grants_iff.2 (.inl (ext_text h))

end Permission
end SessionAuth
