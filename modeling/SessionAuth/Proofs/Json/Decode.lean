import Mathlib.Data.List.Basic
import SessionAuth.Json.Decode

/-!
# What decoders accept

A decoder fails where one of its parts does, so that it accepts a value just if every part accepts
its own.  The lemmas say this for each way in which decoders are put together.
-/

set_option autoImplicit false

namespace SessionAuth
namespace Json

variable {α β : Type}

/-! ## Results -/

theorem map_eq_ok_iff {x : Except Objection α} {f : α → β} {b : β} :
    x.map f = .ok b ↔ ∃ a, x = .ok a ∧ f a = b := by
  cases x <;> simp [Except.map]

theorem bind_eq_ok_iff {x : Except Objection α} {f : α → Except Objection β} {b : β} :
    x.bind f = .ok b ↔ ∃ a, x = .ok a ∧ f a = .ok b := by
  cases x <;> simp [Except.bind]

theorem check_bind_eq_ok_iff {x : Except Objection Unit} {y : Except Objection β} {b : β} :
    (x.bind fun _ => y) = .ok b ↔ x = .ok () ∧ y = .ok b := by
  cases x <;> simp [Except.bind]

/-! ## Whole values -/

theorem itemsComplete_iff {vs : List Json} : itemsComplete vs = true ↔ ∀ v ∈ vs, v.isComplete := by
  induction vs with
  | nil => simp [itemsComplete]
  | cons v vs ih => simp [itemsComplete, ih]

theorem membersComplete_iff {ms : List (String × Json)} :
    membersComplete ms = true ↔ ∀ m ∈ ms, m.2.isComplete := by
  induction ms with
  | nil => simp [membersComplete]
  | cons m ms ih => simp [membersComplete, ih]

mutual

/-- Only whole values are kept. -/
theorem isComplete_of_isKeepable (v : Json) (h : v.isKeepable) : v.isComplete := by
  match v, h with
  | .arr vs, h => exact itemsComplete_of_itemsKeepable vs h
  | .obj ms, h => exact membersComplete_of_membersKeepable ms h
  | .cut, h => cases h
  | .null, _ | .bool _, _ | .int _, _ | .real _ _, _ | .str _, _ | .unpaired, _ => rfl

theorem itemsComplete_of_itemsKeepable (vs : List Json) (h : itemsKeepable vs) :
    itemsComplete vs := by
  match vs, h with
  | [], _ => rfl
  | v :: vs, h =>
    obtain ⟨hv, hvs⟩ := Bool.and_eq_true_iff.1 h
    exact Bool.and_eq_true_iff.2
      ⟨isComplete_of_isKeepable v hv, itemsComplete_of_itemsKeepable vs hvs⟩

theorem membersComplete_of_membersKeepable (ms : List (String × Json)) (h : membersKeepable ms) :
    membersComplete ms := by
  match ms, h with
  | [], _ => rfl
  | (k, v) :: ms, h =>
    obtain ⟨hv, hms⟩ := Bool.and_eq_true_iff.1 h
    exact Bool.and_eq_true_iff.2
      ⟨isComplete_of_isKeepable v hv, membersComplete_of_membersKeepable ms hms⟩

end

/-! ## Values -/

namespace Decode

variable {d : Decoder α} {v : Json} {a : α}

theorem string_eq_ok_iff {s : String} : string v = .ok s ↔ v = .str s := by
  cases v <;> simp [string]

/-- The items of a list that are accepted one by one in a single form. -/
theorem items_eq_ok_iff {encode : α → Json} (h : ∀ v a, d v = .ok a ↔ v = encode a)
    {vs : List Json} {as : List α} : items d vs = .ok as ↔ vs = as.map encode := by
  induction vs generalizing as with
  | nil => cases as <;> simp [items]
  | cons v vs ih =>
    have hbind : items d (v :: vs) = (d v).bind fun a => (items d vs).map (a :: ·) := by
      rw [items]
      cases d v with
      | error e => rfl
      | ok a => cases items d vs <;> rfl
    rw [hbind, bind_eq_ok_iff]
    simp only [map_eq_ok_iff, h, ih]
    constructor
    · rintro ⟨a, rfl, as, rfl, rfl⟩
      rfl
    · cases as with
      | nil => exact fun hcons => absurd hcons (List.cons_ne_nil _ _)
      | cons a as =>
        intro hcons
        obtain ⟨hv, hvs⟩ := List.cons_eq_cons.1 hcons
        exact ⟨a, hv, as, hvs, rfl⟩

/-- Items are decoded from their encodings, in whatever other forms they may stand. -/
theorem items_map {encode : α → Json} (h : ∀ a, d (encode a) = .ok a) (as : List α) :
    items d (as.map encode) = .ok as := by
  induction as with
  | nil => rfl
  | cons a as ih =>
    rw [List.map_cons, items, h, ih]
    rfl

theorem strings_eq_ok_iff {ss : List String} :
    list string v = .ok ss ↔ v = .arr (ss.map .str) := by
  cases v with
  | arr vs => simp only [list, items_eq_ok_iff fun _ _ => string_eq_ok_iff, Json.arr.injEq]
  | _ => simp [list]

/-- A value that may be null is accepted if it is null, or accepted otherwise. -/
theorem exists_optional_eq_ok :
    (∃ o, optional d v = .ok o) ↔ v = .null ∨ ∃ a, d v = .ok a := by
  by_cases hv : v = .null
  · subst hv
    exact iff_of_true ⟨none, rfl⟩ (.inl rfl)
  · have hsome : optional d v = (d v).map some := by
      cases v <;> first | rfl | exact absurd rfl hv
    rw [hsome, or_iff_right hv]
    constructor
    · rintro ⟨o, ho⟩
      obtain ⟨a, ha, -⟩ := map_eq_ok_iff.1 ho
      exact ⟨a, ha⟩
    · rintro ⟨a, ha⟩
      exact ⟨some a, map_eq_ok_iff.2 ⟨a, ha, rfl⟩⟩

/-- A name is a text, or the only key of an object with the value null. -/
theorem name_eq_ok_iff {names : List (String × α)} : name names v = .ok a ↔
    ∃ k, names.lookup k = some a ∧ (v = .str k ∨ v = .obj [(k, .null)]) := by
  constructor
  · intro h
    cases v with
    | str s =>
      cases hs : names.lookup s with
      | none => simp [name, hs] at h
      | some b =>
        obtain rfl : b = a := by simpa [name, hs] using h
        exact ⟨s, hs, .inl rfl⟩
    | obj ms =>
      obtain _ | ⟨⟨k, w⟩, rest⟩ := ms
      · cases h
      cases hk : names.lookup k with
      | none =>
        cases w with
        | cut =>
          simp only [name, hk] at h
          split at h <;> cases h
        | _ => simp [name, hk] at h
      | some b =>
        obtain ⟨rfl, rfl, rfl⟩ : w = .null ∧ rest = [] ∧ b = a := by
          cases w <;> cases rest <;> simp [name, hk] at h ⊢
          exact h
        exact ⟨k, hk, .inr rfl⟩
    | _ => cases h
  · rintro ⟨k, hk, rfl | rfl⟩ <;> simp [name, hk]

end Decode
end Json
end SessionAuth
