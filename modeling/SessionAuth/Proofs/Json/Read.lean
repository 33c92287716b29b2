import Mathlib.Tactic.IntervalCases
import SessionAuth.Proofs.Json.Decode
import SessionAuth.Proofs.Text.Utf8
import SessionAuth.User.Named

/-!
# Values read back from their texts

`read_render` says that the text of a value is read as that value.  It holds of plain values, which
are made without the three kinds of values that only the reader makes or that have no text of their
own: numbers with an exponent, string literals that stand for no text, and the place where a text
ends too early.

The reader is a machine, so that all statements are about the state that it reaches from a given
one.  A number is not over before the next character, which is why the text of a value leads to a
state that is only `Settled` on the value: with the next comma or bracket the number is delivered.
-/

set_option autoImplicit false

namespace SessionAuth
namespace Json

open Text

mutual

/-- Whether a value is written in such a way that it reads back. -/
def isPlain : Json → Bool
  | null => true
  | bool _ => true
  | int _ => true
  | real _ _ => false
  | str _ => true
  | unpaired => false
  | arr vs => itemsPlain vs
  | obj ms => membersPlain ms
  | cut => false

def itemsPlain : List Json → Bool
  | [] => true
  | v :: vs => v.isPlain && itemsPlain vs

def membersPlain : List (String × Json) → Bool
  | [] => true
  | (_, v) :: ms => v.isPlain && membersPlain ms

end

/-! ## Texts -/

theorem render_null : null.render = ['n', 'u', 'l', 'l'] := by decide

theorem render_true : (bool true).render = ['t', 'r', 'u', 'e'] := by decide

theorem render_false : (bool false).render = ['f', 'a', 'l', 's', 'e'] := by decide

theorem render_int (i : Int) : (int i).render = (writeInt i).toList := rfl

theorem render_str (s : String) : (str s).render = quote s := rfl

theorem render_arr_nil : (arr []).render = ['[', ']'] := rfl

theorem render_arr_cons (v : Json) (vs : List Json) :
    (arr (v :: vs)).render = '[' :: (v.render ++ renderItems vs) := rfl

theorem render_obj_nil : (obj []).render = ['\x7b', '\x7d'] := rfl

theorem render_obj_cons (k : String) (v : Json) (ms : List (String × Json)) :
    (obj ((k, v) :: ms)).render =
      '\x7b' :: (quote k ++ ':' :: (v.render ++ renderMembers ms)) := rfl

theorem renderItems_nil : renderItems [] = [']'] := rfl

theorem renderItems_cons (v : Json) (vs : List Json) :
    renderItems (v :: vs) = ',' :: (v.render ++ renderItems vs) := rfl

theorem renderMembers_nil : renderMembers [] = ['\x7d'] := rfl

theorem renderMembers_cons (k : String) (v : Json) (ms : List (String × Json)) :
    renderMembers ((k, v) :: ms) =
      ',' :: (quote k ++ ':' :: (v.render ++ renderMembers ms)) := rfl

/-! ## Runs of the reader -/

@[simp] theorem run_nil (s : State) : run s [] = s := rfl

@[simp] theorem run_cons (s : State) (c : Char) (cs : List Char) :
    run s (c :: cs) = run (step s c) cs := rfl

theorem run_append (s : State) (cs ds : List Char) : run s (cs ++ ds) = run (run s cs) ds :=
  List.foldl_append

/-! ## String literals -/

section String

variable (target : Target) (read : List Char) (stack : List Frame)

theorem step_unicode {left unit d : Nat} (hd : d < 16) (hleft : 1 < left) (s : PartialString) :
    step (.reading (.unicode s left unit) stack) (Hex.char d) =
      .reading (.unicode s (left - 1) (unit * 16 + d)) stack := by
  simp only [step, Hex.value?_char hd]
  rw [if_neg (by omega)]

theorem step_unicode_last {unit d : Nat} (hd : d < 16) (s : PartialString) :
    step (.reading (.unicode s 1 unit) stack) (Hex.char d) =
      .reading (.string (s.pushUnit (unit * 16 + d))) stack := by
  simp [step, Hex.value?_char hd]

/-- The escape of a character is read as the character. -/
theorem run_escape (c : Char) : run (.reading (.string ⟨target, some read, none⟩) stack)
    (escape c) = .reading (.string ⟨target, some (c :: read), none⟩) stack := by
  have ofNat : ∀ {n}, c.toNat = n → Char.ofNat n = c := by
    rintro n rfl
    exact Char.ofNat_toNat c
  rw [escape]
  split
  · subst c
    rfl
  split
  · subst c
    rfl
  rename_i hquote hslash
  split
  · rename_i hprintable
    simp [step, hquote, hslash, Nat.not_lt.2 hprintable, PartialString.push]
  rename_i hcontrol
  split
  · rename_i h
    rw [← ofNat h]
    rfl
  split
  · rename_i h
    rw [← ofNat h]
    rfl
  split
  · rename_i h
    rw [← ofNat h]
    rfl
  split
  · rename_i h
    rw [← ofNat h]
    rfl
  split
  · rename_i h
    rw [← ofNat h]
    rfl
  · have hu : ∀ s, step (step (.reading (.string s) stack) '\\') 'u' =
        .reading (.unicode s 4 0) stack := fun s => rfl
    have hlt : c.toNat < 32 := Nat.not_le.1 hcontrol
    simp only [Hex.write, List.nil_append, List.cons_append, run_cons, run_nil, hu]
    rw [step_unicode _ (Nat.mod_lt _ (by decide)) (by decide),
      step_unicode _ (Nat.mod_lt _ (by decide)) (by decide),
      step_unicode _ (Nat.mod_lt _ (by decide)) (by decide),
      step_unicode_last _ (Nat.mod_lt _ (by decide))]
    rw [show (((0 * 16 + c.toNat / 16 / 16 / 16 % 16) * 16 + c.toNat / 16 / 16 % 16) * 16 +
      c.toNat / 16 % 16) * 16 + c.toNat % 16 = c.toNat by omega]
    simp only [PartialString.pushUnit]
    rw [if_neg (by omega), if_neg (by omega), PartialString.push]
    simp [Char.ofNat_toNat]

theorem run_escapes (cs : List Char) :
    run (.reading (.string ⟨target, some read, none⟩) stack) (cs.flatMap escape) =
      .reading (.string ⟨target, some (cs.reverse ++ read), none⟩) stack := by
  induction cs generalizing read with
  | nil => rfl
  | cons c cs ih =>
    rw [List.flatMap_cons, run_append, run_escape, ih, List.reverse_cons, List.append_assoc]
    rfl

/-- What follows the opening quotation mark of a string literal leads to its end. -/
theorem run_quote (s : String) (mode : Mode)
    (hopen : step (.reading mode stack) '"' = .reading (.string ⟨target, some [], none⟩) stack) :
    run (.reading mode stack) (quote s) =
      (⟨target, some s.toList.reverse, none⟩ : PartialString).finish stack := by
  rw [quote, run_cons, hopen, run_append, run_escapes, List.append_nil]
  simp [step]

theorem finish_value (s : String) :
    (⟨.value, some s.toList.reverse, none⟩ : PartialString).finish stack =
      deliver (.str s) stack := by
  simp [PartialString.finish]

theorem finish_key (s : String) (members : List (String × Json)) :
    (⟨.key, some s.toList.reverse, none⟩ : PartialString).finish (.members members :: stack) =
      .reading .afterKey (.member members s :: stack) := by
  simp [PartialString.finish]

end String

/-! ## Numbers -/

section Number

variable (stack : List Frame)

/-- The digits of a number that is not zero, read from a state that takes a first digit. -/
theorem run_writeDigits {start : State} {negative : Bool}
    (hstart : ∀ d, 0 < d → d < 10 → step start (digitChar d) =
      .reading (.number ⟨.whole, negative, d, 0, false, 0⟩) stack)
    {n : Nat} (hn : 0 < n) : run start (writeDigits n) =
      .reading (.number ⟨.whole, negative, n, 0, false, 0⟩) stack := by
  induction n using Nat.strongRecOn with
  | _ n ih =>
    rw [writeDigits]
    split
    · rename_i hlt
      exact hstart n hn hlt
    · rename_i hge
      rw [run_append, ih (n / 10) (by omega) (by omega)]
      simp only [run_cons, run_nil, step, PartialNumber.next?, digitValue?_digitChar]
      rw [show n / 10 * 10 + n % 10 = n by omega]

end Number

/-- The state after the text of a value: the value was delivered, or it is a number that may still
go on. -/
inductive Settled (v : Json) (stack : List Frame) : State → Prop
  | delivered : Settled v stack (deliver v stack)
  | number {n : PartialNumber} (hv : n.result? = some v)
      (hpart : n.part = .zero ∨ n.part = .whole) :
      Settled v stack (.reading (.number n) stack)

theorem settled_int (stack : List Frame) (i : Int) :
    Settled (.int i) stack (run (.reading .value stack) (writeInt i).toList) := by
  have first : ∀ d, 0 < d → d < 10 → step (.reading .value stack) (digitChar d) =
      .reading (.number ⟨.whole, false, d, 0, false, 0⟩) stack := by
    intro d hpos hlt
    interval_cases d <;> rfl
  have signed : ∀ d, 0 < d → d < 10 →
      step (step (.reading .value stack) '-') (digitChar d) =
        .reading (.number ⟨.whole, true, d, 0, false, 0⟩) stack := by
    intro d hpos hlt
    interval_cases d <;> rfl
  rw [writeInt]
  split
  · rename_i hneg
    rw [String.toList_ofList, run_cons, run_writeDigits stack signed (by omega)]
    refine .number ?_ (.inr rfl)
    simp only [PartialNumber.result?, if_true]
    rw [show -(i.natAbs : Int) = i by omega]
  · rename_i hnonneg
    rw [writeNat, String.toList_ofList]
    by_cases hzero : i = 0
    · subst hzero
      have hdigits : writeDigits (Int.natAbs 0) = ['0'] := by
        rw [writeDigits]
        rfl
      have hrun : run (.reading .value stack) ['0'] =
          .reading (.number ⟨.zero, false, 0, 0, false, 0⟩) stack := rfl
      rw [hdigits, hrun]
      exact .number rfl (.inl rfl)
    · rw [run_writeDigits stack first (by omega)]
      refine .number ?_ (.inr rfl)
      simp only [PartialNumber.result?, Bool.false_eq_true, if_false]
      rw [show (i.natAbs : Int) = i by omega]

/-! ## Values -/

/-- A character that may follow a value in a list or an object. -/
def IsDelimiter (c : Char) : Prop := c = ',' ∨ c = ']' ∨ c = '}'

variable {stack : List Frame} {v : Json} {s : State}

theorem step_deliver {c : Char} : step (deliver v stack) c = afterValue c (deliver v stack) := by
  cases stack with
  | nil => rfl
  | cons frame stack => cases frame <;> rfl

/-- A delimiter ends a number, and what it does then is what it does after any value. -/
theorem Settled.step_eq (h : Settled v stack s) {c : Char} (hc : IsDelimiter c) :
    step s c = step (deliver v stack) c := by
  cases h with
  | delivered => rfl
  | @number n hv hpart =>
    have hnext : n.next? c = none := by
      rcases hc with rfl | rfl | rfl <;> rcases hpart with hp | hp <;>
        simp [PartialNumber.next?, hp, digitValue?]
    have hdigit : digitValue? c = none := by
      rcases hc with rfl | rfl | rfl <;> rfl
    rw [step_deliver]
    simp [step, hnext, hv, hdigit]

/-- At the end of the text. -/
theorem Settled.finish_eq (h : Settled v [] s) : s.finish = ⟨v, false⟩ := by
  cases h with
  | delivered => rfl
  | number hv => simp [State.finish, hv]

theorem Settled.run_renderItems (h : Settled v stack s) (vs : List Json) :
    run s (renderItems vs) = run (deliver v stack) (renderItems vs) := by
  cases vs with
  | nil => rw [renderItems_nil, run_cons, h.step_eq (.inr (.inl rfl)), run_cons]
  | cons v vs => rw [renderItems_cons, run_cons, h.step_eq (.inl rfl), run_cons]

theorem Settled.run_renderMembers (h : Settled v stack s) (ms : List (String × Json)) :
    run s (renderMembers ms) = run (deliver v stack) (renderMembers ms) := by
  cases ms with
  | nil => rw [renderMembers_nil, run_cons, h.step_eq (.inr (.inr rfl)), run_cons]
  | cons m ms => rw [renderMembers_cons, run_cons, h.step_eq (.inl rfl), run_cons]

/-- The text of a plain value begins with a character that begins a value. -/
theorem render_eq_cons (h : v.isPlain) :
    ∃ c cs, v.render = c :: cs ∧ isSpace c = false ∧ c ≠ ']' := by
  have digit : ∀ n, ∃ c cs, writeDigits n = c :: cs ∧ isSpace c = false ∧ c ≠ ']' := by
    intro n
    obtain ⟨c, cs, hn⟩ := List.exists_cons_of_ne_nil (writeDigits_ne_nil n)
    have hc := isDigit_of_mem_writeDigits (hn ▸ List.mem_cons_self ..)
    refine ⟨c, cs, hn, ?_, ?_⟩
    · refine Bool.eq_false_iff.2 fun hspace => ?_
      obtain ((rfl | rfl) | rfl) | rfl := by simpa [isSpace] using hspace
      all_goals exact absurd hc (by decide)
    · rintro rfl
      exact absurd hc (by decide)
  cases v with
  | null => exact ⟨'n', _, render_null, rfl, by decide⟩
  | bool b =>
    cases b
    · exact ⟨'f', _, render_false, rfl, by decide⟩
    · exact ⟨'t', _, render_true, rfl, by decide⟩
  | int i =>
    rw [render_int, writeInt]
    split
    · exact ⟨'-', _, String.toList_ofList, rfl, by decide⟩
    · rw [writeNat, String.toList_ofList]
      exact digit _
  | str s => exact ⟨'"', _, render_str s, rfl, by decide⟩
  | arr vs =>
    cases vs with
    | nil => exact ⟨'[', _, render_arr_nil, rfl, by decide⟩
    | cons v vs => exact ⟨'[', _, render_arr_cons v vs, rfl, by decide⟩
  | obj ms =>
    cases ms with
    | nil => exact ⟨'\x7b', _, render_obj_nil, rfl, by decide⟩
    | cons m ms => exact ⟨'\x7b', _, render_obj_cons m.1 m.2 ms, rfl, by decide⟩
  | real | unpaired | cut => exact absurd h Bool.false_ne_true

/-- The first item of a list is read like any value. -/
theorem run_firstItem (h : v.isPlain) :
    run (.reading .firstItem stack) v.render = run (.reading .value stack) v.render := by
  obtain ⟨c, cs, hrender, hspace, hclose⟩ := render_eq_cons h
  rw [hrender, run_cons, run_cons]
  congr 1
  simp only [step, hspace, Bool.false_eq_true, if_false]
  split
  · exact absurd rfl hclose
  · rfl

/-- A key is read where one is expected, up to the text of its value. -/
theorem run_key {mode : Mode} {members : List (String × Json)}
    (hmode : mode = .firstKey ∨ mode = .nextKey) (k : String) (cs : List Char) :
    run (.reading mode (.members members :: stack)) (quote k ++ ':' :: cs) =
      run (.reading .value (.member members k :: stack)) cs := by
  have hopen : step (.reading mode (.members members :: stack)) '"' =
      .reading (.string ⟨.key, some [], none⟩) (.members members :: stack) := by
    rcases hmode with rfl | rfl <;> rfl
  rw [run_append, run_quote .key _ k mode hopen, finish_key]
  rfl

mutual

/-- The reader settles on a plain value after its text. -/
theorem settled_render (v : Json) (h : v.isPlain) (stack : List Frame) :
    Settled v stack (run (.reading .value stack) v.render) := by
  match v, h with
  | null, _ =>
    rw [render_null]
    exact .delivered
  | bool true, _ =>
    rw [render_true]
    exact .delivered
  | bool false, _ =>
    rw [render_false]
    exact .delivered
  | int i, _ => exact settled_int stack i
  | str s, _ =>
    rw [render_str, run_quote .value stack s .value rfl, finish_value]
    exact .delivered
  | arr [], _ => exact .delivered
  | arr (v :: vs), h =>
    obtain ⟨hv, hvs⟩ := Bool.and_eq_true_iff.1 h
    have hopen : step (.reading .value stack) '[' = .reading .firstItem (.items [] :: stack) := rfl
    rw [render_arr_cons, run_cons, hopen, run_append, run_firstItem hv,
      (settled_render v hv _).run_renderItems, deliver, run_renderItems vs hvs]
    exact .delivered
  | obj [], _ => exact .delivered
  | obj ((k, v) :: ms), h =>
    obtain ⟨hv, hms⟩ := Bool.and_eq_true_iff.1 h
    have hopen : step (.reading .value stack) '\x7b' =
        .reading .firstKey (.members [] :: stack) := rfl
    rw [render_obj_cons, run_cons, hopen, run_key (.inl rfl), run_append,
      (settled_render v hv _).run_renderMembers, deliver, run_renderMembers ms hms]
    exact .delivered

/-- The remaining items of a list. -/
theorem run_renderItems (vs : List Json) (h : itemsPlain vs) (read : List Json)
    (stack : List Frame) : run (.reading .afterItem (.items read :: stack)) (renderItems vs) =
      deliver (.arr (read.reverse ++ vs)) stack := by
  match vs, h with
  | [], _ =>
    rw [renderItems_nil, List.append_nil]
    rfl
  | v :: vs, h =>
    obtain ⟨hv, hvs⟩ := Bool.and_eq_true_iff.1 h
    have hcomma : step (.reading .afterItem (.items read :: stack)) ',' =
        .reading .value (.items read :: stack) := rfl
    rw [renderItems_cons, run_cons, hcomma, run_append, (settled_render v hv _).run_renderItems,
      deliver, run_renderItems vs hvs, List.reverse_cons, List.append_assoc, List.singleton_append]

/-- The remaining members of an object. -/
theorem run_renderMembers (ms : List (String × Json)) (h : membersPlain ms)
    (read : List (String × Json)) (stack : List Frame) :
    run (.reading .afterMember (.members read :: stack)) (renderMembers ms) =
      deliver (.obj (read.reverse ++ ms)) stack := by
  match ms, h with
  | [], _ =>
    rw [renderMembers_nil, List.append_nil]
    rfl
  | (k, v) :: ms, h =>
    obtain ⟨hv, hms⟩ := Bool.and_eq_true_iff.1 h
    have hcomma : step (.reading .afterMember (.members read :: stack)) ',' =
        .reading .nextKey (.members read :: stack) := rfl
    rw [renderMembers_cons, run_cons, hcomma, run_key (.inr rfl), run_append,
      (settled_render v hv _).run_renderMembers, deliver, run_renderMembers ms hms,
      List.reverse_cons, List.append_assoc, List.singleton_append]

end

/-! ## Texts -/

/-- **The text of a plain value reads back.** -/
theorem read_render {v : Json} (h : v.isPlain) : Json.read v.render = ⟨v, false⟩ :=
  (settled_render v h []).finish_eq

theorem decodeText_compress {α : Type} (d : Decoder α) {v : Json} (h : v.isPlain) :
    decodeText d v.compress.toList = d v := by
  rw [decodeText, compress, String.toList_ofList, read_render h]
  cases d v <;> rfl

/-- The octets of a text are read as its characters. -/
theorem charactersOf_octets (s : String) : charactersOf (Crypto.octets s) = s.toList := by
  rw [charactersOf, Utf8.decode_octets, List.flatMap_map]
  exact List.flatMap_singleton' _

theorem decodeOctets_compress {α : Type} (d : Decoder α) {v : Json} (h : v.isPlain) :
    decodeOctets d (Crypto.octets v.compress) = d v := by
  rw [decodeOctets, charactersOf_octets, decodeText_compress d h]

/-! ## Decoding texts -/

section Texts

variable {α : Type} {d : Decoder α} {a : α}

/-- A text is decoded as a value if the JSON value in it is, and nothing follows it. -/
theorem decodeText_eq_ok_iff {cs : List Char} :
    decodeText d cs = .ok a ↔ d (read cs).value = .ok a ∧ (read cs).followed = false := by
  rw [decodeText]
  cases d (read cs).value with
  | error e => exact iff_of_false (by rintro ⟨⟩) (by rintro ⟨⟨⟩, -⟩)
  | ok b =>
    cases (read cs).followed with
    | true => exact iff_of_false (by rintro ⟨⟩) (by rintro ⟨-, ⟨⟩⟩)
    | false => exact (and_iff_left rfl).symm

theorem fromText_eq_ok_iff {s : String} :
    fromText d s = .ok a ↔ d (read s.toList).value = .ok a ∧ (read s.toList).followed = false := by
  rw [← decodeText_eq_ok_iff, fromText]
  cases decodeText d s.toList with
  | error e =>
    refine iff_of_false (fun h => ?_) (by rintro ⟨⟩)
    cases e <;> cases h
  | ok b => simp only [Except.ok.injEq]

theorem fromText_compress {v : Json} (h : v.isPlain) (ha : d v = .ok a) :
    fromText d v.compress = .ok a := by
  rw [fromText, decodeText_compress d h, ha]

/-- Every text is what its JSON text stands for. -/
theorem fromText_str (s : String) : fromText Decode.string (str s).compress = .ok s :=
  fromText_compress rfl rfl

end Texts

/-! ## Lists -/

variable {α : Type} {encode : α → Json}

theorem itemsPlain_map (h : ∀ a, (encode a).isPlain) (as : List α) :
    itemsPlain (as.map encode) := by
  induction as with
  | nil => rfl
  | cons a as ih => rw [List.map_cons, itemsPlain, h, ih, Bool.and_self]

end Json
end SessionAuth
