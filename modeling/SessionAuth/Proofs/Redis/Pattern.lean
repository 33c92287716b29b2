import Mathlib.Data.List.Infix
import SessionAuth.Proofs.Redis.Record
import SessionAuth.Proofs.Redis.Sweeping
import SessionAuth.Proofs.Text.Utf8

/-!
# The pattern of the keys of indexes

A sweep asks a server for the keys that match a pattern.  The pattern is made as the keys are, from
what a deployment puts in front of all of them; but there the text stands for itself, and here a
star, a question mark, a bracket or a backslash in it has a meaning.

* `Glob.isMatch` tells what a pattern matches, octet by octet.
* Stars and question marks do no harm.  They match themselves, among others, so that the keys of
  indexes still match (`Glob.areMatched_self`).  A key of another family could only match with the
  name of the family of indexes in the part that stands in front of all keys; but the pattern has
  it once more there, whatever the stars and question marks are filled with
  (`Glob.Fills.not_eq_append`).
* `sweepAll_prunesIndexes` draws the consequence for a sweep, provided that there is no bracket.  A
  bracket takes all octets up to the one that closes it for alternatives, so that a pattern may
  match no index at all, or match a record (`not_always_index`).
-/

set_option autoImplicit false

namespace SessionAuth
namespace Redis

open Crypto Text

/-! ## What a pattern matches -/

namespace Glob

@[match_pattern] abbrev star : UInt8 := 0x2A
@[match_pattern] abbrev hyphen : UInt8 := 0x2D
@[match_pattern] abbrev questionMark : UInt8 := 0x3F
@[match_pattern] abbrev openBracket : UInt8 := 0x5B
@[match_pattern] abbrev backslash : UInt8 := 0x5C
@[match_pattern] abbrev closeBracket : UInt8 := 0x5D
@[match_pattern] abbrev caret : UInt8 := 0x5E

/-- A part of a pattern. -/
inductive Part where
  | anyText
  | octet (accepts : UInt8 → Bool)

/-- The part that stands for one octet. -/
def Part.one (b : UInt8) : Part := .octet (· == b)

/-- The ranges of octets that stand in brackets, and the pattern behind them.  Brackets that are not
closed go on to the end. -/
def readRanges : List UInt8 → List (UInt8 × UInt8) × List UInt8
  | [] => ([], [])
  | closeBracket :: bs => ([], bs)
  | backslash :: b :: bs => ((b, b) :: (readRanges bs).1, (readRanges bs).2)
  | low :: hyphen :: high :: bs =>
    ((min low high, max low high) :: (readRanges bs).1, (readRanges bs).2)
  | b :: bs => ((b, b) :: (readRanges bs).1, (readRanges bs).2)

/-- Whether an octet is in one of some ranges. -/
def isAmong (ranges : List (UInt8 × UInt8)) (b : UInt8) : Bool :=
  ranges.any fun range => decide (range.1 ≤ b ∧ b ≤ range.2)

theorem length_readRanges (bs : List UInt8) : (readRanges bs).2.length ≤ bs.length := by
  fun_induction readRanges bs <;> simp only [List.length_cons, List.length_nil] <;> omega

/-- The parts of a pattern. -/
def parts (bs : List UInt8) : List Part :=
  match bs with
  | [] => []
  | star :: bs => .anyText :: parts bs
  | questionMark :: bs => .octet (fun _ => true) :: parts bs
  | openBracket :: caret :: bs =>
    have := length_readRanges bs
    .octet (fun b => !isAmong (readRanges bs).1 b) :: parts (readRanges bs).2
  | openBracket :: bs =>
    have := length_readRanges bs
    .octet (isAmong (readRanges bs).1) :: parts (readRanges bs).2
  | backslash :: b :: bs => .one b :: parts bs
  | b :: bs => .one b :: parts bs
  termination_by bs.length
  decreasing_by all_goals simp_wf <;> omega

/-- Whether octets are made of such that the parts stand for, one after the other. -/
def areMatched : List Part → List UInt8 → Bool
  | [], bs => bs.isEmpty
  | .anyText :: ps, bs => bs.tails.any (areMatched ps)
  | .octet _ :: _, [] => false
  | .octet accepts :: ps, b :: bs => accepts b && areMatched ps bs

/-- Whether a text matches a pattern. -/
def isMatch (pattern text : String) : Bool := areMatched (parts (octets pattern)) (octets text)

/-- Whether an octet stands for itself in a pattern. -/
def IsPlain (b : UInt8) : Prop :=
  b ≠ star ∧ b ≠ questionMark ∧ b ≠ openBracket ∧ b ≠ backslash

instance : DecidablePred IsPlain := fun _ => inferInstanceAs (Decidable (_ ∧ _))

variable {b : UInt8} {bs s : List UInt8} {ps : List Part}

theorem areMatched_anyText :
    areMatched (.anyText :: ps) bs ↔ ∃ skipped rest, skipped ++ rest = bs ∧ areMatched ps rest := by
  simp only [areMatched, List.any_eq_true, List.mem_tails]
  constructor
  · rintro ⟨rest, ⟨skipped, hbs⟩, hrest⟩
    exact ⟨skipped, rest, hbs, hrest⟩
  · rintro ⟨skipped, rest, hbs, hrest⟩
    exact ⟨rest, ⟨skipped, hbs⟩, hrest⟩

theorem areMatched_octet {accepts : UInt8 → Bool} : areMatched (.octet accepts :: ps) bs ↔
    ∃ b rest, b :: rest = bs ∧ accepts b ∧ areMatched ps rest := by
  cases bs with
  | nil => simp [areMatched]
  | cons b bs => simp [areMatched]

theorem areMatched_one :
    areMatched (.one b :: ps) bs ↔ ∃ rest, b :: rest = bs ∧ areMatched ps rest := by
  simp [Part.one, areMatched_octet]

theorem areMatched_ones :
    areMatched (s.map .one ++ ps) bs ↔ ∃ rest, s ++ rest = bs ∧ areMatched ps rest := by
  induction s generalizing bs with
  | nil => simp
  | cons b s ih =>
    rw [List.map_cons, List.cons_append, areMatched_one]
    constructor
    · rintro ⟨_, rfl, h⟩
      obtain ⟨rest, rfl, hrest⟩ := ih.1 h
      exact ⟨rest, rfl, hrest⟩
    · rintro ⟨rest, rfl, hrest⟩
      exact ⟨s ++ rest, rfl, ih.2 ⟨rest, rfl, hrest⟩⟩

theorem parts_star (bs : List UInt8) : parts (star :: bs) = .anyText :: parts bs := by
  conv_lhs => unfold parts
  rfl

theorem parts_questionMark (bs : List UInt8) :
    parts (questionMark :: bs) = .octet (fun _ => true) :: parts bs := by
  conv_lhs => unfold parts
  rfl

theorem parts_backslash (b : UInt8) (bs : List UInt8) :
    parts (backslash :: b :: bs) = .one b :: parts bs := by
  conv_lhs => unfold parts
  rfl

theorem parts_cons (h : IsPlain b) (bs : List UInt8) : parts (b :: bs) = .one b :: parts bs := by
  obtain ⟨hstar, hquestionMark, hopenBracket, hbackslash⟩ := h
  conv_lhs => unfold parts
  split <;> simp_all

theorem parts_append (h : ∀ b ∈ s, IsPlain b) (bs : List UInt8) :
    parts (s ++ bs) = s.map .one ++ parts bs := by
  induction s with
  | nil => rfl
  | cons b s ih =>
    obtain ⟨hb, hs⟩ := List.forall_mem_cons.1 h
    rw [List.cons_append, parts_cons hb, ih hs, List.map_cons, List.cons_append]

/-- A backslash takes nothing from an octet that is plain without it. -/
theorem parts_backslash_append (h : ∀ b ∈ s, IsPlain b) (hs : s ≠ []) (bs : List UInt8) :
    parts (backslash :: (s ++ bs)) = parts (s ++ bs) := by
  cases s with
  | nil => exact absurd rfl hs
  | cons b s =>
    rw [List.cons_append, parts_backslash, parts_cons (h b List.mem_cons_self)]

/-! ## Texts that match themselves -/

/-- Stars and question marks match themselves as well. -/
theorem areMatched_self {q : List UInt8} (hopen : openBracket ∉ q) (hescape : backslash ∉ q)
    (h : areMatched (parts bs) s) : areMatched (parts (q ++ bs)) (q ++ s) := by
  induction q with
  | nil => exact h
  | cons b q ih =>
    rw [List.mem_cons, not_or] at hopen hescape
    have hq := ih hopen.2 hescape.2
    rw [List.cons_append, List.cons_append]
    by_cases hstar : b = star
    · subst hstar
      rw [parts_star, areMatched_anyText]
      exact ⟨[star], q ++ s, rfl, hq⟩
    by_cases hmark : b = questionMark
    · subst hmark
      rw [parts_questionMark, areMatched_octet]
      exact ⟨questionMark, q ++ s, rfl, rfl, hq⟩
    · rw [parts_cons ⟨hstar, hmark, Ne.symm hopen.1, Ne.symm hescape.1⟩, areMatched_one]
      exact ⟨q ++ s, rfl, hq⟩

/-! ## Texts that fill a pattern -/

/-- Octets are filled in if each one that is not among `s` either is kept or makes room for
others. -/
inductive Fills (s : List UInt8) : List UInt8 → List UInt8 → Prop where
  | nil : Fills s [] []
  | keep {q x : List UInt8} (b : UInt8) : Fills s q x → Fills s (b :: q) (b :: x)
  | fill {q x : List UInt8} {b : UInt8} (bs : List UInt8) : b ∉ s → Fills s q x →
    Fills s (b :: q) (bs ++ x)

theorem Fills.exists_append {q r x : List UInt8} (h : Fills s (q ++ r) x) :
    ∃ y z, x = y ++ z ∧ Fills s q y ∧ Fills s r z := by
  induction q generalizing x with
  | nil => exact ⟨[], x, rfl, .nil, h⟩
  | cons b q ih =>
    cases h with
    | keep _ h =>
      obtain ⟨y, z, rfl, hy, hz⟩ := ih h
      exact ⟨b :: y, z, rfl, hy.keep b, hz⟩
    | fill bs hb h =>
      obtain ⟨y, z, rfl, hy, hz⟩ := ih h
      exact ⟨bs ++ y, z, (List.append_assoc ..).symm, hy.fill bs hb, hz⟩

theorem Fills.eq_of_subset {q x : List UInt8} (h : Fills s q x) (hq : q ⊆ s) : x = q := by
  induction h with
  | nil => rfl
  | keep b _ ih => rw [ih (List.subset_of_cons_subset hq)]
  | fill _ hb => exact absurd (hq List.mem_cons_self) hb

/-- Octets in which `s` occurs are not filled in by the ones in front of an occurrence: in these `s`
would occur as well, and what is in front of it there would fill them in. -/
theorem Fills.not_eq_append {q x : List UInt8} (h : Fills s q x) (hs : s ≠ []) (rest : List UInt8) :
    q ≠ x ++ s ++ rest := by
  induction hlength : q.length using Nat.strong_induction_on generalizing q x rest with
  | _ n ih =>
    rintro rfl
    -- what fills in `x ++ s ++ rest` has an occurrence of `s`, and this is `x` itself
    obtain ⟨y, z, hx, hy, -⟩ := h.exists_append
    obtain ⟨x', s', rfl, hx', hs'⟩ := hy.exists_append
    obtain rfl := hs'.eq_of_subset (List.Subset.refl s)
    refine ih x.length ?_ hx' z rfl hx
    have := List.length_pos_of_ne_nil hs
    simp only [List.length_append] at hlength
    omega

/-- What matches a pattern that has some plain octets in it has them too, and what is in front of
them there fills in what is in front of them in the pattern. -/
theorem exists_fills_of_areMatched (hplain : ∀ b ∈ s, IsPlain b) (hs : s ≠ []) {q : List UInt8}
    (hopen : openBracket ∉ q) {x : List UInt8} (h : areMatched (parts (q ++ (s ++ bs))) x) :
    ∃ y z, x = y ++ s ++ z ∧ Fills s q y := by
  have hliteral : ∀ {x}, areMatched (parts (s ++ bs)) x → ∃ z, x = s ++ z := fun h => by
    rw [parts_append hplain, areMatched_ones] at h
    obtain ⟨z, rfl, -⟩ := h
    exact ⟨z, rfl⟩
  induction q using parts.induct generalizing x with
  | case1 =>
    obtain ⟨z, rfl⟩ := hliteral h
    exact ⟨[], z, rfl, .nil⟩
  | case2 q ih =>
    change areMatched (parts (star :: (q ++ (s ++ bs)))) x at h
    rw [parts_star, areMatched_anyText] at h
    obtain ⟨skipped, x, rfl, hx⟩ := h
    obtain ⟨y, z, rfl, hy⟩ := ih (List.not_mem_of_not_mem_cons hopen) hx
    exact ⟨skipped ++ y, z, by simp, hy.fill skipped fun hb => (hplain _ hb).1 rfl⟩
  | case3 q ih =>
    change areMatched (parts (questionMark :: (q ++ (s ++ bs)))) x at h
    rw [parts_questionMark, areMatched_octet] at h
    obtain ⟨b, x, rfl, -, hx⟩ := h
    obtain ⟨y, z, rfl, hy⟩ := ih (List.not_mem_of_not_mem_cons hopen) hx
    exact ⟨b :: y, z, rfl, hy.fill [b] fun hb => (hplain _ hb).2.1 rfl⟩
  | case4 | case5 => exact absurd List.mem_cons_self hopen
  | case6 b q ih =>
    change areMatched (parts (backslash :: b :: (q ++ (s ++ bs)))) x at h
    rw [parts_backslash, areMatched_one] at h
    obtain ⟨x, rfl, hx⟩ := h
    obtain ⟨y, z, rfl, hy⟩ := ih (fun hq => hopen (by simp [hq])) hx
    exact ⟨b :: y, z, rfl, (hy.keep b).fill [] fun hb => (hplain _ hb).2.2.2 rfl⟩
  | case7 b q hstar hmark hcaret hopenBracket hescape ih =>
    by_cases hlast : b = backslash
    · -- the backslash is the last octet, and takes nothing from the octet after it
      subst hlast
      obtain rfl : q = [] := List.eq_nil_iff_forall_not_mem.2 fun b hb => by
        obtain ⟨b', q', rfl⟩ := List.exists_cons_of_ne_nil (List.ne_nil_of_mem hb)
        exact hescape b' q' rfl rfl
      obtain ⟨z, rfl⟩ := hliteral ((parts_backslash_append hplain hs bs).symm ▸ h)
      exact ⟨[], z, rfl, Fills.nil.fill [] fun hb => (hplain _ hb).2.2.2 rfl⟩
    · rw [List.cons_append, parts_cons ⟨hstar, hmark, hopenBracket, hlast⟩, areMatched_one] at h
      obtain ⟨x, rfl, hx⟩ := h
      obtain ⟨y, z, rfl, hy⟩ := ih (List.not_mem_of_not_mem_cons hopen) hx
      exact ⟨b :: y, z, rfl, hy.keep b⟩

/-! ## Where another text is not reached -/

/-- Whether no occurrence of `s` ends in `t`, whatever stands in front of `t`. -/
def IsApart (s t : List UInt8) : Prop := ∀ w, w ≠ [] → w <+: t → ¬ w <:+ s ∧ ¬ s <:+ w

theorem IsApart.exists_append {t p u v : List UInt8} (h : IsApart s t) (ht : p ++ t = u ++ s ++ v) :
    ∃ rest, p = u ++ s ++ rest := by
  obtain ⟨w, hus, htw⟩ | ⟨rest, hp, -⟩ := List.append_eq_append_iff.1 ht
  · by_cases hw : w = []
    · exact ⟨[], by simp [hus, hw]⟩
    · -- both `s` and `w` end where `u ++ s` does
      have hnot := h w hw ⟨v, htw.symm⟩
      obtain hsw | hws := List.suffix_or_suffix_of_suffix ⟨u, rfl⟩ ⟨p, hus.symm⟩
      · exact absurd hsw hnot.2
      · exact absurd hws hnot.1
  · exact ⟨rest, hp⟩

/-- Behind `t` there is no end of an occurrence if its last octet is not there. -/
theorem IsApart.append {t rest : List UInt8} (h : IsApart s t) (hs : s ≠ [])
    (hrest : s.getLast hs ∉ rest) : IsApart s (t ++ rest) := by
  rintro w hw ⟨v, hv⟩
  obtain ⟨t', rfl, -⟩ | ⟨w', rfl, rfl⟩ := List.append_eq_append_iff.1 hv
  · exact h w hw (List.prefix_append ..)
  by_cases hw' : w' = []
  · rw [hw', List.append_nil] at hw ⊢
    exact h t hw (List.prefix_refl t)
  have hne : (t ++ w').getLast hw ≠ s.getLast hs := fun heq => by
    rw [List.getLast_append_of_ne_nil hw hw'] at heq
    exact hrest (heq ▸ List.mem_append_left _ (List.getLast_mem hw'))
  exact ⟨fun hws => hne (hws.getLast hw), fun hsw => hne (hsw.getLast hs).symm⟩

/-- A pattern that has some plain octets in it does not match what is in front of them, followed by
octets in which they have no part. -/
theorem not_areMatched (hplain : ∀ b ∈ s, IsPlain b) (hs : s ≠ []) {q t : List UInt8}
    (hopen : openBracket ∉ q) (ht : IsApart s t) :
    ¬ areMatched (parts (q ++ (s ++ bs))) (q ++ t) := by
  intro h
  obtain ⟨y, z, hyz, hfills⟩ := exists_fills_of_areMatched hplain hs hopen h
  obtain ⟨rest, hq⟩ := ht.exists_append hyz
  exact hfills.not_eq_append hs rest hq

end Glob

/-! ## The pattern of a client -/

namespace Entry

open Glob

/-- The octets that the names of indexes begin with. -/
def indexStart : List UInt8 := octets Family.indexes.start

theorem indexStart_ne_nil : indexStart ≠ [] := by
  rw [indexStart, Utf8.octets_eq]
  decide

theorem isPlain_of_mem_indexStart : ∀ b ∈ indexStart, IsPlain b := by
  have hall : indexStart.all fun b => decide (IsPlain b) := by
    rw [indexStart, Utf8.octets_eq]
    decide
  exact fun b hb => of_decide_eq_true (List.all_eq_true.1 hall b hb)

theorem getLast_indexStart : indexStart.getLast indexStart_ne_nil = 0x3A := by
  simp only [indexStart, Utf8.octets_eq]
  decide

theorem isApart_start {f : Family} (h : f ≠ .indexes) : IsApart indexStart (octets f.start) := by
  suffices ∀ w ∈ (octets f.start).inits, w ≠ [] → ¬ w <:+ indexStart ∧ ¬ indexStart <:+ w from
    fun w hw hprefix => this w ((List.mem_inits _ _).2 hprefix) hw
  rw [indexStart, Utf8.octets_eq, Utf8.octets_eq]
  cases f with
  | indexes => exact absurd rfl h
  | records | pointers | facts | permissions => decide

theorem exists_eq_index {e : Entry} (h : e.family = .indexes) : ∃ user, e = .index user := by
  cases e with
  | index user => exact ⟨user, rfl⟩
  | record | pointer => cases h
  | cached subject => cases subject <;> cases h

theorem octets_indexPattern (c : Client) :
    octets c.indexPattern = octets c.keyPrefix ++ (indexStart ++ [star]) := by
  have hstar : octets "*" = [star] := by
    rw [Utf8.octets_eq]
    decide
  show octets (c.keyPrefix ++ ("session:user:" ++ "*")) = _
  rw [Utf8.octets_append, Utf8.octets_append, hstar]
  rfl

theorem octets_key (c : Client) (e : Entry) :
    octets (e.key c) = octets c.keyPrefix ++ (octets e.family.start ++ octets e.own) := by
  rw [key_eq, name_eq, Utf8.octets_append, Utf8.octets_append]

end Entry

section

variable {c : Client} (hopen : '[' ∉ c.keyPrefix.toList)
include hopen

theorem openBracket_not_mem : Glob.openBracket ∉ octets c.keyPrefix :=
  fun h => hopen (Utf8.mem_toList_of_mem_octets (by decide) h)

/-- The keys of other families do not match, as long as no bracket stands in front of them, and no
further colon in them. -/
theorem not_isMatch_key {e : Entry} (hfamily : e.family ≠ .indexes) (hown : ':' ∉ e.own.toList) :
    ¬ Glob.isMatch c.indexPattern (e.key c) := by
  rw [Glob.isMatch, Entry.octets_indexPattern, Entry.octets_key]
  refine Glob.not_areMatched Entry.isPlain_of_mem_indexStart Entry.indexStart_ne_nil
    (openBracket_not_mem hopen) ((Entry.isApart_start hfamily).append Entry.indexStart_ne_nil ?_)
  rw [Entry.getLast_indexStart]
  exact fun h => hown (Utf8.mem_toList_of_mem_octets (by decide) h)

theorem exists_eq_index_of_isMatch {e : Entry} (hown : e.family ≠ .indexes → ':' ∉ e.own.toList)
    (h : Glob.isMatch c.indexPattern (e.key c)) : ∃ user, e = .index user := by
  by_cases hfamily : e.family = .indexes
  · exact Entry.exists_eq_index hfamily
  · exact absurd h (not_isMatch_key hopen hfamily (hown hfamily))

/-- The keys of indexes match, as long as neither a bracket nor a backslash stands in front of
them. -/
theorem isMatch_indexKey (hescape : '\\' ∉ c.keyPrefix.toList) (user : UserId) :
    Glob.isMatch c.indexPattern (c.indexKey user) := by
  have hescape' : Glob.backslash ∉ octets c.keyPrefix :=
    fun h => hescape (Utf8.mem_toList_of_mem_octets (by decide) h)
  show Glob.isMatch c.indexPattern ((Entry.index user).key c)
  rw [Glob.isMatch, Entry.octets_indexPattern, Entry.octets_key]
  refine Glob.areMatched_self (openBracket_not_mem hopen) hescape' ?_
  rw [Glob.parts_append Entry.isPlain_of_mem_indexStart, Glob.areMatched_ones, Glob.parts_star]
  exact ⟨_, rfl, Glob.areMatched_anyText.2 ⟨_, [], List.append_nil _, by rw [Glob.parts]; rfl⟩⟩

end

/-! ## What a sweep prunes -/

/-- Pages that a server hands out all the keys on that are kept and match, and no others.  A key may
be on more than one of them. -/
structure Scan (c : Client) (kept : List Entry) (pages : List Page) (last : Page) : Prop where
  mem_iff : ∀ key, (∃ p ∈ pages ++ [last], ∃ q ∈ p.prunings, q.key = key) ↔
    (∃ e ∈ kept, e.key c = key) ∧ Glob.isMatch c.indexPattern key
  pages_read : ∀ p ∈ pages, p.IsRead ∧ p.next ≠ 0
  last_read : last.IsRead
  last_next : last.next = 0

theorem Pruning.exists_mem_said (q : Pruning) :
    ∃ x ∈ q.said, x.question = pruneScript.command [q.key] [] := by
  rw [said, Script.said]
  split <;> exact ⟨_, List.mem_cons_self, rfl⟩

theorem Pruning.question_of_mem_said {q : Pruning} {x : SessionAuth.Exchange interface}
    (h : x ∈ q.said) : x.question = ["SCRIPT", "LOAD", pruneScript.text] ∨
      x.question = pruneScript.command [q.key] [] := by
  rw [said, Script.said] at h
  split at h
  · obtain rfl | h := List.mem_cons.1 h
    · exact .inr rfl
    obtain rfl | h := List.mem_cons.1 h
    · exact .inl rfl
    split at h
    · rw [List.mem_singleton.1 h]
      exact .inr rfl
    · exact absurd h List.not_mem_nil
  · rw [List.mem_singleton.1 h]
    exact .inr rfl

theorem exists_mem_saidOf (c : Client) (cursor : Nat) {pages : List Page} {p : Page}
    (hp : p ∈ pages) {q : Pruning} (hq : q ∈ p.prunings) :
    ∃ x ∈ saidOf c cursor pages, x.question = pruneScript.command [q.key] [] := by
  induction pages generalizing cursor with
  | nil => exact absurd hp List.not_mem_nil
  | cons p' pages ih =>
    obtain rfl | hp := List.mem_cons.1 hp
    · obtain ⟨x, hx, hquestion⟩ := q.exists_mem_said
      refine ⟨x, List.mem_append_left _ (List.mem_cons_of_mem _ ?_), hquestion⟩
      exact List.mem_flatMap.2 ⟨q, hq, hx⟩
    · obtain ⟨x, hx, hquestion⟩ := ih p'.next hp
      exact ⟨x, List.mem_append_right _ hx, hquestion⟩

theorem question_of_mem_saidOf {c : Client} {cursor : Nat} {pages : List Page}
    {x : SessionAuth.Exchange interface} (h : x ∈ saidOf c cursor pages) :
    (∃ cursor, x.question = scanCommand c cursor) ∨
      x.question = ["SCRIPT", "LOAD", pruneScript.text] ∨
      ∃ p ∈ pages, ∃ q ∈ p.prunings, x.question = pruneScript.command [q.key] [] := by
  induction pages generalizing cursor with
  | nil => exact absurd h List.not_mem_nil
  | cons p pages ih =>
    obtain h | h := List.mem_append.1 h
    · obtain rfl | h := List.mem_cons.1 h
      · exact .inl ⟨cursor, rfl⟩
      obtain ⟨q, hq, hx⟩ := List.mem_flatMap.1 h
      exact .inr ((Pruning.question_of_mem_said hx).imp_right fun h =>
        ⟨p, List.mem_cons_self, q, hq, h⟩)
    · obtain h | h | ⟨p', hp', h⟩ := ih h
      · exact .inl h
      · exact .inr (.inl h)
      · exact .inr (.inr ⟨p', List.mem_cons_of_mem _ hp', h⟩)

/-- Whether a conversation prunes all indexes that are kept and, but for asking for pages and
bringing the script, does nothing else. -/
structure PrunesIndexes (c : Client) (kept : List Entry) (said : Said) : Prop where
  all : ∀ user, Entry.index user ∈ kept →
    ∃ x ∈ said, x.question = pruneScript.command [c.indexKey user] []
  only : ∀ x ∈ said, (∃ cursor, x.question = scanCommand c cursor) ∨
    x.question = ["SCRIPT", "LOAD", pruneScript.text] ∨
    ∃ user, Entry.index user ∈ kept ∧ x.question = pruneScript.command [c.indexKey user] []

/-- **A sweep prunes all indexes and nothing else**, as long as neither a bracket nor a backslash
stands in front of the keys.  Where there is a backslash, indexes may be missed, but still no key of
another family is taken for that of an index.  Of the ids in the keys it is only assumed that they
have no colon. -/
theorem sweepAll_prunesIndexes {c : Client} (hopen : '[' ∉ c.keyPrefix.toList) :
    (∀ e : Entry, e.family ≠ .indexes → ':' ∉ e.own.toList →
      ¬ Glob.isMatch c.indexPattern (e.key c)) ∧
    ('\\' ∉ c.keyPrefix.toList →
      (∀ user, Glob.isMatch c.indexPattern (c.indexKey user)) ∧
      ∀ kept pages last, (∀ e ∈ kept, e.family ≠ .indexes → ':' ∉ e.own.toList) →
        Scan c kept pages last → ∀ bound, pages.length < bound →
        Talks (sweepAll c bound).run (saidOf c 0 (pages ++ [last]))
          (.ok ((pages ++ [last]).map Page.count).sum) ∧
        PrunesIndexes c kept (saidOf c 0 (pages ++ [last]))) := by
  refine ⟨fun e => not_isMatch_key hopen, fun hescape => ⟨isMatch_indexKey hopen hescape, ?_⟩⟩
  intro kept pages last hkept hscan bound hbound
  refine ⟨talks_sweepAll_of_last c hscan.pages_read hscan.last_read hscan.last_next hbound,
    fun user huser => ?_, fun x hx => ?_⟩
  · obtain ⟨p, hp, q, hq, hkey⟩ := (hscan.mem_iff (c.indexKey user)).2
      ⟨⟨.index user, huser, rfl⟩, isMatch_indexKey hopen hescape user⟩
    rw [← hkey]
    exact exists_mem_saidOf c 0 hp hq
  · refine (question_of_mem_saidOf hx).imp_right fun h => h.imp_right ?_
    rintro ⟨p, hp, q, hq, hquestion⟩
    obtain ⟨⟨e, he, hkey⟩, hmatch⟩ := (hscan.mem_iff q.key).1 ⟨p, hp, q, hq, rfl⟩
    rw [← hkey] at hmatch hquestion
    obtain ⟨user, rfl⟩ := exists_eq_index_of_isMatch hopen (hkept e he) hmatch
    exact ⟨user, he, hquestion⟩

/-- A page with the key of one index. -/
def oneIndex (c : Client) : Page where
  answer := some (.list [.bulk "0", .list [.bulk (c.indexKey .nil)]])
  next := 0
  prunings := [⟨c.indexKey .nil, some (.integer 1), none, none⟩]

/-- Stars, question marks and the name of the family itself may stand in front of the keys. -/
theorem sweepAll_prunesIndexes_starred :
    let c : Client := ⟨"*session:user:?", 2000⟩
    let kept : List Entry := [.record "0-a", .index .nil, .pointer "0-b"]
    '[' ∉ c.keyPrefix.toList ∧ '\\' ∉ c.keyPrefix.toList ∧
      (∀ e ∈ kept, e.family ≠ .indexes → ':' ∉ e.own.toList) ∧ Scan c kept [] (oneIndex c) ∧
      ¬ Glob.isMatch c.indexPattern (c.recordKey "0-a") ∧
      Glob.isMatch c.indexPattern (c.indexKey .nil) ∧
      Talks (sweepAll c 1).run (saidOf c 0 [oneIndex c]) (.ok 1) ∧
      PrunesIndexes c kept (saidOf c 0 [oneIndex c]) := by
  intro c kept
  have hopen : '[' ∉ c.keyPrefix.toList := by decide
  have hescape : '\\' ∉ c.keyPrefix.toList := by decide
  have hkept : ∀ e ∈ kept, e.family ≠ .indexes → ':' ∉ e.own.toList := by
    simp only [kept, List.forall_mem_cons]
    decide
  obtain ⟨hothers, hindexes⟩ := sweepAll_prunesIndexes hopen
  obtain ⟨hindex, hsweep⟩ := hindexes hescape
  have hscan : Scan c kept [] (oneIndex c) := by
    refine ⟨fun key => ?_, fun _ h => absurd h List.not_mem_nil, rfl, rfl⟩
    simp only [List.nil_append, List.mem_singleton, exists_eq_left, oneIndex]
    constructor
    · rintro rfl
      exact ⟨⟨.index .nil, by simp [kept], rfl⟩, hindex .nil⟩
    · rintro ⟨⟨e, he, rfl⟩, hmatch⟩
      obtain ⟨user, rfl⟩ := exists_eq_index_of_isMatch hopen (hkept e he) hmatch
      obtain rfl : user = .nil := by simpa [kept] using he
      rfl
  obtain ⟨htalks, hprunes⟩ := hsweep kept [] (oneIndex c) hkept hscan 1 Nat.one_pos
  exact ⟨hopen, hescape, hkept, hscan, hothers (.record "0-a") (by decide) (by decide),
    hindex .nil, htalks, hprunes⟩

/-- A bracket in front of the keys may keep all indexes from being pruned, and may let a record be
taken for an index. -/
theorem not_always_index :
    (¬ Glob.isMatch (Client.indexPattern ⟨"app[1]:", 2000⟩)
      (Client.indexKey ⟨"app[1]:", 2000⟩ .nil)) ∧
    (¬ Glob.isMatch (Client.indexPattern ⟨"app\\1:", 2000⟩)
      (Client.indexKey ⟨"app\\1:", 2000⟩ .nil)) ∧
    Glob.isMatch (Client.indexPattern ⟨"[[session:user:]*", 2000⟩)
      (Client.recordKey ⟨"[[session:user:]*", 2000⟩ "0-a") := by
  simp only [Glob.isMatch, Utf8.octets_eq]
  decide +kernel

end Redis
end SessionAuth
