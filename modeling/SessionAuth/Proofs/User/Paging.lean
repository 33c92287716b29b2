import Mathlib.Data.Rat.Floor
import SessionAuth.Http.Query
import SessionAuth.Proofs.Collection.Latest
import SessionAuth.Proofs.User.Repository

/-!
# Pages of users

A list of users is cut into pages of one size, and a client asks for one of them by any two numbers
of sixty-four bits.  Both are brought into range before they are used; the number of users before the
page is then computed with saturation, as the page may be far beyond the end of the list.

`pages_partition` says that none of this can be seen: the answer is the slice of the users that exact
numbers give, the pages up to the last one make up the whole list, and the answer depends on the
accounts alone, not on the order in which the table has them.
-/

set_option autoImplicit false

namespace SessionAuth

variable {α : Type}

/-! ## The request -/

namespace PageRequest

theorem toNat_max_one (n : UInt64) : (max n 1).toNat = max n.toNat 1 := by
  show (if n ≤ 1 then 1 else n).toNat = _
  split <;> rename_i h <;> rw [UInt64.le_iff_toNat_le] at h <;> simp at h ⊢ <;> omega

theorem toNat_number_clamped (number size : UInt64) :
    (clamped number size).number.toNat = max number.toNat 1 :=
  toNat_max_one number

theorem toNat_size_clamped (number size : UInt64) :
    (clamped number size).size.toNat = min (max size.toNat 1) 100 := by
  rw [← toNat_max_one]
  show (if max size 1 ≤ maxSize then max size 1 else maxSize).toNat = _
  have hmax : maxSize.toNat = 100 := rfl
  split <;> rename_i h <;> rw [UInt64.le_iff_toNat_le, hmax] at h <;> omega

/-- Saturation is not seen in a list that is no longer than a number of sixty-four bits can say. -/
theorem drop_offset (r : PageRequest) {as : List α} (h : as.length < UInt64.size) :
    as.drop r.offset = as.drop ((r.number.toNat - 1) * r.size.toNat) := by
  rw [offset]
  rcases Nat.le_total ((r.number.toNat - 1) * r.size.toNat) (UInt64.size - 1) with hle | hle
  · rw [Nat.min_eq_left hle]
  · rw [Nat.min_eq_right hle, List.drop_of_length_le (by omega), List.drop_of_length_le (by omega)]

theorem offset_lt (r : PageRequest) : r.offset < UInt64.size :=
  Nat.lt_of_le_of_lt (Nat.min_le_right ..) (by decide)

end PageRequest

/-! ## The pages -/

/-- The numbers and items of a page of a list, in exact numbers. -/
structure Page.IsPageOf (page : Page α) (as : List α) (number size : Nat) : Prop where
  number_eq : page.number.toNat = number
  size_eq : page.size.toNat = size
  items_eq : page.items = (as.drop ((number - 1) * size)).take size
  totalItems_eq : page.totalItems = as.length
  totalPages_eq : page.totalPages = max 1 ⌈(as.length : ℚ) / size⌉₊

/-- Rounding up a quotient in natural numbers. -/
theorem ceil_div_eq (total : Nat) {size : Nat} (hsize : 0 < size) :
    ⌈(total : ℚ) / size⌉₊ = (total + size - 1) / size := by
  refine eq_of_forall_ge_iff fun n => ?_
  have hpos : (0 : ℚ) < size := Nat.cast_pos.2 hsize
  rw [Nat.ceil_le, div_le_iff₀ hpos, ← Nat.cast_mul, Nat.cast_le,
    Nat.div_le_iff_le_mul_add_pred hsize, Nat.mul_comm n]
  omega

theorem Page.isPageOf_ofList (r : PageRequest) {as : List α} (h : as.length < UInt64.size)
    (hsize : 0 < r.size.toNat) :
    (Page.ofList as r).IsPageOf as r.number.toNat r.size.toNat where
  number_eq := rfl
  size_eq := rfl
  items_eq := congrArg (List.take r.size.toNat) (r.drop_offset h)
  totalItems_eq := rfl
  totalPages_eq := by
    rw [ceil_div_eq _ hsize, Nat.max_comm]
    rfl

/-- All pages together have room for the list. -/
theorem Page.length_le_totalPages_mul (r : PageRequest) (as : List α) (hsize : 0 < r.size.toNat) :
    as.length ≤ (Page.ofList as r).totalPages * r.size.toNat := by
  have hle : (as.length + r.size.toNat - 1) / r.size.toNat ≤ (Page.ofList as r).totalPages :=
    Nat.le_max_left ..
  rw [Nat.div_le_iff_le_mul_add_pred hsize, Nat.mul_comm] at hle
  omega

theorem Page.totalPages_lt (r : PageRequest) {as : List α} (h : as.length < UInt64.size)
    (hsize : 0 < r.size.toNat) : (Page.ofList as r).totalPages < UInt64.size := by
  have hle : (as.length + r.size.toNat - 1) / r.size.toNat ≤ as.length := by
    have hmul : as.length ≤ r.size.toNat * as.length := Nat.le_mul_of_pos_left _ hsize
    rw [Nat.div_le_iff_le_mul_add_pred hsize]
    omega
  exact Nat.max_lt.2 ⟨Nat.lt_of_le_of_lt hle h, by decide⟩

/-- The first pages of a list make up its beginning. -/
theorem flatMap_pages (as : List α) (size n : Nat) :
    ((List.range' 1 n).flatMap fun number => (as.drop ((number - 1) * size)).take size) =
      as.take (n * size) := by
  induction n with
  | zero => simp
  | succ n ih =>
    have hlast : 1 + 1 * n - 1 = n := by omega
    rw [List.range'_concat, List.flatMap_append, ih, Nat.add_one_mul n, List.take_add]
    simp only [List.flatMap_singleton, hlast]

/-! ## The users on them -/

namespace UserTable

variable {t t' : UserTable} {f : UserFilter}

theorem Keyed.mem_selected (h : t.Keyed) {u : User} :
    u ∈ t.selected f ↔ t.users.get? u.id = some u ∧ f.selects u = true := by
  rw [selected, List.mem_mergeSort, List.mem_filter, Table.mem_values_iff]
  refine and_congr_left fun _ => ⟨?_, fun hu => ⟨_, hu⟩⟩
  rintro ⟨id, hu⟩
  rwa [h hu]

theorem Keyed.map_id_values (h : t.Keyed) : t.users.values.map (·.id) = t.users.keys := by
  rw [Table.values, List.map_map, Table.keys]
  exact List.map_congr_left fun e he => h (Table.get?_eq_some_iff.2 he)

theorem Keyed.selected_comesBefore (h : t.Keyed) (f : UserFilter) :
    (t.selected f).Pairwise (ComesBefore User.createdAt User.id) := by
  have hids : ((t.users.values.filter f.selects).map (·.id)).Nodup := by
    have hsub := (t.users.values.filter_sublist (p := f.selects)).map (·.id)
    exact (h.map_id_values ▸ t.users.keys_nodup).sublist hsub
  exact pairwise_mergeSort_comesBefore hids

theorem length_selected_le (t : UserTable) (f : UserFilter) :
    (t.selected f).length ≤ t.users.keys.length := by
  rw [selected, List.length_mergeSort, Table.keys, List.length_map]
  exact (List.length_filter_le ..).trans_eq (List.length_map ..)

/-- The users that are listed depend on the accounts alone. -/
theorem Keyed.selected_congr (h : t.Keyed) (hsame : ∀ id, t'.users.get? id = t.users.get? id)
    (f : UserFilter) : t'.selected f = t.selected f := by
  have h' : t'.Keyed := fun id u hu => h (hsame id ▸ hu)
  refine eq_of_mem_iff_comesBefore (h'.selected_comesBefore f) (h.selected_comesBefore f) fun u => ?_
  rw [h'.mem_selected, h.mem_selected, hsame]

end UserTable

/-! ## What a client gets -/

/-- The query with another page. -/
def Http.UserListQuery.atPage (q : Http.UserListQuery) (number : Nat) : Http.UserListQuery :=
  { q with page := some (UInt64.ofNat number) }

namespace UserTable

variable {t : UserTable} {f : UserFilter}

/-- The page of the selected users that a query asks for. -/
def page (t : UserTable) (now : Timestamp) (f : UserFilter) (q : Http.UserListQuery) :
    Except Error (Page User) :=
  (answer now (.list f q.pageRequest) t).1

/-- What a client is to get for a query, if the selected users are listed as `us`. -/
structure IsPaged (t : UserTable) (f : UserFilter) (us : List User) (q : Http.UserListQuery)
    (page : Page User) : Prop where
  /-- Every repository with these accounts answers with this page, at any time. -/
  answers : ∀ now (t' : UserTable), (∀ id, t'.users.get? id = t.users.get? id) →
    t'.page now f q = .ok page
  /-- The numbers of the query are brought into range, and the page is the slice that they give. -/
  exact : page.IsPageOf us (max (q.page.getD 1).toNat 1)
    (min (max (q.pageSize.getD 25).toNat 1) 100)
  /-- The pages of this size, asked for one after the other, make up the list. -/
  complete : ∀ now, ∃ pages : List (Page User),
    (List.range' 1 page.totalPages).map (fun number => t.page now f (q.atPage number)) =
        pages.map Except.ok ∧
      pages.flatMap (·.items) = us
  beyond : page.totalPages < page.number.toNat → page.items = []
  /-- The size is not zero, and no number is too large for sixty-four bits. -/
  inRange : 0 < page.size.toNat ∧ q.pageRequest.offset < UInt64.size ∧
    page.totalItems < UInt64.size ∧ page.totalPages < UInt64.size

theorem page_eq (t : UserTable) (now : Timestamp) (f : UserFilter) (q : Http.UserListQuery) :
    t.page now f q = .ok (.ofList (t.selected f) q.pageRequest) := rfl

theorem size_pageRequest (q : Http.UserListQuery) :
    q.pageRequest.size.toNat = min (max (q.pageSize.getD 25).toNat 1) 100 :=
  PageRequest.toNat_size_clamped ..

theorem number_atPage (q : Http.UserListQuery) {number : Nat} (hpos : 0 < number)
    (hlt : number < UInt64.size) : (q.atPage number).pageRequest.number.toNat = number := by
  refine (PageRequest.toNat_number_clamped ..).trans ?_
  show max (UInt64.ofNat number).toNat 1 = number
  rw [UInt64.toNat_ofNat_of_lt' hlt]
  omega

/-- The pages of one size, asked for one after the other, make up the list of the users. -/
theorem pages_complete (now : Timestamp) (hlength : (t.selected f).length < UInt64.size)
    (q : Http.UserListQuery) :
    ∃ pages : List (Page User),
      (List.range' 1 (Page.ofList (t.selected f) q.pageRequest).totalPages).map
          (fun number => t.page now f (q.atPage number)) = pages.map Except.ok ∧
        pages.flatMap (·.items) = t.selected f := by
  have hsize : 0 < q.pageRequest.size.toNat := by rw [size_pageRequest]; omega
  have htotal := Page.totalPages_lt q.pageRequest hlength hsize
  refine ⟨(List.range' 1 (Page.ofList (t.selected f) q.pageRequest).totalPages).map
    fun number => .ofList (t.selected f) (q.atPage number).pageRequest, ?_, ?_⟩
  · rw [List.map_map]
    rfl
  · rw [List.flatMap_map]
    have hitems : ∀ number ∈ List.range' 1 (Page.ofList (t.selected f) q.pageRequest).totalPages,
        (Page.ofList (t.selected f) (q.atPage number).pageRequest).items =
          ((t.selected f).drop ((number - 1) * q.pageRequest.size.toNat)).take
            q.pageRequest.size.toNat := by
      intro number hnumber
      obtain ⟨hpos, hle⟩ := List.mem_range'_1.1 hnumber
      have hpage := Page.isPageOf_ofList (q.atPage number).pageRequest hlength hsize
      rw [hpage.items_eq, number_atPage q hpos (by omega)]
      rfl
    rw [List.flatMap_congr hitems, flatMap_pages]
    exact List.take_of_length_le (Page.length_le_totalPages_mul _ _ hsize)

/-- **Pages partition the list.**  The selected users are put in an order in which each comes
strictly before the next, the latest first.  Whatever page a client asks for is a slice of that list
in exact numbers, and the pages of one size make up the list; where the table keeps an account, or
what else it was asked before, has no influence. -/
theorem pages_partition (hkeyed : t.Keyed) (hcount : t.users.keys.length < UInt64.size)
    (f : UserFilter) :
    ∃ us : List User,
      (∀ u, u ∈ us ↔ t.users.get? u.id = some u ∧ f.selects u = true) ∧
      us.Pairwise (ComesBefore User.createdAt User.id) ∧
      ∀ q : Http.UserListQuery, ∃ page, t.IsPaged f us q page := by
  have hlength : (t.selected f).length < UInt64.size :=
    Nat.lt_of_le_of_lt (t.length_selected_le f) hcount
  refine ⟨t.selected f, fun u => hkeyed.mem_selected, hkeyed.selected_comesBefore f, fun q => ?_⟩
  have hsize : 0 < q.pageRequest.size.toNat := by rw [size_pageRequest]; omega
  have hexact := Page.isPageOf_ofList q.pageRequest hlength hsize
  have htotal := Page.totalPages_lt q.pageRequest hlength hsize
  refine ⟨.ofList (t.selected f) q.pageRequest, ?answers, ?exact, ?complete, ?beyond, ?inRange⟩
  case answers =>
    intro now t' hsame
    rw [page_eq, hkeyed.selected_congr hsame]
  case exact =>
    have hnumber : q.pageRequest.number.toNat = max (q.page.getD 1).toNat 1 :=
      PageRequest.toNat_number_clamped ..
    rwa [hnumber, size_pageRequest] at hexact
  case complete => exact fun now => pages_complete now hlength q
  case beyond =>
    intro hbeyond
    have hroom := Page.length_le_totalPages_mul q.pageRequest (t.selected f) hsize
    have hbefore : (Page.ofList (t.selected f) q.pageRequest).totalPages ≤
        q.pageRequest.number.toNat - 1 := Nat.le_sub_one_of_lt hbeyond
    have hdrop := hroom.trans (Nat.mul_le_mul_right _ hbefore)
    rw [hexact.items_eq, List.drop_of_length_le hdrop, List.take_nil]
  case inRange => exact ⟨hsize, q.pageRequest.offset_lt, hlength, htotal⟩

/-! ### A page far beyond the end -/

namespace FarBeyond

/-- A user with a given id; all of them are created at once. -/
def user (id : UserId) : User :=
  ⟨id, "someone@example.org", "", .client, .active, .ofSeconds 0, .ofSeconds 0⟩

/-- A repository of two users. -/
def table : UserTable := ((empty ⟨9⟩).insert (user ⟨1⟩)).insert (user ⟨2⟩)

/-- All users. -/
def everyone : UserFilter := ⟨none, [], []⟩

/-- The greatest numbers that can be asked for. -/
def query : Http.UserListQuery :=
  ⟨some 18446744073709551615, some 18446744073709551615, none, none, none⟩

theorem keyed_table : table.Keyed := ((keyed_empty _).insert _).insert _

end FarBeyond

open FarBeyond in
/-- The number of users before the page does not fit into sixty-four bits, and there is nothing on
the page. -/
theorem pages_partition_farBeyond :
    table.Keyed ∧ table.users.keys.length < UInt64.size ∧
      ∃ page, table.page (.ofSeconds 0) everyone query = .ok page ∧
        page.number.toNat = 18446744073709551615 ∧ page.size.toNat = 100 ∧ page.items = [] := by
  have hcount : table.users.keys.length < UInt64.size := by decide
  obtain ⟨us, -, -, hpaged⟩ := pages_partition keyed_table hcount everyone
  obtain ⟨page, hpage⟩ := hpaged query
  have hanswer := hpage.answers (.ofSeconds 0) table fun _ => rfl
  have hnumber : page.number.toNat = 18446744073709551615 := hpage.exact.number_eq
  have hsize : page.size.toNat = 100 := hpage.exact.size_eq
  have hlength : us.length < UInt64.size := hpage.exact.totalItems_eq ▸ hpage.inRange.2.2.1
  refine ⟨keyed_table, hcount, page, hanswer, hnumber, hsize, ?_⟩
  rw [hpage.exact.items_eq, ← hpage.exact.number_eq, ← hpage.exact.size_eq, hnumber, hsize,
    List.drop_of_length_le (hlength.le.trans (by decide)), List.take_nil]

end UserTable
end SessionAuth
