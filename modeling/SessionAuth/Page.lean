import SessionAuth.Json.Decode

/-!
# Pages of long lists

A request asks for one page of a list that is cut into pages of one size; pages count from one.
Requests of clients go through `PageRequest.clamped`, which brings both numbers into range.
-/

set_option autoImplicit false

namespace SessionAuth

/-- The page that is asked for. -/
structure PageRequest where
  /-- The number of the page, from one. -/
  number : UInt64
  size : UInt64
  deriving DecidableEq, Repr

namespace PageRequest

/-- The size of a page where none is given. -/
def defaultSize : UInt64 := 25

/-- The greatest size of a page. -/
def maxSize : UInt64 := 100

/-- The page that is asked for with nothing given. -/
def default : PageRequest := ⟨1, defaultSize⟩

/-- The request with both numbers brought into range. -/
def clamped (number size : UInt64) : PageRequest :=
  ⟨max number 1, min (max size 1) maxSize⟩

/-- The number of items before the page, at most the greatest number of sixty-four bits. -/
def offset (r : PageRequest) : Nat :=
  min ((r.number.toNat - 1) * r.size.toNat) (UInt64.size - 1)

/-- The number of items on a full page. -/
def limit (r : PageRequest) : Nat := r.size.toNat

end PageRequest

/-- One page of a list, with the totals. -/
structure Page (α : Type) where
  items : List α
  number : UInt64
  size : UInt64
  /-- The number of items on all pages. -/
  totalItems : Nat
  /-- The number of pages, at least one. -/
  totalPages : Nat

namespace Page

variable {α β : Type}

/-- The page with the given items of a list with the given total. -/
def ofItems (items : List α) (r : PageRequest) (total : Nat) : Page α where
  items := items
  number := r.number
  size := r.size
  totalItems := total
  totalPages := max ((total + r.size.toNat - 1) / r.size.toNat) 1

/-- The page that is asked for of a whole list. -/
def ofList (all : List α) (r : PageRequest) : Page α :=
  ofItems ((all.drop r.offset).take r.limit) r all.length

/-- The page with a function applied to its items. -/
def map (f : α → β) (p : Page α) : Page β where
  items := p.items.map f
  number := p.number
  size := p.size
  totalItems := p.totalItems
  totalPages := p.totalPages

end Page

/-! ## JSON -/

def PageRequest.toJson (r : PageRequest) : Json :=
  .obj [("page", .nat r.number.toNat), ("page_size", .nat r.size.toNat)]

instance : Json.Encode PageRequest := ⟨PageRequest.toJson⟩

def Page.toJson {α : Type} [Json.Encode α] (p : Page α) : Json :=
  .obj [("items", Json.encode p.items), ("page", .nat p.number.toNat),
    ("page_size", .nat p.size.toNat), ("total_items", .nat p.totalItems),
    ("total_pages", .nat p.totalPages)]

instance {α : Type} [Json.Encode α] : Json.Encode (Page α) := ⟨Page.toJson⟩

def Json.Decode.pageRequest : Decoder PageRequest :=
  (PageRequest.mk <$> Record.required "page" uint64 <*> Record.required "page_size" uint64).decode

end SessionAuth
