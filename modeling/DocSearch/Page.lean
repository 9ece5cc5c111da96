import DocSearch.Decoding.Record
import DocSearch.Error

/-!
# Pages

Results come in pages of a fixed size, counted from zero.

## Main definitions

* `Page`, `Page.of?` — a page to ask for; its size is not zero.
* `Page.offset` — the number of results before it.
* `Hits` — what a backend gives for a page: documents, and the number of all matches.
* `ResultPage` — a page of typed results.
* `Hits.normalize` — the typed results of hits.

## References

`PageRequest`, `RawHits`, `PagedResponse` and `normalize`.
-/

namespace DocSearch

/-- A page to ask for. -/
structure Page where
  /-- The number of results on a page. -/
  size : UInt32
  /-- The number of the page, from zero. -/
  number : UInt32
  /-- A page holds results. -/
  positive : 0 < size.toNat
  deriving DecidableEq, Repr

namespace Page

/-- The page of a size and a number. -/
def of (size number : UInt32) : Outcome Page :=
  if h : 0 < size.toNat then .ok ⟨size, number, h⟩ else .error (.invalidQuery .zeroPageSize)

/-- The first page of a size. -/
def first (size : UInt32) : Outcome Page := of size 0

/-- The first page of ten results. -/
def standard : Page := ⟨10, 0, by decide⟩

/-- The page of a single result. -/
def single : Page := ⟨1, 0, by decide⟩

/-- The number of results before the page. -/
def offset (p : Page) : Nat := p.number.toNat * p.size.toNat

/-- The results on the page, of all results in order. -/
def window (p : Page) (results : List α) : List α := (results.drop p.offset).take p.size.toNat

/-- A page as a document. -/
def toJson (p : Page) : Json :=
  .object [("pageNumber", .ofNat p.number.toNat), ("pageSize", .ofNat p.size.toNat)]

end Page

/-- The hits on one page. -/
structure Hits where
  /-- The documents, in order. -/
  documents : List Json
  /-- The number of all matches. -/
  total : Nat

/-- No hits. -/
def Hits.none : Hits := ⟨[], 0⟩

/-- A page of results. -/
structure ResultPage (α : Type) where
  /-- The results. -/
  data : List α
  /-- The number of all matches. -/
  total : Nat
  /-- The number of results on a full page. -/
  size : UInt32
  /-- The number of the page. -/
  number : UInt32

namespace ResultPage

/-- A page without results. -/
def empty (size number : UInt32) : ResultPage α := ⟨[], 0, size, number⟩

/-- Whether there are no results on the page. -/
def isEmpty (r : ResultPage α) : Bool := r.data.isEmpty

/-- The number of pages for all matches; none for pages that hold nothing. -/
def totalPages (r : ResultPage α) : Nat :=
  if r.size.toNat = 0 then 0 else (r.total + (r.size.toNat - 1)) / r.size.toNat

/-- Whether there is a page behind this one. -/
def hasNext (r : ResultPage α) : Bool := r.number.toNat + 1 < r.totalPages

/-- The page with its results changed. -/
def map (f : α → β) (r : ResultPage α) : ResultPage β :=
  ⟨r.data.map f, r.total, r.size, r.number⟩

/-- A page as a document, its members in the order of reading. -/
def toJson (r : ResultPage Json) : Json :=
  .object
    [("data", .array r.data), ("totalCount", .ofNat r.total),
      ("pageSize", .ofNat r.size.toNat), ("pageNumber", .ofNat r.number.toNat)]

/-- The fields of a page of documents. -/
def record : Record (ResultPage Json) :=
  ((Record.field "data" (Decoder.listOf Decoder.document)).both
    ((Record.field "totalCount" Decoder.nat64).both
      ((Record.field "pageSize" Decoder.word).both (Record.field "pageNumber" Decoder.word)))).map
        fun r => ⟨r.1, r.2.1, r.2.2.1, r.2.2.2⟩

/-- A page of documents from a document. -/
def decode : Decoder (ResultPage Json) := record.decode "PagedResponse"

@[simp] theorem length_data_map (f : α → β) (r : ResultPage α) :
    (r.map f).data.length = r.data.length := by simp [map]

@[simp] theorem totalPages_map (f : α → β) (r : ResultPage α) :
    (r.map f).totalPages = r.totalPages := rfl

@[simp] theorem hasNext_map (f : α → β) (r : ResultPage α) :
    (r.map f).hasNext = r.hasNext := rfl

end ResultPage

/-- Decodes the documents of a list, the first of which stands at `position`. -/
def decodeHits (decode : Decoder α) (position : Nat) : List Json → Outcome (List α)
  | [] => .ok []
  | j :: js =>
    match decode j with
    | .error e => .error (.malformedResult position (.undecodable e))
    | .ok a =>
      match decodeHits decode (position + 1) js with
      | .error e => .error e
      | .ok as => .ok (a :: as)

/-- The typed results of the hits on a page. -/
def Hits.normalize (decode : Decoder α) (hits : Hits) (page : Page) : Outcome (ResultPage α) :=
  match decodeHits decode 0 hits.documents with
  | .error e => .error e
  | .ok data => .ok ⟨data, hits.total, page.size, page.number⟩

end DocSearch
