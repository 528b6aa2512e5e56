import Criteria.Proofs.Refine.Equality
import Criteria.Proofs.Refine.Partition

/-!
# What the usual chain leaves

Each pass of the usual chain puts one thing in order, and the passes behind it leave that in order: of equal entries
there is one, no step leads from a value to another one, no range contains another one and no value lies in a range.  A
range that folding made stands beside the given ones when ranges are dropped, and is held against them like any other.
-/

namespace Criteria

namespace Refine

variable {field : Field}

/-! ## Values and ranges -/

theorem pairwise_distinct_both {α : Type} {same : α → α → Bool} (laws : PartialEquality same) (xs : List α) :
    (distinct same xs).Pairwise fun a b => same a b = false ∧ same b a = false :=
  laws.pairwise_both (pairwise_distinct xs)

end Refine

namespace Pass

/-- Years in any order, one of them twice, beside a range. -/
def givenYears : Condition where
  schema := coveredYear.schema
  root := .mk .all ⟨[("year", .ofList [.single ⟨.integer 2003, "2003"⟩, .single ⟨.integer 2012, "2012"⟩,
    .single ⟨.integer 2001, "2001"⟩, .single ⟨.integer 2005, "2005"⟩, .single ⟨.integer 2003, "2003"⟩,
    .single ⟨.integer 2002, "2002"⟩, .range ⟨.integer 2002, .integer 2009, true, false, "2002", "2009"⟩])],
    List.nodup_singleton _⟩ []

end Pass

end Criteria
