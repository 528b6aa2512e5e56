import Criteria.Schema

/-!
# Refining bag by bag

A pass over a condition changes its bags one by one, by the declaration of their field.  Empty bags, and bags
of fields that the schema does not have, stay as they are.
-/

namespace Criteria

/-- Changes the bags of a condition. -/
def Condition.mapBags (refine : Field → Bag → Bag) (c : Condition) : Condition :=
  let change (name : String) (bag : Bag) : Bag :=
    match c.schema.field? name with
    | some field => if bag.isEmpty then bag else refine field bag
    | none => bag
  { c with root := c.root.mapBags change }

end Criteria
