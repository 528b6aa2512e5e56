import Criteria.Proofs.Meaning
import Criteria.Proofs.ValueOrder
import Criteria.Schema

/-!
# Rows

A row gives every field a value.  Entries about a field with an order come out as the order says; without an
order only equality of values is known, and ranges and comparisons come out in some fixed way that does not
tell equal values apart.  How texts fit patterns is open.
-/

namespace Criteria

namespace ValueOrder

/-- Decides by an order whether a value lies in a range. -/
def within (order : ValueOrder) (x : Value) (r : Range) : Bool :=
  let lower := order.compare r.lower x
  let upper := order.compare x r.upper
  (lower == some .lt || r.includesLower && lower == some .eq) &&
    (upper == some .lt || r.includesUpper && upper == some .eq)

/-- Decides by an order whether a value passes a comparison. -/
def passes (order : ValueOrder) (x : Value) (c : Comparison) : Bool :=
  let answer := order.compare x c.value
  match c.operator with
  | .greater => answer == some .gt
  | .lower => answer == some .lt
  | .greaterOrEqual => answer == some .gt || answer == some .eq
  | .lowerOrEqual => answer == some .lt || answer == some .eq
  | .notEqual => answer != some .eq

end ValueOrder

/-- The values of a row, and how those entries come out on it that no order decides. -/
structure Row where
  value : String → Value
  within : String → Range → Bool
  passes : String → Comparison → Bool
  fits : String → TextMatch → Bool
  within_congr : ∀ name (r s : Range), r.same s = true → within name r = within name s
  passes_congr : ∀ name (c d : Comparison), c.same d = true → passes name c = passes name d

/-- How the entries about a field come out on a row. -/
def Row.tests (row : Row) (schema : Schema) (name : String) : Tests :=
  let x := row.value name
  match (schema.field? name).bind Field.order with
  | some order => ⟨fun v => order.isEqual v x, order.within x, order.passes x, row.fits name⟩
  | none => ⟨fun v => v.same x, row.within name, row.passes name, row.fits name⟩

theorem Row.tests_of_order (row : Row) {schema : Schema} {name : String} {field : Field} {order : ValueOrder}
    (found : schema.field? name = some field) (ordered : field.order = some order) :
    row.tests schema name =
      ⟨fun v => order.isEqual v (row.value name), order.within (row.value name),
        order.passes (row.value name), row.fits name⟩ := by
  rw [tests, found, Option.bind_some, ordered]

namespace ValueOrder

variable (order : ValueOrder) (x : Value)

theorem isEqual_iff (a b : Value) : order.isEqual a b = true ↔ order.compare a b = some .eq := by
  rw [isEqual, beq_iff_eq]

theorem within_iff (r : Range) :
    order.within x r = true ↔
      (order.compare r.lower x = some .lt ∨
        r.includesLower = true ∧ order.compare r.lower x = some .eq) ∧
      (order.compare x r.upper = some .lt ∨
        r.includesUpper = true ∧ order.compare x r.upper = some .eq) := by
  simp only [within, Bool.and_eq_true, Bool.or_eq_true, beq_iff_eq]

/-- Values that compare alike with everything are equal to the same values. -/
theorem isEqual_congr {a b : Value} (h : ∀ c, order.compare a c = order.compare b c) :
    order.isEqual a x = order.isEqual b x := by
  rw [isEqual, isEqual, h]

theorem compare_congr_right {a b : Value} (h : ∀ c, order.compare a c = order.compare b c) :
    order.compare x a = order.compare x b := by
  rw [order.partialComparison.swap a x, order.partialComparison.swap b x, h]

theorem within_congr {r s : Range} (lower : ∀ c, order.compare r.lower c = order.compare s.lower c)
    (upper : ∀ c, order.compare r.upper c = order.compare s.upper c)
    (hlower : r.includesLower = s.includesLower) (hupper : r.includesUpper = s.includesUpper) :
    order.within x r = order.within x s := by
  rw [within, within, lower, order.compare_congr_right x upper, hlower, hupper]

theorem passes_congr {c d : Comparison} (value : ∀ v, order.compare c.value v = order.compare d.value v)
    (operator : c.operator = d.operator) : order.passes x c = order.passes x d := by
  rw [passes, passes, order.compare_congr_right x value, operator]

end ValueOrder

/-- Equal entries come out alike on every row. -/
theorem Row.tests_lawful (row : Row) (schema : Schema) (name : String) :
    (row.tests schema name).Lawful := by
  unfold tests
  cases (schema.field? name).bind Field.order with
  | none =>
      exact {
        equals_congr := fun a b h => Value.same_congr_left h _
        within_congr := row.within_congr name
        passes_congr := row.passes_congr name }
  | some order =>
      refine {
        equals_congr := fun a b h => order.isEqual_congr _ (order.compare_congr_of_same h)
        within_congr := fun r s h => ?_
        passes_congr := fun c d h => ?_ }
      · simp only [Range.same, Bool.and_eq_true, beq_iff_eq] at h
        rcases h with ⟨⟨⟨lower, upper⟩, hlower⟩, hupper⟩
        exact order.within_congr _ (order.compare_congr_of_same lower)
          (order.compare_congr_of_same upper) hlower hupper
      · simp only [Comparison.same, Bool.and_eq_true, beq_iff_eq] at h
        exact order.passes_congr _ (order.compare_congr_of_same h.1) h.2

end Criteria
