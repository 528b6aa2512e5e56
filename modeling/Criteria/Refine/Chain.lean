import Criteria.Refine.Containment
import Criteria.Refine.Distinct
import Criteria.Refine.Folding
import Criteria.Validation

/-!
# Chains of passes

A pass turns a condition into an equivalent, usually smaller one.  Passes are applied one after another; only
the validation can fail, and then nothing further happens.
-/

namespace Criteria

/-- The passes. -/
inductive Pass where
  | validate (limits : Limits)
  | removeDuplicates
  | foldValues
  | tightenRanges
  deriving DecidableEq

/-- A pass that failed, with the problems it found. -/
structure PassFailure where
  pass : Pass
  problems : List Problem
  deriving DecidableEq

namespace Pass

/-- The name of a pass. -/
def name : Pass → String
  | validate _ => "validator"
  | removeDuplicates => "duplicate-remover"
  | foldValues => "values-to-range"
  | tightenRanges => "range-optimizer"

/-- Applies a pass. -/
def run (pass : Pass) (c : Condition) : Except PassFailure Condition :=
  match pass with
  | validate limits =>
      match c.problems limits with
      | [] => .ok c
      | problems => .error ⟨pass, problems⟩
  | removeDuplicates => .ok (Refine.removeDuplicates c)
  | foldValues => .ok (Refine.foldValues c)
  | tightenRanges => .ok (Refine.tightenRanges c)

/-- The usual chain: validation with the standard limits, then all passes. -/
def standard : List Pass :=
  [validate .standard, removeDuplicates, foldValues, tightenRanges]

/-- Applies passes one after another. -/
def runAll (passes : List Pass) (c : Condition) : Except PassFailure Condition :=
  passes.foldlM (fun c pass => pass.run c) c

end Pass

/-- The wording of a failure. -/
def PassFailure.message (e : PassFailure) : String :=
  s!"formatter {e.pass.name} failed: {Problem.validationReport e.problems}"

end Criteria
