import Criteria.Json.Decode
import Criteria.Json.Printer
import Criteria.Limits

/-!
# Limits as JSON

Limits are an object of three counts; each may be left out and then has its standard value.
-/

namespace Criteria.Limits

open Json

/-- The keys of the counts. -/
def keys : List String :=
  ["max-values", "max-groups", "max-nesting-level"]

/-- Limits as JSON. -/
def toJson (limits : Limits) : Json :=
  .record [("max-values", ofInt limits.maxEntries), ("max-groups", ofInt limits.maxGroups),
    ("max-nesting-level", ofInt limits.maxNesting)]

/-- A count from JSON. -/
def decodeCount (j : Json) : Option Nat := do
  let n ← toInteger? j
  if 0 ≤ n then return n.toNat else none

/-- Limits from JSON. -/
def ofJson? (level : Nat) (j : Json) : Option Limits := do
  match ← toRecord? keys level j with
  | (_, [entries, groups, nesting]) =>
      return {
        maxEntries := ← withDefault standard.maxEntries decodeCount entries
        maxGroups := ← withDefault standard.maxGroups decodeCount groups
        maxNesting := ← withDefault standard.maxNesting decodeCount nesting }
  | _ => none

/-- The JSON text of limits. -/
def jsonText (limits : Limits) : String :=
  String.ofList limits.toJson.compact

/-- The limits that a JSON text holds. -/
def ofJsonText? (text : String) : Option Limits :=
  (Json.parse text.toList).bind (ofJson? startLevel)

end Criteria.Limits
