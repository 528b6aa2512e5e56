import Criteria.ExportError
import Criteria.Query.Grammar

/-!
# Writing queries

Writes a condition in the query language, its values as views.
-/

namespace Criteria.Query

/-- The view of a value as a scalar of the language. -/
def writeValue (field : Field) (v : Value) : Except ExportError (List Char) := do
  let view ← field.formOf (field.toView v)
  return quote view.toList

/-- A range with its brackets. -/
def writeRange (field : Field) (r : Range) : Except ExportError (List Char) := do
  let lower ← writeValue field r.lower
  let upper ← writeValue field r.upper
  return (if r.includesLower then [] else [']']) ++ lower ++ '-' :: upper ++
    if r.includesUpper then [] else ['[']

/-- A match with its flags. -/
def writeMatch (m : TextMatch) : List Char :=
  '~' :: ((if m.ignoresCase then ['i'] else []) ++ (if m.negated then ['!'] else []) ++
    matchSign m.kind :: quote m.text.toList)

/-- An entry about a field. -/
def writeEntry (field : Field) : Entry → Except ExportError (List Char)
  | .single s => writeValue field s.value
  | .excludedSingle s => do return '!' :: (← writeValue field s.value)
  | .range r => writeRange field r
  | .excludedRange r => do return '!' :: (← writeRange field r)
  | .comparison c => do return c.operator.sign.toList ++ (← writeValue field c.value)
  | .textMatch m => pure (writeMatch m)

/-- Texts one after another with a separator between them. -/
def joinTexts (separator : List Char) (texts : List (List Char)) : List Char :=
  separator.intercalate texts

/-- A statement about a field. -/
def writeStatement (schema : Schema) (name : String) (bag : Bag) : Except ExportError (List Char) := do
  let field ← schema.fieldOf name
  let entries ← bag.toList.mapM (writeEntry field)
  return name.toList ++ [':', ' '] ++ joinTexts [',', ' '] entries ++ [';']

/-- A group in its parentheses, with a star if its parts are joined by OR. -/
def wrapGroup (logical : Logical) (parts : List (List Char)) : List Char :=
  let star := match logical with
    | .all => []
    | .any => ['*']
  star ++ '(' :: joinTexts [' '] parts ++ [')']

/-- The statements and groups of a group, each as a text; empty bags are left out. -/
def writeParts (schema : Schema) : Group → Except ExportError (Logical × List (List Char)) :=
  Group.fold fun logical fields below => do
    let statements ← (fields.entries.filter fun entry => !entry.2.isEmpty).mapM fun entry =>
      writeStatement schema entry.1 entry.2
    let groups ← below.mapM fun group => do
      let (logical, parts) ← group
      return wrapGroup logical parts
    return (logical, statements ++ groups)

/-- A condition in the query language. -/
def write (c : Condition) : Except ExportError String := do
  let (logical, parts) ← writeParts c.schema c.root
  let parts := match logical with
    | .all => parts
    | .any => ['*', ';'] :: parts
  return String.ofList (joinTexts [' '] parts)

end Criteria.Query
