import Criteria.Condition.Group
import Criteria.Field

/-!
# Schemas and conditions

A schema is a named list of fields with distinct names.  A condition is a tree of groups over the fields of a
schema; nothing but its validation ties it to them.
-/

namespace Criteria

/-- The fields of a search. -/
structure Schema where
  name : String
  fields : List Field
  distinct : (fields.map Field.name).Nodup

/-- Two fields of one name. -/
structure DuplicateField where
  name : String
  deriving DecidableEq

/-- The wording of the error. -/
def DuplicateField.message (e : DuplicateField) : String :=
  s!"field {Text.quoted e.name} is already registered"

namespace Schema

/-- The first name that occurred before. -/
def firstRepeated (seen : List String) : List String → Option String
  | [] => none
  | name :: rest => if name ∈ seen then some name else firstRepeated (name :: seen) rest

/-- The schema of a list of fields, unless two have the same name. -/
def of? (name : String) (fields : List Field) : Except DuplicateField Schema :=
  if h : (fields.map Field.name).Nodup then .ok ⟨name, fields, h⟩
  else .error ⟨(firstRepeated [] (fields.map Field.name)).getD ""⟩

/-- The field with a name. -/
def field? (schema : Schema) (name : String) : Option Field :=
  schema.fields.find? fun field => field.name == name

/-- Decides whether a schema has a field with a name. -/
def has (schema : Schema) (name : String) : Bool :=
  (schema.field? name).isSome

/-- The number of fields. -/
def size (schema : Schema) : Nat :=
  schema.fields.length

end Schema

/-- A tree of groups over the fields of a schema. -/
structure Condition where
  schema : Schema
  root : Group

/-- Equality of conditions: over schemas of one name, with equal trees. -/
def Condition.same (a b : Condition) : Bool :=
  a.schema.name == b.schema.name && a.root.same b.root

end Criteria
