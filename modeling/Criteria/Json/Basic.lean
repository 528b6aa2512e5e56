/-!
# JSON values

The values of JSON as they are written.  A number stays the literal it was written as.  A text whose escapes
leave half of a surrogate pair alone is no text; it may stand only where it is passed over.
-/

namespace Criteria

/-- A JSON value. -/
inductive Json where
  | null
  | bool (b : Bool)
  | number (literal : List Char)
  | string (text : Option String)
  | array (elements : List Json)
  | object (members : List (Option String × Json))

namespace Json

instance : Inhabited Json := ⟨null⟩

/-- A text as a JSON value. -/
def text (t : String) : Json :=
  string (some t)

/-- An object with the given members. -/
def record (members : List (String × Json)) : Json :=
  object (members.map fun member => (some member.1, member.2))

end Json

end Criteria
