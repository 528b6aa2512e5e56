import Criteria.Json.Number
import Criteria.Json.Parser

/-!
# Decoding JSON

Turns JSON values into values of other types.  A decoder goes down a bounded number of levels: each array and
each object it enters takes one.  What it does not ask for it passes over, however deep.
-/

namespace Criteria.Json

/-- The number of levels a decoder may start with; the last one cannot be entered. -/
def startLevel : Nat := 128

/-- Goes down one level. -/
def enter (level : Nat) : Option Nat :=
  if level ≤ 1 then none else some (level - 1)

/-- The text a value is. -/
def toText? : Json → Option String
  | string t => t
  | _ => none

/-- The truth value a value is. -/
def toBool? : Json → Option Bool
  | bool b => some b
  | _ => none

/-- The integer a value is. -/
def toInteger? : Json → Option Int
  | number literal => integer? literal
  | _ => none

/-- The float a value is. -/
def toFloat? : Json → Option Binary64
  | number literal => float? literal
  | _ => none

/-- The elements of an array, each decoded. -/
def toList? {α : Type} (decode : Nat → Json → Option α) (level : Nat) : Json → Option (List α)
  | array elements => do
      let level ← enter level
      elements.mapM (decode level)
  | _ => none

/-- The members of an object, each decoded. -/
def toEntries? {α : Type} (decode : Nat → Json → Option α) (level : Nat) :
    Json → Option (List (String × α))
  | object members => do
      let level ← enter level
      members.mapM fun member => do
        let key ← member.1
        let value ← decode level member.2
        return (key, value)
  | _ => none

/-- The only value under a key; a key that occurs twice is refused. -/
def single? (key : String) (members : List (String × Json)) : Option (Option Json) :=
  match members.filter fun member => member.1 == key with
  | [] => some none
  | [member] => some (some member.2)
  | _ => none

/-- The values under given keys, which may be absent.  An array stands for the values in the order of the
keys, of which the last ones may be absent. -/
def toRecord? (keys : List String) (level : Nat) : Json → Option (Nat × List (Option Json))
  | object members => do
      let level ← enter level
      let members ← members.mapM fun member => member.1.map fun key => (key, member.2)
      return (level, ← keys.mapM fun key => single? key members)
  | array elements => do
      let level ← enter level
      if keys.length < elements.length then none
      else return (level, keys.zipIdx.map fun key => elements[key.2]?)
  | _ => none

/-- The value under a key that must be there, decoded. -/
def required {α : Type} (decode : Json → Option α) (member : Option Json) : Option α :=
  member.bind decode

/-- The value under a key, decoded, or a default if it is absent. -/
def withDefault {α : Type} (default : α) (decode : Json → Option α) (member : Option Json) : Option α :=
  match member with
  | none => some default
  | some j => decode j

/-- The word that stands for a choice: a text, or an object with nothing but the word and a null. -/
def toWord? (level : Nat) : Json → Option String
  | string t => t
  | object [(key, null)] => do
      let _ ← enter level
      key
  | _ => none

/-- The word that stands for a choice, and the value that comes with it. -/
def toChoice? (level : Nat) : Json → Option (Nat × String × Json)
  | object [(some key, value)] => do
      let level ← enter level
      return (level, key, value)
  | _ => none

end Criteria.Json
