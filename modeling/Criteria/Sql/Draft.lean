import Criteria.Sql.Platform

/-!
# Drafts

SQL in the making: the text so far and the values bound so far.  Placeholders are numbered in the order in
which their values are bound, so they have to be asked for in the order of the text.
-/

namespace Criteria.Sql

/-- A text of SQL and the parameters bound for it. -/
structure Draft where
  platform : Platform
  sql : String
  parameters : List Value

namespace Draft

/-- The empty draft. -/
def start (platform : Platform) : Draft :=
  ⟨platform, "", []⟩

/-- Adds text. -/
def push (d : Draft) (sql : String) : Draft :=
  { d with sql := d.sql ++ sql }

/-- Binds a value and gives its placeholder, without writing it. -/
def bind (d : Draft) (v : Value) : String × Draft :=
  (d.platform.placeholder (d.parameters.length + 1), { d with parameters := d.parameters ++ [v] })

end Draft

end Criteria.Sql
