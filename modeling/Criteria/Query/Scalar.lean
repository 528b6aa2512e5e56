/-!
# Scalars of the query language

A value in a query is written bare if it holds no character with a meaning of its own, and between quotes
otherwise; a quote between quotes is written twice.
-/

namespace Criteria.Query

/-- The characters that may stand anywhere between the parts of a query. -/
def isGap (c : Char) : Bool :=
  c == ' ' || c == '\t' || c == '\r' || c == '\n'

/-- The characters that a bare value may not hold. -/
def isSpecial (c : Char) : Bool :=
  isGap c || ['"', ',', ';', '(', ')', '[', ']', '!', '<', '>', '~', '*', '-', ':'].contains c

/-- Writes every quote of a text twice. -/
def doubleQuotes : List Char → List Char
  | [] => []
  | c :: rest => if c = '"' then '"' :: '"' :: doubleQuotes rest else c :: doubleQuotes rest

/-- The characters for which a text is written between quotes. -/
def reserved : List Char :=
  [' ', '\t', '\r', '\n', '"', ',', ';', '(', ')', '[', ']', '!', '<', '>', '~', '*', '-', ':']

/-- A text as a value of a query. -/
def quote (text : List Char) : List Char :=
  if text.isEmpty || text.any reserved.contains then '"' :: (doubleQuotes text ++ ['"']) else text

/-- Reads a quoted text from behind its opening quote; gives the text, the number of characters it took with
the closing quote, and what follows. -/
def readQuoted : List Char → Option (List Char × Nat × List Char)
  | [] => none
  | '"' :: '"' :: rest =>
      (readQuoted rest).map fun (text, taken, rest) => ('"' :: text, taken + 2, rest)
  | '"' :: rest => some ([], 1, rest)
  | c :: rest => (readQuoted rest).map fun (text, taken, rest) => (c :: text, taken + 1, rest)

/-- Reads the longest beginning of a text whose characters all pass a test. -/
def readWhile (test : Char → Bool) : List Char → List Char × List Char
  | [] => ([], [])
  | c :: rest =>
      if test c then
        let (taken, rest) := readWhile test rest
        (c :: taken, rest)
      else ([], c :: rest)

end Criteria.Query
