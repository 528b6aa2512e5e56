import Criteria.Value
import Criteria.Condition.Entry

/-!
# Reading SQL as a boolean expression

The text of a WHERE clause is cut into tokens, every placeholder is replaced by the parameter that is bound to it,
and the tokens are read as tests joined by AND and OR, where AND binds tighter and parentheses count.  Only the
forms of tests that search conditions need are known.
-/

namespace Criteria.Sql

/-! ## Tokens -/

/-- The kinds of runs of characters: words, and signs that are not letters. -/
inductive RunKind where
  | word
  | sign
  deriving DecidableEq

/-- The pieces of a text of SQL. -/
inductive Token where
  | run (kind : RunKind) (text : List Char)
  | literal (text : List Char)
  | placeholder
  | opening
  | closing
  | comma
  | stray (c : Char)
  deriving DecidableEq

/-- The beginning of a piece whose end has not been read yet. -/
inductive Pending where
  | nothing
  | run (kind : RunKind) (text : List Char)
  | literal (text : List Char)
  deriving DecidableEq

/-- What has been read of a text: whole pieces, and the beginning of one. -/
structure Lexer where
  tokens : List Token
  pending : Pending
  deriving DecidableEq

/-- The kind of run a character belongs to, if it belongs to one. -/
def kindOf? (c : Char) : Option RunKind :=
  if c.isAlphanum || c == '_' || c == '$' then some .word
  else if ['=', '<', '>', '!', '~', '*'].contains c then some .sign
  else none

/-- The pieces that a character between runs makes. -/
def separatorTokens (c : Char) : List Token :=
  match c with
  | ' ' => []
  | '(' => [.opening]
  | ')' => [.closing]
  | ',' => [.comma]
  | '?' => [.placeholder]
  | c => [.stray c]

namespace Lexer

/-- Before anything has been read. -/
def start : Lexer :=
  ⟨[], .nothing⟩

/-- The pieces, if the text ends here or another piece begins. -/
def close (l : Lexer) : List Token :=
  match l.pending with
  | .nothing => l.tokens
  | .run kind text => l.tokens ++ [.run kind text]
  | .literal _ => l.tokens ++ [.stray '\'']

/-- Reads a character of a run; one of another kind ends the run there is. -/
def readRun (l : Lexer) (kind : RunKind) (c : Char) : Lexer :=
  match l.pending with
  | .run old text => if old = kind then ⟨l.tokens, .run kind (text ++ [c])⟩ else ⟨l.close, .run kind [c]⟩
  | _ => ⟨l.close, .run kind [c]⟩

/-- Reads a character. -/
def read (l : Lexer) (c : Char) : Lexer :=
  match l.pending with
  | .literal text =>
      if c = '\'' then ⟨l.tokens ++ [.literal text], .nothing⟩ else ⟨l.tokens, .literal (text ++ [c])⟩
  | _ =>
      match kindOf? c with
      | some kind => l.readRun kind c
      | none => if c = '\'' then ⟨l.close, .literal []⟩ else ⟨l.close ++ separatorTokens c, .nothing⟩

end Lexer

/-- The pieces of a text. -/
def lex (text : List Char) : List Token :=
  (text.foldl Lexer.read .start).close

/-! ## Parameters -/

/-- The pieces of a text with the parameters in the places of their placeholders. -/
inductive Symbol where
  | word (text : List Char)
  | sign (text : List Char)
  | literal (text : List Char)
  | parameter (v : Value)
  | opening
  | closing
  | comma
  | stray
  deriving DecidableEq

/-- The number in a numbered placeholder. -/
def placeholderNumber? : List Char → Option Nat
  | '$' :: digits => some (Nat.ofDigitChars 10 digits 0)
  | _ => none

/-- The parameter in a place, if there is one. -/
def parameterAt (parameters : List Value) (place : Nat) : Symbol :=
  match parameters[place]? with
  | some v => .parameter v
  | none => .stray

/-- Puts the parameters in the places of their placeholders; one without a number goes by the number of
placeholders in front of it. -/
def resolve (parameters : List Value) : Nat → List Token → List Symbol
  | _, [] => []
  | seen, .placeholder :: rest => parameterAt parameters seen :: resolve parameters (seen + 1) rest
  | seen, .run .word text :: rest =>
      match placeholderNumber? text with
      | some number => parameterAt parameters (number - 1) :: resolve parameters (seen + 1) rest
      | none => .word text :: resolve parameters seen rest
  | seen, .run .sign text :: rest => .sign text :: resolve parameters seen rest
  | seen, .literal text :: rest => .literal text :: resolve parameters seen rest
  | seen, .opening :: rest => .opening :: resolve parameters seen rest
  | seen, .closing :: rest => .closing :: resolve parameters seen rest
  | seen, .comma :: rest => .comma :: resolve parameters seen rest
  | seen, .stray _ :: rest => .stray :: resolve parameters seen rest

/-! ## Tests -/

/-- What a test compares. -/
inductive Operand where
  | column (name : List Char)
  | parameter (v : Value)
  | lower (inner : Operand)
  deriving DecidableEq

/-- The signs of comparisons. -/
inductive Comparator where
  | equal
  | unequal
  | less
  | lessOrEqual
  | greater
  | greaterOrEqual
  deriving DecidableEq

/-- The ways to compare with a pattern. -/
inductive Matcher where
  | like
  | ilike
  | regexp
  | tilde
  | tildeStar
  | regexpLike
  deriving DecidableEq

/-- A test without AND and OR. -/
inductive Test where
  | compare (sign : Comparator) (left right : Operand)
  | fits (negated : Bool) (matcher : Matcher) (left right : Operand) (option : Option (List Char))
  deriving DecidableEq

/-- The same words, whatever the case of letters. -/
def isKeyword (keyword : String) (text : List Char) : Bool :=
  text.map Char.toUpper == keyword.toList

/-- The words that are no columns. -/
def isReserved (text : List Char) : Bool :=
  ["AND", "OR", "NOT", "LIKE", "ILIKE", "REGEXP", "ESCAPE"].any fun keyword => isKeyword keyword text

/-- Reads a column, a parameter, or either in lower case. -/
def operand? : List Symbol → Option (Operand × List Symbol)
  | .parameter v :: rest => some (.parameter v, rest)
  | .word text :: .opening :: rest =>
      if isKeyword "LOWER" text then
        match operand? rest with
        | some (inner, .closing :: rest) => some (.lower inner, rest)
        | _ => none
      else none
  | .word text :: rest => if isReserved text then none else some (.column text, rest)
  | _ => none

/-- What stands between the operands of a test. -/
inductive Infix where
  | compare (sign : Comparator)
  | fits (negated : Bool) (matcher : Matcher)
  deriving DecidableEq

/-- The operator of a sign. -/
def signInfix? (text : List Char) : Option Infix :=
  match text with
  | ['='] => some (.compare .equal)
  | ['<', '>'] => some (.compare .unequal)
  | ['<'] => some (.compare .less)
  | ['<', '='] => some (.compare .lessOrEqual)
  | ['>'] => some (.compare .greater)
  | ['>', '='] => some (.compare .greaterOrEqual)
  | ['~'] => some (.fits false .tilde)
  | ['~', '*'] => some (.fits false .tildeStar)
  | ['!', '~'] => some (.fits true .tilde)
  | ['!', '~', '*'] => some (.fits true .tildeStar)
  | _ => none

/-- The matcher of a word. -/
def wordMatcher? (text : List Char) : Option Matcher :=
  if isKeyword "LIKE" text then some .like
  else if isKeyword "ILIKE" text then some .ilike
  else if isKeyword "REGEXP" text then some .regexp
  else none

/-- Reads the operator of a test. -/
def infix? : List Symbol → Option (Infix × List Symbol)
  | .sign text :: rest => (signInfix? text).map fun operator => (operator, rest)
  | .word text :: .word other :: rest =>
      if isKeyword "NOT" text then (wordMatcher? other).map fun matcher => (.fits true matcher, rest)
      else (wordMatcher? text).map fun matcher => (.fits false matcher, .word other :: rest)
  | .word text :: rest => (wordMatcher? text).map fun matcher => (.fits false matcher, rest)
  | _ => none

/-- Reads the escape character of a pattern, if one is given. -/
def escape? : List Symbol → Option (List Char) × List Symbol
  | .word text :: .literal escape :: rest =>
      if isKeyword "ESCAPE" text then (some escape, rest) else (none, .word text :: .literal escape :: rest)
  | symbols => (none, symbols)

/-- Reads a test with an operator. -/
def infixTest? (symbols : List Symbol) : Option (Test × List Symbol) := do
  let (left, rest) ← operand? symbols
  let (operator, rest) ← infix? rest
  let (right, rest) ← operand? rest
  match operator with
  | .compare sign => some (.compare sign left right, rest)
  | .fits negated matcher =>
      let (escape, rest) := escape? rest
      some (.fits negated matcher left right escape, rest)

/-- Reads a test that is a call. -/
def callTest? (negated : Bool) : List Symbol → Option (Test × List Symbol)
  | .word text :: .opening :: rest =>
      if isKeyword "REGEXP_LIKE" text then do
        let (left, rest) ← operand? rest
        let .comma :: rest := rest | none
        let (right, rest) ← operand? rest
        let .comma :: .literal mode :: .closing :: rest := rest | none
        some (.fits negated .regexpLike left right (some mode), rest)
      else none
  | _ => none

/-- Reads a test. -/
def test? : List Symbol → Option (Test × List Symbol)
  | .word text :: rest =>
      if isKeyword "NOT" text then callTest? true rest
      else (callTest? false (.word text :: rest)).or (infixTest? (.word text :: rest))
  | symbols => infixTest? symbols

/-! ## Formulas -/

/-- Tests that are joined. -/
inductive Formula where
  | test (test : Test)
  | join (logical : Logical) (first others : Formula)
  deriving DecidableEq

/-- How tight the parts of a formula are joined: as a list of parts, or as one part. -/
inductive Level where
  | joined (logical : Logical)
  | single
  deriving DecidableEq

/-- The level of the parts of a list. -/
def Level.below : Logical → Level
  | .any => .joined .all
  | .all => .single

/-- Reads a formula; the first argument bounds depth and number of parts. -/
def formulaFrom? : Nat → Level → List Symbol → Option (Formula × List Symbol)
  | 0, _, _ => none
  | fuel + 1, .joined logical, symbols => do
      let (first, rest) ← formulaFrom? fuel (.below logical) symbols
      match rest with
      | .word text :: behind =>
          if isKeyword logical.keyword text then do
            let (others, rest) ← formulaFrom? fuel (.joined logical) behind
            some (.join logical first others, rest)
          else some (first, rest)
      | _ => some (first, rest)
  | fuel + 1, .single, .opening :: symbols => do
      let (inner, rest) ← formulaFrom? fuel (.joined .any) symbols
      match rest with
      | .closing :: rest => some (inner, rest)
      | _ => none
  | _ + 1, .single, symbols => (test? symbols).map fun (test, rest) => (.test test, rest)

/-- The formula that a text stands for with its parameters. -/
def formula? (sql : String) (parameters : List Value) : Option Formula :=
  let symbols := resolve parameters 0 (lex sql.toList)
  match formulaFrom? (3 * symbols.length + 2) (.joined .any) symbols with
  | some (formula, []) => some formula
  | _ => none

/-! ## Interpretations -/

/-- How tests come out on a row: an inequality is the opposite of the equality, each strict comparison that of the
other direction, and a negated match that of the match. -/
structure Interpretation where
  holds : Test → Bool
  unequal : ∀ left right, holds (.compare .unequal left right) = !holds (.compare .equal left right)
  less : ∀ left right, holds (.compare .less left right) = !holds (.compare .greaterOrEqual left right)
  greater : ∀ left right, holds (.compare .greater left right) = !holds (.compare .lessOrEqual left right)
  negated : ∀ matcher left right option,
    holds (.fits true matcher left right option) = !holds (.fits false matcher left right option)

/-- Equalities, the comparisons that include their bound, and matches may come out in any way. -/
def Interpretation.ofPositive (equal lessOrEqual greaterOrEqual : Operand → Operand → Bool)
    (fits : Matcher → Operand → Operand → Option (List Char) → Bool) : Interpretation where
  holds
    | .compare .equal left right => equal left right
    | .compare .unequal left right => !equal left right
    | .compare .less left right => !greaterOrEqual left right
    | .compare .lessOrEqual left right => lessOrEqual left right
    | .compare .greater left right => !lessOrEqual left right
    | .compare .greaterOrEqual left right => greaterOrEqual left right
    | .fits negated matcher left right option => negated != fits matcher left right option
  unequal _ _ := rfl
  less _ _ := rfl
  greater _ _ := rfl
  negated _ _ _ _ := by
    simp only [Bool.true_bne, Bool.false_bne]

instance : Inhabited Interpretation :=
  ⟨.ofPositive (fun _ _ => false) (fun _ _ => false) (fun _ _ => false) fun _ _ _ _ => false⟩

/-- How a formula comes out. -/
def Formula.holds (I : Interpretation) : Formula → Bool
  | test t => I.holds t
  | join .all first others => first.holds I && others.holds I
  | join .any first others => first.holds I || others.holds I

end Criteria.Sql
