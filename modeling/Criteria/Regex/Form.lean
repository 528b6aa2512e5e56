import Criteria.Unicode.CodeSet
import Criteria.Unicode.Utf8

/-!
# Forms of regular expressions

What an expression means apart from how it is written.  The functions that build forms keep them simple: adjacent
literals are one, sequences and choices do not nest directly, a choice between characters is a set, and what a
choice has in common at the front stands before it.
-/

namespace Criteria.Regex

open Unicode (CodeSet utf8Length)

/-- The places of a word's edge. -/
inductive WordEdge where
  | boundary | inside | start | stop | startHalf | stopHalf
  deriving DecidableEq

/-- A position that an expression asserts. -/
inductive Look where
  | textStart
  | textEnd
  | lineStart (crlf : Bool)
  | lineEnd (crlf : Bool)
  | word (edge : WordEdge) (unicode : Bool)
  deriving DecidableEq

/-- The form of an expression.  A set of bytes is told from a set of characters; both have ASCII members only
where bytes are read. -/
inductive Form where
  | empty
  | literal (text : List Nat)
  | chars (members : CodeSet) (bytes : Bool)
  | look (look : Look)
  | repeated (least : Nat) (most : Option Nat) (greedy : Bool) (body : Form)
  | capture (index : Nat) (body : Form)
  | sequence (parts : List Form)
  | choice (parts : List Form)

mutual

/-- Decides whether two forms are the same. -/
def Form.same : Form → Form → Bool
  | .empty, .empty => true
  | .literal s, .literal t => s == t
  | .chars s b, .chars t c => decide (s = t) && b == c
  | .look l, .look m => decide (l = m)
  | .repeated l m g f, .repeated l' m' g' f' => l == l' && m == m' && g == g' && f.same f'
  | .capture i f, .capture j f' => i == j && f.same f'
  | .sequence fs, .sequence gs => sameForms fs gs
  | .choice fs, .choice gs => sameForms fs gs
  | _, _ => false

/-- Decides whether two lists hold the same forms in the same order. -/
def sameForms : List Form → List Form → Bool
  | [], [] => true
  | f :: fs, g :: gs => f.same g && sameForms fs gs
  | _, _ => false

end

/-! ## Lengths of the matched texts -/

/-- The sum of numbers that are all known. -/
def sumKnown (lengths : List (Option Nat)) : Option Nat :=
  lengths.foldr (fun length sum => do return (← length) + (← sum)) (some 0)

/-- The least or greatest of numbers that are all known. -/
def pickKnown (pick : Nat → Nat → Nat) (lengths : List (Option Nat)) : Option Nat :=
  match lengths with
  | [] => none
  | first :: rest => rest.foldl (fun best length => do return pick (← best) (← length)) first

mutual

/-- The number of bytes in the shortest text that a form matches. -/
def Form.minLength? : Form → Option Nat
  | .empty => some 0
  | .literal text => some ((text.map utf8Length).foldr (· + ·) 0)
  | .chars members _ => members.ranges.head?.map fun range => utf8Length range.1
  | .look _ => some 0
  | .repeated least _ _ body => body.minLength?.map (least * ·)
  | .capture _ body => body.minLength?
  | .sequence parts => sumKnown (minLengths parts)
  | .choice parts => pickKnown min (minLengths parts)

/-- The lengths of the shortest texts that several forms match. -/
def minLengths : List Form → List (Option Nat)
  | [] => []
  | part :: parts => part.minLength? :: minLengths parts

end

mutual

/-- The number of bytes in the longest text that a form matches, if there is one. -/
def Form.maxLength? : Form → Option Nat
  | .empty => some 0
  | .literal text => some ((text.map utf8Length).foldr (· + ·) 0)
  | .chars members _ => members.ranges.getLast?.map fun range => utf8Length range.2
  | .look _ => some 0
  | .repeated _ most _ body => do return (← most) * (← body.maxLength?)
  | .capture _ body => body.maxLength?
  | .sequence parts => sumKnown (maxLengths parts)
  | .choice parts => pickKnown max (maxLengths parts)

/-- The lengths of the longest texts that several forms match. -/
def maxLengths : List Form → List (Option Nat)
  | [] => []
  | part :: parts => part.maxLength? :: maxLengths parts

end

/-- Decides whether a form matches nothing but the empty text. -/
def Form.isVoid (f : Form) : Bool :=
  f.maxLength? == some 0

/-- Decides whether every text that a form matches has characters. -/
def Form.consumes (f : Form) : Bool :=
  f.minLength?.any (0 < ·)

mutual

/-- Decides whether every match of a form asserts the given position at its beginning; parts of a sequence count
as long as the ones before them are void. -/
def Form.asserts (look : Look) : Form → Bool
  | .look l => decide (l = look)
  | .repeated least _ _ body => decide (0 < least) && body.asserts look
  | .capture _ body => body.asserts look
  | .sequence parts => anyLeading (assertions look parts)
  | .choice parts => (assertions look parts).all Prod.fst
  | _ => false

/-- For each of several forms, whether it asserts the given position and whether it is void. -/
def assertions (look : Look) : List Form → List (Bool × Bool)
  | [] => []
  | part :: parts => (part.asserts look, part.isVoid) :: assertions look parts

/-- Decides whether the condition holds of a void part in front, or of the first part that is not void. -/
def anyLeading : List (Bool × Bool) → Bool
  | [] => false
  | (holds, void) :: rest => holds || (void && anyLeading rest)

end

mutual

/-- The form with the parts of its sequences in reverse order. -/
def Form.reversed : Form → Form
  | .repeated least most greedy body => .repeated least most greedy body.reversed
  | .capture index body => .capture index body.reversed
  | .sequence parts => .sequence (reversedForms parts).reverse
  | .choice parts => .choice (reversedForms parts)
  | f => f

/-- The reversed forms of a list, in the order of the list. -/
def reversedForms : List Form → List Form
  | [] => []
  | part :: parts => part.reversed :: reversedForms parts

end

/-! ## Building forms -/

/-- The form that matches nothing. -/
def Form.never : Form :=
  .chars .empty true

/-- The form that matches one member of a set. -/
def Form.ofSet (members : CodeSet) (bytes : Bool) : Form :=
  if members.isEmpty then .never
  else
    match members.only? with
    | some code => .literal [code]
    | none => .chars members bytes

/-- The parts that a form contributes to a sequence. -/
def Form.inSequence : Form → List Form
  | .empty => []
  | .sequence parts => parts
  | f => [f]

/-- Puts a part before a sequence; adjacent literals become one. -/
def joinPart (part : Form) (parts : List Form) : List Form :=
  match part, parts with
  | .literal s, .literal t :: rest => .literal (s ++ t) :: rest
  | part, parts => part :: parts

/-- One form after another. -/
def Form.inOrder (parts : List Form) : Form :=
  match (parts.flatMap Form.inSequence).foldr joinPart [] with
  | [] => .empty
  | [part] => part
  | parts => .sequence parts

/-- The parts that a form contributes to a choice. -/
def Form.inChoice : Form → List Form
  | .choice parts => parts
  | f => [f]

/-- The character that a form consists of. -/
def Form.char? : Form → Option Nat
  | .literal [code] => some code
  | _ => none

/-- The set that a form consists of. -/
def Form.set? : Form → Option CodeSet
  | .chars members _ => some members
  | _ => none

/-- The parts of a sequence. -/
def Form.parts? : Form → Option (List Form)
  | .sequence parts => some parts
  | _ => none

/-- The number of parts that two sequences have in common at the front. -/
def commonCount : List Form → List Form → Nat
  | f :: fs, g :: gs => if f.same g then commonCount fs gs + 1 else 0
  | _, _ => 0

/-- The number of parts that several sequences have in common at the front. -/
def commonCountAll (sequences : List (List Form)) : Nat :=
  match sequences with
  | [] => 0
  | first :: rest => rest.foldl (fun count parts => min count (commonCount first parts)) first.length

/-- A choice between at least two forms that are no choices, without regard to what they have in common. -/
def Form.plainChoice (parts : List Form) : Form :=
  match parts.mapM Form.char?, parts.mapM Form.set? with
  | some codes, _ => .ofSet (.ofCodes codes) false
  | none, some sets => .ofSet (.unions sets) false
  | none, none => .choice parts

/-- A choice between forms, of which the first is preferred.  What sequences have in common at the front stands
before the choice between what is left of them; the fuel bounds how often something is taken out. -/
def Form.oneOfFrom : Nat → List Form → Form
  | fuel, parts =>
      match parts.flatMap Form.inChoice with
      | [] => .never
      | [part] => part
      | parts =>
          match fuel, parts.mapM Form.parts? with
          | fuel + 1, some sequences =>
              let count := commonCountAll sequences
              if count = 0 then .choice parts
              else
                let rest := sequences.map fun sequence => Form.inOrder (sequence.drop count)
                .inOrder ((sequences.headD []).take count ++ [Form.oneOfFrom fuel rest])
          | _, _ => .plainChoice parts

/-- The number of parts that a sequence consists of. -/
def Form.partCount (f : Form) : Nat :=
  f.inSequence.length

/-- A choice between forms, of which the first is preferred. -/
def Form.oneOf (parts : List Form) : Form :=
  .oneOfFrom ((parts.map Form.partCount).foldr (· + ·) 0 + 1) parts

/-- The repetition of a form.  Repeating what is void does no more than having it once. -/
def Form.times (least : Nat) (most : Option Nat) (greedy : Bool) (body : Form) : Form :=
  let (least, most) := if body.isVoid then (min least 1, some (min (most.getD 1) 1)) else (least, most)
  match least, most with
  | 0, some 0 => .empty
  | 1, some 1 => body
  | least, most => .repeated least most greedy body

end Criteria.Regex
