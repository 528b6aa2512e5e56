import Criteria.Regex.Form
import Criteria.Regex.Memo

/-!
# Machines for expressions

An expression is searched for by two machines, one that reads a text forward and one that reads it backward.  Both
have to stay within the limit of their size.
-/

namespace Criteria.Regex

open Unicode (CodeSet utf8Bytes utf8Length)

/-- The piece of a machine that reads one member of a set. -/
def setPlan (backward : Bool) (members : CodeSet) : Plan :=
  if members.isAscii then .oneByte members.ranges.length
  else if backward then .backwardSet members.byteSequences
  else .forwardSet members.byteSequences

/-- The bytes of a literal, if the form is one. -/
def Form.word? (backward : Bool) : Form → Option (List Nat)
  | .literal text =>
      let bytes := text.flatMap utf8Bytes
      some (if backward then bytes.reverse else bytes)
  | _ => none

mutual

/-- The piece of a machine for a form.  Machines that read backward do not remember where groups begin and end; the
parts of sequences are expected in the order in which they are read. -/
def Form.plan (backward : Bool) : Form → Plan
  | .empty => .single
  | .literal text => .bytes ((text.map utf8Length).foldr (· + ·) 0)
  | .chars members _ => setPlan backward members
  | .look _ => .single
  | .repeated least most _ body =>
      let plan := body.plan backward
      match least, most with
      | 0, some 1 => .optional plan
      | least, none => .atLeast least body.consumes plan
      | least, some most => if least = most then .exactly least plan else .between least most plan
  | .capture _ body => if backward then body.plan backward else .capture (body.plan backward)
  | .sequence parts => .inOrder (plans backward parts)
  | .choice parts =>
      match parts.mapM (Form.word? backward) with
      | some words => .oneWord words
      | none => .oneOf (plans backward parts)

/-- The pieces of a machine for several forms. -/
def plans (backward : Bool) : List Form → List Plan
  | [] => []
  | part :: parts => part.plan backward :: plans backward parts

end

/-- The states that pass over the text before a match, unless matches only are at its end. -/
def passPlan (anchored : Bool) : Plan :=
  if anchored then .single else .star (.oneByte 1)

/-- A machine that reads a text in one direction. -/
def Form.machine (backward : Bool) (f : Form) : Plan := fun t => do
  let (form, edge) := if backward then (f.reversed, Look.textEnd) else (f, Look.textStart)
  let (pass, t) ← passPlan (form.asserts edge) t
  let (part, t) ← (if backward then form.plan true else .capture (form.plan false)) t
  let (accept, t) ← t.add? 0
  let t ← part.link? t
  return (⟨pass.first, accept, false⟩, ← pass.link? t)

/-- Decides whether both machines for a form are within the limit. -/
def Form.fits (f : Form) : Bool :=
  (f.machine false .start).isSome && (f.machine true .start).isSome

end Criteria.Regex
