import Criteria.Sql.Clause
import Mathlib.Data.List.Infix

/-!
# Escaped texts in patterns

What a `LIKE` pattern says, read as a database reads it: an escape character, wildcards, and on one platform classes of
characters.  An escaped text is read as its own characters, whatever they are and whatever stands behind it, so that the
wildcards which are put around it are the only ones.
-/

namespace Criteria.Sql

/-! ## Reading patterns -/

/-- A part of a `LIKE` pattern. -/
inductive LikePart where
  | literal (c : Char)
  /-- Any text. -/
  | anyText
  /-- Any one character. -/
  | anyChar
  /-- One character in, or not in, some ranges of characters. -/
  | oneOf (negated : Bool) (ranges : List (Char × Char))

/-- Where the reading of a pattern stands. -/
inductive LikeState where
  | plain
  /-- Behind an escape character. -/
  | escaped
  /-- In a class, whose characters so far are given backwards. -/
  | inClass (text : List Char)

namespace LikePart

/-- The ranges of characters that a class lists. -/
def rangesOf : List Char → List (Char × Char)
  | first :: '-' :: last :: rest => (first, last) :: rangesOf rest
  | c :: rest => (c, c) :: rangesOf rest
  | [] => []

/-- The class with a text between its brackets. -/
def ofClass : List Char → LikePart
  | '^' :: text => .oneOf true (rangesOf text)
  | text => .oneOf false (rangesOf text)

/-- The parts of a pattern, unless it ends behind an escape character or in a class. -/
def read? (escape : Option Char) (classes : Bool) : LikeState → List Char → Option (List LikePart)
  | .plain, [] => some []
  | .plain, c :: rest =>
      if escape = some c then read? escape classes .escaped rest
      else if c = '%' then (read? escape classes .plain rest).map (anyText :: ·)
      else if c = '_' then (read? escape classes .plain rest).map (anyChar :: ·)
      else if classes ∧ c = '[' then read? escape classes (.inClass []) rest
      else (read? escape classes .plain rest).map (literal c :: ·)
  | .escaped, [] => none
  | .escaped, c :: rest => (read? escape classes .plain rest).map (literal c :: ·)
  | .inClass _, [] => none
  | .inClass text, c :: rest =>
      if c = ']' then (read? escape classes .plain rest).map (ofClass text.reverse :: ·)
      else read? escape classes (.inClass (c :: text)) rest

/-- Decides whether a character is what a part for one character asks for. -/
def admits : LikePart → Char → Bool
  | literal d, c => c == d
  | anyChar, _ => true
  | oneOf negated ranges, c => (ranges.any fun r => decide (r.1 ≤ c ∧ c ≤ r.2)) != negated
  | anyText, _ => false

/-- Decides whether a text is made as the parts of a pattern say. -/
def fit : List LikePart → List Char → Bool
  | [], text => text.isEmpty
  | anyText :: parts, text => text.tails.any (fit parts)
  | _ :: _, [] => false
  | part :: parts, c :: text => part.admits c && fit parts text

end LikePart

namespace Platform

/-- The escape character in patterns without a clause that names one. -/
def usualEscape? : Platform → Option Char
  | postgres | mysql => some '\\'
  | sqlite | mssql => none

/-- The escape character in the patterns of a platform: the one between the quotation marks of its clause, if it has
one. -/
def escape? (p : Platform) : Option Char :=
  match p.escapeClause with
  | none => p.usualEscape?
  | some clause =>
      match clause.toList.dropWhile fun c => c != '\'' with
      | ['\'', c, '\''] => some c
      | _ => none

/-- Decides whether brackets stand for classes of characters in the patterns of a platform. -/
def hasClasses : Platform → Bool
  | mssql => true
  | _ => false

/-- Decides whether a text matches a `LIKE` pattern. -/
def like (p : Platform) (pattern text : String) : Bool :=
  match LikePart.read? p.escape? p.hasClasses .plain pattern.toList with
  | some parts => LikePart.fit parts text.toList
  | none => false

theorem escape?_eq (p : Platform) : p.escape? = some '\\' := by
  cases p <;> decide

end Platform

/-! ## Matching -/

namespace LikePart

theorem fit_literal_cons (d : Char) (parts : List LikePart) (c : Char) (text : List Char) :
    fit (literal d :: parts) (c :: text) = (c == d && fit parts text) :=
  rfl

theorem fit_literals_append_iff (letters : List Char) (parts : List LikePart) (text : List Char) :
    fit (letters.map literal ++ parts) text = true ↔ ∃ rest, text = letters ++ rest ∧ fit parts rest = true := by
  induction letters generalizing text with
  | nil => simp
  | cons d letters ih =>
      cases text with
      | nil => simp [fit]
      | cons c text =>
          rw [List.map_cons, List.cons_append, fit_literal_cons, Bool.and_eq_true, ih, beq_iff_eq]
          simp only [List.cons_append, List.cons.injEq]
          constructor
          · rintro ⟨rfl, rest, rfl, fits⟩
            exact ⟨rest, ⟨rfl, rfl⟩, fits⟩
          · rintro ⟨rest, ⟨rfl, rfl⟩, fits⟩
            exact ⟨rfl, rest, rfl, fits⟩

theorem fit_anyText_iff (parts : List LikePart) (text : List Char) :
    fit (anyText :: parts) text = true ↔ ∃ front rest, text = front ++ rest ∧ fit parts rest = true := by
  rw [fit, List.any_eq_true]
  simp only [List.mem_tails]
  constructor
  · rintro ⟨rest, ⟨front, rfl⟩, fits⟩
    exact ⟨front, rest, rfl, fits⟩
  · rintro ⟨front, rest, rfl, fits⟩
    exact ⟨rest, ⟨front, rfl⟩, fits⟩

theorem fit_nil_iff (text : List Char) : fit [] text = true ↔ text = [] :=
  List.isEmpty_iff

theorem fit_anyText (text : List Char) : fit [anyText] text = true :=
  (fit_anyText_iff [] text).mpr ⟨text, [], (List.append_nil text).symm, rfl⟩

end LikePart

namespace Platform

variable (p : Platform)

/-- The parts of a pattern as a platform reads them. -/
def parts? (pattern : List Char) : Option (List LikePart) :=
  LikePart.read? p.escape? p.hasClasses .plain pattern

theorem like_eq_true_iff {pattern : List Char} {parts : List LikePart} (read : p.parts? pattern = some parts)
    (text : String) : p.like (String.ofList pattern) text = true ↔ LikePart.fit parts text.toList = true := by
  rw [parts?] at read
  rw [like, String.toList_ofList, read]

theorem parts?_nil : p.parts? [] = some [] :=
  rfl

theorem parts?_percent (rest : List Char) : p.parts? ('%' :: rest) = (p.parts? rest).map (.anyText :: ·) := by
  rw [parts?, escape?_eq, LikePart.read?, if_neg (by decide), if_pos rfl, ← escape?_eq p, ← parts?]

/-- Characters that have no meaning in a pattern stand for themselves. -/
theorem ordinary_of_not_mem {c : Char} (plain : ¬(c = '\\' ∨ c ∈ p.wildcards.toList)) :
    c ≠ '\\' ∧ c ≠ '%' ∧ c ≠ '_' ∧ ¬(p.hasClasses = true ∧ c = '[') := by
  cases p <;> simp [wildcards, hasClasses] at plain ⊢ <;> tauto

/-- An escaped character is read as itself. -/
theorem parts?_escapeLikeChar (c : Char) (rest : List Char) :
    p.parts? (p.escapeLikeChar c ++ rest) = (p.parts? rest).map (.literal c :: ·) := by
  rw [parts?, parts?, escape?_eq, escapeLikeChar]
  split
  · rw [List.cons_append, List.cons_append, List.nil_append, LikePart.read?, if_pos rfl, LikePart.read?]
  · rename_i plain
    obtain ⟨backslash, percent, underscore, bracket⟩ := p.ordinary_of_not_mem plain
    rw [List.cons_append, List.nil_append, LikePart.read?, if_neg (fun same => backslash (Option.some.inj same).symm),
      if_neg percent, if_neg underscore, if_neg bracket]

theorem parts?_escapeLike (text rest : List Char) :
    p.parts? (text.flatMap p.escapeLikeChar ++ rest) = (p.parts? rest).map (text.map .literal ++ ·) := by
  induction text with
  | nil =>
      rw [List.flatMap_nil, List.nil_append]
      cases p.parts? rest <;> rfl
  | cons c text ih =>
      rw [List.flatMap_cons, List.append_assoc, parts?_escapeLikeChar, ih, Option.map_map]
      rfl

theorem like_contains_iff (s t : String) :
    p.like ("%" ++ p.escapeLike s ++ "%") t = true ↔ s.toList <:+: t.toList := by
  have pattern : "%" ++ p.escapeLike s ++ "%" = String.ofList ('%' :: (s.toList.flatMap p.escapeLikeChar ++ ['%'])) := by
    apply String.toList_injective
    simp [escapeLike]
  have read : p.parts? ('%' :: (s.toList.flatMap p.escapeLikeChar ++ ['%'])) =
      some (.anyText :: (s.toList.map .literal ++ [.anyText])) := by
    rw [parts?_percent, parts?_escapeLike, parts?_percent, parts?_nil]
    rfl
  rw [pattern, p.like_eq_true_iff read, LikePart.fit_anyText_iff]
  simp only [LikePart.fit_literals_append_iff, LikePart.fit_anyText, and_true]
  constructor
  · rintro ⟨front, _, whole, rest, rfl⟩
    exact ⟨front, rest, by rw [whole, List.append_assoc]⟩
  · rintro ⟨front, rest, whole⟩
    exact ⟨front, s.toList ++ rest, by rw [← whole, List.append_assoc], rest, rfl⟩

theorem like_startsWith_iff (s t : String) : p.like (p.escapeLike s ++ "%") t = true ↔ s.toList <+: t.toList := by
  have pattern : p.escapeLike s ++ "%" = String.ofList (s.toList.flatMap p.escapeLikeChar ++ ['%']) := by
    apply String.toList_injective
    simp [escapeLike]
  have read : p.parts? (s.toList.flatMap p.escapeLikeChar ++ ['%']) = some (s.toList.map .literal ++ [.anyText]) := by
    rw [parts?_escapeLike, parts?_percent, parts?_nil]
    rfl
  rw [pattern, p.like_eq_true_iff read, LikePart.fit_literals_append_iff]
  simp only [LikePart.fit_anyText, and_true]
  exact exists_congr fun rest => eq_comm

theorem like_endsWith_iff (s t : String) : p.like ("%" ++ p.escapeLike s) t = true ↔ s.toList <:+ t.toList := by
  have pattern : "%" ++ p.escapeLike s = String.ofList ('%' :: (s.toList.flatMap p.escapeLikeChar ++ [])) := by
    apply String.toList_injective
    simp [escapeLike]
  have read : p.parts? ('%' :: (s.toList.flatMap p.escapeLikeChar ++ [])) =
      some (.anyText :: (s.toList.map .literal ++ [])) := by
    rw [parts?_percent, parts?_escapeLike, parts?_nil]
    rfl
  rw [pattern, p.like_eq_true_iff read, LikePart.fit_anyText_iff]
  simp only [LikePart.fit_literals_append_iff, LikePart.fit_nil_iff, exists_eq_right]
  refine exists_congr fun front => ?_
  rw [List.append_nil, eq_comm]

end Platform

/-- A match is a `LIKE` test that binds one pattern. -/
def Target.BindsPattern (t : Target) (m : TextMatch) (pattern : String) : Prop :=
  ∀ draft : Draft, t.textMatch m draft =
    .ok (.test (t.platform.likeSql (t.columnSql (t.hints (.string m.text)))
        (draft.platform.placeholder (draft.parameters.length + 1)) m.negated m.ignoresCase),
      { draft with parameters := draft.parameters ++ [.string pattern] })

/-- An escaped text with a wildcard on both sides, behind it or in front of it matches the texts that contain the text,
begin with it or end with it, and these are the patterns that are bound for the three kinds of matches. -/
theorem like_escapeLike_iff (p : Platform) (s t : String) :
    (p.like ("%" ++ p.escapeLike s ++ "%") t = true ↔ s.toList <:+: t.toList) ∧
      (p.like (p.escapeLike s ++ "%") t = true ↔ s.toList <+: t.toList) ∧
      (p.like ("%" ++ p.escapeLike s) t = true ↔ s.toList <:+ t.toList) ∧
      ∀ (field : Field) (column : String) (converters : Option Converters) (negated ignoresCase : Bool),
        let target : Target := ⟨field, column, converters, p⟩
        target.BindsPattern ⟨s, .contains, negated, ignoresCase⟩ ("%" ++ p.escapeLike s ++ "%") ∧
          target.BindsPattern ⟨s, .startsWith, negated, ignoresCase⟩ (p.escapeLike s ++ "%") ∧
          target.BindsPattern ⟨s, .endsWith, negated, ignoresCase⟩ ("%" ++ p.escapeLike s) :=
  ⟨p.like_contains_iff s t, p.like_startsWith_iff s t, p.like_endsWith_iff s t,
    fun _ _ _ _ _ => ⟨fun _ => rfl, fun _ => rfl, fun _ => rfl⟩⟩

example : Platform.mssql.like "[^a-c]_\\[%" "dx[]" = true ∧ Platform.sqlite.like "[^a-c]_\\[%" "dx[]" = false := by
  decide

end Criteria.Sql
