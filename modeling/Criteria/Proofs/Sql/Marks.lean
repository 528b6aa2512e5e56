import Criteria.Sql.Platform
import Mathlib.Data.List.TakeWhile

/-!
# Texts with values in them

A layout is a text in which values stand where placeholders are to be written.  It is filled by writing placeholders
with successive numbers for the values.  If the texts around the values have no placeholders of their own, those of the
filled text are just the written ones, from left to right.
-/

namespace Criteria.Sql

/-! ## Placeholders in a text -/

namespace Platform

/-- The placeholder that begins with a character: a question mark, or a dollar sign and all digits behind it. -/
def markAt (p : Platform) (c : Char) (rest : List Char) : Option (List Char) :=
  match p with
  | postgres =>
      let digits := rest.takeWhile Char.isDigit
      if c = '$' ∧ digits ≠ [] then some (c :: digits) else none
  | _ => if c = '?' then some [c] else none

/-- The placeholders in a text, from left to right. -/
def marks (p : Platform) : List Char → List (List Char)
  | [] => []
  | c :: rest => (p.markAt c rest).toList ++ p.marks rest

variable {p : Platform}

/-- A text that does not begin with a digit, so that it cannot go on with the placeholder at the end of another one. -/
def IsApart (text : List Char) : Prop :=
  ∀ c ∈ text.head?, c.isDigit = false

instance (text : List Char) : Decidable (IsApart text) :=
  Option.decidableForallMem text.head?

theorem takeWhile_isDigit_append {a b : List Char} (apart : IsApart b) :
    (a ++ b).takeWhile Char.isDigit = a.takeWhile Char.isDigit := by
  induction a with
  | nil =>
      cases b with
      | nil => rfl
      | cons c b =>
          rw [List.nil_append, List.takeWhile_cons, apart c rfl, if_neg Bool.false_ne_true, List.takeWhile_nil]
  | cons c a ih => rw [List.cons_append, List.takeWhile_cons, List.takeWhile_cons, ih]

theorem marks_append {a b : List Char} (apart : IsApart b) : p.marks (a ++ b) = p.marks a ++ p.marks b := by
  induction a with
  | nil => rfl
  | cons c a ih =>
      -- The digits of a placeholder end where the second text begins, if not before.
      have same : p.markAt c (a ++ b) = p.markAt c a := by
        simp only [markAt, takeWhile_isDigit_append apart]
      rw [List.cons_append, marks, marks, same, ih, List.append_assoc]

/-- A character with which no placeholder begins. -/
def IsUnmarked (c : Char) : Prop :=
  c ≠ '$' ∧ c ≠ '?'

instance (c : Char) : Decidable (IsUnmarked c) :=
  inferInstanceAs (Decidable (_ ∧ _))

theorem marks_cons {c : Char} (unmarked : IsUnmarked c) (text : List Char) : p.marks (c :: text) = p.marks text := by
  cases p <;> simp [marks, markAt, unmarked.1, unmarked.2]

/-- A text in which no placeholder begins. -/
def IsMarkFree (text : List Char) : Prop :=
  ∀ c ∈ text, IsUnmarked c

instance (text : List Char) : Decidable (IsMarkFree text) :=
  List.decidableBAll IsUnmarked text

theorem marks_of_isMarkFree {text : List Char} (free : IsMarkFree text) : p.marks text = [] := by
  induction text with
  | nil => rfl
  | cons c text ih =>
      obtain ⟨first, others⟩ := List.forall_mem_cons.mp free
      rw [marks_cons first, ih others]

/-- A character that belongs to no placeholder. -/
structure IsDivider (c : Char) : Prop where
  unmarked : IsUnmarked c
  noDigit : c.isDigit = false

theorem isDivider_blank : IsDivider ' ' :=
  ⟨by decide, rfl⟩

theorem isDivider_opening : IsDivider '(' :=
  ⟨by decide, rfl⟩

theorem isDivider_closing : IsDivider ')' :=
  ⟨by decide, rfl⟩

theorem isDivider_comma : IsDivider ',' :=
  ⟨by decide, rfl⟩

theorem IsDivider.isApart {c : Char} (divider : IsDivider c) (text : List Char) : IsApart (c :: text) := by
  rintro _ ⟨⟩
  exact divider.noDigit

theorem marks_append_cons {a b : List Char} {c : Char} (divider : IsDivider c) :
    p.marks (a ++ c :: b) = p.marks a ++ p.marks b := by
  rw [marks_append (divider.isApart b), marks_cons divider.unmarked]

theorem toList_placeholder_postgres (n : Nat) : (postgres.placeholder n).toList = '$' :: Nat.toDigits 10 n := by
  have dollar : (toString "$").toList = ['$'] := by decide
  rw [placeholder, String.toList_append, dollar, List.singleton_append]
  simp

theorem toList_placeholder (n : Nat) (other : p ≠ postgres) : (p.placeholder n).toList = ['?'] := by
  have text : "?".toList = ['?'] := by decide
  cases p with
  | postgres => exact absurd rfl other
  | _ => exact text

theorem isApart_placeholder (p : Platform) (n : Nat) : IsApart (p.placeholder n).toList := by
  by_cases numbered : p = postgres
  · rw [numbered, toList_placeholder_postgres]
    rintro _ ⟨⟩
    decide
  · rw [toList_placeholder n numbered]
    rintro _ ⟨⟩
    decide

theorem marks_placeholder (p : Platform) (n : Nat) : p.marks (p.placeholder n).toList = [(p.placeholder n).toList] := by
  by_cases numbered : p = postgres
  · have digits (c : Char) (mem : c ∈ Nat.toDigits 10 n) : c.isDigit = true :=
      Nat.isDigit_of_mem_toDigits (by decide) (by decide) mem
    have noMark : postgres.marks (Nat.toDigits 10 n) = [] := by
      refine marks_of_isMarkFree fun c mem => ⟨?_, ?_⟩ <;>
        · rintro rfl
          exact absurd (digits _ mem) (by decide)
    have some : Nat.toDigits 10 n ≠ [] := Nat.toDigits_ne_nil
    rw [numbered, toList_placeholder_postgres, marks, noMark, markAt, List.takeWhile_eq_self_iff.mpr digits,
      if_pos ⟨rfl, some⟩]
    rfl
  · rw [toList_placeholder n numbered]
    cases p with
    | postgres => exact absurd rfl numbered
    | _ => rfl

end Platform

/-! ## Layouts -/

/-- A piece of a layout. -/
inductive Piece where
  | text (sql : String)
  | value (v : Value)

/-- A text in which values stand for placeholders. -/
abbrev Layout : Type :=
  List Piece

namespace Layout

/-- The values, from left to right. -/
def values : Layout → List Value
  | [] => []
  | .text _ :: rest => values rest
  | .value v :: rest => v :: values rest

/-- The text with placeholders, the first of which has a given number. -/
def fill (p : Platform) : Nat → Layout → String
  | _, [] => ""
  | n, .text sql :: rest => sql ++ fill p n rest
  | n, .value _ :: rest => p.placeholder n ++ fill p (n + 1) rest

variable {p : Platform}

@[simp] theorem values_append (a b : Layout) : values (a ++ b) = values a ++ values b := by
  induction a with
  | nil => rfl
  | cons piece a ih =>
      cases piece with
      | text sql => exact ih
      | value v => exact congrArg (v :: ·) ih

theorem fill_append (n : Nat) (a b : Layout) : fill p n (a ++ b) = fill p n a ++ fill p (n + (values a).length) b := by
  induction a generalizing n with
  | nil => exact String.empty_append.symm
  | cons piece a ih =>
      cases piece with
      | text sql => rw [List.cons_append, fill, fill, values, ih, String.append_assoc]
      | value v =>
          rw [List.cons_append, fill, fill, values, List.length_cons, ih, String.append_assoc, Nat.add_assoc,
            Nat.add_comm 1]

/-- A layout in parentheses. -/
def paren (l : Layout) : Layout :=
  .text "(" :: (l ++ [.text ")"])

/-- Layouts with a keyword between them. -/
def joined (keyword : String) (parts : List Layout) : Layout :=
  [Piece.text (" " ++ keyword ++ " ")].intercalate parts

/-- The placeholders of a filled layout are those that are written for its values. -/
def IsFramed (p : Platform) (l : Layout) : Prop :=
  ∀ n, p.marks (fill p n l).toList = (List.range' n (values l).length).map fun k => (p.placeholder k).toList

theorem isFramed_nil : IsFramed p [] :=
  fun _ => rfl

theorem IsFramed.paren {l : Layout} (framed : IsFramed p l) : IsFramed p (paren l) := by
  intro n
  have text : (fill p n (Layout.paren l)).toList = '(' :: ((fill p n l).toList ++ ')' :: []) := by
    simp [Layout.paren, fill, fill_append]
  have same : values (Layout.paren l) = values l := by simp [Layout.paren, values]
  rw [text, Platform.marks_cons Platform.isDivider_opening.unmarked,
    Platform.marks_append_cons Platform.isDivider_closing, framed n, same]
  exact List.append_nil _

theorem joined_cons_cons (keyword : String) (first second : Layout) (parts : List Layout) :
    joined keyword (first :: second :: parts) =
      first ++ .text (" " ++ keyword ++ " ") :: joined keyword (second :: parts) := by
  rw [joined, joined, List.intercalate_cons_cons, List.append_assoc, List.singleton_append]

theorem IsFramed.append {a b : Layout} (first : IsFramed p a) (second : IsFramed p b) {keyword : String}
    (free : Platform.IsMarkFree keyword.toList) :
    IsFramed p (a ++ .text (" " ++ keyword ++ " ") :: b) := by
  intro n
  have text : (fill p n (a ++ .text (" " ++ keyword ++ " ") :: b)).toList =
      (fill p n a).toList ++ ' ' :: (keyword.toList ++ ' ' :: (fill p (n + (values a).length) b).toList) := by
    simp [fill_append, fill]
  have all : values (a ++ .text (" " ++ keyword ++ " ") :: b) = values a ++ values b :=
    values_append _ _
  rw [text, Platform.marks_append_cons Platform.isDivider_blank, Platform.marks_append_cons Platform.isDivider_blank,
    Platform.marks_of_isMarkFree free, first n, second, all, List.length_append, ← List.range'_append_1,
    List.map_append, List.nil_append]

theorem IsFramed.joined {keyword : String} (free : Platform.IsMarkFree keyword.toList)
    {parts : List Layout} (framed : ∀ l ∈ parts, IsFramed p l) : IsFramed p (joined keyword parts) := by
  induction parts with
  | nil => exact isFramed_nil
  | cons first parts ih =>
      obtain ⟨here, later⟩ := List.forall_mem_cons.mp framed
      cases parts with
      | nil => rwa [Layout.joined, List.intercalate_singleton]
      | cons second parts =>
          rw [joined_cons_cons]
          exact here.append (ih later) free

end Layout

end Criteria.Sql
