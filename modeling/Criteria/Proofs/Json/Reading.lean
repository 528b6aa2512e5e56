import Criteria.Json.Parser
import Criteria.Json.Printer
import Mathlib.Data.List.DropRight
import Mathlib.Data.List.Forall2
import Mathlib.Tactic.IntervalCases

/-!
# Reading written JSON

Values of texts, truth values, arrays and records are read back from their compact form and from their pretty form:
every character of a text stands between its quotes so that it is read as itself, and blanks between tokens are passed
over.
-/

namespace Criteria.Json

/-! ## Texts -/

theorem readUnit_padZeros {n : Nat} (control : n < 0x20) (rest : List Char) :
    readUnit (Number.padZeros 4 (Nat.toDigits 16 n) ++ rest) = some (n, rest) := by
  interval_cases n <;> rfl

theorem readUnits_escape {text rest : List Char} {unit : TextUnit} (escape : readEscape text = some (unit, rest))
    (fuel : Nat) :
    readUnits (fuel + 1) ('\\' :: text) = (readUnits fuel rest).map fun (units, rest) => (unit :: units, rest) := by
  rw [readUnits, if_neg (by decide), if_pos rfl, escape, Option.bind_eq_bind, Option.bind_some]
  exact Option.map_eq_bind.symm

theorem readEscape_control {c : Char} (control : c.toNat < 0x20) (rest : List Char) :
    readEscape ('u' :: (Number.padZeros 4 (Nat.toDigits 16 c.toNat) ++ rest)) = some (.char c, rest) := by
  have noHalf : ¬(0xD800 ≤ c.toNat ∧ c.toNat ≤ 0xDFFF) := by omega
  simp only [readEscape, readUnit_padZeros control, Option.bind_eq_bind, Option.bind_some, if_neg noHalf,
    Char.ofNat_toNat]
  rfl

/-- An escaped character is read as itself. -/
theorem readUnits_escapeChar (c : Char) (fuel : Nat) (rest : List Char) :
    readUnits (fuel + 1) (escapeChar c ++ rest) =
      (readUnits fuel rest).map fun (units, rest) => (.char c :: units, rest) := by
  unfold escapeChar
  split
  case h_8 notQuote notBackslash _ _ _ _ _ =>
      split
      · rename_i control
        exact readUnits_escape (readEscape_control control rest) fuel
      · rename_i printable
        rw [List.singleton_append, readUnits, if_neg notQuote, if_neg notBackslash, if_neg printable]
        exact Option.map_eq_bind.symm
  all_goals exact readUnits_escape rfl fuel

theorem one_le_length_escapeChar (c : Char) : 1 ≤ (escapeChar c).length := by
  unfold escapeChar
  split
  all_goals try exact Nat.succ_le_succ (Nat.zero_le _)
  split <;> exact Nat.succ_le_succ (Nat.zero_le _)

theorem readUnits_escaped {text : List Char} {fuel : Nat} (enough : (text.flatMap escapeChar).length < fuel)
    (rest : List Char) :
    readUnits fuel (text.flatMap escapeChar ++ '"' :: rest) = some (text.map .char, rest) := by
  induction text generalizing fuel with
  | nil =>
      cases fuel with
      | zero => cases enough
      | succ fuel => rfl
  | cons c text ih =>
      rw [List.flatMap_cons, List.length_append] at enough
      have short := one_le_length_escapeChar c
      cases fuel with
      | zero => cases enough
      | succ fuel =>
          rw [List.flatMap_cons, List.append_assoc, readUnits_escapeChar, ih (by omega)]
          rfl

theorem joinUnits_map_char (text : List Char) : joinUnits (text.map .char) = some text := by
  induction text with
  | nil => rfl
  | cons c text ih => rw [List.map_cons, joinUnits, ih, Option.map_some]

/-- A quoted text is read as the text. -/
theorem readText_quoteText (t : String) (rest : List Char) :
    readText (t.toList.flatMap escapeChar ++ '"' :: rest) = some (some t, rest) := by
  have enough : (t.toList.flatMap escapeChar).length <
      (t.toList.flatMap escapeChar ++ '"' :: rest).length + 1 := by
    rw [List.length_append]
    omega
  rw [readText, readUnits_escaped enough]
  simp only [Option.bind_eq_bind, Option.bind_some, joinUnits_map_char, Option.map_some, String.ofList_toList]
  rfl

/-! ## Blanks -/

/-- A text of nothing but blanks. -/
def IsBlank (text : List Char) : Prop :=
  ∀ c ∈ text, (c == ' ' || c == '\n' || c == '\t' || c == '\r') = true

theorem isBlank_nil : IsBlank [] :=
  fun _ mem => absurd mem List.not_mem_nil

theorem isBlank_newLine (level : Nat) : IsBlank (newLine level) := by
  intro c mem
  rcases List.mem_cons.mp mem with rfl | mem
  · rfl
  · rw [List.eq_of_mem_replicate mem]
    rfl

theorem skipBlanks_append {blank : List Char} (h : IsBlank blank) (text : List Char) :
    skipBlanks (blank ++ text) = skipBlanks text :=
  List.dropWhile_append_of_pos h

theorem skipBlanks_skipBlanks (text : List Char) : skipBlanks (skipBlanks text) = skipBlanks text :=
  List.dropWhile_idempotent _ _

theorem readValue_skipBlanks (fuel : Nat) (text : List Char) :
    readValue fuel (skipBlanks text) = readValue fuel text := by
  cases fuel with
  | zero => rfl
  | succ fuel => simp only [readValue, skipBlanks_skipBlanks]

theorem readElements_skipBlanks (fuel : Nat) (text : List Char) :
    readElements fuel (skipBlanks text) = readElements fuel text := by
  cases fuel with
  | zero => rfl
  | succ fuel => simp only [readElements, readValue_skipBlanks]

theorem readMembers_skipBlanks (fuel : Nat) (text : List Char) :
    readMembers fuel (skipBlanks text) = readMembers fuel text := by
  cases fuel with
  | zero => rfl
  | succ fuel => simp only [readMembers, skipBlanks_skipBlanks]

/-! ## Values -/

/-- A text is read as a value, whatever follows it.  Two steps for every character are enough. -/
def Reads (text : List Char) (j : Json) : Prop :=
  ∀ fuel rest, 2 * text.length ≤ fuel → readValue fuel (text ++ rest) = some (j, rest)

theorem Reads.blank {blank text : List Char} {j : Json} (isBlank : IsBlank blank) (h : Reads text j) :
    Reads (blank ++ text) j := by
  intro fuel rest enough
  rw [List.length_append] at enough
  rw [List.append_assoc, ← readValue_skipBlanks, skipBlanks_append isBlank, readValue_skipBlanks]
  exact h fuel rest (by omega)

theorem reads_text (t : String) : Reads (quoteText t) (text t) := by
  intro fuel rest enough
  have opened : quoteText t ++ rest = '"' :: (t.toList.flatMap escapeChar ++ '"' :: rest) := by
    rw [quoteText, List.cons_append, List.append_assoc, List.singleton_append]
  cases fuel with
  | zero => cases enough
  | succ fuel =>
      have noBlank (more : List Char) : skipBlanks ('"' :: more) = '"' :: more := rfl
      rw [opened, readValue, noBlank]
      simp only [readText_quoteText]
      rfl

theorem reads_bool (b : Bool) : Reads (compact (bool b)) (bool b) := by
  have word : compact (bool b) = if b then ['t', 'r', 'u', 'e'] else ['f', 'a', 'l', 's', 'e'] := by
    cases b <;> decide
  intro fuel rest enough
  rw [word] at enough ⊢
  cases fuel with
  | zero => cases b <;> cases enough
  | succ fuel => cases b <;> rfl

theorem joinWith_singleton (separator text : List Char) : joinWith separator [text] = text := by
  simp [joinWith]

theorem joinWith_cons_cons (separator text other : List Char) (texts : List (List Char)) :
    joinWith separator (text :: other :: texts) = text ++ (separator ++ joinWith separator (other :: texts)) := by
  simp [joinWith, List.intercalate]

/-! ## Arrays -/

/-- What is read as a value is no closing bracket. -/
theorem Reads.not_closing {text : List Char} {j : Json} (h : Reads text j) (rest more : List Char) :
    skipBlanks (text ++ rest) ≠ ']' :: more := by
  intro closes
  have read := h (2 * text.length + 1) rest (Nat.le_succ _)
  rw [readValue, closes] at read
  cases read

/-- Texts with commas between them are read one by one. -/
theorem readElements_joined {texts : List (List Char)} {elements : List Json} (h : List.Forall₂ Reads texts elements)
    (nonempty : texts ≠ []) {blank : List Char} (isBlank : IsBlank blank) {fuel : Nat} (rest : List Char)
    (enough : 2 * (joinWith [','] texts).length + 2 ≤ fuel) :
    readElements fuel (joinWith [','] texts ++ (blank ++ ']' :: rest)) = some (elements, rest) := by
  induction h generalizing fuel with
  | nil => exact absurd rfl nonempty
  | @cons text element texts elements first others ih =>
      cases fuel with
      | zero => cases enough
      | succ fuel =>
          cases others with
          | nil =>
              rw [joinWith_singleton] at enough ⊢
              have closes : skipBlanks (blank ++ ']' :: rest) = ']' :: rest := skipBlanks_append isBlank _
              simp only [readElements, first fuel _ (by omega), Option.bind_eq_bind, Option.bind_some, closes]
              rfl
          | @cons other _ texts _ _ _ =>
              rw [joinWith_cons_cons, List.length_append, List.length_append, List.length_singleton] at enough
              have comma (more : List Char) : skipBlanks (',' :: more) = ',' :: more := rfl
              rw [joinWith_cons_cons, List.append_assoc, List.append_assoc, List.singleton_append]
              have later := ih (List.cons_ne_nil _ _) (show _ ≤ fuel by omega)
              simp only [readElements, first fuel _ (by omega), Option.bind_eq_bind, Option.bind_some, comma, later]
              rfl

theorem readValue_opening_array {text : List Char} (some : ∀ more, skipBlanks text ≠ ']' :: more) (fuel : Nat) :
    readValue (fuel + 1) ('[' :: text) =
      (readElements fuel text).map fun (elements, rest) => (array elements, rest) := by
  have noBlank : skipBlanks ('[' :: text) = '[' :: text := rfl
  rw [readValue, noBlank, ← readElements_skipBlanks]
  simp only

theorem reads_array {texts : List (List Char)} {elements : List Json} (h : List.Forall₂ Reads texts elements)
    (nonempty : texts ≠ []) {blank : List Char} (isBlank : IsBlank blank) :
    Reads ('[' :: (joinWith [','] texts ++ (blank ++ [']']))) (array elements) := by
  intro fuel rest enough
  rw [List.length_cons, List.length_append, List.length_append, List.length_singleton] at enough
  have some : ∀ more, skipBlanks (joinWith [','] texts ++ (blank ++ ']' :: rest)) ≠ ']' :: more := by
    cases h with
    | nil => exact absurd rfl nonempty
    | cons first others =>
        cases others with
        | nil =>
            rw [joinWith_singleton]
            exact first.not_closing _
        | cons second others =>
            rw [joinWith_cons_cons, List.append_assoc]
            exact first.not_closing _
  cases fuel with
  | zero => cases enough
  | succ fuel =>
      rw [List.cons_append, List.append_assoc, List.append_assoc, List.singleton_append, readValue_opening_array some,
        readElements_joined h nonempty isBlank rest (by omega)]
      rfl

/-! ## Objects -/

/-- A text is a key and a value that is read behind it, maybe with blanks in front. -/
def ReadsMember (text : List Char) (member : String × Json) : Prop :=
  ∃ blank value, IsBlank blank ∧ text = blank ++ (quoteText member.1 ++ ':' :: value) ∧ Reads value member.2

/-- A text of a member begins, but for blanks, with the quote of its key. -/
theorem ReadsMember.skipBlanks_eq {text : List Char} {member : String × Json} (h : ReadsMember text member) :
    ∃ value, Reads value member.2 ∧ 2 + value.length ≤ text.length ∧ ∀ rest, skipBlanks (text ++ rest) =
      '"' :: (member.1.toList.flatMap escapeChar ++ '"' :: ':' :: (value ++ rest)) := by
  rcases h with ⟨blank, value, isBlank, rfl, reads⟩
  refine ⟨value, reads, ?_, fun rest => ?_⟩
  · simp only [quoteText, List.length_append, List.length_cons]
    omega
  · rw [List.append_assoc, skipBlanks_append isBlank, quoteText]
    simp only [List.cons_append, List.append_assoc, List.nil_append]
    rfl

/-- The members of a record that are written with commas between them are read one by one. -/
theorem readMembers_joined {texts : List (List Char)} {members : List (String × Json)}
    (h : List.Forall₂ ReadsMember texts members) (nonempty : texts ≠ []) {blank : List Char} (isBlank : IsBlank blank)
    {fuel : Nat} (rest : List Char) (enough : 2 * (joinWith [','] texts).length + 2 ≤ fuel) :
    readMembers fuel (joinWith [','] texts ++ (blank ++ '\x7d' :: rest)) =
      some (members.map fun member => (some member.1, member.2), rest) := by
  have colon (more : List Char) : skipBlanks (':' :: more) = ':' :: more := rfl
  induction h generalizing fuel with
  | nil => exact absurd rfl nonempty
  | @cons text member texts members first others ih =>
      obtain ⟨value, reads, short, begins⟩ := first.skipBlanks_eq
      cases fuel with
      | zero => cases enough
      | succ fuel =>
          cases others with
          | nil =>
              rw [joinWith_singleton] at enough ⊢
              have closes : skipBlanks (blank ++ '\x7d' :: rest) = '\x7d' :: rest := skipBlanks_append isBlank _
              simp only [readMembers, begins, readText_quoteText, colon, reads fuel _ (by omega), Option.bind_eq_bind,
                Option.bind_some, closes]
              rfl
          | @cons other _ texts _ _ _ =>
              rw [joinWith_cons_cons, List.length_append, List.length_append, List.length_singleton] at enough
              have comma (more : List Char) : skipBlanks (',' :: more) = ',' :: more := rfl
              have later := ih (List.cons_ne_nil _ _) (show _ ≤ fuel by omega)
              rw [joinWith_cons_cons, List.append_assoc, List.append_assoc, List.singleton_append]
              simp only [readMembers, begins, readText_quoteText, colon, reads fuel _ (by omega), Option.bind_eq_bind,
                Option.bind_some, comma, later]
              rfl

theorem readValue_opening_object {text more : List Char} (some : skipBlanks text = '"' :: more) (fuel : Nat) :
    readValue (fuel + 1) ('\x7b' :: text) =
      (readMembers fuel text).map fun (members, rest) => (object members, rest) := by
  have noBlank : skipBlanks ('\x7b' :: text) = '\x7b' :: text := rfl
  have notClosing (rest : List Char) : skipBlanks text ≠ '\x7d' :: rest := by
    rw [some]
    exact fun same => nomatch same
  rw [readValue, noBlank, ← readMembers_skipBlanks]
  simp only

theorem reads_record {texts : List (List Char)} {members : List (String × Json)}
    (h : List.Forall₂ ReadsMember texts members) (nonempty : texts ≠ []) {blank : List Char} (isBlank : IsBlank blank) :
    Reads ('\x7b' :: (joinWith [','] texts ++ (blank ++ ['\x7d']))) (record members) := by
  intro fuel rest enough
  rw [List.length_cons, List.length_append, List.length_append, List.length_singleton] at enough
  have some : ∃ more, skipBlanks (joinWith [','] texts ++ (blank ++ '\x7d' :: rest)) = '"' :: more := by
    cases h with
    | nil => exact absurd rfl nonempty
    | cons first others =>
        obtain ⟨value, -, -, begins⟩ := first.skipBlanks_eq
        cases others with
        | nil => exact ⟨_, by rw [joinWith_singleton, begins]⟩
        | cons second others => exact ⟨_, by rw [joinWith_cons_cons, List.append_assoc, begins]⟩
  cases fuel with
  | zero => cases enough
  | succ fuel =>
      rcases some with ⟨more, begins⟩
      rw [List.cons_append, List.append_assoc, List.append_assoc, List.singleton_append,
        readValue_opening_object begins, readMembers_joined h nonempty isBlank rest (by omega)]
      rfl

/-! ## Written values -/

/-- A value of texts, truth values, arrays and records. -/
inductive Textual : Json → Prop where
  | text (t : String) : Textual (text t)
  | bool (b : Bool) : Textual (bool b)
  | array {elements : List Json} (each : ∀ j ∈ elements, Textual j) : Textual (array elements)
  | record {members : List (String × Json)} (each : ∀ member ∈ members, Textual member.2) : Textual (record members)

theorem compactAll_eq_map (elements : List Json) : compactAll elements = elements.map compact := by
  induction elements with
  | nil => rfl
  | cons element elements ih => rw [compactAll, ih, List.map_cons]

theorem compactMembers_eq_map (members : List (String × Json)) :
    compactMembers (members.map fun member => (some member.1, member.2)) =
      members.map fun member => quoteText member.1 ++ ':' :: compact member.2 := by
  induction members with
  | nil => rfl
  | cons member members ih =>
      rw [List.map_cons, compactMembers, ih, List.map_cons]
      rfl

theorem prettyAll_eq_map (level : Nat) (elements : List Json) :
    prettyAll level elements = elements.map (prettyAt level) := by
  induction elements with
  | nil => rfl
  | cons element elements ih => rw [prettyAll, ih, List.map_cons]

theorem prettyMembers_eq_map (level : Nat) (members : List (String × Json)) :
    prettyMembers level (members.map fun member => (some member.1, member.2)) =
      members.map fun member => quoteText member.1 ++ ':' :: ' ' :: prettyAt level member.2 := by
  induction members with
  | nil => rfl
  | cons member members ih =>
      rw [List.map_cons, prettyMembers, ih, List.map_cons]
      rfl

theorem reads_emptyArray : Reads ['[', ']'] (array []) := by
  intro fuel rest enough
  cases fuel with
  | zero => cases enough
  | succ fuel => rfl

theorem reads_emptyRecord : Reads ['\x7b', '\x7d'] (record []) := by
  intro fuel rest enough
  cases fuel with
  | zero => cases enough
  | succ fuel => rfl

theorem forall₂_map {α β γ : Type} {R : β → γ → Prop} {f : α → β} {g : α → γ} {xs : List α}
    (h : ∀ x ∈ xs, R (f x) (g x)) : List.Forall₂ R (xs.map f) (xs.map g) := by
  rw [List.forall₂_map_left_iff, List.forall₂_map_right_iff, List.forall₂_same]
  exact h

/-- The compact form of a value is read as the value. -/
theorem reads_compact {j : Json} (textual : Textual j) : Reads (compact j) j := by
  induction textual with
  | text t => exact reads_text t
  | bool b => exact reads_bool b
  | @array elements _ ih =>
      rw [compact, compactAll_eq_map]
      cases elements with
      | nil => exact reads_emptyArray
      | cons element elements =>
          have each := forall₂_map (f := compact) (g := id) ih
          rw [List.map_id] at each
          exact reads_array each (List.cons_ne_nil _ _) isBlank_nil
  | @record members _ ih =>
      rw [record, compact, compactMembers_eq_map]
      cases members with
      | nil => exact reads_emptyRecord
      | cons member members =>
          have each : List.Forall₂ ReadsMember ((member :: members).map fun member =>
              quoteText member.1 ++ ':' :: compact member.2) ((member :: members).map id) :=
            forall₂_map fun member mem => ⟨[], compact member.2, isBlank_nil, rfl, ih member mem⟩
          rw [List.map_id] at each
          exact reads_record each (List.cons_ne_nil _ _) isBlank_nil

/-- Lines with a comma and a new line between them, and a new line in front, are joined by commas alone. -/
theorem newLine_joinWith (level : Nat) {lines : List (List Char)} (nonempty : lines ≠ []) :
    newLine level ++ joinWith (',' :: newLine level) lines = joinWith [','] (lines.map (newLine level ++ ·)) := by
  induction lines with
  | nil => exact absurd rfl nonempty
  | cons line lines ih =>
      cases lines with
      | nil => rw [joinWith_singleton, List.map_singleton, joinWith_singleton]
      | cons other lines =>
          have later := ih (List.cons_ne_nil _ _)
          rw [List.map_cons, List.map_cons, joinWith_cons_cons, joinWith_cons_cons, ← List.map_cons, ← later]
          simp only [List.append_assoc, List.cons_append, List.nil_append]

theorem block_eq (level : Nat) (opening closing : Char) {lines : List (List Char)} (nonempty : lines ≠ []) :
    block level opening closing lines =
      opening :: (joinWith [','] (lines.map (newLine (level + 1) ++ ·)) ++ (newLine level ++ [closing])) := by
  have some : lines.isEmpty = false := List.isEmpty_eq_false_iff.mpr nonempty
  rw [block, some, if_neg Bool.false_ne_true, newLine_joinWith _ nonempty, List.append_assoc]

/-- The pretty form of a value is read as the value. -/
theorem reads_prettyAt {j : Json} (textual : Textual j) (level : Nat) : Reads (prettyAt level j) j := by
  induction textual generalizing level with
  | text t => exact reads_text t
  | bool b => exact reads_bool b
  | @array elements _ ih =>
      rw [prettyAt, prettyAll_eq_map]
      cases elements with
      | nil => exact reads_emptyArray
      | cons element elements =>
          have each := forall₂_map (f := fun j => newLine (level + 1) ++ prettyAt (level + 1) j) (g := id)
            fun j mem => (ih j mem (level + 1)).blank (isBlank_newLine _)
          rw [List.map_id] at each
          rw [block_eq level '[' ']' (by simp), List.map_map]
          exact reads_array each (List.cons_ne_nil _ _) (isBlank_newLine level)
  | @record members _ ih =>
      rw [record, prettyAt, prettyMembers_eq_map]
      cases members with
      | nil => exact reads_emptyRecord
      | cons member members =>
          have blank : IsBlank [' '] := List.forall_mem_singleton.mpr rfl
          have each : List.Forall₂ ReadsMember ((member :: members).map fun member =>
              newLine (level + 1) ++ (quoteText member.1 ++ ':' :: ' ' :: prettyAt (level + 1) member.2))
              ((member :: members).map id) :=
            forall₂_map fun member mem =>
              ⟨_, ' ' :: prettyAt (level + 1) member.2, isBlank_newLine _, rfl, (ih member mem (level + 1)).blank blank⟩
          rw [List.map_id] at each
          rw [block_eq level '\x7b' '\x7d' (by simp), List.map_map]
          exact reads_record each (List.cons_ne_nil _ _) (isBlank_newLine level)

theorem parse_of_reads {text : List Char} {j : Json} (h : Reads text j) : parse text = some j := by
  have read := h (2 * text.length + 2) [] (by omega)
  rw [List.append_nil] at read
  rw [parse, read]
  rfl

/-- The compact text of a value holds this value. -/
theorem parse_compact {j : Json} (textual : Textual j) : parse j.compact = some j :=
  parse_of_reads (reads_compact textual)

/-- The pretty text of a value holds this value. -/
theorem parse_pretty {j : Json} (textual : Textual j) : parse j.pretty = some j :=
  parse_of_reads (reads_prettyAt textual 0)

end Criteria.Json
