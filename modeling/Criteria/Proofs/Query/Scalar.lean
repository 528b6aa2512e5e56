import Criteria.Proofs.Query.Scan
import Criteria.Query.Rule

/-!
# Scalars are read as they are written

A scalar is a stretch of a text that one of two rules matches: characters between two quotes, where quotes stand in pairs
up to one that nothing doubles, or characters without a meaning of their own up to one that has such a meaning.  What is
written of a text is matched as a whole and no further, whatever closes it, and it stands for the text again.
-/

namespace Criteria.Query

open Scan

/-! ## Texts that call for quotes -/

/-- The characters for which a text is written between quotes are those that a bare value may not hold. -/
theorem mem_reserved_iff {c : Char} : c ∈ reserved ↔ isSpecial c = true := by
  simp [reserved, isSpecial, isGap, or_assoc]

/-- A text is empty or holds a reserved character. -/
def NeedsQuotes (text : List Char) : Prop :=
  text = [] ∨ ∃ c ∈ text, c ∈ reserved

instance (text : List Char) : Decidable (NeedsQuotes text) :=
  inferInstanceAs (Decidable (text = [] ∨ ∃ c ∈ text, c ∈ reserved))

theorem not_needsQuotes_iff {text : List Char} :
    ¬ NeedsQuotes text ↔ text ≠ [] ∧ ∀ c ∈ text, isSpecial c = false := by
  simp only [NeedsQuotes, mem_reserved_iff, not_or, not_exists, not_and, Bool.not_eq_true]

theorem not_needsQuotes_iff_any {text : List Char} :
    ¬ NeedsQuotes text ↔ text ≠ [] ∧ text.any isSpecial = false := by
  simp only [not_needsQuotes_iff, List.any_eq_false, Bool.not_eq_true]

theorem quote_eq (text : List Char) :
    quote text = if NeedsQuotes text then '"' :: (doubleQuotes text ++ ['"']) else text := by
  have same : (text.isEmpty || text.any reserved.contains) = true ↔ NeedsQuotes text := by
    simp only [NeedsQuotes, Bool.or_eq_true, List.isEmpty_iff, List.any_eq_true, List.contains_iff_mem]
  rw [quote, if_congr same rfl rfl]

/-! ## Doubled quotes -/

/-- What may stand between quotes: quotes in pairs, and any other characters. -/
inductive QuotedBody : List Char → Prop where
  | nil : QuotedBody []
  | pair {body : List Char} (others : QuotedBody body) : QuotedBody ('"' :: '"' :: body)
  | other {c : Char} {body : List Char} (noQuote : c ≠ '"') (others : QuotedBody body) : QuotedBody (c :: body)

/-- Writes one quote for two that stand side by side, from the left on. -/
def halveQuotes : List Char → List Char
  | c :: d :: rest => if c = '"' ∧ d = '"' then '"' :: halveQuotes rest else c :: halveQuotes (d :: rest)
  | text => text

theorem halveQuotes_pair (text : List Char) : halveQuotes ('"' :: '"' :: text) = '"' :: halveQuotes text :=
  if_pos ⟨rfl, rfl⟩

theorem halveQuotes_other {c : Char} (noQuote : c ≠ '"') (text : List Char) :
    halveQuotes (c :: text) = c :: halveQuotes text := by
  cases text with
  | nil => rfl
  | cons d text => exact if_neg fun both => noQuote both.1

theorem quotedBody_doubleQuotes (text : List Char) : QuotedBody (doubleQuotes text) := by
  induction text with
  | nil => exact .nil
  | cons c text ih =>
      rw [doubleQuotes]
      split
      · exact .pair ih
      · rename_i noQuote
        exact .other noQuote ih

theorem halveQuotes_doubleQuotes (text : List Char) : halveQuotes (doubleQuotes text) = text := by
  induction text with
  | nil => rfl
  | cons c text ih =>
      rw [doubleQuotes]
      split
      · rename_i same
        rw [halveQuotes_pair, ih, same]
      · rename_i noQuote
        rw [halveQuotes_other noQuote, ih]

theorem readQuoted_closing {text : List Char} (other : text.head? ≠ some '"') :
    readQuoted ('"' :: text) = some ([], 1, text) := by
  cases text with
  | nil => rfl
  | cons c text => rw [readQuoted.eq_3 _ fun rest same => other (by rw [same]; rfl)]

theorem readQuoted_other {c : Char} (other : c ≠ '"') (text : List Char) :
    readQuoted (c :: text) = (readQuoted text).map fun (inner, taken, rest) => (c :: inner, taken + 1, rest) := by
  rw [readQuoted]
  · exact fun _ same => absurd same other
  · exact fun same => absurd same other

theorem head?_ne_of_not_cons {c : Char} {text : List Char} (other : ∀ rest, text = c :: rest → False) :
    text.head? ≠ some c := by
  intro head
  obtain ⟨rest, same⟩ := List.head?_eq_some_iff.mp head
  exact other rest same

/-- Behind an opening quote the text is read up to the first quote that is not one of a pair. -/
theorem readQuoted_eq_some_iff {text inner rest : List Char} {taken : Nat} :
    readQuoted text = some (inner, taken, rest) ↔
      ∃ body, QuotedBody body ∧ rest.head? ≠ some '"' ∧ text = body ++ '"' :: rest ∧ taken = body.length + 1 ∧
        inner = halveQuotes body := by
  constructor
  · intro read
    induction text using readQuoted.induct generalizing inner taken with
    | case1 => cases read
    | case2 text ih =>
        rw [readQuoted] at read
        obtain ⟨⟨more, count, others⟩, found, same⟩ := Option.map_eq_some_iff.mp read
        cases same
        obtain ⟨body, paired, closed, rfl, rfl, rfl⟩ := ih found
        exact ⟨_, .pair paired, closed, rfl, rfl, (halveQuotes_pair body).symm⟩
    | case3 text single =>
        have closed := head?_ne_of_not_cons single
        rw [readQuoted_closing closed] at read
        cases read
        exact ⟨[], .nil, closed, rfl, rfl, rfl⟩
    | case4 c text _ noQuote ih =>
        rw [readQuoted_other noQuote] at read
        obtain ⟨⟨more, count, others⟩, found, same⟩ := Option.map_eq_some_iff.mp read
        cases same
        obtain ⟨body, paired, closed, rfl, rfl, rfl⟩ := ih found
        exact ⟨_, .other noQuote paired, closed, rfl, rfl, (halveQuotes_other noQuote body).symm⟩
  · rintro ⟨body, paired, closed, rfl, rfl, rfl⟩
    -- The reader takes a pair before it takes a closing quote, so it never stops within the body.
    induction paired with
    | nil => exact readQuoted_closing closed
    | pair _ ih =>
        rw [List.cons_append, List.cons_append, readQuoted, ih, halveQuotes_pair]
        rfl
    | other noQuote _ ih =>
        rw [List.cons_append, readQuoted_other noQuote, ih, halveQuotes_other noQuote]
        rfl

/-! ## The two rules of scalars -/

/-- The stretch of a text between two places. -/
def Span.cut (span : Span) (text : List Char) : List Char :=
  (text.drop span.start).take (span.stop - span.start)

theorem Span.cut_eq {text source rest : List Char} {start : Nat} (here : text.drop start = source ++ rest) :
    (⟨start, start + source.length⟩ : Span).cut text = source := by
  rw [Span.cut, here, Nat.add_sub_cancel_left, List.take_left]

/-- A rule matches a stretch of a text in front of what follows. -/
inductive ScalarMatch : Rule → List Char → List Char → Prop where
  | quotedValue {body rest : List Char} (paired : QuotedBody body) (closed : rest.head? ≠ some '"') :
      ScalarMatch .quotedValue ('"' :: (body ++ ['"'])) rest
  | bareValue {source rest : List Char} (filled : source ≠ []) (plain : ∀ c ∈ source, isSpecial c = false)
      (stops : ∀ c, rest.head? = some c → isSpecial c = true) : ScalarMatch .bareValue source rest

/-- What a stretch that a rule matches stands for: a quoted value for what is between its quotes, with one quote for
two, a bare value for itself. -/
def unquote : Rule → List Char → List Char
  | .quotedValue, source => halveQuotes source.tail.dropLast
  | _, source => source

theorem unquote_quotedValue (body : List Char) :
    unquote .quotedValue ('"' :: (body ++ ['"'])) = halveQuotes body := by
  rw [unquote, List.tail_cons, List.dropLast_concat]

theorem misses_quotedText {text : List Char} (other : text.head? ≠ some '"') : Misses quotedText text := by
  intro offset
  rw [quotedText]
  split
  · rename_i rest same
    exact absurd (congrArg List.head? same) other
  · rfl

theorem found_quotedText_iff {c d : Cursor} {text : List Char} :
    (quotedText c).found = some (text, d) ↔
      ∃ body, QuotedBody body ∧ d.rest.head? ≠ some '"' ∧ c.rest = '"' :: (body ++ '"' :: d.rest) ∧
        d.offset = c.offset + (body.length + 2) ∧ text = halveQuotes body := by
  constructor
  · intro found
    rw [quotedText] at found
    split at found
    · rename_i rest here
      cases read : readQuoted rest with
      | none => simp [read] at found
      | some result =>
          obtain ⟨inner, taken, left⟩ := result
          obtain ⟨body, paired, closed, whole, rfl, rfl⟩ := readQuoted_eq_some_iff.mp read
          simp only [read] at found
          cases found
          exact ⟨body, paired, closed, here.trans (congrArg _ whole), by dsimp only; omega, rfl⟩
    · cases found
  · rintro ⟨body, paired, closed, here, stop, rfl⟩
    have read := readQuoted_eq_some_iff.mpr ⟨body, paired, closed, rfl, rfl, rfl⟩
    rw [quotedText, here]
    simp only [read, Nat.add_assoc, Nat.add_comm 1]
    rw [← stop]

theorem found_quotedScalar (c : Cursor) :
    (quotedScalar c).found =
      (quotedText c).found.map fun found => (⟨⟨c.offset, found.2.offset⟩, true, found.1⟩, found.2) := by
  refine (found_bind _ _ c).trans ?_
  rw [found_node]
  cases (quotedText c).found <;> rfl

theorem found_bareScalar (c : Cursor) :
    (bareScalar c).found = (run (fun x => !isSpecial x) c).found.map fun found =>
      (⟨⟨c.offset, found.2.offset⟩, false, found.1⟩, found.2) := by
  refine (found_bind _ _ c).trans ?_
  rw [found_node]
  cases (run (fun x => !isSpecial x) c).found <;> rfl

/-- A scalar is found exactly where one of the rules matches a stretch; it has the mark of this rule over this stretch,
and its text is what the stretch stands for. -/
theorem found_scalar_iff {c d : Cursor} {node : ScalarNode} :
    (scalar c).found = some (node, d) ↔
      ∃ rule source, ScalarMatch rule source d.rest ∧ c.rest = source ++ d.rest ∧
        d.offset = c.offset + source.length ∧ node.marks = [⟨rule, ⟨c.offset, d.offset⟩⟩] ∧
          node.text = unquote rule source := by
  rw [scalar, found_orElse, Option.or_eq_some_iff, found_quotedScalar, found_bareScalar]
  simp only [Option.map_eq_some_iff, Option.map_eq_none_iff]
  constructor
  · rintro (⟨⟨text, e⟩, found, same⟩ | ⟨-, ⟨text, e⟩, found, same⟩)
    · cases same
      obtain ⟨body, paired, closed, here, stop, rfl⟩ := found_quotedText_iff.mp found
      refine ⟨_, _, .quotedValue paired closed, ?_, ?_, rfl, (unquote_quotedValue body).symm⟩
      · simpa using here
      · simpa using stop
    · cases same
      obtain ⟨filled, plain, stops, here, stop⟩ := found_run_iff.mp found
      exact ⟨_, _, .bareValue filled (by simpa using plain) (by simpa using stops), here, stop, rfl, rfl⟩
  · obtain ⟨span, isQuoted, text⟩ := node
    rintro ⟨rule, source, found, here, stop, marks, rfl⟩
    obtain ⟨kind, rfl⟩ := Mark.mk.inj (List.singleton_inj.mp marks)
    cases found with
    | @quotedValue body _ paired closed =>
        obtain rfl : isQuoted = true := by simpa using kind
        rw [unquote_quotedValue]
        refine .inl ⟨(halveQuotes body, d), found_quotedText_iff.mpr ⟨body, paired, closed, ?_, ?_, rfl⟩, rfl⟩
        · simpa using here
        · simpa using stop
    | bareValue filled plain stops =>
        obtain rfl : isQuoted = false := by simpa using kind
        -- The rule of quoted values is tried first, but nothing bare begins with a quote.
        have opening : c.rest.head? ≠ some '"' := by
          obtain ⟨x, others, rfl⟩ := List.exists_cons_of_ne_nil filled
          rw [here]
          rintro same
          cases same
          cases plain '"' List.mem_cons_self
        refine .inr ⟨misses_quotedText opening c.offset, (source, d), found_run_iff.mpr ⟨filled, ?_, ?_, here, stop⟩, rfl⟩
        · simpa using plain
        · simpa using stops

/-- What a rule matches is found wherever it stands. -/
theorem ScalarMatch.exists_found {rule : Rule} {source rest : List Char} (found : ScalarMatch rule source rest)
    (offset : Nat) :
    ∃ node, (scalar ⟨source ++ rest, offset⟩).found = some (node, ⟨rest, offset + source.length⟩) ∧
      node.marks = [⟨rule, ⟨offset, offset + source.length⟩⟩] ∧ node.text = unquote rule source := by
  obtain ⟨isQuoted, kind⟩ : ∃ isQuoted : Bool, (if isQuoted then .quotedValue else .bareValue) = rule := by
    cases found with
    | quotedValue => exact ⟨true, rfl⟩
    | bareValue => exact ⟨false, rfl⟩
  let node : ScalarNode := ⟨⟨offset, offset + source.length⟩, isQuoted, unquote rule source⟩
  have marks : node.marks = [⟨rule, ⟨offset, offset + source.length⟩⟩] := congrArg (fun kind => [Mark.mk kind _]) kind
  exact ⟨node, found_scalar_iff.mpr ⟨rule, source, found, rfl, rfl, marks, rfl⟩, marks, rfl⟩

/-! ## Written texts -/

/-- What follows a text cannot be taken for a part of a value. -/
def Closes (rest : List Char) : Prop :=
  ∀ c, rest.head? = some c → isSpecial c = true ∧ c ≠ '"'

theorem closes_cons {c : Char} (special : isSpecial c = true) (other : c ≠ '"') (rest : List Char) :
    Closes (c :: rest) := by
  intro d same
  cases same
  exact ⟨special, other⟩

/-- The rule for what is written of a text. -/
def scalarRule (text : List Char) : Rule :=
  if NeedsQuotes text then .quotedValue else .bareValue

theorem scalarMatch_quote (text : List Char) {rest : List Char} (closes : Closes rest) :
    ScalarMatch (scalarRule text) (quote text) rest := by
  rw [scalarRule, quote_eq]
  split
  · exact .quotedValue (quotedBody_doubleQuotes text) fun head => (closes '"' head).2 rfl
  · rename_i bare
    obtain ⟨filled, plain⟩ := not_needsQuotes_iff.mp bare
    exact .bareValue filled plain fun c head => (closes c head).1

theorem unquote_quote (text : List Char) : unquote (scalarRule text) (quote text) = text := by
  rw [scalarRule, quote_eq]
  split
  · rw [unquote_quotedValue, halveQuotes_doubleQuotes]
  · rfl

/-- What is written of a text is matched as a whole and no further, wherever it stands in front of what closes it: as
one value, quoted if the text calls for quotes and bare if not, over just the stretch that was written.  This stretch
stands for the text, which is the one that is read. -/
theorem quote_matched (text : List Char) {rest : List Char} (closes : Closes rest) (before : List Char) :
    ∃ node mark,
      (scalar ⟨quote text ++ rest, before.length⟩).found =
          some (node, ⟨rest, before.length + (quote text).length⟩) ∧
        node.marks = [mark] ∧ mark.rule = scalarRule text ∧
        mark.span.cut (before ++ (quote text ++ rest)) = quote text ∧
        unquote mark.rule (mark.span.cut (before ++ (quote text ++ rest))) = text ∧ node.text = text := by
  obtain ⟨node, found, marks, same⟩ := (scalarMatch_quote text closes).exists_found before.length
  have cut : (⟨before.length, before.length + (quote text).length⟩ : Span).cut (before ++ (quote text ++ rest)) =
      quote text := Span.cut_eq List.drop_left
  refine ⟨node, _, found, marks, rfl, cut, ?_, same.trans (unquote_quote text)⟩
  rw [cut]
  exact unquote_quote text

/-- A text with a blank and with quotes, one of them at its end. -/
theorem quote_matched_saying :
    Closes ", x".toList ∧ ∃ node mark,
      (scalar ⟨"\"say \"\"hi\"\"\", x".toList, 6⟩).found = some (node, ⟨", x".toList, 18⟩) ∧
        node.marks = [mark] ∧ mark.rule = .quotedValue ∧
        mark.span.cut "name: \"say \"\"hi\"\"\", x".toList = "\"say \"\"hi\"\"\"".toList ∧
        unquote .quotedValue "\"say \"\"hi\"\"\"".toList = "say \"hi\"".toList ∧
        node.text = "say \"hi\"".toList := by
  have closes : Closes ", x".toList := closes_cons rfl (by decide) _
  obtain ⟨node, mark, found, marks, rule, cut, stands, same⟩ :=
    quote_matched "say \"hi\"".toList closes "name: ".toList
  have calls : NeedsQuotes "say \"hi\"".toList := .inr ⟨' ', by simp, by decide⟩
  have quoted : mark.rule = .quotedValue := rule.trans (if_pos calls)
  rw [cut, quoted] at stands
  exact ⟨closes, node, mark, found, marks, quoted, cut, stands, same⟩

end Criteria.Query
