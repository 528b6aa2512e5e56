import Criteria.Proofs.Outcome
import Criteria.Proofs.Query.Scalar
import Criteria.Proofs.Query.Unrestricted
import Criteria.Proofs.Views
import Criteria.Query.Writer

/-!
# Written entries are scanned as entries

What is written of a value is read as that value again, and what is written of an entry is read as that entry
but for its views, whatever characters a text holds.  Only behind the signs for greater and lower a value must not
begin with an equality sign, which would turn them into other signs.
-/

namespace Criteria

/-- An entry is no comparison by greater or lower. -/
def Entry.NotStrict : Entry → Prop
  | .comparison c => c.operator ≠ .greater ∧ c.operator ≠ .lower
  | _ => True

/-- An entry can be written and read again: its values are what their views denote, and it is no comparison by
greater or lower. -/
structure Field.Writes (field : Field) (e : Entry) : Prop where
  shows : ∀ v ∈ e.values, field.Shows v
  mild : e.NotStrict

/-- What is written behind the sign for greater or lower does not begin with an equality sign. -/
def Field.KeepsApart (field : Field) : Entry → Prop
  | .comparison c => c.operator = .greater ∨ c.operator = .lower → ∀ written,
      Query.writeValue field c.value = .ok written → written.head? ≠ some '='
  | _ => True

/-- What is written of an entry stands for that entry: its values are what their views denote, and the sign of a
comparison is kept apart from the value. -/
structure Field.Recovers (field : Field) (e : Entry) : Prop where
  shows : ∀ v ∈ e.values, field.Shows v
  apart : field.KeepsApart e

theorem Field.Writes.recovers {field : Field} {e : Entry} (writes : field.Writes e) : field.Recovers e where
  shows := writes.shows
  apart := by
    cases e with
    | comparison c =>
        rintro (greater | lower)
        · exact absurd greater writes.mild.1
        · exact absurd lower writes.mild.2
    | _ => exact trivial

namespace Query

open Scan

/-! ## Values -/

/-- A value begins with a quote or with a character that has no meaning of its own. -/
theorem head_quote (text rest : List Char) :
    ∃ c, (quote text ++ rest).head? = some c ∧ (c = '"' ∨ isSpecial c = false) := by
  rw [quote_eq]
  split
  · exact ⟨'"', rfl, .inl rfl⟩
  · rename_i bare
    obtain ⟨filled, plain⟩ := not_needsQuotes_iff.mp bare
    obtain ⟨c, others, rfl⟩ := List.exists_cons_of_ne_nil filled
    exact ⟨c, rfl, .inr (plain c List.mem_cons_self)⟩

theorem head_quote_ne {d : Char} (special : isSpecial d = true) (other : d ≠ '"') (text rest : List Char) :
    (quote text ++ rest).head? ≠ some d := by
  obtain ⟨c, head, begins⟩ := head_quote text rest
  rw [head]
  rintro same
  cases same
  rcases begins with same | bare
  · exact other same
  · rw [special] at bare
    cases bare

theorem solid_quote (text rest : List Char) : Solid (quote text ++ rest) := by
  intro c head
  obtain ⟨d, head', begins⟩ := head_quote text rest
  rw [head'] at head
  cases head
  rcases begins with rfl | bare
  · rfl
  · rw [isSpecial, Bool.or_eq_false_iff] at bare
    exact bare.1

/-- A written value is scanned as the text it was written from. -/
theorem finds_scalar (text : List Char) {rest : List Char} (closes : Closes rest) :
    Finds scalar (quote text ++ rest) rest fun node => node.text = text := by
  intro offset
  obtain ⟨node, found, -, same⟩ := (scalarMatch_quote text closes).exists_found offset
  exact ⟨node, _, found, same.trans (unquote_quote text)⟩

/-- A scalar is read as a value. -/
def Denotes (field : Field) (v : Value) (node : ScalarNode) : Prop :=
  ∃ s, scalar? field node = some s ∧ s.value = v

/-- A written value is scanned as a scalar that denotes it. -/
theorem finds_writeValue {field : Field} {v : Value} (shows : field.Shows v) {written : List Char}
    (h : writeValue field v = .ok written) {rest : List Char} (closes : Closes rest) :
    Finds scalar (written ++ rest) rest (Denotes field v) := by
  rcases shows with ⟨view, toView, ofView⟩
  have same : quote view.toList = written := by
    rw [writeValue, toView] at h
    exact Except.ok.inj h
  rw [← same]
  refine (finds_scalar view.toList closes).mono fun node text => ⟨⟨v, view⟩, ?_, rfl⟩
  rw [scalar?, text, String.ofList_toList, ofView]
  rfl

theorem exists_quote_of_writeValue {field : Field} {v : Value} {written : List Char}
    (h : writeValue field v = .ok written) : ∃ text, written = quote text := by
  obtain ⟨view, -, h⟩ := bind_eq_ok_iff.mp h
  exact ⟨view.toList, (Except.ok.inj h).symm⟩

/-! ## Entries -/

/-- A node is read as an entry but for its views. -/
def DenotesEntry (field : Field) (e : Entry) (node : EntryNode) : Prop :=
  ∃ found, entryOf? field node = some found ∧ found.withoutView = e.withoutView

/-- What stands behind an entry: the comma in front of the next one, or the end of the statement. -/
def Ends (rest : List Char) : Prop :=
  rest.head? = some ',' ∨ rest.head? = some ';'

theorem Ends.head_ne {rest : List Char} (ends : Ends rest) {c : Char} (comma : c ≠ ',') (semicolon : c ≠ ';') :
    rest.head? ≠ some c := by
  rcases ends with head | head
  · rw [head]
    exact fun same => comma (Option.some.inj same).symm
  · rw [head]
    exact fun same => semicolon (Option.some.inj same).symm

theorem Ends.closes {rest : List Char} (ends : Ends rest) : Closes rest := by
  intro c head
  rcases ends with found | found
  · rw [found] at head
    cases head
    exact ⟨rfl, by decide⟩
  · rw [found] at head
    cases head
    exact ⟨rfl, by decide⟩

theorem Ends.solid {rest : List Char} (ends : Ends rest) : Solid rest := by
  intro c head
  rcases ends with found | found
  · rw [found] at head
    cases head
    rfl
  · rw [found] at head
    cases head
    rfl

/-- A sign that is written or left out is found or not. -/
theorem finds_flag (flag : Bool) {c : Char} {rest : List Char} (other : rest.head? ≠ some c) :
    Finds (optional (mark (char c))) ((if flag then [c] else []) ++ rest) rest fun found =>
      found.isSome = flag := by
  cases flag with
  | true =>
      refine (finds_optional_some (finds_char c rest).mark).mono ?_
      rintro - ⟨a, rfl, -⟩
      rfl
  | false =>
      refine (finds_optional_none (misses_char other).mark).mono ?_
      rintro - rfl
      rfl

/-- The same for a sign that stands for the opposite. -/
theorem finds_flag_not (flag : Bool) {c : Char} {rest : List Char} (other : rest.head? ≠ some c) :
    Finds (optional (mark (char c))) ((if flag then [] else [c]) ++ rest) rest fun found =>
      found.isNone = flag := by
  have swapped : (if flag then [] else [c]) = if !flag then [c] else [] := by cases flag <;> rfl
  rw [swapped]
  refine (finds_flag (!flag) other).mono fun found h => ?_
  rw [← Option.not_isSome, h, Bool.not_not]

theorem writeRange_eq_ok {field : Field} {r : Range} {written : List Char}
    (h : writeRange field r = .ok written) :
    ∃ low high, writeValue field r.lower = .ok low ∧ writeValue field r.upper = .ok high ∧
      written = (if r.includesLower then [] else [']']) ++ (low ++ ('-' :: (high ++
        if r.includesUpper then [] else ['['])) ) := by
  rw [writeRange] at h
  obtain ⟨low, lower, h⟩ := bind_eq_ok_iff.mp h
  obtain ⟨high, upper, h⟩ := bind_eq_ok_iff.mp h
  refine ⟨low, high, lower, upper, ?_⟩
  rw [← Except.ok.inj h, List.append_assoc, List.append_assoc, List.cons_append]

/-- A node of a range is read as a range. -/
def DenotesRange (field : Field) (r : Range) (node : RangeNode) : Prop :=
  ∃ found, range? field node = some found ∧ found.withoutView = r.withoutView

/-- A written range is scanned as a range. -/
theorem finds_rangeNode {field : Field} {r : Range} (lower : field.Shows r.lower) (upper : field.Shows r.upper)
    {written : List Char} (h : writeRange field r = .ok written) {rest : List Char} (ends : Ends rest) :
    Finds rangeNode (written ++ rest) rest (DenotesRange field r) := by
  obtain ⟨low, high, first, second, rfl⟩ := writeRange_eq_ok h
  obtain ⟨lowText, hlow⟩ := exists_quote_of_writeValue first
  obtain ⟨highText, hhigh⟩ := exists_quote_of_writeValue second
  have closesHigh : Closes ((if r.includesUpper then [] else ['[']) ++ rest) := by
    cases r.includesUpper with
    | true => exact ends.closes
    | false => exact closes_cons rfl (by decide) rest
  have solidHigh : Solid ((if r.includesUpper then [] else ['[']) ++ rest) := by
    cases r.includesUpper with
    | true => exact ends.solid
    | false => exact solid_cons rfl rest
  rw [List.append_assoc, List.append_assoc, List.cons_append, List.append_assoc]
  refine Finds.node_bind (P := fun found => found.1.isNone = r.includesLower ∧
    Denotes field r.lower found.2.1 ∧ Denotes field r.upper found.2.2.1 ∧
      found.2.2.2.isNone = r.includesUpper) ?_ ?_
  · refine (finds_flag_not _ ?_).bind fun openLower hopenLower => ?_
    · rw [hlow]
      exact head_quote_ne rfl (by decide) _ _
    refine (finds_gap_nothing ?_).bind fun _ _ => ?_
    · rw [hlow]
      exact solid_quote _ _
    refine (finds_writeValue lower first (closes_cons rfl (by decide) _)).bind fun lowNode hlowNode => ?_
    refine (finds_gap_nothing (solid_cons rfl _)).bind fun _ _ => ?_
    refine (finds_char '-' _).bind fun _ _ => ?_
    refine (finds_gap_nothing ?_).bind fun _ _ => ?_
    · rw [hhigh]
      exact solid_quote _ _
    refine (finds_writeValue upper second closesHigh).bind fun highNode hhighNode => ?_
    refine (finds_gap_nothing solidHigh).bind fun _ _ => ?_
    refine (finds_flag_not _ (ends.head_ne (by decide) (by decide))).bind fun openUpper hopenUpper => ?_
    exact finds_pure ⟨hopenLower, hlowNode, hhighNode, hopenUpper⟩ rest
  · rintro span ⟨openLower, lowNode, highNode, openUpper⟩ ⟨includesLower, ⟨s, hs, sameLower⟩,
      ⟨t, ht, sameUpper⟩, includesUpper⟩
    refine finds_pure ⟨⟨s.value, t.value, openLower.isNone, openUpper.isNone, s.view, t.view⟩, ?_, ?_⟩ rest
    · simp only [range?, hs, ht]
      rfl
    · rw [Range.withoutView, Range.withoutView, sameLower, sameUpper, includesLower, includesUpper]

theorem head_writeRange_ne {field : Field} {r : Range} {written : List Char}
    (h : writeRange field r = .ok written) {d : Char} (special : isSpecial d = true) (noQuote : d ≠ '"')
    (noBracket : d ≠ ']') (rest : List Char) : (written ++ rest).head? ≠ some d := by
  obtain ⟨low, high, first, -, rfl⟩ := writeRange_eq_ok h
  obtain ⟨text, rfl⟩ := exists_quote_of_writeValue first
  rw [List.append_assoc, List.append_assoc]
  cases r.includesLower with
  | true => exact head_quote_ne special noQuote text _
  | false => exact fun same => noBracket (Option.some.inj same).symm

theorem solid_writeRange {field : Field} {r : Range} {written : List Char}
    (h : writeRange field r = .ok written) (rest : List Char) : Solid (written ++ rest) := by
  obtain ⟨low, high, first, -, rfl⟩ := writeRange_eq_ok h
  obtain ⟨text, rfl⟩ := exists_quote_of_writeValue first
  rw [List.append_assoc, List.append_assoc]
  cases r.includesLower with
  | true => exact solid_quote text _
  | false => exact solid_cons rfl _

/-- A value alone is no range. -/
theorem misses_rangeNode (text : List Char) {rest : List Char} (ends : Ends rest) :
    Misses rangeNode (quote text ++ rest) := by
  refine Misses.bind (Misses.node ?_)
  refine (finds_optional_none (misses_char (head_quote_ne rfl (by decide) _ _)).mark).bind_misses fun _ _ => ?_
  refine (finds_gap_nothing (solid_quote _ _)).bind_misses fun _ _ => ?_
  refine (finds_scalar text ends.closes).bind_misses fun _ _ => ?_
  refine (finds_gap_nothing ends.solid).bind_misses fun _ _ => ?_
  exact (misses_char (ends.head_ne (by decide) (by decide))).bind

theorem misses_matchNode {text : List Char} (other : text.head? ≠ some '~') : Misses matchNode text :=
  Misses.bind (Misses.node (misses_char other).bind)

theorem misses_comparison {text : List Char} (greater : text.head? ≠ some '>')
    (lower : text.head? ≠ some '<') : Misses comparison text := by
  refine Misses.bind (Misses.node (Misses.bind (Misses.node (misses_oneOf ?_))))
  intro scan mem
  obtain ⟨op, -, rfl⟩ := List.mem_map.mp mem
  refine Misses.bind ?_
  cases op with
  | greater => exact misses_chars_cons [] greater
  | lower => exact misses_chars_cons [] lower
  | greaterOrEqual => exact misses_chars_cons ['='] greater
  | lowerOrEqual => exact misses_chars_cons ['='] lower
  | notEqual => exact misses_chars_cons ['>'] lower

theorem misses_excludedRange {text : List Char} (other : text.head? ≠ some '!') :
    Misses excludedRange text :=
  Misses.bind (Misses.node (misses_char other).bind)

theorem misses_excludedEntry {text : List Char} (other : text.head? ≠ some '!') :
    Misses excludedEntry text :=
  Misses.bind (Misses.node (misses_char other).bind)

/-! ### Comparisons -/

/-- One operator by its sign. -/
def operatorScan (op : Operator) : Scan Operator := do
  chars op.sign.toList
  return op

theorem finds_operatorScan (op : Operator) (rest : List Char) :
    Finds (operatorScan op) (op.sign.toList ++ rest) rest fun found => found = op :=
  (finds_chars _ rest).bind fun _ _ => finds_pure (by exact rfl) rest

theorem misses_operatorScan (op : Operator) (c : Char) {cs text : List Char} (sign : op.sign.toList = c :: cs)
    (other : text.head? ≠ some c) : Misses (operatorScan op) text := by
  rw [operatorScan, sign]
  exact (misses_chars_cons cs other).bind

/-- Of a sign with two characters, the first one is not enough. -/
theorem misses_operatorScan_second (op : Operator) (c d : Char) {text : List Char} (sign : op.sign.toList = [c, d])
    (other : text.head? ≠ some d) : Misses (operatorScan op) (c :: text) := by
  rw [operatorScan, sign]
  exact Misses.bind ((finds_char c text).bind_misses fun _ _ => misses_chars_cons [] other)

/-- The sign of an operator is found as that operator, if what follows does not make another sign of it. -/
theorem finds_compareOperator {op : Operator} {rest : List Char}
    (noEquality : op = .greater ∨ op = .lower → rest.head? ≠ some '=') (noAngle : rest.head? ≠ some '>') :
    Finds compareOperator (op.sign.toList ++ rest) rest fun found => found.2 = op := by
  have other {c d : Char} (differs : c ≠ d) (text : List Char) : (c :: text).head? ≠ some d :=
    fun same => differs (Option.some.inj same)
  refine Finds.node (P := fun found => found = op) ?_
  cases op with
  | greater =>
      refine (misses_operatorScan_second .greaterOrEqual '>' '=' rfl (noEquality (.inl rfl))).oneOf_finds ?_
      refine (misses_operatorScan .lowerOrEqual '<' rfl (other (by decide) rest)).oneOf_finds ?_
      refine (misses_operatorScan .notEqual '<' rfl (other (by decide) rest)).oneOf_finds ?_
      exact (finds_operatorScan .greater rest).oneOf _
  | lower =>
      refine (misses_operatorScan .greaterOrEqual '>' rfl (other (by decide) rest)).oneOf_finds ?_
      refine (misses_operatorScan_second .lowerOrEqual '<' '=' rfl (noEquality (.inr rfl))).oneOf_finds ?_
      refine (misses_operatorScan_second .notEqual '<' '>' rfl noAngle).oneOf_finds ?_
      refine (misses_operatorScan .greater '>' rfl (other (by decide) rest)).oneOf_finds ?_
      exact (finds_operatorScan .lower rest).oneOf _
  | greaterOrEqual => exact (finds_operatorScan .greaterOrEqual rest).oneOf _
  | lowerOrEqual =>
      refine (misses_operatorScan .greaterOrEqual '>' rfl (other (by decide) _)).oneOf_finds ?_
      exact (finds_operatorScan .lowerOrEqual rest).oneOf _
  | notEqual =>
      refine (misses_operatorScan .greaterOrEqual '>' rfl (other (by decide) _)).oneOf_finds ?_
      refine (misses_operatorScan_second .lowerOrEqual '<' '=' rfl (other (by decide) rest)).oneOf_finds ?_
      exact (finds_operatorScan .notEqual rest).oneOf _

theorem finds_comparison {field : Field} {c : Comparison} (shows : field.Shows c.value)
    (apart : field.KeepsApart (.comparison c)) {written : List Char}
    (h : writeValue field c.value = .ok written) {rest : List Char} (ends : Ends rest) :
    Finds comparison (c.operator.sign.toList ++ (written ++ rest)) rest
      (DenotesEntry field (.comparison c)) := by
  obtain ⟨text, htext⟩ := exists_quote_of_writeValue h
  have head : (written ++ rest).head? = written.head? := by
    obtain ⟨d, first, -⟩ := head_quote text []
    rw [List.append_nil, ← htext] at first
    rw [List.head?_append, first]
    rfl
  refine Finds.node_bind (P := fun found => found.1.2 = c.operator ∧ Denotes field c.value found.2) ?_ ?_
  · refine (finds_compareOperator ?_ ?_).bind fun operator hoperator => ?_
    · rw [head]
      exact fun strict => apart strict written h
    · rw [htext]
      exact head_quote_ne rfl (by decide) text rest
    refine (finds_gap_nothing ?_).bind fun _ _ => ?_
    · rw [htext]
      exact solid_quote _ _
    exact (finds_writeValue shows h ends.closes).bind fun node hnode => finds_pure ⟨hoperator, hnode⟩ rest
  · rintro span ⟨⟨operatorSpan, operator⟩, node⟩ ⟨same, s, hs, value⟩
    refine finds_pure ⟨.comparison ⟨s.value, operator, s.view⟩, ?_, ?_⟩ rest
    · simp only [entryOf?, hs]
      rfl
    · dsimp only at same
      rw [Entry.withoutView, Entry.withoutView, Comparison.withoutView, Comparison.withoutView, value, same]

/-! ### Matches -/

theorem matchSign_injective {a b : MatchKind} (same : matchSign a = matchSign b) : a = b := by
  revert same
  cases a <;> cases b <;> decide

/-- The sign of a kind of match is found as that kind. -/
theorem finds_matchKind (kind : MatchKind) (rest : List Char) :
    Finds matchKind (matchSign kind :: rest) rest fun found => found.2 = kind := by
  refine Finds.node (P := fun found => found = kind) (finds_oneOf_map (c := kind) ?_ ?_ ?_)
  · cases kind <;> decide
  · exact (finds_char _ rest).bind fun _ _ => finds_pure (by exact rfl) rest
  · intro other differs
    refine Misses.bind (misses_char fun same => ?_)
    exact differs (matchSign_injective (Option.some.inj same)).symm

/-- A written match is scanned as that match. -/
theorem finds_matchNode (m : TextMatch) {rest : List Char} (ends : Ends rest) :
    Finds matchNode (writeMatch m ++ rest) rest fun node => readMatch node = m := by
  have sign (c : Char) (other : ∀ kind, matchSign kind ≠ c) (text : List Char) :
      (matchSign m.kind :: text).head? ≠ some c :=
    fun same => other m.kind (Option.some.inj same)
  rw [writeMatch, List.cons_append, List.append_assoc, List.append_assoc, List.cons_append]
  refine Finds.node_bind (P := fun found => found.1.isSome = m.ignoresCase ∧
    found.2.1.isSome = m.negated ∧ found.2.2.1.2 = m.kind ∧ found.2.2.2.1.text = m.text.toList) ?_ ?_
  · refine (finds_char '~' _).bind fun _ _ => ?_
    refine (finds_flag _ ?_).bind fun ignoresCase hignoresCase => ?_
    · cases m.negated with
      | true => simp
      | false => exact sign 'i' (by rintro ⟨⟩ <;> decide) _
    refine (finds_flag _ (sign '!' (by rintro ⟨⟩ <;> decide) _)).bind fun negated hnegated => ?_
    refine (finds_matchKind m.kind _).bind fun kind hkind => ?_
    refine (finds_scalar _ ends.closes).bind fun node hnode => ?_
    have noStar := misses_char (ends.head_ne (c := '*') (by decide) (by decide))
    refine (finds_optional_none noStar.mark).bind fun _ _ => ?_
    exact finds_pure ⟨hignoresCase, hnegated, hkind, hnode⟩ rest
  · rintro span ⟨ignoresCase, negated, ⟨kindSpan, kind⟩, node, wildcard⟩ ⟨hcase, hnegated, hkind, htext⟩
    refine finds_pure ?_ rest
    dsimp only at hcase hnegated hkind htext
    rw [readMatch, hcase, hnegated, hkind, htext, String.ofList_toList]

/-! ### All entries -/

/-- What is written of an entry is scanned as that entry but for its views. -/
theorem finds_entry {field : Field} {e : Entry} (recovers : field.Recovers e) {written : List Char}
    (h : writeEntry field e = .ok written) {rest : List Char} (ends : Ends rest) :
    Finds entry (written ++ rest) rest (DenotesEntry field e) := by
  rcases recovers with ⟨shows, apart⟩
  cases e with
  | single s =>
      obtain ⟨text, rfl⟩ := exists_quote_of_writeValue h
      have other {c : Char} (special : isSpecial c = true) (noQuote : c ≠ '"') :=
        head_quote_ne special noQuote text rest
      refine (misses_matchNode (other rfl (by decide))).map.oneOf_finds ?_
      refine (misses_comparison (other rfl (by decide)) (other rfl (by decide))).oneOf_finds ?_
      refine (misses_excludedRange (other rfl (by decide))).oneOf_finds ?_
      refine (misses_excludedEntry (other rfl (by decide))).oneOf_finds ?_
      refine (misses_rangeNode text ends).map.oneOf_finds ?_
      refine (finds_writeValue (shows s.value List.mem_cons_self) h ends.closes).node_bind ?_
      rintro span node ⟨t, ht, same⟩
      refine finds_pure ⟨.single t, by simp only [entryOf?, ht]; rfl, ?_⟩ rest
      rw [Entry.withoutView, Single.withoutView, same]
      rfl
  | excludedSingle s =>
      obtain ⟨value, written, same⟩ := bind_eq_ok_iff.mp h
      cases pure_eq_ok_iff.mp same
      obtain ⟨text, rfl⟩ := exists_quote_of_writeValue written
      refine (misses_matchNode (by simp)).map.oneOf_finds ?_
      refine (misses_comparison (by simp) (by simp)).oneOf_finds ?_
      refine Misses.oneOf_finds (Misses.bind (Misses.node ?_)) ?_
      · refine (finds_char '!' _).bind_misses fun _ _ => ?_
        exact (finds_gap_nothing (solid_quote text rest)).bind_misses fun _ _ => misses_rangeNode text ends
      refine Finds.oneOf _ (Finds.node_bind (P := Denotes field s.value) ?_ ?_)
      · refine (finds_char '!' _).bind fun _ _ => ?_
        refine (finds_gap_nothing (solid_quote text rest)).bind fun _ _ => ?_
        exact finds_writeValue (shows s.value List.mem_cons_self) written ends.closes
      · rintro span node ⟨t, ht, same⟩
        refine finds_pure ⟨.excludedSingle t, by simp only [entryOf?, ht]; rfl, ?_⟩ rest
        rw [Entry.withoutView, Single.withoutView, same]
        rfl
  | range r =>
      have other {c : Char} (special : isSpecial c = true) (noQuote : c ≠ '"') (noBracket : c ≠ ']') :=
        head_writeRange_ne h special noQuote noBracket rest
      refine (misses_matchNode (other rfl (by decide) (by decide))).map.oneOf_finds ?_
      refine (misses_comparison (other rfl (by decide) (by decide))
        (other rfl (by decide) (by decide))).oneOf_finds ?_
      refine (misses_excludedRange (other rfl (by decide) (by decide))).oneOf_finds ?_
      refine (misses_excludedEntry (other rfl (by decide) (by decide))).oneOf_finds ?_
      refine Finds.oneOf _ ((finds_rangeNode (shows r.lower (by simp [Entry.values]))
        (shows r.upper (by simp [Entry.values])) h ends).map ?_)
      rintro node ⟨found, hfound, same⟩
      refine ⟨.range found, by simp only [entryOf?, hfound]; rfl, ?_⟩
      rw [Entry.withoutView, same]
      rfl
  | excludedRange r =>
      obtain ⟨range, written, same⟩ := bind_eq_ok_iff.mp h
      cases pure_eq_ok_iff.mp same
      refine (misses_matchNode (by simp)).map.oneOf_finds ?_
      refine (misses_comparison (by simp) (by simp)).oneOf_finds ?_
      refine Finds.oneOf _ (Finds.node_bind (P := DenotesRange field r) ?_ ?_)
      · refine (finds_char '!' _).bind fun _ _ => ?_
        refine (finds_gap_nothing (solid_writeRange written rest)).bind fun _ _ => ?_
        exact finds_rangeNode (shows r.lower (by simp [Entry.values])) (shows r.upper (by simp [Entry.values]))
          written ends
      · rintro span node ⟨found, hfound, same⟩
        refine finds_pure ⟨.excludedRange found, by simp only [entryOf?, hfound]; rfl, ?_⟩ rest
        rw [Entry.withoutView, same]
        rfl
  | comparison c =>
      obtain ⟨value, written, same⟩ := bind_eq_ok_iff.mp h
      cases pure_eq_ok_iff.mp same
      rw [List.append_assoc]
      have noMatch : (c.operator.sign.toList ++ (value ++ rest)).head? ≠ some '~' := by
        cases c.operator <;> simp [Operator.sign]
      refine (misses_matchNode noMatch).map.oneOf_finds (Finds.oneOf _ ?_)
      exact finds_comparison (shows c.value List.mem_cons_self) apart written ends
  | textMatch m =>
      cases pure_eq_ok_iff.mp h
      refine Finds.oneOf _ ((finds_matchNode m ends).map ?_)
      rintro node rfl
      exact ⟨_, rfl, rfl⟩

end Query

end Criteria
