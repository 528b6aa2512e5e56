import Criteria.Proofs.Query.RoundTrip

/-!
# Comparisons with texts

A condition that holds one comparison with a text, about a field whose values are any texts, is written and read
again with the same operator and the same text, but for one clash: the signs for greater and lower take the equality
sign that a bare text begins with for their own.
-/

namespace Criteria.Query

open Scan

/-- The bag of one comparison with a text. -/
def comparisonBag (op : Operator) (text view : String) : Bag :=
  .ofList [.comparison ⟨.string text, op, view⟩]

/-- The tree of one comparison with a text. -/
def comparing (logical : Logical) (name : String) (op : Operator) (text view : String) : Group :=
  .mk logical ⟨[(name, comparisonBag op text view)], List.nodup_singleton name⟩ []

/-- The sign of an operator runs into a text that is written behind it without quotes. -/
def RunsInto (op : Operator) (text : String) : Prop :=
  (op = .greater ∨ op = .lower) ∧ text.toList.head? = some '=' ∧ text.toList.any isSpecial = false

theorem head_quote_eq_iff (text : List Char) :
    (quote text).head? = some '=' ↔ text.head? = some '=' ∧ text.any isSpecial = false := by
  rw [quote_eq]
  split
  · rename_i quoted
    refine iff_of_false (by simp) fun ⟨head, plain⟩ => not_needsQuotes_iff_any.mpr ⟨?_, plain⟩ quoted
    rintro rfl
    cases head
  · rename_i bare
    exact (and_iff_left (not_needsQuotes_iff_any.mp bare).2).symm

variable {schema : Schema} {limits : Limits} {field : Field} {name : String} {logical : Logical} {op : Operator}
  {text view : String}

/-! ## What is written -/

theorem writeValue_string (plain : field.view = none) (text : String) :
    writeValue field (.string text) = .ok (quote text.toList) := by
  rw [writeValue, Field.toView, plain]
  rfl

theorem shows_string (plain : field.view = none) (text : String) : field.Shows (.string text) := by
  refine ⟨text, ?_, ?_⟩
  · rw [Field.toView, plain]
    rfl
  · rw [Field.ofView, plain]
    rfl

/-- The text of the statement of a comparison. -/
def comparisonText (name : String) (op : Operator) (text : String) : List Char :=
  name.toList ++ ':' :: ' ' :: (op.sign.toList ++ (quote text.toList ++ [';']))

theorem write_comparing (known : schema.field? name = some field) (plain : field.view = none) :
    write ⟨schema, comparing logical name op text view⟩ =
      .ok (String.ofList (textOf logical [comparisonText name op text])) := by
  have entry : writeEntry field (.comparison ⟨.string text, op, view⟩) =
      .ok (op.sign.toList ++ quote text.toList) := by
    rw [writeEntry, writeValue_string plain]
    rfl
  have statement : writeStatement schema name (comparisonBag op text view) =
      .ok (comparisonText name op text) := by
    rw [writeStatement, Schema.fieldOf, known]
    change ([Entry.comparison ⟨.string text, op, view⟩].mapM (writeEntry field) >>= _) = _
    rw [List.mapM_cons, entry]
    simp [comparisonText, joinTexts, List.intercalate]
  have parts : writeParts schema (comparing logical name op text view) =
      .ok (logical, [comparisonText name op text]) := by
    rw [comparing, writeParts_mk]
    change ([(name, comparisonBag op text view)].mapM (fun bag => writeStatement schema bag.1 bag.2) >>= _) = _
    rw [List.mapM_cons, statement]
    rfl
  rw [write, parts]
  cases logical <;> rfl

/-! ## Written comparisons that are read again -/

theorem recoverable_comparing (known : schema.field? name = some field) (plain : field.view = none)
    (isName : IsName name.toList) (apart : ¬ RunsInto op text) :
    (comparing logical name op text view).AllBags (Recoverable schema) := by
  have recovers : field.Recovers (.comparison ⟨.string text, op, view⟩) := by
    refine ⟨List.forall_mem_singleton.mpr (shows_string plain text), ?_⟩
    rintro strict written value head
    cases (writeValue_string plain text).symm.trans value
    exact apart ⟨strict, (head_quote_eq_iff text.toList).mp head⟩
  refine (Group.allBags_mk _ _ _ _).mpr ⟨List.forall_mem_singleton.mpr ?_, fun _ mem => absurd mem List.not_mem_nil⟩
  refine ⟨isName, rfl, ⟨field, known⟩, fun other found => ?_⟩
  obtain rfl : field = other := Option.some.inj (known.symm.trans found)
  exact List.forall_mem_singleton.mpr recovers

theorem problems_comparing (known : schema.field? name = some field) (accepts : field.acceptsComparisons = true)
    (room : 1 ≤ field.limit limits) : (⟨schema, comparing logical name op text view⟩ : Condition).problems limits = [] := by
  refine (Validation.groupProblems_mk_eq_nil_iff _ _ _ _ _ _).mpr ⟨List.forall_mem_singleton.mpr ?_,
    Nat.zero_le _, fun some => absurd rfl some, fun _ mem => absurd mem List.not_mem_nil⟩
  refine ⟨field, known, List.forall_mem_singleton.mpr ?_, room⟩
  exact if_pos accepts

theorem export_comparing (known : schema.field? name = some field) (accepts : field.acceptsComparisons = true)
    (plain : field.view = none) (room : 1 ≤ field.limit limits) :
    (⟨schema, comparing logical name op text view⟩ : Condition).exportBy write limits =
      .ok (String.ofList (textOf logical [comparisonText name op text])) := by
  rw [Condition.exportBy_eq_write (problems_comparing known accepts room)]
  exact write_comparing known plain

/-- A valid tree whose bags can be recovered is written as a text that is read as that tree but for its views. -/
theorem exists_reading {root : Group} (valid : (⟨schema, root⟩ : Condition).problems limits = [])
    (all : root.AllBags (Recoverable schema)) :
    ∃ written d, (⟨schema, root⟩ : Condition).exportBy write limits = .ok written ∧
      read schema limits written = .ok d ∧ d.root.withoutViews = root.withoutViews := by
  obtain ⟨written, output, tree, parsed, found, stands, same⟩ := exists_recovered all
  have validAgain := Condition.problems_of_withoutViews same valid
  refine ⟨written, ⟨schema, found⟩, ?_, ?_, same⟩
  · rw [Condition.exportBy_eq_write valid]
    exact output
  · exact (read_eq_ok_iff schema limits written _).mpr ⟨tree, parsed, found, stands, validAgain, rfl⟩

/-! ## Signs without a value -/

theorem misses_scalar {c : Char} (special : isSpecial c = true) (noQuote : c ≠ '"') (rest : List Char) :
    Misses scalar (c :: rest) := by
  have quoted : Misses quotedText (c :: rest) := misses_quotedText fun same => noQuote (Option.some.inj same)
  have bare : Misses (run fun d => !isSpecial d) (c :: rest) := misses_run fun d head => by
    cases head
    rw [special]
    rfl
  exact quoted.node.bind.orElse bare.node.bind

theorem exists_head_sign (op : Operator) : ∃ c cs, op.sign.toList = c :: cs ∧ (c = '>' ∨ c = '<') := by
  cases op with
  | greater => exact ⟨'>', [], rfl, .inl rfl⟩
  | lower => exact ⟨'<', [], rfl, .inr rfl⟩
  | greaterOrEqual => exact ⟨'>', ['='], rfl, .inl rfl⟩
  | lowerOrEqual => exact ⟨'<', ['='], rfl, .inr rfl⟩
  | notEqual => exact ⟨'<', ['>'], rfl, .inr rfl⟩

theorem solid_sign (op : Operator) (rest : List Char) : Solid (op.sign.toList ++ rest) := by
  obtain ⟨c, cs, sign, rfl | rfl⟩ := exists_head_sign op <;> rw [sign] <;> exact solid_cons rfl _

theorem head_sign_ne (op : Operator) (rest : List Char) {c : Char} (noGreater : c ≠ '>') (noLower : c ≠ '<') :
    (op.sign.toList ++ rest).head? ≠ some c := by
  obtain ⟨d, cs, sign, angle⟩ := exists_head_sign op
  rw [sign]
  rintro same
  cases same
  rcases angle with greater | lower
  · exact noGreater greater
  · exact noLower lower

theorem misses_scalar_sign (op : Operator) (rest : List Char) : Misses scalar (op.sign.toList ++ rest) := by
  obtain ⟨c, cs, sign, rfl | rfl⟩ := exists_head_sign op <;> rw [sign] <;> exact misses_scalar rfl (by simp) _

/-- A sign without a value behind it is no entry. -/
theorem misses_entry_sign (op : Operator) (rest : List Char) : Misses entry (op.sign.toList ++ ';' :: rest) := by
  have noScalar := misses_scalar_sign op (';' :: rest)
  have operator : Finds compareOperator (op.sign.toList ++ ';' :: rest) (';' :: rest) fun found => found.2 = op :=
    finds_compareOperator (by simp) (by simp)
  refine misses_oneOf ?_
  simp only [List.forall_mem_cons, List.not_mem_nil, false_implies, implies_true, and_true]
  refine ⟨(misses_matchNode (head_sign_ne op _ (by simp) (by simp))).map, ?_, misses_excludedRange (head_sign_ne op _ (by simp) (by simp)),
    misses_excludedEntry (head_sign_ne op _ (by simp) (by simp)), ?_, noScalar.node.bind⟩
  · refine Misses.bind (Misses.node (operator.bind_misses fun _ _ => ?_))
    refine (finds_gap_nothing (solid_cons rfl rest)).bind_misses fun _ _ => ?_
    exact (misses_scalar rfl (by simp) rest).bind
  · refine Misses.map (Misses.bind (Misses.node ?_))
    refine (finds_optional_none (misses_char (head_sign_ne op _ (by simp) (by simp))).mark).bind_misses fun _ _ => ?_
    exact (finds_gap_nothing (solid_sign op _)).bind_misses fun _ _ => noScalar.bind

theorem misses_statement_sign {name : List Char} (isName : IsName name) (op : Operator) (rest : List Char)
    (fuel : Nat) : Misses (statement fuel) (name ++ ':' :: ' ' :: (op.sign.toList ++ ';' :: rest)) := by
  have noEntries : Misses (entryList fuel) (op.sign.toList ++ ';' :: rest) :=
    Misses.node (misses_entry_sign op rest).bind
  have noEnd : Misses (oneOf [char ';', ahead (char ')'), ahead (mark ending)]) (op.sign.toList ++ ';' :: rest) := by
    refine misses_oneOf ?_
    simp only [List.forall_mem_cons, List.not_mem_nil, false_implies, implies_true, and_true]
    refine ⟨misses_char (head_sign_ne op _ (by simp) (by simp)), misses_ahead (misses_char (head_sign_ne op _ (by simp) (by simp))), ?_⟩
    obtain ⟨c, cs, sign, -⟩ := exists_head_sign op
    rw [sign]
    exact misses_ahead (misses_ending c _).mark
  refine Misses.bind (Misses.node ?_)
  refine (finds_fieldName isName _).bind_misses fun _ _ => ?_
  refine (finds_gap_nothing (solid_cons rfl _)).bind_misses fun _ _ => ?_
  refine (finds_char ':' _).bind_misses fun _ _ => ?_
  refine (finds_gap_blank (solid_sign op _)).bind_misses fun _ _ => ?_
  refine (finds_optional_none noEntries).bind_misses fun _ _ => ?_
  exact (finds_gap_nothing (solid_sign op _)).bind_misses fun _ _ => noEnd.bind

theorem exists_head_name {name : List Char} (isName : IsName name) :
    ∃ c cs, name = c :: cs ∧ isNameStart c = true := by
  obtain ⟨⟨c, head, start⟩, -⟩ := isName
  cases name with
  | nil => cases head
  | cons d name =>
      cases head
      exact ⟨c, name, rfl, start⟩

/-- What begins with a name is no item unless it is a statement. -/
theorem misses_item_of_statement {name : List Char} (isName : IsName name) {rest : List Char} {fuel : Nat}
    (miss : Misses (statement fuel) (name ++ rest)) : Misses (item (fuel + 1)) (name ++ rest) := by
  obtain ⟨c, cs, rfl, start⟩ := exists_head_name isName
  have other {d : Char} (noStart : isNameStart d = false) : (c :: cs ++ rest).head? ≠ some d :=
    head_ne_of_isNameStart start noStart _
  refine misses_oneOf ?_
  simp only [List.forall_mem_cons, List.not_mem_nil, false_implies, implies_true, and_true]
  refine ⟨miss.map, ?_, Misses.map ((misses_char (other rfl)).orElse (misses_char (other rfl)))⟩
  exact (misses_groupOf (solid_cons (isGap_of_isNameStart start) _) (other rfl) (other rfl) _).map

/-- A query is not read if it goes on where no item is found. -/
theorem misses_query {c : Char} {text : List Char} (noStar : c ≠ '*') (noGap : isGap c = false) {fuel : Nat}
    (miss : Misses (item fuel) (c :: text)) (logical : Logical) :
    Misses (query fuel) (textOf logical [c :: text]) := by
  have begins : BeginsPart (c :: text) := .inl ⟨c, text, rfl, noStar, noGap⟩
  have noItems (anyMark : Option Span) :
      Misses (do let items ← items fuel; gap; let ending ← mark ending; return (anyMark, items, ending))
        (c :: text) := by
    have none : Finds (items fuel) (c :: text) (c :: text) fun _ => True :=
      (finds_many_none fuel miss).bind fun _ _ => finds_pure trivial _
    refine none.bind_misses fun _ _ => ?_
    refine (finds_gap_nothing begins.solid).bind_misses fun _ _ => ?_
    exact (misses_ending c text).mark.bind
  refine Misses.bind (Misses.node ?_)
  cases logical with
  | all =>
      rw [textOf, joinTexts_cons, List.flatMap_nil, List.append_nil]
      refine (finds_gap_nothing begins.solid).bind_misses fun _ _ => ?_
      refine (finds_optional_none begins.misses_rootMark).bind_misses fun anyMark _ => ?_
      exact (finds_gap_nothing begins.solid).bind_misses fun _ _ => noItems anyMark
  | any =>
      rw [textOf, joinTexts_cons, List.flatMap_singleton]
      refine (finds_gap_nothing (solid_cons rfl _)).bind_misses fun _ _ => ?_
      refine (finds_optional_some (finds_rootMark _)).bind_misses fun anyMark _ => ?_
      exact (finds_gap_blank begins.solid).bind_misses fun _ _ => noItems anyMark

theorem not_parsed_of_misses {text : List Char} (miss : Misses (query (text.length + 1)) text) (tree : QueryNode) :
    parse text ≠ .ok tree := by
  have missed := miss 0
  rw [parse, Cursor.start]
  cases outcome : query (text.length + 1) ⟨text, 0⟩ with
  | mk reach found =>
      rw [outcome] at missed
      cases missed
      intro parsed
      cases parsed

/-- A query of a name and a sign without a value is not read. -/
theorem not_read_sign (isName : IsName name.toList) (op : Operator) (logical : Logical) (c : Condition) :
    read schema limits (String.ofList (textOf logical [name.toList ++ ':' :: ' ' :: (op.sign.toList ++ [';'])])) ≠
      .ok c := by
  intro accepted
  obtain ⟨tree, parsed, -⟩ := (read_eq_ok_iff _ _ _ _).mp accepted
  rw [String.toList_ofList] at parsed
  refine not_parsed_of_misses ?_ tree parsed
  have missed (fuel : Nat) := misses_item_of_statement isName (misses_statement_sign isName op [] fuel)
  obtain ⟨c, cs, begins, start⟩ := exists_head_name isName
  rw [begins] at missed ⊢
  refine misses_query ?_ (isGap_of_isNameStart start) (missed _) logical
  rintro rfl
  cases start

/-! ## The clash -/

/-- The operator that the sign of an operator makes with an equality sign. -/
def widened : Operator → Operator
  | .greater => .greaterOrEqual
  | .lower => .lowerOrEqual
  | op => op

theorem sign_widened (strict : op = .greater ∨ op = .lower) :
    (widened op).sign.toList = op.sign.toList ++ ['='] := by
  rcases strict with rfl | rfl <;> rfl

theorem widened_not_strict (op : Operator) : ¬ (widened op = .greater ∨ widened op = .lower) := by
  cases op <;> simp [widened]

theorem quote_of_bare {text : List Char} (some : text ≠ []) (bare : text.any isSpecial = false) : quote text = text := by
  rw [quote_eq, if_neg (not_needsQuotes_iff_any.mpr ⟨some, bare⟩)]

/-- A sign that runs into a text makes what would be written of another comparison, or of none. -/
theorem comparisonText_of_runsInto (clash : RunsInto op text) :
    ∃ rest, text.toList = '=' :: rest ∧
      (rest ≠ [] → ∀ name, comparisonText name op text = comparisonText name (widened op) (String.ofList rest)) ∧
      (rest = [] → ∀ name, comparisonText name op text =
        name.toList ++ ':' :: ' ' :: ((widened op).sign.toList ++ [';'])) := by
  obtain ⟨strict, head, bare⟩ := clash
  cases chars : text.toList with
  | nil =>
      rw [chars] at head
      cases head
  | cons c rest =>
      rw [chars] at head bare
      cases head
      have plain : quote ('=' :: rest) = '=' :: rest := quote_of_bare (List.cons_ne_nil _ _) bare
      refine ⟨rest, rfl, fun some name => ?_, fun none name => ?_⟩
      · have others : quote rest = rest := quote_of_bare some (Bool.or_eq_false_iff.mp bare).2
        rw [comparisonText, comparisonText, chars, plain, sign_widened strict, String.toList_ofList, others]
        simp
      · rw [comparisonText, chars, plain, sign_widened strict, none]
        simp

theorem isName_of_reading {written : String} {c : Condition} (accepted : read schema limits written = .ok c)
    (same : c.root.withoutViews = (comparing logical name op text view).withoutViews) : IsName name.toList := by
  obtain ⟨tree, parsed, root, found, -, rfl⟩ := (read_eq_ok_iff _ _ _ _).mp accepted
  have proper := proper_of_unrestricted? parsed found
  rcases root with ⟨other, fields, groups⟩
  rw [comparing, Group.withoutViews_mk, Group.withoutViews_mk, Group.mk.injEq] at same
  have entries := congrArg Keyed.entries same.2.1
  rw [Keyed.entries_map, Keyed.entries_map, List.map_singleton] at entries
  obtain ⟨bag, others, here, first, -⟩ := List.map_eq_cons_iff.mp entries
  have stands := ((Group.allBags_mk _ _ _ _).mp proper).1 bag (here ▸ List.mem_cons_self)
  have sameName : bag.1 = name := congrArg Prod.fst first
  exact sameName ▸ stands.1

theorem operator_of_withoutViews {other : Operator} {otherText otherView : String}
    (same : (comparing logical name op text view).withoutViews =
      (comparing logical name other otherText otherView).withoutViews) : op = other := by
  rw [comparing, comparing, Group.withoutViews_mk, Group.withoutViews_mk, Group.mk.injEq] at same
  have entries := congrArg Keyed.entries same.2.1
  rw [Keyed.entries_map, Keyed.entries_map, List.map_singleton, List.map_singleton] at entries
  have bags := congrArg Prod.snd (List.singleton_inj.mp entries)
  have comparisons := congrArg Bag.comparisons bags
  exact congrArg Comparison.operator (List.singleton_inj.mp comparisons)

/-- A comparison with a text is written as a text that is read as that comparison exactly if the grammar can read
the name of the field and the sign does not run into the text. -/
theorem comparison_read_back_iff (known : schema.field? name = some field) (accepts : field.acceptsComparisons = true)
    (plain : field.view = none) (room : 1 ≤ field.limit limits) (logical : Logical) (op : Operator)
    (text view : String) :
    (∃ written c, (⟨schema, comparing logical name op text view⟩ : Condition).exportBy write limits = .ok written ∧
      read schema limits written = .ok c ∧
        c.root.withoutViews = (comparing logical name op text view).withoutViews) ↔
      IsName name.toList ∧ ¬ RunsInto op text := by
  constructor
  · rintro ⟨written, c, output, accepted, same⟩
    have isName := isName_of_reading accepted same
    refine ⟨isName, fun clash => ?_⟩
    cases (export_comparing known accepts plain room).symm.trans output
    obtain ⟨rest, chars, runsOn, stops⟩ := comparisonText_of_runsInto clash
    by_cases none : rest = []
    · rw [stops none name] at accepted
      exact not_read_sign isName (widened op) logical c accepted
    · -- the text is that of another comparison, which it is read as
      rw [runsOn none name] at accepted
      have apart : ¬ RunsInto (widened op) (String.ofList rest) := fun clash => widened_not_strict op clash.1
      have all : (comparing logical name (widened op) (String.ofList rest) view).AllBags (Recoverable schema) :=
        recoverable_comparing known plain isName apart
      obtain ⟨written, d, outputAgain, acceptedAgain, sameAgain⟩ :=
        exists_reading (problems_comparing known accepts room) all
      cases (export_comparing known accepts plain room).symm.trans outputAgain
      cases accepted.symm.trans acceptedAgain
      have unchanged : op = widened op := operator_of_withoutViews (same.symm.trans sameAgain)
      exact widened_not_strict op (unchanged ▸ clash.1)
  · rintro ⟨isName, apart⟩
    exact exists_reading (problems_comparing known accepts room) (recoverable_comparing known plain isName apart)

/-- A field of texts that accepts comparisons. -/
def label : Field :=
  { Field.plain "t" with acceptsComparisons := true }

/-- The schema with this field alone. -/
def labels : Schema :=
  ⟨"labels", [label], List.nodup_singleton _⟩

/-- A text with a blank is quoted, so an equality sign at its beginning does no harm. -/
theorem comparison_read_back_iff_labels :
    ∃ written c, (⟨labels, comparing .all "t" .greater "= x" ""⟩ : Condition).exportBy write ⟨1, 1, 1⟩ = .ok written ∧
      read labels ⟨1, 1, 1⟩ written = .ok c ∧
        c.root.withoutViews = (comparing .all "t" .greater "= x" "").withoutViews := by
  have isName : IsName "t".toList := ⟨⟨'t', rfl, rfl⟩, List.forall_mem_singleton.mpr rfl⟩
  have room : 1 ≤ label.limit ⟨1, 1, 1⟩ := Nat.le_refl 1
  refine (comparison_read_back_iff (show labels.field? "t" = some label from rfl) rfl rfl room .all .greater "= x" "").mpr
    ⟨isName, ?_⟩
  rintro ⟨-, -, bare⟩
  cases bare

/-- Greater than a text is read as greater than or equal to another one. -/
theorem comparison_read_as_another :
    (⟨labels, comparing .all "t" .greater "=x" ""⟩ : Condition).exportBy write ⟨1, 1, 1⟩ = .ok "t: >=x;" ∧
      ∃ c, read labels ⟨1, 1, 1⟩ "t: >=x;" = .ok c ∧
        c.root.withoutViews = (comparing .all "t" .greaterOrEqual "x" "").withoutViews := by
  have known : labels.field? "t" = some label := rfl
  have isName : IsName "t".toList := ⟨⟨'t', rfl, rfl⟩, List.forall_mem_singleton.mpr rfl⟩
  have room : 1 ≤ label.limit ⟨1, 1, 1⟩ := Nat.le_refl 1
  refine ⟨rfl, ?_⟩
  have all : (comparing .all "t" .greaterOrEqual "x" "").AllBags (Recoverable labels) :=
    recoverable_comparing known rfl isName fun clash => widened_not_strict .greater clash.1
  obtain ⟨written, c, output, accepted, same⟩ := exists_reading (problems_comparing known rfl room) all
  cases (export_comparing known rfl rfl room).symm.trans output
  exact ⟨c, accepted, same⟩

end Criteria.Query
