import Criteria.Proofs.Sql.History
import Criteria.Proofs.Sql.Layout

/-!
# Quoted identifiers

A delimited identifier reaches up to the first closing delimiter that is not doubled, and what is quoted is read like
this as a whole.  As the text around the columns of a clause has no delimiters of its own, and one of its characters
follows every column, a clause with quoted columns is read as the same text with the same columns in it, whatever
identifiers these have.
-/

namespace Criteria.Sql

namespace Platform

/-! ## Delimited identifiers -/

/-- What stands in front of the first closing delimiter that is not doubled, with one for every doubled one, and what
stands behind it. -/
def untilClosing (closing : Char) : List Char → Option (List Char × List Char)
  | [] => none
  | [c] => if c = closing then some ([], []) else none
  | c :: d :: rest =>
      if c = closing then
        if d = closing then (untilClosing closing rest).map (Prod.map (c :: ·) id)
        else some ([], d :: rest)
      else (untilClosing closing (d :: rest)).map (Prod.map (c :: ·) id)

/-- The delimited identifier that a text begins with, and the text behind it. -/
def readIdentifier? (p : Platform) : List Char → Option (String × List Char)
  | [] => none
  | c :: rest =>
      if c = p.delimiters.1 then (untilClosing p.delimiters.2 rest).map (Prod.map String.ofList id) else none

theorem doubled_cons_closing (closing : Char) (identifier : List Char) :
    doubled closing (closing :: identifier) = closing :: closing :: doubled closing identifier := by
  rw [doubled, List.flatMap_cons, if_pos rfl]
  rfl

theorem doubled_cons_of_ne {closing c : Char} (other : c ≠ closing) (identifier : List Char) :
    doubled closing (c :: identifier) = c :: doubled closing identifier := by
  rw [doubled, List.flatMap_cons, if_neg other]
  rfl

/-- The characters of an identifier are read back one by one, whatever stands behind them. -/
theorem untilClosing_doubled (closing : Char) (identifier text : List Char) :
    untilClosing closing (doubled closing identifier ++ text) =
      (untilClosing closing text).map (Prod.map (identifier ++ ·) id) := by
  induction identifier with
  | nil => exact (congrFun Option.map_id (untilClosing closing text)).symm
  | cons c identifier ih =>
      have step : untilClosing closing (doubled closing (c :: identifier) ++ text) =
          (untilClosing closing (doubled closing identifier ++ text)).map (Prod.map (c :: ·) id) := by
        by_cases same : c = closing
        · rw [same, doubled_cons_closing, List.cons_append, List.cons_append, untilClosing, if_pos rfl, if_pos rfl]
        · rw [doubled_cons_of_ne same, List.cons_append]
          cases doubled closing identifier ++ text with
          | nil => exact if_neg same
          | cons d rest => rw [untilClosing, if_neg same]
      rw [step, ih, Option.map_map]
      rfl

theorem untilClosing_closing {closing : Char} {rest : List Char} (apart : ∀ c ∈ rest.head?, c ≠ closing) :
    untilClosing closing (closing :: rest) = some ([], rest) := by
  cases rest with
  | nil => exact if_pos rfl
  | cons d rest => rw [untilClosing, if_pos rfl, if_neg (apart d rfl)]

theorem eq_of_untilClosing {closing : Char} {text identifier rest : List Char}
    (read : untilClosing closing text = some (identifier, rest)) :
    text = doubled closing identifier ++ closing :: rest ∧ ∀ c ∈ rest.head?, c ≠ closing := by
  induction text using untilClosing.induct closing generalizing identifier with
  | case1 => cases read
  | case2 =>
      rw [untilClosing, if_pos rfl] at read
      cases read
      exact ⟨rfl, fun _ none => nomatch none⟩
  | case3 c other =>
      rw [untilClosing, if_neg other] at read
      cases read
  | case4 text ih =>
      rw [untilClosing, if_pos rfl, if_pos rfl, Option.map_eq_some_iff] at read
      obtain ⟨⟨identifier, behind⟩, found, same⟩ := read
      cases same
      obtain ⟨rfl, apart⟩ := ih found
      exact ⟨by rw [doubled_cons_closing]; rfl, apart⟩
  | case5 d text other =>
      rw [untilClosing, if_pos rfl, if_neg other] at read
      cases read
      refine ⟨rfl, ?_⟩
      rintro _ ⟨⟩
      exact other
  | case6 c d text other ih =>
      rw [untilClosing, if_neg other, Option.map_eq_some_iff] at read
      obtain ⟨⟨identifier, behind⟩, found, same⟩ := read
      cases same
      obtain ⟨written, apart⟩ := ih found
      exact ⟨by rw [written, doubled_cons_of_ne other]; rfl, apart⟩

theorem toList_quoteIdentifier (p : Platform) (identifier : String) :
    (p.quoteIdentifier identifier).toList =
      p.delimiters.1 :: (doubled p.delimiters.2 identifier.toList ++ [p.delimiters.2]) :=
  String.toList_ofList

/-- An identifier is read from its quoted text and from no other, and never if the text behind it begins with the
closing delimiter. -/
theorem readIdentifier?_eq_some_iff (p : Platform) (text : List Char) (identifier : String) (rest : List Char) :
    p.readIdentifier? text = some (identifier, rest) ↔
      text = (p.quoteIdentifier identifier).toList ++ rest ∧ ∀ c ∈ rest.head?, c ≠ p.delimiters.2 := by
  rw [toList_quoteIdentifier, List.cons_append, List.append_assoc, List.singleton_append]
  constructor
  · intro read
    cases text with
    | nil => cases read
    | cons c text =>
        by_cases opening : c = p.delimiters.1
        · rw [readIdentifier?, if_pos opening, Option.map_eq_some_iff] at read
          obtain ⟨⟨name, behind⟩, found, same⟩ := read
          cases same
          obtain ⟨rfl, apart⟩ := eq_of_untilClosing found
          exact ⟨by rw [opening, String.toList_ofList]; rfl, apart⟩
        · rw [readIdentifier?, if_neg opening] at read
          cases read
  · rintro ⟨rfl, apart⟩
    rw [readIdentifier?, if_pos rfl, untilClosing_doubled, untilClosing_closing apart, Option.map_some, Option.map_some,
      Prod.map, Prod.map, List.append_nil, String.ofList_toList]
    rfl

theorem readIdentifier?_quoteIdentifier (p : Platform) (identifier : String) :
    p.readIdentifier? (p.quoteIdentifier identifier).toList = some (identifier, []) :=
  (p.readIdentifier?_eq_some_iff _ _ _).mpr ⟨(List.append_nil _).symm, fun _ none => nomatch none⟩

/-- Different identifiers have different quoted texts. -/
theorem quoteIdentifier_injective (p : Platform) : Function.Injective p.quoteIdentifier := by
  intro first second same
  have read := p.readIdentifier?_quoteIdentifier first
  rw [same, p.readIdentifier?_quoteIdentifier second] at read
  cases read
  rfl

/-! ## Texts with identifiers in them -/

/-- A piece of a text as a database reads it. -/
inductive Atom where
  | char (c : Char)
  | identifier (name : String)
  deriving DecidableEq

/-- What identifies the columns of fields. -/
abbrev Naming : Type :=
  String → String

/-- Replaces the name of a field by what identifies its column. -/
def Atom.rename (names : Naming) : Atom → Atom
  | char c => char c
  | identifier name => identifier (names name)

/-- A text reads as its characters, apart from the delimited identifiers in it. -/
inductive Reads (p : Platform) : List Char → List Atom → Prop where
  | nil : Reads p [] []
  | char {c : Char} {rest : List Char} {atoms : List Atom} (outside : c ≠ p.delimiters.1)
      (others : Reads p rest atoms) : Reads p (c :: rest) (.char c :: atoms)
  | identifier {text rest : List Char} {name : String} {atoms : List Atom}
      (found : p.readIdentifier? text = some (name, rest)) (others : Reads p rest atoms) :
      Reads p text (.identifier name :: atoms)

theorem readIdentifier?_of_outside {p : Platform} {c : Char} (outside : c ≠ p.delimiters.1) (rest : List Char) :
    p.readIdentifier? (c :: rest) = none :=
  if_neg outside

/-- There is only one way to read a text. -/
theorem Reads.unique {p : Platform} {text : List Char} {atoms others : List Atom} (first : p.Reads text atoms)
    (second : p.Reads text others) : atoms = others := by
  induction first generalizing others with
  | nil =>
      cases second with
      | nil => rfl
      | identifier found _ => cases found
  | char outside _ ih =>
      cases second with
      | char _ later => rw [ih later]
      | identifier found _ =>
          rw [readIdentifier?_of_outside outside] at found
          cases found
  | identifier found _ ih =>
      cases second with
      | nil => cases found
      | char outside _ =>
          rw [readIdentifier?_of_outside outside] at found
          cases found
      | identifier again later =>
          rw [found] at again
          cases again
          rw [ih later]

/-- A text in which no database finds a delimiter. -/
def IsBare (text : String) : Prop :=
  ∀ c ∈ text.toList, c ∉ ['"', '\x60', '[', ']']

instance (text : String) : Decidable (IsBare text) :=
  List.decidableBAll _ text.toList

theorem isBare_empty : IsBare "" := by
  decide

theorem IsBare.append {a b : String} (first : IsBare a) (second : IsBare b) : IsBare (a ++ b) := by
  rw [IsBare, String.toList_append, List.forall_mem_append]
  exact ⟨first, second⟩

theorem IsBare.ne_delimiters {text : String} (bare : IsBare text) (p : Platform) :
    ∀ c ∈ text.toList, c ≠ p.delimiters.1 ∧ c ≠ p.delimiters.2 := by
  intro c mem
  have other := bare c mem
  constructor <;>
    · rintro rfl
      cases p <;> exact other (by decide)

variable {p : Platform}

theorem Reads.outside {text : List Char} (outside : ∀ c ∈ text, c ≠ p.delimiters.1) {rest : List Char}
    {atoms : List Atom} (others : p.Reads rest atoms) : p.Reads (text ++ rest) (text.map .char ++ atoms) := by
  induction text with
  | nil => exact others
  | cons c text ih =>
      obtain ⟨first, later⟩ := List.forall_mem_cons.mp outside
      exact .char first (ih later)

theorem Reads.bare {text : String} (bare : IsBare text) {rest : List Char} {atoms : List Atom}
    (others : p.Reads rest atoms) : p.Reads (text.toList ++ rest) (text.toList.map .char ++ atoms) :=
  others.outside fun c mem => (bare.ne_delimiters p c mem).1

/-! ## Texts that are read alike -/

/-- In front of any other text a text with columns in it is read in one way, whatever identifies these. -/
def Steady (p : Platform) (text : Naming → String) : Prop :=
  ∃ template : List Atom, ∀ names rest atoms, p.Reads rest atoms →
    p.Reads ((text names).toList ++ rest) (template.map (Atom.rename names) ++ atoms)

theorem map_rename_char (names : Naming) (text : List Char) :
    (text.map Atom.char).map (Atom.rename names) = text.map .char := by
  rw [List.map_map]
  rfl

theorem steady_bare {text : String} (bare : IsBare text) : p.Steady fun _ => text := by
  refine ⟨text.toList.map .char, fun names rest atoms others => ?_⟩
  rw [map_rename_char]
  exact others.bare bare

theorem Steady.append {a b : Naming → String} (first : p.Steady a) (second : p.Steady b) :
    p.Steady fun names => a names ++ b names := by
  obtain ⟨before, readsFirst⟩ := first
  obtain ⟨behind, readsSecond⟩ := second
  refine ⟨before ++ behind, fun names rest atoms others => ?_⟩
  rw [String.toList_append, List.append_assoc, List.map_append, List.append_assoc]
  exact readsFirst names _ _ (readsSecond names _ _ others)

/-- What stands for a column: with any text behind it that has no delimiters it is read in one way, whatever identifies
the columns. -/
def IsColumn (p : Platform) (column : Naming → String) : Prop :=
  ∀ behind, behind ≠ "" → IsBare behind → p.Steady fun names => column names ++ behind

theorem isColumn_bare {text : String} (bare : IsBare text) : p.IsColumn fun _ => text :=
  fun _ _ behind => steady_bare (bare.append behind)

theorem isColumn_quoteIdentifier (p : Platform) (name : String) :
    p.IsColumn fun names => p.quoteIdentifier (names name) := by
  intro behind some bare
  refine ⟨.identifier name :: behind.toList.map .char, fun names rest atoms others => ?_⟩
  rw [String.toList_append, List.append_assoc, List.map_cons, map_rename_char]
  refine .identifier ((p.readIdentifier?_eq_some_iff _ _ _).mpr ⟨rfl, ?_⟩) (others.bare bare)
  have apart := bare.ne_delimiters p
  cases text : behind.toList with
  | nil => exact absurd (String.toList_eq_nil_iff.mp text) some
  | cons c text' =>
      rw [text] at apart
      rintro _ ⟨⟩
      exact (apart c List.mem_cons_self).2

end Platform

/-! ## Layouts that are read alike -/

namespace Layout

open Platform

variable {p : Platform}

/-- A layout with the same values whatever identifies the columns in it, whose text is read in one way. -/
structure Steady (p : Platform) (l : Naming → Layout) : Prop where
  values : ∀ names others, (l names).values = (l others).values
  nil : ∀ names others, l names = [] → l others = []
  text : ∀ n, p.Steady fun names => (l names).fill p n

theorem steady_nil : Steady p fun _ => [] where
  values _ _ := rfl
  nil _ _ none := none
  text _ := steady_bare isBare_empty

theorem steady_text {text : Naming → String} (steady : p.Steady text) : Steady p fun names => [.text (text names)] where
  values _ _ := rfl
  nil _ _ none := nomatch none
  text _ := steady.append (steady_bare isBare_empty)

theorem isBare_placeholder (p : Platform) (n : Nat) : IsBare (p.placeholder n) := by
  by_cases numbered : p = .postgres
  · rw [numbered, IsBare, toList_placeholder_postgres, List.forall_mem_cons]
    refine ⟨by decide, fun c mem delimiter => ?_⟩
    have digit : c.isDigit = true := Nat.isDigit_of_mem_toDigits (by decide) (by decide) mem
    simp only [List.mem_cons, List.not_mem_nil, or_false] at delimiter
    rcases delimiter with rfl | rfl | rfl | rfl <;> exact absurd digit (by decide)
  · rw [IsBare, toList_placeholder n numbered]
    exact List.forall_mem_singleton.mpr (by decide)

theorem steady_value (v : Value) : Steady p fun _ => [.value v] where
  values _ _ := rfl
  nil _ _ none := nomatch none
  text n := steady_bare ((isBare_placeholder p n).append isBare_empty)

theorem Steady.append {a b : Naming → Layout} (first : Steady p a) (second : Steady p b) :
    Steady p fun names => a names ++ b names where
  values names others := by rw [values_append, values_append, first.values names others, second.values names others]
  nil names others none := by
    obtain ⟨noneFirst, noneSecond⟩ := List.append_eq_nil_iff.mp none
    exact List.append_eq_nil_iff.mpr ⟨first.nil names others noneFirst, second.nil names others noneSecond⟩
  text n := by
    -- The placeholders of the second layout are counted from those of the first one.
    have same (names : Naming) : (a names ++ b names).fill p n =
        (a names).fill p n ++ (b names).fill p (n + (a id).values.length) := by
      rw [fill_append, first.values names id]
    simp only [same]
    exact (first.text n).append (second.text _)

theorem Steady.paren {l : Naming → Layout} (steady : Steady p l) : Steady p fun names => paren (l names) :=
  (steady_text (steady_bare (by decide : IsBare "("))).append
    (steady.append (steady_text (steady_bare (by decide : IsBare ")"))))

/-- Layouts, the same ones whatever identifies the columns in them. -/
def AllSteady (p : Platform) (layouts : Naming → List Layout) : Prop :=
  ∃ parts : List (Naming → Layout), (∀ l ∈ parts, Steady p l) ∧ ∀ names, layouts names = parts.map (· names)

theorem allSteady_map {α : Type} {layout : α → Naming → Layout} {xs : List α}
    (steady : ∀ x ∈ xs, Steady p (layout x)) : AllSteady p fun names => xs.map (layout · names) := by
  refine ⟨xs.map layout, List.forall_mem_map.mpr steady, fun names => ?_⟩
  rw [List.map_map]
  rfl

theorem AllSteady.append {first second : Naming → List Layout} (steadyFirst : AllSteady p first)
    (steadySecond : AllSteady p second) : AllSteady p fun names => first names ++ second names := by
  obtain ⟨parts, steady, same⟩ := steadyFirst
  obtain ⟨others, alsoSteady, alsoSame⟩ := steadySecond
  refine ⟨parts ++ others, List.forall_mem_append.mpr ⟨steady, alsoSteady⟩, fun names => ?_⟩
  simp only [same, alsoSame, List.map_append]

theorem AllSteady.paren {layouts : Naming → List Layout} (steady : AllSteady p layouts) :
    AllSteady p fun names => (layouts names).map Layout.paren := by
  obtain ⟨parts, steady, same⟩ := steady
  refine ⟨parts.map fun l names => Layout.paren (l names), List.forall_mem_map.mpr fun l mem => (steady l mem).paren,
    fun names => ?_⟩
  simp only [same, List.map_map]
  rfl

theorem AllSteady.filled {layouts : Naming → List Layout} (steady : AllSteady p layouts) :
    AllSteady p fun names => (layouts names).filter fun l => !l.isEmpty := by
  obtain ⟨parts, steady, same⟩ := steady
  refine ⟨parts.filter fun l => !(l id).isEmpty, fun l mem => steady l (List.mem_of_mem_filter mem), fun names => ?_⟩
  simp only [same, List.filter_map]
  refine congrArg _ (List.filter_congr fun l mem => ?_)
  have alike : l names = [] ↔ l id = [] := ⟨(steady l mem).nil names id, (steady l mem).nil id names⟩
  rw [Bool.eq_iff_iff]
  simp [alike]

theorem steady_joined {keyword : String} (bare : IsBare keyword) {parts : List (Naming → Layout)}
    (steady : ∀ l ∈ parts, Steady p l) : Steady p fun names => joined keyword (parts.map (· names)) := by
  have between : IsBare (" " ++ keyword ++ " ") :=
    ((by decide : IsBare " ").append bare).append (by decide)
  induction parts with
  | nil => exact steady_nil
  | cons first parts ih =>
      obtain ⟨here, later⟩ := List.forall_mem_cons.mp steady
      cases parts with
      | nil => simpa only [List.map_cons, List.map_nil, joined, List.intercalate_singleton] using here
      | cons second parts =>
          simp only [List.map_cons, joined_cons_cons]
          exact here.append ((steady_text (steady_bare between)).append (ih later))

theorem AllSteady.joined {keyword : String} (bare : IsBare keyword) {layouts : Naming → List Layout}
    (steady : AllSteady p layouts) : Steady p fun names => joined keyword (layouts names) := by
  obtain ⟨parts, steady, same⟩ := steady
  simp only [same]
  exact steady_joined bare steady

theorem AllSteady.combined {admits narrows : Naming → List Layout} (first : AllSteady p admits)
    (second : AllSteady p narrows) : Steady p fun names => combined (admits names) (narrows names) := by
  obtain ⟨parts, steady, same⟩ := first
  obtain ⟨others, alsoSteady, alsoSame⟩ := second
  have both : IsBare "AND" := by decide
  have widened := steady_joined (by decide : IsBare "OR") steady
  simp only [same, alsoSame]
  match parts, others with
  | [], _ => exact steady_joined both alsoSteady
  | _ :: _, [] => exact widened
  | [_], _ :: _ =>
      exact steady_joined both (List.forall_mem_cons.mpr ⟨List.forall_mem_singleton.mp steady, alsoSteady⟩)
  | _ :: _ :: _, _ :: _ => exact steady_joined both (List.forall_mem_cons.mpr ⟨widened.paren, alsoSteady⟩)

/-! ## Tests of columns -/

section Column

variable {column : Naming → String} (isColumn : p.IsColumn column)

include isColumn

theorem steady_test {operator behind : String} (bare : IsBare operator) (bareBehind : IsBare behind) (v : Value)
    (lower : Bool) : Steady p fun names => test (column names) operator v lower behind := by
  cases lower with
  | true =>
      have text : p.Steady fun names => s!"LOWER({column names}) {operator} LOWER(" := by
        have call := (steady_bare (by decide : IsBare "LOWER(")).append
          (isColumn (") " ++ operator ++ " LOWER(") (by simp)
            (((by decide : IsBare ") ").append bare).append (by decide)))
        simpa [toString, String.append_assoc] using call
      exact (steady_text text).append ((steady_value v).append
        (steady_text (steady_bare ((by decide : IsBare ")").append bareBehind))))
  | false =>
      have text : p.Steady fun names => s!"{column names} {operator} " := by
        have sign : IsBare (" " ++ operator ++ " ") := ((by decide : IsBare " ").append bare).append (by decide)
        simpa [toString, String.append_assoc] using isColumn (" " ++ operator ++ " ") (by simp) sign
      exact (steady_text text).append ((steady_value v).append (steady_text (steady_bare bareBehind)))

theorem steady_compare {sign : String} (bare : IsBare sign) (v : Value) :
    Steady p fun names => compare (column names) sign v :=
  steady_test isColumn bare (by decide) v false

theorem steady_range (r : Range) (excluded : Bool) : Steady p fun names => range (column names) r excluded := by
  have lower : IsBare (Target.lowerSign excluded r.includesLower) := by
    cases excluded <;> cases r.includesLower <;> decide
  have upper : IsBare (Target.upperSign excluded r.includesUpper) := by
    cases excluded <;> cases r.includesUpper <;> decide
  have keyword : IsBare (if excluded then "OR" else "AND") := by
    cases excluded <;> decide
  have bounds := List.forall_mem_cons.mpr
    ⟨steady_compare isColumn lower r.lower, List.forall_mem_singleton.mpr (steady_compare isColumn upper r.upper)⟩
  exact (steady_joined keyword bounds).paren

theorem steady_like (m : TextMatch) : Steady p fun names => like p (column names) m := by
  have operator : IsBare (Platform.notWord m.negated ++ "LIKE") := by
    cases m.negated <;> decide
  cases p with
  | postgres =>
      refine steady_test isColumn ?_ (by decide) _ false
      cases m.negated <;> cases m.ignoresCase <;> decide
  | mysql => exact steady_test isColumn operator (by decide) _ m.ignoresCase
  | _ => exact steady_test isColumn operator (by decide) _ m.ignoresCase

theorem steady_regex (m : TextMatch) : Steady p fun names => regex p (column names) m := by
  cases p with
  | sqlite =>
      refine steady_test isColumn ?_ (by decide) _ false
      cases m.negated <;> decide
  | postgres =>
      refine steady_test isColumn ?_ (by decide) _ false
      cases m.negated <;> cases m.ignoresCase <;> decide
  | mysql =>
      have call : Platform.mysql.Steady fun names => s!"{Platform.notWord m.negated}REGEXP_LIKE({column names}, " := by
        have opening : IsBare (Platform.notWord m.negated ++ "REGEXP_LIKE(") := by
          cases m.negated <;> decide
        simpa [toString, String.append_assoc] using
          (steady_bare opening).append (isColumn ", " (by decide) (by decide))
      have closing {mode : String} (bare : IsBare mode) : IsBare s!", '{mode}')" :=
        ((by decide : IsBare ", '").append bare).append (by decide)
      have mode : IsBare (if m.ignoresCase then "i" else "c") := by
        cases m.ignoresCase <;> decide
      exact (steady_text call).append ((steady_value _).append (steady_text (steady_bare (closing mode))))
  | mssql => exact steady_nil

theorem steady_textMatch (m : TextMatch) : Steady p fun names => textMatch p (column names) m := by
  unfold textMatch
  cases m.kind with
  | equals =>
      refine steady_test isColumn ?_ (by decide) _ _
      cases m.negated <;> decide
  | regex => exact steady_regex isColumn m
  | _ => exact steady_like isColumn m

theorem steady_bag (bag : Bag) : Steady p fun names => Layout.bag p (column names) bag := by
  have sign (operator : Operator) : IsBare operator.sign := by
    cases operator <;> decide
  have comparisons (cs : List Comparison) :
      AllSteady p fun names => cs.map fun c => compare (column names) c.operator.sign c.value :=
    allSteady_map fun c _ => steady_compare isColumn (sign c.operator) c.value
  have singles {sign : String} (bare : IsBare sign) (ss : List Single) :
      AllSteady p fun names => ss.map fun s => compare (column names) sign s.value :=
    allSteady_map fun s _ => steady_compare isColumn bare s.value
  have ranges (rs : List Range) (excluded : Bool) :
      AllSteady p fun names => rs.map fun r => range (column names) r excluded :=
    allSteady_map fun r _ => steady_range isColumn r excluded
  have textMatches (ms : List TextMatch) : AllSteady p fun names => ms.map (textMatch p (column names)) :=
    allSteady_map fun m _ => steady_textMatch isColumn m
  have admits : AllSteady p fun names => admitting p (column names) bag :=
    (((singles (by decide) _).append (ranges _ false)).append (comparisons _)).append (textMatches _)
  have narrows : AllSteady p fun names => narrowing p (column names) bag :=
    (((singles (by decide) _).append (ranges _ true)).append (comparisons _)).append (textMatches _)
  exact admits.combined narrows

end Column

end Layout

/-- The layout of a group is the same whatever identifies the columns. -/
theorem Mapping.steady_layout {p : Platform} {m : Platform.Naming → Mapping}
    (platform : ∀ names, (m names).platform = p)
    (columns : ∀ name, p.IsColumn fun names => ((m names).columns.get? name).getD "") (group : Group) :
    Layout.Steady p fun names => (m names).layout group := by
  induction group with
  | step logical fields groups ih =>
      have keyword : Platform.IsBare logical.keyword := by
        cases logical <;> decide
      have step (names : Platform.Naming) : (m names).layout (.mk logical fields groups) = .joined logical.keyword
          (((m names).bagLayouts fields.entries ++ (groups.map (m names).layout).filter fun l => !l.isEmpty).map
            .paren) := by
        rw [layout, Group.fold_mk]
      have bags : Layout.AllSteady p fun names => (m names).bagLayouts fields.entries := by
        simp only [bagLayouts, platform]
        exact Layout.allSteady_map fun entry _ => Layout.steady_bag (columns entry.1) entry.2
      have below : Layout.AllSteady p fun names => groups.map (m names).layout :=
        Layout.allSteady_map ih
      simp only [step]
      exact (bags.append below.filled).paren.joined keyword

/-! ## Clauses with quoted columns -/

/-- The clause of a condition without converters is read in one way, whatever identifies the columns. -/
theorem steady_sql {p : Platform} {m : Platform.Naming → Mapping} (platform : ∀ names, (m names).platform = p)
    (columns : ∀ name, p.IsColumn fun names => ((m names).columns.get? name).getD "")
    (unconverted : ∀ names name, (m names).converters.get? name = none) (limits : Limits) (c : Condition) :
    ∃ template : List Platform.Atom, ∀ names clause, generate limits (m names) c = .ok clause →
      p.Reads clause.sql.toList (template.map (Platform.Atom.rename names)) := by
  obtain ⟨template, reads⟩ := (Mapping.steady_layout platform columns c.root).text 1
  refine ⟨template, fun names clause generated => ?_⟩
  obtain ⟨e, d, made, sql, -⟩ := generate_eq_ok generated
  obtain ⟨bound, laid, -⟩ := (m names).lays_group (unconverted names) c.root (.start (m names).platform) d e rfl made
  have text : clause.sql = ((m names).layout c.root).fill p 1 := by
    rw [sql, bound, laid.text, platform]
    exact String.empty_append
  rw [text]
  simpa only [List.append_nil] using reads names [] [] .nil

namespace Session

/-- The session behind calls that give some fields quoted columns. -/
def quoting (s : Session) (fields : List String) (names : Platform.Naming) : Session :=
  s.after (fields.map fun field => .setQuotedField field (names field))

/-- Quoted columns of fields that exist replace those of a session, and nothing else changes. -/
theorem quoting_eq {s : Session} (unset : s.clause = none) (fields : List String) (names : Platform.Naming) :
    ∃ columns, s.quoting fields names = { s with columns := columns } ∧
      ∀ name, columns.get? name =
        if name ∈ fields ∧ s.condition.schema.has name = true then some (s.platform.quoteIdentifier (names name))
        else s.columns.get? name := by
  induction fields generalizing s with
  | nil => exact ⟨s.columns, rfl, fun name => (if_neg fun ⟨mem, _⟩ => nomatch mem).symm⟩
  | cons field fields ih =>
      have step : s.quoting (field :: fields) names =
          (s.call (.setField field (s.platform.quoteIdentifier (names field)))).2.quoting fields names := rfl
      rw [step, setField_of_unset unset]
      by_cases known : s.condition.schema.has field = true
      · rw [if_pos known]
        let next : Session := { s with columns := s.columns.insert field (s.platform.quoteIdentifier (names field)) }
        obtain ⟨columns, same, found⟩ := @ih next unset
        refine ⟨columns, same, fun name => ?_⟩
        rw [found, Keyed.get?_insert]
        by_cases here : name = field
        · subst here
          simp [next, known]
        · simp [next, here]
      · rw [if_neg known]
        obtain ⟨columns, same, found⟩ := ih unset
        refine ⟨columns, same, fun name => ?_⟩
        rw [found]
        by_cases here : name = field
        · subst here
          simp [known]
        · simp [here]

/-- The clause of a session whose columns are quoted is read in one way, whatever identifies the columns. -/
theorem steady_whereClause (condition : Condition) (p : Platform) (limits : Limits) (fields : List String) :
    ∃ template : List Platform.Atom, ∀ names clause next,
      ((start condition p limits).quoting fields names).whereClause = .ok (clause, next) →
        p.Reads clause.sql.toList (template.map (Platform.Atom.rename names)) := by
  choose columns quoted found using (start condition p limits).quoting_eq rfl fields
  have isColumn (name : String) : p.IsColumn fun names => ((columns names).get? name).getD "" := by
    simp only [found]
    by_cases mapped : name ∈ fields ∧ (start condition p limits).condition.schema.has name = true
    · simp only [if_pos mapped]
      exact p.isColumn_quoteIdentifier name
    · simp only [if_neg mapped]
      exact Platform.isColumn_bare Platform.isBare_empty
  obtain ⟨template, reads⟩ := @steady_sql p (fun names => ⟨condition.schema, p, columns names, .empty⟩) (fun _ => rfl)
    isColumn (fun _ _ => rfl) limits condition
  refine ⟨template, fun names clause next made => ?_⟩
  rw [quoted] at made
  obtain ⟨_, generated, same⟩ := bind_eq_ok_iff.mp made
  cases same
  exact reads names clause generated

end Session

/-- A quoted identifier is read as this identifier to its end, so different ones are never quoted alike, and delimited
identifiers are read from quoted ones alone, in front of any text that does not go on with the closing delimiter.  The
text behind the quoted columns of a clause never does: a clause is read in just one way, the same for all identifiers,
with each of them in the places of its column. -/
theorem quoted_identifiers_closed (p : Platform) :
    (∀ identifier, p.readIdentifier? (p.quoteIdentifier identifier).toList = some (identifier, [])) ∧
      Function.Injective p.quoteIdentifier ∧
      (∀ text identifier rest, p.readIdentifier? text = some (identifier, rest) ↔
        text = (p.quoteIdentifier identifier).toList ++ rest ∧ ∀ c ∈ rest.head?, c ≠ p.delimiters.2) ∧
      ∀ condition limits fields, ∃ template : List Platform.Atom, ∀ names clause next,
        ((Session.start condition p limits).quoting fields names).whereClause = .ok (clause, next) →
          ∀ atoms, p.Reads clause.sql.toList atoms ↔ atoms = template.map (Platform.Atom.rename names) := by
  refine ⟨p.readIdentifier?_quoteIdentifier, p.quoteIdentifier_injective, p.readIdentifier?_eq_some_iff, ?_⟩
  intro condition limits fields
  obtain ⟨template, reads⟩ := Session.steady_whereClause condition p limits fields
  refine ⟨template, fun names clause next made atoms => ⟨fun read => ?_, ?_⟩⟩
  · exact read.unique (reads names clause next made)
  · rintro rfl
    exact reads names clause next made

/-- Columns of books whose identifiers are full of delimiters. -/
def delimiterNames : Platform.Naming := fun field =>
  if field = "title" then "]" else "] OR [1"

/-- The clause about books with these columns. -/
def delimiterClause : WhereClause where
  sql := "(([]]] = ? OR []]] = ?) AND []]] NOT LIKE ? ESCAPE '\\') OR ((([]] OR [1] < ? OR []] OR [1] >= ?)))"
  parameters := [.string "a", .string "b", .string "%c%", .integer 1990, .integer 2000]

theorem quoted_identifiers_closed_books :
    (∃ next, ((Session.start ⟨books, booksRoot⟩ .mssql .standard).quoting ["title", "year"]
      delimiterNames).whereClause = .ok (delimiterClause, next)) ∧
      ∃ template : List Platform.Atom, ∀ atoms, Platform.mssql.Reads delimiterClause.sql.toList atoms ↔
        atoms = template.map (Platform.Atom.rename delimiterNames) := by
  have made : ∃ next, ((Session.start ⟨books, booksRoot⟩ .mssql .standard).quoting ["title", "year"]
      delimiterNames).whereClause = .ok (delimiterClause, next) :=
    ⟨_, rfl⟩
  refine ⟨made, ?_⟩
  obtain ⟨next, made⟩ := made
  obtain ⟨template, reads⟩ := (quoted_identifiers_closed .mssql).2.2.2 ⟨books, booksRoot⟩ .standard ["title", "year"]
  exact ⟨template, reads delimiterNames delimiterClause next made⟩

end Criteria.Sql
