import Criteria.Proofs.Acceptance
import Criteria.Proofs.Query.Carrying
import Criteria.Proofs.Query.Written

/-!
# Texts with a semicolon between them

A text, a semicolon and another text are parsed to the items of the one text and behind them those of the other,
however the one ends and the other begins.  What ends at the end of the first text, a statement or the mark of an OR,
takes the semicolon; otherwise the semicolon is a separator of its own.
-/

namespace Criteria.Query

open Scan

/-! ## Items -/

/-- Two statements stand for the same entries about the same field. -/
def SameStatement (a b : StatementNode) : Prop :=
  ∀ schema, statement? schema a = statement? schema b

/-- Two lists of items stand for the same statements and groups. -/
def SameParts (xs ys : List ItemNode) : Prop :=
  ∀ schema, parts? schema xs = parts? schema ys

theorem parts?_append (schema : Schema) (xs ys : List ItemNode) : parts? schema (xs ++ ys) = do
    let (statements, groups) ← parts? schema xs
    let (others, below) ← parts? schema ys
    return (statements ++ others, groups ++ below) := by
  induction xs using statementsOf.induct with
  | case1 => cases found : parts? schema ys <;> simp [parts?, found]
  | case2 node rest ih => simp [parts?, ih, Option.bind_assoc]
  | case3 span anyMark items rest _ ih => simp [parts?, ih, Option.bind_assoc]

theorem SameParts.append {xs xs' ys ys' : List ItemNode} (first : SameParts xs xs') (second : SameParts ys ys') :
    SameParts (xs ++ ys) (xs' ++ ys') := by
  intro schema
  rw [parts?_append, parts?_append, first, second]

/-- Two finds are both separators or stand for the same. -/
def SameFind (a b : Option ItemNode) : Prop :=
  SameParts a.toList b.toList

theorem sameParts_of_finds {xs ys : List (Option ItemNode)} (same : List.Forall₂ SameFind xs ys) :
    SameParts (xs.filterMap id) (ys.filterMap id) := by
  have split (x : Option ItemNode) (xs : List (Option ItemNode)) :
      (x :: xs).filterMap id = x.toList ++ xs.filterMap id := by
    cases x <;> rfl
  induction same with
  | nil => exact fun _ => rfl
  | cons first _ ih =>
      rw [split, split]
      exact SameParts.append first ih

variable {tail : List Char} {n : Nat}

theorem mapM_entryOf?_congr {xs ys : List EntryNode} (same : List.Forall₂ SameEntry xs ys) (field : Field) :
    xs.mapM (entryOf? field) = ys.mapM (entryOf? field) := by
  induction same with
  | nil => rfl
  | cons first _ ih => rw [List.mapM_cons, List.mapM_cons, first field, ih]

theorem carries_statement {fuel other : Nat} (enough : n ≤ fuel) (enoughToo : n ≤ other) :
    Carries tail n 1 SameStatement (statement fuel) (statement other) := by
  have ends : ∀ l, Carries tail l 0 (fun _ _ => True) (oneOf [char ';', ahead (char ')'), ahead (mark ending)])
      (oneOf [char ';', ahead (char ')'), ahead (mark ending)]) :=
    fun _ => carries_semicolon ((looks_ahead_char ')').orElse looks_ahead_ending)
  refine carries_node_bind (fun a b => a.1.2 = b.1.2 ∧
    Option.Rel (fun x y => List.Forall₂ SameEntry x.2 y.2) a.2 b.2) ?_ ?_
  · refine persists_fieldName.bind_carries fun _ _ name _ _ => ?_
    refine persists_gap.bind_carries_rest fun _ _ _ _ _ => ?_
    refine (persists_sign (by decide)).bind_carries_rest fun _ _ _ _ _ => ?_
    refine persists_gap.bind_carries_rest fun _ _ _ l _ => ?_
    have entryList : Persists tail l 0 (fun x y => List.Forall₂ SameEntry x.2 y.2) (entryList fuel)
      (entryList other) := persists_entryList (by omega) (by omega)
    refine entryList.optional.bind_carries_rest fun _ _ entries _ _ => ?_
    refine persists_gap.bind_carries_rest fun _ _ _ _ _ => ?_
    exact (ends _).bind_pure fun _ _ _ => ⟨_, _, rfl, rfl, name, entries⟩
  · rintro ⟨_, ⟨_, name⟩, entries⟩ ⟨_, ⟨_, other⟩, others⟩ ⟨rfl, same⟩
    refine ⟨_, _, rfl, rfl, fun schema => ?_⟩
    cases same with
    | none => rfl
    | some same => simp only [statement?, StatementNode.nodes, mapM_entryOf?_congr same]

/-! ## Groups -/

section Series

variable {c d e : Cursor} {fuel : Nat} {finds : List (Option ItemNode)} {xs : List ItemNode}

theorem series_of_itemsOf {s : Scan (Option ItemNode)} (solid : Solid c.rest)
    (found : (itemsOf fuel s c).found = some (xs, e)) : ∃ finds, Series s c finds e ∧ xs = finds.filterMap id := by
  rw [itemsOf, found_bind] at found
  obtain ⟨⟨finds, stop⟩, here, made⟩ := Option.bind_eq_some_iff.mp found
  cases made
  exact ⟨finds, .of_many solid here, rfl⟩

/-- The items of a series are all there are if what closes a group or query follows. -/
theorem found_itemsOf_of_series {bound : Nat} (series : Series (item fuel) c finds e) (solid : Solid c.rest)
    (closing : Closing (e.rest.dropWhile isGap)) (few : finds.length ≤ bound) :
    (itemsOf bound (item fuel) c).found = some (finds.filterMap id, e) := by
  have stops : Misses (gap >>= fun _ => item fuel) e.rest :=
    (finds_gap e.rest).bind_misses fun _ _ => misses_item closing fuel
  have found := series.found_many solid (stops.found_eq_none rfl) (Nat.le_succ_of_le few)
  rw [itemsOf, found_bind, found]
  rfl

theorem head_of_closing {α : Type} {next : Unit → Scan α} {a : α}
    (found : ((gap >>= fun _ => char ')' >>= next) c).found = some (a, e)) :
    (c.rest.dropWhile isGap).head? = some ')' := by
  by_contra other
  have miss : Misses (gap >>= fun _ => char ')' >>= next) c.rest :=
    (finds_gap c.rest).bind_misses fun _ _ => (misses_char other).bind
  rw [miss.found_eq_none rfl] at found
  cases found

end Series

/-- The parts of a group are carried with the parenthesis behind them: no part ends at the end of the text. -/
theorem carries_enclosed {α : Type} {Q : α → α → Prop} {f g : List ItemNode → α}
    (imp : ∀ xs ys, SameParts xs ys → Q (f xs) (g ys)) {fuel other : Nat}
    (h : Carries tail n 1 SameFind (item fuel) (item other)) (enough : n ≤ other) :
    Carries tail n 0 Q
      (gap >>= fun _ => itemsOf fuel (item fuel) >>= fun xs => gap >>= fun _ => char ')' >>= fun _ =>
        return f xs)
      (gap >>= fun _ => itemsOf other (item other) >>= fun ys => gap >>= fun _ => char ')' >>= fun _ =>
        return g ys) := by
  intro c d short seam same x v found
  rw [found_bind] at found
  obtain ⟨⟨_, c₁⟩, blank, found⟩ := Option.bind_eq_some_iff.mp found
  dsimp only at found
  rw [found_bind] at found
  obtain ⟨⟨xs, c₂⟩, listed, closed⟩ := Option.bind_eq_some_iff.mp found
  obtain ⟨_, d₁, blankToo, -, rest₁, takes₁⟩ := persists_gap.exists_found short seam same blank
  obtain ⟨finds, series, rfl⟩ := series_of_itemsOf (Series.solid_of_gap blank) listed
  have short₁ := takes₁.length_le
  obtain ⟨others, d₂, seriesToo, related, meets, takes₂⟩ :=
    h.series (misses_item (.inl rfl) fuel) series (by omega) (takes₁.seam seam) rest₁
  have inside : c₂.rest ≠ [] := by
    intro nothing
    have head := head_of_closing closed
    rw [nothing] at head
    cases head
  have rest₂ : d₂.rest = c₂.rest ++ tail := meets.resolve_right fun ends => inside ends.1
  have short₂ := takes₂.length_le
  have ends : Persists tail n 0 Q (gap >>= fun _ => char ')' >>= fun _ => return f (finds.filterMap id))
      (gap >>= fun _ => char ')' >>= fun _ => return g (others.filterMap id)) :=
    persists_gap.bind fun _ _ _ => (persists_sign (by decide)).bind fun _ _ _ =>
      persists_pure (imp _ _ (sameParts_of_finds related))
  obtain ⟨y, w, closedToo, sameToo, rest₃, takes₃⟩ :=
    ends.exists_found (by omega) (takes₂.seam (takes₁.seam seam)) rest₂ closed
  have few : others.length ≤ other := by
    have count := related.length_eq
    omega
  have closing : Closing (d₂.rest.dropWhile isGap) := .inr (head_of_closing closedToo)
  have listedToo := found_itemsOf_of_series seriesToo (Series.solid_of_gap blankToo) closing few
  refine ⟨y, w, ?_, sameToo, .inl rest₃, ((takes₁.trans takes₂).trans takes₃).weaken (Nat.zero_le _)⟩
  rw [found_bind, blankToo, Option.bind_some, found_bind, listedToo]
  exact closedToo

theorem carries_groupOf {fuel other : Nat}
    (h : ∀ l, l + 1 ≤ n → Carries tail l 1 SameFind (item fuel) (item other)) (enough : n ≤ other + 1) :
    Carries tail n 1 (fun a b => SameParts [a] [b]) (groupOf (itemsOf fuel (item fuel)))
      (groupOf (itemsOf other (item other))) := by
  refine carries_node_bind (fun a b => a.1.isSome = b.1.isSome ∧ SameParts a.2 b.2) ?_ ?_
  · refine (persists_flag (by decide)).bind_carries_rest fun _ _ marked k less => ?_
    refine persists_gap.bind_carries_rest fun _ _ _ k less => ?_
    refine (persists_sign (by decide)).bind_carries fun _ _ _ l less => ?_
    exact carries_enclosed (fun _ _ same => ⟨marked, same⟩) (h l (by omega)) (by omega)
  · rintro ⟨span, anyMark, xs⟩ ⟨span', anyMark', ys⟩ ⟨marked, same⟩
    refine ⟨_, _, rfl, rfl, fun schema => ?_⟩
    dsimp only at marked same
    simp only [parts?, same schema, logicalOf, marked]

theorem misses_groupOf_of_name {x : Char} (start : isNameStart x = true) (rest : List Char)
    (items : Scan (List ItemNode)) : Misses (groupOf items) (x :: rest) :=
  misses_groupOf (solid_cons (isGap_of_isNameStart start) rest) (head_ne_of_isNameStart start rfl rest)
    (head_ne_of_isNameStart start rfl rest) items

/-- The signs that may separate items. -/
def IsSeparator (x : Char) : Prop :=
  x = ';' ∨ x = ','

theorem finds_separator {x : Char} (isSeparator : IsSeparator x) (rest : List Char) :
    Finds separator (x :: rest) rest fun _ => True := by
  rcases isSeparator with rfl | rfl
  · exact (finds_char ';' rest).orElse
  · exact (misses_char (by simp)).orElse_finds (finds_char ',' rest)

theorem exists_of_separator {c d : Cursor} (found : (separator c).found = some ((), d)) :
    ∃ x, IsSeparator x ∧ c.rest = x :: d.rest := by
  rw [separator, found_orElse, Option.or_eq_some_iff] at found
  rcases found with here | ⟨-, here⟩
  · exact ⟨';', .inl rfl, rest_of_char here⟩
  · exact ⟨',', .inr rfl, rest_of_char here⟩

theorem finds_item_separator {x : Char} (isSeparator : IsSeparator x) (fuel : Nat) (rest : List Char) :
    Finds (item (fuel + 1)) (x :: rest) rest fun found => found = none := by
  have plain : isNameStart x = false ∧ isGap x = false ∧ x ≠ '*' ∧ x ≠ '(' := by
    rcases isSeparator with rfl | rfl <;> decide
  have noStatement : Misses (statement fuel) (x :: rest) :=
    misses_statement (by simpa using plain.1) fuel
  have noGroup : Misses (groupOf (itemsOf fuel (item fuel))) (x :: rest) :=
    misses_groupOf (solid_cons plain.2.1 rest) (by simpa using plain.2.2.1) (by simpa using plain.2.2.2) _
  refine noStatement.map.oneOf_finds (noGroup.map.oneOf_finds ?_)
  exact (finds_separator isSeparator rest).map fun _ _ => rfl

theorem found_item (fuel : Nat) (c : Cursor) : (item (fuel + 1) c).found =
    (((some ∘ .statement) <$> statement fuel) c).found.or
      (((some <$> groupOf (itemsOf fuel (item fuel))) c).found.or (((fun _ => none) <$> separator) c).found) := by
  rw [item]
  exact (found_orElse _ _ c).trans (congrArg _ (found_orElse _ _ c))

/-- Where a group is found there is no statement. -/
theorem found_item_of_group {fuel : Nat} {c d : Cursor} {found : Option ItemNode}
    (group : ((some <$> groupOf (itemsOf fuel (item fuel))) c).found = some (found, d)) :
    (item (fuel + 1) c).found = some (found, d) := by
  have noName (x : Char) (head : c.rest.head? = some x) : isNameStart x = false := by
    rw [Bool.eq_false_iff]
    intro start
    obtain ⟨rest, text⟩ := List.head?_eq_some_iff.mp head
    rw [(misses_groupOf_of_name start rest _).map.found_eq_none text] at group
    cases group
  rw [found_item, (misses_statement noName fuel).map.found_eq_none rfl, group]
  rfl

/-- An item is carried, whatever the depth of its groups. -/
theorem carries_item {fuel other : Nat} (enough : n < fuel) (enoughToo : n < other) :
    Carries tail n 1 SameFind (item fuel) (item other) := by
  induction fuel generalizing n other with
  | zero => cases enough
  | succ fuel ih =>
      cases other with
      | zero => cases enoughToo
      | succ other =>
          have aStatement : Carries tail n 1 SameFind ((some ∘ .statement) <$> statement fuel)
              ((some ∘ .statement) <$> statement other) :=
            (carries_statement (by omega) (by omega)).map fun a b same schema => by
              simp only [Function.comp, Option.toList, parts?, same schema]
          have aGroup : Carries tail n 1 SameFind (some <$> groupOf (itemsOf fuel (item fuel)))
              (some <$> groupOf (itemsOf other (item other))) :=
            (carries_groupOf (fun l less => ih (by omega) (by omega)) (by omega)).map fun a b same => same
          intro c d short seam same a e found
          rw [found_item, Option.or_eq_some_iff, Option.or_eq_some_iff] at found
          rcases found with here | ⟨-, here | ⟨-, here⟩⟩
          · obtain ⟨b, u, there, related⟩ := aStatement c d short seam same a e here
            exact ⟨b, u, by rw [found_item, there]; rfl, related⟩
          · obtain ⟨b, u, there, related⟩ := aGroup c d short seam same a e here
            exact ⟨b, u, found_item_of_group there, related⟩
          · rw [found_map] at here
            obtain ⟨⟨_, stop⟩, read, made⟩ := Option.map_eq_some_iff.mp here
            cases made
            obtain ⟨x, isSeparator, text⟩ := exists_of_separator read
            have whole : d.rest = x :: (stop.rest ++ tail) := by
              rw [same, text]
              rfl
            obtain ⟨_, u, there, rest, rfl⟩ := (finds_item_separator isSeparator other _).exists_found whole
            refine ⟨none, u, there, fun _ => rfl, .inl rest, [x], text, ?_, Nat.le_refl 1⟩
            rcases isSeparator with rfl | rfl <;> decide

/-! ## Queries -/

theorem carries_rootMark : Carries tail n 1 (fun _ _ => True) rootMark rootMark := by
  refine carries_node_bind (fun _ _ => True) ?_ fun _ _ _ => ⟨_, _, rfl, rfl, trivial⟩
  refine (persists_sign (by decide)).bind_carries fun _ _ _ _ _ => ?_
  exact persists_gap.bind_carries_rest fun _ _ _ _ _ => carries_semicolon (looks_notAhead '(')

theorem rootMark_eq_none {c d : Cursor} (short : c.rest.length ≤ n) (seam : Seam tail c.rest)
    (same : d.rest = c.rest ++ tail) (nothing : (rootMark c).found = none) : (rootMark d).found = none := by
  have star : Persists tail n 1 (fun _ _ => True) (char '*') (char '*') := persists_sign (by decide)
  rw [rootMark, found_mark, Option.map_eq_none_iff, found_bind] at nothing ⊢
  cases first : (char '*' c).found with
  | none => rw [star.found_eq_none short seam same first, Option.bind_none]
  | some found =>
      obtain ⟨_, u, there, -, rest, takes⟩ := star.exists_found short seam same first
      have shorter := takes.length_le
      obtain ⟨_, v, blank, -, behind, -⟩ :=
        persists_gap.exists_found (n := n) (by omega) (takes.seam seam) rest (found_gap found.2)
      rw [first, Option.bind_some, found_bind, found_gap, Option.bind_some] at nothing
      rw [there, Option.bind_some, found_bind, blank, Option.bind_some]
      exact semicolon_eq_none (looks_notAhead '(') rfl behind nothing

/-- The beginning of a query up to its items: the mark of an OR, if there is one. -/
def beginning : Scan (Option Span) :=
  gap >>= fun _ => optional rootMark

theorem carries_beginning : Carries tail n 0 (fun a b => a.isSome = b.isSome) beginning beginning := by
  refine persists_gap.bind_carries_rest fun _ _ _ _ _ => ?_
  intro c d short seam same a e found
  rw [found_optional] at found
  cases marked : (rootMark c).found with
  | none =>
      rw [marked] at found
      cases found
      exact ⟨none, d, by rw [found_optional, rootMark_eq_none short seam same marked], rfl, .inl same,
        takes_nothing _⟩
  | some result =>
      rw [marked] at found
      cases found
      obtain ⟨b, u, there, -, meets, takes⟩ := carries_rootMark c d short seam same _ _ marked
      exact ⟨some b, u, by rw [found_optional, there], rfl, meets, takes.weaken (Nat.zero_le 1)⟩

theorem found_query (fuel : Nat) (c : Cursor) : (query fuel c).found =
    (beginning c).found.bind fun begun => (gap begun.2).found.bind fun blank =>
      (items fuel blank.2).found.bind fun listed => (gap listed.2).found.bind fun last =>
        (mark ending last.2).found.map fun ended =>
          (⟨⟨c.offset, ended.2.offset⟩, begun.1, listed.1, ended.1⟩, ended.2) := by
  simp only [query, beginning, found_bind, found_node, found_pure, Option.map_eq_bind, Option.bind_assoc,
    Function.comp_def, Option.bind_some]

/-- A text is read as a mark and a series of finds, and nothing but a gap is left. -/
def ReadsAs (fuel : Nat) (text : List Char) (anyMark : Option Span) (finds : List (Option ItemNode)) : Prop :=
  ∃ c e, (beginning (.start text)).found = some (anyMark, c) ∧ Series (item fuel) c finds e ∧
    e.rest.dropWhile isGap = []

theorem parse_eq_ok_iff {text : List Char} {tree : QueryNode} :
    parse text = .ok tree ↔ ∃ e, (query (text.length + 1) (.start text)).found = some (tree, e) := by
  rw [parse]
  cases query (text.length + 1) (.start text) with
  | mk reach found => cases found <;> simp [Prod.ext_iff]

theorem rest_of_ending {c d : Cursor} {span : Span} (found : (mark ending c).found = some (span, d)) :
    c.rest = [] := by
  cases text : c.rest with
  | nil => rfl
  | cons x rest =>
      rw [(misses_ending x rest).mark.found_eq_none text] at found
      cases found

theorem readsAs_of_parse {text : List Char} {tree : QueryNode} (parsed : parse text = .ok tree) :
    ∃ finds, ReadsAs (text.length + 1) text tree.anyMark finds ∧ tree.items = finds.filterMap id := by
  obtain ⟨stop, found⟩ := parse_eq_ok_iff.mp parsed
  rw [found_query] at found
  obtain ⟨⟨anyMark, c⟩, begun, found⟩ := Option.bind_eq_some_iff.mp found
  obtain ⟨⟨_, d⟩, blank, found⟩ := Option.bind_eq_some_iff.mp found
  obtain ⟨⟨xs, e⟩, listed, found⟩ := Option.bind_eq_some_iff.mp found
  obtain ⟨⟨_, u⟩, blankToo, found⟩ := Option.bind_eq_some_iff.mp found
  obtain ⟨⟨ending, v⟩, ended, made⟩ := Option.map_eq_some_iff.mp found
  cases made
  obtain ⟨finds, series, rfl⟩ := series_of_itemsOf (Series.solid_of_gap blank) listed
  obtain ⟨stop, seriesToo, rest⟩ :=
    series.transfer (Series.found_gap_bind_of_gap blank).symm (Series.dropWhile_of_gap blank).symm
  refine ⟨finds, ⟨c, stop, begun, seriesToo, ?_⟩, rfl⟩
  rw [rest, ← Series.rest_of_gap blankToo]
  exact rest_of_ending ended

/-- A series takes a character for each of its finds at least. -/
theorem takes_of_series {fuel : Nat} {c e : Cursor} {finds : List (Option ItemNode)}
    (series : Series (item fuel) c finds e) (short : c.rest.length < fuel) : Takes finds.length c.rest e.rest := by
  obtain ⟨-, -, -, -, -, takes⟩ := (carries_item short short).series (misses_item (.inl rfl) fuel) series
    (Nat.le_refl _) (.inl rfl) (List.append_nil _).symm
  exact takes

theorem takes_of_beginning {c d : Cursor} {anyMark : Option Span} (begun : (beginning c).found = some (anyMark, d)) :
    Takes 0 c.rest d.rest := by
  obtain ⟨-, -, -, -, -, takes⟩ :=
    carries_beginning c c (Nat.le_refl _) (.inl rfl) (List.append_nil _).symm anyMark d begun
  exact takes

theorem parse_of_readsAs {text : List Char} {anyMark : Option Span} {finds : List (Option ItemNode)}
    (reads : ReadsAs (text.length + 1) text anyMark finds) :
    ∃ tree, parse text = .ok tree ∧ tree.anyMark = anyMark ∧ tree.items = finds.filterMap id := by
  obtain ⟨c, e, begun, series, ends⟩ := reads
  have short : c.rest.length ≤ text.length := (takes_of_beginning begun).length_le
  have few := (takes_of_series series (Nat.lt_succ_of_le short)).length_le
  obtain ⟨d, blank⟩ : ∃ d, (gap c).found = some ((), d) := ⟨_, found_gap c⟩
  obtain ⟨stop, seriesToo, rest⟩ := series.transfer (Series.found_gap_bind_of_gap blank) (Series.dropWhile_of_gap blank)
  have closing : stop.rest.dropWhile isGap = [] := rest.trans ends
  have listed : (items (text.length + 1) d).found = some (finds.filterMap id, stop) :=
    found_itemsOf_of_series seriesToo (Series.solid_of_gap blank) (.inl closing) (by omega)
  obtain ⟨_, _, ended, -⟩ := finds_ending.mark (stop.offset + (stop.rest.takeWhile isGap).length)
  have found := found_query (text.length + 1) (.start text)
  rw [begun, Option.bind_some, blank, Option.bind_some, listed, Option.bind_some, found_gap, Option.bind_some,
    closing, ended, Option.map_some] at found
  exact ⟨_, parse_eq_ok_iff.mpr ⟨_, found⟩, rfl, rfl⟩

/-! ## Two texts -/

theorem SameParts.symm {xs ys : List ItemNode} (same : SameParts xs ys) : SameParts ys xs :=
  fun schema => (same schema).symm

/-- The quotes of a text that is read come in pairs. -/
theorem even_of_readsAs {text : List Char} {anyMark : Option Span} {finds : List (Option ItemNode)}
    (reads : ReadsAs (text.length + 1) text anyMark finds) : Even (text.count '"') := by
  obtain ⟨c, e, begun, series, ends⟩ := reads
  have front := takes_of_beginning begun
  have items := takes_of_series series (Nat.lt_succ_of_le front.length_le)
  have blank : Takes _ e.rest (readWhile isGap e.rest).2 := takes_readWhile (by rfl) e.rest
  rw [readWhile_eq, ends] at blank
  obtain ⟨taken, same, paired, -⟩ := (front.trans items).trans blank
  rw [List.append_nil] at same
  rwa [← same] at paired

/-- The items of a text are found in front of a semicolon, and something takes the semicolon. -/
theorem exists_series_to_semicolon {a b : List Char} {anyMark : Option Span} {finds : List (Option ItemNode)}
    (reads : ReadsAs (a.length + 1) a anyMark finds) {fuel : Nat} (enough : a.length < fuel + 1) :
    ∃ mark d others u, (beginning (.start (a ++ ';' :: b))).found = some (mark, d) ∧
      mark.isSome = anyMark.isSome ∧ Series (item (fuel + 1)) d others u ∧ u.rest = b ∧
      SameParts (others.filterMap id) (finds.filterMap id) := by
  have seam : Seam (';' :: b) a := .inr ⟨rfl, even_of_readsAs reads⟩
  obtain ⟨c, e, begun, series, ends⟩ := reads
  obtain ⟨mark, d, begunToo, marked, meets, takes⟩ :=
    carries_beginning (.start a) (.start (a ++ ';' :: b)) (Nat.le_refl _) seam rfl _ _ begun
  have short := takes.length_le
  have last (fuel : Nat) : Misses (item fuel) [] := misses_item (.inl rfl) fuel
  rcases meets with rest | ⟨nothing, taken⟩
  · obtain ⟨others, u, seriesToo, related, meets, -⟩ :=
      (carries_item (Nat.lt_succ_of_le short) (Nat.lt_of_le_of_lt short enough)).series (last _) series
        (Nat.le_refl _) (takes.seam seam) rest
    have same := sameParts_of_finds related
    rcases meets with rest | ⟨-, taken⟩
    · -- Nothing has taken the semicolon, so it is found for itself.
      have behind : u.rest.dropWhile isGap = ';' :: b := by
        rw [rest, List.dropWhile_append, ends]
        rfl
      have step : Finds (gap >>= fun _ => item (fuel + 1)) u.rest b fun found => found = none := by
        refine (finds_gap u.rest).bind fun _ _ => ?_
        rw [behind]
        exact finds_item_separator (.inl rfl) fuel b
      obtain ⟨_, v, there, left, rfl⟩ := step.exists_found rfl
      have series := seriesToo.append (.cons there (.nil _))
      refine ⟨mark, d, others ++ [none], v, begunToo, marked.symm, series, left, ?_⟩
      rw [List.filterMap_append]
      exact (List.append_nil _).symm ▸ same.symm
    · exact ⟨mark, d, others, u, begunToo, marked.symm, seriesToo, (List.cons.inj taken).2.symm, same.symm⟩
  · obtain ⟨rfl, rfl⟩ := series.eq_nil (last _) nothing
    exact ⟨mark, d, [], d, begunToo, marked.symm, .nil d, (List.cons.inj taken).2.symm, fun _ => rfl⟩

theorem gap_of_beginning {c d : Cursor} (begun : (beginning c).found = some (none, d)) :
    (gap c).found = some ((), d) := by
  rw [beginning, found_bind] at begun
  obtain ⟨⟨_, e⟩, blank, unmarked⟩ := Option.bind_eq_some_iff.mp begun
  dsimp only at unmarked
  rw [found_optional] at unmarked
  cases marked : (rootMark e).found with
  | none =>
      rw [marked] at unmarked
      cases unmarked
      exact blank
  | some result =>
      rw [marked] at unmarked
      cases unmarked

/-- The items of a text without a mark are found wherever that text stands at the end. -/
theorem exists_series_behind {b : List Char} {finds : List (Option ItemNode)}
    (reads : ReadsAs (b.length + 1) b none finds) {fuel : Nat} (enough : b.length < fuel) {u : Cursor}
    (same : u.rest = b) :
    ∃ others v, Series (item fuel) u others v ∧ v.rest.dropWhile isGap = [] ∧
      SameParts (others.filterMap id) (finds.filterMap id) := by
  obtain ⟨c, e, begun, series, ends⟩ := reads
  have blank := gap_of_beginning begun
  obtain ⟨stop, start, rest⟩ :=
    series.transfer (Series.found_gap_bind_of_gap blank).symm (Series.dropWhile_of_gap blank).symm
  have carried : Carries [] b.length 1 SameFind (item (b.length + 1)) (item fuel) :=
    carries_item (Nat.lt_succ_self _) enough
  obtain ⟨others, v, seriesToo, related, meets, -⟩ := carried.series (misses_item (.inl rfl) _) start (Nat.le_refl _)
    (.inl rfl) (same.trans (List.append_nil b).symm)
  rw [Meets, List.append_nil] at meets
  have left : v.rest = stop.rest := meets.resolve_right fun taken => nomatch taken.2
  exact ⟨others, v, seriesToo, by rw [left, rest, ends], (sameParts_of_finds related).symm⟩

/-- Two texts that are parsed, the second without a mark, are parsed with a semicolon between them, to the items of
the one and then those of the other. -/
theorem exists_parse_append {a b : List Char} {A B : QueryNode} (first : parse a = .ok A) (second : parse b = .ok B)
    (unmarked : B.anyMark = none) :
    ∃ C, parse (a ++ ';' :: b) = .ok C ∧ C.anyMark.isSome = A.anyMark.isSome ∧
      SameParts C.items (A.items ++ B.items) := by
  obtain ⟨finds, reads, listed⟩ := readsAs_of_parse first
  obtain ⟨others, readsToo, listedToo⟩ := readsAs_of_parse second
  rw [unmarked] at readsToo
  have length : (a ++ ';' :: b).length = a.length + b.length + 1 := by
    rw [List.length_append, List.length_cons, Nat.add_assoc]
  have enough : a.length < (a ++ ';' :: b).length + 1 := by omega
  have enoughToo : b.length < (a ++ ';' :: b).length + 1 := by omega
  obtain ⟨mark, d, xs, u, begun, marked, series, rest, same⟩ := exists_series_to_semicolon (b := b) reads enough
  obtain ⟨ys, v, seriesToo, ends, sameToo⟩ := exists_series_behind readsToo enoughToo rest
  obtain ⟨C, parsed, mark, items⟩ := parse_of_readsAs ⟨d, v, begun, series.append seriesToo, ends⟩
  refine ⟨C, parsed, by rw [mark, marked], ?_⟩
  rw [items, listed, listedToo, List.filterMap_append]
  exact same.append sameToo

end Criteria.Query
