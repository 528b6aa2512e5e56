import Criteria.Proofs.Exchange.Ending
import Criteria.Proofs.Query.Unrestricted

/-!
# What the readers accept

A reader keeps the limits while it builds a condition; validation looks at a finished tree.  Both come to the
same: a reader hands out the tree that its input stands for without limits, and it does so exactly if every
name is known, every value can be converted, and the validation finds nothing wrong with that tree.  The
reader of forms needs more: the reading ends if the pattern of a view cannot print one of the values.
-/

namespace Criteria

namespace Query

/-- The values in an entry. -/
def EntryNode.scalars : EntryNode → List ScalarNode
  | single _ value => [value]
  | excludedSingle _ value => [value]
  | range r => [r.lower, r.upper]
  | excludedRange _ r => [r.lower, r.upper]
  | comparison _ _ _ value => [value]
  | textMatch _ => []

/-- The statements of a list of items and of the groups below. -/
def statementsOf : List ItemNode → List StatementNode
  | [] => []
  | .statement node :: rest => node :: statementsOf rest
  | .group _ _ items :: rest => statementsOf items ++ statementsOf rest

/-- Every field is known and every value can be converted. -/
def Readable (schema : Schema) (tree : QueryNode) : Prop :=
  ∀ node ∈ statementsOf tree.items, ∃ field, schema.field? (String.ofList node.name) = some field ∧
    ∀ entry ∈ node.nodes, ∀ scalar ∈ entry.scalars,
      ∃ value, field.ofView (String.ofList scalar.text) = .ok value

theorem exists_scalar?_iff (field : Field) (node : ScalarNode) :
    (∃ s, scalar? field node = some s) ↔ ∃ value, field.ofView (String.ofList node.text) = .ok value := by
  rw [scalar?]
  cases field.ofView (String.ofList node.text) with
  | error failure => simp [Except.toOption]
  | ok value => simp [Except.toOption]

theorem exists_range?_iff (field : Field) (node : RangeNode) :
    (∃ r, range? field node = some r) ↔
      (∃ s, scalar? field node.lower = some s) ∧ ∃ s, scalar? field node.upper = some s := by
  rw [range?]
  cases scalar? field node.lower with
  | none => simp
  | some lower => cases scalar? field node.upper <;> simp

theorem exists_entryOf?_iff (field : Field) (node : EntryNode) :
    (∃ entry, entryOf? field node = some entry) ↔
      ∀ scalar ∈ node.scalars, ∃ value, field.ofView (String.ofList scalar.text) = .ok value := by
  simp only [← exists_scalar?_iff]
  cases node with
  | single _ value => simp [entryOf?, EntryNode.scalars]
  | excludedSingle _ value => simp [entryOf?, EntryNode.scalars]
  | range r => simp [entryOf?, EntryNode.scalars, exists_range?_iff]
  | excludedRange _ r => simp [entryOf?, EntryNode.scalars, exists_range?_iff]
  | comparison _ _ _ value => simp [entryOf?, EntryNode.scalars]
  | textMatch m => simp [entryOf?, EntryNode.scalars]

theorem exists_statement?_iff (schema : Schema) (node : StatementNode) :
    (∃ statement, statement? schema node = some statement) ↔
      ∃ field, schema.field? (String.ofList node.name) = some field ∧
        ∀ entry ∈ node.nodes, ∀ scalar ∈ entry.scalars,
          ∃ value, field.ofView (String.ofList scalar.text) = .ok value := by
  rw [statement?]
  cases schema.field? (String.ofList node.name) with
  | none => simp
  | some field =>
      simp only [← exists_entryOf?_iff, ← exists_mapM_iff, Option.bind_eq_bind, Option.bind_some,
        Option.bind_eq_some_iff, Option.pure_def, Option.some.injEq, exists_eq_left']
      constructor
      · rintro ⟨-, entries, converted, rfl⟩
        exact ⟨entries, converted⟩
      · rintro ⟨entries, converted⟩
        exact ⟨_, entries, converted, rfl⟩

theorem exists_parts?_iff (schema : Schema) (items : List ItemNode) :
    (∃ parts, parts? schema items = some parts) ↔
      ∀ node ∈ statementsOf items, ∃ statement, statement? schema node = some statement := by
  induction items using statementsOf.induct with
  | case1 => simp [parts?, statementsOf]
  | case2 node rest ih =>
      rw [statementsOf, List.forall_mem_cons, ← ih, parts?]
      simp only [Option.bind_eq_bind, Option.bind_eq_some_iff, Option.pure_def, Option.some.injEq]
      constructor
      · rintro ⟨-, statement, first, others, rest, -⟩
        exact ⟨⟨statement, first⟩, others, rest⟩
      · rintro ⟨⟨statement, first⟩, others, rest⟩
        exact ⟨_, statement, first, others, rest, rfl⟩
  | case3 span anyMark items rest ihInner ihRest =>
      rw [statementsOf, List.forall_mem_append, ← ihInner, ← ihRest, parts?]
      simp only [Option.bind_eq_bind, Option.bind_eq_some_iff, Option.pure_def, Option.some.injEq]
      constructor
      · rintro ⟨-, inner, first, others, rest, -⟩
        exact ⟨⟨inner, first⟩, others, rest⟩
      · rintro ⟨⟨inner, first⟩, others, rest⟩
        exact ⟨_, inner, first, others, rest, rfl⟩

/-- A query stands for a tree exactly if every field is known and every value can be converted. -/
theorem exists_unrestricted?_iff (schema : Schema) (tree : QueryNode) :
    (∃ root, unrestricted? schema tree = some root) ↔ Readable schema tree := by
  have readable : Readable schema tree ↔ ∃ parts, parts? schema tree.items = some parts := by
    rw [exists_parts?_iff]
    exact forall₂_congr fun node _ => (exists_statement?_iff schema node).symm
  rw [readable, unrestricted?]
  cases parts? schema tree.items <;> simp

theorem read_eq_ok_iff (schema : Schema) (limits : Limits) (text : String) (c : Condition) :
    read schema limits text = .ok c ↔
      ∃ tree, parse text.toList = .ok tree ∧ ∃ root, unrestricted? schema tree = some root ∧
        (⟨schema, root⟩ : Condition).problems limits = [] ∧ c = ⟨schema, root⟩ := by
  unfold Query.read
  cases parse text.toList with
  | error offset => simp
  | ok tree =>
      simp only [Intake.finish_eq_ok_iff, readRoot_eq_pure_iff, Except.ok.injEq, exists_eq_left',
        and_assoc]
      rfl

end Query

namespace Exchange

/-- The named forms of a group and of the groups below. -/
def formsOf : GroupForm → List (String × BagForm) :=
  GroupForm.fold fun fields below _ => fields.entries ++ below.flatten

/-- A norm can be converted. -/
def Convertible (field : Field) (norm : String) : Prop :=
  ∃ value, field.ofNorm norm = .ok value

/-- Every field is known, every norm can be converted, and every kind of match is known. -/
def Readable (schema : Schema) (form : GroupForm) : Prop :=
  ∀ entry ∈ formsOf form, ∃ field, schema.field? entry.1 = some field ∧
    (∀ norm ∈ entry.2.norms, Convertible field norm) ∧
      ∀ m ∈ entry.2.textMatches, ∃ variant, MatchKind.ofFullName? m.typeName = some variant

theorem exists_value?_iff (field : Field) (norm : String) :
    (∃ s, value? field norm = some s) ↔ Convertible field norm := by
  rw [value?, Convertible]
  cases field.ofNorm norm with
  | error failure => simp [Except.toOption]
  | ok value => simp [Except.toOption]

theorem exists_range?_iff (field : Field) (form : RangeForm) :
    (∃ r, range? field form = some r) ↔ Convertible field form.lower ∧ Convertible field form.upper := by
  rw [← exists_value?_iff, ← exists_value?_iff, range?]
  cases value? field form.lower with
  | none => simp
  | some lower => cases value? field form.upper <;> simp

theorem exists_bag?_iff (field : Field) (form : BagForm) :
    (∃ bag, bag? field form = some bag) ↔
      (∀ norm ∈ form.norms, Convertible field norm) ∧
        ∀ m ∈ form.textMatches, ∃ variant, MatchKind.ofFullName? m.typeName = some variant := by
  have comparison (c : ComparisonForm) :
      (∃ r, comparison? field c = some r) ↔ Convertible field c.value := by
    rw [← exists_value?_iff, comparison?]
    simp
  have textMatch (m : MatchForm) :
      (∃ r, match? m = some r) ↔ ∃ variant, MatchKind.ofFullName? m.typeName = some variant := by
    rw [match?]
    cases MatchKind.ofFullName? m.typeName <;> simp
  have lists : (∃ bag, bag? field form = some bag) ↔
      (∃ xs, form.singles.mapM (value? field) = some xs) ∧
      (∃ xs, form.excludedSingles.mapM (value? field) = some xs) ∧
      (∃ xs, form.ranges.mapM (range? field) = some xs) ∧
      (∃ xs, form.excludedRanges.mapM (range? field) = some xs) ∧
      (∃ xs, form.comparisons.mapM (comparison? field) = some xs) ∧
      ∃ xs, form.textMatches.mapM match? = some xs := by
    simp only [bag?, Option.bind_eq_bind, Option.bind_eq_some_iff, Option.pure_def, Option.some.injEq]
    constructor
    · rintro ⟨-, s, hs, xs, hxs, r, hr, xr, hxr, c, hc, m, hm, -⟩
      exact ⟨⟨s, hs⟩, ⟨xs, hxs⟩, ⟨r, hr⟩, ⟨xr, hxr⟩, ⟨c, hc⟩, m, hm⟩
    · rintro ⟨⟨s, hs⟩, ⟨xs, hxs⟩, ⟨r, hr⟩, ⟨xr, hxr⟩, ⟨c, hc⟩, m, hm⟩
      exact ⟨_, s, hs, xs, hxs, r, hr, xr, hxr, c, hc, m, hm, rfl⟩
  rw [lists]
  simp only [exists_mapM_iff, exists_value?_iff, exists_range?_iff, comparison, textMatch, BagForm.norms,
    List.forall_mem_append, List.forall_mem_flatMap, List.forall_mem_map, List.forall_mem_cons,
    List.not_mem_nil, false_implies, implies_true, and_true, and_assoc]

theorem formsOf_mk (fields : Keyed BagForm) (below : List GroupForm) (logical : Option Logical) :
    formsOf (.mk fields below logical) = fields.entries ++ (below.map formsOf).flatten := by
  rw [formsOf, GroupForm.fold_mk]

/-- A form stands for a tree exactly if every field is known, every norm can be converted, and every kind of
match is known. -/
theorem exists_unrestricted?_iff (schema : Schema) (form : GroupForm) :
    (∃ root, unrestricted? schema form = some root) ↔ Readable schema form := by
  have named (entry : String × BagForm) : (∃ bag, namedBag? schema entry = some bag) ↔
      ∃ field, schema.field? entry.1 = some field ∧
        (∀ norm ∈ entry.2.norms, Convertible field norm) ∧
          ∀ m ∈ entry.2.textMatches, ∃ variant, MatchKind.ofFullName? m.typeName = some variant := by
    rw [namedBag?]
    cases schema.field? entry.1 with
    | none => simp
    | some field =>
        simp only [Option.some.injEq, exists_eq_left', ← exists_bag?_iff]
        cases found : bag? field entry.2 <;> simp [found]
  induction form with
  | step fields below logical ih =>
      have lists : (∃ root, unrestricted? schema (.mk fields below logical) = some root) ↔
          (∃ bags, fields.entries.mapM (namedBag? schema) = some bags) ∧
            ∃ groups, below.mapM (unrestricted? schema) = some groups := by
        rw [unrestricted?_mk]
        cases fields.entries.mapM (namedBag? schema) with
        | none => simp
        | some bags => cases below.mapM (unrestricted? schema) <;> simp
      rw [lists, exists_mapM_iff, exists_mapM_iff, Readable, formsOf_mk, List.forall_mem_append]
      refine and_congr (forall₂_congr fun entry _ => named entry) ?_
      constructor
      · intro trees entry mem
        obtain ⟨_, hforms, hentry⟩ := List.mem_flatten.mp mem
        obtain ⟨form, hform, rfl⟩ := List.mem_map.mp hforms
        exact (ih form hform).mp (trees form hform) entry hentry
      · intro readable form hform
        refine (ih form hform).mpr fun entry mem => readable entry ?_
        exact List.mem_flatten.mpr ⟨_, List.mem_map_of_mem hform, mem⟩

theorem mapError_eq_ok_iff {α ε ε' : Type} {f : ε → ε'} {x : Except ε α} {a : α} :
    x.mapError f = .ok a ↔ x = .ok a := by
  cases x <;> simp [Except.mapError]

theorem read_eq_ok_iff (schema : Schema) (limits : Limits) (form : GroupForm) (c : Condition) :
    read schema limits form = .ok c ↔
      Shows schema limits form ∧ ∃ root, unrestricted? schema form = some root ∧
        (⟨schema, root⟩ : Condition).problems limits = [] ∧ c = ⟨schema, root⟩ := by
  by_cases shows : Shows schema limits form
  · rw [read_eq shows, mapError_eq_ok_iff, Intake.finish_eq_ok_iff]
    simp only [readGroup_eq_pure_iff, shows, true_and, and_assoc]
    rfl
  · obtain ⟨pattern, ended⟩ := read_eq_unprintable shows
    simp [ended, shows]

theorem read_eq_unprintable_iff (schema : Schema) (limits : Limits) (form : GroupForm) :
    (∃ pattern, read schema limits form = .error (.unprintable pattern)) ↔ ¬Shows schema limits form := by
  refine ⟨fun ⟨pattern, ended⟩ shows => ?_, read_eq_unprintable⟩
  rw [read_eq shows] at ended
  generalize Intake.finish schema _ = outcome at ended
  cases outcome <;> cases ended

end Exchange

/-- Both readers hand out exactly the trees that their inputs stand for without limits and that the validation
finds nothing wrong with, but that the reading of a form ends, without any report, exactly if a pattern cannot
print the value of a norm in a group that is entered. -/
theorem read_eq_ok_iff_valid (schema : Schema) (limits : Limits) :
    (∀ text c, Query.read schema limits text = .ok c ↔
      ∃ tree, Query.parse text.toList = .ok tree ∧ Query.Readable schema tree ∧
        ∃ root, Query.unrestricted? schema tree = some root ∧
          (⟨schema, root⟩ : Condition).problems limits = [] ∧ c = ⟨schema, root⟩) ∧
    ∀ form,
      (∀ c, Exchange.read schema limits form = .ok c ↔
        Exchange.Shows schema limits form ∧ Exchange.Readable schema form ∧
          ∃ root, Exchange.unrestricted? schema form = some root ∧
            (⟨schema, root⟩ : Condition).problems limits = [] ∧ c = ⟨schema, root⟩) ∧
      ((∃ pattern, Exchange.read schema limits form = .error (.unprintable pattern)) ↔
        ¬Exchange.Shows schema limits form) := by
  refine ⟨fun text c => ?_, fun form => ⟨fun c => ?_, Exchange.read_eq_unprintable_iff schema limits form⟩⟩
  · simp only [Query.read_eq_ok_iff, ← Query.exists_unrestricted?_iff]
    constructor
    · rintro ⟨tree, parsed, root, found, rest⟩
      exact ⟨tree, parsed, ⟨root, found⟩, root, found, rest⟩
    · rintro ⟨tree, parsed, -, root, found, rest⟩
      exact ⟨tree, parsed, root, found, rest⟩
  · simp only [Exchange.read_eq_ok_iff, ← Exchange.exists_unrestricted?_iff]
    constructor
    · rintro ⟨shows, root, found, rest⟩
      exact ⟨shows, ⟨root, found⟩, root, found, rest⟩
    · rintro ⟨shows, -, root, found, rest⟩
      exact ⟨shows, root, found, rest⟩

namespace Exchange

/-- A field of dates that are shown by their hour, which they do not have. -/
def hours : Field :=
  .date "day" ⟨"%H"⟩

/-- The schema with this field alone. -/
def timetable : Schema :=
  ⟨"timetable", [hours], by decide⟩

/-- The form of a condition with single values of one field. -/
def singlesForm (name : String) (norms : List String) : GroupForm :=
  .mk ⟨[(name, ⟨norms, [], [], [], [], []⟩)], List.nodup_singleton _⟩ [] none

/-- A form whose names are known and whose norms can be converted, and which stands for a valid tree, is not read. -/
theorem valid_tree_not_read :
    Readable timetable (singlesForm "day" ["2012-02-29"]) ∧
      (∃ root, unrestricted? timetable (singlesForm "day" ["2012-02-29"]) = some root ∧
        (⟨timetable, root⟩ : Condition).problems .standard = []) ∧
      ∀ c, read timetable .standard (singlesForm "day" ["2012-02-29"]) ≠ .ok c := by
  have ended : read timetable .standard (singlesForm "day" ["2012-02-29"]) = .error (.unprintable ⟨"%H"⟩) := rfl
  refine ⟨List.forall_mem_singleton.mpr ⟨hours, rfl, ?_, List.forall_mem_nil _⟩, ⟨_, rfl, by decide +kernel⟩, ?_⟩
  · exact List.forall_mem_singleton.mpr ⟨_, rfl⟩
  · rw [ended]
    exact fun _ => nofun

end Exchange

end Criteria
