import Criteria.Proofs.Sql.Denotation
import Criteria.Sql.Session
import Mathlib.Data.List.Induction

/-!
# Sessions, call by call

Up to the first clause a session is what its set-up calls say: of each field the column set last and, kind by kind, the
converters set last, where calls about unknown fields do not count.  Asked for the clause it generates it from just
that, and is left as it was if there is none.  From the first clause on nothing changes any more: set-up is refused, and
the clause stays the same.
-/

namespace Criteria.Sql

/-! ## Calls and answers -/

/-- A call on a session. -/
inductive Call where
  | setField (field column : String)
  | setQuotedField (field column : String)
  | setConverter (field : String) (converter : Converter)
  | isGenerated
  | whereClause

/-- The field that a call sets up. -/
def Call.field? : Call → Option String
  | setField field _ => some field
  | setQuotedField field _ => some field
  | setConverter field _ => some field
  | isGenerated => none
  | whereClause => none

/-- What a call comes to. -/
inductive Answer where
  | done
  | generated (yes : Bool)
  | clause (clause : WhereClause)
  | failed (error : SqlError)

/-- What the making of a clause comes to. -/
def Answer.ofOutcome : Except SqlError WhereClause → Answer
  | .ok made => .clause made
  | .error e => .failed e

/-- The clause that is answered. -/
def Answer.clause? : Answer → Option WhereClause
  | .clause made => some made
  | _ => none

namespace Session

/-- The answer to a set-up call and the session behind it; a set-up that is refused changes nothing. -/
def settle (s : Session) : Except SqlError Session → Answer × Session
  | .ok next => (.done, next)
  | .error e => (.failed e, s)

/-- The answer to a call and the session behind it. -/
def call (s : Session) : Call → Answer × Session
  | .setField field column => s.settle (s.setField field column)
  | .setQuotedField field column => s.settle (s.setQuotedField field column)
  | .setConverter field converter => s.settle (s.setConverter field converter)
  | .isGenerated => (.generated s.isGenerated, s)
  | .whereClause =>
      match s.whereClause with
      | .ok (clause, next) => (.clause clause, next)
      | .error e => (.failed e, s)

/-- The session behind calls made one after another. -/
def after (s : Session) (calls : List Call) : Session :=
  calls.foldl (fun s call => (s.call call).2) s

/-- The answers to calls made one after another. -/
def answers (s : Session) : List Call → List Answer
  | [] => []
  | call :: calls => (s.call call).1 :: (s.call call).2.answers calls

theorem after_snoc (s : Session) (calls : List Call) (call : Call) :
    s.after (calls ++ [call]) = ((s.after calls).call call).2 := by
  rw [after, List.foldl_append]
  rfl

theorem answers_snoc (s : Session) (calls : List Call) (call : Call) :
    s.answers (calls ++ [call]) = s.answers calls ++ [((s.after calls).call call).1] := by
  induction calls generalizing s with
  | nil => rfl
  | cons first calls ih =>
      rw [List.cons_append, answers, ih, answers, List.cons_append]
      rfl

end Session

/-! ## What the calls so far say -/

/-- The column that a call sets for a field. -/
def Call.column? (platform : Platform) (name : String) : Call → Option String
  | setField field column => if field = name then some column else none
  | setQuotedField field column => if field = name then some (platform.quoteIdentifier column) else none
  | _ => none

/-- The converter that a call sets for a field. -/
def Call.converter? (name : String) : Call → Option Converter
  | setConverter field converter => if field = name then some converter else none
  | _ => none

/-- The conversion of values that a converter is. -/
def Converter.value? : Converter → Option ValueConversion
  | value conversion => some conversion
  | _ => none

/-- The conversion of columns that a converter is. -/
def Converter.field? : Converter → Option FieldConversion
  | field conversion => some conversion
  | _ => none

/-- The strategy that a converter is. -/
def Converter.strategy? : Converter → Option Strategy
  | .strategy choice => some choice
  | _ => none

/-- The column set last for a field. -/
def lastColumn (platform : Platform) (calls : List Call) (name : String) : Option String :=
  (calls.filterMap (Call.column? platform name)).getLast?

/-- The converters set last for a field, one of each kind. -/
def lastConverters (calls : List Call) (name : String) : Converters :=
  let set := calls.filterMap (Call.converter? name)
  ⟨(set.filterMap Converter.value?).getLast?, (set.filterMap Converter.field?).getLast?,
    (set.filterMap Converter.strategy?).getLast?⟩

/-- A mapping says what the calls on a session so far say about the fields of its schema, and nothing about others. -/
structure Mapping.Follows (m : Mapping) (schema : Schema) (platform : Platform) (calls : List Call) : Prop where
  sameSchema : m.schema = schema
  samePlatform : m.platform = platform
  columns : ∀ name, m.columns.get? name = if schema.has name then lastColumn platform calls name else none
  converters : ∀ name,
    (m.converters.get? name).getD .empty = if schema.has name then lastConverters calls name else .empty

/-! ## The clause of a mapping -/

namespace Target

variable (field : Field) (column : String) (platform : Platform)

theorem bind_empty (v : Value) (hints : Hints) :
    (⟨field, column, some .empty, platform⟩ : Target).bind v hints =
      (⟨field, column, none, platform⟩ : Target).bind v hints :=
  bind_pure (bindValue v)

theorem compare_empty (sign : String) (v : Value) :
    (⟨field, column, some .empty, platform⟩ : Target).compare sign v =
      (⟨field, column, none, platform⟩ : Target).compare sign v := by
  simp only [compare, bind_empty]
  rfl

theorem range_empty (r : Range) (excluded : Bool) :
    (⟨field, column, some .empty, platform⟩ : Target).range r excluded =
      (⟨field, column, none, platform⟩ : Target).range r excluded := by
  simp only [range, bind_empty]
  rfl

/-- A field without converters is treated as one with none of any kind. -/
theorem bag_getD (converters : Option Converters) (bag : Bag) :
    (⟨field, column, some (converters.getD .empty), platform⟩ : Target).bag bag =
      (⟨field, column, converters, platform⟩ : Target).bag bag := by
  cases converters with
  | some _ => rfl
  | none =>
      simp only [Target.bag, Option.getD_none, compare_empty, range_empty]
      rfl

end Target

section Lookups

variable {m n : Mapping} (schema : m.schema = n.schema) (platform : m.platform = n.platform)
  (columns : ∀ name, m.columns.get? name = n.columns.get? name)
  (converters : ∀ name, (m.converters.get? name).getD .empty = (n.converters.get? name).getD .empty)

include schema platform columns converters

theorem Mapping.bags_congr (entries : List (String × Bag)) : m.bags entries = n.bags entries := by
  induction entries with
  | nil => rfl
  | cons entry entries ih =>
      rcases entry with ⟨name, bag⟩
      rw [bags, bags, ih]
      split
      · rfl
      · rw [target, target, schema, columns name]
        cases n.schema.field? name with
        | none => rfl
        | some field =>
            cases n.columns.get? name with
            | none => rfl
            | some column =>
                have bags := Target.bag_getD field column m.platform (m.converters.get? name) bag
                rw [converters name, platform, Target.bag_getD] at bags
                dsimp only
                rw [platform]
                exact congrArg (· >>= fun part => n.bags entries >>= fun parts => pure (.paren part :: parts)) bags.symm

/-- A clause depends on nothing but what is found for each field. -/
theorem generate_congr (limits : Limits) (c : Condition) : generate limits m c = generate limits n c := by
  have groups (group : Group) : m.group group = n.group group := by
    induction group with
    | step logical fields below ih =>
        rw [Mapping.group, Mapping.group, Group.fold_mk, Group.fold_mk,
          Mapping.bags_congr schema platform columns converters]
        have same : below.map m.group = below.map n.group := List.map_congr_left ih
        rw [Mapping.group, Mapping.group] at same
        rw [same]
  rw [generate, generate, groups, platform]

end Lookups

/-! ## One call -/

namespace Session

variable {s : Session}

/-- From the clause on set-up is refused, and the clause stays. -/
theorem call_of_generated {clause : WhereClause} (fixed : s.clause = some clause) :
    (∀ call name, call.field? = some name → s.call call = (.failed .locked, s)) ∧
      s.call .isGenerated = (.generated true, s) ∧ s.call .whereClause = (.clause clause, s) := by
  have generated : s.isGenerated = true := by rw [isGenerated, fixed, Option.isSome_some]
  have locked (field : String) : s.check field = .error .locked := by rw [check, generated, if_pos rfl]
  refine ⟨fun call name about => ?_, ?_, ?_⟩
  · cases call with
    | setField field column => rw [Session.call, setField, locked]; rfl
    | setQuotedField field column => rw [Session.call, setQuotedField, setField, locked]; rfl
    | setConverter field converter => rw [Session.call, setConverter, locked]; rfl
    | isGenerated => cases about
    | whereClause => cases about
  · rw [Session.call, generated]
  · rw [Session.call, whereClause, fixed]

theorem unchanged_of_generated {clause : WhereClause} (fixed : s.clause = some clause) (call : Call) :
    (s.call call).2 = s := by
  obtain ⟨setUp, generated, asked⟩ := call_of_generated fixed
  cases about : call.field? with
  | some name => rw [setUp call name about]
  | none =>
      cases call with
      | isGenerated => rfl
      | whereClause => rw [asked]
      | setField | setQuotedField | setConverter => cases about

section Open

variable (unset : s.clause = none)

include unset

theorem isGenerated_of_unset : s.isGenerated = false := by
  rw [isGenerated, unset, Option.isSome_none]

theorem check_of_unset (field : String) :
    s.check field = if s.condition.schema.has field then .ok () else .error (.unknownField field) := by
  rw [check, isGenerated_of_unset unset, if_neg Bool.false_ne_true]

theorem setField_of_unset (field column : String) :
    s.call (.setField field column) =
      if s.condition.schema.has field then (.done, { s with columns := s.columns.insert field column })
      else (.failed (.unknownField field), s) := by
  rw [call, setField, check_of_unset unset]
  split <;> rfl

theorem setConverter_of_unset (field : String) (converter : Converter) :
    s.call (.setConverter field converter) =
      if s.condition.schema.has field then
        (.done, { s with converters := s.converters.alter field fun old => (old.getD .empty).set converter })
      else (.failed (.unknownField field), s) := by
  rw [call, setConverter, check_of_unset unset]
  split <;> rfl

theorem whereClause_of_unset :
    s.call .whereClause = match generate s.limits s.mapping s.condition with
      | .ok clause => (.clause clause, { s with clause := some clause })
      | .error e => (.failed e, s) := by
  rw [call, whereClause, unset]
  cases generate s.limits s.mapping s.condition <;> rfl

theorem setUp_of_unset {call : Call} {name : String} (about : call.field? = some name) :
    (s.call call).1 = if s.condition.schema.has name then .done else .failed (.unknownField name) := by
  cases call with
  | setField field column =>
      cases about
      rw [setField_of_unset unset]
      split <;> rfl
  | setQuotedField field column =>
      cases about
      change (s.call (.setField name (s.platform.quoteIdentifier column))).1 = _
      rw [setField_of_unset unset]
      split <;> rfl
  | setConverter field converter =>
      cases about
      rw [setConverter_of_unset unset]
      split <;> rfl
  | isGenerated => cases about
  | whereClause => cases about

end Open

/-- A call that fails changes nothing. -/
theorem unchanged_of_failed {call : Call} {e : SqlError} (failed : (s.call call).1 = .failed e) :
    (s.call call).2 = s := by
  have settled (outcome : Except SqlError Session) (failed : (s.settle outcome).1 = .failed e) :
      (s.settle outcome).2 = s := by
    cases outcome with
    | ok next => cases failed
    | error e => rfl
  cases call with
  | setField field column => exact settled _ failed
  | setQuotedField field column => exact settled _ failed
  | setConverter field converter => exact settled _ failed
  | isGenerated => rfl
  | whereClause =>
      rw [Session.call] at failed ⊢
      cases outcome : s.whereClause with
      | ok made =>
          rw [outcome] at failed
          cases failed
      | error e => rfl

end Session

/-! ## One more call -/

section Follows

variable {m : Mapping} {schema : Schema} {platform : Platform} {calls : List Call}

theorem lastColumn_snoc (platform : Platform) (calls : List Call) (call : Call) (name : String) :
    lastColumn platform (calls ++ [call]) name =
      (call.column? platform name).or (lastColumn platform calls name) := by
  rw [lastColumn, List.filterMap_append, List.getLast?_append, lastColumn]
  cases column : call.column? platform name <;> simp [column]

theorem lastConverters_snoc (calls : List Call) (call : Call) (name : String) :
    lastConverters (calls ++ [call]) name =
      match call.converter? name with
      | some converter => (lastConverters calls name).set converter
      | none => lastConverters calls name := by
  rw [lastConverters, List.filterMap_append]
  cases found : call.converter? name with
  | none => simp [found, lastConverters]
  | some converter =>
      cases converter <;>
        simp [found, lastConverters, Converters.set, Converter.value?, Converter.field?, Converter.strategy?]

theorem Call.column?_eq_none {call : Call} {name : String} (other : call.field? ≠ some name) :
    call.column? platform name = none := by
  cases call with
  | setField field column => exact if_neg fun same => other (congrArg some same)
  | setQuotedField field column => exact if_neg fun same => other (congrArg some same)
  | setConverter | isGenerated | whereClause => rfl

theorem Call.converter?_eq_none {call : Call} {name : String} (other : call.field? ≠ some name) :
    call.converter? name = none := by
  cases call with
  | setConverter field converter => exact if_neg fun same => other (congrArg some same)
  | setField | setQuotedField | isGenerated | whereClause => rfl

/-- A call that sets up no field of the schema leaves a mapping as it has to be. -/
theorem Mapping.Follows.other (follows : m.Follows schema platform calls) {call : Call}
    (other : ∀ name, schema.has name = true → call.field? ≠ some name) :
    m.Follows schema platform (calls ++ [call]) where
  sameSchema := follows.sameSchema
  samePlatform := follows.samePlatform
  columns name := by
    rw [follows.columns, lastColumn_snoc]
    split
    · rename_i known
      rw [Call.column?_eq_none (other name known), Option.none_or]
    · rfl
  converters name := by
    rw [follows.converters, lastConverters_snoc]
    split
    · rename_i known
      rw [Call.converter?_eq_none (other name known)]
    · rfl

theorem Mapping.Follows.setField (follows : m.Follows schema platform calls) {field : String}
    (known : schema.has field = true) (column : String) :
    Mapping.Follows { m with columns := m.columns.insert field column } schema platform
      (calls ++ [.setField field column]) where
  sameSchema := follows.sameSchema
  samePlatform := follows.samePlatform
  columns name := by
    rw [Keyed.get?_insert, follows.columns, lastColumn_snoc, Call.column?]
    by_cases same : name = field
    · rw [same, if_pos rfl, if_pos known, if_pos rfl, Option.some_or]
    · rw [if_neg same, if_neg (Ne.symm same), Option.none_or]
  converters name := by
    rw [follows.converters, lastConverters_snoc]
    rfl

theorem Mapping.Follows.setConverter (follows : m.Follows schema platform calls) {field : String}
    (known : schema.has field = true) (converter : Converter) :
    Mapping.Follows { m with converters := m.converters.alter field fun old => (old.getD .empty).set converter }
      schema platform (calls ++ [.setConverter field converter]) where
  sameSchema := follows.sameSchema
  samePlatform := follows.samePlatform
  columns name := by
    rw [follows.columns, lastColumn_snoc]
    rfl
  converters name := by
    have before := follows.converters name
    rw [Keyed.get?_alter, lastConverters_snoc, Call.converter?]
    by_cases same : name = field
    · subst same
      rw [if_pos known] at before
      rw [if_pos rfl, if_pos known, if_pos rfl, Option.getD_some, before]
    · rw [if_neg same, if_neg (Ne.symm same), before]

end Follows

/-! ## Histories -/

namespace Session

/-- Where a session stands behind calls that were answered: the clause is the first one answered, and until then the
set-up is what the calls say. -/
structure Stands (s : Session) (start : Session) (calls : List Call) (answers : List Answer) : Prop where
  condition : s.condition = start.condition
  platform : s.platform = start.platform
  limits : s.limits = start.limits
  clause : s.clause = answers.findSome? Answer.clause?
  follows : s.clause = none → s.mapping.Follows start.condition.schema start.platform calls

theorem stands_start (condition : Condition) (platform : Platform) (limits : Limits) :
    (start condition platform limits).Stands (start condition platform limits) [] [] where
  condition := rfl
  platform := rfl
  limits := rfl
  clause := rfl
  follows _ :=
    { sameSchema := rfl
      samePlatform := rfl
      columns := fun _ => (ite_self none).symm
      converters := fun _ => (ite_self Converters.empty).symm }

section Stands

variable {s start : Session} {calls : List Call} {answers : List Answer}

/-- A set-up call that is carried out, or has no effect, leaves a session where its history says. -/
theorem Stands.setUp (stands : s.Stands start calls answers) (unset : s.clause = none) {call : Call} {next : Session}
    {answer : Answer} (condition : next.condition = s.condition) (platform : next.platform = s.platform)
    (limits : next.limits = s.limits) (stillUnset : next.clause = none) (noClause : answer.clause? = none)
    (follows : next.mapping.Follows start.condition.schema start.platform (calls ++ [call])) :
    next.Stands start (calls ++ [call]) (answers ++ [answer]) where
  condition := condition.trans stands.condition
  platform := platform.trans stands.platform
  limits := limits.trans stands.limits
  clause := by
    rw [List.findSome?_append, ← stands.clause, unset, stillUnset, List.findSome?_singleton, noClause]
    rfl
  follows _ := follows

/-- A call that sets up no field of the schema and gives no clause leaves a session where it stands. -/
theorem Stands.other (stands : s.Stands start calls answers) (unset : s.clause = none) {call : Call}
    (other : ∀ name, start.condition.schema.has name = true → call.field? ≠ some name) {answer : Answer}
    (noClause : answer.clause? = none) : s.Stands start (calls ++ [call]) (answers ++ [answer]) :=
  stands.setUp unset rfl rfl rfl unset noClause ((stands.follows unset).other other)

/-- A call that sets nothing up and gives no clause leaves a session where it stands. -/
theorem Stands.still (stands : s.Stands start calls answers) (call : Call) (unset : s.clause = none)
    (noField : call.field? = none) {answer : Answer} (noClause : answer.clause? = none) :
    s.Stands start (calls ++ [call]) (answers ++ [answer]) :=
  stands.other unset (fun _ _ same => nomatch noField.symm.trans same) noClause

theorem Stands.setField (stands : s.Stands start calls answers) (unset : s.clause = none) (field column : String) :
    (s.call (.setField field column)).2.Stands start (calls ++ [.setField field column])
      (answers ++ [(s.call (.setField field column)).1]) := by
  rw [setField_of_unset unset]
  split
  · rename_i known
    rw [stands.condition] at known
    exact stands.setUp unset rfl rfl rfl unset rfl ((stands.follows unset).setField known column)
  · rename_i unknown
    rw [stands.condition] at unknown
    refine stands.other unset (fun name known same => unknown ?_) rfl
    cases same
    exact known

theorem Stands.setConverter (stands : s.Stands start calls answers) (unset : s.clause = none) (field : String)
    (converter : Converter) :
    (s.call (.setConverter field converter)).2.Stands start (calls ++ [.setConverter field converter])
      (answers ++ [(s.call (.setConverter field converter)).1]) := by
  rw [setConverter_of_unset unset]
  split
  · rename_i known
    rw [stands.condition] at known
    exact stands.setUp unset rfl rfl rfl unset rfl ((stands.follows unset).setConverter known converter)
  · rename_i unknown
    rw [stands.condition] at unknown
    refine stands.other unset (fun name known same => unknown ?_) rfl
    cases same
    exact known

/-- To set a quoted column is to set what quoting it gives. -/
theorem Stands.setQuotedField (stands : s.Stands start calls answers) (unset : s.clause = none)
    (field column : String) :
    (s.call (.setQuotedField field column)).2.Stands start (calls ++ [.setQuotedField field column])
      (answers ++ [(s.call (.setQuotedField field column)).1]) := by
  have quoted : s.call (.setQuotedField field column) =
      s.call (.setField field (s.platform.quoteIdentifier column)) := rfl
  have plain := stands.setField unset field (s.platform.quoteIdentifier column)
  rw [quoted]
  refine { plain with follows := fun unset => ?_ }
  have follows := plain.follows unset
  refine { follows with columns := fun name => ?_, converters := fun name => ?_ }
  · rw [follows.columns, lastColumn_snoc, lastColumn_snoc, stands.platform]
    rfl
  · rw [follows.converters, lastConverters_snoc, lastConverters_snoc]
    rfl

/-- Each call leaves a session where its history says. -/
theorem Stands.call (stands : s.Stands start calls answers) (call : Call) :
    (s.call call).2.Stands start (calls ++ [call]) (answers ++ [(s.call call).1]) := by
  cases fixed : s.clause with
  | some clause =>
      have answered := stands.clause
      rw [fixed] at answered
      rw [unchanged_of_generated fixed]
      exact {
        condition := stands.condition
        platform := stands.platform
        limits := stands.limits
        clause := by rw [List.findSome?_append, ← answered, fixed, Option.some_or]
        follows := fun unset => nomatch fixed.symm.trans unset }
  | none =>
      cases call with
      | setField field column => exact stands.setField fixed field column
      | setQuotedField field column => exact stands.setQuotedField fixed field column
      | setConverter field converter => exact stands.setConverter fixed field converter
      | isGenerated => exact stands.still .isGenerated fixed rfl rfl
      | whereClause =>
          rw [whereClause_of_unset fixed]
          cases generate s.limits s.mapping s.condition with
          | error e => exact stands.still .whereClause fixed rfl rfl
          | ok clause =>
              have unanswered := stands.clause
              rw [fixed] at unanswered
              exact {
                condition := stands.condition
                platform := stands.platform
                limits := stands.limits
                clause := by rw [List.findSome?_append, ← unanswered]; rfl
                follows := fun unset => nomatch unset }

end Stands

theorem stands_after (condition : Condition) (platform : Platform) (limits : Limits) (calls : List Call) :
    let first := Session.start condition platform limits
    (first.after calls).Stands first calls (first.answers calls) := by
  induction calls using List.reverseRecOn with
  | nil => exact stands_start condition platform limits
  | append_singleton calls call ih =>
      dsimp only
      rw [after_snoc, answers_snoc]
      exact ih.call call

/-- Before the first clause a session generates it from the columns and converters set last, and a call without effect
leaves it as it is; from then on it refuses all set-up and gives the same clause. -/
theorem answers_of_history (condition : Condition) (platform : Platform) (limits : Limits) (calls : List Call) :
    let first := start condition platform limits
    let s := first.after calls
    ((first.answers calls).findSome? Answer.clause? = none →
      (∃ m : Mapping, m.Follows condition.schema platform calls) ∧
        (∀ m : Mapping, m.Follows condition.schema platform calls →
          (s.call .whereClause).1 = .ofOutcome (generate limits m condition)) ∧
        (∀ call e, (s.call call).1 = .failed e → (s.call call).2 = s) ∧
        s.call .isGenerated = (.generated false, s) ∧
        ∀ call name, call.field? = some name →
          (s.call call).1 = if condition.schema.has name then .done else .failed (.unknownField name)) ∧
      ∀ clause, (first.answers calls).findSome? Answer.clause? = some clause →
        (∀ call name, call.field? = some name → s.call call = (.failed .locked, s)) ∧
          s.call .isGenerated = (.generated true, s) ∧ s.call .whereClause = (.clause clause, s) := by
  intro first s
  have stands := stands_after condition platform limits calls
  constructor
  · intro unanswered
    have unset : s.clause = none := stands.clause.trans unanswered
    have follows := stands.follows unset
    refine ⟨⟨s.mapping, follows⟩, fun m same => ?_, fun call e failed => ?_, ?_, fun call name about => ?_⟩
    · have made : generate limits m condition = generate s.limits s.mapping s.condition := by
        rw [stands.limits, stands.condition]
        refine generate_congr ?_ ?_ (fun name => ?_) (fun name => ?_) _ _
        · exact same.sameSchema.trans follows.sameSchema.symm
        · exact same.samePlatform.trans follows.samePlatform.symm
        · exact (same.columns name).trans (follows.columns name).symm
        · exact (same.converters name).trans (follows.converters name).symm
      rw [made, whereClause_of_unset unset]
      cases generate s.limits s.mapping s.condition <;> rfl
    · exact unchanged_of_failed failed
    · rw [Session.call, isGenerated_of_unset unset]
    · rw [setUp_of_unset unset about, stands.condition]
      rfl
  · intro clause answered
    exact call_of_generated (stands.clause.trans answered)

/-- The set-up of a clause about books, with a field that they do not have, a clause asked for too early and a column
that is replaced. -/
def booksSetUp : List Call :=
  [.setField "author" "a", .setField "title" "t", .whereClause, .setQuotedField "title" "book title",
    .setField "year" "published", .setConverter "title" (.field lowerCaseField)]

/-- The clause about books behind this set-up. -/
def lowerCaseClause : WhereClause where
  sql := "((LOWER(\"book title\") = ? OR LOWER(\"book title\") = ?) AND LOWER(\"book title\") NOT LIKE ? " ++
    "ESCAPE '\\') OR (((published < ? OR published >= ?)))"
  parameters := [.string "a", .string "b", .string "%c%", .integer 1990, .integer 2000]

theorem answers_of_history_books :
    ((start ⟨books, booksRoot⟩ .sqlite .standard).answers booksSetUp).findSome? Answer.clause? = none ∧
      ((start ⟨books, booksRoot⟩ .sqlite .standard).after booksSetUp).call .isGenerated =
        (.generated false, (start ⟨books, booksRoot⟩ .sqlite .standard).after booksSetUp) ∧
      ((start ⟨books, booksRoot⟩ .sqlite .standard).answers (booksSetUp ++ [.whereClause])).findSome? Answer.clause? =
        some lowerCaseClause ∧
      ((start ⟨books, booksRoot⟩ .sqlite .standard).after (booksSetUp ++ [.whereClause])).call
          (.setField "author" "a") =
        (.failed .locked, (start ⟨books, booksRoot⟩ .sqlite .standard).after (booksSetUp ++ [.whereClause])) := by
  have unanswered :
      ((start ⟨books, booksRoot⟩ .sqlite .standard).answers booksSetUp).findSome? Answer.clause? = none := by
    decide +kernel
  have answered : ((start ⟨books, booksRoot⟩ .sqlite .standard).answers (booksSetUp ++ [.whereClause])).findSome?
      Answer.clause? = some lowerCaseClause := by
    decide +kernel
  have before := (answers_of_history ⟨books, booksRoot⟩ .sqlite .standard booksSetUp).1 unanswered
  have behind := (answers_of_history ⟨books, booksRoot⟩ .sqlite .standard (booksSetUp ++ [.whereClause])).2 _ answered
  exact ⟨unanswered, before.2.2.2.1, answered, behind.1 (.setField "author" "a") "author" rfl⟩

end Session

end Criteria.Sql
