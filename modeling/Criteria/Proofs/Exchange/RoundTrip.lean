import Criteria.Proofs.Acceptance
import Criteria.Proofs.Exporting

/-!
# Reading written exchange forms

A valid condition whose values are what their norms denote is written as a form that is read as the same condition
without its empty bags, and that one is written as the same form.  The views are made anew on reading, so this needs
that the pattern of a view can print its value.
-/

namespace Criteria

/-! ## Trees without their empty bags -/

/-- A tree without its empty bags. -/
def Group.withoutEmptyBags : Group → Group :=
  fold fun logical fields below => mk logical fields.filled below

theorem Group.withoutEmptyBags_mk (logical : Logical) (fields : Keyed Bag) (groups : List Group) :
    (mk logical fields groups).withoutEmptyBags = mk logical fields.filled (groups.map withoutEmptyBags) :=
  fold_mk _ logical fields groups

theorem Group.allBags_withoutEmptyBags {P : String → Bag → Prop} {group : Group} (all : group.AllBags P) :
    group.withoutEmptyBags.AllBags P := by
  induction group with
  | step logical fields groups ih =>
      rw [allBags_mk] at all
      rw [withoutEmptyBags_mk, allBags_mk, List.forall_mem_map]
      exact ⟨fun entry mem => all.1 entry (List.mem_of_mem_filter mem), fun g mem => ih g mem (all.2 g mem)⟩

/-- A valid tree stays valid without its empty bags. -/
theorem Validation.groupProblems_withoutEmptyBags {schema : Schema} {limits : Limits} {group : Group} {level : Nat}
    (valid : groupProblems schema limits group level = []) :
    groupProblems schema limits group.withoutEmptyBags level = [] := by
  induction group generalizing level with
  | step logical fields groups ih =>
      obtain ⟨allowed, few, shallow, below⟩ := (groupProblems_mk_eq_nil_iff _ _ _ _ _ _).mp valid
      rw [Group.withoutEmptyBags_mk]
      refine (groupProblems_mk_eq_nil_iff _ _ _ _ _ _).mpr ⟨?_, ?_, ?_, ?_⟩
      · exact fun entry mem => allowed entry (List.mem_of_mem_filter mem)
      · rwa [List.length_map]
      · exact fun some => shallow fun none => some (by rw [none, List.map_nil])
      · exact List.forall_mem_map.mpr fun g mem => ih g mem (below g mem)

namespace Exchange

/-! ## Forms that are read -/

/-- Something is found, and it is an original but for what is stripped. -/
def Restores {α γ : Type} (found : Option α) (strip : α → γ) (original : γ) : Prop :=
  ∃ a, found = some a ∧ strip a = original

namespace Restores

variable {α β γ δ : Type} {found : Option α} {strip : α → γ} {original : γ}

theorem plain {a : α} (same : strip a = original) : Restores (some a) strip original :=
  ⟨a, rfl, same⟩

theorem bind {next : α → Option β} {stripNext : β → δ} {originalNext : δ} (first : Restores found strip original)
    (second : ∀ a, strip a = original → Restores (next a) stripNext originalNext) :
    Restores (found >>= next) stripNext originalNext := by
  obtain ⟨a, rfl, same⟩ := first
  exact second a same

theorem map {f : α → β} {stripNext : β → δ} {originalNext : δ} (h : Restores found strip original)
    (same : ∀ a, strip a = original → stripNext (f a) = originalNext) :
    Restores (found.map f) stripNext originalNext := by
  obtain ⟨a, rfl, here⟩ := h
  exact ⟨f a, rfl, same a here⟩

/-- Forms that are read one by one are read as a list. -/
theorem mapM {read? : β → Option α} {originalOf : δ → γ} {as : List δ} {bs : List β}
    (h : List.Forall₂ (fun a b => Restores (read? b) strip (originalOf a)) as bs) :
    Restores (bs.mapM read?) (List.map strip) (as.map originalOf) := by
  induction h with
  | nil => exact plain rfl
  | @cons a b as bs first _ ih =>
      rw [List.mapM_cons, List.map_cons]
      refine first.bind fun c here => ih.bind fun cs later => plain ?_
      rw [List.map_cons, here, later]

end Restores

/-! ## Entries -/

variable {field : Field}

theorem restores_value {v : Value} {norm : String} (written : writeValue field v = .ok norm)
    (exchanges : field.Exchanges v) : Restores (value? field norm) Single.value v := by
  rw [value?, ofNorm_of_writeValue written exchanges]
  exact .plain rfl

theorem restores_single {s : Single} {norm : String} (written : writeSingle field s = .ok norm)
    (exchanges : field.Exchanges s.value) : Restores (value? field norm) Single.withoutView s.withoutView := by
  obtain ⟨t, found, same⟩ := restores_value written exchanges
  exact ⟨t, found, by rw [Single.withoutView, Single.withoutView, same]⟩

theorem restores_range {r : Range} {form : RangeForm} (written : writeRange field r = .ok form)
    (lower : field.Exchanges r.lower) (upper : field.Exchanges r.upper) :
    Restores (range? field form) Range.withoutView r.withoutView := by
  obtain ⟨low, high, first, second, rfl⟩ := writeRange_eq_ok written
  refine (restores_value first lower).bind fun s hs => (restores_value second upper).bind fun t ht => .plain ?_
  rw [Range.withoutView, Range.withoutView, hs, ht]

theorem restores_comparison {c : Comparison} {form : ComparisonForm} (written : writeComparison field c = .ok form)
    (exchanges : field.Exchanges c.value) :
    Restores (comparison? field form) Comparison.withoutView c.withoutView := by
  obtain ⟨norm, value, rfl⟩ := writeComparison_eq_ok written
  refine (restores_value value exchanges).map fun s hs => ?_
  rw [Comparison.withoutView, Comparison.withoutView, hs]

theorem match?_writeMatch (m : TextMatch) : match? (writeMatch m) = some m := by
  rw [match?, writeMatch, TextMatch.typeName, MatchKind.ofFullName?_fullName]
  rfl

/-- What is read of a written bag is that bag but for its views. -/
theorem restores_bag {bag : Bag} {form : BagForm} (written : writeBag field bag = .ok form)
    (exchanges : bag.AllValues field.Exchanges) :
    Restores (bag? field form) Bag.withoutViews bag.withoutViews := by
  rw [Bag.allValues_iff] at exchanges
  obtain ⟨exSingles, exExcluded, exRanges, exExcludedRanges, exComparisons⟩ := exchanges
  obtain ⟨_, _, _, _, _, hsingles, hexcluded, hranges, hexcludedRanges, hcomparisons, rfl⟩ := writeBag_eq_ok written
  have values {values : List Single} {norms : List String} (written : values.mapM (writeSingle field) = .ok norms)
      (exchanges : ∀ s ∈ values, field.Exchanges s.value) :=
    Restores.mapM (forall₂_of_mem (mapM_eq_ok_iff.mp written) fun s mem _ _ single =>
      restores_single single (exchanges s mem))
  have intervals {ranges : List Range} {forms : List RangeForm} (written : ranges.mapM (writeRange field) = .ok forms)
      (exchanges : ∀ r ∈ ranges, field.Exchanges r.lower ∧ field.Exchanges r.upper) :=
    Restores.mapM (forall₂_of_mem (mapM_eq_ok_iff.mp written) fun r mem _ _ range =>
      restores_range range (exchanges r mem).1 (exchanges r mem).2)
  have relations := Restores.mapM (forall₂_of_mem (mapM_eq_ok_iff.mp hcomparisons) fun c mem _ _ comparison =>
    restores_comparison comparison (exComparisons c mem))
  have patterns : Restores ((bag.textMatches.map writeMatch).mapM match?) id bag.textMatches := by
    have kept : (bag.textMatches.map writeMatch).mapM match? = some bag.textMatches := by
      rw [mapM_eq_some_iff, List.map_map]
      exact List.map_congr_left fun m _ => match?_writeMatch m
    rw [kept]
    exact .plain rfl
  refine (values hsingles exSingles).bind fun _ first => (values hexcluded exExcluded).bind fun _ second =>
    (intervals hranges exRanges).bind fun _ third => (intervals hexcludedRanges exExcludedRanges).bind fun _ fourth =>
      relations.bind fun _ fifth => patterns.bind fun found (sixth : found = bag.textMatches) => .plain ?_
  rw [Bag.withoutViews, Bag.withoutViews, first, second, third, fourth, fifth, sixth]

theorem shown_iff {v : Value} {norm : String} (written : writeValue field v = .ok norm)
    (exchanges : field.Exchanges v) : Shown field norm ↔ field.Printable v := by
  simp only [Shown, ofNorm_of_writeValue written exchanges, Except.ok.injEq, forall_eq']

/-- The norms of a written bag have values that can be printed exactly if the values in the bag can be. -/
theorem norms_shown_iff {bag : Bag} {form : BagForm} (written : writeBag field bag = .ok form)
    (exchanges : bag.AllValues field.Exchanges) :
    (∀ norm ∈ form.norms, Shown field norm) ↔ bag.AllValues field.Printable := by
  rw [Bag.allValues_iff] at exchanges ⊢
  obtain ⟨exSingles, exExcluded, exRanges, exExcludedRanges, exComparisons⟩ := exchanges
  obtain ⟨_, _, _, _, _, hsingles, hexcluded, hranges, hexcludedRanges, hcomparisons, rfl⟩ := writeBag_eq_ok written
  have ofRange {r : Range} {range : RangeForm} (written : writeRange field r = .ok range)
      (exchanges : field.Exchanges r.lower ∧ field.Exchanges r.upper) :
      (∀ norm ∈ [range.lower, range.upper], Shown field norm) ↔ field.Printable r.lower ∧ field.Printable r.upper := by
    obtain ⟨low, high, first, second, rfl⟩ := writeRange_eq_ok written
    rw [List.forall_mem_cons, List.forall_mem_singleton, shown_iff first exchanges.1, shown_iff second exchanges.2]
  have ofComparison {c : Comparison} {comparison : ComparisonForm}
      (written : writeComparison field c = .ok comparison) (exchanges : field.Exchanges c.value) :
      Shown field comparison.value ↔ field.Printable c.value := by
    obtain ⟨norm, value, rfl⟩ := writeComparison_eq_ok written
    exact shown_iff value exchanges
  simp only [BagForm.norms, List.forall_mem_append, List.forall_mem_flatMap, List.forall_mem_map, and_assoc]
  exact and_congr (forall_mem_iff_of_mapM hsingles fun s mem _ written => shown_iff written (exSingles s mem))
    (and_congr (forall_mem_iff_of_mapM hexcluded fun s mem _ written => shown_iff written (exExcluded s mem))
      (and_congr (forall_mem_iff_of_mapM hranges fun r mem _ written => ofRange written (exRanges r mem))
        (and_congr (forall_mem_iff_of_mapM hexcludedRanges fun r mem _ written =>
            ofRange written (exExcludedRanges r mem))
          (forall_mem_iff_of_mapM hcomparisons fun c mem _ written => ofComparison written (exComparisons c mem)))))

/-! ## Named bags -/

variable {schema : Schema}

/-- A property of all values in a bag and of the field it is about. -/
def AboutField (schema : Schema) (P : Field → Value → Prop) (name : String) (bag : Bag) : Prop :=
  ∀ field, schema.field? name = some field → bag.AllValues (P field)

theorem aboutField_iff {P : Field → Value → Prop} {name : String} {bag : Bag} (known : schema.field? name = some field) :
    AboutField schema P name bag ↔ bag.AllValues (P field) := by
  rw [AboutField, known]
  simp only [Option.some.injEq, forall_eq']

theorem restores_namedBag {entry : String × Bag} {form : String × BagForm}
    (written : writeNamedBag schema entry = .ok form)
    (exchanges : AboutField schema Field.Exchanges entry.1 entry.2) :
    Restores (namedBag? schema form) withoutViews (withoutViews entry) := by
  obtain ⟨name, field, known, written⟩ := writeNamedBag_eq_ok written
  have read : namedBag? schema form = (bag? field form.2).map fun found => (entry.1, found) := by
    rw [namedBag?, name, known, Option.map_eq_bind]
    rfl
  rw [read]
  refine (restores_bag written (exchanges field known)).map fun found same => ?_
  rw [withoutViews, withoutViews, same]

theorem formShown_iff {entry : String × Bag} {form : String × BagForm} (written : writeNamedBag schema entry = .ok form)
    (exchanges : AboutField schema Field.Exchanges entry.1 entry.2) :
    FormShown schema form ↔ AboutField schema Field.Printable entry.1 entry.2 := by
  obtain ⟨name, field, known, written⟩ := writeNamedBag_eq_ok written
  rw [FormShown, name, aboutField_iff known, known]
  simp only [Option.some.injEq, forall_eq']
  exact norms_shown_iff written (exchanges field known)

theorem filled_filled (bags : List (String × Bag)) : filled (filled bags) = filled bags := by
  rw [filled, filled, List.filter_filter]
  simp only [Bool.and_self]

/-- Named bags that are those of a collection but for their views make that collection but for its views. -/
theorem withoutViews_ofList_filled {fields : Keyed Bag} {bags : List (String × Bag)}
    (same : bags.map withoutViews = fields.filled.entries.map withoutViews) :
    ((Keyed.ofList (filled bags)).map fun _ => Bag.withoutViews) = fields.filled.map fun _ => Bag.withoutViews := by
  have full : (filled bags).map withoutViews = fields.filled.entries.map withoutViews := by
    rw [← filled_withoutViews, same, filled_withoutViews, Keyed.filled, filled_filled]
  have names : (filled bags).map Prod.fst = fields.filled.entries.map Prod.fst := by
    have first := congrArg (List.map Prod.fst) full
    rwa [List.map_map, List.map_map] at first
  refine Keyed.ext_entries ?_
  rw [Keyed.entries_map, Keyed.entries_map, Keyed.entries_ofList (names ▸ fields.filled.distinct)]
  exact full

/-! ## Trees -/

/-- Writing a tree does not look at empty bags. -/
theorem writeGroup_withoutEmptyBags (group : Group) :
    writeGroup schema group.withoutEmptyBags = writeGroup schema group := by
  induction group with
  | step logical fields groups ih =>
      rw [Group.withoutEmptyBags_mk, writeGroup_mk, writeGroup_mk, Keyed.filled, filled_filled, List.mapM_map]
      simp only [Function.comp_def, mapM_congr ih]

/-- A valid tree whose values have norms is written. -/
theorem exists_writeGroup {limits : Limits} {group : Group} {level : Nat}
    (valid : Validation.groupProblems schema limits group level = [])
    (exchanges : group.AllBags (AboutField schema Field.Exchanges)) : ∃ form, writeGroup schema group = .ok form := by
  refine (succeeds_writeGroup_iff group).mpr (((known_of_problems valid).and exchanges).mono ?_)
  rintro name bag ⟨⟨field, known⟩, exchanges⟩ -
  refine ⟨field, known, fun e he v hv => ?_⟩
  obtain ⟨norm, toNorm, -⟩ := exchanges field known e he v hv
  exact ⟨norm, toNorm⟩

/-- What is read of a written tree is that tree without its empty bags, but for its views. -/
theorem restores_group {root : Group} {form : GroupForm} (written : writeGroup schema root = .ok form)
    (exchanges : root.AllBags (AboutField schema Field.Exchanges)) :
    Restores (unrestricted? schema form) Group.withoutViews root.withoutEmptyBags.withoutViews := by
  induction root generalizing form with
  | step logical fields groups ih =>
      obtain ⟨named, forms, hnamed, hforms, rfl⟩ := writeGroup_mk_eq_ok written
      rw [Group.allBags_mk] at exchanges
      have bags := Restores.mapM (forall₂_of_mem (mapM_eq_ok_iff.mp hnamed) fun entry mem _ _ writes =>
        restores_namedBag writes (exchanges.1 entry (List.mem_of_mem_filter mem)))
      have below := Restores.mapM (forall₂_of_mem (mapM_eq_ok_iff.mp hforms) fun g mem _ _ writes =>
        ih g mem writes (exchanges.2 g mem))
      rw [unrestricted?_mk]
      refine bags.bind fun found hfound => below.bind fun gs hgs => .plain ?_
      rw [Group.withoutEmptyBags_mk, Group.withoutViews_mk, Group.withoutViews_mk, hgs, List.map_map,
        withoutViews_ofList_filled hfound]
      cases logical <;> rfl

/-- All groups of a form that is written of a valid tree are entered, so all values in the tree are to be shown. -/
theorem enteredForms_shown_iff {limits : Limits} {root : Group} {form : GroupForm} {level : Nat}
    (valid : Validation.groupProblems schema limits root level = []) (written : writeGroup schema root = .ok form)
    (exchanges : root.AllBags (AboutField schema Field.Exchanges)) :
    (∀ entry ∈ enteredForms limits form level, FormShown schema entry) ↔
      root.AllBags (AboutField schema Field.Printable) := by
  induction root generalizing form level with
  | step logical fields groups ih =>
      obtain ⟨-, few, shallow, below⟩ := (Validation.groupProblems_mk_eq_nil_iff _ _ _ _ _ _).mp valid
      obtain ⟨named, forms, hnamed, hforms, rfl⟩ := writeGroup_mk_eq_ok written
      rw [Group.allBags_mk] at exchanges ⊢
      have bags : (∀ entry ∈ named.entries, FormShown schema entry) ↔
          ∀ entry ∈ fields.entries, AboutField schema Field.Printable entry.1 entry.2 := by
        rw [forall_mem_iff_of_mapM hnamed fun entry mem _ writes =>
          formShown_iff writes (exchanges.1 entry (List.mem_of_mem_filter mem)), filled, List.forall_mem_filter]
        -- only bags with entries are written, and the others have no values
        refine forall₂_congr fun entry _ => ?_
        cases none : entry.2.isEmpty with
        | true => exact ⟨fun _ field _ => Bag.allValues_of_isEmpty none _, fun _ some => absurd some Bool.false_ne_true⟩
        | false => exact ⟨fun printable => printable rfl, fun printable _ => printable⟩
      have entered : (if limits.maxNesting < level + 1 then []
          else (forms.take limits.maxGroups).flatMap fun form => enteredForms limits form (level + 1)) =
          forms.flatMap fun form => enteredForms limits form (level + 1) := by
        have same : forms.length = groups.length := (mapM_eq_ok_iff.mp hforms).length_eq.symm
        rw [List.take_of_length_le (same ▸ few)]
        split
        · rename_i deep
          have none : groups = [] := by_contra fun some => absurd (shallow some) (Nat.not_le.mpr deep)
          rw [none] at hforms
          cases hforms
          rfl
        · rfl
      rw [enteredForms_mk, entered, List.forall_mem_append, bags, List.forall_mem_flatMap]
      exact and_congr_right fun _ => forall_mem_iff_of_mapM hforms fun g mem _ writes =>
        ih g mem (below g mem) writes (exchanges.2 g mem)

/-! ## Round trip -/

/-- What a form stands for that is written of a valid tree: the same tree without its empty bags, which is valid too, and
written as the same form. -/
theorem exists_unrestricted?_of_written {limits : Limits} {root : Group} {form : GroupForm}
    (valid : (⟨schema, root⟩ : Condition).problems limits = [])
    (exchanges : root.AllBags (AboutField schema Field.Exchanges)) (written : writeGroup schema root = .ok form) :
    ∃ found, unrestricted? schema form = some found ∧ (⟨schema, found⟩ : Condition).problems limits = [] ∧
      found.withoutViews = root.withoutEmptyBags.withoutViews ∧
        Condition.same ⟨schema, root.withoutEmptyBags⟩ ⟨schema, found⟩ = true ∧ writeGroup schema found = .ok form := by
  obtain ⟨found, stands, same⟩ := restores_group written exchanges
  have equal : root.withoutEmptyBags.same found = true := by
    refine Group.same_of_withoutViews same.symm
      (Group.allBags_withoutEmptyBags (((known_of_problems valid).and exchanges).mono ?_))
    rintro name bag ⟨⟨field, known⟩, exchanges⟩ e he v hv
    exact (exchanges field known e he v hv).same_self
  refine ⟨found, stands, ?_, same, ?_, ?_⟩
  · exact Condition.problems_of_withoutViews same (Validation.groupProblems_withoutEmptyBags valid)
  · rw [Condition.same, equal]
    simp
  · rw [← writeGroup_withoutViews, same, writeGroup_withoutViews, writeGroup_withoutEmptyBags, written]

/-- A valid condition whose values are what their norms denote is written as a form that is read as the same condition
without its empty bags, and that one is written as the same form, exactly if all its values can be shown. -/
theorem write_read_write_iff {c : Condition} {limits : Limits} (valid : c.problems limits = [])
    (exchanges : c.root.AllBags (AboutField c.schema Field.Exchanges)) :
    (∃ form d, c.exportBy write limits = .ok form ∧ read c.schema limits form = .ok d ∧ d.schema = c.schema ∧
        d.root.withoutViews = c.root.withoutEmptyBags.withoutViews ∧
          Condition.same ⟨c.schema, c.root.withoutEmptyBags⟩ d = true ∧ d.exportBy write limits = .ok form) ↔
      c.root.AllBags (AboutField c.schema Field.Printable) := by
  rcases c with ⟨schema, root⟩
  obtain ⟨form, written⟩ := exists_writeGroup valid exchanges
  have output : (⟨schema, root⟩ : Condition).exportBy write limits = .ok form :=
    (Condition.exportBy_eq_write valid).trans written
  rw [← enteredForms_shown_iff valid written exchanges]
  constructor
  · rintro ⟨other, d, written, accepted, -⟩
    cases output.symm.trans written
    exact ((read_eq_ok_iff schema limits form d).mp accepted).1
  · intro shows
    obtain ⟨found, stands, validAgain, same, equal, again⟩ := exists_unrestricted?_of_written valid exchanges written
    refine ⟨form, ⟨schema, found⟩, output, ?_, rfl, same, equal, (Condition.exportBy_eq_write validAgain).trans again⟩
    exact (read_eq_ok_iff _ _ _ _).mpr ⟨shows, found, stands, validAgain, rfl⟩

/-- A leap day. -/
def leapDay : Date :=
  ⟨2012, 2, 29, by decide⟩

/-- The day after it. -/
def afterLeapDay : Date :=
  ⟨2012, 3, 1, by decide⟩

/-- A field of dates. -/
def days : Field :=
  .date "day" ⟨"%d.%m.%Y"⟩

/-- The schema with this field and a field of texts. -/
def diary : Schema :=
  ⟨"diary", [days, .text "title"], by decide⟩

/-- An open range of dates, an empty bag, and two groups below: one with an excluded text and a negated match, and an
empty one. -/
def diaryRoot : Group :=
  .mk .any ⟨[("day", .ofList [.range ⟨.date leapDay, .date afterLeapDay, true, false, "", ""⟩]), ("title", .empty)],
      by decide⟩
    [.mk .all ⟨[("title", .ofList [.excludedSingle ⟨.string "rain", ""⟩, .textMatch ⟨"^a+", .regex, true, true⟩])],
      by decide⟩ [], .mk .any .empty []]

theorem write_read_write_iff_diary :
    (⟨diary, diaryRoot⟩ : Condition).problems ⟨2, 2, 2⟩ = [] ∧
      diaryRoot.AllBags (AboutField diary Field.Exchanges) ∧
        ∃ form d, (⟨diary, diaryRoot⟩ : Condition).exportBy write ⟨2, 2, 2⟩ = .ok form ∧
          read diary ⟨2, 2, 2⟩ form = .ok d ∧ d.schema = diary ∧
            d.root.withoutViews = diaryRoot.withoutEmptyBags.withoutViews ∧
              Condition.same ⟨diary, diaryRoot.withoutEmptyBags⟩ d = true ∧
                d.exportBy write ⟨2, 2, 2⟩ = .ok form := by
  have valid : (⟨diary, diaryRoot⟩ : Condition).problems ⟨2, 2, 2⟩ = [] := by decide +kernel
  have all {P : Field → Value → Prop} (first : P days (.date leapDay)) (second : P days (.date afterLeapDay))
      (title : P (.text "title") (.string "rain")) : diaryRoot.AllBags (AboutField diary P) := by
    have ofDay : diary.field? "day" = some days := rfl
    have ofTitle : diary.field? "title" = some (.text "title") := rfl
    have range : AboutField diary P "day" (.ofList [.range ⟨.date leapDay, .date afterLeapDay, true, false, "", ""⟩]) :=
      (aboutField_iff ofDay).mpr
        (List.forall_mem_singleton.mpr (List.forall_mem_cons.mpr ⟨first, List.forall_mem_singleton.mpr second⟩))
    have none : AboutField diary P "title" .empty :=
      (aboutField_iff ofTitle).mpr (Bag.allValues_of_isEmpty rfl _)
    have text : AboutField diary P "title"
        (.ofList [.excludedSingle ⟨.string "rain", ""⟩, .textMatch ⟨"^a+", .regex, true, true⟩]) :=
      (aboutField_iff ofTitle).mpr (List.forall_mem_cons.mpr
        ⟨List.forall_mem_singleton.mpr title, List.forall_mem_singleton.mpr (List.forall_mem_nil _)⟩)
    simp only [diaryRoot, Group.allBags_mk, List.forall_mem_cons]
    exact ⟨⟨range, none, List.forall_mem_nil _⟩, ⟨⟨text, List.forall_mem_nil _⟩, List.forall_mem_nil _⟩,
      ⟨List.forall_mem_nil _, List.forall_mem_nil _⟩, List.forall_mem_nil _⟩
  have exchanges : diaryRoot.AllBags (AboutField diary Field.Exchanges) :=
    all ⟨"2012-02-29", rfl, rfl⟩ ⟨"2012-03-01", rfl, rfl⟩ ⟨"rain", rfl, rfl⟩
  have printable : diaryRoot.AllBags (AboutField diary Field.Printable) :=
    all (Field.printable_of_toView (show days.toView _ = .ok "29.02.2012" from rfl))
      (Field.printable_of_toView (show days.toView _ = .ok "01.03.2012" from rfl))
      (Field.printable_of_toView (show (Field.text "title").toView _ = .ok "rain" from rfl))
  exact ⟨valid, exchanges, (write_read_write_iff valid exchanges).mpr printable⟩

/-- A leap day in the timetable. -/
def timetableRoot : Group :=
  .mk .all ⟨[("day", .ofList [.single ⟨.date leapDay, ""⟩])], by decide⟩ []

/-- A valid condition whose value is what its norm denotes, and whose form cannot be read. -/
theorem written_not_read :
    (⟨timetable, timetableRoot⟩ : Condition).problems ⟨1, 1, 1⟩ = [] ∧
      timetableRoot.AllBags (AboutField timetable Field.Exchanges) ∧
        ∃ form, (⟨timetable, timetableRoot⟩ : Condition).exportBy write ⟨1, 1, 1⟩ = .ok form ∧
          ∀ d, read timetable ⟨1, 1, 1⟩ form ≠ .ok d := by
  refine ⟨by decide +kernel, ?_, _, rfl, fun d accepted => ?_⟩
  · refine (Group.allBags_mk _ _ _ _).mpr ⟨List.forall_mem_singleton.mpr ?_, List.forall_mem_nil _⟩
    exact (aboutField_iff rfl).mpr
      (List.forall_mem_singleton.mpr (List.forall_mem_singleton.mpr ⟨"2012-02-29", rfl, rfl⟩))
  · obtain ⟨shows, -⟩ := (read_eq_ok_iff _ _ _ _).mp accepted
    exact shows _ List.mem_cons_self hours rfl _ List.mem_cons_self (.date leapDay) rfl ⟨"%H"⟩ rfl

end Exchange

end Criteria
