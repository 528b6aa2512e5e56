import Criteria.Proofs.Sql.Denotation

/-!
# The variants of bound values

A strategy picks a variant for a value, and the conversions of the field apply it: to the value that is bound, to its
placeholder and to the column.  What a clause looks like, whatever converters are set up, can be said without making it:
a form has slots for the values, each with the hints under which its value is converted, and an expression in which the
placeholders are wrapped under the same hints.  In a range the column stands for both bounds, and both are converted and
wrapped in the variant of the lower one; every other value has its own.
-/

namespace Criteria.Sql

/-! ## Slots -/

namespace Target

/-- What is bound for a value under hints. -/
def converted (t : Target) (v : Value) (hints : Hints) : Except ConversionFailure Value :=
  match t.converters with
  | none => .ok v
  | some cs => cs.convert v hints

/-- A placeholder as it stands in the SQL under hints. -/
def wrapped (t : Target) (placeholder : String) (hints : Hints) : String :=
  match t.converters with
  | none => placeholder
  | some cs => cs.placeholderSql placeholder hints

end Target

/-- What a placeholder stands for: a value of a field, converted under hints, or a text as it is. -/
inductive Slot where
  | value (t : Target) (v : Value) (hints : Hints)
  | pattern (text : String)

/-- A value is what is bound for a slot. -/
def Slot.Becomes : Slot → Value → Prop
  | .value t v hints, bound => t.converted v hints = .ok bound
  | .pattern text, bound => bound = .string text

theorem becomes_of_converted {t : Target} {v bound : Value} {hints : Hints} (h : t.converted v hints = .ok bound) :
    (Slot.value t v hints).Becomes bound :=
  h

theorem becomes_pattern (text : String) : (Slot.pattern text).Becomes (.string text) :=
  rfl

/-- Values are bound for slots, one for each, behind those that are bound before. -/
def Binds (slots : List Slot) (before after : List Value) : Prop :=
  ∃ values, after = before ++ values ∧ List.Forall₂ Slot.Becomes slots values

theorem binds_nil (values : List Value) : Binds [] values values :=
  ⟨[], (List.append_nil _).symm, .nil⟩

theorem binds_singleton {slot : Slot} {bound : Value} (becomes : slot.Becomes bound) (before : List Value) :
    Binds [slot] before (before ++ [bound]) :=
  ⟨[bound], rfl, .cons becomes .nil⟩

theorem Binds.append {slots others : List Slot} {before middle after : List Value} (first : Binds slots before middle)
    (second : Binds others middle after) : Binds (slots ++ others) before after := by
  obtain ⟨values, rfl, become⟩ := first
  obtain ⟨later, rfl, becomeLater⟩ := second
  exact ⟨values ++ later, List.append_assoc _ _ _, List.rel_append become becomeLater⟩

theorem Binds.length_eq {slots : List Slot} {before after : List Value} (h : Binds slots before after) :
    after.length = before.length + slots.length := by
  obtain ⟨values, rfl, become⟩ := h
  rw [List.length_append, become.length_eq]

/-! ## Forms -/

/-- An expression with slots; its placeholders are numbered from a given number on. -/
structure Form where
  slots : List Slot
  expr : Nat → Expr

namespace Form

/-- The slots of several forms. -/
def slotsOf (forms : List Form) : List Slot :=
  forms.flatMap slots

/-- The expressions of several forms, one after another. -/
def exprs : List Form → Nat → List Expr
  | [], _ => []
  | form :: forms, n => form.expr n :: exprs forms (n + form.slots.length)

/-- A form in parentheses. -/
def paren (form : Form) : Form :=
  ⟨form.slots, fun n => .paren (form.expr n)⟩

/-- Joins forms as a group says. -/
def join (logical : Logical) (forms : List Form) : Form :=
  ⟨slotsOf forms, fun n => .join logical (exprs forms n)⟩

/-- Joins the forms that let rows in to those that take rows away. -/
def admitting (admits narrows : List Form) : Form :=
  ⟨slotsOf admits ++ slotsOf narrows, fun n =>
    .admitting (exprs admits n) (exprs narrows (n + (slotsOf admits).length))⟩

variable (t : Target)

/-- The test of a column against a value, in the variant of the value. -/
def compare (sign : String) (v : Value) : Form :=
  let hints := t.hints v
  ⟨[.value t v hints], fun n =>
    .test s!"{t.columnSql hints} {sign} {t.wrapped (t.platform.placeholder n) hints}"⟩

/-- The test whether a column lies in a range, or outside of it.  The upper bound is in the variant of a value that is
picked for it. -/
def range (upper : Range → Value) (excluded : Bool) (r : Range) : Form :=
  let hints := t.hints r.lower
  let hintsUpper := t.hints (upper r)
  let column := t.columnSql hints
  ⟨[.value t r.lower hints, .value t r.upper hintsUpper], fun n =>
    let parts : List Expr :=
      [.test s!"{column} {Target.lowerSign excluded r.includesLower} {t.wrapped (t.platform.placeholder n) hints}",
        .test (s!"{column} {Target.upperSign excluded r.includesUpper} " ++
          t.wrapped (t.platform.placeholder (n + 1)) hintsUpper)]
    .paren (if excluded then .any parts else .all parts)⟩

/-- The test whether a column matches a pattern; where the platform does not know it there is no text. -/
def textMatch (m : TextMatch) : Form :=
  let column := t.columnSql (t.hints (.string m.text))
  match m.kind with
  | .equals =>
      let sign := if m.negated then "<>" else "="
      ⟨[.pattern m.text], fun n =>
        let placeholder := t.platform.placeholder n
        .test (if m.ignoresCase then s!"LOWER({column}) {sign} LOWER({placeholder})"
          else s!"{column} {sign} {placeholder}")⟩
  | .regex =>
      ⟨[.pattern (t.platform.regexValue m.text m.ignoresCase)], fun n =>
        .test (((t.platform.regexSql column (t.platform.placeholder n) m.negated m.ignoresCase).toOption).getD "")⟩
  | _ =>
      ⟨[.pattern (Target.likePattern t.platform m)], fun n =>
        .test (t.platform.likeSql column (t.platform.placeholder n) m.negated m.ignoresCase)⟩

/-- The tests of a bag. -/
def bag (upper : Range → Value) (bag : Bag) : Form :=
  admitting
    (bag.singles.map (fun s => compare t "=" s.value) ++ bag.ranges.map (range t upper false) ++
      (bag.comparisons.filter fun c => !c.operator.narrows).map (fun c => compare t c.operator.sign c.value) ++
      (bag.textMatches.filter fun m => !m.negated).map (textMatch t))
    (bag.excludedSingles.map (fun s => compare t "<>" s.value) ++ bag.excludedRanges.map (range t upper true) ++
      (bag.comparisons.filter fun c => c.operator.narrows).map (fun c => compare t c.operator.sign c.value) ++
      (bag.textMatches.filter fun m => m.negated).map (textMatch t))

end Form

namespace Mapping

/-- The forms of the bags with entries. -/
def bagForms (m : Mapping) (upper : Range → Value) (entries : List (String × Bag)) : List Form :=
  (entries.filter fun entry => !entry.2.isEmpty).filterMap fun entry =>
    (m.target entry.1).toOption.map fun t => .paren (.bag t upper entry.2)

/-- The form of a group: those of its bags and of the groups below, as far as there is anything in them. -/
def form (m : Mapping) (upper : Range → Value) : Group → Form :=
  Group.fold fun logical fields below =>
    .join logical (m.bagForms upper fields.entries ++ (below.filter fun f => !(f.expr 1).isEmpty).map .paren)

theorem form_mk (m : Mapping) (upper : Range → Value) (logical : Logical) (fields : Keyed Bag) (groups : List Group) :
    m.form upper (.mk logical fields groups) =
      .join logical (m.bagForms upper fields.entries ++
        ((groups.map (m.form upper)).filter fun f => !(f.expr 1).isEmpty).map .paren) := by
  rw [form, Group.fold_mk]

end Mapping

/-! ## Making of forms -/

/-- An expression, in front of which some values are bound and behind which all of these and maybe more, is a form with
its slots filled. -/
structure Fills (form : Form) (before after : List Value) (e : Expr) : Prop where
  bound : Binds form.slots before after
  expr : e = form.expr (before.length + 1)

/-- Expressions that are made one after another are forms with their slots filled. -/
structure FillsAll (forms : List Form) (before after : List Value) (es : List Expr) : Prop where
  bound : Binds (Form.slotsOf forms) before after
  exprs : es = Form.exprs forms (before.length + 1)

namespace Form

theorem slotsOf_append (forms others : List Form) : slotsOf (forms ++ others) = slotsOf forms ++ slotsOf others :=
  List.flatMap_append

theorem exprs_append (forms others : List Form) (n : Nat) :
    exprs (forms ++ others) n = exprs forms n ++ exprs others (n + (slotsOf forms).length) := by
  induction forms generalizing n with
  | nil => rfl
  | cons form forms ih =>
      have slots : slotsOf (form :: forms) = form.slots ++ slotsOf forms := List.flatMap_cons
      rw [List.cons_append, exprs, exprs, ih, slots, List.length_append, Nat.add_assoc]
      rfl

/-- Whether a form of a group has any text does not depend on how its placeholders are numbered. -/
theorem isEmpty_expr_join (logical : Logical) (forms : List Form) (n : Nat) :
    ((join logical forms).expr n).isEmpty = forms.isEmpty := by
  rw [join, Mapping.isEmpty_join]
  cases forms <;> rfl

end Form

section
variable {before middle after : List Value} {form : Form} {forms others : List Form} {e : Expr} {es fs : List Expr}

theorem fillsAll_nil (values : List Value) : FillsAll [] values values [] :=
  ⟨binds_nil values, rfl⟩

theorem FillsAll.append (first : FillsAll forms before middle es) (second : FillsAll others middle after fs) :
    FillsAll (forms ++ others) before after (es ++ fs) := by
  constructor
  · rw [Form.slotsOf_append]
    exact first.bound.append second.bound
  · rw [Form.exprs_append, first.exprs, second.exprs, first.bound.length_eq, Nat.add_right_comm]

theorem Fills.cons (first : Fills form before middle e) (later : FillsAll others middle after es) :
    FillsAll (form :: others) before after (e :: es) := by
  have alone : FillsAll [form] before middle [e] := by
    refine ⟨?_, congrArg (fun e => [e]) first.expr⟩
    rw [Form.slotsOf, List.flatMap_singleton]
    exact first.bound
  exact alone.append later

theorem Fills.paren (h : Fills form before after e) : Fills form.paren before after (.paren e) :=
  ⟨h.bound, congrArg Expr.paren h.expr⟩

theorem FillsAll.join (h : FillsAll forms before after es) (logical : Logical) :
    Fills (.join logical forms) before after (.join logical es) :=
  ⟨h.bound, congrArg (Expr.join logical) h.exprs⟩

theorem FillsAll.admitting (first : FillsAll forms before middle es) (second : FillsAll others middle after fs) :
    Fills (.admitting forms others) before after (.admitting es fs) := by
  refine ⟨first.bound.append second.bound, ?_⟩
  rw [first.exprs, second.exprs, first.bound.length_eq, Nat.add_right_comm]
  rfl

end

theorem ensures_mapM_fills {α : Type} {p : Platform} {make : α → Making Expr} {form : α → Form}
    (h : ∀ x, Ensures p (make x) fun before after e => Fills (form x) before after e) (xs : List α) :
    Ensures p (xs.mapM make) fun before after es => FillsAll (xs.map form) before after es := by
  induction xs with
  | nil =>
      rw [List.mapM_nil]
      exact ensures_pure fillsAll_nil
  | cons x xs ih =>
      rw [List.mapM_cons]
      apply (h x).bind
      intro e before
      apply ih.bind
      intro es middle
      apply ensures_pure
      intro after others first
      exact first.cons others

/-- A value is bound for a slot, and its placeholder is the one with the next number. -/
theorem ensures_bindValue_binds (p : Platform) {slot : Slot} {v : Value} (becomes : slot.Becomes v) :
    Ensures p (bindValue v) fun before after placeholder =>
      Binds [slot] before after ∧ placeholder = p.placeholder (before.length + 1) := by
  rintro d d' placeholder rfl made
  cases made
  exact ⟨rfl, binds_singleton becomes d.parameters, rfl⟩

namespace Target

variable {t : Target}

theorem binds_bind (v : Value) (hints : Hints) :
    Ensures t.platform (t.bind v hints) fun before after placeholder =>
      Binds [.value t v hints] before after ∧
        placeholder = t.wrapped (t.platform.placeholder (before.length + 1)) hints := by
  unfold Target.bind wrapped
  cases set : t.converters with
  | none =>
      refine ensures_bindValue_binds t.platform (becomes_of_converted ?_)
      rw [converted, set]
  | some cs =>
      dsimp only
      cases done : cs.convert v hints with
      | error failure => exact ensures_throw _ _ _
      | ok w =>
          have becomes : t.converted v hints = .ok w := by
            rw [converted, set]
            exact done
          apply (ensures_bindValue_binds t.platform (becomes_of_converted becomes)).bind
          intro placeholder before
          apply ensures_pure
          rintro after ⟨bound, rfl⟩
          exact ⟨bound, rfl⟩

theorem fills_compare (sign : String) (v : Value) :
    Ensures t.platform (t.compare sign v) fun before after e => Fills (.compare t sign v) before after e := by
  unfold Target.compare
  apply (binds_bind v (t.hints v)).bind
  intro placeholder before
  apply ensures_pure
  rintro after ⟨bound, rfl⟩
  exact ⟨bound, rfl⟩

/-- Both bounds of a range are bound in the variant of the lower one. -/
theorem fills_range (excluded : Bool) (r : Range) :
    Ensures t.platform (t.range r excluded) fun before after e =>
      Fills (.range t Range.lower excluded r) before after e := by
  unfold Target.range
  apply (binds_bind r.lower (t.hints r.lower)).bind
  intro lower before
  apply (binds_bind r.upper (t.hints r.lower)).bind
  intro upper middle
  apply ensures_pure
  rintro after ⟨boundUpper, rfl⟩ ⟨boundLower, rfl⟩
  refine ⟨boundLower.append boundUpper, ?_⟩
  rw [boundLower.length_eq]
  rfl

theorem fills_textMatch (m : TextMatch) :
    Ensures t.platform (t.textMatch m) fun before after e => Fills (.textMatch t m) before after e := by
  unfold Target.textMatch Form.textMatch
  cases m.kind with
  | equals =>
      apply (ensures_bindValue_binds t.platform (becomes_pattern m.text)).bind
      intro placeholder before
      dsimp only
      cases m.ignoresCase with
      | true =>
          apply ensures_pure
          rintro after ⟨bound, rfl⟩
          exact ⟨bound, rfl⟩
      | false =>
          apply ensures_pure
          rintro after ⟨bound, rfl⟩
          exact ⟨bound, rfl⟩
  | regex =>
      apply (ensures_bindValue_binds t.platform (becomes_pattern _)).bind
      intro placeholder before
      dsimp only
      cases written : t.platform.regexSql (t.columnSql (t.hints (.string m.text))) placeholder m.negated
          m.ignoresCase with
      | error reason => exact ensures_throw _ _ _
      | ok sql =>
          apply ensures_pure
          rintro after ⟨bound, rfl⟩
          refine ⟨bound, ?_⟩
          dsimp only
          rw [written]
          rfl
  | _ =>
      apply (ensures_bindValue_binds t.platform (becomes_pattern _)).bind
      intro placeholder before
      apply ensures_pure
      rintro after ⟨bound, rfl⟩
      exact ⟨bound, rfl⟩

theorem fills_bag (bag : Bag) :
    Ensures t.platform (t.bag bag) fun before after e => Fills (.bag t Range.lower bag) before after e := by
  have value (sign : String) (s : Single) := fills_compare (t := t) sign s.value
  have comparison (c : Comparison) := fills_compare (t := t) c.operator.sign c.value
  apply (ensures_mapM_fills (value "=") bag.singles).bind
  intro singles _
  apply (ensures_mapM_fills (fills_range false) bag.ranges).bind
  intro ranges _
  apply (ensures_mapM_fills comparison _).bind
  intro comparisons _
  apply (ensures_mapM_fills fills_textMatch _).bind
  intro positives _
  apply (ensures_mapM_fills (value "<>") bag.excludedSingles).bind
  intro excludedSingles _
  apply (ensures_mapM_fills (fills_range true) bag.excludedRanges).bind
  intro excludedRanges _
  apply (ensures_mapM_fills comparison _).bind
  intro inequalities _
  apply (ensures_mapM_fills fills_textMatch _).bind
  intro mismatches _
  apply ensures_pure
  intro after h8 h7 h6 h5 h4 h3 h2 h1
  exact (((h1.append h2).append h3).append h4).admitting (((h5.append h6).append h7).append h8)

end Target

namespace Mapping

variable {m : Mapping}

theorem fills_bags (entries : List (String × Bag)) :
    Ensures m.platform (m.bags entries) fun before after es =>
      FillsAll (m.bagForms Range.lower entries) before after es := by
  induction entries with
  | nil => exact ensures_pure fillsAll_nil
  | cons entry entries ih =>
      rcases entry with ⟨name, bag⟩
      unfold bags
      cases empty : bag.isEmpty with
      | true => simpa [bagForms, empty] using ih
      | false =>
          simp only [Bool.false_eq_true, if_false]
          apply ensures_lift_bind
          intro t found
          obtain ⟨-, -, platform⟩ := target_eq_ok found
          have made := t.fills_bag bag
          rw [platform] at made
          apply made.bind
          intro part _
          apply ih.bind
          intro parts _
          apply ensures_pure
          intro after others first
          have same : m.bagForms Range.lower ((name, bag) :: entries) =
              .paren (.bag t Range.lower bag) :: m.bagForms Range.lower entries := by
            simp [bagForms, empty, found, Except.toOption]
          rw [same]
          exact first.paren.cons others

theorem isEmpty_expr_form (upper : Range → Value) (group : Group) (n : Nat) :
    ((m.form upper group).expr n).isEmpty = ((m.form upper group).expr 1).isEmpty := by
  cases group with
  | mk logical fields groups => rw [form_mk, Form.isEmpty_expr_join, Form.isEmpty_expr_join]

theorem slots_eq_nil_of_isEmpty {upper : Range → Value} {group : Group}
    (h : ((m.form upper group).expr 1).isEmpty = true) : (m.form upper group).slots = [] := by
  cases group with
  | mk logical fields groups =>
      rw [form_mk, Form.isEmpty_expr_join, List.isEmpty_iff] at h
      rw [form_mk, h]
      rfl

theorem fills_belowParts {groups : List Group}
    (h : ∀ group ∈ groups, Ensures m.platform (m.group group) fun before after e =>
      Fills (m.form Range.lower group) before after e) :
    Ensures m.platform (belowParts (groups.map m.group)) fun before after es =>
      FillsAll (((groups.map (m.form Range.lower)).filter fun f => !(f.expr 1).isEmpty).map .paren) before after es := by
  induction groups with
  | nil => exact ensures_pure fillsAll_nil
  | cons group groups ih =>
      obtain ⟨here, later⟩ := List.forall_mem_cons.mp h
      rw [List.map_cons, belowParts]
      apply here.bind
      intro part before
      apply (ih later).bind
      intro parts middle
      apply ensures_pure
      intro after others first
      have same : part.isEmpty = ((m.form Range.lower group).expr 1).isEmpty := by
        rw [first.expr, isEmpty_expr_form]
      rw [List.map_cons, List.filter_cons, ← same]
      cases empty : part.isEmpty with
      | true =>
          -- A group without text has bound nothing, so the groups behind it begin where it does.
          have bound := first.bound
          rw [slots_eq_nil_of_isEmpty (same.symm.trans empty)] at bound
          obtain ⟨values, rfl, become⟩ := bound
          cases become
          rw [List.append_nil] at others
          exact others
      | false => exact first.paren.cons others

/-- What is made of a group is its form, with the upper bounds of ranges in the variant of the lower ones. -/
theorem fills_group (group : Group) :
    Ensures m.platform (m.group group) fun before after e => Fills (m.form Range.lower group) before after e := by
  induction group with
  | step logical fields groups ih =>
      rw [Mapping.group, Group.fold_mk, form_mk]
      apply (fills_bags fields.entries).bind
      intro bags _
      apply (fills_belowParts ih).bind
      intro below _
      apply ensures_pure
      intro after belowFilled bagsFilled
      exact (bagsFilled.append belowFilled).join logical

end Mapping

/-! ## Variants of both bounds -/

namespace Target

variable {t : Target}

theorem hints_eq_of_strategy_eq {v w : Value} (same : (t.hints v).strategy = (t.hints w).strategy) :
    t.hints v = t.hints w := by
  unfold Target.hints at same ⊢
  cases set : t.converters with
  | none => rfl
  | some cs =>
      simp only [set] at same ⊢
      rw [same]

end Target

/-- The strategy of a field picks the same variant for both bounds of every range in a bag. -/
def Mapping.Steady (m : Mapping) (name : String) (bag : Bag) : Prop :=
  ∀ t, m.target name = .ok t →
    ∀ r ∈ bag.ranges ++ bag.excludedRanges, (t.hints r.upper).strategy = (t.hints r.lower).strategy

/-- The variant of a slot goes by the value that is bound for it. -/
def Slot.IsOwn : Slot → Prop
  | .value t v hints => hints = t.hints v
  | .pattern _ => True

namespace Form

variable {t : Target}

theorem range_congr {upper other : Range → Value} {r : Range}
    (same : (t.hints (upper r)).strategy = (t.hints (other r)).strategy) (excluded : Bool) :
    range t upper excluded r = range t other excluded r := by
  rw [range, range, Target.hints_eq_of_strategy_eq same]

theorem bag_congr {upper other : Range → Value} {bag : Bag}
    (same : ∀ r ∈ bag.ranges ++ bag.excludedRanges, (t.hints (upper r)).strategy = (t.hints (other r)).strategy) :
    Form.bag t upper bag = Form.bag t other bag := by
  have ranges : bag.ranges.map (range t upper false) = bag.ranges.map (range t other false) :=
    List.map_congr_left fun r mem => range_congr (same r (List.mem_append_left _ mem)) false
  have excludedRanges : bag.excludedRanges.map (range t upper true) = bag.excludedRanges.map (range t other true) :=
    List.map_congr_left fun r mem => range_congr (same r (List.mem_append_right _ mem)) true
  rw [Form.bag, Form.bag, ranges, excludedRanges]

theorem forall_mem_slotsOf {P : Slot → Prop} {forms : List Form} :
    (∀ slot ∈ slotsOf forms, P slot) ↔ ∀ form ∈ forms, ∀ slot ∈ form.slots, P slot := by
  rw [slotsOf, List.forall_mem_flatMap]

theorem isOwn_textMatch (m : TextMatch) : ∀ slot ∈ (textMatch t m).slots, slot.IsOwn := by
  unfold textMatch
  cases m.kind <;> exact List.forall_mem_singleton.mpr trivial

theorem isOwn_bag (bag : Bag) : ∀ slot ∈ (Form.bag t Range.upper bag).slots, slot.IsOwn := by
  have compares (sign : String) (v : Value) : ∀ slot ∈ (compare t sign v).slots, slot.IsOwn :=
    List.forall_mem_singleton.mpr rfl
  have ranges (excluded : Bool) (r : Range) : ∀ slot ∈ (range t Range.upper excluded r).slots, slot.IsOwn :=
    List.forall_mem_cons.mpr ⟨rfl, List.forall_mem_singleton.mpr rfl⟩
  rw [Form.bag, admitting]
  simp only [List.forall_mem_append, forall_mem_slotsOf, List.forall_mem_map]
  exact ⟨⟨⟨⟨fun s _ => compares _ _, fun r _ => ranges false r⟩, fun c _ => compares _ _⟩, fun m _ => isOwn_textMatch m⟩,
    ⟨⟨fun s _ => compares _ _, fun r _ => ranges true r⟩, fun c _ => compares _ _⟩, fun m _ => isOwn_textMatch m⟩

end Form

namespace Mapping

variable {m : Mapping}

theorem form_congr {upper other : Range → Value} {group : Group}
    (same : group.AllBags fun name bag => ∀ t, m.target name = .ok t → Form.bag t upper bag = Form.bag t other bag) :
    m.form upper group = m.form other group := by
  induction group with
  | step logical fields groups ih =>
      obtain ⟨here, below⟩ := (Group.allBags_mk _ _ _ _).mp same
      have bags : m.bagForms upper fields.entries = m.bagForms other fields.entries := by
        refine List.filterMap_congr fun entry mem => ?_
        cases found : m.target entry.1 with
        | error e => rfl
        | ok t =>
            exact congrArg (fun form => some (Form.paren form)) (here entry (List.mem_of_mem_filter mem) t found)
      have parts : groups.map (m.form upper) = groups.map (m.form other) :=
        List.map_congr_left fun group mem => ih group mem (below group mem)
      rw [form_mk, form_mk, bags, parts]

theorem isOwn_form (group : Group) : ∀ slot ∈ (m.form Range.upper group).slots, slot.IsOwn := by
  induction group with
  | step logical fields groups ih =>
      rw [form_mk, Form.join, Form.forall_mem_slotsOf, List.forall_mem_append, List.forall_mem_map]
      constructor
      · intro form mem
        obtain ⟨entry, -, made⟩ := List.mem_filterMap.mp mem
        obtain ⟨t, -, rfl⟩ := Option.map_eq_some_iff.mp made
        exact Form.isOwn_bag entry.2
      · intro form mem
        obtain ⟨group, listed, rfl⟩ := List.mem_map.mp (List.mem_of_mem_filter mem)
        exact ih group listed

end Mapping

/-! ## Clauses -/

/-- A clause is a form whose placeholders are numbered from one, and its parameters are what is bound for the slots. -/
structure Form.Makes (form : Form) (clause : WhereClause) : Prop where
  sql : clause.sql = (form.expr 1).sql
  parameters : List.Forall₂ Slot.Becomes form.slots clause.parameters

/-- In a clause every value is converted, and its placeholder wrapped, in the variant that the strategy of its field
picks for it, but for the upper bounds of ranges, which are in the variant of the lower bounds.  If the strategies pick
the same variant for both bounds of every range, every value is in its own. -/
theorem generate_makes_form {limits : Limits} {m : Mapping} {c : Condition} {clause : WhereClause}
    (generated : generate limits m c = .ok clause) :
    (m.form Range.lower c.root).Makes clause ∧
      (c.root.AllBags m.Steady →
        (m.form Range.upper c.root).Makes clause ∧ ∀ slot ∈ (m.form Range.upper c.root).slots, slot.IsOwn) := by
  obtain ⟨e, d, made, sql, parameters⟩ := generate_eq_ok generated
  obtain ⟨drafted, filled⟩ := m.fills_group c.root (.start m.platform) d e rfl made
  have makes : (m.form Range.lower c.root).Makes clause := by
    obtain ⟨values, bound, become⟩ := filled.bound
    constructor
    · rw [sql, drafted, filled.expr]
      exact String.empty_append
    · rw [parameters, bound]
      exact become
  refine ⟨makes, fun steady => ⟨?_, m.isOwn_form c.root⟩⟩
  have same : m.form Range.upper c.root = m.form Range.lower c.root :=
    Mapping.form_congr (Group.AllBags.mono (fun _ _ steady t found => Form.bag_congr (steady t found)) steady)
  rw [same]
  exact makes

/-- A ledger of amounts. -/
def ledger : Schema :=
  ⟨"ledger", [.integer "amount"], by decide⟩

/-- Negative amounts have a variant of their own. -/
def bySign : Strategy where
  choose v _ :=
    match v with
    | .integer n => if n < 0 then some 1 else none
    | _ => none

/-- Binds negative amounts without their sign, which the placeholder gets instead. -/
def withoutSign : ValueConversion where
  convert v hints :=
    match hints.strategy, v with
    | some 1, .integer n => .ok (.integer (if n < 0 then -n else n))
    | _, v => .ok v
  wrap placeholder hints := if hints.strategy = some 1 then "-" ++ placeholder else placeholder

/-- The column of amounts, whose sign is kept apart. -/
def ledgerMapping : Mapping :=
  ⟨ledger, .sqlite, ⟨[("amount", "amount")], by decide⟩,
    ⟨[("amount", ⟨some withoutSign, none, some bySign⟩)], by decide⟩⟩

/-- A single amount, or one between two. -/
def amountOrBetween (single lower upper : Int64) : Condition :=
  ⟨ledger, .mk .all ⟨[("amount", .ofList [.single ⟨.integer single, ""⟩,
    .range ⟨.integer lower, .integer upper, true, true, "", ""⟩])], List.pairwise_singleton _ _⟩ []⟩

/-- Three, or an amount between two negative ones. -/
def debts : WhereClause :=
  ⟨"(amount = ? OR (amount >= -? AND amount <= -?))", [.integer 3, .integer 5, .integer 2]⟩

/-- Both bounds are negative. -/
theorem steady_debts : (amountOrBetween 3 (-5) (-2)).root.AllBags ledgerMapping.Steady := by
  refine (Group.allBags_mk _ _ _ _).mpr ⟨List.forall_mem_singleton.mpr ?_, List.forall_mem_nil _⟩
  rintro t ⟨⟩
  exact List.forall_mem_singleton.mpr (by decide)

theorem generate_makes_form_debts :
    generate .standard ledgerMapping (amountOrBetween 3 (-5) (-2)) = .ok debts ∧
      (ledgerMapping.form Range.lower (amountOrBetween 3 (-5) (-2)).root).Makes debts ∧
        (ledgerMapping.form Range.upper (amountOrBetween 3 (-5) (-2)).root).Makes debts ∧
          ∀ slot ∈ (ledgerMapping.form Range.upper (amountOrBetween 3 (-5) (-2)).root).slots, slot.IsOwn := by
  have generated : generate .standard ledgerMapping (amountOrBetween 3 (-5) (-2)) = .ok debts := rfl
  obtain ⟨makes, own⟩ := generate_makes_form generated
  exact ⟨generated, makes, own steady_debts⟩

/-- An amount between a negative and a positive one: the upper bound gets the sign of the lower one. -/
theorem upper_bound_not_own :
    ∃ clause, generate .standard ledgerMapping (amountOrBetween 3 (-5) 3) = .ok clause ∧
      ¬(ledgerMapping.form Range.upper (amountOrBetween 3 (-5) 3).root).Makes clause := by
  refine ⟨⟨"(amount = ? OR (amount >= -? AND amount <= -?))", [.integer 3, .integer 5, .integer 3]⟩, rfl, ?_⟩
  intro makes
  have sql := makes.sql
  revert sql
  decide

end Criteria.Sql
