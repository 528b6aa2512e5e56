import Criteria.Proofs.Offer
import Criteria.Proofs.Acceptance

/-!
# What a query offers beyond the limits

Reading the parts of a group keeps a tally of every field: as many of its entries as have been taken so far, up to one
above the limit.  So over all statements about a field the first entry too many is reported and no other, and of the
groups below those are built that may be.
-/

namespace Criteria.Query

open Intake Noted

/-! ## Conversion -/

/-- The problem with a scalar that cannot be converted. -/
def scalarFaults (field : Field) (offset : Nat) (scalar : ScalarNode) : List Problem :=
  match field.ofView (String.ofList scalar.text) with
  | .ok _ => []
  | .error failure => [.about field.name (.conversion failure) (some offset)]

theorem readScalar_eq (field : Field) (node : ScalarNode) (offset : Nat) :
    readScalar field node offset = ⟨scalar? field node, scalarFaults field offset node⟩ := by
  cases converted : field.ofView (String.ofList node.text) with
  | ok value =>
      simp only [readScalar, scalar?, scalarFaults, convert, converted]
      rfl
  | error failure =>
      simp only [readScalar, scalar?, scalarFaults, convert, converted]
      rfl

/-- Both bounds of a range are tried. -/
theorem readRange_eq (field : Field) (node : RangeNode) (offset : Nat) :
    readRange field node offset =
      ⟨range? field node, [node.lower, node.upper].flatMap (scalarFaults field offset)⟩ := by
  rw [readRange, range?, readScalar_eq, readScalar_eq]
  cases scalar? field node.lower with
  | none => simp [Bind.bind]
  | some lower => cases scalar? field node.upper <;> simp [Bind.bind]

/-- An entry is read as what it stands for, with a problem for every value that cannot be converted. -/
theorem readEntry_eq (field : Field) (node : EntryNode) :
    readEntry field node = ⟨entryOf? field node, node.scalars.flatMap (scalarFaults field node.span.start)⟩ := by
  have single (value : ScalarNode) (offset : Nat) (kind : Single → Entry) :
      (readScalar field value offset >>= fun s => pure (s.map kind)) =
        ⟨(scalar? field value).map kind, [value].flatMap (scalarFaults field offset)⟩ := by
    rw [readScalar_eq]
    simp [Bind.bind]
  have range (r : RangeNode) (offset : Nat) (kind : Range → Entry) :
      (readRange field r offset >>= fun r => pure (r.map kind)) =
        ⟨(range? field r).map kind, [r.lower, r.upper].flatMap (scalarFaults field offset)⟩ := by
    rw [readRange_eq]
    simp [Bind.bind]
  cases node with
  | single span value => exact single value span.start _
  | excludedSingle span value => exact single value span.start _
  | range r => exact range r r.span.start _
  | excludedRange span r => exact range r span.start _
  | comparison span operatorSpan operator value => exact single value span.start _
  | textMatch m => rfl

/-! ## What is offered -/

/-- The entries of a statement that its field takes; an unknown field takes none. -/
def takenBy (schema : Schema) (node : StatementNode) : List (String × Option Nat) :=
  match schema.field? (String.ofList node.name) with
  | none => []
  | some field => field.taken (node.nodes.map fun entry => (entryOf? field entry, some entry.span.start))

theorem takenBy_of_none {schema : Schema} {node : StatementNode}
    (unknown : schema.field? (String.ofList node.name) = none) : takenBy schema node = [] := by
  rw [takenBy, unknown]

theorem takenBy_of_some {schema : Schema} {node : StatementNode} {field : Field}
    (known : schema.field? (String.ofList node.name) = some field) :
    takenBy schema node = field.taken (node.nodes.map fun entry => (entryOf? field entry, some entry.span.start)) := by
  rw [takenBy, known]

/-- The entries of the statements in a group that their fields take. -/
def takenOf (schema : Schema) : List ItemNode → List (String × Option Nat)
  | [] => []
  | .statement node :: rest => takenBy schema node ++ takenOf schema rest
  | .group _ _ _ :: rest => takenOf schema rest

/-- What the groups in a group offer. -/
def offersOf (schema : Schema) : List ItemNode → List Offer
  | [] => []
  | .statement _ :: rest => offersOf schema rest
  | .group span _ items :: rest =>
      .mk (some span.start) (takenOf schema items) (offersOf schema items) :: offersOf schema rest

/-- What a query offers. -/
def offer (schema : Schema) (tree : QueryNode) : Offer :=
  .mk none (takenOf schema tree.items) (offersOf schema tree.items)

/-! ## Reading with a tally -/

section Tally

variable {schema : Schema} {limits : Limits}

theorem scalarFaults_overflows (field : Field) (offset : Nat) (scalars : List ScalarNode) :
    (scalars.flatMap (scalarFaults field offset)).filter Problem.isOverflow = [] := by
  refine List.filter_eq_nil_iff.mpr fun p mem => ?_
  obtain ⟨scalar, -, mem⟩ := List.mem_flatMap.mp mem
  unfold scalarFaults at mem
  split at mem
  · cases mem
  · rw [List.mem_singleton.mp mem]
    exact Bool.false_ne_true

/-- What the entries of a statement come to, with their places. -/
theorem resultsOf_nodes (field : Field) (nodes : List EntryNode) :
    resultsOf (nodes.map fun node => (readEntry field node, some node.span.start)) =
      nodes.map fun node => (entryOf? field node, some node.span.start) := by
  rw [resultsOf, List.map_map]
  refine List.map_congr_left fun node _ => ?_
  rw [Function.comp_apply, readEntry_eq]

theorem readEntries_tallies {field : Field} {bag : Bag} {count : Nat}
    (counts : bag.count = min count (field.limit limits + 1)) (nodes : List EntryNode) :
    let taken := field.taken (nodes.map fun node => (entryOf? field node, some node.span.start))
    (readEntries limits field bag nodes).problems.filter Problem.isOverflow =
        (late (field.limit limits) count (taken.map Prod.snd)).toList.map (field.crowded limits) ∧
      (readEntries limits field bag nodes).value.count = min (count + taken.length) (field.limit limits + 1) := by
  intro taken
  have plain : ∀ reading ∈ nodes.map fun node => (readEntry field node, some node.span.start),
      reading.1.problems.filter Problem.isOverflow = [] := by
    rintro _ mem
    obtain ⟨node, -, rfl⟩ := List.mem_map.mp mem
    rw [readEntry_eq]
    exact scalarFaults_overflows field _ _
  have added := addReadings_overflows plain counts
  rw [resultsOf_nodes] at added
  rw [readEntries_eq_addReadings]
  exact added

/-- The first entry too many is reported when it comes, and the tallies are kept. -/
theorem readStatement_tallies {seen : List (String × Option Nat)} {fields : Keyed Bag}
    (tallies : Tallies schema limits seen fields) (node : StatementNode) :
    (readStatement schema limits fields node).problems.filter Problem.isOverflow =
        Offer.reportTaken schema limits seen (takenBy schema node) ∧
      Tallies schema limits (seen ++ takenBy schema node) (readStatement schema limits fields node).value := by
  cases found : schema.field? (String.ofList node.name) with
  | none =>
      have unread : readStatement schema limits fields node =
          ⟨fields, [.about (String.ofList node.name) .unknownField (some node.nameSpan.start)]⟩ := by
        rw [readStatement, lookUp, found]
        rfl
      rw [unread, takenBy_of_none found, Offer.reportTaken_nil, List.append_nil]
      exact ⟨rfl, tallies⟩
  | some field =>
      have mem := Schema.mem_of_field? found
      rw [takenBy_of_some found, Offer.reportTaken_taken mem]
      cases given : node.entries with
      | none =>
          have unread : readStatement schema limits fields node = pure fields := by
            rw [readStatement, lookUp, found, given]
            rfl
          have nodes : node.nodes = [] := by rw [StatementNode.nodes, given]
          rw [unread, nodes]
          change [] = (late _ _ []).toList.map _ ∧ Tallies schema limits (seen ++ []) fields
          rw [late_nil, List.append_nil]
          exact ⟨rfl, tallies⟩
      | some entries =>
          obtain ⟨span, nodes⟩ := entries
          have read : readStatement schema limits fields node =
              ⟨withBag fields field.name (readEntries limits field ((fields.get? field.name).getD .empty) nodes).value,
                (readEntries limits field ((fields.get? field.name).getD .empty) nodes).problems⟩ := by
            rw [readStatement, lookUp, found, given]
            exact congrArg (Noted.mk _) (List.append_nil _)
          have here : node.nodes = nodes := by rw [StatementNode.nodes, given]
          obtain ⟨reported, count⟩ := readEntries_tallies (tallies.counts field mem) nodes
          rw [read, here]
          exact ⟨reported, tallies.replace mem count⟩

/-- The parts of a group at a level, as far as they have been read, keep the limits. -/
structure GroupParts.Keeps (schema : Schema) (limits : Limits) (level : Nat) (seen : List (String × Option Nat))
    (parts : GroupParts) : Prop where
  tallies : Tallies schema limits seen parts.fields
  few : parts.groups.length ≤ min parts.seen limits.maxGroups
  bounded : ∀ child ∈ parts.groups, limits.Bounds schema (level + 1) child

theorem GroupParts.keeps_none (schema : Schema) (limits : Limits) (level : Nat) :
    GroupParts.none.Keeps schema limits level [] where
  tallies := .empty schema limits
  few := Nat.zero_le _
  bounded _ mem := absurd mem List.not_mem_nil

theorem GroupParts.Keeps.bounds {level : Nat} {seen : List (String × Option Nat)} {parts : GroupParts}
    (keeps : parts.Keeps schema limits level seen) (room : level ≤ limits.maxNesting) (logical : Logical) :
    limits.Bounds schema level (.mk logical parts.fields parts.groups) := by
  have few := keeps.few
  exact Limits.bounds_mk_iff.mpr ⟨⟨room, by omega, keeps.tallies.holds⟩, keeps.bounded⟩

theorem GroupParts.Keeps.statement {level : Nat} {seen : List (String × Option Nat)} {parts : GroupParts}
    (keeps : parts.Keeps schema limits level seen) (node : StatementNode) :
    GroupParts.Keeps schema limits level (seen ++ takenBy schema node)
      { parts with fields := (readStatement schema limits parts.fields node).value } where
  tallies := (readStatement_tallies keeps.tallies node).2
  few := keeps.few
  bounded := keeps.bounded

theorem GroupParts.Keeps.passOver {level : Nat} {seen : List (String × Option Nat)} {parts : GroupParts}
    (keeps : parts.Keeps schema limits level seen) :
    GroupParts.Keeps schema limits level seen { parts with seen := parts.seen + 1 } where
  tallies := keeps.tallies
  few := keeps.few.trans (min_le_min_right _ (Nat.le_succ _))
  bounded := keeps.bounded

theorem GroupParts.Keeps.enter {level : Nat} {seen : List (String × Option Nat)} {parts : GroupParts}
    (keeps : parts.Keeps schema limits level seen) (room : parts.seen + 1 ≤ limits.maxGroups) {child : Group}
    (bounds : limits.Bounds schema (level + 1) child) :
    GroupParts.Keeps schema limits level seen
      { parts with groups := parts.groups ++ [child], seen := parts.seen + 1 } where
  tallies := keeps.tallies
  few := by
    have few := keeps.few
    change (parts.groups ++ [child]).length ≤ min (parts.seen + 1) limits.maxGroups
    rw [List.length_append, List.length_singleton]
    omega
  bounded := by
    rw [List.forall_mem_append, List.forall_mem_singleton]
    exact ⟨keeps.bounded, bounds⟩

/-- Of the parts of a group exactly what goes beyond the limits is reported as such, and the limits are kept. -/
theorem readItems_overflows {level : Nat} {seen : List (String × Option Nat)} {parts : GroupParts}
    (keeps : parts.Keeps schema limits level seen) (items : List ItemNode) :
    ((readItems schema limits level parts items).problems.filter Problem.isOverflow).Perm
        (Offer.reportTaken schema limits seen (takenOf schema items) ++
          Offer.reportBelow schema limits (level + 1) parts.seen (offersOf schema items)) ∧
      (readItems schema limits level parts items).value.Keeps schema limits level (seen ++ takenOf schema items) := by
  induction items using statementsOf.induct generalizing level seen parts with
  | case1 =>
      rw [readItems, takenOf, offersOf, Offer.reportTaken_nil, Offer.reportBelow_nil, List.append_nil, List.append_nil]
      exact ⟨.nil, keeps⟩
  | case2 node rest ih =>
      obtain ⟨others, kept⟩ := ih (keeps.statement node)
      rw [readItems, takenOf, offersOf, problems_bind, List.filter_append, (readStatement_tallies keeps.tallies node).1,
        value_bind]
      rw [List.append_assoc] at kept
      refine ⟨(others.append_left _).trans ?_, kept⟩
      rw [← List.append_assoc]
      exact (Offer.reportTaken_append seen _ _).symm.append_right _
  | case3 span anyMark items rest ihInner ihRest =>
      rw [readItems, takenOf, offersOf, Offer.reportBelow_cons, problems_bind, value_bind, List.filter_append,
        mayEnter_overflows, Offer.place]
      cases enters : (mayEnter limits (parts.seen + 1) (level + 1) (some span.start)).value with
      | false =>
          obtain ⟨others, kept⟩ := ihRest keeps.passOver
          exact ⟨(others.append_left _).trans (List.perm_append_comm_assoc _ _ _), kept⟩
      | true =>
          obtain ⟨room, deep⟩ := (mayEnter_eq_true_iff _ _ _ _).mp enters
          obtain ⟨inner, built⟩ := ihInner (GroupParts.keeps_none schema limits (level + 1))
          have below := inner.trans (Offer.report_mk (level + 1) (some span.start) _ _).symm
          obtain ⟨others, kept⟩ := ihRest (keeps.enter room (built.bounds deep (logicalOf anyMark)))
          refine ⟨?_, kept⟩
          rw [if_pos rfl, if_pos rfl, problems_bind, List.filter_append]
          refine ((below.append others).append_left _).trans ?_
          refine ((List.perm_append_comm_assoc _ _ _).append_left _).trans ?_
          exact List.perm_append_comm_assoc _ _ _

/-- Of a query exactly what goes beyond the limits is reported as such, and the tree that is built keeps them. -/
theorem readRoot_overflows (schema : Schema) (limits : Limits) (tree : QueryNode) :
    ((readRoot schema limits tree).problems.filter Problem.isOverflow).Perm
        ((offer schema tree).report schema limits 0) ∧
      limits.Bounds schema 0 (readRoot schema limits tree).value := by
  obtain ⟨reported, keeps⟩ := readItems_overflows (GroupParts.keeps_none schema limits 0) tree.items
  rw [readRoot, problems_bind, problems_pure, List.append_nil]
  exact ⟨reported.trans (Offer.report_mk 0 none _ _).symm, keeps.bounds (Nat.zero_le _) _⟩

end Tally

end Criteria.Query
