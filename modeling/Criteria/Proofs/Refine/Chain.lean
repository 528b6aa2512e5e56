import Criteria.Proofs.Refine.Containment
import Criteria.Proofs.Refine.Distinct
import Criteria.Proofs.Refine.Folding
import Criteria.Refine.Chain

/-!
# Chains of passes keep the meaning

Removing duplicates, folding values and dropping what ranges contain never fail, and whatever chain is made of
them, the condition it turns out says of every row what the first one said.  No single or excluded value may be
a date-time, and no pass makes one of what is none.
-/

namespace Criteria

namespace Group

theorem allBags_mapBags {P : String → Bag → Prop} {f : String → Bag → Bag} {group : Group}
    (all : group.AllBags fun name bag => P name (f name bag)) : (group.mapBags f).AllBags P := by
  induction group with
  | step logical fields groups ih =>
      rw [allBags_mk] at all
      rw [mapBags_mk, allBags_mk, Keyed.entries_map, List.forall_mem_map, List.forall_mem_map]
      exact ⟨all.1, fun g mem => ih g mem (all.2 g mem)⟩

end Group

namespace Refine

/-- None of the single and excluded values of a bag is a date-time. -/
def bagFreeOfMoments (bag : Bag) : Prop :=
  FreeOfMoments bag.singles ∧ FreeOfMoments bag.excludedSingles

/-- None of the single and excluded values of a tree is a date-time. -/
def treeFreeOfMoments : Group → Prop :=
  Group.AllBags fun _ bag => bagFreeOfMoments bag

theorem FreeOfMoments.subset {values others : List Single} (free : FreeOfMoments values)
    (subset : others ⊆ values) : FreeOfMoments others :=
  fun s mem => free s (subset mem)

/-- A condition says what another one over the same schema says, and has no date-times among its values. -/
structure Keeps (c d : Condition) : Prop where
  schema : d.schema = c.schema
  free : treeFreeOfMoments d.root
  meaning : ∀ row : Row, d.root.meaning (row.tests c.schema) = c.root.meaning (row.tests c.schema)

theorem Keeps.trans {c d e : Condition} (first : Keeps c d) (second : Keeps d e) : Keeps c e where
  schema := second.schema.trans first.schema
  free := second.free
  meaning row := by
    rw [← first.meaning row, ← first.schema]
    exact second.meaning row

/-- A pass that changes bags one by one keeps what it keeps of every bag. -/
theorem keeps_mapBags {refine : Field → Bag → Bag} {c : Condition} (free : treeFreeOfMoments c.root)
    (agree : ∀ (row : Row) name field bag, c.schema.field? name = some field → bagFreeOfMoments bag →
      (row.tests c.schema name).Agree (refine field bag) bag)
    (stays : ∀ field bag, bagFreeOfMoments bag → bagFreeOfMoments (refine field bag)) :
    Keeps c (c.mapBags refine) where
  schema := rfl
  free := by
    refine Group.allBags_mapBags (Group.AllBags.mono (fun name bag plain => ?_) free)
    cases c.schema.field? name with
    | none => exact plain
    | some field =>
        dsimp only
        split
        · exact plain
        · exact stays field bag plain
  meaning row := by
    refine Group.meaning_mapBags (Group.AllBags.mono (fun name bag plain => ?_) free)
    cases found : c.schema.field? name with
    | none => exact Tests.Agree.refl _ _
    | some field =>
        dsimp only
        split
        · exact Tests.Agree.refl _ _
        · exact agree row name field bag found plain

theorem keeps_removeDuplicates {c : Condition} (free : treeFreeOfMoments c.root) :
    Keeps c (removeDuplicates c) := by
  have bags : Keeps c (c.mapBags distinctBag) :=
    keeps_mapBags free
      (fun row _ _ bag found _ => agree_distinctBag (respects_of_field? row found) bag)
      (fun _ _ plain => ⟨plain.1.subset (distinct_subset _), plain.2.subset (distinct_subset _)⟩)
  refine bags.trans {
    schema := rfl
    free := allBags_distinctGroups bags.free
    meaning := fun row => meaning_distinctGroups (row.tests_lawful _) _ }

theorem keeps_foldValues {c : Condition} (free : treeFreeOfMoments c.root) : Keeps c (foldValues c) := by
  refine keeps_mapBags free (fun row _ _ _ found plain => agree_foldBag row found plain.1 plain.2)
    fun field bag plain => ?_
  rw [foldBag]
  split
  · exact ⟨plain.1.subset (fold_subset field _), plain.2.subset (fold_subset field _)⟩
  · exact plain

theorem keeps_tightenRanges {c : Condition} (free : treeFreeOfMoments c.root) :
    Keeps c (tightenRanges c) := by
  refine keeps_mapBags free (fun row _ _ bag found _ => agree_tightenBag row found bag)
    fun field bag plain => ?_
  rw [tightenBag]
  split
  · exact plain
  · exact ⟨plain.1.subset List.filter_sublist.subset, plain.2.subset List.filter_sublist.subset⟩

end Refine

namespace Pass

/-- The passes that change a condition. -/
def refining : List Pass :=
  [removeDuplicates, foldValues, tightenRanges]

theorem run_keeps {pass : Pass} (listed : pass ∈ refining) {c : Condition}
    (free : Refine.treeFreeOfMoments c.root) : ∃ d, pass.run c = .ok d ∧ Refine.Keeps c d := by
  simp only [refining, List.mem_cons, List.not_mem_nil, or_false] at listed
  rcases listed with rfl | rfl | rfl
  · exact ⟨_, rfl, Refine.keeps_removeDuplicates free⟩
  · exact ⟨_, rfl, Refine.keeps_foldValues free⟩
  · exact ⟨_, rfl, Refine.keeps_tightenRanges free⟩

/-- Passes that change a condition, in any order and number, succeed and leave it saying the same of every
row. -/
theorem runAll_keeps_meaning {passes : List Pass} (listed : ∀ pass ∈ passes, pass ∈ refining)
    {c : Condition} (free : Refine.treeFreeOfMoments c.root) :
    ∃ d, runAll passes c = .ok d ∧ d.schema = c.schema ∧
      ∀ row : Row, d.root.meaning (row.tests c.schema) = c.root.meaning (row.tests c.schema) := by
  suffices steps : ∃ d, runAll passes c = .ok d ∧ Refine.Keeps c d by
    rcases steps with ⟨d, hd, keeps⟩
    exact ⟨d, hd, keeps.schema, keeps.meaning⟩
  induction passes generalizing c with
  | nil => exact ⟨c, rfl, rfl, free, fun _ => rfl⟩
  | cons pass passes ih =>
      obtain ⟨first, others⟩ := List.forall_mem_cons.mp listed
      obtain ⟨d, hd, keeps⟩ := run_keeps first free
      obtain ⟨e, he, rest⟩ := ih others keeps.free
      refine ⟨e, ?_, keeps.trans rest⟩
      rw [runAll, List.foldlM_cons, hd]
      exact he

/-- Three years in a row and the first of them again, or any but the second. -/
def severalYears : Condition where
  schema := ⟨"books", [.integer "year"], by decide⟩
  root := .mk .any ⟨[("year", .ofList [.single ⟨.integer 2001, "2001"⟩, .single ⟨.integer 2002, "2002"⟩,
    .single ⟨.integer 2003, "2003"⟩, .excludedSingle ⟨.integer 2002, "2002"⟩,
    .single ⟨.integer 2001, "2001"⟩])], by decide⟩ []

theorem runAll_keeps_meaning_severalYears :
    ∃ d, runAll [removeDuplicates, foldValues, tightenRanges] severalYears = .ok d ∧
      d.schema = severalYears.schema ∧
      ∀ row : Row, d.root.meaning (row.tests severalYears.schema) =
        severalYears.root.meaning (row.tests severalYears.schema) := by
  refine runAll_keeps_meaning (fun pass mem => mem) ?_
  rw [Refine.treeFreeOfMoments, severalYears, Group.allBags_mk]
  simp [Refine.bagFreeOfMoments, Refine.FreeOfMoments, Bag.ofList, Bag.addAll, Bag.add, Bag.empty,
    Value.kind]

end Pass

end Criteria
