import Criteria.Proofs.Exchange.Overflow
import Criteria.Proofs.Query.Overflow

/-!
# Overflows

In every group that a reader builds the first entry too many of a field is reported, whatever statements it is in and
whatever comes between, and the first group too many below; a group nested too deep is reported if it would be built
otherwise.  Nothing else is reported as going beyond the limits.  What is built keeps them even if the input is refused,
but for the one entry by which a bag tells that there are too many.
-/

namespace Criteria

/-- The problems that a reader hands out. -/
def problemsOf : Except (List Problem) Condition → List Problem
  | .ok _ => []
  | .error problems => problems

theorem problemsOf_finish (schema : Schema) (root : Noted Group) :
    problemsOf (Intake.finish schema root) = root.problems := by
  rw [Intake.finish]
  cases root.problems <;> rfl

/-- The problems that the reader of forms hands out; there is no report if the reading ended at a pattern. -/
def Exchange.reported? : Except Exchange.Refusal Condition → Option (List Problem)
  | .ok _ => some []
  | .error (.problems problems) => some problems
  | .error (.unprintable _) => none

theorem Exchange.reported?_mapError (outcome : Except (List Problem) Condition) :
    reported? (outcome.mapError .problems) = some (problemsOf outcome) := by
  cases outcome <;> rfl

/-- Both readers report exactly what goes beyond the limits in the groups they build, each once; only that the reading of
a form ends without any report if a pattern cannot print one of the values in the groups it enters.  In what they build,
also if they refuse it in the end, no group is nested too deep or has too many groups below, and no bag has more than
one entry above its limit, which is so after every entry that is added. -/
theorem overflows_once (schema : Schema) (limits : Limits) :
    (∀ text tree, Query.parse text.toList = .ok tree →
      ((problemsOf (Query.read schema limits text)).filter Problem.isOverflow).Perm
          (((Query.offer schema tree).entered limits 0).flatMap fun entry => entry.2.overflows schema limits entry.1) ∧
        limits.Bounds schema 0 (Query.readRoot schema limits tree).value) ∧
    (∀ form,
      (Exchange.reported? (Exchange.read schema limits form) = none ↔ ¬Exchange.Shows schema limits form) ∧
        (∀ problems, Exchange.reported? (Exchange.read schema limits form) = some problems →
          (problems.filter Problem.isOverflow).Perm
            (((Exchange.offer schema form).entered limits 0).flatMap fun entry =>
              entry.2.overflows schema limits entry.1)) ∧
        ∀ root, (Exchange.readGroup Exchange.viewOf schema limits form 0).run.value = .ok root →
          limits.Bounds schema 0 root) ∧
    ∀ (field : Field) (bag : Bag) entry place, bag.count ≤ field.limit limits + 1 →
      bag.count ≤ (Intake.addEntry limits field bag entry place).value.count ∧
        (Intake.addEntry limits field bag entry place).value.count ≤ field.limit limits + 1 := by
  refine ⟨fun text tree parsed => ?_, fun form => ?_, fun field bag entry place room => ?_⟩
  · obtain ⟨reported, bounds⟩ := Query.readRoot_overflows schema limits tree
    have read : Query.read schema limits text = Intake.finish schema (Query.readRoot schema limits tree) := by
      unfold Query.read
      rw [parsed]
    rw [read, problemsOf_finish]
    exact ⟨reported, bounds⟩
  · by_cases shows : Exchange.Shows schema limits form
    · have builds := Exchange.builds_readGroup schema limits form 0
      rw [Exchange.read_eq shows, Exchange.reported?_mapError, problemsOf_finish,
        (Exchange.follows_group form 0).reads shows, Exchange.Reading.run_monadLift]
      refine ⟨iff_of_false nofun (not_not_intro shows), ?_, ?_⟩
      · rintro _ ⟨⟩
        exact builds.reported (Nat.zero_le _)
      · rintro _ ⟨⟩
        exact builds.bounded (Nat.zero_le _)
    · obtain ⟨pattern, ended⟩ := Exchange.read_eq_unprintable shows
      obtain ⟨_, stopped⟩ := (Exchange.follows_group form 0).ends shows
      rw [ended, stopped]
      exact ⟨iff_of_true rfl shows, fun _ => nofun, fun _ => nofun⟩
  · exact Intake.addEntry_room room entry place

/-- One field of texts. -/
def folder : Schema :=
  ⟨"folder", [.text "title"], List.nodup_singleton _⟩

/-- Where one entry and one group are allowed and no level below the root, the second entry, the first group and the
second group of a text are reported, and nothing of the third entry and of the entry in a group; of a form with two
entries the second one is. -/
theorem overflows_once_folder :
    ((problemsOf (Query.read folder ⟨1, 1, 0⟩ "title: a; *(); title: b, c; (title: d)")).filter Problem.isOverflow).Perm
        [.about "title" (.tooManyEntries "title" 1) (some 22), .general (.nestedTooDeep 0) (some 10),
          .general (.tooManyGroups 1) (some 28)] ∧
      (∃ problems root,
        Exchange.reported? (Exchange.read folder ⟨1, 1, 0⟩ (Exchange.singlesForm "title" ["a", "b"])) = some problems ∧
          (problems.filter Problem.isOverflow).Perm [.about "title" (.tooManyEntries "title" 1) none] ∧
            Limits.Bounds ⟨1, 1, 0⟩ folder 0 root) ∧
      Bag.empty.count ≤
        (Intake.addEntry ⟨1, 1, 0⟩ (.text "title") .empty (.single ⟨.string "a", "a"⟩) none).value.count := by
  obtain ⟨texts, forms, entries⟩ := overflows_once folder ⟨1, 1, 0⟩
  have parsed : Query.parse "title: a; *(); title: b, c; (title: d)".toList = .ok ⟨⟨0, 38⟩, none, [
      .statement ⟨⟨0, 9⟩, ⟨0, 5⟩, "title".toList, some (⟨7, 8⟩, [.single ⟨7, 8⟩ ⟨⟨7, 8⟩, false, ['a']⟩])⟩,
      .group ⟨10, 13⟩ (some ⟨10, 11⟩) [],
      .statement ⟨⟨15, 27⟩, ⟨15, 20⟩, "title".toList, some (⟨22, 26⟩,
        [.single ⟨22, 23⟩ ⟨⟨22, 23⟩, false, ['b']⟩, .single ⟨25, 26⟩ ⟨⟨25, 26⟩, false, ['c']⟩])⟩,
      .group ⟨28, 38⟩ none [
        .statement ⟨⟨29, 37⟩, ⟨29, 34⟩, "title".toList, some (⟨36, 37⟩, [.single ⟨36, 37⟩ ⟨⟨36, 37⟩, false, ['d']⟩])⟩]],
      ⟨38, 38⟩⟩ := by
    decide +kernel
  obtain ⟨-, reports, bounds⟩ := forms (Exchange.singlesForm "title" ["a", "b"])
  refine ⟨(texts _ _ parsed).1.trans (.of_eq ?_), ⟨_, _, rfl, (reports _ rfl).trans (.of_eq rfl), bounds _ rfl⟩,
    (entries _ _ _ _ (Nat.zero_le _)).1⟩
  simp only [Query.offer, Query.takenOf, Query.offersOf, List.append_nil, Offer.entered, Offer.enteredFirst]
  rfl

/-- Of a form with two dates in a group, where one is allowed, the second one is not reported if the pattern cannot print
them. -/
theorem surplus_not_reported :
    ((Exchange.offer Exchange.timetable (Exchange.singlesForm "day" ["2012-02-29", "2012-03-01"])).entered
        ⟨1, 1, 1⟩ 0).flatMap (fun entry => entry.2.overflows Exchange.timetable ⟨1, 1, 1⟩ entry.1) =
      [.about "day" (.tooManyEntries "day" 1) none] ∧
    ∀ problems, Exchange.read Exchange.timetable ⟨1, 1, 1⟩
      (Exchange.singlesForm "day" ["2012-02-29", "2012-03-01"]) ≠ .error (.problems problems) := by
  have ended : Exchange.read Exchange.timetable ⟨1, 1, 1⟩ (Exchange.singlesForm "day" ["2012-02-29", "2012-03-01"]) =
      .error (.unprintable ⟨"%H"⟩) := rfl
  refine ⟨rfl, ?_⟩
  rw [ended]
  exact fun _ => nofun

end Criteria
