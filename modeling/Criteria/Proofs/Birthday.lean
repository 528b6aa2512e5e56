import Criteria.Proofs.Number.IntegerText
import Mathlib.Data.List.DropRight

/-!
# Birthdays and their texts

A birthday is an age or a date, and a text of nothing but digits is an age, whatever the pattern of the dates.  So every
age is read back from its text, and a date is read back exactly if its pattern writes something other than digits.
-/

namespace Criteria

theorem Text.dropWhile_trim (text : List Char) : (trim text).dropWhile isBlank = trim text := by
  have kept : trim text <+: trimStart text := List.rdropWhile_prefix isBlank (trimStart text)
  rw [List.dropWhile_eq_self_iff]
  intro some
  have start : 0 < (text.dropWhile isBlank).length := Nat.lt_of_lt_of_le some kept.length_le
  rw [kept.getElem some]
  exact List.dropWhile_get_zero_not isBlank text start

theorem Text.trim_trim (text : List Char) : trim (trim text) = trim text := by
  rw [trim, trimStart, dropWhile_trim]
  exact List.rdropWhile_idempotent isBlank (trimStart text)

namespace Transformer

/-- Blanks at the ends of a text do not count. -/
theorem read_trim (t : Transformer) (text : String) :
    t.read (String.ofList (Text.trim text.toList)) = t.read text := by
  cases t with
  | integer grouping => simp only [read, Numeral.read, String.toList_ofList, Text.trim_trim]
  | number precision grouping rounding => simp only [read, Numeral.read, String.toList_ofList, Text.trim_trim]
  | date pattern => simp only [read, String.toList_ofList, Text.trim_trim]
  | moment pattern => simp only [read, String.toList_ofList, Text.trim_trim]
  | birthday inner allowsAge allowsFuture today =>
      unfold read
      simp only [String.toList_ofList, Text.trim_trim]

theorem isAge_iff (text : List Char) : isAge text = true ↔ Number.IsDigits text := by
  rw [isAge, Bool.and_eq_true, Bool.not_eq_true', List.isEmpty_eq_false_iff, List.all_eq_true]
  exact ⟨fun h => ⟨h.1, h.2⟩, fun h => ⟨h.1, h.2⟩⟩

section Birthday

variable (inner : Transformer) (allowsAge allowsFuture : Bool) (today : Date)

/-- The text of an age is read as that age. -/
theorem read_birthday_age {n : Int64} (natural : 0 ≤ n.toInt) :
    (birthday inner true allowsFuture today).read (String.ofList (Number.integerText n.toInt)) = .ok (.integer n) := by
  have isDigits := Number.isDigits_digits n.toInt.natAbs
  have text : Number.integerText n.toInt = Number.digits n.toInt.natAbs := by
    rw [Number.integerText, if_neg (Int.not_lt.mpr natural)]
  have trimmed : Text.trim (Number.digits n.toInt.natAbs) = Number.digits n.toInt.natAbs :=
    Text.trim_eq_self fun c mem => Text.isBlank_of_isDigit (isDigits.all c mem)
  have small : ¬Nat.pow 2 63 ≤ n.toInt.natAbs := by
    have high := n.toInt_lt
    rw [Nat.pow_eq]
    omega
  have value : Int64.ofNat n.toInt.natAbs = n := by
    rw [← Int64.toInt_inj, Int64.toInt_ofNat_of_lt (by rw [Nat.pow_eq] at small; omega)]
    omega
  unfold read
  rw [String.toList_ofList, text, trimmed]
  simp only [(isAge_iff _).mpr isDigits, Number.readDigits_digits, if_neg small, value]
  rfl

/-- What is not made of digits is read by the transformer of the dates. -/
theorem read_birthday_date {d : Date} {text : String} (read : inner.read text = .ok (.date d))
    (past : allowsFuture = true ∨ d.compare today ≠ .gt) :
    (birthday inner allowsAge allowsFuture today).read text = .ok (.date d) ↔
      ¬Number.IsDigits (Text.trim text.toList) := by
  have allowed : ¬(!allowsFuture && d.compare today == .gt) = true := by
    rw [Bool.and_eq_true, Bool.not_eq_true', beq_iff_eq]
    rintro ⟨forbidden, later⟩
    rcases past with free | past
    · rw [free] at forbidden
      cases forbidden
    · exact past later
  rw [← isAge_iff, Transformer.read]
  by_cases age : isAge (Text.trim text.toList) = true
  · refine iff_of_false (fun date => ?_) (not_not_intro age)
    rw [if_pos age] at date
    split at date
    · cases date
    · dsimp only at date
      split at date <;> cases date
  · refine iff_of_true ?_ age
    rw [if_neg age, read_trim, read]
    exact if_neg allowed

/-- A birthday that has a text is read back from it if it is an age, and if it is a date, not after today unless that is
allowed, that its own transformer reads back, exactly if the text is not made of digits alone. -/
theorem birthday_read_back_iff {v : Value} {text : String}
    (printed : (birthday inner allowsAge allowsFuture today).print v = .ok text) :
    (∀ n : Int64, v = .integer n → 0 ≤ n.toInt → (birthday inner allowsAge allowsFuture today).read text = .ok v) ∧
      ∀ d, v = .date d → inner.Keeps v → (allowsFuture = true ∨ d.compare today ≠ .gt) →
        ((birthday inner allowsAge allowsFuture today).read text = .ok v ↔
          ¬Number.IsDigits (Text.trim text.toList)) := by
  constructor
  · rintro n rfl natural
    cases allowsAge with
    | false => cases printed
    | true =>
        cases printed
        exact read_birthday_age inner allowsFuture today natural
  · rintro d rfl ⟨own, ownPrinted, ownRead⟩ past
    cases ownPrinted.symm.trans printed
    exact read_birthday_date inner allowsAge allowsFuture today ownRead past

end Birthday

/-- Dates as in `03-05-2010`, or ages. -/
def bornOn : Transformer :=
  birthday (date ⟨"%m-%d-%Y"⟩) true false ⟨2020, 6, 1, by decide⟩

theorem birthday_read_back_iff_bornOn :
    bornOn.print (.date ⟨2010, 3, 5, by decide⟩) = .ok "03-05-2010" ∧
      (date ⟨"%m-%d-%Y"⟩).Keeps (.date ⟨2010, 3, 5, by decide⟩) ∧
      ¬Number.IsDigits (Text.trim "03-05-2010".toList) ∧
      bornOn.read "03-05-2010" = .ok (.date ⟨2010, 3, 5, by decide⟩) ∧
      bornOn.print (.integer 18) = .ok "18" ∧ bornOn.read "18" = .ok (.integer 18) := by
  have printed : bornOn.print (.date ⟨2010, 3, 5, by decide⟩) = .ok "03-05-2010" := by decide +kernel
  have keeps : (date ⟨"%m-%d-%Y"⟩).Keeps (.date ⟨2010, 3, 5, by decide⟩) :=
    ⟨"03-05-2010", by decide +kernel, by decide +kernel⟩
  have dashed : ¬Number.IsDigits (Text.trim "03-05-2010".toList) := by
    rw [← isAge_iff]
    decide +kernel
  have age : bornOn.print (.integer 18) = .ok "18" := by decide +kernel
  exact ⟨printed, keeps, dashed,
    ((birthday_read_back_iff _ _ _ _ printed).2 _ rfl keeps (.inr (by decide))).mpr dashed, age,
    (birthday_read_back_iff _ _ _ _ age).1 18 rfl (by decide)⟩

/-- A pattern of digits alone makes a date an age: the text of the fifth of March 2010, which the pattern reads back, is
the age 20100305 as a birthday. -/
theorem birthday_digits_not_read_back :
    ¬∀ (pattern : Calendar.Pattern) (allowsAge allowsFuture : Bool) (today : Date) (v : Value) (text : String),
      (birthday (date pattern) allowsAge allowsFuture today).print v = .ok text →
        ((∃ n : Int64, v = .integer n ∧ 0 ≤ n.toInt) ∨
          ∃ d, v = .date d ∧ (date pattern).Keeps v ∧ (allowsFuture = true ∨ d.compare today ≠ .gt)) →
        (birthday (date pattern) allowsAge allowsFuture today).read text = .ok v := by
  intro all
  have keeps : (date ⟨"%Y%m%d"⟩).Keeps (.date ⟨2010, 3, 5, by decide⟩) :=
    ⟨"20100305", by decide +kernel, by decide +kernel⟩
  have back := all ⟨"%Y%m%d"⟩ true false ⟨2020, 6, 1, by decide⟩ (.date ⟨2010, 3, 5, by decide⟩) "20100305"
    (by decide +kernel) (.inr ⟨_, rfl, keeps, .inr (by decide)⟩)
  have aged : (birthday (date ⟨"%Y%m%d"⟩) true false ⟨2020, 6, 1, by decide⟩).read "20100305" =
      .ok (.integer 20100305) := by
    decide +kernel
  cases aged.symm.trans back

end Transformer

end Criteria
