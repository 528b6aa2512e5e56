import Criteria.Proofs.Number.IntegerText
import Mathlib.Data.List.Flatten

/-!
# Grouped digits

Commas between groups of digits change nothing but the looks of a numeral.  The digits between the sign and the point
stand in groups of three, of which only the first may be shorter; without its commas the text is the plain one, and
reading the one as grouped comes to the same as reading the other as plain.
-/

namespace Criteria

open Number Binary64

/-! ## Digits, maybe with a point -/

namespace Number

theorem IsDigits.append {text other : List Char} (first : IsDigits text) (second : ∀ c ∈ other, c.isDigit = true) :
    IsDigits (text ++ other) :=
  ⟨List.append_ne_nil_of_left_ne_nil first.some other, List.forall_mem_append.mpr ⟨first.all, second⟩⟩

theorem le_length_padZeros (width : Nat) (text : List Char) : width ≤ (padZeros width text).length := by
  rw [padZeros, List.length_append, List.length_replicate]
  omega

theorem IsDigits.take {text : List Char} (isDigits : IsDigits text) {count : Nat} (some : 0 < count) :
    IsDigits (text.take count) := by
  refine ⟨fun none => ?_, fun c mem => isDigits.all c (List.mem_of_mem_take mem)⟩
  rcases List.take_eq_nil_iff.mp none with none | none
  · omega
  · exact isDigits.some none

theorem IsDigits.drop {text : List Char} (isDigits : IsDigits text) {count : Nat} (some : count < text.length) :
    IsDigits (text.drop count) := by
  refine ⟨fun none => ?_, fun c mem => isDigits.all c (List.mem_of_mem_drop mem)⟩
  have short := List.drop_eq_nil_iff.mp none
  omega

end Number

namespace Numeral

/-- The point and the digits behind it, or nothing. -/
def IsFraction (text : List Char) : Prop :=
  text = [] ∨ ∃ ds, IsDigits ds ∧ text = '.' :: ds

/-- The digits in front of the point, and what stands behind them. -/
structure IsUnsigned (whole fraction : List Char) : Prop where
  whole : IsDigits whole
  fraction : IsFraction fraction

theorem isFraction_nil : IsFraction [] :=
  .inl rfl

/-- A run of digits with so many of them behind the point. -/
theorem isUnsigned_split {text : List Char} (isDigits : IsDigits text) {places : Nat} (some : 0 < places)
    (long : places < text.length) :
    IsUnsigned (text.take (text.length - places)) ('.' :: text.drop (text.length - places)) :=
  ⟨isDigits.take (by omega), .inr ⟨_, isDigits.drop (by omega), rfl⟩⟩

theorem isUnsigned_plain (d : Decimal) : ∃ whole fraction, IsUnsigned whole fraction ∧ d.plain = whole ++ fraction := by
  rw [Decimal.plain]
  split
  · split
    · exact ⟨['0'], [], ⟨isDigits_digits 0, isFraction_nil⟩, rfl⟩
    · refine ⟨digits d.digits ++ List.replicate d.exponent.toNat '0', [], ⟨?_, isFraction_nil⟩,
        (List.append_nil _).symm⟩
      refine (isDigits_digits d.digits).append fun c mem => ?_
      rw [List.eq_of_mem_replicate mem]
      rfl
  · exact ⟨_, _, isUnsigned_split (isDigits_padZeros _ d.digits) (by omega) (le_length_padZeros _ _), rfl⟩

theorem isUnsigned_fixedText (places : Nat) (negative : Bool) (m : Nat) (e : Int) :
    ∃ whole fraction, IsUnsigned whole fraction ∧
      (finite negative m e).fixedText places = signText negative ++ (whole ++ fraction) := by
  simp only [fixedText]
  generalize nearestEven _ _ = units
  have isDigits := isDigits_padZeros (places + 1) units
  have long := le_length_padZeros (places + 1) (digits units)
  split
  · rename_i none
    refine ⟨padZeros (places + 1) (digits units), [], ⟨isDigits, isFraction_nil⟩, ?_⟩
    rw [none, Nat.sub_zero, List.take_length, List.append_nil]
  · exact ⟨_, _, isUnsigned_split isDigits (by omega) long, rfl⟩

/-- The text of a finite number is a sign, digits and maybe a point with more digits. -/
theorem isUnsigned_numberText {precision : Option UInt32} {rounding : RoundingMode} {x : Binary64} {negative : Bool}
    {m : Nat} {e : Int} (rounded : Transformer.roundTo precision rounding x = finite negative m e) :
    ∃ whole fraction, IsUnsigned whole fraction ∧
      Transformer.numberText precision rounding x = signText negative ++ (whole ++ fraction) := by
  cases precision with
  | none =>
      obtain ⟨whole, fraction, shape, same⟩ := isUnsigned_plain (shortest .up m e)
      refine ⟨whole, fraction, shape, ?_⟩
      rw [← same]
      exact congrArg Binary64.text rounded
  | some places =>
      obtain ⟨whole, fraction, shape, same⟩ := isUnsigned_fixedText places.toNat negative m e
      refine ⟨whole, fraction, shape, ?_⟩
      rw [← same]
      exact congrArg (Binary64.fixedText places.toNat) rounded

/-! ## Groups -/

/-- A numeral of which the digits in front of the point are cut into groups of three, but for the first group, which has
one to three. -/
structure Parts where
  negative : Bool
  first : List Char
  others : List (List Char)
  fraction : List Char
  first_length : 1 ≤ first.length ∧ first.length ≤ 3
  others_length : ∀ group ∈ others, group.length = 3
  all_digits : ∀ group ∈ first :: others, ∀ c ∈ group, c.isDigit = true
  isFraction : IsFraction fraction

/-- The numeral without commas. -/
def Parts.plain (p : Parts) : List Char :=
  signText p.negative ++ ((p.first :: p.others).flatten ++ p.fraction)

/-- The numeral with a comma between any two groups. -/
def Parts.grouped (p : Parts) : List Char :=
  signText p.negative ++ ([','].intercalate (p.first :: p.others) ++ p.fraction)

theorem length_flatten_of_threes {groups : List (List Char)} (threes : ∀ group ∈ groups, group.length = 3) :
    groups.flatten.length = 3 * groups.length := by
  induction groups with
  | nil => rfl
  | cons group groups ih =>
      obtain ⟨here, later⟩ := List.forall_mem_cons.mp threes
      rw [List.flatten_cons, List.length_append, here, ih later, List.length_cons]
      omega

/-- A run is grouped from its end on: a character more goes into the first group until this has three. -/
theorem exists_groups {ds : List Char} (some : ds ≠ []) :
    ∃ first others, (1 ≤ first.length ∧ first.length ≤ 3) ∧ (∀ group ∈ others, group.length = 3) ∧
      (first :: others).flatten = ds ∧ groupDigits ds = [','].intercalate (first :: others) := by
  induction ds using groupDigits.induct with
  | case1 => exact absurd rfl some
  | case2 c =>
      exact ⟨[c], [], ⟨Nat.le_refl 1, Nat.le_add_left 1 2⟩, List.forall_mem_nil _, rfl,
        List.intercalate_singleton.symm⟩
  | case3 c rest more whole ih =>
      obtain ⟨first, others, few, threes, rfl, grouped⟩ := ih more
      have full : first.length = 3 := by
        rw [List.flatten_cons, List.length_append, length_flatten_of_threes threes] at whole
        omega
      refine ⟨[c], first :: others, ⟨Nat.le_refl 1, Nat.le_add_left 1 2⟩, List.forall_mem_cons.mpr ⟨full, threes⟩,
        rfl, ?_⟩
      rw [groupDigits.eq_3 c _ more, if_pos whole, grouped, List.intercalate_cons_cons]
      rfl
  | case4 c rest more part ih =>
      obtain ⟨first, others, few, threes, rfl, grouped⟩ := ih more
      have room : first.length ≠ 3 := by
        intro full
        rw [List.flatten_cons, List.length_append, length_flatten_of_threes threes] at part
        omega
      refine ⟨c :: first, others, ?_, threes, rfl, ?_⟩
      · rw [List.length_cons]
        omega
      · rw [groupDigits.eq_3 c _ more, if_neg part, grouped]
        cases others with
        | nil => rw [List.intercalate_singleton, List.intercalate_singleton]
        | cons second others => rw [List.intercalate_cons_cons, List.intercalate_cons_cons]; rfl

/-- The commas of a signed numeral stand between the groups of the digits in front of the point. -/
theorem groupWhole_append {whole fraction : List Char} (shape : IsUnsigned whole fraction) (negative : Bool) :
    groupWhole (signText negative ++ (whole ++ fraction)) =
      signText negative ++ (groupDigits whole ++ fraction) := by
  have noPoint : ∀ c ∈ signText negative ++ whole, decide (c ≠ '.') = true := by
    intro c mem
    rw [decide_eq_true_eq]
    rintro rfl
    rcases signed_or_digit shape.whole negative _ mem with sign | digit
    · exact absurd sign (by decide)
    · exact absurd digit (by decide)
  rw [groupWhole, ← List.append_assoc, List.takeWhile_append_of_pos noPoint, List.dropWhile_append_of_pos noPoint]
  rcases shape.fraction with rfl | ⟨ds, -, rfl⟩
  · rw [List.takeWhile_nil, List.dropWhile_nil, List.append_nil, List.append_nil, List.append_nil,
      groupSigned_append shape.whole]
  · rw [List.takeWhile_cons_of_neg (by decide), List.dropWhile_cons_of_neg (by decide), List.append_nil,
      groupSigned_append shape.whole, List.append_assoc]

theorem exists_parts {whole fraction : List Char} (shape : IsUnsigned whole fraction) (negative : Bool) :
    ∃ parts : Parts, parts.plain = signText negative ++ (whole ++ fraction) ∧
      parts.grouped = signText negative ++ (groupDigits whole ++ fraction) := by
  obtain ⟨first, others, few, threes, rfl, grouped⟩ := exists_groups shape.whole.some
  have all : ∀ group ∈ first :: others, ∀ c ∈ group, c.isDigit = true := fun group mem c here =>
    shape.whole.all c (List.mem_flatten_of_mem mem here)
  exact ⟨⟨negative, first, others, fraction, few, threes, all, shape.fraction⟩, rfl, by rw [grouped]; rfl⟩

/-! ## Reading -/

section

variable {whole fraction : List Char} (shape : IsUnsigned whole fraction)

include shape

theorem IsUnsigned.head_ne {c : Char} (other : c.isDigit = false) (rest : List Char) :
    whole ++ fraction ≠ c :: rest := by
  cases none : whole with
  | nil => exact absurd none shape.whole.some
  | cons d ds =>
      rintro ⟨⟩
      exact shape.whole.head_ne other ds none

theorem IsUnsigned.takeWhile_eq : (whole ++ fraction).takeWhile Char.isDigit = whole := by
  rw [List.takeWhile_append_of_pos shape.whole.all]
  rcases shape.fraction with rfl | ⟨ds, -, rfl⟩ <;> exact List.append_nil whole

theorem IsUnsigned.dropWhile_eq : (whole ++ fraction).dropWhile Char.isDigit = fraction := by
  rw [List.dropWhile_append_of_pos shape.whole.all]
  rcases shape.fraction with rfl | ⟨ds, -, rfl⟩ <;> rfl

theorem mem_unsigned {negative : Bool} {c : Char} (mem : c ∈ signText negative ++ (whole ++ fraction)) :
    c = '-' ∨ c = '.' ∨ c.isDigit = true := by
  rw [← List.append_assoc, List.mem_append] at mem
  rcases mem with signed | behind
  · exact (signed_or_digit shape.whole negative c signed).imp_right .inr
  · rcases shape.fraction with rfl | ⟨ds, isDigits, rfl⟩
    · cases behind
    · exact .inr ((List.mem_cons.mp behind).imp_right (isDigits.all c))

/-- A signed numeral is a number as a whole. -/
theorem splitNumber_unsigned (negative : Bool) :
    splitNumber (signText negative ++ (whole ++ fraction)) = (signText negative ++ (whole ++ fraction), []) := by
  cases negative with
  | true =>
      change splitNumber ('-' :: (whole ++ fraction)) = _
      rw [splitNumber, shape.takeWhile_eq, shape.dropWhile_eq]
      rcases shape.fraction with rfl | ⟨ds, isDigits, rfl⟩
      · rw [List.append_nil]
        rfl
      · simp only [isDigits.takeWhile_eq, isDigits.dropWhile_eq]
        rfl
  | false =>
      change splitNumber (whole ++ fraction) = _
      rw [splitNumber, shape.takeWhile_eq, shape.dropWhile_eq]
      · rcases shape.fraction with rfl | ⟨ds, isDigits, rfl⟩
        · rw [List.append_nil]
          rfl
        · simp only [isDigits.takeWhile_eq, isDigits.dropWhile_eq]
          rfl
      · exact shape.head_ne rfl
      · exact shape.head_ne rfl

theorem exists_ofUnsignedText? (negative : Bool) : ∃ x, ofUnsignedText? negative (whole ++ fraction) = some x := by
  have some : whole.isEmpty = false := List.isEmpty_eq_false_iff.mpr shape.whole.some
  rcases shape.fraction with behind | ⟨ds, isDigits, behind⟩
  · simp only [ofUnsignedText?, spanDigits, shape.takeWhile_eq, shape.dropWhile_eq, some]
    rw [behind]
    exact ⟨_, rfl⟩
  · simp only [ofUnsignedText?, spanDigits, shape.takeWhile_eq, shape.dropWhile_eq, some]
    rw [behind]
    simp only [isDigits.takeWhile_eq, isDigits.dropWhile_eq]
    exact ⟨_, rfl⟩

/-- A signed numeral denotes a number. -/
theorem exists_ofText? (negative : Bool) : ∃ x, ofText? (signText negative ++ (whole ++ fraction)) = some x := by
  cases negative with
  | true =>
      change ∃ x, ofText? ('-' :: (whole ++ fraction)) = some x
      rw [ofText?]
      split
      · exact ⟨_, rfl⟩
      · split
        · exact ⟨_, rfl⟩
        · exact exists_ofUnsignedText? shape true
  | false =>
      change ∃ x, ofText? (whole ++ fraction) = some x
      rw [ofText?]
      · split
        · exact ⟨_, rfl⟩
        · split
          · exact ⟨_, rfl⟩
          · exact exists_ofUnsignedText? shape false
      · exact shape.head_ne rfl
      · exact shape.head_ne rfl

end

theorem normalize_unsigned {whole fraction : List Char} (shape : IsUnsigned whole fraction) (negative : Bool) :
    normalize false (signText negative ++ (whole ++ fraction)) = signText negative ++ (whole ++ fraction) := by
  refine normalize_of_noComma fun mem => ?_
  exact absurd (mem_unsigned shape mem) (by decide)

/-- Without its commas a grouped numeral is the plain one. -/
theorem normalize_groupWhole {whole fraction : List Char} (shape : IsUnsigned whole fraction) (negative : Bool) :
    normalize true (groupWhole (signText negative ++ (whole ++ fraction))) =
      signText negative ++ (whole ++ fraction) := by
  change (groupWhole (signText negative ++ (whole ++ fraction))).filter (· ≠ ',') = _
  have kept : (signText negative).filter (· ≠ ',') = signText negative := by
    cases negative <;> rfl
  have behind : fraction.filter (· ≠ ',') = fraction := by
    rw [List.filter_eq_self]
    intro c mem
    rw [decide_eq_true_eq]
    rintro rfl
    exact absurd (mem_unsigned shape (List.mem_append_right (signText false) (List.mem_append_right whole mem)))
      (by decide)
  rw [groupWhole_append shape, List.filter_append, List.filter_append, filter_groupDigits (shape.whole.not_mem rfl),
    kept, behind]

/-- A grouped numeral is read as the plain one is. -/
theorem read_groupWhole {whole fraction : List Char} (shape : IsUnsigned whole fraction) (negative : Bool) :
    read true (groupWhole (signText negative ++ (whole ++ fraction))) =
      read false (signText negative ++ (whole ++ fraction)) := by
  have noBlank {c : Char} (plain : c = '-' ∨ c = '.' ∨ c.isDigit = true) : Text.isBlank c = false := by
    rcases plain with rfl | rfl | digit
    · rfl
    · rfl
    · exact Text.isBlank_of_isDigit digit
  have noBlankGrouped : ∀ c ∈ groupWhole (signText negative ++ (whole ++ fraction)), Text.isBlank c = false := by
    intro c mem
    by_cases comma : c = ','
    · rw [comma]
      rfl
    · have kept : c ∈ normalize true (groupWhole (signText negative ++ (whole ++ fraction))) :=
        List.mem_filter.mpr ⟨mem, decide_eq_true comma⟩
      rw [normalize_groupWhole shape] at kept
      exact noBlank (mem_unsigned shape kept)
  have digit : (signText negative ++ (whole ++ fraction)).any Char.isDigit = true := by
    obtain ⟨c, mem⟩ := List.exists_mem_of_ne_nil _ shape.whole.some
    exact List.any_eq_true.mpr
      ⟨c, List.mem_append_right _ (List.mem_append_left _ mem), shape.whole.all c mem⟩
  obtain ⟨x, denotes⟩ := exists_ofText? shape negative
  rw [read_of_normalize noBlankGrouped (normalize_groupWhole shape negative) (splitNumber_unsigned shape negative) digit
      denotes,
    read_of_normalize (fun c mem => noBlank (mem_unsigned shape mem)) (normalize_unsigned shape negative)
      (splitNumber_unsigned shape negative) digit denotes]

end Numeral

/-! ## Grouping transformers -/

namespace Numeral

/-- A text of a number without commas, and the text with a comma between any two groups of three digits in front of the
point. -/
def IsGrouped (plain grouped : String) : Prop :=
  ∃ parts : Parts, plain.toList = parts.plain ∧ grouped.toList = parts.grouped

/-- What grouping does to the text of a number: the digits of a finite number are grouped, and the names of the others
stay as they are. -/
def Looks (x : Binary64) (plain grouped : String) : Prop :=
  match x with
  | .finite .. => IsGrouped plain grouped
  | _ => plain ∈ ["NaN", "inf", "-inf"] ∧ grouped = plain

end Numeral

namespace Transformer

/-- A transformer, without grouping and with it, writes a value as two texts that differ in commas only and are read
alike. -/
def Separates (t : Bool → Transformer) (v : Value) (looks : String → String → Prop) : Prop :=
  ∃ plain grouped, (t false).print v = .ok plain ∧ (t true).print v = .ok grouped ∧ looks plain grouped ∧
    grouped.toList.filter (· ≠ ',') = plain.toList ∧ (t true).read grouped = (t false).read plain

variable {text : List Char}

/-- A signed numeral and the grouped one, as texts. -/
theorem isGrouped_groupWhole {whole fraction : List Char} (shape : Numeral.IsUnsigned whole fraction)
    (negative : Bool) :
    Numeral.IsGrouped (String.ofList (signText negative ++ (whole ++ fraction)))
      (String.ofList (Numeral.groupWhole (signText negative ++ (whole ++ fraction)))) := by
  obtain ⟨parts, plain, grouped⟩ := Numeral.exists_parts shape negative
  refine ⟨parts, ?_, ?_⟩
  · rw [String.toList_ofList, plain]
  · rw [String.toList_ofList, grouped, Numeral.groupWhole_append shape]

theorem separates_integer (n : Int64) : Separates integer (.integer n) Numeral.IsGrouped := by
  have shape : Numeral.IsUnsigned (digits n.toInt.natAbs) [] := ⟨isDigits_digits _, Numeral.isFraction_nil⟩
  have plain : integerText n.toInt = signText (decide (n.toInt < 0)) ++ (digits n.toInt.natAbs ++ []) := by
    rw [integerText_eq, List.append_nil]
  have signed : Numeral.groupSigned (integerText n.toInt) = Numeral.groupWhole (integerText n.toInt) := by
    rw [plain, Numeral.groupWhole_append shape, List.append_nil, Numeral.groupSigned_append shape.whole,
      List.append_nil]
  have small : n.toInt.natAbs ≤ 2 ^ 63 := by
    have low := n.le_toInt
    have high := n.toInt_lt
    omega
  refine ⟨String.ofList (integerText n.toInt), String.ofList (Numeral.groupSigned (integerText n.toInt)), rfl, rfl,
    ?_, ?_, ?_⟩
  · rw [signed, plain]
    exact isGrouped_groupWhole shape _
  · rw [String.toList_ofList, String.toList_ofList, signed, plain]
    exact Numeral.normalize_groupWhole shape _
  · exact (read_integerForm true small).trans (read_integerForm false small).symm

/-- A number is written with its digits grouped or not, and what is written is read alike. -/
theorem separates_number {precision : Option UInt32} {rounding : RoundingMode} {v : Value} {x : Binary64}
    (printed : ∀ grouping, (number precision grouping rounding).print v =
      .ok (print.printNumber precision grouping rounding x)) :
    Separates (number precision · rounding) v (Numeral.Looks (roundTo precision rounding x)) := by
  have written (grouping : Bool) {text : List Char} (same : numberText precision rounding x = text) :
      (number precision grouping rounding).print v =
        .ok (String.ofList (if grouping then Numeral.groupWhole text else text)) := by
    rw [printed, print.printNumber, same]
  cases rounded : roundTo precision rounding x with
  | nan =>
      have same : numberText precision rounding x = "NaN".toList := by
        cases precision with
        | none => exact congrArg Binary64.text rounded
        | some places => exact congrArg (Binary64.fixedText places.toNat) rounded
      exact ⟨"NaN", "NaN", written false same, written true same, ⟨by decide, rfl⟩, rfl, rfl⟩
  | infinite negative =>
      have same : numberText precision rounding x = signText negative ++ "inf".toList := by
        cases precision with
        | none => exact congrArg Binary64.text rounded
        | some places => exact congrArg (Binary64.fixedText places.toNat) rounded
      cases negative with
      | false => exact ⟨"inf", "inf", written false same, written true same, ⟨by decide, rfl⟩, rfl, rfl⟩
      | true => exact ⟨"-inf", "-inf", written false same, written true same, ⟨by decide, rfl⟩, rfl, rfl⟩
  | finite negative m e =>
      obtain ⟨whole, fraction, shape, same⟩ := Numeral.isUnsigned_numberText rounded
      refine ⟨_, _, written false same, written true same, isGrouped_groupWhole shape negative, ?_, ?_⟩
      · simp only [String.toList_ofList, if_true, Bool.false_eq_true, if_false]
        exact Numeral.normalize_groupWhole shape negative
      · simp only [read, String.toList_ofList, if_true, Bool.false_eq_true, if_false,
          Numeral.read_groupWhole shape negative]

/-- Grouping puts commas between groups of three digits in front of the point and nothing else into the text of an
integer or of a number, and the grouped text is read as the plain one. -/
theorem grouping_separates :
    (∀ n, Separates integer (.integer n) Numeral.IsGrouped) ∧
      ∀ precision rounding,
        (∀ x, Separates (number precision · rounding) (.float x) (Numeral.Looks (roundTo precision rounding x))) ∧
          ∀ n : Int64, Separates (number precision · rounding) (.integer n)
            (Numeral.Looks (roundTo precision rounding (.ofInt n.toInt))) :=
  ⟨separates_integer, fun _ _ => ⟨fun _ => separates_number fun _ => rfl, fun _ => separates_number fun _ => rfl⟩⟩

end Transformer

end Criteria
