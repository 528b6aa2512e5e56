import Criteria.Field.Transformer
import Criteria.Proofs.Number.Nearest
import Criteria.Proofs.Views
import Mathlib.Data.List.TakeWhile

/-!
# Texts of integers as numerals

The decimal text of an integer, with commas between its groups of digits or without, is read as the binary64 number
nearest to the integer.
-/

namespace Criteria

theorem Text.isBlank_of_isDigit {c : Char} (digit : c.isDigit = true) : isBlank c = false := by
  simp only [Char.isDigit, Bool.and_eq_true, decide_eq_true_eq] at digit
  have low : 48 ≤ c.toNat := digit.1
  have high : c.toNat ≤ 57 := digit.2
  simp only [isBlank, Bool.or_eq_false_iff, Bool.and_eq_false_iff, decide_eq_false_iff_not, beq_eq_false_iff_ne]
  omega

theorem Text.trim_eq_self {text : List Char} (noBlank : ∀ c ∈ text, isBlank c = false) : trim text = text := by
  have kept {cs : List Char} (h : ∀ c ∈ cs, isBlank c = false) : cs.dropWhile isBlank = cs := by
    cases cs with
    | nil => rfl
    | cons c cs => exact List.dropWhile_cons_of_neg (by rw [h c List.mem_cons_self]; exact Bool.false_ne_true)
  rw [trim, trimStart, kept noBlank, trimEnd, kept fun c mem => noBlank c (List.mem_reverse.mp mem),
    List.reverse_reverse]

/-- At least one character, and nothing but decimal digits. -/
structure Number.IsDigits (text : List Char) : Prop where
  some : text ≠ []
  all : ∀ c ∈ text, c.isDigit = true

namespace Number

theorem isDigits_digits (n : Nat) : IsDigits (digits n) :=
  ⟨Nat.toDigits_ne_nil, fun _ mem => Nat.isDigit_of_mem_toDigits (by decide) (by decide) mem⟩

theorem isDigits_padZeros (width n : Nat) : IsDigits (padZeros width (digits n)) where
  some := List.append_ne_nil_of_right_ne_nil _ (isDigits_digits n).some
  all c mem := by
    rcases List.mem_append.mp mem with zero | digit
    · rw [List.eq_of_mem_replicate zero]
      decide
    · exact (isDigits_digits n).all c digit

/-- The digits of a number are read as that number. -/
theorem readDigits_digits (n : Nat) : readDigits (digits n) = n :=
  Nat.ofDigitChars_ten_toDigits

theorem integerText_eq (n : Int) :
    integerText n = Binary64.signText (decide (n < 0)) ++ digits n.natAbs := by
  rw [integerText]
  split
  · rename_i negative
    rw [decide_eq_true negative]
    rfl
  · rename_i positive
    rw [decide_eq_false positive]
    rfl

namespace IsDigits

variable {text : List Char} (isDigits : IsDigits text)

include isDigits

theorem not_mem {c : Char} (other : c.isDigit = false) : c ∉ text := by
  intro mem
  rw [isDigits.all c mem] at other
  cases other

theorem head_ne {c : Char} (other : c.isDigit = false) (rest : List Char) : text ≠ c :: rest :=
  fun same => isDigits.not_mem other (same ▸ List.mem_cons_self)

theorem takeWhile_eq : text.takeWhile Char.isDigit = text :=
  List.takeWhile_eq_self_iff.mpr isDigits.all

theorem dropWhile_eq : text.dropWhile Char.isDigit = [] :=
  List.dropWhile_eq_nil_iff.mpr isDigits.all

end IsDigits

end Number

open Number

/-! ## Signs and commas -/

theorem signed_or_digit {ds : List Char} (isDigits : IsDigits ds) (negative : Bool) :
    ∀ c ∈ Binary64.signText negative ++ ds, c = '-' ∨ c.isDigit = true := by
  intro c mem
  rcases List.mem_append.mp mem with sign | digit
  · cases negative with
    | true => exact .inl (List.mem_singleton.mp sign)
    | false => cases sign
  · exact .inr (isDigits.all c digit)

namespace Numeral

theorem groupSigned_append {ds : List Char} (isDigits : IsDigits ds) (negative : Bool) :
    groupSigned (Binary64.signText negative ++ ds) = Binary64.signText negative ++ groupDigits ds := by
  cases negative with
  | true => rfl
  | false =>
      change groupSigned ds = groupDigits ds
      unfold groupSigned
      split
      · rename_i rest
        exact absurd rfl (isDigits.head_ne (c := '-') rfl rest)
      · rfl

/-- Commas are all that grouping adds. -/
theorem filter_groupDigits {ds : List Char} (noComma : ',' ∉ ds) : (groupDigits ds).filter (· ≠ ',') = ds := by
  have head {c : Char} {rest : List Char} (noComma : ',' ∉ c :: rest) : c ≠ ',' :=
    fun same => noComma (same ▸ List.mem_cons_self)
  induction ds using groupDigits.induct with
  | case1 => rfl
  | case2 c => simp [groupDigits, head noComma]
  | case3 c rest some whole ih =>
      have later := ih fun mem => noComma (List.mem_cons_of_mem c mem)
      rw [groupDigits.eq_3 c rest some, if_pos whole]
      simpa [head noComma] using later
  | case4 c rest some part ih =>
      have later := ih fun mem => noComma (List.mem_cons_of_mem c mem)
      rw [groupDigits.eq_3 c rest some, if_neg part]
      simpa [head noComma] using later

theorem mem_groupDigits {ds : List Char} {c : Char} (mem : c ∈ groupDigits ds) : c = ',' ∨ c ∈ ds := by
  by_cases comma : c = ','
  · exact .inl comma
  · refine .inr ?_
    induction ds using groupDigits.induct with
    | case1 => exact mem
    | case2 d => exact mem
    | case3 d rest some whole ih =>
        rw [groupDigits.eq_3 d rest some, if_pos whole, List.mem_cons, List.mem_cons] at mem
        rcases mem with rfl | rfl | later
        · exact List.mem_cons_self
        · exact absurd rfl comma
        · exact List.mem_cons_of_mem d (ih later)
    | case4 d rest some part ih =>
        rw [groupDigits.eq_3 d rest some, if_neg part, List.mem_cons] at mem
        rcases mem with rfl | later
        · exact List.mem_cons_self
        · exact List.mem_cons_of_mem d (ih later)

theorem splitNumber_append {ds : List Char} (isDigits : IsDigits ds) (negative : Bool) :
    splitNumber (Binary64.signText negative ++ ds) = (Binary64.signText negative ++ ds, []) := by
  cases negative with
  | true =>
      change splitNumber ('-' :: ds) = ('-' :: ds, [])
      rw [splitNumber, isDigits.takeWhile_eq, isDigits.dropWhile_eq]
      rfl
  | false =>
      change splitNumber ds = (ds, [])
      rw [splitNumber, isDigits.takeWhile_eq, isDigits.dropWhile_eq]
      · rfl
      · exact isDigits.head_ne rfl
      · exact isDigits.head_ne rfl

end Numeral

namespace Binary64

theorem ofDecimal_zero (negative : Bool) (n : Nat) : ofDecimal negative n 0 = ofRatio negative n 1 := by
  rw [ofDecimal]
  split
  · rename_i none
    rw [none, ofRatio, if_pos (.inl rfl)]
  · have small : ¬ 310 + ((n.log2 : Int) / 3 + 1) < 0 := by omega
    have great : ¬ 0 + ((n.log2 : Int) / 3 + 1) < -330 := by omega
    rw [if_neg small, if_neg great]
    simp only [Int.toNat_zero, Int.neg_zero, Nat.pow_eq, pow_zero, Nat.mul_one]

theorem ofUnsignedText?_eq {ds : List Char} (isDigits : IsDigits ds) (negative : Bool) :
    ofUnsignedText? negative ds = some (ofRatio negative (readDigits ds) 1) := by
  have some : ds.isEmpty = false := by
    cases ds with
    | nil => exact absurd rfl isDigits.some
    | cons c ds => rfl
  simp only [ofUnsignedText?, spanDigits, isDigits.takeWhile_eq, isDigits.dropWhile_eq, some, List.append_nil]
  exact congrArg Option.some (ofDecimal_zero negative (readDigits ds))

theorem toLower_eq_of_isDigit {c : Char} (digit : c.isDigit = true) : c.toLower = c := by
  rw [Char.isDigit, Bool.and_eq_true, decide_eq_true_eq, decide_eq_true_eq] at digit
  refine dif_neg fun upper => ?_
  have below := UInt32.le_trans upper.1 digit.2
  revert below
  decide

/-- A run of digits is no name of infinity or of NaN. -/
theorem ofList_toLower_ne {ds : List Char} (isDigits : IsDigits ds) {name : String} {c : Char}
    (mem : c ∈ name.toList) (other : c.isDigit = false) : String.ofList (ds.map Char.toLower) ≠ name := by
  rintro rfl
  rw [String.toList_ofList, List.mem_map] at mem
  rcases mem with ⟨d, here, rfl⟩
  have digit := isDigits.all d here
  rw [toLower_eq_of_isDigit digit, digit] at other
  cases other

theorem ofText?_append {ds : List Char} (isDigits : IsDigits ds) (negative : Bool) :
    ofText? (signText negative ++ ds) = some (ofRatio negative (readDigits ds) 1) := by
  have noName (name : String) (mem : 'n' ∈ name.toList) : String.ofList (ds.map Char.toLower) ≠ name :=
    ofList_toLower_ne isDigits mem rfl
  have noInfinity := not_or.mpr ⟨noName "inf" (by decide), noName "infinity" (by decide)⟩
  cases negative with
  | true =>
      change ofText? ('-' :: ds) = _
      rw [ofText?, if_neg noInfinity, if_neg (noName "nan" (by decide))]
      exact ofUnsignedText?_eq isDigits true
  | false =>
      change ofText? ds = _
      rw [ofText?, if_neg noInfinity, if_neg (noName "nan" (by decide))]
      · exact ofUnsignedText?_eq isDigits false
      · exact isDigits.head_ne rfl
      · exact isDigits.head_ne rfl

end Binary64

/-! ## Reading the text of an integer -/

namespace Numeral

/-- A text without commas is in normal form. -/
theorem normalize_of_noComma {text : List Char} (noComma : ',' ∉ text) : normalize false text = text := by
  change text.map (fun c => if c = ',' then '.' else c) = text
  conv_rhs => rw [← List.map_id text]
  refine List.map_congr_left fun c mem => if_neg ?_
  rintro rfl
  exact noComma mem

/-- A text is read as the number that its normalized form denotes. -/
theorem read_of_normalize {grouped : Bool} {text number : List Char} {x : Binary64}
    (noBlank : ∀ c ∈ text, Text.isBlank c = false) (normal : normalize grouped text = number)
    (all : splitNumber number = (number, [])) (digit : number.any Char.isDigit = true)
    (denotes : Binary64.ofText? number = some x) :
    read grouped text = if x.isFinite && x.abs.compare bound == some .lt then .ok x else .error .tooLarge := by
  simp only [read, Text.trim_eq_self noBlank, normal, all, digit, denotes]
  rfl

/-- The text of an integer, with or without commas between the groups of its digits. -/
def integerForm (grouping : Bool) (n : Int) : List Char :=
  if grouping then groupSigned (integerText n) else integerText n

theorem mem_integerForm {grouping : Bool} {n : Int} {c : Char} (mem : c ∈ integerForm grouping n) :
    c = ',' ∨ c = '-' ∨ c.isDigit = true := by
  have isDigits := isDigits_digits n.natAbs
  rw [integerForm, integerText_eq] at mem
  cases grouping with
  | false => exact .inr (signed_or_digit isDigits _ c mem)
  | true =>
      rw [if_pos rfl, groupSigned_append isDigits, List.mem_append] at mem
      rcases mem with sign | digit
      · exact .inr (signed_or_digit isDigits _ c (List.mem_append_left _ sign))
      · exact (mem_groupDigits digit).imp_right fun plain => .inr (isDigits.all c plain)

theorem isBlank_of_mem_integerForm {grouping : Bool} {n : Int} {c : Char} (mem : c ∈ integerForm grouping n) :
    Text.isBlank c = false := by
  rcases mem_integerForm mem with rfl | rfl | digit
  · rfl
  · rfl
  · exact Text.isBlank_of_isDigit digit

/-- Without its commas, the text of an integer is the plain one. -/
theorem normalize_integerForm (grouping : Bool) (n : Int) :
    normalize grouping (integerForm grouping n) = integerText n := by
  have isDigits := isDigits_digits n.natAbs
  have noComma : ',' ∉ integerText n := by
    intro mem
    rw [integerText_eq] at mem
    rcases signed_or_digit isDigits _ _ mem with sign | digit
    · revert sign
      decide
    · cases digit
  cases grouping with
  | false => exact normalize_of_noComma noComma
  | true =>
      change (groupSigned (integerText n)).filter (· ≠ ',') = integerText n
      rw [integerText_eq, groupSigned_append isDigits, List.filter_append,
        filter_groupDigits (isDigits.not_mem rfl)]
      cases decide (n < 0) <;> rfl

/-- The text of an integer is read as the binary64 number nearest to it, unless that is too large. -/
theorem read_integerForm (grouping : Bool) (n : Int) :
    Numeral.read grouping (integerForm grouping n) =
      if (Binary64.ofInt n).isFinite && (Binary64.ofInt n).abs.compare bound == some .lt then .ok (.ofInt n)
      else .error .tooLarge := by
  have isDigits := isDigits_digits n.natAbs
  have number : Binary64.ofText? (integerText n) = some (.ofInt n) := by
    rw [integerText_eq, Binary64.ofText?_append isDigits, readDigits_digits, Binary64.ofInt]
  have whole : splitNumber (integerText n) = (integerText n, []) := by
    rw [integerText_eq, splitNumber_append isDigits]
  have some : (integerText n).any Char.isDigit = true := by
    rw [integerText_eq, List.any_append, Bool.or_eq_true]
    cases shown : digits n.natAbs with
    | nil => exact absurd shown isDigits.some
    | cons c ds => exact .inr (by rw [List.any_cons, isDigits.all c (shown ▸ List.mem_cons_self), Bool.true_or])
  exact read_of_normalize (fun _ => isBlank_of_mem_integerForm) (normalize_integerForm grouping n) whole some number

end Numeral

namespace Numeral

theorem isWhole_bound : bound.IsWhole false (2 ^ 63) := by
  have whole := Binary64.isWhole_ofRatio false (n := 2 ^ 63) (by decide)
  rwa [(Binary64.nearestWhole_eq_self_iff _).mpr ⟨1, 63, by decide, by decide⟩] at whole

theorem isFinite_and_below_bound_iff {x : Binary64} {negative : Bool} {n : Nat} (whole : x.IsWhole negative n) :
    (x.isFinite && x.abs.compare bound == some .lt) = true ↔ n < 2 ^ 63 := by
  rw [whole.isFinite, whole.abs.compare isWhole_bound, Bool.true_and]
  simp only [Binary64.signed, beq_iff_eq, Option.some.injEq, compare_lt_iff_lt]
  exact Int.ofNat_lt

/-- The integers that numerals hold: all but the least one that have at most 53 bits up to the zeros at their end. -/
def Holds (n : Int64) : Prop :=
  n ≠ Int64.minValue ∧ Binary64.IsExact n.toInt.natAbs

end Numeral

namespace Transformer

/-- Reading the text of an integer gives the nearest whole number among the binary64 numbers, if that is below the
bound of numerals. -/
theorem read_integerForm (grouping : Bool) {n : Int} (small : n.natAbs ≤ 2 ^ 63) :
    (integer grouping).read (String.ofList (Numeral.integerForm grouping n)) =
      if Binary64.nearestWhole n.natAbs < 2 ^ 63 then
        .ok (.integer (Int64.ofInt (Binary64.signed (decide (n < 0)) (Binary64.nearestWhole n.natAbs))))
      else .error .tooLarge := by
  have short : n.natAbs.log2 ≤ 1000 := by
    by_cases zero : n.natAbs = 0
    · rw [zero, Nat.log2_zero]
      exact Nat.zero_le 1000
    · have bits := (Nat.log2_lt zero).mpr (Nat.lt_of_le_of_lt small (by decide : 2 ^ 63 < 2 ^ 64))
      omega
  have whole : (Binary64.ofInt n).IsWhole (decide (n < 0)) (Binary64.nearestWhole n.natAbs) :=
    Binary64.isWhole_ofRatio _ short
  have below := Numeral.isFinite_and_below_bound_iff whole
  rw [read, String.toList_ofList, Numeral.read_integerForm]
  by_cases fits : Binary64.nearestWhole n.natAbs < 2 ^ 63
  · rw [if_pos fits, if_pos (below.mpr fits)]
    simp only [bind, Except.bind, whole.toInt?]
    rfl
  · rw [if_neg fits, if_neg (fun h => fits (below.mp h))]
    rfl

/-- A value is read back from the text it is printed as. -/
def Keeps (t : Transformer) (v : Value) : Prop :=
  ∃ text, t.print v = .ok text ∧ t.read text = .ok v

theorem keeps_integer_iff_read (grouping : Bool) (n : Int64) :
    (integer grouping).Keeps (.integer n) ↔
      (integer grouping).read (String.ofList (Numeral.integerForm grouping n.toInt)) = .ok (.integer n) := by
  constructor
  · rintro ⟨text, printed, same⟩
    rwa [← Except.ok.inj printed] at same
  · exact fun same => ⟨_, rfl, same⟩

/-- An integer is read back from its text unless it is the least one or has more than 53 bits up to the zeros at its
end. -/
theorem keeps_integer_iff (grouping : Bool) (n : Int64) :
    (integer grouping).Keeps (.integer n) ↔ Numeral.Holds n := by
  have low := n.le_toInt
  have high := n.toInt_lt
  have least : n = Int64.minValue ↔ n.toInt = -2 ^ 63 := by
    rw [← Int64.toInt_inj, Int64.toInt_minValue]
  rw [keeps_integer_iff_read, read_integerForm grouping (by omega), Numeral.Holds, ← Binary64.nearestWhole_eq_self_iff]
  split
  · rename_i fits
    rw [Except.ok.injEq, Value.integer.injEq]
    constructor
    · intro same
      have value := congrArg Int64.toInt same
      have size := Binary64.natAbs_signed (decide (n.toInt < 0)) (Binary64.nearestWhole n.toInt.natAbs)
      rw [Int64.toInt_ofInt_of_le (by omega) (by omega)] at value
      rw [value] at size
      refine ⟨fun minimal => ?_, size.symm⟩
      have value := least.mp minimal
      omega
    · rintro ⟨-, size⟩
      rw [size, Binary64.signed_natAbs, Int64.ofInt_toInt]
  · rename_i large
    constructor
    · exact fun failed => nomatch failed
    · rintro ⟨notLeast, size⟩
      exact absurd (least.mpr (by omega)) notLeast

end Transformer

/-- Exactly the integers that numerals hold are read back from their texts, with commas or without, and are kept by
the views and the norms of the fields of integers. -/
theorem Field.integer_kept_iff (name : String) (n : Int64) :
    (∀ grouping, (Transformer.integer grouping).Keeps (.integer n) ↔ Numeral.Holds n) ∧
      ((integer name).Shows (.integer n) ↔ Numeral.Holds n) ∧
      ((integer name).Exchanges (.integer n) ↔ Numeral.Holds n) := by
  have kept := Transformer.keeps_integer_iff false n
  exact ⟨fun grouping => Transformer.keeps_integer_iff grouping n, kept, kept⟩

/-- The first integer that a text alters. -/
theorem Transformer.integer_altered :
    (integer false).print (.integer 9007199254740993) = .ok "9007199254740993" ∧
      (integer false).read "9007199254740993" = .ok (.integer 9007199254740992) := by
  constructor
  · rfl
  · decide +kernel

end Criteria
