import Criteria.Calendar.Printer
import Criteria.Proofs.Number.IntegerText

/-!
# The order of dates and of their texts

The machine form of a date is its year and then numbers of two digits, each behind a mark.  Behind the years the bytes of
two texts are ordered as the numbers are, since these have one width.  Years differ in width and may have a sign, so their
texts have an order of their own: `yearOrder`.  It is that of the years where neither is after 9999 and not both are
before the year zero, and it never takes two years for one.
-/

namespace Criteria

/-! ## Bytes -/

namespace Text

/-- The bytes of a text in UTF-8. -/
def bytes (text : String) : List UInt8 :=
  text.toUTF8.data.toList

/-- The order of two texts by their bytes. -/
def byteOrder (s t : String) : Ordering :=
  Ord.compare (bytes s) (bytes t)

/-- The characters of a text take one byte each. -/
def IsAscii (text : List Char) : Prop :=
  ∀ c ∈ text, c.toNat < 128

instance (text : List Char) : Decidable (IsAscii text) :=
  List.decidableBAll (fun c : Char => c.toNat < 128) text

theorem isAscii_append {s t : List Char} (first : IsAscii s) (second : IsAscii t) : IsAscii (s ++ t) :=
  fun c mem => (List.mem_append.mp mem).elim (first c) (second c)

theorem bytes_ofList {text : List Char} (ascii : IsAscii text) :
    bytes (String.ofList text) = text.map fun c => c.val.toUInt8 := by
  have single (c : Char) (mem : c ∈ text) : String.utf8EncodeChar c = [c.val.toUInt8] := by
    refine String.utf8EncodeChar_eq_singleton (Char.utf8Size_eq_one_iff.mpr ?_)
    rw [UInt32.le_iff_toNat_le]
    exact Nat.le_of_lt_succ (ascii c mem)
  rw [bytes, String.toUTF8, String.toByteArray_ofList, List.utf8Encode, List.data_toByteArray, List.toList_toArray,
    List.flatMap_congr single, List.map_eq_flatMap]

theorem compare_toUInt8 {c d : Char} (hc : c.toNat < 128) (hd : d.toNat < 128) :
    Ord.compare c.val.toUInt8 d.val.toUInt8 = Ord.compare c.toNat d.toNat := by
  have code {c : Char} (small : c.toNat < 128) : c.val.toUInt8.toNat = c.toNat := by
    rw [UInt32.toNat_toUInt8]
    exact Nat.mod_eq_of_lt (Nat.lt_trans small (by decide))
  simp only [Ord.compare, compareOfLessAndEq, UInt8.lt_iff_toNat_lt, ← UInt8.toNat_inj, code hc, code hd]

/-- The codes of the characters of a text. -/
def codes (text : List Char) : List Nat :=
  text.map Char.toNat

/-- The order by bytes is that of the codes of the characters. -/
theorem byteOrder_ofList {s t : List Char} (first : IsAscii s) (second : IsAscii t) :
    byteOrder (String.ofList s) (String.ofList t) = Ord.compare (codes s) (codes t) := by
  rw [byteOrder, bytes_ofList first, bytes_ofList second, codes, codes]
  induction s generalizing t with
  | nil => cases t <;> rfl
  | cons c s ih =>
      cases t with
      | nil => rfl
      | cons d t =>
          obtain ⟨hc, first⟩ := List.forall_mem_cons.mp first
          obtain ⟨hd, second⟩ := List.forall_mem_cons.mp second
          simp only [List.map_cons, List.compare_cons_cons, compare_toUInt8 hc hd, ih first second]

@[simp] theorem codes_cons (c : Char) (text : List Char) : codes (c :: text) = c.toNat :: codes text := rfl

@[simp] theorem codes_append (s t : List Char) : codes (s ++ t) = codes s ++ codes t :=
  List.map_append

/-- Beginnings of one length decide first. -/
theorem compare_append {α : Type} [Ord α] {xs ys : List α} (length : xs.length = ys.length) (us vs : List α) :
    Ord.compare (xs ++ us) (ys ++ vs) = (Ord.compare xs ys).then (Ord.compare us vs) := by
  induction xs generalizing ys with
  | nil =>
      cases ys with
      | nil => rfl
      | cons y ys => cases length
  | cons x xs ih =>
      cases ys with
      | nil => cases length
      | cons y ys =>
          rw [List.cons_append, List.cons_append, List.compare_cons_cons, List.compare_cons_cons,
            ih (Nat.succ.inj length), Ordering.then_assoc]

end Text

open Text

/-! ## Digits -/

namespace Number

theorem compare_congr {i j k l : Nat} (less : i < j ↔ k < l) (same : i = j ↔ k = l) :
    Ord.compare i j = Ord.compare k l := by
  simp only [Ord.compare, compareOfLessAndEq, less, same]

theorem digits_eq_append {n : Nat} (large : 10 ≤ n) : digits n = digits (n / 10) ++ [(n % 10).digitChar] :=
  Nat.toDigits_of_base_le (by decide) large

theorem digits_eq_singleton {n : Nat} (small : n < 10) : digits n = [n.digitChar] :=
  Nat.toDigits_of_lt_base small

theorem padZeros_succ (width n : Nat) :
    padZeros (width + 2) (digits n) = padZeros (width + 1) (digits (n / 10)) ++ [(n % 10).digitChar] := by
  rcases Nat.lt_or_ge n 10 with small | large
  · rw [Nat.div_eq_of_lt small, Nat.mod_eq_of_lt small, digits_eq_singleton small, digits_eq_singleton (by decide : 0 < 10),
      padZeros, padZeros, List.length_singleton, List.length_singleton, Nat.add_sub_cancel,
      show width + 2 - 1 = width + 1 by omega, List.replicate_succ']
    rfl
  · rw [digits_eq_append large, padZeros, padZeros, List.length_append, List.length_singleton,
      show width + 2 - ((digits (n / 10)).length + 1) = width + 1 - (digits (n / 10)).length by omega, List.append_assoc]

theorem length_padZeros (width : Nat) {n : Nat} (fits : n < 10 ^ (width + 1)) :
    (padZeros (width + 1) (digits n)).length = width + 1 := by
  have short : (digits n).length ≤ width + 1 := (Nat.length_toDigits_le_iff (by decide) (Nat.succ_pos _)).mpr fits
  rw [padZeros, List.length_append, List.length_replicate]
  omega

theorem length_codes_padZeros (width : Nat) {n : Nat} (fits : n < 10 ^ (width + 1)) :
    (codes (padZeros (width + 1) (digits n))).length = width + 1 := by
  rw [codes, List.length_map, length_padZeros width fits]

/-- The codes of the digits. -/
theorem toNat_of_isDigit {c : Char} (digit : c.isDigit = true) : 48 ≤ c.toNat ∧ c.toNat ≤ 57 := by
  rw [Char.isDigit, Bool.and_eq_true, decide_eq_true_eq, decide_eq_true_eq] at digit
  exact digit

/-- A number of a greater width begins with the number without its last digits. -/
theorem exists_padZeros (width k n : Nat) :
    ∃ rest, padZeros (width + 1 + k) (digits n) = padZeros (width + 1) (digits (n / 10 ^ k)) ++ rest ∧
      rest.length = k := by
  induction k generalizing n with
  | zero => exact ⟨[], by rw [Nat.pow_zero, Nat.div_one, List.append_nil, Nat.add_zero], rfl⟩
  | succ k ih =>
      obtain ⟨rest, longer, size⟩ := ih (n / 10)
      refine ⟨rest ++ [(n % 10).digitChar], ?_, by rw [List.length_append, List.length_singleton, size]⟩
      rw [show width + 1 + (k + 1) = width + k + 2 by omega, padZeros_succ, show width + k + 1 = width + 1 + k by omega,
        longer, List.append_assoc, Nat.div_div_eq_div_mul, ← Nat.pow_succ']

/-- Numbers of one width are ordered as their digits. -/
theorem compare_codes_padZeros {width m n : Nat} (hm : m < 10 ^ (width + 1)) (hn : n < 10 ^ (width + 1)) :
    Ord.compare (codes (padZeros (width + 1) (digits m))) (codes (padZeros (width + 1) (digits n))) =
      Ord.compare m n := by
  have last {i j : Nat} (hi : i < 10) (hj : j < 10) :
      Ord.compare (codes [i.digitChar]) (codes [j.digitChar]) = Ord.compare i j := by
    rw [codes, codes, List.map_singleton, List.map_singleton, List.compare_cons_cons, List.compare_nil_nil,
      Nat.toNat_digitChar_of_lt_ten hi, Nat.toNat_digitChar_of_lt_ten hj, Ordering.then_eq]
    exact compare_congr (by omega) (by omega)
  induction width generalizing m n with
  | zero =>
      rw [digits_eq_singleton hm, digits_eq_singleton hn]
      exact last hm hn
  | succ width ih =>
      have fits {k : Nat} (h : k < 10 ^ (width + 1 + 1)) : k / 10 < 10 ^ (width + 1) :=
        Nat.div_lt_of_lt_mul (by rwa [Nat.mul_comm, ← Nat.pow_succ])
      have length := (length_codes_padZeros width (fits hm)).trans (length_codes_padZeros width (fits hn)).symm
      rw [padZeros_succ, padZeros_succ, codes_append, codes_append, compare_append length, ih (fits hm) (fits hn),
        last (Nat.mod_lt m (by decide)) (Nat.mod_lt n (by decide))]
      rcases Nat.lt_trichotomy (m / 10) (n / 10) with less | same | greater
      · rw [Nat.compare_eq_lt.mpr less, Nat.compare_eq_lt.mpr (by omega : m < n)]
        rfl
      · rw [Nat.compare_eq_eq.mpr same, Ordering.eq_then]
        exact compare_congr (by omega) (by omega)
      · rw [Nat.compare_eq_gt.mpr greater, Nat.compare_eq_gt.mpr (by omega : n < m)]
        rfl

end Number

open Number

namespace Calendar

/-! ## Numbers behind marks -/

/-- Numbers of two digits, each behind a mark. -/
def marked (marks : List Char) (numbers : List Nat) : List Char :=
  (List.zipWith (fun mark n => mark :: padZeros 2 (digits n)) marks numbers).flatten

@[simp] theorem marked_nil (numbers : List Nat) : marked [] numbers = [] := by
  rw [marked, List.zipWith_nil_left, List.flatten_nil]

@[simp] theorem marked_cons (mark : Char) (marks : List Char) (n : Nat) (numbers : List Nat) :
    marked (mark :: marks) (n :: numbers) = mark :: (padZeros 2 (digits n) ++ marked marks numbers) := rfl

/-- One number of two digits for every mark. -/
structure Fits (marks : List Char) (numbers : List Nat) : Prop where
  length : marks.length = numbers.length
  small : ∀ n ∈ numbers, n < 100

/-- Behind the same marks the numbers decide. -/
theorem compare_codes_marked {marks : List Char} {ms ns : List Nat} (first : Fits marks ms) (second : Fits marks ns) :
    Ord.compare (codes (marked marks ms)) (codes (marked marks ns)) = Ord.compare ms ns := by
  induction marks generalizing ms ns with
  | nil =>
      rw [List.eq_nil_of_length_eq_zero first.length.symm, List.eq_nil_of_length_eq_zero second.length.symm]
      rfl
  | cons mark marks ih =>
      rcases ms with _ | ⟨m, ms⟩
      · cases first.length
      · rcases ns with _ | ⟨n, ns⟩
        · cases second.length
        · obtain ⟨hm, firstLater⟩ := List.forall_mem_cons.mp first.small
          obtain ⟨hn, secondLater⟩ := List.forall_mem_cons.mp second.small
          have length := (length_codes_padZeros 1 hm).trans (length_codes_padZeros 1 hn).symm
          rw [marked_cons, marked_cons, codes_cons, codes_cons, codes_append, codes_append, List.compare_cons_cons,
            Nat.compare_eq_eq.mpr rfl, Ordering.eq_then, compare_append length, compare_codes_padZeros hm hn,
            ih ⟨Nat.succ.inj first.length, firstLater⟩ ⟨Nat.succ.inj second.length, secondLater⟩, List.compare_cons_cons]

/-! ## Years -/

/-- The number of digits that a year is written with. -/
def yearWidth (n : Nat) : Nat :=
  max 4 (digits n).length

/-- The order of the digits of two years from left to right: the years cut to one length decide first, then their
lengths. -/
def digitOrder (m n : Nat) : Ordering :=
  (Ord.compare (m / 10 ^ (yearWidth m - yearWidth n)) (n / 10 ^ (yearWidth n - yearWidth m))).then
    (Ord.compare (yearWidth m) (yearWidth n))

/-- The place of the first character of a year: `+` is less than `-`, and both are less than a digit. -/
def signRank (y : Int) : Nat :=
  if 9999 < y then 0 else if y < 0 then 1 else 2

/-- The order of the texts of two years: a year after 9999 stands before one before the year zero, and that before one
of four digits; years of one sign are ordered by their digits. -/
def yearOrder (y z : Int) : Ordering :=
  (Ord.compare (signRank y) (signRank z)).then (digitOrder y.natAbs z.natAbs)

/-- Years that are surely in the order of their texts: they are the same year, or none is after 9999 and one is not before
the year zero. -/
def YearsInOrder (y z : Int) : Prop :=
  y = z ∨ (y ≤ 9999 ∧ z ≤ 9999) ∧ (0 ≤ y ∨ 0 ≤ z)

instance (y z : Int) : Decidable (YearsInOrder y z) :=
  inferInstanceAs (Decidable (_ ∨ _))

theorem padZeros_yearWidth (n : Nat) : padZeros 4 (digits n) = padZeros (yearWidth n) (digits n) := by
  rw [padZeros, padZeros, show yearWidth n - (digits n).length = 4 - (digits n).length by rw [yearWidth]; omega]

theorem lt_pow_yearWidth (n : Nat) : n < 10 ^ yearWidth n :=
  (Nat.length_toDigits_le_iff (by decide) (by rw [yearWidth]; omega)).mp (Nat.le_max_right _ _)

theorem yearWidth_eq_four {n : Nat} (small : n ≤ 9999) : yearWidth n = 4 :=
  Nat.max_eq_left ((Nat.length_toDigits_le_iff (by decide) (by decide)).mpr (by omega))

theorem digitOrder_swap (m n : Nat) : digitOrder n m = (digitOrder m n).swap := by
  rw [digitOrder, digitOrder, Ordering.swap_then, ← Std.OrientedOrd.eq_swap, ← Std.OrientedOrd.eq_swap]

theorem digitOrder_eq_eq_iff {m n : Nat} : digitOrder m n = .eq ↔ m = n := by
  rw [digitOrder, Ordering.then_eq_eq, Nat.compare_eq_eq, Nat.compare_eq_eq]
  constructor
  · rintro ⟨values, widths⟩
    rwa [widths, Nat.sub_self, Nat.pow_zero, Nat.div_one, Nat.div_one] at values
  · rintro rfl
    exact ⟨rfl, rfl⟩

/-- Texts are in order, whatever follows, if the first one begins with the lesser character. -/
theorem compare_codes_of_head_lt {c d : Char} (less : c.toNat < d.toNat) (s t : List Char) :
    Ord.compare (codes (c :: s)) (codes (d :: t)) = .lt := by
  rw [codes_cons, codes_cons, List.compare_cons_cons, Nat.compare_eq_lt.mpr less]
  rfl

theorem compare_codes_digits_of_le {m n : Nat} (widths : yearWidth m ≤ yearWidth n) (s t : List Char) :
    Ord.compare (codes (padZeros 4 (digits m) ++ '-' :: s)) (codes (padZeros 4 (digits n) ++ '-' :: t)) =
      (digitOrder m n).then (Ord.compare (codes ('-' :: s)) (codes ('-' :: t))) := by
  obtain ⟨width, hm⟩ : ∃ width, yearWidth m = width + 1 := ⟨yearWidth m - 1, by rw [yearWidth]; omega⟩
  obtain ⟨k, hn⟩ : ∃ k, yearWidth n = width + 1 + k := ⟨yearWidth n - yearWidth m, by omega⟩
  -- the digits of `n` beyond the length of `m`
  obtain ⟨rest, longer, size⟩ := exists_padZeros width k n
  have fitsM : m < 10 ^ (width + 1) := hm ▸ lt_pow_yearWidth m
  have fitsN : n / 10 ^ k < 10 ^ (width + 1) :=
    Nat.div_lt_of_lt_mul (by rw [Nat.mul_comm, ← Nat.pow_add, ← hn]; exact lt_pow_yearWidth n)
  have length := (length_codes_padZeros width fitsM).trans (length_codes_padZeros width fitsN).symm
  rw [padZeros_yearWidth m, padZeros_yearWidth n, hm, hn, longer, List.append_assoc, codes_append, codes_append,
    compare_append length, compare_codes_padZeros fitsM fitsN, digitOrder, hm, hn, Nat.sub_eq_zero_of_le (by omega),
    Nat.add_sub_cancel_left, Nat.pow_zero, Nat.div_one, Ordering.then_assoc]
  congr 1
  rcases rest with _ | ⟨c, rest⟩
  · cases size
    rw [List.length_nil, Nat.add_zero, Nat.compare_eq_eq.mpr rfl]
    rfl
  · have digit : c.isDigit = true :=
      (isDigits_padZeros (width + 1 + k) n).all c (longer ▸ List.mem_append_right _ List.mem_cons_self)
    rw [List.length_cons] at size
    rw [Nat.compare_eq_lt.mpr (by omega : width + 1 < width + 1 + k)]
    exact compare_codes_of_head_lt (Nat.lt_of_lt_of_le (by decide) (toNat_of_isDigit digit).1) _ _

/-- Years of one sign, with the mark of the month behind their digits.  The mark is less than any digit, so of two years
that begin alike the shorter one comes first. -/
theorem compare_codes_digits (m n : Nat) (s t : List Char) :
    Ord.compare (codes (padZeros 4 (digits m) ++ '-' :: s)) (codes (padZeros 4 (digits n) ++ '-' :: t)) =
      (digitOrder m n).then (Ord.compare (codes ('-' :: s)) (codes ('-' :: t))) := by
  rcases Nat.le_total (yearWidth m) (yearWidth n) with widths | widths
  · exact compare_codes_digits_of_le widths s t
  · rw [Std.OrientedOrd.eq_swap, compare_codes_digits_of_le widths t s, Ordering.swap_then, ← digitOrder_swap,
      ← Std.OrientedOrd.eq_swap]

/-- The sign of a year of each place. -/
def signText : Nat → List Char
  | 0 => ['+']
  | 1 => ['-']
  | _ => []

theorem yearText_eq (y : Int) : yearText .zero y = signText (signRank y) ++ padZeros 4 (digits y.natAbs) := by
  rw [yearText, signRank]
  rcases Int.lt_or_le y 0 with negative | start
  · rw [if_neg (by omega), if_pos negative, if_neg (by omega), if_pos negative]
    rfl
  · rcases Int.lt_or_le 9999 y with late | last
    · rw [if_neg (by omega), if_neg (by omega), if_pos late]
      rfl
    · rw [if_pos ⟨start, last⟩, if_neg (by omega), if_neg (by omega)]
      rfl

theorem signRank_le (y : Int) : signRank y ≤ 2 := by
  rw [signRank]
  split
  · decide
  · split <;> decide

theorem signRank_eq_one_iff {y : Int} : signRank y = 1 ↔ y < 0 := by
  rw [signRank]
  split
  · omega
  · split <;> omega

/-- The sign decides first. -/
theorem compare_codes_signText {i j : Nat} (less : i < j) (last : j ≤ 2) (m n : Nat) (s t : List Char) :
    Ord.compare (codes (signText i ++ (padZeros 4 (digits m) ++ s)))
      (codes (signText j ++ (padZeros 4 (digits n) ++ t))) = .lt := by
  obtain ⟨c, rest, digits, size⟩ : ∃ c rest, padZeros 4 (digits n) = c :: rest ∧ 48 ≤ c.toNat := by
    have isDigits := isDigits_padZeros 4 n
    obtain ⟨c, rest, same⟩ := List.exists_cons_of_ne_nil isDigits.some
    exact ⟨c, rest, same, (toNat_of_isDigit (isDigits.all c (same ▸ List.mem_cons_self))).1⟩
  obtain ⟨rfl, rfl⟩ | ⟨rfl, rfl⟩ | ⟨rfl, rfl⟩ : i = 0 ∧ j = 1 ∨ i = 0 ∧ j = 2 ∨ i = 1 ∧ j = 2 := by omega
  · exact compare_codes_of_head_lt (by decide) _ _
  · rw [digits]
    exact compare_codes_of_head_lt (Nat.lt_of_lt_of_le (by decide) size) _ _
  · rw [digits]
    exact compare_codes_of_head_lt (Nat.lt_of_lt_of_le (by decide) size) _ _

/-- The texts of two years, with the mark of the month behind each. -/
theorem compare_codes_yearText (y z : Int) (s t : List Char) :
    Ord.compare (codes (yearText .zero y ++ '-' :: s)) (codes (yearText .zero z ++ '-' :: t)) =
      (yearOrder y z).then (Ord.compare (codes ('-' :: s)) (codes ('-' :: t))) := by
  rw [yearText_eq, yearText_eq, List.append_assoc, List.append_assoc, yearOrder]
  rcases Nat.lt_trichotomy (signRank y) (signRank z) with less | same | greater
  · rw [compare_codes_signText less (signRank_le z), Nat.compare_eq_lt.mpr less]
    rfl
  · rw [same, codes_append, codes_append (signText (signRank z)), compare_append rfl, Std.compare_eq_iff_eq.mpr rfl,
      Nat.compare_eq_eq.mpr rfl, Ordering.eq_then, Ordering.eq_then, compare_codes_digits]
  · rw [Std.OrientedOrd.eq_swap, compare_codes_signText greater (signRank_le y), Nat.compare_eq_gt.mpr greater]
    rfl

theorem yearOrder_eq_eq_iff {y z : Int} : yearOrder y z = .eq ↔ y = z := by
  rw [yearOrder, Ordering.then_eq_eq, Nat.compare_eq_eq, digitOrder_eq_eq_iff]
  constructor
  · rintro ⟨ranks, sizes⟩
    have signs : y < 0 ↔ z < 0 := by rw [← signRank_eq_one_iff, ranks, signRank_eq_one_iff]
    omega
  · rintro rfl
    exact ⟨rfl, rfl⟩

/-- Where years differ they decide, so what stands behind them does not count. -/
theorem yearOrder_then_eq_iff (y z : Int) (rest : Ordering) :
    (Ord.compare y z).then rest = (yearOrder y z).then rest ↔ yearOrder y z = Ord.compare y z := by
  have same : Ord.compare y z = .eq ↔ yearOrder y z = .eq := by rw [Int.compare_eq_eq, yearOrder_eq_eq_iff]
  revert same
  cases Ord.compare y z <;> cases yearOrder y z <;> simp

/-- Years of no sign, or with a `-` before one of them, are in the order of their texts. -/
theorem yearOrder_eq {y z : Int} (ordered : YearsInOrder y z) : yearOrder y z = Ord.compare y z := by
  rcases ordered with rfl | ⟨⟨lastY, lastZ⟩, start⟩
  · rw [yearOrder_eq_eq_iff.mpr rfl, Int.compare_eq_eq.mpr rfl]
  · have rank {x : Int} (last : x ≤ 9999) : signRank x = if x < 0 then 1 else 2 :=
      if_neg (by omega)
    rw [yearOrder, rank lastY, rank lastZ]
    rcases Int.lt_or_le y 0 with negative | startY
    · rw [if_pos negative, if_neg (by omega), Int.compare_eq_lt.mpr (by omega)]
      rfl
    · rcases Int.lt_or_le z 0 with negative | startZ
      · rw [if_neg (by omega), if_pos negative, Int.compare_eq_gt.mpr (by omega)]
        rfl
      · have width {x : Int} (last : x ≤ 9999) (start : 0 ≤ x) : yearWidth x.natAbs = 4 :=
          yearWidth_eq_four (by omega)
        rw [if_neg (by omega), if_neg (by omega), digitOrder, width lastY startY, width lastZ startZ, Nat.sub_self,
          Nat.pow_zero, Nat.div_one, Nat.div_one, Nat.compare_eq_eq.mpr rfl, Nat.compare_eq_eq.mpr rfl, Ordering.eq_then,
          Ordering.then_eq]
        rcases Int.lt_trichotomy y z with less | rfl | greater
        · rw [Int.compare_eq_lt.mpr less, Nat.compare_eq_lt]
          omega
        · rw [Int.compare_eq_eq.mpr rfl, Nat.compare_eq_eq]
        · rw [Int.compare_eq_gt.mpr greater, Nat.compare_eq_gt]
          omega

/-! ## Texts of dates and date-times -/

theorem isoDateText_eq (d : Date) :
    isoDateText d = String.ofList (yearText .zero d.year ++ marked ['-', '-'] [d.month, d.day]) := by
  have items : Pattern.isoDate.items = [.number .year .zero, .literal ['-'], .number .month .zero, .literal ['-'],
      .number .day .zero] := by decide
  rw [isoDateText, Pattern.printDate?, items]
  rfl

theorem isoMomentText_eq (m : Moment) :
    isoMomentText m = String.ofList (yearText .zero m.date.year ++
      marked ['-', '-', 'T', ':', ':'] [m.date.month, m.date.day, m.time.hour, m.time.minute, m.time.shownSecond]) := by
  have items : Pattern.isoMoment.items = [.number .year .zero, .literal ['-'], .number .month .zero, .literal ['-'],
      .number .day .zero, .literal ['T'], .number .hour .zero, .literal [':'], .number .minute .zero, .literal [':'],
      .number .second .zero] := by decide
  rw [isoMomentText, Pattern.printMoment?, items]
  rfl

theorem isAscii_of_isDigits {text : List Char} (isDigits : IsDigits text) : IsAscii text :=
  fun c mem => Nat.lt_of_le_of_lt (toNat_of_isDigit (isDigits.all c mem)).2 (by decide)

theorem isAscii_yearText (y : Int) : IsAscii (yearText .zero y) := by
  rw [yearText_eq]
  refine isAscii_append ?_ (isAscii_of_isDigits (isDigits_padZeros 4 _))
  rw [signRank]
  split
  · decide
  · split <;> decide

theorem isAscii_marked {marks : List Char} (ascii : IsAscii marks) (numbers : List Nat) :
    IsAscii (marked marks numbers) := by
  induction marks generalizing numbers with
  | nil =>
      rw [marked_nil]
      exact nofun
  | cons mark marks ih =>
      obtain ⟨first, later⟩ := List.forall_mem_cons.mp ascii
      cases numbers with
      | nil => exact nofun
      | cons n numbers =>
          exact List.forall_mem_cons.mpr
            ⟨first, isAscii_append (isAscii_of_isDigits (isDigits_padZeros 2 n)) (ih later numbers)⟩

/-- The years decide first, then the numbers behind the marks. -/
theorem byteOrder_yearText_marked {marks : List Char} {ms ns : List Nat} (ascii : IsAscii ('-' :: marks))
    (first : Fits ('-' :: marks) ms) (second : Fits ('-' :: marks) ns) (y z : Int) :
    byteOrder (String.ofList (yearText .zero y ++ marked ('-' :: marks) ms))
        (String.ofList (yearText .zero z ++ marked ('-' :: marks) ns)) =
      (yearOrder y z).then (Ord.compare ms ns) := by
  rw [byteOrder_ofList (isAscii_append (isAscii_yearText y) (isAscii_marked ascii ms))
    (isAscii_append (isAscii_yearText z) (isAscii_marked ascii ns))]
  have numbers := compare_codes_marked first second
  rcases ms with _ | ⟨m, ms⟩
  · cases first.length
  · rcases ns with _ | ⟨n, ns⟩
    · cases second.length
    · rw [marked_cons, marked_cons] at numbers ⊢
      rw [compare_codes_yearText, numbers]

theorem fits_date (d : Date) : Fits ['-', '-'] [d.month, d.day] where
  length := rfl
  small := by
    have days : daysInMonth d.year d.month ≤ 31 := by
      unfold daysInMonth
      split
      · split <;> decide
      all_goals decide
    obtain ⟨-, ⟨-, month⟩, -, day⟩ := d.valid
    rw [List.forall_mem_cons, List.forall_mem_singleton]
    omega

theorem fits_moment (m : Moment) :
    Fits ['-', '-', 'T', ':', ':'] [m.date.month, m.date.day, m.time.hour, m.time.minute, m.time.shownSecond] where
  length := rfl
  small := by
    obtain ⟨hour, minute, second, nanosecond⟩ := m.time.valid
    rw [List.forall_mem_cons, List.forall_mem_cons]
    have date := (fits_date m.date).small
    rw [List.forall_mem_cons, List.forall_mem_singleton] at date
    refine ⟨date.1, date.2, ?_⟩
    rw [List.forall_mem_cons, List.forall_mem_cons, List.forall_mem_singleton, TimeOfDay.shownSecond]
    omega

/-- The order of the texts of two dates. -/
theorem byteOrder_isoDateText (a b : Date) :
    byteOrder (isoDateText a) (isoDateText b) =
      (yearOrder a.year b.year).then ((Ord.compare a.month b.month).then (Ord.compare a.day b.day)) := by
  rw [isoDateText_eq, isoDateText_eq, byteOrder_yearText_marked (by decide) (fits_date a) (fits_date b),
    List.compare_cons_cons, List.compare_cons_cons, List.compare_nil_nil, Ordering.then_eq]

/-- The order of the texts of two date-times. -/
theorem byteOrder_isoMomentText (a b : Moment) :
    byteOrder (isoMomentText a) (isoMomentText b) =
      (yearOrder a.date.year b.date.year).then ((Ord.compare a.date.month b.date.month).then
        ((Ord.compare a.date.day b.date.day).then ((Ord.compare a.time.hour b.time.hour).then
          ((Ord.compare a.time.minute b.time.minute).then
            (Ord.compare a.time.shownSecond b.time.shownSecond))))) := by
  rw [isoMomentText_eq, isoMomentText_eq, byteOrder_yearText_marked (by decide) (fits_moment a) (fits_moment b)]
  simp only [List.compare_cons_cons, List.compare_nil_nil, Ordering.then_eq]

end Calendar

end Criteria
