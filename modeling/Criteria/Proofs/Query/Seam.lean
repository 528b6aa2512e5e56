import Criteria.Proofs.Query.Entry
import Criteria.Proofs.Query.Unrestricted
import Mathlib.Algebra.Group.Nat.Even
import Mathlib.Data.List.Count

/-!
# Texts with something behind them

A part of a query is read alike wherever it stands, and also if a semicolon and whatever follows stands behind the text:
nothing within a statement reads a semicolon, except between quotes, and quotes that come in pairs are closed before it.
Only what ends at the end of the text can tell: a statement takes the semicolon there.
-/

namespace Criteria.Query

/-- A tail that parts of a text are read in front of as they were: none, or one that begins with a semicolon, if the
quotes of the text come in pairs. -/
def Seam (tail text : List Char) : Prop :=
  tail = [] ∨ tail.head? = some ';' ∧ Even (text.count '"')

theorem Seam.head?_ne {tail text : List Char} (seam : Seam tail text) {c : Char} (other : c ≠ ';') :
    tail.head? ≠ some c := by
  rcases seam with rfl | ⟨head, -⟩
  · exact nofun
  · rw [head]
    exact fun same => other (Option.some.inj same).symm

namespace Scan

variable {α β : Type} {tail : List Char} {n : Nat}

/-- At least so many characters of a text are taken, their quotes in pairs, and the rest is left. -/
def Takes (least : Nat) (text rest : List Char) : Prop :=
  ∃ taken, text = taken ++ rest ∧ Even (taken.count '"') ∧ least ≤ taken.length

theorem takes_nothing (text : List Char) : Takes 0 text text :=
  ⟨[], rfl, by simp, Nat.le_refl 0⟩

theorem Takes.trans {m k : Nat} {text middle rest : List Char} (first : Takes m text middle)
    (second : Takes k middle rest) : Takes (m + k) text rest := by
  obtain ⟨taken, rfl, paired, least⟩ := first
  obtain ⟨others, rfl, pairedToo, leastToo⟩ := second
  refine ⟨taken ++ others, (List.append_assoc _ _ _).symm, ?_, ?_⟩
  · rw [List.count_append]
    exact paired.add pairedToo
  · rw [List.length_append]
    exact Nat.add_le_add least leastToo

theorem Takes.weaken {m k : Nat} {text rest : List Char} (h : Takes m text rest) (less : k ≤ m) :
    Takes k text rest := by
  obtain ⟨taken, same, paired, least⟩ := h
  exact ⟨taken, same, paired, Nat.le_trans less least⟩

theorem Takes.length_le {m : Nat} {text rest : List Char} (h : Takes m text rest) : rest.length + m ≤ text.length := by
  obtain ⟨taken, rfl, -, least⟩ := h
  rw [List.length_append]
  omega

theorem Takes.seam {m : Nat} {text rest : List Char} (h : Takes m text rest) (seam : Seam tail text) :
    Seam tail rest := by
  obtain ⟨taken, rfl, paired, -⟩ := h
  refine seam.imp_right fun ⟨head, even⟩ => ⟨head, ?_⟩
  rw [List.count_append] at even
  exact (Nat.even_add.mp even).mp paired

/-! ## What is found with a tail -/

/-- Something is found on both sides, with the same rest but for the tail, or nothing is. -/
def Agree (tail text : List Char) (least : Nat) (R : α → α → Prop) : Option (α × Cursor) → Option (α × Cursor) → Prop
  | none, none => True
  | some (a, c), some (b, d) => R a b ∧ d.rest = c.rest ++ tail ∧ Takes least text c.rest
  | _, _ => False

/-- What one scan finds in a text of at most so many characters is what the other finds in the text with the tail. -/
def Persists (tail : List Char) (n least : Nat) (R : α → α → Prop) (s t : Scan α) : Prop :=
  ∀ c d : Cursor, c.rest.length ≤ n → Seam tail c.rest → d.rest = c.rest ++ tail →
    Agree tail c.rest least R (s c).found (t d).found

theorem Agree.cases {text : List Char} {least : Nat} {R : α → α → Prop} {o p : Option (α × Cursor)}
    (h : Agree tail text least R o p) :
    (o = none ∧ p = none) ∨ ∃ a c b d, o = some (a, c) ∧ p = some (b, d) ∧
      R a b ∧ d.rest = c.rest ++ tail ∧ Takes least text c.rest := by
  cases o with
  | none =>
      cases p with
      | none => exact .inl ⟨rfl, rfl⟩
      | some _ => cases h
  | some _ =>
      cases p with
      | none => cases h
      | some _ => exact .inr ⟨_, _, _, _, rfl, rfl, h⟩

theorem Agree.imp {text whole : List Char} {m k : Nat} {P Q : α → α → Prop} {o p : Option (α × Cursor)}
    (h : Agree tail text m P o p) (related : ∀ a b, P a b → Q a b)
    (taken : ∀ rest, Takes m text rest → Takes k whole rest) : Agree tail whole k Q o p := by
  rcases h.cases with ⟨rfl, rfl⟩ | ⟨a, c, b, d, rfl, rfl, holds, rest, takes⟩
  · trivial
  · exact ⟨related a b holds, rest, taken c.rest takes⟩

section Rules

variable {m k : Nat} {P : α → α → Prop} {Q : β → β → Prop} {s s' t t' : Scan α}

/-- Both scans miss, or both find something. -/
theorem Persists.cases (h : Persists tail n m P s t) {c d : Cursor} (short : c.rest.length ≤ n)
    (seam : Seam tail c.rest) (same : d.rest = c.rest ++ tail) :
    ((s c).found = none ∧ (t d).found = none) ∨ ∃ a e b u, (s c).found = some (a, e) ∧ (t d).found = some (b, u) ∧
      P a b ∧ u.rest = e.rest ++ tail ∧ Takes m c.rest e.rest :=
  (h c d short seam same).cases

theorem Persists.weaken (h : Persists tail n m P s t) (less : k ≤ m) : Persists tail n k P s t :=
  fun c d short seam same => (h c d short seam same).imp (fun _ _ => id) fun _ takes => takes.weaken less

theorem Persists.mono (h : Persists tail n m P s t) {P' : α → α → Prop} (imp : ∀ a b, P a b → P' a b) :
    Persists tail n m P' s t :=
  fun c d short seam same => (h c d short seam same).imp imp fun _ => id

theorem persists_pure {a b : α} (h : P a b) : Persists tail n 0 P (Pure.pure a) (Pure.pure b) :=
  fun c _ _ _ same => ⟨h, same, takes_nothing c.rest⟩

theorem Persists.bind_both (first : Persists tail n m P s t) {f g : α → Scan β}
    (second : ∀ a b, P a b → Persists tail n k Q (f a) (g b)) : Persists tail n (m + k) Q (s >>= f) (t >>= g) := by
  intro c d short seam same
  rw [found_bind, found_bind]
  rcases first.cases short seam same with ⟨hs, ht⟩ | ⟨a, e, b, e', hs, ht, related, rest, takes⟩
  · rw [hs, ht]
    trivial
  · rw [hs, ht]
    have shorter : e.rest.length ≤ n := by
      have := takes.length_le
      omega
    exact (second a b related e e' shorter (takes.seam seam) rest).imp (fun _ _ => id) fun _ later => takes.trans later

theorem Persists.bind (first : Persists tail n m P s t) {f g : α → Scan β}
    (second : ∀ a b, P a b → Persists tail n k Q (f a) (g b)) : Persists tail n m Q (s >>= f) (t >>= g) :=
  (first.bind_both second).weaken (Nat.le_add_right m k)

theorem Persists.bind_rest (first : Persists tail n m P s t) {f g : α → Scan β}
    (second : ∀ a b, P a b → Persists tail n k Q (f a) (g b)) : Persists tail n k Q (s >>= f) (t >>= g) :=
  (first.bind_both second).weaken (Nat.le_add_left k m)

theorem Persists.map (h : Persists tail n m P s t) {f g : α → β} (imp : ∀ a b, P a b → Q (f a) (g b)) :
    Persists tail n m Q (f <$> s) (g <$> t) :=
  h.bind fun a b related => persists_pure (imp a b related)

theorem Persists.orElse (first : Persists tail n m P s t) (second : Persists tail n m P s' t') :
    Persists tail n m P (orElse s s') (orElse t t') := by
  intro c d short seam same
  rw [found_orElse, found_orElse]
  rcases first.cases short seam same with ⟨hs, ht⟩ | ⟨a, e, b, e', hs, ht, found⟩
  · rw [hs, ht]
    exact second c d short seam same
  · rw [hs, ht]
    exact found

theorem persists_oneOf {scans : List (Scan α)} (h : ∀ s ∈ scans, Persists tail n m P s s) :
    Persists tail n m P (oneOf scans) (oneOf scans) := by
  induction scans with
  | nil => exact fun _ _ _ _ _ => trivial
  | cons s others ih =>
      obtain ⟨first, rest⟩ := List.forall_mem_cons.mp h
      cases others with
      | nil => exact first
      | cons other others => exact first.orElse (ih rest)

theorem Persists.optional (h : Persists tail n m P s t) :
    Persists tail n 0 (Option.Rel P) (optional s) (optional t) := by
  intro c d short seam same
  rw [found_optional, found_optional]
  rcases h.cases short seam same with ⟨hs, ht⟩ | ⟨a, e, b, e', hs, ht, related, rest, takes⟩
  · rw [hs, ht]
    exact ⟨.none, same, takes_nothing _⟩
  · rw [hs, ht]
    exact ⟨.some related, rest, takes.weaken (Nat.zero_le m)⟩

theorem Persists.ahead (h : Persists tail n m P s t) :
    Persists tail n 0 (fun _ _ => True) (ahead s) (ahead t) := by
  intro c d short seam same
  rw [found_ahead, found_ahead]
  rcases h.cases short seam same with ⟨hs, ht⟩ | ⟨a, e, b, e', hs, ht, -⟩
  · rw [hs, ht]
    trivial
  · rw [hs, ht]
    exact ⟨trivial, same, takes_nothing _⟩

theorem Persists.node (h : Persists tail n m P s t) :
    Persists tail n m (fun a b => P a.2 b.2) (node s) (node t) := by
  intro c d short seam same
  rw [found_node, found_node]
  rcases h.cases short seam same with ⟨hs, ht⟩ | ⟨a, e, b, e', hs, ht, found⟩
  · rw [hs, ht]
    trivial
  · rw [hs, ht]
    exact found

/-- A part with a name, and what is made of it. -/
theorem persists_node_bind (P : α → α → Prop) {s t : Scan α} (first : Persists tail n m P s t)
    {f g : Span × α → Scan β} (second : ∀ a b, P a.2 b.2 → Persists tail n 0 Q (f a) (g b)) :
    Persists tail n m Q (node s >>= f) (node t >>= g) :=
  first.node.bind second

theorem Persists.mark {s t : Scan Unit} {P : Unit → Unit → Prop} (h : Persists tail n m P s t) :
    Persists tail n m (fun _ _ => True) (mark s) (mark t) :=
  h.node.bind fun _ _ _ => persists_pure trivial

end Rules

/-! ## Characters -/

theorem count_quote_eq_zero {test : Char → Bool} (quote : test '"' = false) {taken : List Char}
    (passes : ∀ c ∈ taken, test c = true) : taken.count '"' = 0 := by
  refine List.count_eq_zero.mpr fun mem => ?_
  rw [passes _ mem] at quote
  cases quote

theorem stops_of_seam {test : Char → Bool} (semicolon : test ';' = true → tail = []) {text : List Char}
    (seam : Seam tail text) {c : Char} (head : tail.head? = some c) : test c = false := by
  rcases seam with rfl | ⟨first, -⟩
  · cases head
  · rw [first] at head
    cases head
    rw [Bool.eq_false_iff]
    intro passes
    rw [semicolon passes] at first
    cases first

theorem readWhile_append {test : Char → Bool} (stops : ∀ c, tail.head? = some c → test c = false) (text : List Char) :
    readWhile test (text ++ tail) = ((readWhile test text).1, (readWhile test text).2 ++ tail) := by
  induction text with
  | nil =>
      cases tail with
      | nil => rfl
      | cons c tail => simp [readWhile, stops c rfl]
  | cons c text ih =>
      rw [List.cons_append, readWhile, readWhile, ih]
      split <;> rfl

theorem takes_readWhile {test : Char → Bool} (quote : test '"' = false) (text : List Char) :
    Takes (readWhile test text).1.length text (readWhile test text).2 := by
  rw [readWhile_eq]
  refine ⟨text.takeWhile test, List.takeWhile_append_dropWhile.symm, ?_, Nat.le_refl _⟩
  rw [count_quote_eq_zero quote (List.all_eq_true.mp List.all_takeWhile)]
  exact Even.zero

section Characters

variable {test : Char → Bool} (quote : test '"' = false) (semicolon : test ';' = true → tail = [])
include quote semicolon

theorem persists_one : Persists tail n 1 (fun _ _ => True) (one test) (one test) := by
  intro c d _ seam same
  rw [one, one, same]
  cases text : c.rest with
  | nil =>
      cases found : tail with
      | nil => exact trivial
      | cons x rest =>
          have other := stops_of_seam semicolon seam (congrArg List.head? found)
          simp [other, Agree]
  | cons x rest =>
      cases passes : test x with
      | false => simp [passes, Agree]
      | true =>
          have paired : [x].count '"' = 0 := count_quote_eq_zero quote (by simpa using passes)
          simp only [List.cons_append, passes, if_true]
          exact ⟨trivial, rfl, [x], rfl, paired ▸ Even.zero, Nat.le_refl 1⟩

theorem persists_run : Persists tail n 1 Eq (run test) (run test) := by
  intro c d _ seam same
  rw [run, run, same, readWhile_append (fun _ => stops_of_seam semicolon seam)]
  have takes := takes_readWhile quote c.rest
  cases word : readWhile test c.rest with
  | mk taken rest =>
  rw [word] at takes
  cases taken with
  | nil => exact trivial
  | cons x taken => exact ⟨rfl, rfl, takes.weaken (Nat.succ_le_succ (Nat.zero_le _))⟩

end Characters

theorem persists_char {c : Char} (quote : c ≠ '"') (semicolon : c = ';' → tail = []) :
    Persists tail n 1 (fun _ _ => True) (char c) (char c) :=
  persists_one (beq_false_of_ne (Ne.symm quote)) fun same => semicolon (beq_iff_eq.mp same).symm

theorem persists_chars {cs : List Char} (plain : ∀ c ∈ cs, c ≠ '"' ∧ c ≠ ';') :
    Persists tail n 0 (fun _ _ => True) (chars cs) (chars cs) := by
  induction cs with
  | nil => exact persists_pure trivial
  | cons c cs ih =>
      obtain ⟨⟨quote, semicolon⟩, rest⟩ := List.forall_mem_cons.mp plain
      exact (persists_char quote fun same => absurd same semicolon).bind_rest fun _ _ _ => ih rest

theorem persists_gap : Persists tail n 0 (fun _ _ => True) gap gap := by
  intro c d _ seam same
  have stops : ∀ x, tail.head? = some x → isGap x = false :=
    fun _ => stops_of_seam (fun passes => absurd passes (by decide)) seam
  rw [gap, gap, same, readWhile_append stops]
  exact ⟨trivial, rfl, (takes_readWhile (by rfl) c.rest).weaken (Nat.zero_le _)⟩

theorem readQuoted_append (edge : tail.head? ≠ some '"') {text inner rest : List Char} {taken : Nat}
    (h : readQuoted text = some (inner, taken, rest)) :
    readQuoted (text ++ tail) = some (inner, taken, rest ++ tail) := by
  obtain ⟨body, paired, closed, rfl, rfl, rfl⟩ := readQuoted_eq_some_iff.mp h
  refine readQuoted_eq_some_iff.mpr ⟨body, paired, ?_, List.append_assoc _ _ _, rfl, rfl⟩
  cases rest with
  | nil => exact edge
  | cons c rest => exact closed

theorem even_count_of_quotedBody {body : List Char} (paired : QuotedBody body) : Even (body.count '"') := by
  induction paired with
  | nil => exact Even.zero
  | pair _ ih =>
      rw [List.count_cons_self, List.count_cons_self, Nat.even_add_one, Nat.even_add_one, not_not]
      exact ih
  | other noQuote _ ih => rwa [List.count_cons_of_ne noQuote]

/-- What is read up to the closing quote has the length that is told, and its quotes do not come in pairs. -/
theorem exists_of_readQuoted {text inner rest : List Char} {taken : Nat}
    (h : readQuoted text = some (inner, taken, rest)) :
    ∃ read, text = read ++ rest ∧ read.length = taken ∧ ¬Even (read.count '"') := by
  obtain ⟨body, paired, -, rfl, rfl, -⟩ := readQuoted_eq_some_iff.mp h
  refine ⟨body ++ ['"'], by rw [List.append_assoc]; rfl, List.length_append, ?_⟩
  rw [List.count_append, List.count_singleton_self, Nat.even_add_one, not_not]
  exact even_count_of_quotedBody paired

/-- If no quote closes a text its quotes come in pairs. -/
theorem even_of_readQuoted_eq_none {text : List Char} (h : readQuoted text = none) : Even (text.count '"') := by
  induction text using readQuoted.induct with
  | case1 => exact Even.zero
  | case2 text ih =>
      rw [readQuoted, Option.map_eq_none_iff] at h
      rw [List.count_cons_self, List.count_cons_self, Nat.even_add_one, Nat.even_add_one, not_not]
      exact ih h
  | case3 text single =>
      rw [readQuoted_closing (head?_ne_of_not_cons single)] at h
      cases h
  | case4 c text _ other ih =>
      rw [readQuoted_other other, Option.map_eq_none_iff] at h
      rw [List.count_cons_of_ne other]
      exact ih h

theorem persists_quotedText : Persists tail n 1 Eq quotedText quotedText := by
  intro c d _ seam same
  have edge : tail.head? ≠ some '"' := seam.head?_ne (by decide)
  by_cases opening : c.rest.head? = some '"'
  · obtain ⟨text, here⟩ := List.head?_eq_some_iff.mp opening
    rw [here] at seam
    rw [quotedText, quotedText, same, here]
    simp only [List.cons_append]
    cases found : readQuoted text with
    | some result =>
        obtain ⟨inner, taken, rest⟩ := result
        obtain ⟨read, split, -, odd⟩ := exists_of_readQuoted found
        rw [readQuoted_append edge found]
        refine ⟨rfl, rfl, '"' :: read, by rw [split]; rfl, ?_, Nat.succ_le_succ (Nat.zero_le _)⟩
        rwa [List.count_cons_self, Nat.even_add_one]
    | none =>
        -- The quotes of the text come in pairs, so one that nothing closes can only be the last of all.
        rcases seam with rfl | ⟨-, paired⟩
        · rw [List.append_nil, found]
          exact trivial
        · rw [List.count_cons_self, Nat.even_add_one] at paired
          exact absurd (even_of_readQuoted_eq_none found) paired
  · have misses : d.rest.head? ≠ some '"' := by
      rw [same]
      cases text : c.rest with
      | nil => exact edge
      | cons x rest => rwa [text] at opening
    have here := misses_quotedText opening c.offset
    have there := misses_quotedText misses d.offset
    rw [here, there]
    exact trivial

/-! ## Repetitions -/

section Repetitions

variable {P : α → α → Prop} {s t : Scan α}

theorem agree_prepend {text rest : List Char} {m : Nat} {a b : α} (related : P a b) (takes : Takes m text rest)
    {o p : Option (List α × Cursor)} (h : Agree tail rest 0 (List.Forall₂ P) o p) :
    Agree tail text m (List.Forall₂ P) (o.map (prepend a)) (p.map (prepend b)) := by
  rcases h.cases with ⟨rfl, rfl⟩ | ⟨as, c, bs, d, rfl, rfl, others, left, later⟩
  · exact trivial
  · exact ⟨.cons related others, left, takes.trans later⟩

theorem agree_further (h : Persists tail n 1 P s t) (c d : Cursor) (fuel other : Nat) (enough : c.rest.length < fuel)
    (enoughToo : c.rest.length < other) (short : c.rest.length ≤ n) (seam : Seam tail c.rest)
    (same : d.rest = c.rest ++ tail) :
    Agree tail c.rest 0 (List.Forall₂ P) (further s fuel c).found (further t other d).found := by
  induction fuel generalizing c d other with
  | zero => exact absurd enough (Nat.not_lt_zero _)
  | succ fuel ih =>
      cases other with
      | zero => exact absurd enoughToo (Nat.not_lt_zero _)
      | succ other =>
          have first : Persists tail n 1 P (gap >>= fun _ => s) (gap >>= fun _ => t) :=
            persists_gap.bind_rest fun _ _ _ => h
          rw [found_further, found_further]
          rcases first.cases short seam same with ⟨hs, ht⟩ | ⟨a, e, b, e', hs, ht, related, rest, takes⟩
          · rw [hs, ht]
            exact ⟨.nil, same, takes_nothing _⟩
          · rw [hs, ht]
            have shorter := takes.length_le
            exact agree_prepend related (takes.weaken (Nat.zero_le 1))
              (ih e e' other (by omega) (by omega) (by omega) (takes.seam seam) rest)

theorem Persists.many (h : Persists tail n 1 P s t) {fuel other : Nat} (enough : n ≤ fuel) (enoughToo : n ≤ other) :
    Persists tail n 0 (List.Forall₂ P) (many fuel s) (many other t) := by
  intro c d short seam same
  rw [found_many, found_many]
  rcases h.cases short seam same with ⟨hs, ht⟩ | ⟨a, e, b, e', hs, ht, related, rest, takes⟩
  · rw [hs, ht]
    exact ⟨.nil, same, takes_nothing _⟩
  · rw [hs, ht]
    have shorter := takes.length_le
    exact agree_prepend related (takes.weaken (Nat.zero_le 1))
      (agree_further h e e' fuel other (by omega) (by omega) (by omega) (takes.seam seam) rest)

end Repetitions

end Scan

/-! ## Entries -/

section Entries

open Scan

variable {tail : List Char} {n : Nat}

/-- Two values have the same text. -/
def SameText (a b : ScalarNode) : Prop :=
  a.text = b.text

/-- Two nodes stand for the same entry. -/
def SameEntry (a b : EntryNode) : Prop :=
  ∀ field, entryOf? field a = entryOf? field b

theorem scalar?_congr {a b : ScalarNode} (same : SameText a b) (field : Field) : scalar? field a = scalar? field b := by
  rw [scalar?, scalar?, same]

theorem persists_scalar : Persists tail n 1 SameText scalar scalar := by
  refine Persists.orElse ?_ ?_
  · exact persists_quotedText.node.bind fun _ _ same => persists_pure same
  · exact (persists_run (by rfl) fun passes => absurd passes (by decide)).node.bind fun _ _ same => persists_pure same

theorem persists_fieldName : Persists tail n 1 (fun a b => a.2 = b.2) fieldName fieldName := by
  have start : Persists tail n 1 Eq (run isNameStart) (run isNameStart) :=
    persists_run (by rfl) fun passes => absurd passes (by decide)
  have part : Persists tail n 1 Eq (run isNamePart) (run isNamePart) :=
    persists_run (by rfl) fun passes => absurd passes (by decide)
  exact (start.ahead.bind_rest fun _ _ _ => part).node

/-- A character other than a quote and a semicolon. -/
theorem persists_sign {c : Char} (plain : c ≠ '"' ∧ c ≠ ';') :
    Persists tail n 1 (fun _ _ => True) (char c) (char c) :=
  persists_char plain.1 fun same => absurd same plain.2

/-- A flag is set on both sides or on none. -/
theorem persists_flag {c : Char} (plain : c ≠ '"' ∧ c ≠ ';') :
    Persists tail n 0 (fun a b => a.isSome = b.isSome) (optional (mark (char c))) (optional (mark (char c))) := by
  refine (persists_sign plain).mark.optional.mono fun a b same => ?_
  cases same <;> rfl

theorem persists_compareOperator : Persists tail n 0 (fun a b => a.2 = b.2) compareOperator compareOperator := by
  refine (persists_oneOf fun s mem => ?_).node
  obtain ⟨op, -, rfl⟩ := List.mem_map.mp mem
  have plain : op.sign.toList.all (fun c => c != '"' && c != ';') = true := by cases op <;> decide
  simp only [List.all_eq_true, Bool.and_eq_true, bne_iff_ne] at plain
  exact (persists_chars plain).bind fun _ _ _ => persists_pure rfl

theorem persists_comparison : Persists tail n 0 SameEntry comparison comparison := by
  refine persists_node_bind (fun a b => a.1.2 = b.1.2 ∧ SameText a.2 b.2) ?_ ?_
  · exact persists_compareOperator.bind fun _ _ operator => persists_gap.bind fun _ _ _ =>
      persists_scalar.bind fun _ _ value => persists_pure ⟨operator, value⟩
  · rintro ⟨_, ⟨_, operator⟩, v⟩ ⟨_, ⟨_, other⟩, w⟩ ⟨rfl, value⟩
    refine persists_pure fun field => ?_
    rw [entryOf?, entryOf?, scalar?_congr value]

theorem persists_singleEntry : Persists tail n 1 SameEntry singleEntry singleEntry := by
  refine persists_node_bind SameText persists_scalar fun _ _ value => persists_pure fun field => ?_
  rw [entryOf?, entryOf?, scalar?_congr value]

theorem persists_excludedEntry : Persists tail n 1 SameEntry excludedEntry excludedEntry := by
  refine persists_node_bind SameText ?_ fun _ _ value => persists_pure fun field => ?_
  · exact (persists_sign (by decide)).bind fun _ _ _ => persists_gap.bind fun _ _ _ => persists_scalar
  · rw [entryOf?, entryOf?, scalar?_congr value]

theorem persists_rangeNode :
    Persists tail n 0 (fun a b => ∀ field, range? field a = range? field b) rangeNode rangeNode := by
  refine persists_node_bind
    (fun a b => a.1.isSome = b.1.isSome ∧ SameText a.2.1 b.2.1 ∧ SameText a.2.2.1 b.2.2.1 ∧
      a.2.2.2.isSome = b.2.2.2.isSome) ?_ ?_
  · exact (persists_flag (by decide)).bind fun _ _ openLower => persists_gap.bind fun _ _ _ =>
      persists_scalar.bind fun _ _ lower => persists_gap.bind fun _ _ _ =>
      (persists_sign (by decide)).bind fun _ _ _ => persists_gap.bind fun _ _ _ =>
      persists_scalar.bind fun _ _ upper => persists_gap.bind fun _ _ _ =>
      (persists_flag (by decide)).bind fun _ _ openUpper => persists_pure ⟨openLower, lower, upper, openUpper⟩
  · rintro ⟨_, openLower, lower, upper, openUpper⟩ ⟨_, openLower', lower', upper', openUpper'⟩ ⟨hl, sl, su, hu⟩
    refine persists_pure fun field => ?_
    have notLower : openLower.isNone = openLower'.isNone := by
      rw [← Option.not_isSome, ← Option.not_isSome, hl]
    have notUpper : openUpper.isNone = openUpper'.isNone := by
      rw [← Option.not_isSome, ← Option.not_isSome, hu]
    simp only [range?, scalar?_congr sl, scalar?_congr su, notLower, notUpper]

theorem persists_excludedRange : Persists tail n 1 SameEntry excludedRange excludedRange := by
  refine persists_node_bind (fun a b => ∀ field, range? field a = range? field b) ?_
    fun _ _ same => persists_pure fun field => ?_
  · exact (persists_sign (by decide)).bind fun _ _ _ => persists_gap.bind fun _ _ _ => persists_rangeNode
  · rw [entryOf?, entryOf?, same field]

theorem persists_matchKind : Persists tail n 1 (fun a b => a.2 = b.2) matchKind matchKind := by
  refine (persists_oneOf fun s mem => ?_).node
  obtain ⟨kind, -, rfl⟩ := List.mem_map.mp mem
  exact (persists_sign (by cases kind <;> decide)).bind fun _ _ _ => persists_pure rfl

theorem persists_matchNode : Persists tail n 1 (fun a b => readMatch a = readMatch b) matchNode matchNode := by
  refine persists_node_bind
    (fun a b => a.1.isSome = b.1.isSome ∧ a.2.1.isSome = b.2.1.isSome ∧ a.2.2.1.2 = b.2.2.1.2 ∧
      SameText a.2.2.2.1 b.2.2.2.1) ?_ ?_
  · exact (persists_sign (by decide)).bind fun _ _ _ => (persists_flag (by decide)).bind fun _ _ ignoresCase =>
      (persists_flag (by decide)).bind fun _ _ negated => persists_matchKind.bind fun _ _ kind =>
      persists_scalar.bind fun _ _ value => (persists_flag (by decide)).bind fun _ _ _ =>
      persists_pure ⟨ignoresCase, negated, kind, value⟩
  · rintro ⟨_, _, _, ⟨_, kind⟩, v, _⟩ ⟨_, _, _, ⟨_, kind'⟩, w, _⟩ ⟨ignoresCase, negated, rfl, value⟩
    refine persists_pure ?_
    rw [readMatch, readMatch, value, negated, ignoresCase]

theorem persists_entry : Persists tail n 0 SameEntry entry entry := by
  refine persists_oneOf ?_
  simp only [List.forall_mem_cons, List.not_mem_nil, false_implies, implies_true, and_true]
  refine ⟨?_, persists_comparison, persists_excludedRange.weaken (Nat.zero_le 1),
    persists_excludedEntry.weaken (Nat.zero_le 1), ?_, persists_singleEntry.weaken (Nat.zero_le 1)⟩
  · refine (persists_matchNode.weaken (Nat.zero_le 1)).map fun a b same field => ?_
    rw [entryOf?, entryOf?, same]
  · refine persists_rangeNode.map fun a b same field => ?_
    rw [entryOf?, entryOf?, same field]

theorem persists_entryList {fuel other : Nat} (enough : n ≤ fuel) (enoughToo : n ≤ other) :
    Persists tail n 0 (fun a b => List.Forall₂ SameEntry a.2 b.2) (entryList fuel) (entryList other) := by
  have next : Persists tail n 1 SameEntry (char ',' >>= fun _ => gap >>= fun _ => entry)
      (char ',' >>= fun _ => gap >>= fun _ => entry) :=
    (persists_sign (by decide)).bind fun _ _ _ => persists_gap.bind fun _ _ _ => persists_entry
  refine Persists.node ?_
  exact persists_entry.bind fun _ _ first => persists_gap.bind fun _ _ _ =>
    (next.many enough enoughToo).bind fun _ _ others => persists_gap.bind fun _ _ _ =>
    (persists_sign (by decide)).optional.bind fun _ _ _ => persists_pure (.cons first others)

end Entries

end Criteria.Query
