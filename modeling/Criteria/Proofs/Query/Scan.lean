import Criteria.Query.Scan
import Mathlib.Data.List.Basic

/-!
# What scans find and miss

A scan finds something in a text and leaves a rest, or misses; how far it got and where it stands do not matter
for that.  Each way to put scans together has its rules.
-/

namespace Criteria.Query.Scan

variable {α β : Type}

/-- A scan finds, at the beginning of a text, something with a property, and leaves a given rest. -/
def Finds (scan : Scan α) (text rest : List Char) (P : α → Prop) : Prop :=
  ∀ offset, ∃ a stop, (scan ⟨text, offset⟩).found = some (a, ⟨rest, stop⟩) ∧ P a

/-- A scan finds nothing at the beginning of a text. -/
def Misses (scan : Scan α) (text : List Char) : Prop :=
  ∀ offset, (scan ⟨text, offset⟩).found = none

theorem Misses.found_eq_none {s : Scan α} {text : List Char} (miss : Misses s text) {c : Cursor}
    (same : c.rest = text) : (s c).found = none := by
  cases c
  cases same
  exact miss _

theorem Finds.exists_found {scan : Scan α} {text rest : List Char} {P : α → Prop} (h : Finds scan text rest P)
    {c : Cursor} (same : c.rest = text) : ∃ a d, (scan c).found = some (a, d) ∧ d.rest = rest ∧ P a := by
  cases c
  cases same
  obtain ⟨a, stop, found, ha⟩ := h _
  exact ⟨a, ⟨rest, stop⟩, found, rfl, ha⟩

theorem Finds.mono {scan : Scan α} {text rest : List Char} {P Q : α → Prop} (h : Finds scan text rest P)
    (imp : ∀ a, P a → Q a) : Finds scan text rest Q := by
  intro offset
  obtain ⟨a, stop, found, ha⟩ := h offset
  exact ⟨a, stop, found, imp a ha⟩

/-! ## Sequences and choices -/

theorem found_bind (scan : Scan α) (next : α → Scan β) (c : Cursor) :
    ((scan >>= next) c).found = (scan c).found.bind fun found => (next found.1 found.2).found := by
  change (Scan.bind scan next c).found = _
  rw [Scan.bind]
  cases scan c with
  | mk reach found => cases found <;> rfl

theorem found_pure (a : α) (c : Cursor) : ((Pure.pure a : Scan α) c).found = some (a, c) :=
  rfl

theorem found_orElse (first second : Scan α) (c : Cursor) :
    (orElse first second c).found = (first c).found.or (second c).found := by
  rw [orElse]
  cases first c with
  | mk reach found => cases found <;> rfl

theorem found_map (f : α → β) (s : Scan α) (c : Cursor) :
    ((f <$> s) c).found = (s c).found.map fun found => (f found.1, found.2) := by
  refine (found_bind s (Pure.pure ∘ f) c).trans ?_
  cases (s c).found <;> rfl

theorem Finds.bind {scan : Scan α} {next : α → Scan β} {text middle rest : List Char} {P : α → Prop}
    {Q : β → Prop} (first : Finds scan text middle P) (second : ∀ a, P a → Finds (next a) middle rest Q) :
    Finds (scan >>= next) text rest Q := by
  intro offset
  obtain ⟨a, stop, found, ha⟩ := first offset
  rw [found_bind, found]
  exact second a ha stop

theorem Misses.bind {scan : Scan α} {next : α → Scan β} {text : List Char} (first : Misses scan text) :
    Misses (scan >>= next) text := by
  intro offset
  rw [found_bind, first]
  rfl

theorem Finds.bind_misses {scan : Scan α} {next : α → Scan β} {text middle : List Char} {P : α → Prop}
    (first : Finds scan text middle P) (second : ∀ a, P a → Misses (next a) middle) :
    Misses (scan >>= next) text := by
  intro offset
  obtain ⟨a, stop, found, ha⟩ := first offset
  rw [found_bind, found]
  exact second a ha stop

theorem finds_pure {a : α} {P : α → Prop} (h : P a) (text : List Char) :
    Finds (Pure.pure a) text text P :=
  fun offset => ⟨a, offset, rfl, h⟩

theorem Finds.map {scan : Scan α} {f : α → β} {text rest : List Char} {P : α → Prop} {Q : β → Prop}
    (h : Finds scan text rest P) (imp : ∀ a, P a → Q (f a)) : Finds (f <$> scan) text rest Q :=
  h.bind fun a ha => finds_pure (imp a ha) rest

theorem Misses.map {scan : Scan α} {f : α → β} {text : List Char} (h : Misses scan text) :
    Misses (f <$> scan) text :=
  h.bind

theorem Finds.orElse {first second : Scan α} {text rest : List Char} {P : α → Prop}
    (h : Finds first text rest P) : Finds (orElse first second) text rest P := by
  intro offset
  obtain ⟨a, stop, found, ha⟩ := h offset
  exact ⟨a, stop, by rw [found_orElse, found]; rfl, ha⟩

theorem Misses.orElse_finds {first second : Scan α} {text rest : List Char} {P : α → Prop}
    (miss : Misses first text) (h : Finds second text rest P) : Finds (Scan.orElse first second) text rest P := by
  intro offset
  obtain ⟨a, stop, found, ha⟩ := h offset
  exact ⟨a, stop, by rw [found_orElse, miss, found]; rfl, ha⟩

theorem Misses.orElse {first second : Scan α} {text : List Char} (miss : Misses first text)
    (missOther : Misses second text) : Misses (Scan.orElse first second) text := by
  intro offset
  rw [found_orElse, miss, missOther]
  rfl

theorem misses_fail (text : List Char) : Misses (fail : Scan α) text :=
  fun _ => rfl

theorem Finds.oneOf {scan : Scan α} (others : List (Scan α)) {text rest : List Char} {P : α → Prop}
    (h : Finds scan text rest P) : Finds (oneOf (scan :: others)) text rest P := by
  cases others with
  | nil => exact h
  | cons other others => exact h.orElse

theorem Misses.oneOf_finds {scan : Scan α} {others : List (Scan α)} {text rest : List Char} {P : α → Prop}
    (miss : Misses scan text) (h : Finds (Scan.oneOf others) text rest P) :
    Finds (Scan.oneOf (scan :: others)) text rest P := by
  cases others with
  | nil =>
      obtain ⟨a, stop, found, -⟩ := h 0
      cases found
  | cons other others => exact miss.orElse_finds h

theorem misses_oneOf {scans : List (Scan α)} {text : List Char} (miss : ∀ scan ∈ scans, Misses scan text) :
    Misses (oneOf scans) text := by
  induction scans with
  | nil => exact misses_fail text
  | cons scan others ih =>
      obtain ⟨first, rest⟩ := List.forall_mem_cons.mp miss
      cases others with
      | nil => exact first
      | cons other others => exact first.orElse (ih rest)

theorem finds_oneOf_map {γ : Type} {scanOf : γ → Scan α} {choices : List γ} {c : γ} {text rest : List Char}
    {P : α → Prop} (mem : c ∈ choices) (h : Finds (scanOf c) text rest P)
    (miss : ∀ other, other ≠ c → Misses (scanOf other) text) :
    Finds (oneOf (choices.map scanOf)) text rest P := by
  induction choices with
  | nil => cases mem
  | cons first others ih =>
      rw [List.map_cons]
      by_cases same : first = c
      · rw [same]
        exact h.oneOf _
      · have later := (List.mem_cons.mp mem).resolve_left (Ne.symm same)
        exact (miss first same).oneOf_finds (ih later)

/-! ## Options, looks ahead and nodes -/

theorem found_optional (s : Scan α) (c : Cursor) :
    (optional s c).found = some (match (s c).found with
      | none => (none, c)
      | some (a, d) => (some a, d)) := by
  rw [optional]
  cases s c with
  | mk reach found => cases found <;> rfl

theorem finds_optional_some {scan : Scan α} {text rest : List Char} {P : α → Prop}
    (h : Finds scan text rest P) : Finds (optional scan) text rest fun r => ∃ a, r = some a ∧ P a := by
  intro offset
  obtain ⟨a, stop, found, ha⟩ := h offset
  refine ⟨some a, stop, ?_, a, rfl, ha⟩
  rw [optional]
  cases outcome : scan ⟨text, offset⟩ with
  | mk reach result =>
      rw [outcome] at found
      cases found
      rfl

theorem finds_optional_none {scan : Scan α} {text : List Char} (miss : Misses scan text) :
    Finds (optional scan) text text fun r => r = none := by
  intro offset
  refine ⟨none, offset, ?_, rfl⟩
  have found := miss offset
  rw [optional]
  cases outcome : scan ⟨text, offset⟩ with
  | mk reach result =>
      rw [outcome] at found
      cases found
      rfl

theorem finds_ahead {scan : Scan α} {text rest : List Char} {P : α → Prop} (h : Finds scan text rest P) :
    Finds (ahead scan) text text fun _ => True := by
  intro offset
  obtain ⟨a, stop, found, -⟩ := h offset
  refine ⟨(), offset, ?_, trivial⟩
  rw [ahead]
  cases outcome : scan ⟨text, offset⟩ with
  | mk reach result =>
      rw [outcome] at found
      cases found
      rfl

theorem misses_ahead {scan : Scan α} {text : List Char} (miss : Misses scan text) :
    Misses (ahead scan) text := by
  intro offset
  have found := miss offset
  rw [ahead]
  cases outcome : scan ⟨text, offset⟩ with
  | mk reach result =>
      rw [outcome] at found
      cases found
      rfl

theorem found_node (scan : Scan α) (c : Cursor) :
    (node scan c).found = (scan c).found.map fun found => ((⟨c.offset, found.2.offset⟩, found.1), found.2) := by
  rw [node]
  cases scan c with
  | mk reach result => cases result <;> rfl

theorem Finds.node {scan : Scan α} {text rest : List Char} {P : α → Prop} (h : Finds scan text rest P) :
    Finds (node scan) text rest fun r => P r.2 := by
  intro offset
  obtain ⟨a, stop, found, ha⟩ := h offset
  exact ⟨_, stop, by rw [found_node, found]; rfl, ha⟩

theorem Finds.node_bind {scan : Scan α} {next : Span × α → Scan β} {text rest : List Char}
    {P : α → Prop} {Q : β → Prop} (first : Finds scan text rest P)
    (second : ∀ span a, P a → Finds (next (span, a)) rest rest Q) :
    Finds (Scan.node scan >>= next) text rest Q :=
  first.node.bind fun found ha => second found.1 found.2 ha

theorem Misses.node {scan : Scan α} {text : List Char} (miss : Misses scan text) :
    Misses (Scan.node scan) text := by
  intro offset
  rw [found_node, miss]
  rfl

theorem found_mark (s : Scan Unit) (c : Cursor) :
    (mark s c).found = (s c).found.map fun found => (⟨c.offset, found.2.offset⟩, found.2) := by
  refine (found_bind (node s) _ c).trans ?_
  rw [found_node]
  cases (s c).found <;> rfl

theorem Finds.mark {scan : Scan Unit} {text rest : List Char} {P : Unit → Prop} (h : Finds scan text rest P) :
    Finds (mark scan) text rest fun _ => True :=
  h.node.bind fun _ _ => finds_pure trivial rest

theorem Misses.mark {scan : Scan Unit} {text : List Char} (miss : Misses scan text) :
    Misses (Scan.mark scan) text :=
  miss.node.bind

/-! ## Characters -/

theorem found_char (expected : Char) (c : Cursor) : (char expected c).found =
    if c.rest.head? = some expected then some ((), ⟨c.rest.tail, c.offset + 1⟩) else none := by
  rw [char, one]
  cases text : c.rest with
  | nil => rfl
  | cons x rest =>
      by_cases same : x = expected
      · simp [same]
      · simp [same]

theorem rest_of_char {expected : Char} {c d : Cursor} (found : (char expected c).found = some ((), d)) :
    c.rest = expected :: d.rest := by
  rw [found_char] at found
  split at found
  · rename_i head
    cases found
    obtain ⟨rest, text⟩ := List.head?_eq_some_iff.mp head
    rw [text]
    rfl
  · cases found

theorem finds_char (c : Char) (rest : List Char) : Finds (char c) (c :: rest) rest fun _ => True := by
  intro offset
  refine ⟨(), offset + 1, ?_, trivial⟩
  rw [char, one]
  simp

theorem misses_char {c : Char} {text : List Char} (other : text.head? ≠ some c) : Misses (char c) text := by
  intro offset
  rw [char, one]
  cases text with
  | nil => rfl
  | cons d rest =>
      have differs : (d == c) = false := beq_eq_false_iff_ne.mpr fun same => other (congrArg some same)
      simp only [differs]
      rfl

theorem finds_chars (cs rest : List Char) : Finds (chars cs) (cs ++ rest) rest fun _ => True := by
  induction cs with
  | nil => exact finds_pure trivial rest
  | cons c cs ih => exact (finds_char c (cs ++ rest)).bind fun _ _ => ih

theorem misses_chars_cons {c : Char} (cs : List Char) {text : List Char} (other : text.head? ≠ some c) :
    Misses (chars (c :: cs)) text :=
  (misses_char other).bind

theorem misses_notAhead (c : Char) (rest : List Char) : Misses (notAhead c) (c :: rest) :=
  fun _ => by rw [notAhead, if_pos (by rfl)]

theorem finds_ending : Finds ending [] [] fun _ => True :=
  fun offset => ⟨(), offset, rfl, trivial⟩

theorem misses_ending (c : Char) (rest : List Char) : Misses ending (c :: rest) :=
  fun _ => rfl

theorem readWhile_eq (test : Char → Bool) (text : List Char) :
    readWhile test text = (text.takeWhile test, text.dropWhile test) := by
  induction text with
  | nil => rfl
  | cons c text ih =>
      rw [readWhile, List.takeWhile_cons, List.dropWhile_cons, ih]
      split <;> rfl

theorem found_gap (c : Cursor) : (gap c).found =
    some ((), ⟨c.rest.dropWhile isGap, c.offset + (c.rest.takeWhile isGap).length⟩) := by
  rw [gap]
  simp only [readWhile_eq]

theorem finds_gap (text : List Char) : Finds gap text (text.dropWhile isGap) fun _ => True := by
  intro offset
  refine ⟨(), offset + (text.takeWhile isGap).length, ?_, trivial⟩
  rw [gap]
  simp only [readWhile_eq]

/-- Nothing that may stand between parts begins a text. -/
def Solid (text : List Char) : Prop :=
  ∀ c, text.head? = some c → isGap c = false

theorem solid_nil : Solid [] := by
  intro c head
  cases head

theorem solid_cons {c : Char} (other : isGap c = false) (text : List Char) : Solid (c :: text) := by
  intro d head
  cases head
  exact other

theorem dropWhile_of_solid {text : List Char} (solid : Solid text) : text.dropWhile isGap = text := by
  cases text with
  | nil => rfl
  | cons c text => exact List.dropWhile_cons_of_neg (by rw [solid c rfl]; exact Bool.false_ne_true)

theorem solid_dropWhile (text : List Char) : Solid (text.dropWhile isGap) := by
  intro c head
  simpa [head] using List.head?_dropWhile_not isGap text

theorem finds_gap_nothing {text : List Char} (solid : Solid text) : Finds gap text text fun _ => True := by
  have found := finds_gap text
  rwa [dropWhile_of_solid solid] at found

theorem found_gap_of_solid {c : Cursor} (solid : Solid c.rest) : (gap c).found = some ((), c) := by
  have nothing : c.rest.takeWhile isGap = [] := by
    rw [← List.length_eq_zero_iff]
    have split := congrArg List.length (List.takeWhile_append_dropWhile (p := isGap) (l := c.rest))
    rw [List.length_append, dropWhile_of_solid solid] at split
    omega
  rw [found_gap, nothing, dropWhile_of_solid solid]
  rfl

theorem finds_gap_blank {text : List Char} (solid : Solid text) :
    Finds gap (' ' :: text) text fun _ => True := by
  have found := finds_gap (' ' :: text)
  rwa [List.dropWhile_cons_of_pos (by rfl), dropWhile_of_solid solid] at found

/-- A run is found exactly if it has characters, all of them pass, and the one behind them does not. -/
theorem found_run_iff {test : Char → Bool} {c d : Cursor} {word : List Char} :
    (run test c).found = some (word, d) ↔
      word ≠ [] ∧ (∀ x ∈ word, test x = true) ∧ (∀ x, d.rest.head? = some x → test x = false) ∧
        c.rest = word ++ d.rest ∧ d.offset = c.offset + word.length := by
  constructor
  · intro found
    have passes := List.all_eq_true.mp (List.all_takeWhile (p := test) (l := c.rest))
    have stops (x : Char) (head : (c.rest.dropWhile test).head? = some x) : test x = false := by
      simpa [head] using List.head?_dropWhile_not test c.rest
    have whole := List.takeWhile_append_dropWhile (p := test) (l := c.rest)
    rw [run, readWhile_eq] at found
    cases taken : c.rest.takeWhile test with
    | nil =>
        rw [taken] at found
        cases found
    | cons first others =>
        rw [taken] at found passes whole
        cases found
        exact ⟨List.cons_ne_nil _ _, passes, stops, whole.symm, rfl⟩
  · rintro ⟨filled, passes, stops, here, stop⟩
    have taken : (word ++ d.rest).takeWhile test = word := by
      rw [List.takeWhile_append_of_pos passes]
      cases behind : d.rest with
      | nil => exact List.append_nil word
      | cons x rest =>
          have no := stops x (by rw [behind]; rfl)
          rw [List.takeWhile_cons_of_neg (by rw [no]; exact Bool.false_ne_true), List.append_nil]
    have left : (word ++ d.rest).dropWhile test = d.rest :=
      List.append_cancel_left ((congrArg (· ++ _) taken.symm).trans List.takeWhile_append_dropWhile)
    rw [run, readWhile_eq, here, taken, left]
    cases word with
    | nil => exact absurd rfl filled
    | cons x word => exact congrArg (fun place => some (x :: word, Cursor.mk d.rest place)) stop.symm

theorem finds_run {test : Char → Bool} {word rest : List Char} (some : word ≠ [])
    (passes : ∀ c ∈ word, test c = true) (stops : ∀ c, rest.head? = Option.some c → test c = false) :
    Finds (run test) (word ++ rest) rest fun found => found = word :=
  fun _ => ⟨word, _, found_run_iff.mpr ⟨some, passes, stops, rfl, rfl⟩, rfl⟩

theorem misses_run {test : Char → Bool} {text : List Char}
    (stops : ∀ c, text.head? = some c → test c = false) : Misses (run test) text := by
  intro offset
  rw [run, readWhile_eq]
  cases text with
  | nil => rfl
  | cons c text =>
      rw [List.takeWhile_cons_of_neg (by rw [stops c rfl]; exact Bool.false_ne_true)]

theorem finds_ahead_run {test : Char → Bool} {c : Char} (passes : test c = true) (rest : List Char) :
    Finds (ahead (run test)) (c :: rest) (c :: rest) fun _ => True := by
  have split := List.takeWhile_append_dropWhile (p := test) (l := c :: rest)
  have some : (c :: rest).takeWhile test ≠ [] := by
    rw [List.takeWhile_cons_of_pos passes]
    exact List.cons_ne_nil _ _
  have stops (d : Char) (head : ((c :: rest).dropWhile test).head? = Option.some d) : test d = false := by
    simpa [head] using List.head?_dropWhile_not test (c :: rest)
  have found := finds_run some (List.all_eq_true.mp List.all_takeWhile) stops
  rw [split] at found
  exact finds_ahead found

/-! ## Repetitions -/

/-- A find in front of further ones. -/
def prepend (a : α) (found : List α × Cursor) : List α × Cursor :=
  (a :: found.1, found.2)

theorem found_further (scan : Scan α) (fuel : Nat) (c : Cursor) :
    (further scan (fuel + 1) c).found =
      match ((gap >>= fun _ => scan) c).found with
      | none => some ([], c)
      | some (a, d) => (further scan fuel d).found.map (prepend a) := by
  change (further scan (fuel + 1) c).found = match (Scan.bind gap (fun _ => scan) c).found with
      | none => some ([], c)
      | some (a, d) => (further scan fuel d).found.map (prepend a)
  simp only [further]
  cases Scan.bind gap (fun _ => scan) c with
  | mk reach result => cases result <;> rfl

theorem found_many (scan : Scan α) (fuel : Nat) (c : Cursor) :
    (many fuel scan c).found =
      match (scan c).found with
      | none => some ([], c)
      | some (a, d) => (further scan fuel d).found.map (prepend a) := by
  rw [many]
  cases scan c with
  | mk reach result => cases result <;> rfl

theorem finds_further_none {scan : Scan α} {text : List Char} (fuel : Nat)
    (miss : Misses (gap >>= fun _ => scan) text) :
    Finds (further scan fuel) text text fun found => found = [] := by
  cases fuel with
  | zero => exact fun offset => ⟨[], offset, rfl, rfl⟩
  | succ fuel => exact fun offset => ⟨[], offset, by rw [found_further, miss], rfl⟩

theorem finds_further_cons {scan : Scan α} {text middle rest : List Char} {fuel : Nat} {P : α → Prop}
    {Q : List α → Prop} (first : Finds (gap >>= fun _ => scan) text middle P)
    (others : Finds (further scan fuel) middle rest Q) :
    Finds (further scan (fuel + 1)) text rest fun found => ∃ a as, found = a :: as ∧ P a ∧ Q as := by
  intro offset
  obtain ⟨a, stop, found, ha⟩ := first offset
  obtain ⟨as, stopOthers, foundOthers, has⟩ := others stop
  refine ⟨a :: as, stopOthers, ?_, a, as, rfl, ha, has⟩
  rw [found_further, found]
  simp only [foundOthers]
  rfl

theorem finds_many_none {scan : Scan α} {text : List Char} (fuel : Nat) (miss : Misses scan text) :
    Finds (many fuel scan) text text fun found => found = [] :=
  fun offset => ⟨[], offset, by rw [found_many, miss], rfl⟩

theorem finds_many_cons {scan : Scan α} {text middle rest : List Char} {fuel : Nat} {P : α → Prop}
    {Q : List α → Prop} (first : Finds scan text middle P)
    (others : Finds (further scan fuel) middle rest Q) :
    Finds (many fuel scan) text rest fun found => ∃ a as, found = a :: as ∧ P a ∧ Q as := by
  intro offset
  obtain ⟨a, stop, found, ha⟩ := first offset
  obtain ⟨as, stopOthers, foundOthers, has⟩ := others stop
  refine ⟨a :: as, stopOthers, ?_, a, as, rfl, ha, has⟩
  rw [found_many, found]
  simp only [foundOthers]
  rfl

/-! ## Whatever is found -/

/-- Whatever a scan finds has a property. -/
def Yields (scan : Scan α) (P : α → Prop) : Prop :=
  ∀ c a d, (scan c).found = some (a, d) → P a

theorem yields_any (scan : Scan α) : Yields scan fun _ => True :=
  fun _ _ _ _ => trivial

theorem yields_pure {a : α} {P : α → Prop} (h : P a) : Yields (Pure.pure a) P := by
  intro c b d found
  cases found
  exact h

theorem Yields.bind {scan : Scan α} {next : α → Scan β} {P : α → Prop} {Q : β → Prop} (first : Yields scan P)
    (second : ∀ a, P a → Yields (next a) Q) : Yields (scan >>= next) Q := by
  intro c b d found
  rw [found_bind] at found
  obtain ⟨⟨a, e⟩, hfirst, hsecond⟩ := Option.bind_eq_some_iff.mp found
  exact second a (first c a e hfirst) e b d hsecond

theorem Yields.map {scan : Scan α} {f : α → β} {P : α → Prop} {Q : β → Prop} (h : Yields scan P)
    (imp : ∀ a, P a → Q (f a)) : Yields (f <$> scan) Q :=
  h.bind fun a ha => yields_pure (imp a ha)

theorem Yields.node {scan : Scan α} {P : α → Prop} (h : Yields scan P) : Yields (node scan) fun r => P r.2 := by
  intro c a d found
  rw [found_node] at found
  obtain ⟨⟨b, e⟩, hfound, same⟩ := Option.map_eq_some_iff.mp found
  cases same
  exact h c b e hfound

theorem Yields.node_bind {scan : Scan α} {next : Span × α → Scan β} {P : α → Prop} {Q : β → Prop}
    (first : Yields scan P) (second : ∀ span a, P a → Yields (next (span, a)) Q) :
    Yields (Scan.node scan >>= next) Q :=
  first.node.bind fun found ha => second found.1 found.2 ha

theorem Yields.orElse {first second : Scan α} {P : α → Prop} (h : Yields first P) (g : Yields second P) :
    Yields (orElse first second) P := by
  intro c a d found
  rw [found_orElse, Option.or_eq_some_iff] at found
  rcases found with found | ⟨-, found⟩
  · exact h c a d found
  · exact g c a d found

theorem yields_oneOf {scans : List (Scan α)} {P : α → Prop} (h : ∀ scan ∈ scans, Yields scan P) :
    Yields (oneOf scans) P := by
  induction scans with
  | nil => exact fun c a d found => nomatch found
  | cons scan others ih =>
      obtain ⟨first, rest⟩ := List.forall_mem_cons.mp h
      cases others with
      | nil => exact first
      | cons other others => exact first.orElse (ih rest)

theorem Yields.further {scan : Scan α} {P : α → Prop} (h : Yields scan P) (fuel : Nat) :
    Yields (further scan fuel) fun found => ∀ a ∈ found, P a := by
  induction fuel with
  | zero => exact yields_pure fun _ mem => absurd mem List.not_mem_nil
  | succ fuel ih =>
      intro c found d eq
      rw [found_further] at eq
      cases outcome : ((gap >>= fun _ => scan) c).found with
      | none =>
          rw [outcome] at eq
          cases eq
          exact fun _ mem => absurd mem List.not_mem_nil
      | some next =>
          rw [outcome] at eq
          obtain ⟨⟨others, e⟩, later, same⟩ := Option.map_eq_some_iff.mp eq
          cases same
          have first := (yields_any gap).bind (fun _ _ => h) c next.1 next.2 outcome
          exact List.forall_mem_cons.mpr ⟨first, ih _ _ _ later⟩

theorem Yields.many {scan : Scan α} {P : α → Prop} (h : Yields scan P) (fuel : Nat) :
    Yields (many fuel scan) fun found => ∀ a ∈ found, P a := by
  intro c found d eq
  rw [found_many] at eq
  cases outcome : (scan c).found with
  | none =>
      rw [outcome] at eq
      cases eq
      exact fun _ mem => absurd mem List.not_mem_nil
  | some next =>
      rw [outcome] at eq
      obtain ⟨⟨others, e⟩, later, same⟩ := Option.map_eq_some_iff.mp eq
      cases same
      exact List.forall_mem_cons.mpr ⟨h c next.1 next.2 outcome, h.further fuel _ _ _ later⟩

theorem found_ahead (scan : Scan α) (c : Cursor) :
    (ahead scan c).found = (scan c).found.map fun _ => ((), c) := by
  rw [ahead]
  cases scan c with
  | mk reach result => cases result <;> rfl

theorem found_run {test : Char → Bool} {c d : Cursor} {word : List Char}
    (found : (run test c).found = some (word, d)) : word = c.rest.takeWhile test ∧ word ≠ [] := by
  rw [run, readWhile_eq] at found
  cases taken : c.rest.takeWhile test with
  | nil =>
      rw [taken] at found
      cases found
  | cons first others =>
      rw [taken] at found
      cases found
      exact ⟨rfl, List.cons_ne_nil _ _⟩

end Criteria.Query.Scan
