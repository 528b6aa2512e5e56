import Criteria.Proofs.Query.Seam

/-!
# Where scans stand

A scan that begins at a place of a text never leaves the text: it gets no further than to the end, and it stands at a
place of the same text when it has found something.  Each way to put scans together has its rule.
-/

namespace Criteria.Query

/-- A cursor stands at a place of a text. -/
structure Cursor.StandsIn (c : Cursor) (text : List Char) : Prop where
  inside : c.offset ≤ text.length
  rest : c.rest = text.drop c.offset

namespace Cursor

variable {c : Cursor} {text : List Char}

theorem standsIn_start (text : List Char) : (Cursor.start text).StandsIn text :=
  ⟨Nat.zero_le _, rfl⟩

theorem StandsIn.eq (stands : c.StandsIn text) : c = ⟨text.drop c.offset, c.offset⟩ := by
  obtain ⟨rest, offset⟩ := c
  exact congrArg (Cursor.mk · offset) stands.rest

theorem StandsIn.advance (stands : c.StandsIn text) (taken : List Char) {rest : List Char}
    (split : c.rest = taken ++ rest) :
    (⟨rest, c.offset + taken.length⟩ : Cursor).StandsIn text := by
  have whole := stands.rest ▸ split
  have length := congrArg List.length whole
  rw [List.length_drop, List.length_append] at length
  have inside := stands.inside
  refine ⟨?_, ?_⟩
  · change c.offset + taken.length ≤ text.length
    omega
  · rw [← List.drop_drop, whole, List.drop_left]

end Cursor

namespace Scan

variable {α β : Type} {text : List Char} {c : Cursor}

/-- From a place of a text a scan gets no further than to the end, and if it finds something it stands behind that in
the same text, and a property holds. -/
def Tracks (text : List Char) (s : Scan α) (c : Cursor) (P : α → Cursor → Prop) : Prop :=
  c.StandsIn text → (s c).reach ≤ text.length ∧
    ∀ a d, (s c).found = some (a, d) → d.StandsIn text ∧ c.offset ≤ d.offset ∧ P a d

theorem Tracks.mono {s : Scan α} {P Q : α → Cursor → Prop} (h : Tracks text s c P)
    (imp : ∀ a d, c.StandsIn text → d.StandsIn text → c.offset ≤ d.offset → (s c).found = some (a, d) → P a d → Q a d) :
    Tracks text s c Q := by
  intro stands
  obtain ⟨reach, founds⟩ := h stands
  refine ⟨reach, fun a d found => ?_⟩
  obtain ⟨there, later, holds⟩ := founds a d found
  exact ⟨there, later, imp a d stands there later found holds⟩

/-- Where nothing is found nothing but the reach counts. -/
theorem reaches_only {reached : Prop} {P : α → Cursor → Prop} (h : reached) :
    reached ∧ ∀ a d, (none : Option (α × Cursor)) = some (a, d) → P a d := by
  refine ⟨h, fun a d found => ?_⟩
  cases found

/-! ## Sequences and choices -/

theorem tracks_pure {a : α} {P : α → Cursor → Prop} (h : P a c) : Tracks text (Pure.pure a) c P := by
  intro stands
  refine ⟨Nat.zero_le _, fun b d found => ?_⟩
  cases found
  exact ⟨stands, le_rfl, h⟩

theorem Tracks.bind {s : Scan α} {next : α → Scan β} {P : α → Cursor → Prop} {Q : β → Cursor → Prop}
    (first : Tracks text s c P) (second : ∀ a d, c.offset ≤ d.offset → P a d → Tracks text (next a) d Q) :
    Tracks text (s >>= next) c Q := by
  intro stands
  obtain ⟨reach, founds⟩ := first stands
  change (Scan.bind s next c).reach ≤ _ ∧ ∀ b e, (Scan.bind s next c).found = some (b, e) → _
  rw [Scan.bind]
  cases outcome : s c with
  | mk far found =>
      rw [outcome] at reach founds
      cases found with
      | none => exact reaches_only reach
      | some found =>
          obtain ⟨there, later, holds⟩ := founds found.1 found.2 rfl
          obtain ⟨reachToo, foundsToo⟩ := second _ _ later holds there
          refine ⟨max_le reach reachToo, fun b e found => ?_⟩
          obtain ⟨stop, last, holdsToo⟩ := foundsToo b e found
          exact ⟨stop, Nat.le_trans later last, holdsToo⟩

theorem Tracks.map {s : Scan α} {f : α → β} {P : α → Cursor → Prop} {Q : β → Cursor → Prop} (h : Tracks text s c P)
    (imp : ∀ a d, P a d → Q (f a) d) : Tracks text (f <$> s) c Q :=
  h.bind fun a d _ holds => tracks_pure (imp a d holds)

theorem tracks_fail (P : α → Cursor → Prop) : Tracks text fail c P :=
  fun _ => reaches_only (Nat.zero_le _)

theorem Tracks.orElse {first second : Scan α} {P : α → Cursor → Prop} (h : Tracks text first c P)
    (g : Tracks text second c P) : Tracks text (orElse first second) c P := by
  intro stands
  obtain ⟨reach, founds⟩ := h stands
  obtain ⟨reachToo, foundsToo⟩ := g stands
  rw [Scan.orElse]
  cases outcome : first c with
  | mk far found =>
      rw [outcome] at reach founds
      cases found with
      | none => exact ⟨max_le reach reachToo, foundsToo⟩
      | some found => exact ⟨reach, founds⟩

theorem tracks_oneOf {scans : List (Scan α)} {P : α → Cursor → Prop} (h : ∀ s ∈ scans, Tracks text s c P) :
    Tracks text (oneOf scans) c P := by
  induction scans with
  | nil => exact tracks_fail P
  | cons s others ih =>
      obtain ⟨first, rest⟩ := List.forall_mem_cons.mp h
      cases others with
      | nil => exact first
      | cons other others => exact first.orElse (ih rest)

theorem Tracks.optional {s : Scan α} {P : α → Cursor → Prop} (h : Tracks text s c P) :
    Tracks text (optional s) c fun r d => ∀ a, r = some a → P a d := by
  intro stands
  obtain ⟨reach, founds⟩ := h stands
  rw [Scan.optional]
  cases outcome : s c with
  | mk far found =>
      rw [outcome] at reach founds
      cases found with
      | none =>
          refine ⟨reach, fun a d found => ?_⟩
          cases found
          refine ⟨stands, le_rfl, fun b none => ?_⟩
          cases none
      | some found =>
          obtain ⟨there, later, holds⟩ := founds found.1 found.2 rfl
          refine ⟨reach, fun a d found => ?_⟩
          cases found
          refine ⟨there, later, fun b same => ?_⟩
          cases same
          exact holds

theorem Tracks.ahead {s : Scan α} {P : α → Cursor → Prop} (h : Tracks text s c P) :
    Tracks text (ahead s) c fun _ d => d = c := by
  intro stands
  obtain ⟨reach, -⟩ := h stands
  rw [Scan.ahead]
  cases outcome : s c with
  | mk far found =>
      rw [outcome] at reach
      cases found with
      | none => exact reaches_only reach
      | some found =>
          refine ⟨reach, fun a d found => ?_⟩
          cases found
          exact ⟨stands, le_rfl, rfl⟩

/-- A part with a name tells where it begins and ends. -/
theorem Tracks.node {s : Scan α} {P : α → Cursor → Prop} (h : Tracks text s c P) :
    Tracks text (node s) c fun r d => r.1 = ⟨c.offset, d.offset⟩ ∧ P r.2 d := by
  intro stands
  obtain ⟨reach, founds⟩ := h stands
  rw [Scan.node]
  cases outcome : s c with
  | mk far found =>
      rw [outcome] at reach founds
      cases found with
      | none => exact reaches_only (max_le reach stands.inside)
      | some found =>
          obtain ⟨there, later, holds⟩ := founds found.1 found.2 rfl
          refine ⟨reach, fun a d found => ?_⟩
          cases found
          exact ⟨there, later, rfl, holds⟩

theorem Tracks.mark {s : Scan Unit} {P : Unit → Cursor → Prop} (h : Tracks text s c P) :
    Tracks text (mark s) c fun _ d => P () d :=
  h.node.bind fun _ _ _ holds => tracks_pure holds.2

/-! ## Characters -/

theorem tracks_one (test : Char → Bool) : Tracks text (one test) c fun _ d => c.offset < d.offset := by
  intro stands
  rw [one]
  cases here : c.rest with
  | nil => exact reaches_only (Nat.zero_le _)
  | cons x rest =>
      dsimp only
      split
      · refine ⟨Nat.zero_le _, fun a d found => ?_⟩
        cases found
        exact ⟨stands.advance [x] here, Nat.le_succ _, Nat.lt_succ_self _⟩
      · exact reaches_only (Nat.zero_le _)

theorem tracks_chars (expected : List Char) : Tracks text (chars expected) c fun _ _ => True := by
  induction expected generalizing c with
  | nil => exact tracks_pure trivial
  | cons x expected ih => exact (tracks_one _).bind fun _ _ _ _ => ih

theorem tracks_notAhead (unexpected : Char) : Tracks text (notAhead unexpected) c fun _ d => d = c := by
  intro stands
  rw [notAhead]
  split
  · exact reaches_only (Nat.zero_le _)
  · refine ⟨Nat.zero_le _, fun a d found => ?_⟩
    cases found
    exact ⟨stands, le_rfl, rfl⟩

theorem tracks_ending : Tracks text ending c fun _ d => d = c := by
  intro stands
  rw [ending]
  split
  · refine ⟨Nat.zero_le _, fun a d found => ?_⟩
    cases found
    exact ⟨stands, le_rfl, rfl⟩
  · exact reaches_only (Nat.zero_le _)

theorem tracks_gap : Tracks text gap c fun _ _ => True := by
  intro stands
  refine ⟨Nat.zero_le _, fun a d found => ?_⟩
  rw [found_gap] at found
  cases found
  exact ⟨stands.advance _ List.takeWhile_append_dropWhile.symm, Nat.le_add_right _ _, trivial⟩

/-- Characters that are read one after another stand where the run began. -/
theorem tracks_run (test : Char → Bool) :
    Tracks text (run test) c fun word d => word <+: c.rest ∧ c.offset < d.offset := by
  intro stands
  have split := List.takeWhile_append_dropWhile (p := test) (l := c.rest)
  rw [run, readWhile_eq]
  cases taken : c.rest.takeWhile test with
  | nil => exact reaches_only (Nat.zero_le _)
  | cons x word =>
      rw [taken] at split
      refine ⟨Nat.zero_le _, fun a d found => ?_⟩
      cases found
      exact ⟨stands.advance _ split.symm, Nat.le_add_right _ _, ⟨_, split⟩, Nat.lt_add_of_pos_right (Nat.succ_pos _)⟩

theorem tracks_quotedText : Tracks text quotedText c fun _ d => c.offset < d.offset := by
  intro stands
  rw [quotedText]
  split
  · rename_i rest here
    cases found : readQuoted rest with
    | none => exact reaches_only (Nat.zero_le _)
    | some result =>
        obtain ⟨inner, taken, left⟩ := result
        obtain ⟨read, split, rfl, -⟩ := exists_of_readQuoted found
        have stop := stands.advance ('"' :: read) (here.trans (congrArg _ split))
        rw [List.length_cons, Nat.add_comm read.length 1, ← Nat.add_assoc] at stop
        have later : c.offset < c.offset + 1 + read.length := by omega
        refine ⟨Nat.zero_le _, fun a d found => ?_⟩
        cases found
        exact ⟨stop, Nat.le_of_lt later, later⟩
  · exact reaches_only (Nat.zero_le _)

/-! ## Repetitions -/

/-- Elements follow one another between two places, each between places of its own. -/
inductive Along (P : Nat → Nat → α → Prop) : Nat → Nat → List α → Prop
  | nil {start stop : Nat} (less : start ≤ stop) : Along P start stop []
  | cons {start first last stop : Nat} {a : α} {as : List α} (less : start ≤ first) (here : P first last a)
      (others : Along P last stop as) : Along P start stop (a :: as)

theorem Along.weaken {P : Nat → Nat → α → Prop} {start other stop : Nat} {as : List α} (h : Along P start stop as)
    (less : other ≤ start) : Along P other stop as := by
  cases h with
  | nil inside => exact .nil (Nat.le_trans less inside)
  | cons inside here others => exact .cons (Nat.le_trans less inside) here others

theorem Tracks.further {s : Scan α} {P : Nat → Nat → α → Prop}
    (h : ∀ c, Tracks text s c fun a d => P c.offset d.offset a) (fuel : Nat) (c : Cursor) :
    Tracks text (further s fuel) c fun as d => Along P c.offset d.offset as := by
  induction fuel generalizing c with
  | zero => exact tracks_pure (.nil le_rfl)
  | succ fuel ih =>
      have step : Tracks text (gap >>= fun _ => s) c fun a d => ∃ first, c.offset ≤ first ∧ P first d.offset a :=
        tracks_gap.bind fun _ e later _ => (h e).mono fun a d _ _ _ _ holds => ⟨e.offset, later, holds⟩
      intro stands
      obtain ⟨reach, founds⟩ := step stands
      change (Scan.bind gap (fun _ => s) c).reach ≤ _ at reach
      change ∀ a d, (Scan.bind gap (fun _ => s) c).found = some (a, d) → _ at founds
      simp only [Scan.further]
      cases outcome : Scan.bind gap (fun _ => s) c with
      | mk far found =>
          rw [outcome] at reach founds
          cases found with
          | none =>
              refine ⟨reach, fun as d found => ?_⟩
              cases found
              exact ⟨stands, le_rfl, .nil le_rfl⟩
          | some found =>
              obtain ⟨there, later, first, less, holds⟩ := founds found.1 found.2 rfl
              obtain ⟨reachToo, others⟩ := ih found.2 there
              refine ⟨max_le reach reachToo, fun as d found => ?_⟩
              obtain ⟨⟨rest, e⟩, more, made⟩ := Option.map_eq_some_iff.mp found
              cases made
              obtain ⟨stop, last, along⟩ := others _ _ more
              exact ⟨stop, Nat.le_trans later last, .cons less holds along⟩

theorem Tracks.many {s : Scan α} {P : Nat → Nat → α → Prop}
    (h : ∀ c, Tracks text s c fun a d => P c.offset d.offset a) (fuel : Nat) (c : Cursor) :
    Tracks text (many fuel s) c fun as d => Along P c.offset d.offset as := by
  intro stands
  obtain ⟨reach, founds⟩ := h c stands
  rw [Scan.many]
  cases outcome : s c with
  | mk far found =>
      rw [outcome] at reach founds
      cases found with
      | none =>
          refine ⟨reach, fun as d found => ?_⟩
          cases found
          exact ⟨stands, le_rfl, .nil le_rfl⟩
      | some found =>
          obtain ⟨there, later, holds⟩ := founds found.1 found.2 rfl
          obtain ⟨reachToo, others⟩ := Tracks.further h fuel found.2 there
          refine ⟨max_le reach reachToo, fun as d found => ?_⟩
          obtain ⟨⟨rest, e⟩, more, made⟩ := Option.map_eq_some_iff.mp found
          cases made
          obtain ⟨stop, last, along⟩ := others _ _ more
          exact ⟨stop, Nat.le_trans later last, .cons le_rfl holds along⟩

/-! ## Scans that move on -/

/-- From wherever it begins a scan stays in the text. -/
def Keeps (text : List Char) (s : Scan α) : Prop :=
  ∀ c, Tracks text s c fun _ _ => True

/-- From wherever it begins a scan stays in the text, and whatever it finds has characters. -/
def Moves (text : List Char) (s : Scan α) : Prop :=
  ∀ c, Tracks text s c fun _ d => c.offset < d.offset

theorem Tracks.keep {s : Scan α} {P : α → Cursor → Prop} (h : Tracks text s c P) :
    Tracks text s c fun _ _ => True :=
  h.mono fun _ _ _ _ _ _ _ => trivial

theorem Moves.keeps {s : Scan α} (h : Moves text s) : Keeps text s :=
  fun c => (h c).keep

theorem keeps_pure (a : α) : Keeps text (Pure.pure a) :=
  fun _ => tracks_pure trivial

theorem keeps_gap : Keeps text gap :=
  fun _ => tracks_gap

theorem moves_char (expected : Char) : Moves text (char expected) :=
  fun _ => tracks_one _

theorem Keeps.bind {s : Scan α} {next : α → Scan β} (first : Keeps text s) (second : ∀ a, Keeps text (next a)) :
    Keeps text (s >>= next) :=
  fun c => (first c).bind fun a d _ _ => second a d

theorem Moves.bind {s : Scan α} {next : α → Scan β} (first : Moves text s) (second : ∀ a, Keeps text (next a)) :
    Moves text (s >>= next) :=
  fun c => (first c).bind fun a d _ here => (second a d).mono fun _ _ _ _ later _ _ => Nat.lt_of_lt_of_le here later

theorem Keeps.bind_moves {s : Scan α} {next : α → Scan β} (first : Keeps text s) (second : ∀ a, Moves text (next a)) :
    Moves text (s >>= next) :=
  fun c => (first c).bind fun a d later _ => (second a d).mono fun _ _ _ _ _ _ here => Nat.lt_of_le_of_lt later here

theorem Keeps.optional {s : Scan α} (h : Keeps text s) : Keeps text (optional s) :=
  fun c => (h c).optional.keep

theorem Moves.mark {s : Scan Unit} (h : Moves text s) : Moves text (mark s) :=
  fun c => (h c).mark

/-- What is found tells where it begins and ends, and it has characters. -/
structure Spans (spanOf : α → Span) (c : Cursor) (a : α) (d : Cursor) : Prop where
  span : spanOf a = ⟨c.offset, d.offset⟩
  moves : c.offset < d.offset

/-- What is made of a part with a name and keeps its stretch tells where it begins and ends. -/
theorem Moves.spanned {s : Scan α} (h : Moves text s) {next : Span × α → Scan β} (spanOf : β → Span)
    (made : ∀ span a, ∃ b, next (span, a) = Pure.pure b ∧ spanOf b = span) (c : Cursor) :
    Tracks text (Scan.node s >>= next) c (Spans spanOf c) := by
  refine (h c).node.bind fun found d _ holds => ?_
  obtain ⟨b, same, span⟩ := made found.1 found.2
  rw [show next found = Pure.pure b from same]
  exact tracks_pure ⟨span.trans holds.1, holds.2⟩

end Scan

end Criteria.Query
