import Criteria.Proofs.Query.Seam

/-!
# Scans up to a semicolon

A scan that may end at the end of a text takes the semicolon that stands there in a longer text, or leaves it.  Finds
that follow one another, with gaps between them, are found in front of the semicolon as they are at the end.
-/

namespace Criteria.Query

open Scan

namespace Scan

variable {α β : Type} {tail : List Char} {n : Nat}

/-! ## What takes the semicolon -/

/-- What is left with the tail: the tail behind what is left without it, or only what stands behind the semicolon, if
nothing is left without it. -/
def Meets (tail left rest : List Char) : Prop :=
  rest = left ++ tail ∨ left = [] ∧ tail = ';' :: rest

/-- What one scan finds in a text of at most so many characters the other finds in the text with the tail, and it may
take the semicolon if the text ends there. -/
def Carries (tail : List Char) (n least : Nat) (R : α → α → Prop) (s t : Scan α) : Prop :=
  ∀ c d : Cursor, c.rest.length ≤ n → Seam tail c.rest → d.rest = c.rest ++ tail →
    ∀ a e, (s c).found = some (a, e) →
      ∃ b u, (t d).found = some (b, u) ∧ R a b ∧ Meets tail e.rest u.rest ∧ Takes least c.rest e.rest

section Rules

variable {m k : Nat} {P : α → α → Prop} {Q : β → β → Prop} {s t : Scan α}

theorem Persists.exists_found (h : Persists tail n m P s t) {c d e : Cursor} {a : α} (short : c.rest.length ≤ n)
    (seam : Seam tail c.rest) (same : d.rest = c.rest ++ tail) (found : (s c).found = some (a, e)) :
    ∃ b u, (t d).found = some (b, u) ∧ P a b ∧ u.rest = e.rest ++ tail ∧ Takes m c.rest e.rest := by
  rcases h.cases short seam same with ⟨nothing, -⟩ | ⟨x, v, b, u, hs, ht, related, rest, takes⟩
  · rw [found] at nothing
    cases nothing
  · rw [found] at hs
    cases hs
    exact ⟨b, u, ht, related, rest, takes⟩

theorem Persists.found_eq_none (h : Persists tail n m P s t) {c d : Cursor} (short : c.rest.length ≤ n)
    (seam : Seam tail c.rest) (same : d.rest = c.rest ++ tail) (nothing : (s c).found = none) :
    (t d).found = none := by
  rcases h.cases short seam same with ⟨-, ht⟩ | ⟨x, v, b, u, hs, -⟩
  · exact ht
  · rw [nothing] at hs
    cases hs

theorem Carries.weaken (h : Carries tail n m P s t) (less : k ≤ m) : Carries tail n k P s t := by
  intro c d short seam same a e found
  obtain ⟨b, u, ht, related, meets, takes⟩ := h c d short seam same a e found
  exact ⟨b, u, ht, related, meets, takes.weaken less⟩

theorem Carries.of_le (h : Carries tail n m P s t) (less : k ≤ n) : Carries tail k m P s t :=
  fun c d short => h c d (Nat.le_trans short less)

theorem Persists.bind_carries_both (first : Persists tail n m P s t) {f g : α → Scan β}
    (second : ∀ a b, P a b → ∀ l, l + m ≤ n → Carries tail l k Q (f a) (g b)) :
    Carries tail n (m + k) Q (s >>= f) (t >>= g) := by
  intro c d short seam same x v found
  rw [found_bind] at found
  obtain ⟨⟨a, e⟩, here, later⟩ := Option.bind_eq_some_iff.mp found
  obtain ⟨b, u, ht, related, rest, takes⟩ := first.exists_found short seam same here
  have shorter := takes.length_le
  obtain ⟨y, w, hg, relatedToo, meets, takesToo⟩ :=
    second a b related e.rest.length (by omega) e u (Nat.le_refl _) (takes.seam seam) rest x v later
  exact ⟨y, w, by rw [found_bind, ht]; exact hg, relatedToo, meets, takes.trans takesToo⟩

theorem Persists.bind_carries (first : Persists tail n m P s t) {f g : α → Scan β}
    (second : ∀ a b, P a b → ∀ l, l + m ≤ n → Carries tail l 0 Q (f a) (g b)) :
    Carries tail n m Q (s >>= f) (t >>= g) :=
  first.bind_carries_both second

theorem Persists.bind_carries_rest (first : Persists tail n m P s t) {f g : α → Scan β}
    (second : ∀ a b, P a b → ∀ l, l + m ≤ n → Carries tail l k Q (f a) (g b)) :
    Carries tail n k Q (s >>= f) (t >>= g) :=
  (first.bind_carries_both second).weaken (Nat.le_add_left k m)

/-- What is found can be made into something else without reading on. -/
theorem Carries.bind_pure (first : Carries tail n m P s t) {f g : α → Scan β}
    (second : ∀ a b, P a b → ∃ x y, f a = Pure.pure x ∧ g b = Pure.pure y ∧ Q x y) :
    Carries tail n m Q (s >>= f) (t >>= g) := by
  intro c d short seam same x v found
  rw [found_bind] at found
  obtain ⟨⟨a, e⟩, here, later⟩ := Option.bind_eq_some_iff.mp found
  obtain ⟨b, u, ht, related, meets, takes⟩ := first c d short seam same a e here
  obtain ⟨x', y, hf, hg, relatedToo⟩ := second a b related
  dsimp only at later
  rw [hf] at later
  cases later
  exact ⟨y, u, by rw [found_bind, ht, Option.bind_some, hg]; rfl, relatedToo, meets, takes⟩

theorem Carries.map (h : Carries tail n m P s t) {f g : α → β} (imp : ∀ a b, P a b → Q (f a) (g b)) :
    Carries tail n m Q (f <$> s) (g <$> t) :=
  h.bind_pure fun a b related => ⟨f a, g b, rfl, rfl, imp a b related⟩

theorem Carries.node (h : Carries tail n m P s t) :
    Carries tail n m (fun a b => P a.2 b.2) (node s) (node t) := by
  intro c d short seam same x v found
  rw [found_node] at found
  obtain ⟨⟨a, e⟩, here, made⟩ := Option.map_eq_some_iff.mp found
  cases made
  obtain ⟨b, u, ht, related, meets, takes⟩ := h c d short seam same a e here
  exact ⟨_, u, by rw [found_node, ht]; rfl, related, meets, takes⟩

/-- A part with a name, and what is made of it. -/
theorem carries_node_bind (P : α → α → Prop) {s t : Scan α} (first : Carries tail n m P s t)
    {f g : Span × α → Scan β}
    (second : ∀ a b, P a.2 b.2 → ∃ x y, f a = Pure.pure x ∧ g b = Pure.pure y ∧ Q x y) :
    Carries tail n m Q (Scan.node s >>= f) (Scan.node t >>= g) :=
  first.node.bind_pure second

end Rules

/-! ## A semicolon, or a look at what follows -/

/-- A scan only looks at the first character that follows, if there is one. -/
def Looks (test : Option Char → Bool) (s : Scan Unit) : Prop :=
  ∀ c : Cursor, (s c).found = if test c.rest.head? then some ((), c) else none

theorem looks_ahead_char (expected : Char) : Looks (· == some expected) (ahead (char expected)) := by
  intro c
  rw [found_ahead, char, one]
  cases text : c.rest with
  | nil => rfl
  | cons x rest =>
      by_cases same : x = expected
      · simp [same]
      · simp [same]

theorem looks_ahead_ending : Looks Option.isNone (ahead (mark ending)) := by
  rintro ⟨text, offset⟩
  cases text <;> rfl

theorem looks_notAhead (unexpected : Char) : Looks (· != some unexpected) (notAhead unexpected) := by
  intro c
  rw [notAhead]
  by_cases same : c.rest.head? = some unexpected
  · simp [same]
  · simp [same]

theorem Looks.orElse {test other : Option Char → Bool} {s t : Scan Unit} (first : Looks test s)
    (second : Looks other t) : Looks (fun head => test head || other head) (orElse s t) := by
  intro c
  rw [found_orElse, first, second]
  cases passes : test c.rest.head? <;> simp [passes]

section Semicolon

variable {test : Option Char → Bool} {s : Scan Unit} (looks : Looks test s)
include looks

theorem carries_semicolon :
    Carries tail n 0 (fun _ _ => True) (orElse (char ';') s) (orElse (char ';') s) := by
  rintro c d short seam same ⟨⟩ e found
  rw [found_orElse, found_char, looks] at found
  have there : (Scan.orElse (char ';') s d).found = _ := found_orElse _ _ d
  rw [found_char, looks, same] at there
  cases text : c.rest with
  | nil =>
      rw [text] at found there
      have ends : test none = true := by
        by_contra fails
        simp [fails] at found
      simp only [List.head?_nil, ends] at found
      cases found
      rcases seam with rfl | ⟨head, -⟩
      · exact ⟨(), d, by simpa [ends] using there, trivial, .inl same, text ▸ takes_nothing _⟩
      · obtain ⟨rest, rfl⟩ := List.head?_eq_some_iff.mp head
        exact ⟨(), _, there, trivial, .inr ⟨text, rfl⟩, text ▸ takes_nothing _⟩
  | cons x rest =>
      rw [text] at found there
      by_cases semicolon : x = ';'
      · subst semicolon
        cases found
        exact ⟨(), _, there, trivial, .inl rfl, [';'], rfl, by decide, Nat.zero_le _⟩
      · have passes : test (some x) = true := by
          by_contra fails
          simp [semicolon, fails] at found
        simp only [List.head?_cons, Option.some.injEq, semicolon, passes] at found
        cases found
        exact ⟨(), d, by simpa [semicolon, passes] using there, trivial, .inl same, text ▸ takes_nothing _⟩

/-- What misses before the end of the text misses with the tail. -/
theorem semicolon_eq_none (ends : test none = true) {c d : Cursor} (same : d.rest = c.rest ++ tail)
    (nothing : (orElse (char ';') s c).found = none) : (orElse (char ';') s d).found = none := by
  rw [found_orElse, found_char, looks] at nothing ⊢
  rw [same]
  cases text : c.rest with
  | nil => simp [text, ends] at nothing
  | cons x rest =>
      obtain ⟨semicolon, fails⟩ : x ≠ ';' ∧ test (some x) = false := by simpa [text] using nothing
      simp [semicolon, fails]

end Semicolon

/-! ## One find after another -/

/-- Finds of a scan that follow one another, with gaps in front of them. -/
inductive Series (s : Scan α) : Cursor → List α → Cursor → Prop
  | nil (c : Cursor) : Series s c [] c
  | cons {c d e : Cursor} {a : α} {as : List α} (first : ((gap >>= fun _ => s) c).found = some (a, d))
      (others : Series s d as e) : Series s c (a :: as) e

namespace Series

variable {s t : Scan α} {c d e : Cursor} {as bs : List α}

theorem append (first : Series s c as d) (second : Series s d bs e) : Series s c (as ++ bs) e := by
  induction first with
  | nil => exact second
  | cons step _ ih => exact .cons step (ih second)

theorem of_further {fuel : Nat} (found : (further s fuel c).found = some (as, e)) : Series s c as e := by
  induction fuel generalizing c as with
  | zero =>
      cases found
      exact .nil _
  | succ fuel ih =>
      rw [found_further] at found
      cases step : ((gap >>= fun _ => s) c).found with
      | none =>
          rw [step] at found
          cases found
          exact .nil _
      | some next =>
          rw [step] at found
          obtain ⟨⟨others, e⟩, later, made⟩ := Option.map_eq_some_iff.mp found
          cases made
          exact .cons step (ih later)

theorem found_further (series : Series s c as e) (stops : ((gap >>= fun _ => s) e).found = none) {fuel : Nat}
    (few : as.length ≤ fuel) : (further s fuel c).found = some (as, e) := by
  induction series generalizing fuel with
  | nil c =>
      cases fuel with
      | zero => rfl
      | succ fuel => rw [Scan.found_further, stops]
  | cons step _ ih =>
      cases fuel with
      | zero => cases few
      | succ fuel =>
          rw [Scan.found_further, step]
          simp only [ih stops (Nat.le_of_succ_le_succ few)]
          rfl

theorem found_gap_bind (solid : Solid c.rest) : ((gap >>= fun _ => s) c).found = (s c).found := by
  rw [found_bind, found_gap_of_solid solid]
  rfl

theorem of_many (solid : Solid c.rest) {fuel : Nat} (found : (many fuel s c).found = some (as, e)) :
    Series s c as e := by
  rw [Scan.found_many, ← found_gap_bind solid, ← Scan.found_further] at found
  exact of_further found

theorem found_many (series : Series s c as e) (solid : Solid c.rest) (stops : ((gap >>= fun _ => s) e).found = none)
    {fuel : Nat} (few : as.length ≤ fuel + 1) : (many fuel s c).found = some (as, e) := by
  rw [Scan.found_many, ← found_gap_bind solid, ← Scan.found_further]
  exact series.found_further stops few

theorem rest_of_gap (blank : (gap c).found = some ((), d)) : d.rest = c.rest.dropWhile isGap := by
  rw [found_gap] at blank
  cases blank
  rfl

theorem solid_of_gap (blank : (gap c).found = some ((), d)) : Solid d.rest :=
  rest_of_gap blank ▸ solid_dropWhile _

/-- Behind the gap a series may begin as well as in front of it. -/
theorem found_gap_bind_of_gap (blank : (gap c).found = some ((), d)) :
    ((gap >>= fun _ => s) c).found = ((gap >>= fun _ => s) d).found := by
  rw [found_gap_bind (solid_of_gap blank), found_bind, blank]
  rfl

theorem dropWhile_of_gap (blank : (gap c).found = some ((), d)) :
    c.rest.dropWhile isGap = d.rest.dropWhile isGap := by
  rw [dropWhile_of_solid (solid_of_gap blank), rest_of_gap blank]

/-- A series goes from one place as it goes from another if its first step does and they differ in a gap at most. -/
theorem transfer (series : Series s c as e) (step : ((gap >>= fun _ => s) c).found = ((gap >>= fun _ => s) d).found)
    (blank : c.rest.dropWhile isGap = d.rest.dropWhile isGap) :
    ∃ stop, Series s d as stop ∧ stop.rest.dropWhile isGap = e.rest.dropWhile isGap := by
  cases series with
  | nil => exact ⟨d, .nil d, blank.symm⟩
  | cons first others => exact ⟨e, .cons (step ▸ first) others, rfl⟩

theorem eq_nil (last : Misses s []) (nothing : c.rest = []) (series : Series s c as e) : as = [] ∧ e = c := by
  cases series with
  | nil => exact ⟨rfl, rfl⟩
  | cons first _ =>
      have stops : Misses (gap >>= fun _ => s) [] := (finds_gap_nothing solid_nil).bind_misses fun _ _ => last
      rw [stops.found_eq_none nothing] at first
      cases first

end Series

/-- A series is carried if its finds are and nothing is found at the end of the text. -/
theorem Carries.series {R : α → α → Prop} {s t : Scan α} (h : Carries tail n 1 R s t) (last : Misses s [])
    {c e : Cursor} {as : List α} (series : Series s c as e) {d : Cursor} (short : c.rest.length ≤ n)
    (seam : Seam tail c.rest) (same : d.rest = c.rest ++ tail) :
    ∃ bs u, Series t d bs u ∧ List.Forall₂ R as bs ∧ Meets tail e.rest u.rest ∧ Takes as.length c.rest e.rest := by
  induction series generalizing d with
  | nil c => exact ⟨[], d, .nil d, .nil, .inl same, takes_nothing _⟩
  | @cons c middle e a as first others ih =>
      have step : Carries tail n 1 R (gap >>= fun _ => s) (gap >>= fun _ => t) :=
        persists_gap.bind_carries_rest fun _ _ _ _ less => h.of_le less
      obtain ⟨b, u, ht, related, meets, takes⟩ := step c d short seam same a middle first
      rcases meets with rest | ⟨nothing, taken⟩
      · have shorter := takes.length_le
        obtain ⟨bs, v, series, all, meets, more⟩ := ih (by omega) (takes.seam seam) rest
        have count : (a :: as).length ≤ 1 + as.length := by
          rw [List.length_cons, Nat.add_comm]
        exact ⟨b :: bs, v, .cons ht series, .cons related all, meets, (takes.trans more).weaken count⟩
      · obtain ⟨rfl, rfl⟩ := others.eq_nil last nothing
        exact ⟨[b], u, .cons ht (.nil u), .cons related .nil, .inr ⟨nothing, taken⟩, takes⟩

end Scan

end Criteria.Query
